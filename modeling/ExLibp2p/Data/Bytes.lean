import Mathlib.Algebra.Group.Nat.Defs
import Mathlib.Data.List.Basic

namespace ExLibp2p.Data

universe u v

/-! Big-endian numbers of a fixed width. -/

abbrev Bytes := List UInt8

/-- The low `width` bytes of a number, the most significant byte first. -/
def beBytes : Nat → Nat → Bytes
  | 0, _ => []
  | width + 1, value =>
      UInt8.ofNat (value / 256 ^ width) :: beBytes width value

def beValue : Bytes → Nat
  | [] => 0
  | byte :: rest => byte.toNat * 256 ^ rest.length + beValue rest

@[simp] theorem length_beBytes (width value : Nat) :
    (beBytes width value).length = width := by
  induction width with
  | zero => rfl
  | succ width induction => rw [beBytes, List.length_cons, induction]

theorem beValue_lt (bytes : Bytes) : beValue bytes < 256 ^ bytes.length := by
  induction bytes with
  | nil => simp [beValue]
  | cons byte rest induction =>
      have digit : byte.toNat + 1 ≤ 256 := byte.toNat_lt
      calc
        beValue (byte :: rest)
            < byte.toNat * 256 ^ rest.length + 256 ^ rest.length :=
          Nat.add_lt_add_left induction _
        _ = (byte.toNat + 1) * 256 ^ rest.length := by rw [Nat.succ_mul]
        _ ≤ 256 * 256 ^ rest.length := Nat.mul_le_mul_right _ digit
        _ = 256 ^ (byte :: rest).length := by
          rw [List.length_cons, Nat.pow_succ, Nat.mul_comm]

theorem le_beValue_cons {byte : UInt8} {rest : Bytes} (digit width : Nat)
    (first : digit ≤ byte.toNat) (length : width ≤ rest.length) :
    digit * 256 ^ width ≤ beValue (byte :: rest) := by
  have power : 256 ^ width ≤ 256 ^ rest.length :=
    Nat.pow_le_pow_right (by decide) length
  calc
    digit * 256 ^ width ≤ byte.toNat * 256 ^ rest.length :=
      Nat.mul_le_mul first power
    _ ≤ beValue (byte :: rest) := Nat.le_add_right _ _

theorem beValue_cons_lt {byte : UInt8} {rest : Bytes} (digit width : Nat)
    (first : byte.toNat < digit) (length : rest.length ≤ width) :
    beValue (byte :: rest) < digit * 256 ^ width := by
  have power : 256 ^ rest.length ≤ 256 ^ width :=
    Nat.pow_le_pow_right (by decide) length
  calc
    beValue (byte :: rest)
        < byte.toNat * 256 ^ rest.length + 256 ^ rest.length :=
      Nat.add_lt_add_left (beValue_lt rest) _
    _ = (byte.toNat + 1) * 256 ^ rest.length := by rw [Nat.succ_mul]
    _ ≤ digit * 256 ^ width := Nat.mul_le_mul first power

/-- Writing a number and reading it back truncates it to the width. -/
theorem beValue_beBytes (width value : Nat) :
    beValue (beBytes width value) = value % 256 ^ width := by
  induction width with
  | zero => simp [beBytes, beValue, Nat.mod_one]
  | succ width induction =>
      have digit : (UInt8.ofNat (value / 256 ^ width)).toNat =
          value / 256 ^ width % 256 := by simp
      rw [beBytes, beValue, induction, length_beBytes, digit, Nat.pow_succ,
        Nat.mod_mul, Nat.mul_comm, Nat.add_comm]

theorem beValue_injective {first second : Bytes}
    (length : first.length = second.length)
    (value : beValue first = beValue second) : first = second := by
  induction first generalizing second with
  | nil => exact (List.length_eq_zero_iff.mp length.symm).symm
  | cons byte rest induction =>
      cases second with
      | nil => contradiction
      | cons other others =>
          have tail : rest.length = others.length := Nat.succ.inj length
          simp only [beValue, tail] at value
          have firstBound := beValue_lt rest
          have secondBound := beValue_lt others
          rw [tail] at firstBound
          have positive : 0 < 256 ^ others.length := Nat.pow_pos (by decide)
          have heads : byte.toNat = other.toNat := by
            have divided := congrArg (· / 256 ^ others.length) value
            simpa [Nat.mul_comm, Nat.mul_add_div positive,
              Nat.div_eq_of_lt firstBound,
              Nat.div_eq_of_lt secondBound] using divided
          rw [heads] at value
          rw [UInt8.toNat_inj.mp heads, induction tail (Nat.add_left_cancel value)]

theorem beBytes_beValue (bytes : Bytes) :
    beBytes bytes.length (beValue bytes) = bytes := by
  apply beValue_injective (length_beBytes _ _)
  rw [beValue_beBytes, Nat.mod_eq_of_lt (beValue_lt bytes)]

inductive Repeated {Value : Type u} (Phrase : Bytes → Value → Prop) :
    Bytes → List Value → Prop
  | nil : Repeated Phrase [] []
  | cons {first rest : Bytes} {value : Value} {values : List Value}
      (head : Phrase first value) (tail : Repeated Phrase rest values) :
      Repeated Phrase (first ++ rest) (value :: values)

theorem Repeated.iff_flatMap {Value : Type u} {Phrase : Bytes → Value → Prop}
    {phrase : Value → Bytes} {Valid : Value → Prop}
    (determined : ∀ bytes value,
      Phrase bytes value ↔ Valid value ∧ phrase value = bytes)
    (bytes : Bytes) (values : List Value) :
    Repeated Phrase bytes values ↔
      (∀ value ∈ values, Valid value) ∧ values.flatMap phrase = bytes := by
  constructor
  · intro repeated
    induction repeated with
    | nil => simp
    | cons head tail induction =>
        obtain ⟨valid, rfl⟩ := (determined _ _).mp head
        obtain ⟨validRest, rfl⟩ := induction
        simpa [valid] using validRest
  · intro both
    obtain ⟨valid, rfl⟩ := both
    induction values with
    | nil => exact .nil
    | cons value values induction =>
        rw [List.flatMap_cons]
        refine .cons ((determined _ _).mpr ⟨valid value ?_, rfl⟩)
          (induction fun other member => valid other ?_)
        · exact List.mem_cons_self
        · exact List.mem_cons_of_mem value member

theorem bind_eq_ok {Error : Type u} {First Second : Type v}
    {computation : Except Error First} {next : First → Except Error Second}
    {result : Second} :
    (computation >>= next) = .ok result ↔
      ∃ value, computation = .ok value ∧ next value = .ok result := by
  cases computation with
  | error error =>
      constructor
      · intro impossible
        cases impossible
      · intro found
        obtain ⟨value, impossible, -⟩ := found
        cases impossible
  | ok value =>
      constructor
      · intro equation
        exact ⟨value, rfl, equation⟩
      · intro found
        obtain ⟨other, same, equation⟩ := found
        cases same
        exact equation

end ExLibp2p.Data
