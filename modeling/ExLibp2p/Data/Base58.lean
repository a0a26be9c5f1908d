import Mathlib.Data.Nat.Digits.Lemmas
import ExLibp2p.Data.Bytes

namespace ExLibp2p.Data

/-! Base58 texts with the Bitcoin alphabet, and unsigned varints. -/

def base58Alphabet : Bytes :=
  "123456789ABCDEFGHJKLMNPQRSTUVWXYZabcdefghijkmnopqrstuvwxyz".toUTF8.data.toList

def base58Digit (digit : Nat) : UInt8 :=
  base58Alphabet.getD digit 0

/-- One `1` for each leading zero byte, then the digits of the number that
the bytes denote, the most significant first. -/
def base58 (bytes : Bytes) : Bytes :=
  (bytes.takeWhile (· == 0)).map (fun _ => base58Digit 0) ++
    (Nat.digits 58 (beValue bytes)).reverse.map base58Digit

def uvarint (value : Nat) : Bytes :=
  if value < 128 then
    [UInt8.ofNat value]
  else
    UInt8.ofNat (value % 128 + 128) :: uvarint (value / 128)
termination_by value

theorem uvarint_of_lt {value : Nat} (small : value < 128) :
    uvarint value = [UInt8.ofNat value] := by
  rw [uvarint, if_pos small]

theorem length_uvarint_pos (value : Nat) : 0 < (uvarint value).length := by
  rw [uvarint]
  split
  · exact Nat.zero_lt_one
  · exact Nat.succ_pos _

theorem base58Digit_mem {digit : Nat} (small : digit < 58) :
    base58Digit digit ∈ base58Alphabet := by
  have size : base58Alphabet.length = 58 := by decide
  have inside : digit < base58Alphabet.length := by
    rw [size]
    exact small
  rw [base58Digit, List.getD_eq_getElem?_getD,
    List.getElem?_eq_getElem inside, Option.getD_some]
  exact List.getElem_mem inside

theorem mem_base58 {bytes : Bytes} {char : UInt8} (member : char ∈ base58 bytes) :
    char ∈ base58Alphabet := by
  simp only [base58, List.mem_append, List.mem_map, List.mem_reverse] at member
  rcases member with ⟨byte, -, rfl⟩ | ⟨digit, isDigit, rfl⟩
  · exact base58Digit_mem (by decide)
  · exact base58Digit_mem (Nat.digits_lt_base (by decide) isDigit)

theorem length_base58 (bytes : Bytes) :
    (base58 bytes).length =
      (bytes.takeWhile (· == 0)).length +
        (Nat.digits 58 (beValue bytes)).length := by
  simp [base58]

theorem length_base58_gt {bytes : Bytes} {count : Nat}
    (large : 58 ^ count ≤ beValue bytes) : count < (base58 bytes).length := by
  have digits := (Nat.lt_digits_length_iff (by decide) _).mpr large
  rw [length_base58]
  omega

theorem length_base58_le {bytes : Bytes} (zeros count : Nat)
    (leading : (bytes.takeWhile (· == 0)).length ≤ zeros)
    (small : beValue bytes < 58 ^ count) :
    (base58 bytes).length ≤ zeros + count := by
  have digits := (Nat.digits_length_le_iff (by decide) _).mpr small
  rw [length_base58]
  omega

end ExLibp2p.Data
