import Mathlib.Data.List.Basic

namespace ExLibp2p.Data

universe u

/-! Texts cut at a separator without the empty pieces, and the elements of a
list at even places. -/

variable {Symbol : Type u} [BEq Symbol] [LawfulBEq Symbol] {separator : Symbol}

def segments (separator : Symbol) (text : List Symbol) : List (List Symbol) :=
  (text.splitOn separator).filter fun piece => !piece.isEmpty

theorem segments_append_cons (first second : List Symbol) :
    segments separator (first ++ separator :: second) =
      segments separator first ++ segments separator second := by
  rw [segments, List.splitOn_append_cons_self, List.filter_append]
  rfl

theorem segments_of_notMem {piece : List Symbol} (nonempty : piece ≠ [])
    (unseparated : separator ∉ piece) :
    segments separator piece = [piece] := by
  rw [segments, List.splitOn_eq_singleton unseparated, List.filter_singleton]
  cases piece with
  | nil => contradiction
  | cons symbol rest => rfl

omit [BEq Symbol] [LawfulBEq Symbol]

def everyOther : List Symbol → List Symbol
  | [] => []
  | [only] => [only]
  | first :: _ :: rest => first :: everyOther rest

theorem mem_everyOther {symbols : List Symbol} {symbol : Symbol} :
    symbol ∈ everyOther symbols ↔
      ∃ place, symbols[2 * place]? = some symbol := by
  induction symbols using everyOther.induct with
  | case1 => simp [everyOther]
  | case2 only =>
      rw [everyOther, List.mem_singleton]
      constructor
      · rintro rfl
        exact ⟨0, rfl⟩
      · intro found
        obtain ⟨place, at_place⟩ := found
        cases place with
        | zero => exact (Option.some.inj at_place).symm
        | succ place => simp [Nat.mul_succ] at at_place
  | case3 first skipped rest induction =>
      rw [everyOther, List.mem_cons, induction]
      constructor
      · intro found
        rcases found with rfl | ⟨place, at_place⟩
        · exact ⟨0, rfl⟩
        · exact ⟨place + 1, at_place⟩
      · intro found
        obtain ⟨place, at_place⟩ := found
        cases place with
        | zero => exact .inl (Option.some.inj at_place).symm
        | succ place => exact .inr ⟨place, at_place⟩

end ExLibp2p.Data
