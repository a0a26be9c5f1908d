import Mathlib.Data.List.Nodup
import Mathlib.Data.List.Range

namespace ExLibp2p.Data

/-! Identifiers made of a fixed text and a decimal number. -/

theorem append_toString_injective (text : String) {first second : Nat}
    (same : text ++ toString first = text ++ toString second) :
    first = second := by
  have digits : toString first = toString second :=
    (String.append_right_inj text).mp same
  have chars : Nat.toDigits 10 first = Nat.toDigits 10 second := by
    rw [← Nat.toList_repr, ← Nat.toList_repr]
    exact congrArg String.toList digits
  rw [← @Nat.ofDigitChars_ten_toDigits first, chars,
    Nat.ofDigitChars_ten_toDigits]

/-- The identifiers of the numbers from one on, in their order. -/
def labels (text : String) (count : Nat) : List String :=
  (List.range count).map fun index => text ++ toString (index + 1)

theorem mem_labels {text : String} {count : Nat} {id : String} :
    id ∈ labels text count ↔
      ∃ number, 1 ≤ number ∧ number ≤ count ∧ id = text ++ toString number := by
  simp only [labels, List.mem_map, List.mem_range]
  constructor
  · intro found
    obtain ⟨index, small, rfl⟩ := found
    exact ⟨index + 1, Nat.succ_pos index, small, rfl⟩
  · intro found
    obtain ⟨number, positive, small, rfl⟩ := found
    refine ⟨number - 1, by omega, ?_⟩
    rw [Nat.sub_add_cancel positive]

theorem labels_nodup (text : String) (count : Nat) :
    (labels text count).Nodup := by
  apply List.nodup_range.map
  intro first second same
  exact Nat.succ.inj (append_toString_injective text same)

theorem labels_succ (text : String) (count : Nat) :
    labels text (count + 1) =
      labels text count ++ [text ++ toString (count + 1)] := by
  rw [labels, List.range_succ, List.map_append]
  rfl

theorem mem_labels_mono {text : String} {count larger : Nat} {id : String}
    (grows : count ≤ larger) (member : id ∈ labels text count) :
    id ∈ labels text larger := by
  obtain ⟨number, positive, small, rfl⟩ := mem_labels.mp member
  exact mem_labels.mpr ⟨number, positive, small.trans grows, rfl⟩

theorem next_notMem_labels (text : String) (count : Nat) :
    text ++ toString (count + 1) ∉ labels text count := by
  intro member
  obtain ⟨number, -, small, same⟩ := mem_labels.mp member
  have equal := append_toString_injective text same
  omega

end ExLibp2p.Data
