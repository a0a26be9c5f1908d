import ExLibp2p.Data.Dict

namespace ExLibp2p.Data

universe u v

/-! The items of a list by their keys, each group in the order of the list. -/

variable {Item : Type u} {Key : Type v} [DecidableEq Key] {key : Item → Key}

def groupBy (key : Item → Key) (items : List Item) : Dict Key (List Item) :=
  items.foldr (fun item groups =>
    Dict.update groups (key item) [item] (item :: ·)) ∅

theorem lookup_groupBy (items : List Item) (group : Key) :
    (groupBy key items).lookup group =
      if items.filter (key · = group) = [] then none
      else some (items.filter (key · = group)) := by
  induction items with
  | nil => rfl
  | cons item items induction =>
      change (Dict.update (groupBy key items) (key item) [item]
        (item :: ·)).lookup group = _
      rw [Dict.lookup_update]
      by_cases isKey : group = key item
      · subst isKey
        rw [if_pos rfl, induction, List.filter_cons_of_pos (by simp)]
        by_cases empty : items.filter (key · = key item) = []
        · rw [if_pos empty, empty]
          rfl
        · rw [if_neg empty]
          rfl
      · rw [if_neg isKey, induction, List.filter_cons_of_neg
          (by simpa using Ne.symm isKey)]

theorem lookup_groupBy_eq_some {items members : List Item} {group : Key} :
    (groupBy key items).lookup group = some members ↔
      members ≠ [] ∧ members = items.filter (key · = group) := by
  rw [lookup_groupBy]
  split
  · rename_i empty
    rw [empty]
    apply iff_of_false
    · intro impossible
      cases impossible
    · intro both
      exact both.1 both.2
  · rename_i full
    constructor
    · intro same
      cases same
      exact ⟨full, rfl⟩
    · intro both
      rw [both.2]

end ExLibp2p.Data
