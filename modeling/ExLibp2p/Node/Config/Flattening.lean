import ExLibp2p.Node.Config

namespace ExLibp2p.Node

open ExLibp2p.Data
open ExLibp2p.Erlang

namespace Keyword

theorem findKey_perm {key : String} {values others rest moved : List String}
    (found : findKey key values others = some (rest, moved)) :
    (values ++ others).Perm (key :: (rest ++ moved)) := by
  induction values generalizing others with
  | nil => cases found
  | cons head tail induction =>
      rw [findKey] at found
      split at found
      · rename_i same
        cases found
        rw [same]
        exact .refl _
      · exact (List.perm_middle.symm).trans (induction found)

theorem findKey_eq_none {key : String} {values others : List String} :
    findKey key values others = none ↔ key ∉ values := by
  induction values generalizing others with
  | nil => simp [findKey]
  | cons head tail induction =>
      rw [findKey]
      by_cases same : key = head
      · simp [same]
      · simp [same, induction]

theorem badKeys_eq_nil {opts : Keywords} {values others bad : List String}
    (distinct : (values ++ others).Nodup) :
    badKeys opts values others bad = [] ↔
      bad = [] ∧ (opts.map Prod.fst).Nodup ∧
        ∀ key ∈ opts.map Prod.fst, key ∈ values ++ others := by
  induction opts generalizing values others bad with
  | nil => simp [badKeys]
  | cons entry rest induction =>
      obtain ⟨key, value⟩ := entry
      rw [List.map_cons, List.nodup_cons, List.forall_mem_cons]
      have taken : ∀ {kept moved}, (values ++ others).Perm (key :: (kept ++ moved)) →
          (badKeys rest kept moved bad = [] ↔ bad = [] ∧
            (key ∉ rest.map Prod.fst ∧ (rest.map Prod.fst).Nodup) ∧
            key ∈ values ++ others ∧
            ∀ other ∈ rest.map Prod.fst, other ∈ values ++ others) := by
        intro kept moved same
        obtain ⟨fresh, restDistinct⟩ :=
          List.nodup_cons.mp (same.nodup_iff.mp distinct)
        rw [induction restDistinct]
        simp only [same.mem_iff, List.mem_cons, true_or, true_and]
        constructor
        · intro accepted
          obtain ⟨clean, nodup, free⟩ := accepted
          refine ⟨clean, ⟨?_, nodup⟩, fun other member => .inr (free other member)⟩
          intro again
          exact fresh (free key again)
        · intro accepted
          obtain ⟨clean, ⟨once, nodup⟩, free⟩ := accepted
          refine ⟨clean, nodup, ?_⟩
          intro other member
          obtain equal | member := free other member
          · exact absurd (equal ▸ member) once
          · exact member
      cases first : findKey key values others with
      | some halves =>
          rw [badKeys, first]
          exact taken (findKey_perm first)
      | none =>
          cases second : findKey key others values with
          | some halves =>
              rw [badKeys, first, second]
              exact taken (List.perm_append_comm.trans (findKey_perm second))
          | none =>
              rw [badKeys, first, second]
              have unknown : key ∉ values ++ others := by
                rw [List.mem_append, not_or]
                exact ⟨findKey_eq_none.mp first, findKey_eq_none.mp second⟩
              simp only [induction distinct, unknown]
              simp

theorem validate!_eq_ok {opts : Keywords} {keys : List String}
    (distinct : keys.Nodup) :
    validate! opts keys = .ok () ↔
      (opts.map Prod.fst).Nodup ∧ ∀ key ∈ opts.map Prod.fst, key ∈ keys := by
  have accepted : validate! opts keys = .ok () ↔ badKeys opts keys [] [] = [] := by
    rw [validate!]
    cases badKeys opts keys [] [] with
    | nil => simp
    | cons bad rest => simp
  rw [accepted, badKeys_eq_nil (by simpa using distinct)]
  simp

end Keyword

namespace Struct

theorem lookup_put (struct : Struct) (entry : String × Term) (field : String) :
    (struct.put entry).lookup field =
      (struct.lookup field).map fun value =>
        if field = entry.1 then entry.2 else value := by
  induction struct with
  | nil => rfl
  | cons head tail induction =>
      rw [put, List.map_cons, lookup_cons_ite, lookup_cons_ite]
      by_cases same : head.1 = entry.1
      · rw [if_pos same]
        by_cases here : field = entry.1
        · simp [here, same]
        · rw [if_neg here, if_neg (same ▸ here)]
          exact induction
      · rw [if_neg same]
        by_cases here : field = head.1
        · simp [here, same]
        · rw [if_neg here, if_neg here]
          exact induction

theorem lookup_build {fields : Keywords}
    (distinct : (fields.map Prod.fst).Nodup) (defaults : Struct)
    (field : String) :
    (build defaults fields).lookup field =
      (defaults.lookup field).map fun default =>
        (fields.lookup field).getD default := by
  induction fields generalizing defaults with
  | nil => simp [build]
  | cons entry rest induction =>
      obtain ⟨fresh, restDistinct⟩ := List.nodup_cons.mp distinct
      change (build (defaults.put entry) rest).lookup field = _
      rw [induction restDistinct, lookup_put, Option.map_map, lookup_cons_ite]
      by_cases here : field = entry.1
      · have absent : rest.lookup field = none := by
          rw [List.lookup_eq_none_iff]
          intro other member
          rw [bne_iff_ne]
          intro same
          exact fresh (here ▸ same ▸ List.mem_map_of_mem member)
        rw [if_pos here, absent]
        simp [here, Function.comp_def]
      · simp [here, Function.comp_def]

end Struct

namespace Config

theorem lookup_take {opts : Keywords} {keys : List String} {key : String}
    (known : key ∈ keys) : (Keyword.take opts keys).lookup key = opts.lookup key := by
  have kept := lookup_filter (fun key => decide (key ∈ keys)) opts key
  rw [decide_eq_true known, if_pos rfl] at kept
  exact kept

theorem keys_take_nodup {opts : Keywords} (keys : List String)
    (distinct : (opts.map Prod.fst).Nodup) :
    ((Keyword.take opts keys).map Prod.fst).Nodup :=
  distinct.sublist (List.filter_sublist.map _)

theorem takeWithRenames_eq (opts : Keywords)
    (renameMap : List (String × String)) :
    takeWithRenames opts renameMap =
      (renameMap.filterMap fun rename =>
        (opts.lookup rename.1).map fun value => (rename.2, value)).reverse := by
  rw [takeWithRenames, ← List.append_nil (List.reverse _)]
  generalize ([] : Keywords) = acc
  induction renameMap generalizing acc with
  | nil => simp
  | cons rename rest induction =>
      rw [List.foldl_cons, induction]
      cases found : opts.lookup rename.1 with
      | none => simp [found]
      | some value => simp [found]

theorem keys_takeWithRenames_nodup (opts : Keywords)
    {renameMap : List (String × String)}
    (distinct : (renameMap.map Prod.snd).Nodup) :
    ((takeWithRenames opts renameMap).map Prod.fst).Nodup := by
  rw [takeWithRenames_eq, List.map_reverse, List.nodup_reverse]
  refine List.Nodup.sublist ?_ distinct
  clear distinct
  induction renameMap with
  | nil => exact .slnil
  | cons rename rest later =>
      cases found : opts.lookup rename.1 with
      | none => simpa [found] using later.cons _
      | some value => simpa [found] using later

theorem lookup_takeWithRenames {opts : Keywords}
    {renameMap : List (String × String)}
    (distinct : (renameMap.map Prod.snd).Nodup) {option field : String}
    (renamed : (option, field) ∈ renameMap) :
    (takeWithRenames opts renameMap).lookup field = opts.lookup option := by
  have keys := keys_takeWithRenames_nodup opts distinct
  have mem_iff : ∀ value, (field, value) ∈ takeWithRenames opts renameMap ↔
      opts.lookup option = some value := by
    intro value
    simp only [takeWithRenames_eq, List.mem_reverse, List.mem_filterMap,
      Option.map_eq_some_iff, Prod.mk.injEq]
    constructor
    · intro found
      obtain ⟨rename, member, value, given, same, rfl⟩ := found
      have equal := List.inj_on_of_nodup_map distinct member renamed same
      rw [equal] at given
      exact given
    · intro given
      exact ⟨_, renamed, value, given, rfl, rfl⟩
  apply Option.ext
  intro value
  rw [← mem_iff]
  exact ⟨mem_of_lookup, lookup_of_mem keys⟩

end Config

end ExLibp2p.Node
