import Mathlib.Data.List.Nodup

namespace ExLibp2p.Data

universe u v

/-! Lists of pairs searched by their first component. -/

variable {Key : Type u} {Value : Type v}

theorem value_unique {entries : List (Key × Value)}
    (distinct : (entries.map Prod.fst).Nodup) {key : Key} {first second : Value}
    (firstMember : (key, first) ∈ entries)
    (secondMember : (key, second) ∈ entries) : first = second := by
  have equal := List.inj_on_of_nodup_map distinct firstMember secondMember rfl
  exact congrArg Prod.snd equal

variable [DecidableEq Key]

def keymember (key : Key) (entries : List (Key × Value)) : Bool :=
  entries.any fun entry => entry.1 = key

def keyfind (key : Key) (entries : List (Key × Value)) : Option (Key × Value) :=
  entries.find? fun entry => entry.1 = key

def keydelete (key : Key) (entries : List (Key × Value)) : List (Key × Value) :=
  entries.eraseP fun entry => entry.1 = key

@[simp] theorem keymember_eq_true {key : Key} {entries : List (Key × Value)} :
    keymember key entries = true ↔ ∃ value, (key, value) ∈ entries := by
  simp [keymember]

theorem keymember_eq_false {key : Key} {entries : List (Key × Value)} :
    keymember key entries = false ↔ ∀ value, (key, value) ∉ entries := by
  rw [← Bool.not_eq_true, keymember_eq_true, not_exists]

theorem keyfind_eq_some {key found : Key} {value : Value}
    {entries : List (Key × Value)}
    (equation : keyfind key entries = some (found, value)) :
    found = key ∧ (key, value) ∈ entries := by
  have same : found = key := by
    simpa using List.find?_some equation
  subst found
  exact ⟨rfl, List.mem_of_find?_eq_some equation⟩

theorem keyfind_eq_none {key : Key} {entries : List (Key × Value)} :
    keyfind key entries = none ↔ ∀ value, (key, value) ∉ entries := by
  simp only [keyfind, List.find?_eq_none, decide_eq_true_eq, Prod.forall]
  constructor
  · intro absent value member
    exact absent key value member rfl
  · rintro absent other value member rfl
    exact absent value member

theorem mem_keydelete {entries : List (Key × Value)}
    (distinct : (entries.map Prod.fst).Nodup) {key : Key}
    {entry : Key × Value} :
    entry ∈ keydelete key entries ↔ entry ∈ entries ∧ entry.1 ≠ key := by
  induction entries with
  | nil => simp [keydelete]
  | cons head tail induction =>
      rw [List.map_cons, List.nodup_cons] at distinct
      obtain ⟨fresh, tailDistinct⟩ := distinct
      by_cases found : head.1 = key
      · have absent : ∀ other ∈ tail, other.1 ≠ key := by
          intro other member equal
          exact fresh (found ▸ equal ▸ List.mem_map_of_mem member)
        simp only [keydelete, List.eraseP_cons, found, decide_true, cond_true,
          List.mem_cons]
        constructor
        · intro member
          exact ⟨.inr member, absent entry member⟩
        · rintro ⟨rfl | member, different⟩
          · exact absurd found different
          · exact member
      · have step : keydelete key (head :: tail) = head :: keydelete key tail := by
          simp [keydelete, found]
        rw [step, List.mem_cons, List.mem_cons, induction tailDistinct]
        constructor
        · rintro (rfl | ⟨member, different⟩)
          · exact ⟨.inl rfl, found⟩
          · exact ⟨.inr member, different⟩
        · rintro ⟨rfl | member, different⟩
          · exact .inl rfl
          · exact .inr ⟨member, different⟩

theorem keydelete_distinct {entries : List (Key × Value)}
    (distinct : (entries.map Prod.fst).Nodup) (key : Key) :
    ((keydelete key entries).map Prod.fst).Nodup :=
  distinct.sublist (List.eraseP_sublist.map Prod.fst)

theorem lookup_cons_ite (entry : Key × Value) (entries : List (Key × Value))
    (key : Key) :
    (entry :: entries).lookup key =
      if key = entry.1 then some entry.2 else entries.lookup key := by
  rw [List.lookup_cons]
  by_cases same : key = entry.1
  · rw [if_pos same, beq_iff_eq.mpr same]
  · rw [if_neg same, beq_eq_false_iff_ne.mpr same]

theorem mem_of_lookup {entries : List (Key × Value)} {key : Key} {value : Value}
    (found : entries.lookup key = some value) : (key, value) ∈ entries := by
  obtain ⟨front, back, rfl, -⟩ := List.lookup_eq_some_iff.mp found
  exact List.mem_append_right _ List.mem_cons_self

theorem lookup_of_mem {entries : List (Key × Value)}
    (distinct : (entries.map Prod.fst).Nodup) {key : Key} {value : Value}
    (member : (key, value) ∈ entries) : entries.lookup key = some value := by
  cases found : entries.lookup key with
  | none => simpa using List.lookup_eq_none_iff.mp found _ member
  | some other =>
      exact congrArg some (value_unique distinct (mem_of_lookup found) member)

theorem lookup_filter (keep : Key → Bool) (entries : List (Key × Value))
    (key : Key) :
    (entries.filter fun entry => keep entry.1).lookup key =
      if keep key then entries.lookup key else none := by
  induction entries with
  | nil => simp
  | cons entry rest induction =>
      rw [List.filter_cons, lookup_cons_ite]
      by_cases same : key = entry.1
      · subst same
        by_cases kept : keep entry.1 = true
        · simp [kept, lookup_cons_ite]
        · simp [kept, induction]
      · by_cases kept : keep entry.1 = true
        · simp [kept, lookup_cons_ite, same, induction]
        · simp [kept, same, induction]

section Computed

variable {Failure : Type*}

def sequence : List (Key × Except Failure Value) →
    Except Failure (List (Key × Value))
  | [] => .ok []
  | (_, .error failure) :: _ => .error failure
  | (key, .ok value) :: entries =>
      match sequence entries with
      | .error failure => .error failure
      | .ok rest => .ok ((key, value) :: rest)

omit [DecidableEq Key] in
theorem sequence_isOk_iff {entries : List (Key × Except Failure Value)} :
    (∃ results, sequence entries = .ok results) ↔
      ∀ entry ∈ entries, ∃ value, entry.2 = .ok value := by
  induction entries with
  | nil => simp [sequence]
  | cons entry rest induction =>
      obtain ⟨key, value⟩ := entry
      rw [List.forall_mem_cons, ← induction]
      cases value with
      | error failure => simp [sequence]
      | ok value =>
          cases tail : sequence rest with
          | error failure => simp [sequence, tail]
          | ok results => simp [sequence, tail]

theorem lookup_sequence {entries : List (Key × Except Failure Value)}
    {results : List (Key × Value)} (computed : sequence entries = .ok results)
    {key : Key} {value : Value} (found : entries.lookup key = some (.ok value)) :
    results.lookup key = some value := by
  induction entries generalizing results with
  | nil => cases found
  | cons entry rest induction =>
      obtain ⟨name, result⟩ := entry
      cases result with
      | error failure => cases computed
      | ok head =>
          cases tail : sequence rest with
          | error failure =>
              rw [sequence, tail] at computed
              cases computed
          | ok later =>
              rw [sequence, tail] at computed
              cases computed
              rw [lookup_cons_ite] at found ⊢
              split
              · rename_i same
                rw [if_pos same] at found
                exact congrArg some (Except.ok.inj (Option.some.inj found))
              · rename_i different
                rw [if_neg different] at found
                exact induction tail found

end Computed

end ExLibp2p.Data
