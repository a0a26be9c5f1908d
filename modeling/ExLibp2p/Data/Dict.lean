import Mathlib.Data.List.AList

namespace ExLibp2p.Data

universe u v

/-! Finite maps with a fixed value type: Mathlib's association lists with
pairwise distinct keys, and the few operations these lack. -/

abbrev Dict (Key : Type u) (Value : Type v) := AList fun _ : Key => Value

namespace Dict

variable {Key : Type u} {Value : Type v}

def size (dict : Dict Key Value) : Nat :=
  dict.entries.length

def retain (keep : Key → Value → Bool) (dict : Dict Key Value) :
    Dict Key Value where
  entries := dict.entries.filter fun entry => keep entry.1 entry.2
  nodupKeys := List.NodupKeys.sublist List.filter_sublist dict.nodupKeys

theorem size_retain_le (keep : Key → Value → Bool) (dict : Dict Key Value) :
    (retain keep dict).size ≤ dict.size :=
  List.length_filter_le ..

theorem size_eq_length_keys (dict : Dict Key Value) :
    dict.size = dict.keys.length := by
  simp [size, AList.keys, List.keys]

theorem size_eq_retain_add (keep : Key → Value → Bool)
    (dict : Dict Key Value) :
    dict.size = (retain keep dict).size +
      (retain (fun key value => !keep key value) dict).size :=
  List.length_eq_length_filter_add _

variable [DecidableEq Key]

def get (dict : Dict Key Value) (key : Key) (default : Value) : Value :=
  (dict.lookup key).getD default

def update (dict : Dict Key Value) (key : Key) (initial : Value)
    (change : Value → Value) : Dict Key Value :=
  match dict.lookup key with
  | some value => dict.insert key (change value)
  | none => dict.insert key initial

def drop (dict : Dict Key Value) (keys : List Key) : Dict Key Value :=
  dict.retain fun key _ => decide (key ∉ keys)

theorem mem_entries_iff {dict : Dict Key Value} {key : Key} {value : Value} :
    (⟨key, value⟩ : Sigma fun _ : Key => Value) ∈ dict.entries ↔
      dict.lookup key = some value :=
  AList.mem_lookup_iff.symm

theorem lookup_retain (keep : Key → Value → Bool) (dict : Dict Key Value)
    (key : Key) :
    (retain keep dict).lookup key = (dict.lookup key).filter (keep key) := by
  apply Option.ext
  intro value
  rw [← mem_entries_iff, Option.filter_eq_some_iff, ← mem_entries_iff]
  simp [retain]

theorem lookup_drop (dict : Dict Key Value) (keys : List Key) (key : Key) :
    (dict.drop keys).lookup key =
      if key ∈ keys then none else dict.lookup key := by
  rw [drop, lookup_retain]
  by_cases member : key ∈ keys
  · simp [member]
  · cases dict.lookup key <;> simp [member]

theorem lookup_of_drop {dict : Dict Key Value} {keys : List Key} {key : Key}
    {value : Value} (found : (dict.drop keys).lookup key = some value) :
    dict.lookup key = some value := by
  rw [lookup_drop] at found
  split at found
  · contradiction
  · exact found

theorem lookup_insert_ite (dict : Dict Key Value) (key other : Key)
    (value : Value) :
    (dict.insert key value).lookup other =
      if other = key then some value else dict.lookup other := by
  by_cases equal : other = key
  · subst other
    simp
  · simp [equal]

theorem lookup_update (dict : Dict Key Value) (key other : Key)
    (initial : Value) (change : Value → Value) :
    (dict.update key initial change).lookup other =
      if other = key then some (((dict.lookup key).map change).getD initial)
      else dict.lookup other := by
  rw [update]
  split
  · rename_i value found
    rw [lookup_insert_ite, found]
    rfl
  · rename_i absent
    rw [lookup_insert_ite, absent]
    rfl

theorem lookup_erase_ite (dict : Dict Key Value) (key other : Key) :
    (dict.erase key).lookup other =
      if other = key then none else dict.lookup other := by
  by_cases equal : other = key
  · subst other
    simp
  · simp [equal]

theorem lookup_of_erase {dict : Dict Key Value} {key other : Key}
    {value : Value} (found : AList.lookup other (dict.erase key) = some value) :
    dict.lookup other = some value := by
  rw [lookup_erase_ite] at found
  split at found
  · contradiction
  · exact found

theorem size_erase_le (dict : Dict Key Value) (key : Key) :
    size (dict.erase key) ≤ size dict := by
  rw [size_eq_length_keys, size_eq_length_keys, AList.keys_erase]
  exact List.length_erase_le

theorem size_insert_le (dict : Dict Key Value) (key : Key) (value : Value) :
    size (dict.insert key value) ≤ size dict + 1 := by
  rw [size_eq_length_keys, size_eq_length_keys, AList.keys_insert,
    List.length_cons]
  exact Nat.succ_le_succ List.length_erase_le

theorem size_insert_of_fresh {dict : Dict Key Value} {key : Key}
    (fresh : dict.lookup key = none) (value : Value) :
    size (dict.insert key value) = size dict + 1 := by
  have absent : key ∉ dict.keys := AList.lookup_eq_none.mp fresh
  rw [size_eq_length_keys, size_eq_length_keys, AList.keys_insert,
    List.length_cons, List.erase_of_not_mem absent]

theorem size_insert_of_mem {dict : Dict Key Value} {key : Key}
    (held : (dict.lookup key).isSome) (value : Value) :
    size (dict.insert key value) = size dict := by
  have member : key ∈ dict.keys := AList.lookup_isSome.mp held
  rw [size_eq_length_keys, size_eq_length_keys, AList.keys_insert,
    List.length_cons, List.length_erase_of_mem member]
  exact Nat.sub_add_cancel (List.length_pos_of_mem member)

end Dict

end ExLibp2p.Data
