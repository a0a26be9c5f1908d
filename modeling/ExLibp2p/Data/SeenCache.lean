import ExLibp2p.Data.Dict

namespace ExLibp2p.Data

universe u v

/-! Caches that turn away what came lately. What a cache does is a function of
what came before, so that any rule of expiry is one. -/

/-- A key that came at some time, in one of several ways. -/
structure Offer (Way : Type u) (Key : Type v) where
  way : Way
  time : Nat
  key : Key

/-- Whether an offer is turned away after the earlier ones. -/
abbrev SeenCache (Way : Type u) (Key : Type v) :=
  List (Offer Way Key) → Offer Way Key → Bool

namespace SeenCache

variable {Way : Type u} {Key : Type v}

/-- A key that was taken is held for the retention time at least. -/
def Retains (cache : SeenCache Way Key) (retention : Nat) : Prop :=
  ∀ earlier taken later offer, cache earlier taken = false →
    offer.key = taken.key →
    (∀ entry ∈ later, entry.time < taken.time + retention) →
    offer.time < taken.time + retention →
      cache (earlier ++ taken :: later) offer = true

/-- Only keys that came are held. -/
def OnlyOffered (cache : SeenCache Way Key) : Prop :=
  ∀ earlier offer, cache earlier offer = true →
    ∃ entry ∈ earlier, entry.key = offer.key

variable [DecidableEq Key]

/-- Keys expire each for itself. -/
def PerKey (cache : SeenCache Way Key) : Prop :=
  ∀ earlier offer, cache earlier offer =
    cache (earlier.filter fun entry => entry.key = offer.key) offer

abbrev Times (Key : Type v) := Dict Key Nat

variable (retention : Nat)

def holds (times : Times Key) (now : Nat) (key : Key) : Bool :=
  match times.lookup key with
  | some taken => now < taken + retention
  | none => false

def take (times : Times Key) (offer : Offer Way Key) : Times Key :=
  if holds retention times offer.time offer.key then times
  else times.insert offer.key offer.time

def timesAfter (times : Times Key) (offers : List (Offer Way Key)) :
    Times Key :=
  offers.foldl (take retention) times

def lapsing : SeenCache Way Key :=
  fun earlier offer =>
    holds retention (timesAfter retention ∅ earlier) offer.time offer.key

variable {retention} {key : Key} {first second : Times Key}

theorem holds_congr (same : first.lookup key = second.lookup key) (now : Nat) :
    holds retention first now key = holds retention second now key := by
  rw [holds, holds, same]

theorem lookup_take_ne (times : Times Key) {offer : Offer Way Key}
    (different : offer.key ≠ key) :
    (take retention times offer).lookup key = times.lookup key := by
  rw [take]
  split
  · rfl
  · rw [Dict.lookup_insert_ite, if_neg different.symm]

theorem lookup_take_congr (offer : Offer Way Key)
    (same : first.lookup key = second.lookup key) :
    (take retention first offer).lookup key =
      (take retention second offer).lookup key := by
  by_cases isKey : offer.key = key
  · subst isKey
    rw [take, take, holds_congr same]
    split
    · exact same
    · rw [AList.lookup_insert, AList.lookup_insert]
  · rw [lookup_take_ne first isKey, lookup_take_ne second isKey]
    exact same

theorem lookup_after_filter (offers : List (Offer Way Key))
    (same : first.lookup key = second.lookup key) :
    (timesAfter retention first offers).lookup key =
      (timesAfter retention second
        (offers.filter fun entry => entry.key = key)).lookup key := by
  induction offers generalizing first second with
  | nil => exact same
  | cons entry offers induction =>
      rw [List.filter_cons]
      by_cases isKey : entry.key = key
      · rw [if_pos (decide_eq_true isKey)]
        exact induction (lookup_take_congr entry same)
      · rw [if_neg (by simpa using isKey)]
        exact induction ((lookup_take_ne first isKey).trans same)

theorem lookup_take_held {times : Times Key} {offer : Offer Way Key}
    {taken : Nat} (found : times.lookup key = some taken)
    (soon : offer.time < taken + retention) :
    (take retention times offer).lookup key = some taken := by
  by_cases isKey : offer.key = key
  · subst isKey
    have held : holds retention times offer.time offer.key = true := by
      rw [holds, found]
      exact decide_eq_true soon
    rw [take, if_pos held]
    exact found
  · rw [lookup_take_ne times isKey]
    exact found

theorem lookup_after_held {times : Times Key} {taken : Nat}
    {offers : List (Offer Way Key)} (found : times.lookup key = some taken)
    (soon : ∀ entry ∈ offers, entry.time < taken + retention) :
    (timesAfter retention times offers).lookup key = some taken := by
  induction offers generalizing times with
  | nil => exact found
  | cons entry offers induction =>
      rw [List.forall_mem_cons] at soon
      exact induction (lookup_take_held found soon.1) soon.2

theorem lapsing_perKey : PerKey (lapsing retention : SeenCache Way Key) := by
  intro earlier offer
  exact holds_congr (lookup_after_filter earlier rfl) offer.time

theorem lapsing_retains :
    Retains (lapsing retention : SeenCache Way Key) retention := by
  intro earlier taken later offer free same soon early
  have isTaken : (take retention (timesAfter retention ∅ earlier)
      taken).lookup taken.key = some taken.time := by
    rw [take, show holds retention _ taken.time taken.key = false from free]
    exact AList.lookup_insert _
  have held : (timesAfter retention ∅ (earlier ++ taken :: later)).lookup
      taken.key = some taken.time := by
    rw [timesAfter, List.foldl_append, List.foldl_cons]
    exact lookup_after_held isTaken soon
  rw [lapsing, same, holds, held]
  exact decide_eq_true early

theorem lapsing_onlyOffered :
    OnlyOffered (lapsing retention : SeenCache Way Key) := by
  intro earlier offer held
  by_contra absent
  rw [lapsing_perKey, List.filter_eq_nil_iff.mpr] at held
  · cases held
  · intro entry member same
    exact absent ⟨entry, member, of_decide_eq_true same⟩

end SeenCache

end ExLibp2p.Data
