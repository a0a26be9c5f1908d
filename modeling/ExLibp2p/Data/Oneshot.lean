import ExLibp2p.Data.Dict

namespace ExLibp2p.Data

universe u v

/-! One-shot channels, by the key of the party that waits on them. A sender
sends once or is dropped, and both are final. -/

inductive Oneshot (Value : Type v)
  | waiting
  | replied (value : Value)
  | closed

abbrev Oneshots (Key : Type u) (Value : Type v) := Dict Key (Oneshot Value)

namespace Oneshots

variable {Key : Type u} {Value : Type v} [DecidableEq Key]

def settle (cells : Oneshots Key Value) (key : Key) (final : Oneshot Value) :
    Oneshots Key Value :=
  match cells.lookup key with
  | some .waiting => cells.insert key final
  | _ => cells

def send (cells : Oneshots Key Value) (reply : Key × Value) :
    Oneshots Key Value :=
  cells.settle reply.1 (.replied reply.2)

def close (cells : Oneshots Key Value) (key : Key) : Oneshots Key Value :=
  cells.settle key .closed

def closeAll (cells : Oneshots Key Value) (keys : List Key) :
    Oneshots Key Value :=
  keys.foldl close cells

theorem lookup_settle_self {cells : Oneshots Key Value} {key : Key}
    {final : Oneshot Value} (waiting : cells.lookup key = some .waiting) :
    (cells.settle key final).lookup key = some final := by
  simp [settle, waiting]

theorem lookup_settle_ne {cells : Oneshots Key Value} {key other : Key}
    {final : Oneshot Value} (different : other ≠ key) :
    (cells.settle key final).lookup other = cells.lookup other := by
  unfold settle
  split
  · exact AList.lookup_insert_ne different
  · rfl

theorem lookup_settle_of_settled {cells : Oneshots Key Value} {key other : Key}
    {final : Oneshot Value} (settled : cells.lookup other ≠ some .waiting) :
    (cells.settle key final).lookup other = cells.lookup other := by
  by_cases same : other = key
  · subst same
    unfold settle
    split
    · contradiction
    · rfl
  · exact lookup_settle_ne same

theorem lookup_settle {cells : Oneshots Key Value} {key : Key}
    {final : Oneshot Value} (waiting : cells.lookup key = some .waiting)
    (other : Key) :
    (cells.settle key final).lookup other =
      if other = key then some final else cells.lookup other := by
  split
  · rename_i same
    rw [same]
    exact lookup_settle_self waiting
  · rename_i different
    exact lookup_settle_ne different

theorem close_send {cells : Oneshots Key Value} {key : Key} {value : Value}
    (waiting : cells.lookup key = some .waiting) :
    (cells.send (key, value)).close key = cells.send (key, value) := by
  have replied : (cells.send (key, value)).lookup key = some (.replied value) :=
    lookup_settle_self waiting
  rw [close, settle, replied]

theorem lookup_closeAll (cells : Oneshots Key Value) (keys : List Key)
    (key : Key) :
    (cells.closeAll keys).lookup key = cells.lookup key ∨
      key ∈ keys ∧ cells.lookup key = some .waiting ∧
        (cells.closeAll keys).lookup key = some .closed := by
  induction keys generalizing cells with
  | nil => exact .inl rfl
  | cons first keys induction =>
      change (closeAll (cells.close first) keys).lookup key = _ ∨ _ ∧ _ ∧
        (closeAll (cells.close first) keys).lookup key = _
      by_cases waits : cells.lookup key = some .waiting
      · by_cases same : key = first
        · subst same
          have closed : (cells.close key).lookup key = some .closed :=
            lookup_settle_self waits
          rcases induction (cells.close key) with kept | ⟨-, waiting, -⟩
          · exact .inr ⟨List.mem_cons_self, waits, kept.trans closed⟩
          · rw [closed] at waiting
            cases waiting
        · have unchanged : (cells.close first).lookup key = cells.lookup key :=
            lookup_settle_ne same
          rw [← unchanged]
          rcases induction (cells.close first) with kept | ⟨member, rest⟩
          · exact .inl kept
          · exact .inr ⟨List.mem_cons_of_mem _ member, rest⟩
      · have unchanged : (cells.close first).lookup key = cells.lookup key :=
          lookup_settle_of_settled waits
        rw [← unchanged]
        rcases induction (cells.close first) with kept | ⟨member, rest⟩
        · exact .inl kept
        · exact .inr ⟨List.mem_cons_of_mem _ member, rest⟩

theorem lookup_sendAll_none {cells : Oneshots Key Value} {key : Key}
    (absent : cells.lookup key = none) (sent : List (Key × Value)) :
    (sent.foldl send cells).lookup key = none := by
  induction sent generalizing cells with
  | nil => exact absent
  | cons reply sent induction =>
      apply induction
      rw [send, lookup_settle_of_settled (by rw [absent]; simp)]
      exact absent

theorem lookup_closeAll_none {cells : Oneshots Key Value} {key : Key}
    (absent : cells.lookup key = none) (keys : List Key) :
    (cells.closeAll keys).lookup key = none := by
  rcases lookup_closeAll cells keys key with kept | ⟨-, waiting, -⟩
  · exact kept.trans absent
  · rw [absent] at waiting
    cases waiting

theorem not_waiting_closeAll {cells : Oneshots Key Value} {keys : List Key}
    {key : Key} (member : key ∈ keys) :
    (cells.closeAll keys).lookup key ≠ some .waiting := by
  induction keys generalizing cells with
  | nil => cases member
  | cons first keys induction =>
      change (closeAll (cells.close first) keys).lookup key ≠ _
      by_cases later : key ∈ keys
      · exact induction later
      · obtain rfl : key = first := by
          rcases List.mem_cons.mp member with same | inRest
          · exact same
          · contradiction
        rcases lookup_closeAll (cells.close key) keys key with kept | ⟨absent, -⟩
        · rw [kept]
          by_cases waits : cells.lookup key = some .waiting
          · rw [close, lookup_settle_self waits]
            simp
          · rw [close, lookup_settle_of_settled waits]
            exact waits
        · contradiction

end Oneshots

end ExLibp2p.Data
