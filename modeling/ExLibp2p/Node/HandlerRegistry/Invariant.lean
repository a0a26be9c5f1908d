import ExLibp2p.Data.Machine
import ExLibp2p.Node.HandlerRegistry

namespace ExLibp2p.Node.HandlerRegistry

open ExLibp2p.Data

variable {Pid EventType Event Ref : Type} [DecidableEq Pid]

private theorem foldl_node_mem
    (entries : List (Sigma fun _ : Pid × EventType => List (Pid × Ref)))
    (node : Pid) (accumulated : List (Pid × EventType) × List Ref) :
    let reduced := entries.foldl
      (fun (keysAcc, refsAcc) entry =>
        if entry.1.1 = node then
          (entry.1 :: keysAcc, entry.2.map Prod.snd ++ refsAcc)
        else
          (keysAcc, refsAcc))
      accumulated
    (∀ key, key ∈ reduced.1 ↔ key ∈ accumulated.1 ∨
      ∃ entry ∈ entries, entry.1 = key ∧ key.1 = node) ∧
    (∀ ref, ref ∈ reduced.2 ↔ ref ∈ accumulated.2 ∨
      ∃ entry ∈ entries, entry.1.1 = node ∧
        ∃ pid, (pid, ref) ∈ entry.2) := by
  induction entries generalizing accumulated with
  | nil => simp
  | cons entry rest induction =>
      rw [List.foldl_cons]
      obtain ⟨keys, refs⟩ := induction
        (if entry.1.1 = node then
          (entry.1 :: accumulated.1, entry.2.map Prod.snd ++ accumulated.2)
        else accumulated)
      constructor
      · intro key
        refine (keys key).trans ?_
        cases Decidable.em (entry.1.1 = node) with
        | inl same => grind
        | inr other => grind
      · intro ref
        refine (refs ref).trans ?_
        cases Decidable.em (entry.1.1 = node) with
        | inl same => grind
        | inr other => grind

variable [DecidableEq EventType]

theorem mem_nodeKeys (state : State Pid EventType Ref) (node : Pid)
    (key : Pid × EventType) :
    key ∈ (nodeKeysAndRefs state node).1 ↔
      key.1 = node ∧ (state.subscriptions.lookup key).isSome := by
  have reduced :=
    (foldl_node_mem state.subscriptions.entries node ([], [])).1 key
  refine reduced.trans ?_
  simp only [List.not_mem_nil, false_or, Option.isSome_iff_exists]
  constructor
  · intro found
    obtain ⟨⟨_, entries⟩, member, rfl, same⟩ := found
    exact ⟨same, entries, Dict.mem_entries_iff.mp member⟩
  · intro found
    obtain ⟨same, entries, lookup⟩ := found
    exact ⟨⟨key, entries⟩, Dict.mem_entries_iff.mpr lookup, rfl, same⟩

theorem mem_entriesAt {state : State Pid EventType Ref}
    {key : Pid × EventType} {entry : Pid × Ref} :
    entry ∈ state.entriesAt key ↔
      ∃ entries,
        (⟨key, entries⟩ : Sigma fun _ => List (Pid × Ref)) ∈
          state.subscriptions.entries ∧ entry ∈ entries := by
  rw [State.entriesAt, Dict.get]
  cases lookup : state.subscriptions.lookup key with
  | none => simp [Dict.mem_entries_iff, lookup]
  | some entries => simp [Dict.mem_entries_iff, lookup]

theorem mem_nodeRefs (state : State Pid EventType Ref) (node : Pid)
    (ref : Ref) :
    ref ∈ (nodeKeysAndRefs state node).2 ↔
      ∃ eventType pid, (pid, ref) ∈ state.entriesAt (node, eventType) := by
  have reduced :=
    (foldl_node_mem state.subscriptions.entries node ([], [])).2 ref
  refine reduced.trans ?_
  simp only [List.not_mem_nil, false_or]
  constructor
  · intro found
    obtain ⟨⟨⟨_, eventType⟩, entries⟩, member, rfl, pid, stored⟩ := found
    exact ⟨eventType, pid, mem_entriesAt.mpr ⟨entries, member, stored⟩⟩
  · intro found
    obtain ⟨eventType, pid, stored⟩ := found
    obtain ⟨entries, member, listed⟩ := mem_entriesAt.mp stored
    exact ⟨⟨(node, eventType), entries⟩, member, rfl, pid, listed⟩

theorem get_putRemaining
    (subscriptions : Dict (Pid × EventType) (List (Pid × Ref)))
    (key other : Pid × EventType) (remaining : List (Pid × Ref)) :
    Dict.get (putRemaining subscriptions key remaining) other [] =
      if other = key then remaining else Dict.get subscriptions other [] := by
  cases remaining with
  | nil =>
      simp only [putRemaining, Dict.get, Dict.lookup_erase_ite]
      split <;> rfl
  | cons entry rest =>
      simp only [putRemaining, Dict.get, Dict.lookup_insert_ite]
      split <;> rfl

theorem occupied_putRemaining
    {subscriptions : Dict (Pid × EventType) (List (Pid × Ref))}
    (occupied : ∀ key entries,
      subscriptions.lookup key = some entries → entries ≠ [])
    (changed : Pid × EventType) (remaining : List (Pid × Ref)) :
    ∀ key entries,
      (putRemaining subscriptions changed remaining).lookup key =
        some entries → entries ≠ [] := by
  intro key entries found
  cases remaining with
  | nil =>
      exact occupied key entries (Dict.lookup_of_erase found)
  | cons entry rest =>
      rw [putRemaining, Dict.lookup_insert_ite] at found
      split at found
      · cases found
        exact List.cons_ne_nil entry rest
      · exact occupied key entries found

theorem update_cons_eq_insert
    (subscriptions : Dict (Pid × EventType) (List (Pid × Ref)))
    (key : Pid × EventType) (entry : Pid × Ref) :
    Dict.update subscriptions key [entry] (fun entries => entry :: entries) =
      subscriptions.insert key (entry :: Dict.get subscriptions key []) := by
  unfold Dict.update Dict.get
  cases subscriptions.lookup key <;> rfl

variable [DecidableEq Ref]

/-! The two maps of the registry are inverse to each other, no key has an empty
list and no list has a pid twice. -/

structure WellFormed (state : State Pid EventType Ref) : Prop where
  inverse : ∀ node eventType pid ref,
    (pid, ref) ∈ state.entriesAt (node, eventType) ↔
      state.monitors.lookup ref = some (pid, node, eventType)
  occupied : ∀ key entries,
    state.subscriptions.lookup key = some entries → entries ≠ []
  distinct : ∀ key, ((state.entriesAt key).map Prod.fst).Nodup

theorem WellFormed.init : WellFormed (State.init : State Pid EventType Ref) where
  inverse := by
    intro node eventType pid ref
    simp [State.entriesAt, State.init, Dict.get]
  occupied := by
    intro key entries found
    simp [State.init] at found
  distinct := by
    intro key
    simp [State.entriesAt, State.init, Dict.get]

namespace State

def add (state : State Pid EventType Ref) (node : Pid)
    (eventType : EventType) (pid : Pid) (ref : Ref) :
    State Pid EventType Ref where
  subscriptions := Dict.update state.subscriptions (node, eventType)
    [(pid, ref)] fun entries => (pid, ref) :: entries
  monitors := state.monitors.insert ref (pid, node, eventType)

def remove (state : State Pid EventType Ref) (node : Pid)
    (eventType : EventType) (pid : Pid) (ref : Ref) :
    State Pid EventType Ref where
  subscriptions := putRemaining state.subscriptions (node, eventType)
    (keydelete pid (state.entriesAt (node, eventType)))
  monitors := state.monitors.erase ref

def removeNode (state : State Pid EventType Ref) (node : Pid) :
    State Pid EventType Ref where
  subscriptions :=
    Dict.drop state.subscriptions (nodeKeysAndRefs state node).1
  monitors := Dict.drop state.monitors (nodeKeysAndRefs state node).2

theorem entriesAt_add (state : State Pid EventType Ref) (node : Pid)
    (eventType : EventType) (pid : Pid) (ref : Ref)
    (key : Pid × EventType) :
    (state.add node eventType pid ref).entriesAt key =
      if key = (node, eventType) then (pid, ref) :: state.entriesAt key
      else state.entriesAt key := by
  simp only [entriesAt, add, update_cons_eq_insert]
  rw [Dict.get, Dict.lookup_insert_ite]
  split
  · rename_i same
    subst same
    rfl
  · rfl

theorem entriesAt_remove (state : State Pid EventType Ref) (node : Pid)
    (eventType : EventType) (pid : Pid) (ref : Ref)
    (key : Pid × EventType) :
    (state.remove node eventType pid ref).entriesAt key =
      if key = (node, eventType) then keydelete pid (state.entriesAt key)
      else state.entriesAt key := by
  simp only [entriesAt, remove, get_putRemaining]
  split
  · rename_i same
    subst same
    rfl
  · rfl

end State

theorem State.entriesAt_removeNode (state : State Pid EventType Ref)
    (node : Pid) (key : Pid × EventType) :
    (state.removeNode node).entriesAt key =
      if key.1 = node then [] else state.entriesAt key := by
  simp only [State.entriesAt, State.removeNode, Dict.get, Dict.lookup_drop,
    mem_nodeKeys]
  cases lookup : state.subscriptions.lookup key with
  | none => simp
  | some entries =>
      simp only [Option.isSome_some, and_true]
      split <;> rfl

theorem mem_entriesAt_add (state : State Pid EventType Ref)
    (node : Pid) (eventType : EventType) (pid : Pid) (ref : Ref)
    {other : Pid} {otherType : EventType} {entry : Pid × Ref} :
    entry ∈ (state.add node eventType pid ref).entriesAt (other, otherType) ↔
      entry ∈ state.entriesAt (other, otherType) ∨
        (other = node ∧ otherType = eventType ∧ entry = (pid, ref)) := by
  rw [State.entriesAt_add]
  split
  · rename_i same
    cases same
    simp [or_comm]
  · rename_i different
    simp only [Prod.mk.injEq, not_and] at different
    constructor
    · exact .inl
    · intro found
      rcases found with stored | ⟨rfl, rfl, -⟩
      · exact stored
      · exact absurd rfl (different rfl)

theorem mem_entriesAt_remove {state : State Pid EventType Ref}
    (wellFormed : WellFormed state)
    (node : Pid) (eventType : EventType) (pid : Pid) (ref : Ref)
    {other : Pid} {otherType : EventType} {entry : Pid × Ref} :
    entry ∈ (state.remove node eventType pid ref).entriesAt
        (other, otherType) ↔
      entry ∈ state.entriesAt (other, otherType) ∧
        ¬ (other = node ∧ otherType = eventType ∧ entry.1 = pid) := by
  rw [State.entriesAt_remove]
  split
  · rename_i same
    cases same
    rw [mem_keydelete (wellFormed.distinct (node, eventType))]
    simp
  · rename_i different
    simp only [Prod.mk.injEq, not_and] at different
    constructor
    · intro stored
      refine ⟨stored, ?_⟩
      intro matched
      exact different matched.1 matched.2.1
    · exact And.left

theorem mem_entriesAt_removeNode (state : State Pid EventType Ref)
    (node : Pid) {other : Pid} {otherType : EventType} {entry : Pid × Ref} :
    entry ∈ (state.removeNode node).entriesAt (other, otherType) ↔
      entry ∈ state.entriesAt (other, otherType) ∧ other ≠ node := by
  rw [State.entriesAt_removeNode]
  split
  · rename_i same
    simp at same
    simp [same]
  · rename_i different
    simp at different
    simp [different]

theorem WellFormed.ref_unique {state : State Pid EventType Ref}
    (wellFormed : WellFormed state) {node other : Pid}
    {eventType otherType : EventType} {pid otherPid : Pid} {ref : Ref}
    (first : (pid, ref) ∈ state.entriesAt (node, eventType))
    (second : (otherPid, ref) ∈ state.entriesAt (other, otherType)) :
    pid = otherPid ∧ node = other ∧ eventType = otherType := by
  have owner := (wellFormed.inverse _ _ _ _).mp first
  rw [(wellFormed.inverse _ _ _ _).mp second] at owner
  cases owner
  exact ⟨rfl, rfl, rfl⟩

theorem WellFormed.add {state : State Pid EventType Ref}
    (wellFormed : WellFormed state) {node : Pid} {eventType : EventType}
    {pid : Pid} {ref : Ref}
    (fresh : state.monitors.lookup ref = none)
    (absent : ∀ other, (pid, other) ∉ state.entriesAt (node, eventType)) :
    WellFormed (state.add node eventType pid ref) where
  inverse := by
    intro otherNode otherType other otherRef
    rw [mem_entriesAt_add, wellFormed.inverse, State.add,
      Dict.lookup_insert_ite]
    split
    · rename_i same
      subst same
      rw [fresh]
      simp only [reduceCtorEq, false_or, Option.some.injEq, Prod.mk.injEq]
      grind
    · rename_i different
      constructor
      · intro found
        rcases found with stored | ⟨-, -, same⟩
        · exact stored
        · exact absurd (congrArg Prod.snd same) different
      · exact .inl
  occupied := by
    intro key entries found
    rw [State.add, update_cons_eq_insert, Dict.lookup_insert_ite] at found
    split at found
    · cases found
      exact List.cons_ne_nil _ _
    · exact wellFormed.occupied key entries found
  distinct := by
    intro key
    rw [State.entriesAt_add]
    split
    · rename_i same
      subst same
      rw [List.map_cons, List.nodup_cons]
      refine ⟨?_, wellFormed.distinct (node, eventType)⟩
      intro member
      obtain ⟨⟨_, other⟩, stored, rfl⟩ := List.mem_map.mp member
      exact absent other stored
    · exact wellFormed.distinct key

theorem WellFormed.remove {state : State Pid EventType Ref}
    (wellFormed : WellFormed state) {node : Pid} {eventType : EventType}
    {pid : Pid} {ref : Ref}
    (stored : (pid, ref) ∈ state.entriesAt (node, eventType)) :
    WellFormed (state.remove node eventType pid ref) where
  inverse := by
    intro otherNode otherType other otherRef
    rw [mem_entriesAt_remove wellFormed, State.remove, Dict.lookup_erase_ite]
    split
    · rename_i same
      subst same
      constructor
      · intro kept
        obtain ⟨samePid, sameNode, sameType⟩ :=
          wellFormed.ref_unique kept.1 stored
        exact absurd ⟨sameNode, sameType, samePid⟩ kept.2
      · intro impossible
        contradiction
    · rename_i different
      rw [← wellFormed.inverse]
      constructor
      · exact And.left
      · intro kept
        refine ⟨kept, ?_⟩
        intro matched
        obtain ⟨rfl, rfl, rfl⟩ := matched
        exact different (value_unique (wellFormed.distinct _) kept stored)
  occupied := occupied_putRemaining wellFormed.occupied _ _
  distinct := by
    intro key
    rw [State.entriesAt_remove]
    split
    · exact keydelete_distinct (wellFormed.distinct key) pid
    · exact wellFormed.distinct key

theorem WellFormed.removeNode {state : State Pid EventType Ref}
    (wellFormed : WellFormed state) (node : Pid) :
    WellFormed (state.removeNode node) where
  inverse := by
    intro otherNode otherType other otherRef
    rw [mem_entriesAt_removeNode, State.removeNode, Dict.lookup_drop]
    split
    · rename_i dropped
      obtain ⟨eventType, pid, stored⟩ := (mem_nodeRefs state node otherRef).mp
        dropped
      constructor
      · intro kept
        obtain ⟨-, sameNode, -⟩ := wellFormed.ref_unique kept.1 stored
        exact absurd sameNode kept.2
      · intro impossible
        contradiction
    · rename_i kept
      rw [← wellFormed.inverse]
      constructor
      · exact And.left
      · intro stored
        refine ⟨stored, ?_⟩
        intro same
        subst same
        exact kept ((mem_nodeRefs state otherNode otherRef).mpr
          ⟨otherType, other, stored⟩)
  occupied := by
    intro key entries found
    exact wellFormed.occupied key entries (Dict.lookup_of_drop found)
  distinct := by
    intro key
    rw [State.entriesAt_removeNode]
    split
    · exact List.nodup_nil
    · exact wellFormed.distinct key

inductive Transition (ref : Ref) (state : State Pid EventType Ref) :
    Message Pid EventType Event Ref → Reply → State Pid EventType Ref →
    List (Effect Pid EventType Event Ref) → Prop
  | registered {node eventType pid}
      (absent : ∀ other, (pid, other) ∉ state.entriesAt (node, eventType)) :
      Transition ref state (.call (.register node eventType pid)) .ok
        (state.add node eventType pid ref) [.monitor pid ref]
  | alreadyRegistered {node eventType pid other}
      (stored : (pid, other) ∈ state.entriesAt (node, eventType)) :
      Transition ref state (.call (.register node eventType pid)) .ok state []
  | unregistered {node eventType pid other}
      (stored : (pid, other) ∈ state.entriesAt (node, eventType)) :
      Transition ref state (.call (.unregister node eventType pid)) .ok
        (state.remove node eventType pid other) [.demonitor other]
  | notRegistered {node eventType pid}
      (absent : ∀ other, (pid, other) ∉ state.entriesAt (node, eventType)) :
      Transition ref state (.call (.unregister node eventType pid)) .ok state []
  | counted {node eventType} :
      Transition ref state (.call (.count node eventType))
        (.count (state.entriesAt (node, eventType)).length) state []
  | cleaned {node} :
      Transition ref state (.call (.cleanupNode node)) .ok
        (state.removeNode node)
        ((nodeKeysAndRefs state node).2.map .demonitor)
  | synced : Transition ref state (.call .sync) .ok state []
  | unknownCall :
      Transition ref state (.call .unknown) .unknownCall state []
  | dispatched {node eventType event} :
      Transition ref state (.cast (.dispatch node eventType event)) .noreply
        state ((state.entriesAt (node, eventType)).map fun (pid, _) =>
          .send pid eventType event)
  | unknownCast : Transition ref state (.cast .unknown) .noreply state []
  | removedDead {node eventType pid other}
      (live : state.monitors.lookup other = some (pid, node, eventType)) :
      Transition ref state (.info (.down other pid)) .noreply
        (state.remove node eventType pid other) []
  | staleDown {pid other} (stale : state.monitors.lookup other = none) :
      Transition ref state (.info (.down other pid)) .noreply state []
  | unexpected : Transition ref state (.info .unexpected) .noreply state []

theorem Transition.of_handleCall {ref : Ref}
    {state next : State Pid EventType Ref} {request : Call Pid EventType}
    {reply : Reply} {effects : List (Effect Pid EventType Event Ref)}
    (handled : handleCall ref request state = (reply, next, effects)) :
    Transition ref state (.call request) reply next effects := by
  cases request with
  | register node eventType pid =>
      simp only [handleCall, HandlerRegistry.alreadyRegistered] at handled
      cases found : keymember pid (state.entriesAt (node, eventType)) with
      | true =>
          obtain ⟨other, stored⟩ := keymember_eq_true.mp found
          simp only [found, if_true] at handled
          cases handled
          exact .alreadyRegistered stored
      | false =>
          simp only [found] at handled
          cases handled
          exact .registered (keymember_eq_false.mp found)
  | unregister node eventType pid =>
      simp only [handleCall, removeSubscription] at handled
      cases found : keyfind pid (state.entriesAt (node, eventType)) with
      | none =>
          simp only [found] at handled
          cases handled
          exact .notRegistered (keyfind_eq_none.mp found)
      | some entry =>
          obtain ⟨other, stored⟩ := entry
          simp only [found] at handled
          cases handled
          exact .unregistered (keyfind_eq_some found).2
  | count node eventType =>
      cases handled
      exact .counted
  | cleanupNode node =>
      cases handled
      exact .cleaned
  | sync =>
      cases handled
      exact .synced
  | unknown =>
      cases handled
      exact .unknownCall

theorem Transition.of_handleInfo {ref : Ref}
    {state next : State Pid EventType Ref} {signal : Info Pid Ref}
    (handled : handleInfo signal state = .ok next) :
    Transition ref state (.info signal : Message Pid EventType Event Ref)
      .noreply next [] := by
  cases signal with
  | down other deadPid =>
      simp only [handleInfo, removeDeadSubscriber] at handled
      cases found : state.monitors.lookup other with
      | none =>
          simp only [found] at handled
          cases handled
          exact .staleDown found
      | some owner =>
          obtain ⟨pid, node, eventType⟩ := owner
          simp only [found] at handled
          split at handled
          · rename_i same
            subst same
            cases handled
            exact .removedDead found
          · cases handled
  | unexpected =>
      cases handled
      exact .unexpected

theorem Transition.of_handle {ref : Ref} {state next : State Pid EventType Ref}
    {message : Message Pid EventType Event Ref} {reply : Reply}
    {effects : List (Effect Pid EventType Event Ref)}
    (handled : handle ref message state = .ok (reply, next, effects)) :
    Transition ref state message reply next effects := by
  cases message with
  | call request => exact .of_handleCall (Except.ok.inj handled)
  | cast request =>
      simp only [handle, Except.ok.injEq] at handled
      cases request with
      | dispatch node eventType event =>
          cases handled
          exact .dispatched
      | unknown =>
          cases handled
          exact .unknownCast
  | info signal =>
      cases signalled : handleInfo signal state with
      | error exception =>
          simp only [handle, signalled] at handled
          cases handled
      | ok after =>
          simp only [handle, signalled] at handled
          cases handled
          exact .of_handleInfo signalled

/-- A handled message raises only for a `:DOWN` of a live reference that names
another pid than the monitored one. -/
theorem handle_isOk (ref : Ref) (state : State Pid EventType Ref)
    (message : Message Pid EventType Event Ref)
    (matching : ∀ other deadPid, message = .info (.down other deadPid) →
      ∀ pid node eventType,
        state.monitors.lookup other = some (pid, node, eventType) →
          pid = deadPid) :
    ∃ reply next effects,
      handle ref message state = .ok (reply, next, effects) := by
  cases message with
  | call request => exact ⟨_, _, _, rfl⟩
  | cast request => exact ⟨_, _, _, rfl⟩
  | info signal =>
      cases signal with
      | unexpected => exact ⟨_, _, _, rfl⟩
      | down other deadPid =>
          simp only [handle, handleInfo, removeDeadSubscriber]
          cases found : state.monitors.lookup other with
          | none => exact ⟨_, _, _, rfl⟩
          | some owner =>
              obtain ⟨pid, node, eventType⟩ := owner
              have same : pid = deadPid :=
                matching other deadPid rfl pid node eventType found
              simp only [same, if_true]
              exact ⟨_, _, _, rfl⟩

theorem WellFormed.transition {ref : Ref} {state next : State Pid EventType Ref}
    {message : Message Pid EventType Event Ref} {reply : Reply}
    {effects : List (Effect Pid EventType Event Ref)}
    (wellFormed : WellFormed state)
    (fresh : ∀ node eventType pid,
      message = .call (.register node eventType pid) →
        state.monitors.lookup ref = none)
    (step : Transition ref state message reply next effects) :
    WellFormed next := by
  cases step with
  | registered absent => exact wellFormed.add (fresh _ _ _ rfl) absent
  | unregistered stored => exact wellFormed.remove stored
  | cleaned => exact wellFormed.removeNode _
  | removedDead live =>
      exact wellFormed.remove ((wellFormed.inverse _ _ _ _).mpr live)
  | alreadyRegistered => exact wellFormed
  | notRegistered => exact wellFormed
  | counted => exact wellFormed
  | synced => exact wellFormed
  | unknownCall => exact wellFormed
  | dispatched => exact wellFormed
  | unknownCast => exact wellFormed
  | staleDown => exact wellFormed
  | unexpected => exact wellFormed

end ExLibp2p.Node.HandlerRegistry
