import ExLibp2p.Node.HandlerRegistry.Invariant
import Mathlib.Data.List.Nodup

namespace ExLibp2p.Node.HandlerRegistry

open ExLibp2p.Data

variable {Pid EventType Event Ref : Type}

def State.refs (state : State Pid EventType Ref) : List Ref :=
  state.subscriptions.entries.flatMap fun entry => entry.2.map Prod.snd

theorem entriesAt_of_mem [DecidableEq Pid] [DecidableEq EventType]
    {state : State Pid EventType Ref} {key : Pid × EventType}
    {entries : List (Pid × Ref)}
    (member : (⟨key, entries⟩ : Sigma fun _ => List (Pid × Ref)) ∈
      state.subscriptions.entries) :
    state.entriesAt key = entries := by
  rw [State.entriesAt, Dict.get, Dict.mem_entries_iff.mp member]
  rfl

theorem mem_refs [DecidableEq Pid] [DecidableEq EventType]
    {state : State Pid EventType Ref} {ref : Ref} :
    ref ∈ state.refs ↔
      ∃ node eventType pid, (pid, ref) ∈ state.entriesAt (node, eventType) := by
  rw [State.refs, List.mem_flatMap]
  constructor
  · intro found
    obtain ⟨⟨⟨node, eventType⟩, entries⟩, member, listed⟩ := found
    obtain ⟨⟨pid, _⟩, stored, rfl⟩ := List.mem_map.mp listed
    exact ⟨node, eventType, pid, mem_entriesAt.mpr ⟨entries, member, stored⟩⟩
  · intro found
    obtain ⟨node, eventType, pid, stored⟩ := found
    obtain ⟨entries, member, listed⟩ := mem_entriesAt.mp stored
    exact ⟨⟨(node, eventType), entries⟩, member, List.mem_map_of_mem listed⟩

structure Monitored (Pid EventType Ref : Type) where
  registry : State Pid EventType Ref
  issued : Dict Ref Pid

/-- A message taken from the mailbox, with the reference that
`Process.monitor/1` returns if handling it calls that function. -/
structure Delivery (Pid EventType Event Ref : Type) where
  message : Message Pid EventType Event Ref
  ref : Ref
  deriving DecidableEq

/-- What the virtual machine guarantees: a monitor reference is fresh, and a
`:DOWN` of a reference it issued carries the pid that was monitored. A `:DOWN`
may still come for a reference that is no longer, or never was, in use. -/
def Delivery.admissible [DecidableEq Pid] [DecidableEq Ref]
    (delivery : Delivery Pid EventType Event Ref) (issued : Dict Ref Pid) : Bool :=
  match delivery.message with
  | .call (.register _ _ _) => (issued.lookup delivery.ref).isNone
  | .info (.down ref deadPid) =>
      (issued.lookup ref).all fun pid => pid = deadPid
  | _ => true

def issue [DecidableEq Ref] (issued : Dict Ref Pid) :
    List (Effect Pid EventType Event Ref) → Dict Ref Pid
  | [] => issued
  | .monitor pid ref :: rest => issue (issued.insert ref pid) rest
  | _ :: rest => issue issued rest

@[simp] theorem issue_map_demonitor [DecidableEq Ref] (issued : Dict Ref Pid)
    (refs : List Ref) :
    issue issued (refs.map
      (.demonitor : Ref → Effect Pid EventType Event Ref)) = issued := by
  induction refs with
  | nil => rfl
  | cons ref refs induction => exact induction

@[simp] theorem issue_map_send [DecidableEq Ref] (issued : Dict Ref Pid)
    (entries : List (Pid × Ref)) (eventType : EventType) (event : Event) :
    issue issued (entries.map fun (pid, _) =>
      (.send pid eventType event : Effect Pid EventType Event Ref)) =
        issued := by
  induction entries with
  | nil => rfl
  | cons entry entries induction => exact induction

abbrev Output (Pid EventType Event Ref : Type) :=
  Except Exception (Reply × List (Effect Pid EventType Event Ref))

variable [DecidableEq Pid] [DecidableEq EventType] [DecidableEq Ref]

/-- The registry process. A callback that raises ends it, and its supervisor
starts it again with an empty state. -/
def process : Machine (Monitored Pid EventType Ref)
    (Delivery Pid EventType Event Ref) (Output Pid EventType Event Ref) where
  init := { registry := State.init, issued := ∅ }
  step := fun system delivery =>
    if delivery.admissible system.issued then
      match handle delivery.ref delivery.message system.registry with
      | .ok (reply, next, effects) =>
          some ({ registry := next, issued := issue system.issued effects },
            .ok (reply, effects))
      | .error exception =>
          some ({ system with registry := State.init }, .error exception)
    else
      none

/-- The invariant of the runs: the registry is well formed and every monitor it
holds was issued for the pid that it records. -/
structure Consistent (system : Monitored Pid EventType Ref) : Prop where
  wellFormed : WellFormed system.registry
  watched : ∀ ref pid node eventType,
    system.registry.monitors.lookup ref = some (pid, node, eventType) →
      system.issued.lookup ref = some pid

theorem Consistent.unwatched {system : Monitored Pid EventType Ref}
    (consistent : Consistent system) {ref : Ref}
    (fresh : (system.issued.lookup ref).isNone) :
    system.registry.monitors.lookup ref = none := by
  cases found : system.registry.monitors.lookup ref with
  | none => rfl
  | some owner =>
      obtain ⟨pid, node, eventType⟩ := owner
      rw [consistent.watched ref pid node eventType found] at fresh
      contradiction

/-- A step from a consistent state does not raise, and is one of the listed
transitions. -/
theorem Consistent.step {system next : Monitored Pid EventType Ref}
    {delivery : Delivery Pid EventType Event Ref}
    {output : Output Pid EventType Event Ref}
    (consistent : Consistent system)
    (taken : process.step system delivery = some (next, output)) :
    ∃ reply effects, output = .ok (reply, effects) ∧
      next.issued = issue system.issued effects ∧
      Transition delivery.ref system.registry delivery.message reply
        next.registry effects ∧
      (∀ node eventType pid,
        delivery.message = .call (.register node eventType pid) →
          system.registry.monitors.lookup delivery.ref = none) := by
  simp only [process] at taken
  split at taken
  · rename_i admitted
    have matching : ∀ other deadPid,
        delivery.message = .info (.down other deadPid) →
        ∀ pid node eventType,
          system.registry.monitors.lookup other =
            some (pid, node, eventType) → pid = deadPid := by
      intro other deadPid isDown pid node eventType found
      have issued := consistent.watched other pid node eventType found
      simpa [Delivery.admissible, isDown, issued] using admitted
    obtain ⟨reply, registry, effects, handled⟩ :=
      handle_isOk delivery.ref system.registry delivery.message matching
    rw [handled] at taken
    simp only [Option.some.injEq, Prod.mk.injEq] at taken
    obtain ⟨rfl, rfl⟩ := taken
    refine ⟨reply, effects, rfl, rfl, Transition.of_handle handled, ?_⟩
    intro node eventType pid isRegister
    apply consistent.unwatched
    simpa [Delivery.admissible, isRegister] using admitted
  · contradiction

theorem Consistent.preserved {system next : Monitored Pid EventType Ref}
    {delivery : Delivery Pid EventType Event Ref}
    {output : Output Pid EventType Event Ref}
    (consistent : Consistent system)
    (taken : process.step system delivery = some (next, output)) :
    Consistent next := by
  obtain ⟨reply, effects, -, issued, transition, fresh⟩ :=
    consistent.step taken
  refine ⟨consistent.wellFormed.transition fresh transition, ?_⟩
  intro ref pid node eventType found
  rw [issued]
  generalize delivery.message = message at transition
  generalize next.registry = registry at transition found
  cases transition with
  | registered absent =>
      simp only [issue, Dict.lookup_insert_ite]
      rw [State.add, Dict.lookup_insert_ite] at found
      split at found
      · rename_i same
        cases found
        simp [same]
      · rename_i different
        rw [if_neg different]
        exact consistent.watched ref pid node eventType found
  | unregistered stored =>
      exact consistent.watched ref pid node eventType
        (Dict.lookup_of_erase found)
  | removedDead live =>
      exact consistent.watched ref pid node eventType
        (Dict.lookup_of_erase found)
  | cleaned =>
      rw [issue_map_demonitor]
      exact consistent.watched ref pid node eventType
        (Dict.lookup_of_drop found)
  | dispatched =>
      rw [issue_map_send]
      exact consistent.watched ref pid node eventType found
  | _ => exact consistent.watched ref pid node eventType found

theorem Consistent.init :
    Consistent (process : Machine (Monitored Pid EventType Ref)
      (Delivery Pid EventType Event Ref) _).init where
  wellFormed := WellFormed.init
  watched := by
    intro ref pid node eventType found
    simp [process, State.init] at found

theorem Consistent.of_run
    {trace : List (Delivery Pid EventType Event Ref ×
      Output Pid EventType Event Ref)}
    {system : Monitored Pid EventType Ref}
    (run : Machine.Run process trace system) : Consistent system :=
  run.invariant (fun _ reached => Consistent reached) Consistent.init
    fun _ consistent taken => consistent.preserved taken

theorem WellFormed.refs_nodup {state : State Pid EventType Ref}
    (wellFormed : WellFormed state) : state.refs.Nodup := by
  rw [State.refs, List.nodup_flatMap]
  constructor
  · intro entry member
    obtain ⟨⟨node, eventType⟩, entries⟩ := entry
    obtain rfl := entriesAt_of_mem member
    apply List.Nodup.map_on
    · intro first firstMember second secondMember same
      obtain ⟨firstPid, ref⟩ := first
      obtain ⟨secondPid, _⟩ := second
      obtain rfl : ref = _ := same
      obtain ⟨rfl, -, -⟩ := wellFormed.ref_unique firstMember secondMember
      rfl
    · exact (wellFormed.distinct _).of_map Prod.fst
  · have keys : state.subscriptions.entries.Pairwise
        (fun first second => first.1 ≠ second.1) := by
      have nodup := state.subscriptions.keys_nodup
      rwa [AList.keys, List.keys, List.Nodup, List.pairwise_map] at nodup
    refine keys.imp_of_mem ?_
    intro first second firstMember secondMember different
    obtain ⟨⟨firstNode, firstType⟩, firstEntries⟩ := first
    obtain ⟨⟨secondNode, secondType⟩, secondEntries⟩ := second
    obtain rfl := entriesAt_of_mem firstMember
    obtain rfl := entriesAt_of_mem secondMember
    intro ref inFirst inSecond
    obtain ⟨⟨firstPid, _⟩, firstStored, rfl⟩ := List.mem_map.mp inFirst
    obtain ⟨⟨secondPid, ref⟩, secondStored, same⟩ := List.mem_map.mp inSecond
    obtain rfl : ref = _ := same
    obtain ⟨-, rfl, rfl⟩ := wellFormed.ref_unique firstStored secondStored
    exact different rfl

theorem WellFormed.mem_refs_iff {state : State Pid EventType Ref}
    (wellFormed : WellFormed state) (ref : Ref) :
    ref ∈ state.refs ↔ (state.monitors.lookup ref).isSome := by
  rw [mem_refs, Option.isSome_iff_exists]
  constructor
  · intro found
    obtain ⟨node, eventType, pid, stored⟩ := found
    exact ⟨_, (wellFormed.inverse node eventType pid ref).mp stored⟩
  · intro found
    obtain ⟨⟨pid, node, eventType⟩, owner⟩ := found
    exact ⟨node, eventType, pid,
      (wellFormed.inverse node eventType pid ref).mpr owner⟩

/-- Representation invariant of every reachable registry: the maps are inverse,
no key is empty, no list repeats a pid, every reference occurs exactly once, and
no message made a callback raise. -/
theorem process_invariant
    {trace : List (Delivery Pid EventType Event Ref ×
      Output Pid EventType Event Ref)}
    {system : Monitored Pid EventType Ref}
    (run : Machine.Run process trace system) :
    WellFormed system.registry ∧
      system.registry.refs.Nodup ∧
      (∀ ref, ref ∈ system.registry.refs ↔
        (system.registry.monitors.lookup ref).isSome) ∧
      ∀ entry ∈ trace, ∃ reply effects, entry.2 = .ok (reply, effects) := by
  have wellFormed := (Consistent.of_run run).wellFormed
  refine ⟨wellFormed, wellFormed.refs_nodup, wellFormed.mem_refs_iff, ?_⟩
  intro entry member
  obtain ⟨first, second, rfl⟩ := List.append_of_mem member
  obtain ⟨before, after, earlier, taken, -⟩ := run.step_of_mem
  obtain ⟨reply, effects, output, -⟩ := (Consistent.of_run earlier).step taken
  exact ⟨reply, effects, output⟩

/-- Two subscribers of node `0`, one of them registered twice; the first dies,
its `:DOWN` comes a second time, the other is unregistered and registered
again, and the node is cleaned up. -/
def churn : List (Delivery Nat Nat Nat Nat) :=
  [⟨.call (.register 0 7 1), 10⟩, ⟨.call (.register 0 7 1), 11⟩,
    ⟨.call (.register 0 7 2), 11⟩, ⟨.cast (.dispatch 0 7 99), 12⟩,
    ⟨.info (.down 10 1), 12⟩, ⟨.info (.down 10 1), 12⟩,
    ⟨.call (.unregister 0 7 2), 12⟩, ⟨.call (.register 0 7 2), 12⟩,
    ⟨.call (.count 0 7), 13⟩, ⟨.call (.cleanupNode 0), 13⟩]

theorem process_invariant_churn :
    ∃ trace system, Machine.Run process trace system ∧
      trace.map Prod.fst = churn ∧
      WellFormed system.registry ∧ system.registry.refs.Nodup ∧
      (∀ ref, ref ∈ system.registry.refs ↔
        (system.registry.monitors.lookup ref).isSome) ∧
      ∀ entry ∈ trace, ∃ reply effects,
        entry.2 = (.ok (reply, effects) : Output Nat Nat Nat Nat) := by
  obtain ⟨trace, system, -, run, inputs⟩ :=
    Machine.exists_run_of_start (by decide : (process.start churn).isSome)
  exact ⟨trace, system, run, inputs, process_invariant run⟩

end ExLibp2p.Node.HandlerRegistry
