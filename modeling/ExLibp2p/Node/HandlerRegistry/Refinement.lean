import ExLibp2p.Node.HandlerRegistry.Runs
import Mathlib.Data.Set.Card

namespace ExLibp2p.Node.HandlerRegistry

open ExLibp2p.Data

variable {Pid EventType Event Ref : Type}

/-! What the registry is for: a set of registrations. The references are kept
only to say which registration each was created for. -/

structure Registration (Pid EventType : Type) where
  node : Pid
  eventType : EventType
  pid : Pid

@[ext] structure Spec (Pid EventType Ref : Type) where
  registrations : Set (Registration Pid EventType)
  createdFor : Ref → Option (Registration Pid EventType)

structure Observation (Pid EventType Event : Type) where
  reply : Reply
  sent : Pid → List (EventType × Event)

namespace Spec

open Classical

def init : Spec Pid EventType Ref where
  registrations := ∅
  createdFor := fun _ => none

noncomputable def insert (spec : Spec Pid EventType Ref)
    (registration : Registration Pid EventType) (ref : Ref) :
    Spec Pid EventType Ref where
  registrations := Insert.insert registration spec.registrations
  createdFor := Function.update spec.createdFor ref (some registration)

noncomputable def delete (spec : Spec Pid EventType Ref)
    (gone : Set (Registration Pid EventType)) : Spec Pid EventType Ref where
  registrations := spec.registrations \ gone
  createdFor := fun ref => (spec.createdFor ref).filter (· ∉ gone)

noncomputable def next (spec : Spec Pid EventType Ref)
    (delivery : Delivery Pid EventType Event Ref) : Spec Pid EventType Ref :=
  match delivery.message with
  | .call (.register node eventType pid) =>
      if ⟨node, eventType, pid⟩ ∈ spec.registrations then spec
      else spec.insert ⟨node, eventType, pid⟩ delivery.ref
  | .call (.unregister node eventType pid) =>
      spec.delete {⟨node, eventType, pid⟩}
  | .call (.cleanupNode node) =>
      spec.delete {registration | registration.node = node}
  | .info (.down ref _) =>
      match spec.createdFor ref with
      | some registration => spec.delete {registration}
      | none => spec
  | _ => spec

noncomputable def reply (spec : Spec Pid EventType Ref)
    (message : Message Pid EventType Event Ref) : Reply :=
  match message with
  | .call (.count node eventType) =>
      .count (Set.ncard {pid | ⟨node, eventType, pid⟩ ∈ spec.registrations})
  | .call .unknown => .unknownCall
  | .call _ => .ok
  | _ => .noreply

noncomputable def sent (spec : Spec Pid EventType Ref)
    (message : Message Pid EventType Event Ref) (pid : Pid) :
    List (EventType × Event) :=
  match message with
  | .cast (.dispatch node eventType event) =>
      if ⟨node, eventType, pid⟩ ∈ spec.registrations then
        [(eventType, event)]
      else []
  | _ => []

/-- What a process receives while messages are handled: each event dispatched
for a node and a type while the process is registered for them. -/
noncomputable def deliveries (pid : Pid) :
    Spec Pid EventType Ref → List (Delivery Pid EventType Event Ref) →
      List (EventType × Event)
  | _, [] => []
  | spec, delivery :: rest =>
      spec.sent delivery.message pid ++ deliveries pid (spec.next delivery) rest

end Spec

noncomputable def specification : Machine (Spec Pid EventType Ref)
    (Delivery Pid EventType Event Ref) (Observation Pid EventType Event) where
  init := Spec.init
  step := fun spec delivery =>
    some (spec.next delivery,
      { reply := spec.reply delivery.message
        sent := spec.sent delivery.message })

theorem deliveries_append (pid : Pid) (spec : Spec Pid EventType Ref)
    (first : List (Delivery Pid EventType Event Ref))
    (last : Delivery Pid EventType Event Ref) :
    spec.deliveries pid (first ++ [last]) =
      spec.deliveries pid first ++
        (first.foldl Spec.next spec).sent last.message pid := by
  induction first generalizing spec with
  | nil => simp [Spec.deliveries]
  | cons delivery rest induction =>
      simp [Spec.deliveries, induction]

theorem specification_run
    {observed : List (Delivery Pid EventType Event Ref ×
      Observation Pid EventType Event)}
    {spec : Spec Pid EventType Ref}
    (run : Machine.Run specification observed spec) :
    spec = (observed.map Prod.fst).foldl Spec.next Spec.init ∧
      ∀ pid, observed.flatMap (fun entry => entry.2.sent pid) =
        Spec.init.deliveries pid (observed.map Prod.fst) := by
  induction run with
  | nil => exact ⟨rfl, fun _ => rfl⟩
  | snoc earlier taken induction =>
      simp only [specification, Option.some.injEq, Prod.mk.injEq] at taken
      obtain ⟨rfl, rfl⟩ := taken
      obtain ⟨reached, received⟩ := induction
      constructor
      · rw [reached]
        simp
      · intro pid
        rw [List.map_append, List.map_singleton, deliveries_append,
          List.flatMap_append, received pid, reached]
        simp

variable [DecidableEq Pid]

def sentTo (pid : Pid) (effects : List (Effect Pid EventType Event Ref)) :
    List (EventType × Event) :=
  effects.filterMap fun effect =>
    match effect with
    | .send target eventType event =>
        if target = pid then some (eventType, event) else none
    | _ => none

def received (pid : Pid)
    (trace : List (Delivery Pid EventType Event Ref ×
      Output Pid EventType Event Ref)) : List (EventType × Event) :=
  trace.flatMap fun entry =>
    match entry.2 with
    | .ok (_, effects) => sentTo pid effects
    | .error _ => []

theorem sentTo_map_demonitor (pid : Pid) (refs : List Ref) :
    sentTo pid (refs.map
      (.demonitor : Ref → Effect Pid EventType Event Ref)) = [] := by
  simp [sentTo, List.filterMap_map]

theorem sentTo_map_send {entries : List (Pid × Ref)}
    (distinct : (entries.map Prod.fst).Nodup) (pid : Pid)
    (eventType : EventType) (event : Event) :
    sentTo pid (entries.map fun (target, _) =>
      (.send target eventType event : Effect Pid EventType Event Ref)) =
        if pid ∈ entries.map Prod.fst then [(eventType, event)] else [] := by
  induction entries with
  | nil => rfl
  | cons entry rest induction =>
      rw [List.map_cons, List.nodup_cons] at distinct
      have tail := induction distinct.2
      unfold sentTo at tail
      cases Decidable.em (entry.1 = pid) with
      | inl same =>
          subst same
          simp only [sentTo, List.map_cons, List.filterMap_cons, tail,
            if_true, List.mem_cons, true_or, distinct.1, if_false]
      | inr different =>
          simp only [sentTo, List.map_cons, List.filterMap_cons, tail,
            different, if_false, List.mem_cons, Ne.symm different, false_or]

/-- What a step of the registry shows of a step of the specification. -/
def Observes (output : Output Pid EventType Event Ref)
    (observation : Observation Pid EventType Event) : Prop :=
  ∃ reply effects, output = .ok (reply, effects) ∧
    reply = observation.reply ∧
    ∀ pid, sentTo pid effects = observation.sent pid

theorem received_eq_flatMap
    {trace : List (Delivery Pid EventType Event Ref ×
      Output Pid EventType Event Ref)}
    {observed : List (Delivery Pid EventType Event Ref ×
      Observation Pid EventType Event)}
    (matched : List.Forall₂ Observes (trace.map Prod.snd)
      (observed.map Prod.snd))
    (pid : Pid) :
    received pid trace = observed.flatMap fun entry => entry.2.sent pid := by
  induction trace generalizing observed with
  | nil =>
      cases observed with
      | nil => rfl
      | cons seen later => cases matched
  | cons entry rest induction =>
      cases observed with
      | nil => cases matched
      | cons seen later =>
          cases matched with
          | cons shown tail =>
              obtain ⟨reply, effects, output, -, sent⟩ := shown
              have laterEqual := induction tail
              unfold received at laterEqual ⊢
              rw [List.flatMap_cons, List.flatMap_cons, output, laterEqual]
              exact congrArg (· ++ _) (sent pid)

variable [DecidableEq EventType] [DecidableEq Ref]

structure Represents (system : Monitored Pid EventType Ref)
    (spec : Spec Pid EventType Ref) : Prop where
  consistent : Consistent system
  registered : ∀ node eventType pid,
    ⟨node, eventType, pid⟩ ∈ spec.registrations ↔
      ∃ ref, (pid, ref) ∈ system.registry.entriesAt (node, eventType)
  createdFor : ∀ ref,
    spec.createdFor ref = (system.registry.monitors.lookup ref).map
      fun (pid, node, eventType) => ⟨node, eventType, pid⟩

theorem Represents.init :
    Represents (process : Machine (Monitored Pid EventType Ref)
      (Delivery Pid EventType Event Ref) _).init Spec.init where
  consistent := Consistent.init
  registered := by
    intro node eventType pid
    simp [Spec.init, process, State.init, State.entriesAt, Dict.get]
  createdFor := by
    intro ref
    simp [Spec.init, process, State.init]

theorem createdFor_remove {state : State Pid EventType Ref}
    (wellFormed : WellFormed state) {spec : Spec Pid EventType Ref}
    (createdFor : ∀ ref, spec.createdFor ref = (state.monitors.lookup ref).map
      fun (pid, node, eventType) => ⟨node, eventType, pid⟩)
    {node : Pid} {eventType : EventType} {pid : Pid} {removed : Ref}
    (stored : (pid, removed) ∈ state.entriesAt (node, eventType))
    (ref : Ref) :
    (spec.delete {⟨node, eventType, pid⟩}).createdFor ref =
      ((state.remove node eventType pid removed).monitors.lookup ref).map
        fun (pid, node, eventType) => ⟨node, eventType, pid⟩ := by
  simp only [Spec.delete, createdFor, State.remove, Dict.lookup_erase_ite]
  cases found : state.monitors.lookup ref with
  | none => simp
  | some other =>
      obtain ⟨otherPid, otherNode, otherType⟩ := other
      have otherStored := (wellFormed.inverse _ _ _ _).mpr found
      split
      · rename_i same
        subst same
        obtain ⟨rfl, rfl, rfl⟩ := wellFormed.ref_unique otherStored stored
        simp
      · rename_i different
        have kept : (⟨otherNode, otherType, otherPid⟩ :
            Registration Pid EventType) ≠ ⟨node, eventType, pid⟩ := by
          intro equal
          cases equal
          exact different
            (value_unique (wellFormed.distinct _) otherStored stored)
        simp [kept]

theorem registered_remove {state : State Pid EventType Ref}
    (wellFormed : WellFormed state) {spec : Spec Pid EventType Ref}
    (registered : ∀ node eventType pid,
      ⟨node, eventType, pid⟩ ∈ spec.registrations ↔
        ∃ ref, (pid, ref) ∈ state.entriesAt (node, eventType))
    (node : Pid) (eventType : EventType) (pid : Pid) (removed : Ref)
    (otherNode : Pid) (otherType : EventType) (otherPid : Pid) :
    ⟨otherNode, otherType, otherPid⟩ ∈
        (spec.delete {⟨node, eventType, pid⟩}).registrations ↔
      ∃ ref, (otherPid, ref) ∈
        (state.remove node eventType pid removed).entriesAt
          (otherNode, otherType) := by
  simp only [Spec.delete, Set.mem_sdiff, Set.mem_singleton_iff,
    Registration.mk.injEq, registered, mem_entriesAt_remove wellFormed]
  exact exists_and_right.symm

theorem represents_remove {system next : Monitored Pid EventType Ref}
    {spec : Spec Pid EventType Ref} (represents : Represents system spec)
    (consistent : Consistent next) {node : Pid} {eventType : EventType}
    {pid : Pid} {ref : Ref}
    (stored : (pid, ref) ∈ system.registry.entriesAt (node, eventType))
    (registry : next.registry =
      system.registry.remove node eventType pid ref) :
    Represents next (spec.delete {⟨node, eventType, pid⟩}) where
  consistent := consistent
  registered := by
    rw [registry]
    exact registered_remove represents.consistent.wellFormed
      represents.registered node eventType pid ref
  createdFor := by
    rw [registry]
    exact createdFor_remove represents.consistent.wellFormed
      represents.createdFor stored

theorem represents_add {system next : Monitored Pid EventType Ref}
    {spec : Spec Pid EventType Ref} (represents : Represents system spec)
    (consistent : Consistent next) {node : Pid} {eventType : EventType}
    {pid : Pid} {ref : Ref}
    (registry : next.registry =
      system.registry.add node eventType pid ref) :
    Represents next (spec.insert ⟨node, eventType, pid⟩ ref) where
  consistent := consistent
  registered := by
    intro otherNode otherType otherPid
    rw [registry]
    simp only [Spec.insert, Set.mem_insert_iff, Registration.mk.injEq,
      represents.registered, mem_entriesAt_add, Prod.mk.injEq]
    constructor
    · intro found
      rcases found with ⟨sameNode, sameType, samePid⟩ | ⟨other, stored⟩
      · exact ⟨ref, .inr ⟨sameNode, sameType, samePid, rfl⟩⟩
      · exact ⟨other, .inl stored⟩
    · intro found
      obtain ⟨other, stored | ⟨sameNode, sameType, samePid, -⟩⟩ := found
      · exact .inr ⟨other, stored⟩
      · exact .inl ⟨sameNode, sameType, samePid⟩
  createdFor := by
    intro other
    rw [registry]
    simp only [Spec.insert, State.add, Function.update_apply,
      Dict.lookup_insert_ite, represents.createdFor]
    split <;> rfl

theorem represents_removeNode {system next : Monitored Pid EventType Ref}
    {spec : Spec Pid EventType Ref} (represents : Represents system spec)
    (consistent : Consistent next) {node : Pid}
    (registry : next.registry = system.registry.removeNode node) :
    Represents next
      (spec.delete {registration | registration.node = node}) where
  consistent := consistent
  registered := by
    intro otherNode otherType otherPid
    rw [registry]
    simp only [Spec.delete, Set.mem_sdiff, Set.mem_ofPred_eq,
      represents.registered, mem_entriesAt_removeNode]
    exact exists_and_right.symm
  createdFor := by
    intro ref
    have wellFormed := represents.consistent.wellFormed
    rw [registry]
    simp only [Spec.delete, represents.createdFor, State.removeNode,
      Dict.lookup_drop]
    cases found : system.registry.monitors.lookup ref with
    | none => simp
    | some owner =>
        obtain ⟨pid, ownerNode, eventType⟩ := owner
        have stored := (wellFormed.inverse _ _ _ _).mpr found
        split
        · rename_i dropped
          obtain ⟨otherType, otherPid, other⟩ :=
            (mem_nodeRefs system.registry node ref).mp dropped
          obtain ⟨-, rfl, -⟩ := wellFormed.ref_unique stored other
          simp
        · rename_i kept
          have different : ownerNode ≠ node := by
            intro same
            subst same
            exact kept ((mem_nodeRefs system.registry ownerNode ref).mpr
              ⟨eventType, pid, stored⟩)
          simp [different]

theorem length_entriesAt {system : Monitored Pid EventType Ref}
    {spec : Spec Pid EventType Ref} (represents : Represents system spec)
    (node : Pid) (eventType : EventType) :
    (system.registry.entriesAt (node, eventType)).length =
      Set.ncard {pid | ⟨node, eventType, pid⟩ ∈ spec.registrations} := by
  have distinct :=
    represents.consistent.wellFormed.distinct (node, eventType)
  have pids : {pid | ⟨node, eventType, pid⟩ ∈ spec.registrations} =
      (((system.registry.entriesAt (node, eventType)).map Prod.fst).toFinset :
        Set Pid) := by
    ext pid
    simp [represents.registered]
  rw [pids, Set.ncard_coe_finset, List.toFinset_card_of_nodup distinct,
    List.length_map]

theorem sentTo_dispatch {system : Monitored Pid EventType Ref}
    {spec : Spec Pid EventType Ref} (represents : Represents system spec)
    (node : Pid) (eventType : EventType) (event : Event) (pid : Pid) :
    sentTo pid ((system.registry.entriesAt (node, eventType)).map
        fun (target, _) =>
          (.send target eventType event : Effect Pid EventType Event Ref)) =
      spec.sent
        (.cast (.dispatch node eventType event) :
          Message Pid EventType Event Ref) pid := by
  have listed : pid ∈
      (system.registry.entriesAt (node, eventType)).map Prod.fst ↔
        ⟨node, eventType, pid⟩ ∈ spec.registrations := by
    simp [represents.registered]
  rw [sentTo_map_send (represents.consistent.wellFormed.distinct _),
    Spec.sent]
  cases Classical.em (⟨node, eventType, pid⟩ ∈ spec.registrations) with
  | inl found => rw [if_pos found, if_pos (listed.mpr found)]
  | inr absent => rw [if_neg absent, if_neg (mt listed.mp absent)]

theorem delete_unregistered {system : Monitored Pid EventType Ref}
    {spec : Spec Pid EventType Ref} (represents : Represents system spec)
    {node : Pid} {eventType : EventType} {pid : Pid}
    (absent : ∀ ref,
      (pid, ref) ∉ system.registry.entriesAt (node, eventType)) :
    spec.delete {⟨node, eventType, pid⟩} = spec := by
  have unregistered : ⟨node, eventType, pid⟩ ∉ spec.registrations := by
    rw [represents.registered]
    exact fun ⟨ref, stored⟩ => absent ref stored
  apply Spec.ext
  · exact Set.sdiff_singleton_eq_self unregistered
  · funext ref
    simp only [Spec.delete, represents.createdFor]
    cases found : system.registry.monitors.lookup ref with
    | none => rfl
    | some owner =>
        obtain ⟨ownerPid, ownerNode, ownerType⟩ := owner
        have stored :=
          (represents.consistent.wellFormed.inverse _ _ _ _).mpr found
        have different : (⟨ownerNode, ownerType, ownerPid⟩ :
            Registration Pid EventType) ≠ ⟨node, eventType, pid⟩ := by
          intro equal
          cases equal
          exact absent ref stored
        simp [different]

/-- One handled message is one step of the specification, with the same reply
and the same messages to every process. -/
theorem represents_transition {system next : Monitored Pid EventType Ref}
    {spec : Spec Pid EventType Ref} (represents : Represents system spec)
    (consistent : Consistent next)
    {delivery : Delivery Pid EventType Event Ref} {reply : Reply}
    {effects : List (Effect Pid EventType Event Ref)}
    (transition : Transition delivery.ref system.registry delivery.message
      reply next.registry effects) :
    Represents next (spec.next delivery) ∧
      reply = spec.reply delivery.message ∧
      ∀ pid, sentTo pid effects = spec.sent delivery.message pid := by
  have unchanged (same : next.registry = system.registry) :
      Represents next spec :=
    { consistent := consistent
      registered := same ▸ represents.registered
      createdFor := same ▸ represents.createdFor }
  obtain ⟨message, ref⟩ := delivery
  generalize reached : next.registry = registry at transition
  cases transition with
  | @registered node eventType pid absent =>
      have new : ⟨node, eventType, pid⟩ ∉ spec.registrations := by
        rw [represents.registered]
        exact fun ⟨other, stored⟩ => absent other stored
      simp only [Spec.next, if_neg new]
      exact ⟨represents_add represents consistent reached, rfl, fun _ => rfl⟩
  | @alreadyRegistered node eventType pid other stored =>
      have old : ⟨node, eventType, pid⟩ ∈ spec.registrations :=
        (represents.registered node eventType pid).mpr ⟨other, stored⟩
      simp only [Spec.next, if_pos old]
      exact ⟨unchanged reached, rfl, fun _ => rfl⟩
  | unregistered stored =>
      exact ⟨represents_remove represents consistent stored reached, rfl,
        fun _ => rfl⟩
  | @notRegistered node eventType pid absent =>
      refine ⟨?_, rfl, fun _ => rfl⟩
      simp only [Spec.next]
      rw [delete_unregistered represents absent]
      exact unchanged reached
  | @counted node eventType =>
      refine ⟨unchanged reached, ?_, fun _ => rfl⟩
      exact congrArg Reply.count (length_entriesAt represents node eventType)
  | cleaned =>
      exact ⟨represents_removeNode represents consistent reached, rfl,
        fun pid => sentTo_map_demonitor pid _⟩
  | synced => exact ⟨unchanged reached, rfl, fun _ => rfl⟩
  | unknownCall => exact ⟨unchanged reached, rfl, fun _ => rfl⟩
  | @dispatched node eventType event =>
      exact ⟨unchanged reached, rfl,
        sentTo_dispatch represents node eventType event⟩
  | unknownCast => exact ⟨unchanged reached, rfl, fun _ => rfl⟩
  | @removedDead node eventType pid other live =>
      have stored :=
        (represents.consistent.wellFormed.inverse _ _ _ _).mpr live
      have owner := represents.createdFor other
      rw [live] at owner
      simp only [Spec.next, owner]
      exact ⟨represents_remove represents consistent stored reached, rfl,
        fun _ => rfl⟩
  | @staleDown pid other stale =>
      have owner := represents.createdFor other
      rw [stale] at owner
      simp only [Spec.next, owner]
      exact ⟨unchanged reached, rfl, fun _ => rfl⟩
  | unexpected => exact ⟨unchanged reached, rfl, fun _ => rfl⟩

def simulation : Machine.Simulation
    (process : Machine (Monitored Pid EventType Ref)
      (Delivery Pid EventType Event Ref) _)
    specification where
  related := Represents
  observes := Observes
  init := Represents.init
  step := by
    intro system delivery next output spec represents taken
    obtain ⟨reply, effects, rfl, -, transition, -⟩ :=
      represents.consistent.step taken
    obtain ⟨relatedNext, sameReply, sameSent⟩ := represents_transition
      represents (represents.consistent.preserved taken) transition
    exact ⟨spec.next delivery, _, rfl, relatedNext, reply, effects, rfl,
      sameReply, sameSent⟩

/-- The registry behaves as a set of registrations: over every run its replies
and its messages are those of the specification, its lists hold exactly the
specified registrations, and each process receives exactly the events that were
dispatched while it was registered for them, in dispatch order. -/
theorem process_refines_specification
    {trace : List (Delivery Pid EventType Event Ref ×
      Output Pid EventType Event Ref)}
    {system : Monitored Pid EventType Ref}
    (run : Machine.Run process trace system) :
    ∃ observed spec, Machine.Run specification observed spec ∧
      (∀ node eventType pid,
        ⟨node, eventType, pid⟩ ∈ spec.registrations ↔
          ∃ ref, (pid, ref) ∈ system.registry.entriesAt (node, eventType)) ∧
      observed.map Prod.fst = trace.map Prod.fst ∧
      List.Forall₂ Observes (trace.map Prod.snd) (observed.map Prod.snd) ∧
      ∀ pid, received pid trace =
        Spec.init.deliveries pid (trace.map Prod.fst) := by
  obtain ⟨observed, spec, specRun, represents, inputs, matched⟩ :=
    simulation.run run
  refine ⟨observed, spec, specRun, represents.registered, inputs, matched, ?_⟩
  intro pid
  rw [received_eq_flatMap matched, (specification_run specRun).2, inputs]

theorem process_refines_specification_churn :
    ∃ trace system observed spec,
      Machine.Run (process : Machine (Monitored Nat Nat Nat) _ _) trace system ∧
      Machine.Run specification observed spec ∧
      (∀ node eventType pid,
        ⟨node, eventType, pid⟩ ∈ spec.registrations ↔
          ∃ ref, (pid, ref) ∈ system.registry.entriesAt (node, eventType)) ∧
      observed.map Prod.fst = churn ∧
      List.Forall₂ Observes (trace.map Prod.snd) (observed.map Prod.snd) ∧
      ∀ pid, received pid trace = Spec.init.deliveries pid churn := by
  obtain ⟨trace, system, -, run, inputs⟩ :=
    Machine.exists_run_of_start (by decide : (process.start churn).isSome)
  obtain ⟨observed, spec, specRun, registered, same, matched, sent⟩ :=
    process_refines_specification run
  rw [inputs] at same sent
  exact ⟨trace, system, observed, spec, run, specRun, registered, same,
    matched, sent⟩

end ExLibp2p.Node.HandlerRegistry
