import ExLibp2p.Data.Component
import ExLibp2p.Native.CommandChannel.Messages
import ExLibp2p.Node.Agreement
import ExLibp2p.Node.HandlerRegistry.Subscribed

namespace ExLibp2p.Node.EventPath

open ExLibp2p.Data
open ExLibp2p.Erlang
open ExLibp2p.Native
open ExLibp2p.Native.CommandChannel (channel effectsBy messagesTo)
open ExLibp2p.Native.SwarmLoop (Settings)

/-! The way of an event: from the swarm loop into the mailbox of the node, from
its callback into the mailbox of the registry, and from there to the
subscribers. Messages to the node that dispatch nothing are left out. -/

abbrev Registry (Ref : Type) :=
  HandlerRegistry.System LocalPid EventType Event Ref

abbrev RegistryAction (Ref : Type) :=
  HandlerRegistry.Action LocalPid EventType Event Ref

abbrev RegistryMessage (Ref : Type) :=
  HandlerRegistry.Message LocalPid EventType Event Ref

abbrev RegistryEffect (Ref : Type) :=
  HandlerRegistry.Effect LocalPid EventType Event Ref

/-- Where the node is in `handle_info/2`: between two messages, with casts left
to make, or on its way out after the callback has raised. -/
inductive Phase
  | idle
  | casting (events : List (EventType × Event)) (raised : Option Exception)
  | terminating

structure System (Ref : Type) where
  native : CommandChannel.State
  inbox : List Term
  phase : Phase
  registry : Registry Ref

inductive Input (Ref : Type)
  | native (action : CommandChannel.Action)
  | receive
  | cast
  | registry (action : RegistryAction Ref)

inductive Output (Ref : Type)
  | native (output : CommandChannel.Output)
  | received (message : Term)
  | cast (event : EventType × Event)
  | returned
  | registry
      (handling : Option (RegistryMessage Ref × List (RegistryEffect Ref)))
      (result : Except HandlerRegistry.Exception HandlerRegistry.Reply)

abbrev History (Ref : Type) := List (Input Ref × Output Ref)

section Steps

variable {Ref : Type} (node : LocalPid)

/-- Messages to a process that has ended are gone, and its mailbox with it. -/
def System.arrive (system : System Ref) (messages : List Term) : System Ref :=
  { system with
    inbox :=
      if node ∈ system.registry.dead then [] else system.inbox ++ messages }

def System.receive (system : System Ref) : Option (System Ref × Output Ref) :=
  match system.phase, system.inbox with
  | .idle, message :: rest =>
      let handled := handleInfo message
      some ({ system with
          inbox := rest
          phase := .casting handled.dispatched handled.raised },
        .received message)
  | _, _ => none

/-- No process but the node casts its events. -/
def isOwn : RegistryAction Ref → Bool
  | .cast (.dispatch other _ _) => other = node
  | _ => false

variable [DecidableEq Ref]

def System.cast (system : System Ref) : Option (System Ref × Output Ref) :=
  match system.phase with
  | .casting (event :: events) raised =>
      (HandlerRegistry.system.step system.registry
        (.cast (.dispatch node event.1 event.2))).map fun (registry, _) =>
          ({ system with registry, phase := .casting events raised },
            .cast event)
  | .casting [] raised =>
      some ({ system with
          phase := if raised.isSome then .terminating else .idle },
        .returned)
  | _ => none

def eventPath (settings : Settings) :
    Machine (System Ref) (Input Ref) (Output Ref) where
  init :=
    { native := (channel settings).init
      inbox := []
      phase := .idle
      registry := HandlerRegistry.system.init }
  step := fun system input =>
    match input with
    | .native action =>
        ((channel settings).step system.native action).map
          fun (native, output) =>
            (({ system with native } : System Ref).arrive node
              (messagesTo node (effectsBy output)), .native output)
    | .receive =>
        if node ∈ system.registry.dead then none else system.receive
    | .cast =>
        if node ∈ system.registry.dead then none else system.cast node
    | .registry action =>
        if isOwn node action then none
        else
          (HandlerRegistry.system.step system.registry action).map
            fun (registry, result) =>
              (({ system with registry } : System Ref).arrive node [],
                .registry (system.registry.handling action) result)

end Steps

inductive Move {Ref : Type} [DecidableEq Ref] (node : LocalPid)
    (settings : Settings) (system next : System Ref) :
    Input Ref → Output Ref → Prop
  | native {action : CommandChannel.Action} {native : CommandChannel.State}
      {output : CommandChannel.Output}
      (taken : (channel settings).step system.native action =
        some (native, output))
      (same : next = ({ system with native } : System Ref).arrive node
        (messagesTo node (effectsBy output))) :
      Move node settings system next (.native action) (.native output)
  | received {message : Term} {rest : List Term}
      (idle : system.phase = .idle) (waiting : system.inbox = message :: rest)
      (same : next = { system with
        inbox := rest
        phase := .casting (handleInfo message).dispatched
          (handleInfo message).raised }) :
      Move node settings system next .receive (.received message)
  | cast {event : EventType × Event} {events : List (EventType × Event)}
      {raised : Option Exception} {registry : Registry Ref}
      {result : Except HandlerRegistry.Exception HandlerRegistry.Reply}
      (phase : system.phase = .casting (event :: events) raised)
      (taken : HandlerRegistry.system.step system.registry
        (.cast (.dispatch node event.1 event.2)) = some (registry, result))
      (same : next =
        { system with registry, phase := .casting events raised }) :
      Move node settings system next .cast (.cast event)
  | returned {raised : Option Exception} {phase : Phase}
      (done : system.phase = .casting [] raised)
      (left : phase = .idle ∨ phase = .terminating)
      (same : next = { system with phase }) :
      Move node settings system next .cast .returned
  | registry {action : RegistryAction Ref} {registry : Registry Ref}
      {result : Except HandlerRegistry.Exception HandlerRegistry.Reply}
      (foreign : isOwn node action = false)
      (taken : HandlerRegistry.system.step system.registry action =
        some (registry, result))
      (same : next = ({ system with registry } : System Ref).arrive node []) :
      Move node settings system next (.registry action)
        (.registry (system.registry.handling action) result)

section Runs

variable {Ref : Type} [DecidableEq Ref] {node : LocalPid}
  {settings : Settings} {system next : System Ref} {input : Input Ref}
  {output : Output Ref}

theorem Move.of_cast (cast : system.cast node = some (next, output)) :
    Move node settings system next .cast output := by
  unfold System.cast at cast
  split at cast
  · rename_i event events raised phase
    rw [Option.map_eq_some_iff] at cast
    obtain ⟨⟨registry, result⟩, taken, same⟩ := cast
    cases same
    exact .cast phase taken rfl
  · rename_i raised done
    cases cast
    refine .returned done ?_ rfl
    cases raised with
    | none => exact .inl rfl
    | some exception => exact .inr rfl
  · cases cast

theorem Move.of_receive (receive : system.receive = some (next, output)) :
    Move node settings system next .receive output := by
  unfold System.receive at receive
  split at receive
  · rename_i message rest idle waiting
    cases receive
    exact .received idle waiting rfl
  · cases receive

theorem Move.of_step
    (taken : (eventPath node settings).step system input =
      some (next, output)) :
    Move node settings system next input output := by
  cases input with
  | native action =>
      simp only [eventPath, Option.map_eq_some_iff] at taken
      obtain ⟨⟨native, reported⟩, stepped, same⟩ := taken
      cases same
      exact .native stepped rfl
  | receive =>
      simp only [eventPath] at taken
      split at taken
      · cases taken
      · exact .of_receive taken
  | cast =>
      simp only [eventPath] at taken
      split at taken
      · cases taken
      · exact .of_cast taken
  | registry action =>
      simp only [eventPath] at taken
      split at taken
      · cases taken
      · rename_i foreign
        rw [Option.map_eq_some_iff] at taken
        obtain ⟨⟨registry, result⟩, stepped, same⟩ := taken
        cases same
        exact .registry (Bool.eq_false_iff.mpr foreign) stepped rfl

def registryPart (node : LocalPid) (settings : Settings) :
    Machine.Component
      (eventPath node settings :
        Machine (System Ref) (Input Ref) (Output Ref))
      (HandlerRegistry.system :
        Machine (Registry Ref) (RegistryAction Ref) _) where
  view := System.registry
  sees := fun entry =>
    match entry with
    | (_, .cast event) =>
        some (.cast (.dispatch node event.1 event.2), .ok .noreply)
    | (.registry action, .registry _ result) => some (action, result)
    | _ => none
  init := rfl
  follows := by
    intro system input next output taken
    cases Move.of_step taken with
    | native stepped same =>
        subst same
        rfl
    | received idle waiting same =>
        subst same
        rfl
    | cast phase stepped same =>
        subst same
        cases stepped
        rfl
    | returned done left same =>
        subst same
        rfl
    | registry foreign stepped same =>
        subst same
        exact stepped

end Runs

end ExLibp2p.Node.EventPath
