import ExLibp2p.Data.Conduit
import ExLibp2p.Node.EventPath

namespace ExLibp2p.Node.EventPath

open ExLibp2p.Data
open ExLibp2p.Data.Machine (Kept)
open ExLibp2p.Erlang
open ExLibp2p.Native
open ExLibp2p.Native.CommandChannel
  (Attached KeepsHandler Moves channel effectsBy messagesTo
    messagesTo_handleEvent messagesTo_of_turn translation effects_of_event)
open ExLibp2p.Native.SwarmLoop (Settings Answers Effect Instant Locals)
open ExLibp2p.Node.HandlerRegistry
  (Reported Stays Subscribed Tracked dispatches sentTo)

/-! What the loop tells the node of an event, as the paths of the messages. -/

/-- An inbound request goes by the identifier under which it was stored. -/
def pathOf (event : SwarmEvent) (effects : List Effect) : Option Path :=
  match event with
  | .requestReceived peer requestId request _ =>
      (SwarmLoop.stored effects).head?.map fun stored =>
        .inboundRequest peer requestId stored.1 request
  | .responseReceived peer requestId response =>
      some (.outboundResponse peer requestId response)
  | .mdnsDiscovered peers => some (.peersDiscovered peers)
  | .mdnsExpired => none
  | event => some (.swarmEvent event)

def dispatched (message : Term) : List (EventType × Event) :=
  (handleInfo message).dispatched

theorem encodeBinary_of_allocates {allocates : Nat → Bool}
    (allocated : ∀ size, allocates size = true) :
    Events.encodeBinary allocates = .binary := by
  funext data
  rw [Events.encodeBinary, if_pos (allocated data.length)]

theorem dispatched_message {allocates : Nat → Bool}
    (allocated : ∀ size, allocates size = true)
    {name : Native.PeerId → PeerId} {path : Path}
    (named : Named name path.peers) :
    (path.message allocates).toList.flatMap dispatched =
      path.events name .binary := by
  cases sent : path.message allocates with
  | none =>
      cases path with
      | peersDiscovered peers =>
          cases peers with
          | nil => rfl
          | cons peer rest => cases sent
      | _ => cases sent
  | some message =>
      have agrees := agrees_of_message sent named
      rw [encodeBinary_of_allocates allocated] at agrees
      rw [Option.toList_some, List.flatMap_singleton, dispatched,
        handleInfo_of_agrees agrees]

theorem translation_eq_message (settings : Settings) (locals : Locals)
    (now : Instant) (answers : Answers) (event : SwarmEvent) :
    translation locals answers event =
      (pathOf event (SwarmLoop.handleEvent settings locals now answers
        event).2).bind (Path.message answers.allocates) := by
  cases event with
  | requestReceived peer requestId request channel =>
      simp only [translation, pathOf, SwarmLoop.handleEvent,
        SwarmLoop.receiveRequest]
      split <;> rfl
  | _ => rfl

section Terms

variable {Ref : Type} (name : Native.PeerId → PeerId) (node pid : LocalPid)
  (eventType : EventType)

def meant (event : SwarmEvent) (effects : List Effect) :
    List (EventType × Event) :=
  ((pathOf event effects).map (Path.events name .binary)).getD []

def happened (entry : Input Ref × Output Ref) : List (EventType × Event) :=
  match entry.2, entry.1 with
  | .native (.turned _ effects), .native (.turn (.event event _ _) _) =>
      meant name event effects
  | _, _ => []

/-- What a subscriber is sent while the registry handles an event of the
node. -/
def delivered (entry : Input Ref × Output Ref) : List (EventType × Event) :=
  match entry.2 with
  | .registry (some (.cast (.dispatch other _ _), effects)) _ =>
      if other = node then
        (sentTo pid effects).filter fun event => event.1 = eventType
      else
        []
  | _ => []

def Phase.left : Phase → List (EventType × Event)
  | .casting events _ => events
  | _ => []

/-- The events on their way, the oldest first: in the mailbox of the registry,
in the callback of the node and in its mailbox. -/
def System.underWay (system : System Ref) : List (EventType × Event) :=
  dispatches node system.registry.mailbox ++
    (system.phase.left ++ system.inbox.flatMap dispatched)

/-- The node runs, its events are sent to it, and the subscriber is registered
with it for good. -/
structure Connected (system : System Ref) : Prop where
  attached : Attached node system.native
  running : node ∉ system.registry.dead
  subscribed : Subscribed system.registry node eventType pid

/-- A turn that reports an event comes to its end, binaries are allocated, and
the node accepts the identifiers of the peers. -/
def Clear (action : CommandChannel.Action) (effects : List Effect) : Prop :=
  match action with
  | .turn (.event event _ answers) panics =>
      panics = none ∧ (∀ size, answers.allocates size = true) ∧
        ∀ path, pathOf event effects = some path → Named name path.peers
  | _ => True

/-- No other process takes the events over, and neither the node nor the
subscriber goes. -/
def Undisturbed (entry : Input Ref × Output Ref) : Prop :=
  match entry with
  | (.native action, .native output) =>
      KeepsHandler node output ∧ Clear name action (effectsBy output)
  | (.registry action, _) =>
      Stays node eventType pid action ∧ action ≠ .exit node
  | _ => True

structure Sound [DecidableEq Ref] (system : System Ref) : Prop where
  tracked : Tracked system.registry
  reported : Reported system.registry
  connected : Connected node pid eventType system

end Terms

section Turns

variable {Ref : Type} {name : Native.PeerId → PeerId} {node : LocalPid}
  {settings : Settings}

theorem silent {loop after : SwarmLoop.State} {turn : SwarmLoop.Turn}
    {effects : List Effect} {panics : Option Nat}
    (stepped : (SwarmLoop.swarmLoop settings).step loop turn =
      some (after, effects))
    (noEvent : ∀ event now answers, turn ≠ .event event now answers) :
    messagesTo node (panics.elim effects effects.take) = [] := by
  have quiet : messagesTo node effects = [] := by
    rcases SwarmLoop.swarmLoop_step_eq_some stepped with
      ⟨-, locals, -, turned⟩ | ⟨-, rfl, -⟩
    · exact messagesTo_of_turn noEvent turned
    · rfl
  cases panics with
  | none => exact quiet
  | some count =>
      apply List.eq_nil_of_subset_nil
      rw [← quiet]
      exact List.filterMap_subset _ (List.take_subset count effects)

/-- What one turn sends to the node comes to the events that it reports. -/
theorem dispatched_messages {native after : CommandChannel.State}
    {action : CommandChannel.Action} {output : CommandChannel.Output}
    (attached : Attached node native)
    (clear : Clear name action (effectsBy output))
    (taken : (channel settings).step native action = some (after, output)) :
    happened name
        ((.native action, .native output) : Input Ref × Output Ref) =
      (messagesTo node (effectsBy output)).flatMap dispatched := by
  cases Moves.of_step taken with
  | @turned turn panics queue loop effects dequeued stepped same =>
      have running := CommandChannel.running_of_step stepped
      cases turn with
      | event event now answers =>
          obtain ⟨rfl, allocated, named⟩ := clear
          change meant name event effects =
            (messagesTo node effects).flatMap dispatched
          have reported := effects_of_event stepped
          rw [reported, messagesTo_handleEvent (attached.handler running),
            translation_eq_message settings _ now, ← reported, meant]
          cases told : pathOf event effects with
          | none => rfl
          | some path =>
              exact (dispatched_message allocated (named path told)).symm
      | tick now =>
          change [] = (messagesTo node
            (panics.elim effects effects.take)).flatMap dispatched
          rw [silent stepped nofun]
          rfl
      | command command answers =>
          change [] = (messagesTo node
            (panics.elim effects effects.take)).flatMap dispatched
          rw [silent stepped nofun]
          rfl
  | _ => rfl

end Turns

section Steps

variable {Ref : Type} [DecidableEq Ref] {name : Native.PeerId → PeerId}
  {node pid : LocalPid} {eventType : EventType} {settings : Settings}
  {system next : System Ref}

theorem Sound.registry {registry : Registry Ref} {action : RegistryAction Ref}
    {result : Except HandlerRegistry.Exception HandlerRegistry.Reply}
    (sound : Sound node pid eventType system)
    (stays : Stays node eventType pid action) (running : action ≠ .exit node)
    (taken : HandlerRegistry.system.step system.registry action =
      some (registry, result))
    (same : next.registry = registry) (native : next.native = system.native) :
    Sound node pid eventType next := by
  obtain ⟨tracked, reported, connected⟩ := sound
  subst same
  refine ⟨tracked.preserved taken, reported.preserved tracked taken, ?_, ?_, ?_⟩
  · rw [native]
    exact connected.attached
  · intro ended
    rcases HandlerRegistry.dead_step tracked taken ended with old | isExit
    · exact connected.running old
    · exact running isExit
  · exact connected.subscribed.preserved tracked reported stays taken

theorem Sound.keep (sound : Sound node pid eventType system)
    (registry : next.registry = system.registry)
    (attached : Attached node next.native) : Sound node pid eventType next := by
  obtain ⟨tracked, reported, connected⟩ := sound
  rw [← registry] at tracked reported
  refine ⟨tracked, reported, attached, ?_, ?_⟩
  · rw [registry]
    exact connected.running
  · rw [registry]
    exact connected.subscribed

theorem sound_kept :
    Kept (eventPath node settings : Machine (System Ref) _ _)
      (Sound node pid eventType) (Undisturbed name node pid eventType) := by
  intro system input next output sound undisturbed taken
  cases Move.of_step taken with
  | native stepped same =>
      subst same
      exact sound.keep rfl
        (sound.connected.attached.preserved undisturbed.1 (.of_step stepped))
  | received idle waiting same =>
      subst same
      exact sound.keep rfl sound.connected.attached
  | cast phase stepped same =>
      subst same
      refine sound.registry ?_ ?_ stepped rfl rfl
      · exact ⟨nofun, nofun, nofun⟩
      · exact nofun
  | returned done left same =>
      subst same
      exact sound.keep rfl sound.connected.attached
  | registry foreign stepped same =>
      subst same
      exact sound.registry undisturbed.1 undisturbed.2 stepped rfl rfl

end Steps

end ExLibp2p.Node.EventPath
