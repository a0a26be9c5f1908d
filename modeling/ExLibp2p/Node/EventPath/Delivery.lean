import ExLibp2p.Node.EventPath.Connected

namespace ExLibp2p.Node.EventPath

open ExLibp2p.Data
open ExLibp2p.Data.Machine (Conduit Steps)
open ExLibp2p.Native
open ExLibp2p.Native.CommandChannel (effectsBy messagesTo)
open ExLibp2p.Native.SwarmLoop (Settings lanSettings requester)
open ExLibp2p.Node.HandlerRegistry
  (dispatches dispatches_step sentTo sentTo_of_handling)

section Entries

variable {Ref : Type} (node : LocalPid)

def arrived (entry : Input Ref × Output Ref) : List (EventType × Event) :=
  match entry.2 with
  | .native output => (messagesTo node (effectsBy output)).flatMap dispatched
  | _ => []

def received (entry : Input Ref × Output Ref) : List (EventType × Event) :=
  match entry.2 with
  | .received message => dispatched message
  | _ => []

def castBy (entry : Input Ref × Output Ref) : List (EventType × Event) :=
  match entry.2 with
  | .cast event => [event]
  | _ => []

def handledBy (entry : Input Ref × Output Ref) : List (EventType × Event) :=
  match entry.2 with
  | .registry handling _ => dispatches node (handling.toList.map Prod.fst)
  | _ => []

end Entries

section Registry

variable {Ref : Type} {node pid : LocalPid} {eventType : EventType}

theorem dispatched_own (event : EventType × Event) :
    HandlerRegistry.Action.dispatched node
      (.cast (.dispatch node event.1 event.2) : RegistryAction Ref) =
        [event] := by
  simp [HandlerRegistry.Action.dispatched, dispatches,
    HandlerRegistry.asDispatch]

theorem dispatched_of_foreign {action : RegistryAction Ref}
    (foreign : isOwn node action = false) : action.dispatched node = [] := by
  cases action with
  | cast request =>
      cases request with
      | dispatch other eventType event =>
          have different : ¬other = node := of_decide_eq_false foreign
          simp [HandlerRegistry.Action.dispatched, dispatches,
            HandlerRegistry.asDispatch, different]
      | unknown => rfl
  | _ => rfl

variable [DecidableEq Ref] {system : System Ref} {action : RegistryAction Ref}
  {registry : Registry Ref}
  {result : Except HandlerRegistry.Exception HandlerRegistry.Reply}

theorem filter_sentTo {type : EventType} {event : Event}
    {effects : List (RegistryEffect Ref)}
    (sound : Sound node pid eventType system)
    (taken : HandlerRegistry.system.step system.registry action =
      some (registry, result))
    (handling : system.registry.handling action =
      some (.cast (.dispatch node type event), effects)) :
    (sentTo pid effects).filter (fun sent => sent.1 = eventType) =
      [(type, event)].filter fun sent => sent.1 = eventType := by
  rw [sentTo_of_handling sound.tracked taken handling pid]
  cases Decidable.em (type = eventType) with
  | inl same =>
      subst same
      rw [if_pos sound.connected.subscribed.mem]
  | inr different =>
      have unwanted : [(type, event)].filter
          (fun sent => decide (sent.1 = eventType)) = [] := by
        simp [different]
      split
      · rfl
      · exact unwanted.symm

/-- The registry sends a subscriber what it handles for the node, one for
one. -/
theorem delivered_eq_handled (sound : Sound node pid eventType system)
    (taken : HandlerRegistry.system.step system.registry action =
      some (registry, result)) :
    let entry : Input Ref × Output Ref :=
      (.registry action, .registry (system.registry.handling action) result)
    (handledBy node entry).filter (fun event => event.1 = eventType) =
      delivered node pid eventType entry := by
  cases handling : system.registry.handling action with
  | none => rfl
  | some handled =>
      obtain ⟨message, effects⟩ := handled
      cases message with
      | call request => rfl
      | info signal => rfl
      | cast request =>
          cases request with
          | unknown => rfl
          | dispatch other type event =>
              simp only [handledBy, delivered, Option.toList_some,
                List.map_singleton, dispatches, List.filterMap_cons,
                HandlerRegistry.asDispatch, List.filterMap_nil]
              cases Decidable.em (other = node) with
              | inl same =>
                  subst same
                  simp only [if_true]
                  exact (filter_sentTo sound taken handling).symm
              | inr different =>
                  simp only [if_neg different]
                  rfl

end Registry

section Queues

variable {Ref : Type} [DecidableEq Ref] (name : Native.PeerId → PeerId)
  (node pid : LocalPid) (eventType : EventType) (settings : Settings)

abbrev Queue (Ref : Type) [DecidableEq Ref] :=
  Conduit (eventPath node settings : Machine (System Ref) _ _)
    (EventType × Event) (Sound node pid eventType)
    (Undisturbed name node pid eventType)

def told : Queue name node pid eventType settings Ref :=
  .direct (happened name) (arrived node) <| by
    intro system input next output sound undisturbed taken
    cases Move.of_step taken with
    | native stepped same =>
        exact dispatched_messages sound.connected.attached undisturbed.2 stepped
    | _ => rfl

def inbox : Queue name node pid eventType settings Ref where
  held := fun system => system.inbox.flatMap dispatched
  enters := arrived node
  leaves := received
  law := by
    intro system input next output sound undisturbed taken
    cases Move.of_step taken with
    | native stepped same =>
        subst same
        rw [System.arrive, if_neg sound.connected.running]
        exact List.flatMap_append.symm
    | received idle waiting same =>
        subst same
        rw [waiting]
        exact List.append_nil _
    | cast phase stepped same =>
        subst same
        exact List.append_nil _
    | returned done left same =>
        subst same
        exact List.append_nil _
    | @registry action registry result foreign stepped same =>
        subst same
        have after : Sound node pid eventType { system with registry } :=
          sound.registry undisturbed.1 undisturbed.2 stepped rfl rfl
        rw [System.arrive, if_neg after.connected.running, List.append_nil]
        exact List.append_nil _

def callback : Queue name node pid eventType settings Ref where
  held := fun system => system.phase.left
  enters := received
  leaves := castBy
  law := by
    intro system input next output sound undisturbed taken
    cases Move.of_step taken with
    | native stepped same =>
        subst same
        exact List.append_nil _
    | received idle waiting same =>
        subst same
        rw [idle]
        rfl
    | cast phase stepped same =>
        subst same
        rw [phase]
        exact List.append_nil _
    | returned done left same =>
        subst same
        rw [done]
        rcases left with rfl | rfl
        · rfl
        · rfl
    | registry foreign stepped same =>
        subst same
        exact List.append_nil _

def mailbox : Queue name node pid eventType settings Ref where
  held := fun system => dispatches node system.registry.mailbox
  enters := castBy
  leaves := handledBy node
  law := by
    intro system input next output sound undisturbed taken
    cases Move.of_step taken with
    | native stepped same =>
        subst same
        exact List.append_nil _
    | received idle waiting same =>
        subst same
        exact List.append_nil _
    | cast phase stepped same =>
        subst same
        have moved := dispatches_step sound.tracked node stepped
        rw [dispatched_own] at moved
        exact moved
    | returned done left same =>
        subst same
        exact List.append_nil _
    | registry foreign stepped same =>
        subst same
        have moved := dispatches_step sound.tracked node stepped
        rw [dispatched_of_foreign foreign] at moved
        exact moved

def subscriber : Queue name node pid eventType settings Ref :=
  .direct
    (fun entry => (handledBy node entry).filter fun event =>
      event.1 = eventType)
    (delivered node pid eventType) <| by
    intro system input next output sound undisturbed taken
    cases Move.of_step taken with
    | registry foreign stepped same => exact delivered_eq_handled sound stepped
    | _ => rfl

def wholeWay : Queue name node pid eventType settings Ref :=
  let toRegistry :=
    (((told name node pid eventType settings).andThen
      (inbox name node pid eventType settings) fun _ => rfl).andThen
        (callback name node pid eventType settings) fun _ => rfl).andThen
          (mailbox name node pid eventType settings) fun _ => rfl
  (toRegistry.only fun event => event.1 = eventType).andThen
    (subscriber name node pid eventType settings) fun _ => rfl

end Queues

section Delivery

variable {Ref : Type} [DecidableEq Ref] {name : Native.PeerId → PeerId}
  {node pid : LocalPid} {eventType : EventType} {settings : Settings}

end Delivery

/-- Node `1` registers itself with its loop, and process `2` with the node. -/
def watched : List (Input Nat) :=
  [.native .startReturns, .native (.registerEventHandler 1),
    .native (CommandChannel.take (.registerEventHandler 1)),
    .registry (.call (.register 1 .connectionEstablished 2)),
    .registry (.handle 10)]

def meeting : List (Input Nat) :=
  [.native (CommandChannel.happens CommandChannel.connected),
    .native (CommandChannel.happens CommandChannel.requested),
    .receive, .cast, .cast, .receive, .registry (.handle 11), .cast, .cast,
    .registry (.handle 12)]

def isReady (system : System Nat) : Bool :=
  system.native.loop.locals.eventHandler = some 1 &&
    system.native.queue.isEmpty && system.registry.dead.isEmpty &&
    decide ((2, 10) ∈
      system.registry.registry.entriesAt (1, .connectionEstablished)) &&
    system.registry.mailbox.isEmpty

theorem Connected.of_isReady {system : System Nat}
    (ready : isReady system = true) :
    Connected 1 2 .connectionEstablished system := by
  simp only [isReady, Bool.and_eq_true, decide_eq_true_eq,
    List.isEmpty_iff] at ready
  obtain ⟨⟨⟨⟨handler, queue⟩, dead⟩, listed⟩, mailbox⟩ := ready
  refine ⟨⟨fun _ => handler, ?_⟩, ?_, ?_, ⟨10, listed⟩, ?_, ?_⟩
  · intro other member
    rw [queue] at member
    cases member
  · rw [dead]
    exact List.not_mem_nil
  · rw [dead]
    exact List.not_mem_nil
  · rw [mailbox]
    exact List.not_mem_nil
  · rw [mailbox]
    exact List.not_mem_nil

def sendsNothing : Output Nat → Bool
  | .native output => (CommandChannel.sentBy output).isEmpty
  | _ => true

theorem undisturbed_native {name : Native.PeerId → PeerId}
    {action : CommandChannel.Action} {output : Output Nat}
    (silent : sendsNothing output = true)
    (clear : ∀ effects, Clear name action effects) :
    Undisturbed name 1 2 .connectionEstablished (.native action, output) := by
  cases output with
  | native output =>
      refine ⟨?_, clear _⟩
      intro other member
      rw [List.isEmpty_iff.mp silent] at member
      cases member
  | _ => trivial

theorem undisturbed_meeting {name : Native.PeerId → PeerId}
    (named : Named name [requester]) {entry : Input Nat × Output Nat}
    (member : entry.1 ∈ meeting) (silent : sendsNothing entry.2 = true) :
    Undisturbed name 1 2 .connectionEstablished entry := by
  obtain ⟨input, output⟩ := entry
  simp only [meeting, List.mem_cons, List.not_mem_nil, or_false] at member
  rcases member with rfl | rfl | rfl | rfl | rfl | rfl | rfl | rfl | rfl | rfl
  · refine undisturbed_native silent ?_
    intro effects
    refine ⟨rfl, fun _ => rfl, ?_⟩
    intro path told
    cases told
    exact named
  · refine undisturbed_native silent ?_
    intro effects
    refine ⟨rfl, fun _ => rfl, ?_⟩
    intro path told
    obtain ⟨stored, -, rfl⟩ := Option.map_eq_some_iff.mp told
    exact named
  · trivial
  · trivial
  · trivial
  · trivial
  · exact ⟨⟨nofun, nofun, nofun⟩, nofun⟩
  · trivial
  · trivial
  · exact ⟨⟨nofun, nofun, nofun⟩, nofun⟩

end ExLibp2p.Node.EventPath
