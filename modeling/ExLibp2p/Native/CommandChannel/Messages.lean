import ExLibp2p.Native.CommandChannel.Registration

namespace ExLibp2p.Native.CommandChannel

open ExLibp2p.Data
open ExLibp2p.Erlang
open ExLibp2p.Native.Policy
open ExLibp2p.Native.SwarmLoop
  (Settings Answers Effect Turn Locals Instant swarmLoop swarmLoop_step_eq_some
    announce request handleCommand handleEvent whenKademlia importRoutingTable
    importRoutingTable_eq
    discoverPeers)

/-! The messages that one process gets from the loop. -/

def asMessage (pid : LocalPid) : Effect → Option Term
  | .send other message => if other = pid then some message else none
  | _ => none

def messagesTo (pid : LocalPid) (effects : List Effect) : List Term :=
  effects.filterMap (asMessage pid)

section Turns

variable {pid : LocalPid} {settings : Settings} {locals : Locals}
  {answers : Answers}

theorem messagesTo_append (first second : List Effect) :
    messagesTo pid (first ++ second) =
      messagesTo pid first ++ messagesTo pid second :=
  List.filterMap_append

theorem messagesTo_announce (handler : locals.eventHandler = some pid)
    (message : Term) :
    messagesTo pid (announce locals message) = [message] := by
  rw [announce_of_some handler]
  simp [messagesTo, asMessage]

theorem messagesTo_ite (condition : Bool) {effects : List Effect}
    (silent : messagesTo pid effects = []) :
    messagesTo pid (if condition then effects else []) = [] := by
  cases condition with
  | false => rfl
  | true => exact silent

theorem messagesTo_discoverPeers (handler : locals.eventHandler = some pid)
    (peers : List (PeerId × Multiaddr)) :
    messagesTo pid (discoverPeers settings locals answers peers) =
      (Events.sendPeersDiscovered peers).toList := by
  have dialled : messagesTo pid (peers.flatMap fun pair =>
      whenKademlia settings [.addAddress pair.1 pair.2] ++
        (if settings.mdnsAutoDial && !decide (pair.1 ∈ answers.connectedPeers)
          then [.dialPeer pair.1] else [])) = [] := by
    induction peers with
    | nil => rfl
    | cons pair rest induction =>
        rw [List.flatMap_cons, messagesTo_append, messagesTo_append, induction,
          whenKademlia, messagesTo_ite _ rfl, messagesTo_ite _ rfl]
        rfl
  rw [discoverPeers, messagesTo_append, dialled, List.nil_append]
  cases Events.sendPeersDiscovered peers with
  | none => rfl
  | some message => exact messagesTo_announce handler message

theorem messagesTo_handleEvent (handler : locals.eventHandler = some pid)
    (now : Instant) (event : SwarmEvent) :
    messagesTo pid (handleEvent settings locals now answers event).2 =
      (translation locals answers event).toList := by
  cases event with
  | requestReceived peer requestId request channel =>
      simp only [handleEvent, SwarmLoop.receiveRequest, translation]
      split
      · rfl
      · exact messagesTo_announce handler _
  | mdnsDiscovered peers => exact messagesTo_discoverPeers handler peers
  | mdnsExpired => rfl
  | _ => exact messagesTo_announce handler _

theorem messagesTo_request (command : Command) :
    messagesTo pid (request settings answers command) = [] := by
  cases command with
  | dhtImportRoutingTable entries reply =>
      change messagesTo pid (importRoutingTable settings entries reply) = []
      rw [importRoutingTable_eq]
      split
      · rw [messagesTo_append, messagesTo, List.filterMap_map]
        exact List.append_eq_nil_iff.mpr
          ⟨List.filterMap_eq_nil_iff.mpr fun _ _ => rfl, rfl⟩
      · rfl
  | _ =>
      first
        | rfl
        | exact messagesTo_ite _ rfl

theorem messagesTo_of_turn {turn : Turn} {next : Locals} {effects : List Effect}
    (noEvent : ∀ event now answers, turn ≠ .event event now answers)
    (turned : SwarmLoop.turn settings locals turn = some (next, effects)) :
    messagesTo pid effects = [] := by
  cases turn with
  | event event now answers => exact absurd rfl (noEvent event now answers)
  | tick now =>
      cases turned
      rw [messagesTo, List.filterMap_map]
      exact List.filterMap_eq_nil_iff.mpr fun _ _ => rfl
  | command command answers =>
      cases command with
      | none => cases turned
      | some command =>
          cases command with
          | shutdown => cases turned
          | rpcSendResponse id data =>
              simp only [SwarmLoop.turn, handleCommand, SwarmLoop.sendResponse,
                Option.some.injEq] at turned
              split at turned
              · cases turned
                rfl
              · cases turned
                rfl
          | registerEventHandler other =>
              cases turned
              rfl
          | _ =>
              cases turned
              exact messagesTo_request _

end Turns

structure Attached (pid : LocalPid) (state : State) : Prop where
  handler : state.loop.exited = false →
    state.loop.locals.eventHandler = some pid
  queued : ∀ other, .registerEventHandler other ∈ state.queue → other = pid

def KeepsHandler (pid : LocalPid) (output : Output) : Prop :=
  ∀ other, .registerEventHandler other ∈ sentBy output → other = pid

section Steps

variable {pid : LocalPid} {settings : Settings} {state next : State}
  {action : Action} {output : Output}

theorem Attached.turned {turn : Turn} {panics : Option Nat}
    {queue : List Command} {loop : SwarmLoop.State} {effects : List Effect}
    (attached : Attached pid state)
    (dequeued : state.dequeue turn = some queue)
    (stepped : (swarmLoop settings).step state.loop turn =
      some (loop, effects)) :
    Attached pid ({ state with queue }.turned (commandOf turn) panics
      (loop, effects)).1 := by
  have waiting := queue_of_dequeue dequeued
  constructor
  · intro running
    have after : loop.exited = false := (Bool.or_eq_false_iff.mp running).1
    have before := attached.handler (running_of_step stepped)
    rcases eventHandler_of_turn (locals_of_step stepped after) with
      ⟨other, taken, same⟩ | ⟨-, same⟩
    · refine same.trans (congrArg some (attached.queued other ?_))
      rw [waiting, taken]
      exact List.mem_cons_self
    · exact same.trans before
  · intro other member
    apply attached.queued other
    rw [waiting]
    exact List.mem_append_right _ member

theorem Attached.append {command : Command} (attached : Attached pid state)
    (keeps : ∀ other, .registerEventHandler other = command → other = pid)
    (queue : next.queue = state.queue ++ [command])
    (loop : next.loop = state.loop) : Attached pid next where
  handler := by
    rw [loop]
    exact attached.handler
  queued := by
    intro other member
    rw [queue] at member
    rcases List.mem_append.mp member with old | new
    · exact attached.queued other old
    · exact keeps other (List.mem_singleton.mp new)

theorem Attached.preserved (attached : Attached pid state)
    (keeps : KeepsHandler pid output)
    (moves : Moves settings state next action output) :
    Attached pid next := by
  cases moves with
  | turned dequeued stepped same =>
      subst same
      exact attached.turned dequeued stepped
  | sent handle held plain alive room same kept =>
      subst same
      refine attached.append ?_ rfl rfl
      rintro other rfl
      exact keeps other List.mem_cons_self
  | asked held carries alive room same =>
      subst same
      refine attached.append ?_ rfl rfl
      intro other isRegistration
      rw [← isRegistration] at carries
      cases carries
  | refused handle callers held cause same kept counted =>
      subst same
      exact ⟨attached.handler, attached.queued⟩
  | started starting same =>
      subst same
      exact ⟨attached.handler, attached.queued⟩
  | released dropping same =>
      subst same
      exact ⟨attached.handler, attached.queued⟩
  | left exited alive same =>
      subst same
      exact ⟨attached.handler, nofun⟩
  | woken settled same =>
      subst same
      exact ⟨attached.handler, attached.queued⟩

end Steps

end ExLibp2p.Native.CommandChannel
