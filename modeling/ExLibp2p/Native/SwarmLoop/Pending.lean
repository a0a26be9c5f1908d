import ExLibp2p.Native.SwarmLoop

namespace ExLibp2p.Native.SwarmLoop

open ExLibp2p.Data
open ExLibp2p.Erlang
open ExLibp2p.Native.Policy

def stored (effects : List Effect) : List (String × ResponseChannel) :=
  effects.filterMap fun
    | .store id channel => some (id, channel)
    | _ => none

def answered (effects : List Effect) : List ResponseChannel :=
  effects.filterMap fun
    | .sendResponse channel _ => some channel
    | _ => none

def evicted (effects : List Effect) : List String :=
  effects.filterMap fun
    | .evict id => some id
    | _ => none

/-- The channel identifier of an inbound request announcement. -/
def announcedId : Term → Option Term
  | .tuple [.atom "libp2p_event",
      .tuple [.atom "inbound_request", _, id, _, _]] => some id
  | _ => none

abbrev History := List (Turn × List Effect)

/-- The identifiers issued so far, each with the channel of its request. -/
def issued (trace : History) : List (String × ResponseChannel) :=
  trace.flatMap fun entry => stored entry.2

def answeredIn (trace : History) : List ResponseChannel :=
  trace.flatMap fun entry => answered entry.2

def evictedIn (trace : History) : List String :=
  trace.flatMap fun entry => evicted entry.2

def requests (trace : History) : Nat :=
  trace.countP fun entry => entry.1.channel.isSome

def Effect.isQuiet : Effect → Bool
  | .store _ _ => false
  | .sendResponse _ _ => false
  | .evict _ => false
  | .send _ message => (announcedId message).isNone
  | _ => true

def Quiet (effects : List Effect) : Prop :=
  ∀ effect ∈ effects, effect.isQuiet = true

theorem Quiet.stored {effects : List Effect} (quiet : Quiet effects) :
    stored effects = [] := by
  apply List.filterMap_eq_nil_iff.mpr
  intro effect member
  have unseen := quiet effect member
  cases effect with
  | store id channel => contradiction
  | _ => rfl

theorem Quiet.answered {effects : List Effect} (quiet : Quiet effects) :
    answered effects = [] := by
  apply List.filterMap_eq_nil_iff.mpr
  intro effect member
  have unseen := quiet effect member
  cases effect with
  | sendResponse channel data => contradiction
  | _ => rfl

theorem Quiet.evicted {effects : List Effect} (quiet : Quiet effects) :
    evicted effects = [] := by
  apply List.filterMap_eq_nil_iff.mpr
  intro effect member
  have unseen := quiet effect member
  cases effect with
  | evict id => contradiction
  | _ => rfl

theorem Quiet.nil : Quiet [] :=
  List.forall_mem_nil _

theorem Quiet.cons {effect : Effect} {effects : List Effect}
    (head : effect.isQuiet = true) (tail : Quiet effects) :
    Quiet (effect :: effects) :=
  List.forall_mem_cons.mpr ⟨head, tail⟩

theorem Quiet.ite (condition : Bool) {effects : List Effect}
    (quiet : Quiet effects) : Quiet (if condition then effects else []) := by
  cases condition with
  | false => exact .nil
  | true => exact quiet

theorem Quiet.append {first second : List Effect} (quietFirst : Quiet first)
    (quietSecond : Quiet second) : Quiet (first ++ second) := by
  intro effect member
  rcases List.mem_append.mp member with inFirst | inSecond
  · exact quietFirst effect inFirst
  · exact quietSecond effect inSecond

theorem Quiet.map {Element : Type} (elements : List Element)
    (effect : Element → Effect) (quiet : ∀ element, (effect element).isQuiet) :
    Quiet (elements.map effect) := by
  intro other member
  obtain ⟨element, -, rfl⟩ := List.mem_map.mp member
  exact quiet element

theorem Quiet.flatMap {Element : Type} (elements : List Element)
    (effects : Element → List Effect) (quiet : ∀ element, Quiet (effects element)) :
    Quiet (elements.flatMap effects) := by
  intro other member
  obtain ⟨element, -, inElement⟩ := List.mem_flatMap.mp member
  exact quiet element other inElement

theorem Quiet.announce (locals : Locals) {message : Term}
    (other : announcedId message = none) : Quiet (announce locals message) := by
  intro effect member
  simp only [SwarmLoop.announce, Option.mem_toList, Option.map_eq_some_iff]
    at member
  obtain ⟨pid, -, rfl⟩ := member
  rw [Effect.isQuiet, other]
  rfl

theorem announcedId_discovered (peers : List (PeerId × List Multiaddr)) :
    announcedId (Events.discovered peers) = none := by
  unfold Events.discovered
  split
  · rfl
  · rfl

theorem announcedId_handleSwarmEvent (allocates : Nat → Bool)
    (event : SwarmEvent) :
    announcedId (Events.handleSwarmEvent allocates event) = none := by
  cases event with
  | mdnsDiscovered peers =>
      cases peers with
      | nil => rfl
      | cons peer rest => exact announcedId_discovered _
  | rendezvousDiscovered registrations =>
      cases registrations with
      | nil => rfl
      | cons registration rest => exact announcedId_discovered _
  | outboundQueryProgressed id result =>
      cases result with
      | _ => rfl
  | natStatusChanged new =>
      cases new with
      | _ => rfl
  | dcutr remotePeerId result =>
      cases result with
      | _ => rfl
  | _ => rfl

theorem quiet_discoverPeers (settings : Settings) (locals : Locals)
    (answers : Answers) (peers : List (PeerId × Multiaddr)) :
    Quiet (discoverPeers settings locals answers peers) := by
  apply Quiet.append
  · apply Quiet.flatMap
    intro pair
    apply Quiet.append
    · exact .ite _ (.cons rfl .nil)
    · exact .ite _ (.cons rfl .nil)
  · cases peers with
    | nil => exact .nil
    | cons peer rest => exact Quiet.announce locals (announcedId_discovered _)

theorem quiet_request (settings : Settings) (answers : Answers)
    (command : Command) : Quiet (request settings answers command) := by
  cases command with
  | dhtImportRoutingTable entries reply =>
      change Quiet (importRoutingTable settings entries reply)
      rw [importRoutingTable_eq]
      split
      · exact .append (.map _ _ fun pair => rfl) (.cons rfl .nil)
      · exact .cons rfl .nil
  | rpcSendRequest peerId data reply => exact .cons rfl (.cons rfl .nil)
  | registerEventHandler pid => exact .nil
  | rpcSendResponse id data => exact .nil
  | shutdown => exact .nil
  | _ =>
      first
        | exact .cons rfl .nil
        | exact .ite _ (.cons rfl .nil)

theorem swarmLoop_step_eq_some {settings : Settings} {state next : State}
    {input : Turn} {effects : List Effect}
    (taken : (swarmLoop settings).step state input = some (next, effects)) :
    (next.exited = false ∧ ∃ locals, next.locals = locals ∧
      turn settings state.locals input = some (locals, effects)) ∨
    (next.exited = true ∧ effects = [] ∧
      turn settings state.locals input = none) := by
  simp only [swarmLoop] at taken
  split at taken
  · contradiction
  · rename_i running
    rw [not_or, Bool.not_eq_true] at running
    cases turned : turn settings state.locals input with
    | none =>
        rw [turned] at taken
        cases taken
        exact .inr ⟨rfl, rfl, rfl⟩
    | some result =>
        rw [turned] at taken
        cases taken
        exact .inl ⟨running.1, _, rfl, rfl⟩

def nextId (locals : Locals) : String :=
  channelId ((locals.channelCounter + 1) % 2 ^ 64)

inductive Movement (locals : Locals) : Turn → Locals → List Effect → Prop
  | evicted (now : Instant) :
      Movement locals (.tick now) (evict locals now).1 (evict locals now).2
  | answered {id : String} {data : Bytes} {answers : Answers}
      {channel : ResponseChannel} {created : Instant}
      (found : locals.pendingResponses.lookup id = some (channel, created)) :
      Movement locals (.command (some (.rpcSendResponse id data)) answers)
        { locals with pendingResponses := locals.pendingResponses.erase id }
        [.sendResponse channel data]
  | unknown {id : String} {data : Bytes} {answers : Answers}
      (missing : locals.pendingResponses.lookup id = none) :
      Movement locals (.command (some (.rpcSendResponse id data)) answers)
        locals []
  | accepted {peer : PeerId} {requestId : String} {request : Bytes}
      {channel : ResponseChannel} {now : Instant} {answers : Answers}
      (room : locals.pendingResponses.size < maxPendingResponses) :
      Movement locals
        (.event (.requestReceived peer requestId request channel) now answers)
        { locals with
          channelCounter := (locals.channelCounter + 1) % 2 ^ 64
          pendingResponses :=
            locals.pendingResponses.insert (nextId locals) (channel, now) }
        (.store (nextId locals) channel ::
          announce locals (Events.sendInboundRequest answers.allocates peer
            requestId (nextId locals) request))
  | refused {peer : PeerId} {requestId : String} {request : Bytes}
      {channel : ResponseChannel} {now : Instant} {answers : Answers} :
      Movement locals
        (.event (.requestReceived peer requestId request channel) now answers)
        locals [.dropRequest channel]
  | other {turn : Turn} {next : Locals} {effects : List Effect}
      (noRequest : turn.channel = none)
      (pending : next.pendingResponses = locals.pendingResponses)
      (counter : next.channelCounter = locals.channelCounter)
      (quiet : Quiet effects) :
      Movement locals turn next effects

theorem Movement.of_command {settings : Settings} {locals next : Locals}
    {answers : Answers} {command : Command} {effects : List Effect}
    (taken : handleCommand settings locals answers (some command) =
      some (next, effects)) :
    Movement locals (.command (some command) answers) next effects := by
  cases command with
  | rpcSendResponse id data =>
      simp only [handleCommand, sendResponse, Option.some.injEq] at taken
      split at taken
      · rename_i found
        cases taken
        exact .answered found
      · rename_i missing
        cases taken
        exact .unknown missing
  | shutdown =>
      cases taken
  | registerEventHandler pid =>
      cases taken
      exact .other rfl rfl rfl .nil
  | _ =>
      cases taken
      exact .other rfl rfl rfl (quiet_request settings answers _)

theorem Movement.of_event {settings : Settings} {locals next : Locals}
    {now : Instant} {answers : Answers} {event : SwarmEvent}
    {effects : List Effect}
    (taken : handleEvent settings locals now answers event = (next, effects)) :
    Movement locals (.event event now answers) next effects := by
  cases event with
  | requestReceived peer requestId request channel =>
      simp only [handleEvent, receiveRequest] at taken
      split at taken
      · cases taken
        exact .refused
      · rename_i room
        cases taken
        exact .accepted (Nat.lt_of_not_le room)
  | responseReceived peer requestId response =>
      cases taken
      exact .other rfl rfl rfl (Quiet.announce locals rfl)
  | mdnsDiscovered peers =>
      cases taken
      exact .other rfl rfl rfl
        (quiet_discoverPeers settings locals answers peers)
  | mdnsExpired =>
      cases taken
      exact .other rfl rfl rfl .nil
  | _ =>
      cases taken
      exact .other rfl rfl rfl
        (Quiet.announce locals (announcedId_handleSwarmEvent _ _))

theorem Movement.of_turn {settings : Settings} {locals next : Locals}
    {input : Turn} {effects : List Effect}
    (taken : turn settings locals input = some (next, effects)) :
    Movement locals input next effects := by
  cases input with
  | tick now =>
      cases taken
      exact .evicted now
  | command command answers =>
      cases command with
      | none => cases taken
      | some command => exact .of_command taken
  | event event now answers =>
      exact .of_event (Option.some.inj taken)

end ExLibp2p.Native.SwarmLoop
