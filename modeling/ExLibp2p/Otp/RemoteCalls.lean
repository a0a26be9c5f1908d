import ExLibp2p.Data.Component
import ExLibp2p.Native.SwarmLoop
import ExLibp2p.Node.Event
import ExLibp2p.Otp.Correlation
import ExLibp2p.Otp.DistributionServer

namespace ExLibp2p.Otp.RemoteCalls

open ExLibp2p.Data
open ExLibp2p.Erlang
open ExLibp2p.Native
open ExLibp2p.Native.SwarmLoop (Answers Instant Settings Turn swarmLoop)
open ExLibp2p.Otp.DistributionServer (InboundRequest)

/-! Remote calls from end to end: the callers on one node, the network, and on
another node the swarm loop and the server. What is under way may be taken up
in any order, or never. -/

/-- The external term format. No term has an empty form. -/
structure Format where
  reads : Bytes → Option Term
  unread : reads [] = none

/-- A virtual machine that speaks the format. In safe mode it may refuse a form,
but reads nothing else into it. -/
structure Vm (format : Format) where
  runtime : Runtime
  writes : ∀ term found,
    format.reads (runtime.termToBinary term) = some found → found = term
  understands : ∀ data term,
    runtime.binaryToTerm data = some term → format.reads data = some term

/-- The event that the node process makes of a message and dispatches to the
server, where it is an inbound request whose fields decode. -/
def requestOf : Term → Option InboundRequest
  | .tuple [.atom "libp2p_event", rawEvent] =>
      match Node.Event.fromRaw rawEvent with
      | .ok (.ok (.inboundRequest _ (.binary channelId) _ (.binary data))) =>
          (utf8? channelId).map fun channelId => { channelId, data }
      | _ => none
  | _ => none

/-- The requests to the other node on their way to it, with those to any other
peer; the requests behind the channels that libp2p made there; the messages of
its loop that wait for the server, the server's responses that wait for the
loop, and those that the loop sent back. -/
structure System where
  callers : Calls.System
  outgoing : List (String × Bytes)
  elsewhere : List String
  carried : List (ResponseChannel × String)
  loop : SwarmLoop.State
  inbox : List Term
  commands : List (String × Bytes)
  returning : List (String × Bytes)

inductive Input (format : Format)
  | caller (input : Calls.Input)
  | arrive (requestId : String) (payload : Bytes) (peer : Native.PeerId)
      (inboundId : String) (channel : ResponseChannel) (now : Instant)
      (answers : Answers)
  | turn (turn : Turn)
  | serve (vm : Vm format) (place : Nat)
  | respond (requestId : String) (data : Bytes) (allocates : Nat → Bool)
  | forge (requestId : String) (data : Term)

inductive Output
  | called (output : Calls.Output)
  | looped (effects : List SwarmLoop.Effect)
  | served (event : InboundRequest) (effects : List Effect)
  | crashed (event : InboundRequest) (exception : Exception)

def System.init : System where
  callers := Calls.System.init
  outgoing := []
  elsewhere := []
  carried := []
  loop := { locals := SwarmLoop.Locals.init, exited := false, channels := [] }
  inbox := []
  commands := []
  returning := []

def sends (effects : List SwarmLoop.Effect) : List Term :=
  effects.filterMap fun
    | .send _ message => some message
    | _ => none

def replies (effects : List SwarmLoop.Effect) :
    List (ResponseChannel × Bytes) :=
  effects.filterMap fun
    | .sendResponse channel data => some (channel, data)
    | _ => none

/-- The server's responses, on identifiers that the native side takes. -/
def responses (effects : List Effect) : List (String × Bytes) :=
  (DistributionServer.responses effects).filterMap fun (channelId, data) =>
    (utf8? channelId).map fun channelId => (channelId, data)

/-- libp2p carries a response back to the request behind its channel. -/
def System.returned (system : System)
    (effects : List SwarmLoop.Effect) : List (String × Bytes) :=
  (replies effects).filterMap fun (channel, data) =>
    (system.carried.lookup channel).map fun requestId => (requestId, data)

def System.looped (system : System) (loop : SwarmLoop.State)
    (effects : List SwarmLoop.Effect) : System :=
  { system with
    loop
    inbox := system.inbox ++ sends effects
    returning := system.returning ++ system.returned effects }

/-- A request that was sent, to the other node or to any other peer. -/
def System.carry (system : System) (remote : PeerId) :
    Calls.Input → Calls.Output → System
  | .request _ _ (some requestId), .sent peer payload =>
      if peer = remote then
        { system with outgoing := (requestId, payload) :: system.outgoing }
      else
        { system with elsewhere := requestId :: system.elsewhere }
  | _, _ => system

section Steps

variable {format : Format} (vm : Vm format) (settings : Settings)
  (remote : PeerId)

def System.loops (system : System) (turn : Turn) : Option (System × Output) :=
  ((swarmLoop settings).step system.loop turn).map fun (loop, effects) =>
    (system.looped loop effects, .looped effects)

def System.calls (system : System) (input : Calls.Input) :
    Option (System × Output) :=
  (Calls.step vm.runtime system.callers input).map fun (callers, output) =>
    (({ system with callers } : System).carry remote input output,
      .called output)

/-- Only the server answers requests on its node, and only the peer that a
request was sent to answers it here. -/
def step (system : System) : Input format → Option (System × Output)
  | .caller (.respond _ _) => none
  | .caller input => system.calls vm remote input
  | .arrive requestId payload peer inboundId channel now answers =>
      if (requestId, payload) ∈ system.outgoing then
        ({ system with
            outgoing := system.outgoing.erase (requestId, payload)
            carried := (channel, requestId) :: system.carried } : System).loops
          settings (.event (.requestReceived peer inboundId payload channel) now
            answers)
      else
        none
  | .turn (.command (some (.rpcSendResponse id data)) answers) =>
      if (id, data) ∈ system.commands then
        ({ system with
            commands := system.commands.erase (id, data) } : System).loops
          settings (.command (some (.rpcSendResponse id data)) answers)
      else
        none
  | .turn turn => system.loops settings turn
  | .serve server place =>
      (system.inbox[place]?.bind requestOf).map fun event =>
        let inbox := system.inbox.eraseIdx place
        match DistributionServer.handleInfo server.runtime event.info with
        | .ok effects =>
            ({ system with
                inbox
                commands := system.commands ++ responses effects },
              .served event effects)
        | .error exception =>
            ({ system with inbox }, .crashed event exception)
  | .respond requestId data allocates =>
      if (requestId, data) ∈ system.returning then
        ({ system with
            returning := system.returning.erase (requestId, data) } :
            System).calls vm remote
          (.respond requestId (Events.encodeBinary allocates data))
      else
        none
  | .forge requestId data =>
      if requestId ∈ system.elsewhere then
        system.calls vm remote (.respond requestId data)
      else
        none

def remoteCalls : Machine System (Input format) Output where
  init := System.init
  step := step vm settings remote

/-- Callers keep their responses apart, each for itself. -/
def Orderly (system : System) : Input format → Prop
  | .caller input => Calls.Orderly system.callers input
  | .respond requestId data allocates =>
      Calls.Orderly system.callers
        (.respond requestId (Events.encodeBinary allocates data))
  | .forge requestId data =>
      Calls.Orderly system.callers (.respond requestId data)
  | _ => True

instance (system : System) : (input : Input format) →
    Decidable (Orderly system input)
  | .caller input =>
      inferInstanceAs (Decidable (Calls.Orderly system.callers input))
  | .respond requestId data allocates =>
      inferInstanceAs (Decidable (Calls.Orderly system.callers
        (.respond requestId (Events.encodeBinary allocates data))))
  | .forge requestId data =>
      inferInstanceAs (Decidable
        (Calls.Orderly system.callers (.respond requestId data)))
  | .arrive .. => isTrue trivial
  | .turn _ => isTrue trivial
  | .serve _ _ => isTrue trivial

end Steps

end ExLibp2p.Otp.RemoteCalls
