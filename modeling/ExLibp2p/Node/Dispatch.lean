import ExLibp2p.Node.Event

namespace ExLibp2p.Node

open ExLibp2p.Erlang

/-! How `node.ex` hands the events of the native side to the registry. -/

inductive EventType
  | connectionEstablished
  | connectionClosed
  | newListenAddr
  | gossipsubMessage
  | peerDiscovered
  | dhtQueryResult
  | inboundRequest
  | outboundResponse
  | natStatusChanged
  | relayReservationAccepted
  | holePunchOutcome
  | externalAddrConfirmed
  | dialFailure
  deriving DecidableEq

def eventTypeFor : Event → EventType
  | .connectionEstablished .. => .connectionEstablished
  | .connectionClosed .. => .connectionClosed
  | .newListenAddr .. => .newListenAddr
  | .gossipsubMessage .. => .gossipsubMessage
  | .peerDiscovered .. => .peerDiscovered
  | .dhtQueryResult .. => .dhtQueryResult
  | .inboundRequest .. => .inboundRequest
  | .outboundResponse .. => .outboundResponse
  | .natStatusChanged .. => .natStatusChanged
  | .relayReservationAccepted .. => .relayReservationAccepted
  | .holePunchOutcome .. => .holePunchOutcome
  | .externalAddrConfirmed .. => .externalAddrConfirmed
  | .dialFailure .. => .dialFailure

/-- What a message leads to: the casts to the registry in their order, and
what the callback raised after them. The node's state never changes. -/
structure Handled where
  dispatched : List (EventType × Event)
  raised : Option Exception

def dispatchEvent (rawEvent : Term) : Handled :=
  match Event.fromRaw rawEvent with
  | .error exception => { dispatched := [], raised := some exception }
  | .ok (.error .unknownEvent) => { dispatched := [], raised := none }
  | .ok (.ok event) =>
      { dispatched := [(eventTypeFor event, event)], raised := none }

def Handled.andThen (first second : Handled) : Handled :=
  match first.raised with
  | some _ => first
  | none => { second with dispatched := first.dispatched ++ second.dispatched }

/-- `Enum.each` over a list, which raises at the tail of an improper one. -/
def dispatchEach : Term → Handled
  | .cons rawEvent rest => (dispatchEvent rawEvent).andThen (dispatchEach rest)
  | .nil => { dispatched := [], raised := none }
  | tail =>
      { dispatched := []
        raised := some (.functionClauseError ":lists.foreach/2" tail) }

def handleInfo : Term → Handled
  | .tuple [.atom "libp2p_event",
      .tuple [.atom "peers_discovered", peerList]] =>
      if peerList.isList then
        dispatchEach peerList
      else
        dispatchEvent (.tuple [.atom "peers_discovered", peerList])
  | .tuple [.atom "libp2p_event", rawEvent] => dispatchEvent rawEvent
  | _ => { dispatched := [], raised := none }

@[simp] theorem isList_list (elements : List Term) :
    (Term.list elements).isList = true := by
  cases elements with
  | nil => rfl
  | cons head tail => rfl

end ExLibp2p.Node
