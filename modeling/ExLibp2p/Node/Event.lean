import ExLibp2p.PeerId

namespace ExLibp2p.Node

open ExLibp2p.Erlang

/-! The event structs of `event.ex`. Only peer identifiers are validated:
every other field keeps the term that arrived. -/

inductive Event
  | connectionEstablished (peerId : PeerId) (numEstablished endpoint : Term)
  | connectionClosed (peerId : PeerId) (numEstablished cause : Term)
  | newListenAddr (address listenerId : Term)
  | gossipsubMessage (topic data : Term) (source : Option PeerId)
      (messageId : Term)
  | peerDiscovered (peerId : PeerId) (addresses : Term)
  | dhtQueryResult (queryId result : Term)
  | inboundRequest (requestId channelId : Term) (peerId : PeerId) (data : Term)
  | outboundResponse (requestId : Term) (peerId : PeerId) (data : Term)
  | natStatusChanged (status address : Term)
  | relayReservationAccepted (relayPeerId : PeerId) (relayAddr : Term)
  | holePunchOutcome (peerId : PeerId) (result : Term)
  | externalAddrConfirmed (address : Term)
  | dialFailure (peerId : Option PeerId) (error : Term)

inductive EventError
  | unknownEvent
  deriving DecidableEq

namespace Event

/-- The outer result is that of the call, which may raise. -/
def fromRaw : Term → Except Exception (Except EventError Event)
  | .tuple [.atom "connection_established", peerId, numEstablished, endpoint] =>
      do return .ok (.connectionEstablished (← PeerId.new! peerId)
        numEstablished endpoint)
  | .tuple [.atom "connection_closed", peerId, numEstablished, cause] =>
      do return .ok (.connectionClosed (← PeerId.new! peerId) numEstablished
        cause)
  | .tuple [.atom "new_listen_addr", address, listenerId] =>
      return .ok (.newListenAddr address listenerId)
  | .tuple [.atom "gossipsub_message", topic, data, .atom "nil", messageId] =>
      return .ok (.gossipsubMessage topic data none messageId)
  | .tuple [.atom "gossipsub_message", topic, data, source, messageId] =>
      do return .ok (.gossipsubMessage topic data (some (← PeerId.new! source))
        messageId)
  | .tuple [.atom "peer_discovered", peerId, addresses] =>
      do return .ok (.peerDiscovered (← PeerId.new! peerId) addresses)
  | .tuple [.atom "dht_query_result", queryId, result] =>
      return .ok (.dhtQueryResult queryId result)
  | .tuple [.atom "inbound_request", requestId, channelId, peerId, data] =>
      do return .ok (.inboundRequest requestId channelId
        (← PeerId.new! peerId) data)
  | .tuple [.atom "outbound_response", requestId, peerId, data] =>
      do return .ok (.outboundResponse requestId (← PeerId.new! peerId) data)
  | .tuple [.atom "nat_status_changed", status, address] =>
      return .ok (.natStatusChanged status address)
  | .tuple [.atom "relay_reservation_accepted", relayPeerId, relayAddr] =>
      do return .ok (.relayReservationAccepted (← PeerId.new! relayPeerId)
        relayAddr)
  | .tuple [.atom "hole_punch_outcome", peerId, result] =>
      do return .ok (.holePunchOutcome (← PeerId.new! peerId) result)
  | .tuple [.atom "external_addr_confirmed", address] =>
      return .ok (.externalAddrConfirmed address)
  | .tuple [.atom "dial_failure", .atom "nil", error] =>
      return .ok (.dialFailure none error)
  | .tuple [.atom "dial_failure", peerId, error] =>
      do return .ok (.dialFailure (some (← PeerId.new! peerId)) error)
  | _ => return .error .unknownEvent

end Event

end ExLibp2p.Node
