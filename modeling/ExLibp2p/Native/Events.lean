import ExLibp2p.Erlang.Term
import ExLibp2p.Native.PeerId

namespace ExLibp2p.Native

open ExLibp2p.Data
open ExLibp2p.Erlang

/-! The events of the swarm, with the fields that `events.rs` and the swarm
loop read. Texts that the code takes from `Debug` or `Display` stand as
strings. -/

/-- The right to answer one inbound request. Libp2p makes one for each
request and the type is not `Clone`. -/
structure ResponseChannel where
  number : Nat
  deriving DecidableEq

inductive QueryResult
  | foundRecord (key value : Bytes)
  | getRecordError
  | putRecordOk (key : String)
  | foundProviders (providers : List PeerId)
  | finishedWithNoAdditionalRecord
  | bootstrapOk (numRemaining : UInt32)
  | other

inductive NatStatus
  | natPublic (address : Multiaddr)
  | natPrivate
  | natUnknown

inductive SwarmEvent
  | connectionEstablished (peerId : PeerId) (numEstablished : UInt32)
      (isDialer : Bool)
  | connectionClosed (peerId : PeerId) (numEstablished : UInt32)
      (cause : Option String)
  | newListenAddr (address : Multiaddr) (listenerId : String)
  | externalAddrConfirmed (address : Multiaddr)
  | outgoingConnectionError (peerId : Option PeerId) (error : String)
  | gossipsubMessage (topic : String) (data : Bytes) (source : Option PeerId)
      (messageId : String)
  | mdnsDiscovered (peers : List (PeerId × Multiaddr))
  | mdnsExpired
  | outboundQueryProgressed (id : String) (result : QueryResult)
  | requestReceived (peer : PeerId) (requestId : String) (request : Bytes)
      (channel : ResponseChannel)
  | responseReceived (peer : PeerId) (requestId : String) (response : Bytes)
  | outboundFailure (peer : PeerId) (requestId : String) (error : String)
  | inboundFailure (peer : PeerId) (requestId : String) (error : String)
  | natStatusChanged (new : NatStatus)
  | dcutr (remotePeerId : PeerId) (result : Except String Unit)
  | reservationReqAccepted (relayPeerId : PeerId)
  | newExternalAddr (address : Multiaddr)
  | rendezvousDiscovered (registrations : List (PeerId × List Multiaddr))
  | other

namespace Events

section Encoders

variable (allocates : Nat → Bool)

def encodeBinary (data : Bytes) : Term :=
  if allocates data.length then
    .binary data
  else if allocates 0 then
    .binary []
  else
    .atom "nil"

def encodePeer (peerId : PeerId) : Term :=
  .binary peerId.toBase58

def libp2pEvent (event : List Term) : Term :=
  .tuple [.atom "libp2p_event", .tuple event]

def libp2pNoop : Term :=
  .atom "libp2p_noop"

def peerDiscovered (peerId : PeerId) (addrs : List Multiaddr) : List Term :=
  [.atom "peer_discovered", encodePeer peerId,
    .list (addrs.map fun addr => .text addr.toString)]

/-- The mDNS arm, the rendezvous arm and `send_peers_discovered` build the
same terms from a list that is not empty. -/
def discovered : List (PeerId × List Multiaddr) → Term
  | [(peerId, addrs)] => libp2pEvent (peerDiscovered peerId addrs)
  | peers =>
      libp2pEvent [.atom "peers_discovered",
        .list (peers.map fun peer => .tuple (peerDiscovered peer.1 peer.2))]

def encodeKadEvent (id : String) : QueryResult → Term
  | .foundRecord key value =>
      libp2pEvent [.atom "dht_query_result", .text id,
        .tuple [.atom "found_record", encodeBinary allocates key,
          encodeBinary allocates value]]
  | .getRecordError =>
      libp2pEvent [.atom "dht_query_result", .text id, .atom "not_found"]
  | .putRecordOk key =>
      libp2pEvent [.atom "dht_query_result", .text id,
        .tuple [.atom "put_record_ok", .text key]]
  | .foundProviders providers =>
      libp2pEvent [.atom "dht_query_result", .text id,
        .tuple [.atom "found_providers", .list (providers.map encodePeer)]]
  | .bootstrapOk numRemaining =>
      libp2pEvent [.atom "dht_query_result", .text id,
        .tuple [.atom "bootstrap_ok", .integer numRemaining.toNat]]
  | .finishedWithNoAdditionalRecord => libp2pNoop
  | .other => libp2pNoop

def dialFailure (peerId : Option PeerId) (error : String) : Term :=
  libp2pEvent [.atom "dial_failure", .option (peerId.map encodePeer),
    .text error]

def handleSwarmEvent : SwarmEvent → Term
  | .connectionEstablished peerId numEstablished isDialer =>
      libp2pEvent [.atom "connection_established", encodePeer peerId,
        .integer numEstablished.toNat,
        .atom (if isDialer then "dialer" else "listener")]
  | .connectionClosed peerId numEstablished cause =>
      libp2pEvent [.atom "connection_closed", encodePeer peerId,
        .integer numEstablished.toNat, .text (cause.getD "unknown")]
  | .newListenAddr address listenerId =>
      libp2pEvent [.atom "new_listen_addr", .text address.toString,
        .text listenerId]
  | .externalAddrConfirmed address =>
      libp2pEvent [.atom "external_addr_confirmed", .text address.toString]
  | .outgoingConnectionError peerId error => dialFailure peerId error
  | .gossipsubMessage topic data source messageId =>
      libp2pEvent [.atom "gossipsub_message", .text topic,
        encodeBinary allocates data, .option (source.map encodePeer),
        .text messageId]
  | .mdnsDiscovered [] => libp2pNoop
  | .mdnsDiscovered peers =>
      discovered (peers.map fun peer => (peer.1, [peer.2]))
  | .outboundQueryProgressed id result => encodeKadEvent allocates id result
  | .outboundFailure peer requestId error =>
      dialFailure (some peer)
        ("rpc outbound failure " ++ requestId ++ ": " ++ error)
  | .inboundFailure peer requestId error =>
      dialFailure (some peer)
        ("rpc inbound failure " ++ requestId ++ ": " ++ error)
  | .natStatusChanged (.natPublic address) =>
      libp2pEvent [.atom "nat_status_changed", .atom "public",
        .text address.toString]
  | .natStatusChanged .natPrivate =>
      libp2pEvent [.atom "nat_status_changed", .atom "private", .atom "nil"]
  | .natStatusChanged .natUnknown =>
      libp2pEvent [.atom "nat_status_changed", .atom "unknown", .atom "nil"]
  | .dcutr remotePeerId (.ok ()) =>
      libp2pEvent [.atom "hole_punch_outcome", encodePeer remotePeerId,
        .atom "success"]
  | .dcutr remotePeerId (.error error) =>
      libp2pEvent [.atom "hole_punch_outcome", encodePeer remotePeerId,
        .tuple [.atom "failure", .text error]]
  | .reservationReqAccepted relayPeerId =>
      libp2pEvent [.atom "relay_reservation_accepted", encodePeer relayPeerId,
        .text ""]
  | .newExternalAddr address =>
      libp2pEvent [.atom "external_addr_confirmed", .text address.toString]
  | .rendezvousDiscovered [] => libp2pNoop
  | .rendezvousDiscovered registrations => discovered registrations
  | .mdnsExpired => libp2pNoop
  | .requestReceived _ _ _ _ => libp2pNoop
  | .responseReceived _ _ _ => libp2pNoop
  | .other => libp2pNoop

/-! The paths on which the swarm loop sends without `handle_swarm_event`. -/

def sendPeersDiscovered : List (PeerId × Multiaddr) → Option Term
  | [] => none
  | peers => some (discovered (peers.map fun peer => (peer.1, [peer.2])))

def sendInboundRequest (peer : PeerId) (requestId channelId : String)
    (data : Bytes) : Term :=
  libp2pEvent [.atom "inbound_request", .text requestId, .text channelId,
    encodePeer peer, encodeBinary allocates data]

def sendOutboundResponse (peer : PeerId) (requestId : String) (data : Bytes) :
    Term :=
  libp2pEvent [.atom "outbound_response", .text requestId, encodePeer peer,
    encodeBinary allocates data]

end Encoders

end Events

end ExLibp2p.Native
