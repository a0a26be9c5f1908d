import ExLibp2p.Native.Nif
import ExLibp2p.PeerId

namespace ExLibp2p.Node

open ExLibp2p.Data
open ExLibp2p.Erlang
open ExLibp2p.Native

/-! The calls that the node forwards to the native module, and how
`network_ops.ex` and `nif_ops.ex` turn its results into replies. -/

/-- One function of the native module with its arguments after the handle. -/
inductive NativeCall
  | connectedPeers
  | listeningAddrs
  | dial (addr : Term)
  | listenViaRelay (relayAddr : Term)
  | publish (topic data : Term)
  | subscribe (topic : Term)
  | unsubscribe (topic : Term)
  | gossipsubMeshPeers (topic : Term)
  | gossipsubAllPeers
  | gossipsubPeerScore (peerId : Term)
  | dhtPut (key value : Term)
  | dhtGet (key : Term)
  | dhtFindPeer (peerId : Term)
  | dhtProvide (key : Term)
  | dhtFindProviders (key : Term)
  | dhtBootstrap
  | rpcSendRequest (peerId data : Term)
  | rpcSendResponse (channelId data : Term)
  | bandwidthStats
  | prometheusMetrics
  | rendezvousRegister (ns ttl rendezvousPeer : Term)
  | rendezvousDiscover (ns rendezvousPeer : Term)
  | rendezvousUnregister (ns rendezvousPeer : Term)

structure State where
  handle : Nat
  peerId : PeerId
  native : Nat → NativeCall → Term

/-- A reply to a caller. Peer identifiers are structs and not plain terms. -/
inductive Reply
  | term (value : Term)
  | okPeerId (peerId : PeerId)
  | okPeers (peers : List PeerId)

def Reply.isError : Reply → Bool
  | .term (.tuple [.atom "error", _]) => true
  | _ => false

namespace Result

def normalizeOk : Term → Term
  | .tuple [.atom "ok", _] => .atom "ok"
  | .tuple [.atom "error", reason] => .tuple [.atom "error", reason]
  | other => other

end Result

def mapCells (change : Term → Except Exception PeerId) :
    Term → Except Exception (List PeerId)
  | .nil => return []
  | .cons head tail => do
      let first ← change head
      let rest ← mapCells change tail
      return first :: rest
  | tail => throw (.functionClauseError ":lists.map/2" tail)

def enumMap (change : Term → Except Exception PeerId) :
    Term → Except Exception (List PeerId)
  | .map pairs => pairs.mapM fun pair => change (.tuple [pair.1, pair.2])
  | value =>
      if value.isList then
        mapCells change value
      else
        throw (.protocolUndefined "Enumerable" value)

namespace NetworkOps

def handles? : Term → Bool
  | .atom "peer_id" => true
  | .atom "connected_peers" => true
  | .atom "listening_addrs" => true
  | .tuple [.atom "dial", _] => true
  | .tuple [.atom "listen_via_relay", _] => true
  | _ => false

def handle (state : State) : Term → Except Exception (Reply × State)
  | .atom "peer_id" => return (.okPeerId state.peerId, state)
  | .atom "connected_peers" => do
      let peers ← enumMap PeerId.new!
        (state.native state.handle .connectedPeers)
      return (.okPeers peers, state)
  | .atom "listening_addrs" =>
      return (.term (.ok (state.native state.handle .listeningAddrs)), state)
  | .tuple [.atom "dial", addr] =>
      return (.term (Result.normalizeOk
        (state.native state.handle (.dial addr))), state)
  | .tuple [.atom "listen_via_relay", relayAddr] =>
      return (.term (state.native state.handle (.listenViaRelay relayAddr)),
        state)
  | call => throw (.functionClauseError "NetworkOps.handle/3" call)

end NetworkOps

namespace NifOps

/-- The call that a message asks for, and whether its result is normalized. -/
def native? : Term → Option (NativeCall × Bool)
  | .tuple [.atom "publish", topic, data] => some (.publish topic data, true)
  | .tuple [.atom "subscribe", topic] => some (.subscribe topic, true)
  | .tuple [.atom "unsubscribe", topic] => some (.unsubscribe topic, true)
  | .tuple [.atom "gossipsub_mesh_peers", topic] =>
      some (.gossipsubMeshPeers topic, false)
  | .atom "gossipsub_all_peers" => some (.gossipsubAllPeers, false)
  | .tuple [.atom "gossipsub_peer_score", peerId] =>
      some (.gossipsubPeerScore peerId, false)
  | .tuple [.atom "dht_put", key, value] => some (.dhtPut key value, false)
  | .tuple [.atom "dht_get", key] => some (.dhtGet key, false)
  | .tuple [.atom "dht_find_peer", peerId] => some (.dhtFindPeer peerId, false)
  | .tuple [.atom "dht_provide", key] => some (.dhtProvide key, false)
  | .tuple [.atom "dht_find_providers", key] =>
      some (.dhtFindProviders key, false)
  | .atom "dht_bootstrap" => some (.dhtBootstrap, false)
  | .tuple [.atom "rpc_send_request", peerId, data] =>
      some (.rpcSendRequest peerId data, false)
  | .tuple [.atom "rpc_send_response", channelId, data] =>
      some (.rpcSendResponse channelId data, false)
  | .atom "bandwidth_stats" => some (.bandwidthStats, false)
  | .atom "prometheus_metrics" => some (.prometheusMetrics, false)
  | .tuple [.atom "rendezvous_register", ns, ttl, rendezvousPeer] =>
      some (.rendezvousRegister ns ttl rendezvousPeer, false)
  | .tuple [.atom "rendezvous_discover", ns, rendezvousPeer] =>
      some (.rendezvousDiscover ns rendezvousPeer, false)
  | .tuple [.atom "rendezvous_unregister", ns, rendezvousPeer] =>
      some (.rendezvousUnregister ns rendezvousPeer, false)
  | _ => none

def handle (state : State) (call : Term) : Except Exception (Reply × State) :=
  match native? call with
  | some (native, true) =>
      return (.term (Result.normalizeOk (state.native state.handle native)),
        state)
  | some (native, false) =>
      return (.term (state.native state.handle native), state)
  | none => return (.term (.error (.atom "unknown_call")), state)

end NifOps

def handleCall (state : State) (call : Term) :
    Except Exception (Reply × State) :=
  if NetworkOps.handles? call then
    NetworkOps.handle state call
  else
    NifOps.handle state call

end ExLibp2p.Node
