import ExLibp2p.Native.DhtState
import ExLibp2p.Native.PeerId

namespace ExLibp2p.Native

open ExLibp2p.Data
open ExLibp2p.Native.DhtState

/-! The commands of `commands.rs`. A oneshot sender is the number of the
caller that waits on it, and an `f64` its bits. -/

abbrev ReplyTo := Nat

abbrev LocalPid := Nat

inductive Command
  | dial (addr : Multiaddr)
  | registerEventHandler (pid : LocalPid)
  | shutdown
  | connectedPeers (reply : ReplyTo)
  | listeningAddrs (reply : ReplyTo)
  | bandwidthStats (reply : ReplyTo)
  | publish (topic : String) (data : Bytes)
  | subscribe (topic : String)
  | unsubscribe (topic : String)
  | gossipsubMeshPeers (topic : String) (reply : ReplyTo)
  | gossipsubAllPeers (reply : ReplyTo)
  | gossipsubPeerScore (peerId : PeerId) (reply : ReplyTo)
  | dhtPut (key value : Bytes)
  | dhtGet (key : Bytes)
  | dhtFindPeer (peerId : PeerId)
  | dhtProvide (key : Bytes)
  | dhtFindProviders (key : Bytes)
  | dhtBootstrap
  | dhtExportRoutingTable (reply : ReplyTo)
  | dhtImportRoutingTable (entries : List RoutingEntry) (reply : ReplyTo)
  | rpcSendRequest (peerId : PeerId) (data : Bytes) (reply : ReplyTo)
  | rpcSendResponse (channelId : String) (data : Bytes)
  | listenViaRelay (relayAddr : Multiaddr)
  | rendezvousRegister (ns : String) (ttl : UInt64) (rendezvousPeer : PeerId)
  | rendezvousDiscover (ns : String) (rendezvousPeer : PeerId)
  | rendezvousUnregister (ns : String) (rendezvousPeer : PeerId)
  deriving DecidableEq

inductive Reply
  | peers (peers : List PeerId)
  | addrs (addrs : List Multiaddr)
  | bandwidth (inbound outbound : UInt64)
  | score (score : Option UInt64)
  | exported (result : Except Unit (List RoutingEntry))
  | imported (result : Except Unit Nat)
  | requestId (requestId : String)

end ExLibp2p.Native
