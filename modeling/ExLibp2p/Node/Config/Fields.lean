import ExLibp2p.Native.Config
import ExLibp2p.Node.Config
import Mathlib.Data.List.Perm.Basic

namespace ExLibp2p.Node

open ExLibp2p.Data
open ExLibp2p.Erlang
open ExLibp2p.Native

/-! The wiring of the options to the fields of `NodeConfig`, as it is meant:
for each field the option that sets it, the struct field whose default stands
in for it, and the type of its values. -/

inductive Kind
  | keypair
  | texts
  | text
  | flag
  | u32
  | u64
  | float
  | peerScore
  | thresholds
  deriving DecidableEq

inductive Group
  | identity
  | network
  | discovery
  | gossipsub
  | requestResponse
  | relay
  | rendezvous
  deriving DecidableEq

inductive Field
  | keypairBytes
  | listenAddrs
  | bootstrapPeers
  | gossipsubTopics
  | gossipsubMeshN
  | gossipsubMeshNLow
  | gossipsubMeshNHigh
  | gossipsubGossipLazy
  | gossipsubMaxTransmitSize
  | gossipsubHeartbeatIntervalMs
  | enableMdns
  | mdnsAutoDial
  | enableKademlia
  | enableRelay
  | enableRelayServer
  | enableAutonat
  | enableAutonatServer
  | enableUpnp
  | enableWebsocket
  | enableRendezvousClient
  | enableRendezvousServer
  | rpcProtocolName
  | rpcRequestTimeoutSecs
  | idleConnectionTimeoutSecs
  | maxEstablishedIncoming
  | maxEstablishedOutgoing
  | maxPendingIncoming
  | maxPendingOutgoing
  | maxEstablishedPerPeer
  | memoryMaxPercentage
  | relayMaxReservations
  | relayMaxCircuits
  | relayMaxCircuitDurationSecs
  | relayMaxCircuitBytes
  | peerScoreDisabled
  | peerScore
  | thresholds
  deriving DecidableEq

namespace Field

def kind : Field → Kind
  | .keypairBytes => .keypair
  | .listenAddrs => .texts
  | .bootstrapPeers => .texts
  | .gossipsubTopics => .texts
  | .gossipsubMeshN => .u64
  | .gossipsubMeshNLow => .u64
  | .gossipsubMeshNHigh => .u64
  | .gossipsubGossipLazy => .u64
  | .gossipsubMaxTransmitSize => .u64
  | .gossipsubHeartbeatIntervalMs => .u64
  | .enableMdns => .flag
  | .mdnsAutoDial => .flag
  | .enableKademlia => .flag
  | .enableRelay => .flag
  | .enableRelayServer => .flag
  | .enableAutonat => .flag
  | .enableAutonatServer => .flag
  | .enableUpnp => .flag
  | .enableWebsocket => .flag
  | .enableRendezvousClient => .flag
  | .enableRendezvousServer => .flag
  | .rpcProtocolName => .text
  | .rpcRequestTimeoutSecs => .u64
  | .idleConnectionTimeoutSecs => .u64
  | .maxEstablishedIncoming => .u32
  | .maxEstablishedOutgoing => .u32
  | .maxPendingIncoming => .u32
  | .maxPendingOutgoing => .u32
  | .maxEstablishedPerPeer => .u32
  | .memoryMaxPercentage => .float
  | .relayMaxReservations => .u32
  | .relayMaxCircuits => .u32
  | .relayMaxCircuitDurationSecs => .u64
  | .relayMaxCircuitBytes => .u64
  | .peerScoreDisabled => .flag
  | .peerScore => .peerScore
  | .thresholds => .thresholds

def key : Field → String
  | .keypairBytes => "keypair_bytes"
  | .listenAddrs => "listen_addrs"
  | .bootstrapPeers => "bootstrap_peers"
  | .gossipsubTopics => "gossipsub_topics"
  | .gossipsubMeshN => "gossipsub_mesh_n"
  | .gossipsubMeshNLow => "gossipsub_mesh_n_low"
  | .gossipsubMeshNHigh => "gossipsub_mesh_n_high"
  | .gossipsubGossipLazy => "gossipsub_gossip_lazy"
  | .gossipsubMaxTransmitSize => "gossipsub_max_transmit_size"
  | .gossipsubHeartbeatIntervalMs => "gossipsub_heartbeat_interval_ms"
  | .enableMdns => "enable_mdns"
  | .mdnsAutoDial => "mdns_auto_dial"
  | .enableKademlia => "enable_kademlia"
  | .enableRelay => "enable_relay"
  | .enableRelayServer => "enable_relay_server"
  | .enableAutonat => "enable_autonat"
  | .enableAutonatServer => "enable_autonat_server"
  | .enableUpnp => "enable_upnp"
  | .enableWebsocket => "enable_websocket"
  | .enableRendezvousClient => "enable_rendezvous_client"
  | .enableRendezvousServer => "enable_rendezvous_server"
  | .rpcProtocolName => "rpc_protocol_name"
  | .rpcRequestTimeoutSecs => "rpc_request_timeout_secs"
  | .idleConnectionTimeoutSecs => "idle_connection_timeout_secs"
  | .maxEstablishedIncoming => "max_established_incoming"
  | .maxEstablishedOutgoing => "max_established_outgoing"
  | .maxPendingIncoming => "max_pending_incoming"
  | .maxPendingOutgoing => "max_pending_outgoing"
  | .maxEstablishedPerPeer => "max_established_per_peer"
  | .memoryMaxPercentage => "memory_max_percentage"
  | .relayMaxReservations => "relay_max_reservations"
  | .relayMaxCircuits => "relay_max_circuits"
  | .relayMaxCircuitDurationSecs => "relay_max_circuit_duration_secs"
  | .relayMaxCircuitBytes => "relay_max_circuit_bytes"
  | .peerScoreDisabled => "peer_score_disabled"
  | .peerScore => "gossipsub_peer_score"
  | .thresholds => "gossipsub_thresholds"

def option : Field → String
  | .peerScoreDisabled => "gossipsub_peer_score_disabled"
  | field => field.key

def home : Field → Group × String
  | .keypairBytes => (.identity, "keypair_bytes")
  | .listenAddrs => (.network, "listen_addrs")
  | .bootstrapPeers => (.discovery, "bootstrap_peers")
  | .gossipsubTopics => (.gossipsub, "topics")
  | .gossipsubMeshN => (.gossipsub, "mesh_n")
  | .gossipsubMeshNLow => (.gossipsub, "mesh_n_low")
  | .gossipsubMeshNHigh => (.gossipsub, "mesh_n_high")
  | .gossipsubGossipLazy => (.gossipsub, "gossip_lazy")
  | .gossipsubMaxTransmitSize => (.gossipsub, "max_transmit_size")
  | .gossipsubHeartbeatIntervalMs => (.gossipsub, "heartbeat_interval_ms")
  | .enableMdns => (.discovery, "enable_mdns")
  | .mdnsAutoDial => (.discovery, "mdns_auto_dial")
  | .enableKademlia => (.discovery, "enable_kademlia")
  | .enableRelay => (.relay, "enable")
  | .enableRelayServer => (.relay, "enable_server")
  | .enableAutonat => (.relay, "enable_autonat")
  | .enableAutonatServer => (.relay, "enable_autonat_server")
  | .enableUpnp => (.relay, "enable_upnp")
  | .enableWebsocket => (.network, "enable_websocket")
  | .enableRendezvousClient => (.rendezvous, "enable_client")
  | .enableRendezvousServer => (.rendezvous, "enable_server")
  | .rpcProtocolName => (.requestResponse, "protocol_name")
  | .rpcRequestTimeoutSecs => (.requestResponse, "request_timeout_secs")
  | .idleConnectionTimeoutSecs => (.network, "idle_connection_timeout_secs")
  | .maxEstablishedIncoming => (.network, "max_established_incoming")
  | .maxEstablishedOutgoing => (.network, "max_established_outgoing")
  | .maxPendingIncoming => (.network, "max_pending_incoming")
  | .maxPendingOutgoing => (.network, "max_pending_outgoing")
  | .maxEstablishedPerPeer => (.network, "max_established_per_peer")
  | .memoryMaxPercentage => (.network, "memory_max_percentage")
  | .relayMaxReservations => (.relay, "max_reservations")
  | .relayMaxCircuits => (.relay, "max_circuits")
  | .relayMaxCircuitDurationSecs => (.relay, "max_circuit_duration_secs")
  | .relayMaxCircuitBytes => (.relay, "max_circuit_bytes")
  | .peerScoreDisabled => (.gossipsub, "peer_score_disabled")
  | .peerScore => (.gossipsub, "peer_score")
  | .thresholds => (.gossipsub, "thresholds")

end Field

/-- The value of a field of `NodeConfig`, by the kind of the field. -/
inductive Value
  | keypair (bytes : Option Bytes)
  | texts (list : List String)
  | text (content : String)
  | flag (on : Bool)
  | number (value : Nat)
  | float (bits : UInt64)
  | peerScore (config : Option PeerScoreConfig)
  | thresholds (config : Option ThresholdsConfig)

def valueOf (config : NodeConfig) : Field → Value
  | .keypairBytes => .keypair config.keypairBytes
  | .listenAddrs => .texts config.listenAddrs
  | .bootstrapPeers => .texts config.bootstrapPeers
  | .gossipsubTopics => .texts config.gossipsubTopics
  | .gossipsubMeshN => .number config.gossipsubMeshN.toNat
  | .gossipsubMeshNLow => .number config.gossipsubMeshNLow.toNat
  | .gossipsubMeshNHigh => .number config.gossipsubMeshNHigh.toNat
  | .gossipsubGossipLazy => .number config.gossipsubGossipLazy.toNat
  | .gossipsubMaxTransmitSize => .number config.gossipsubMaxTransmitSize.toNat
  | .gossipsubHeartbeatIntervalMs =>
      .number config.gossipsubHeartbeatIntervalMs.toNat
  | .enableMdns => .flag config.enableMdns
  | .mdnsAutoDial => .flag config.mdnsAutoDial
  | .enableKademlia => .flag config.enableKademlia
  | .enableRelay => .flag config.enableRelay
  | .enableRelayServer => .flag config.enableRelayServer
  | .enableAutonat => .flag config.enableAutonat
  | .enableAutonatServer => .flag config.enableAutonatServer
  | .enableUpnp => .flag config.enableUpnp
  | .enableWebsocket => .flag config.enableWebsocket
  | .enableRendezvousClient => .flag config.enableRendezvousClient
  | .enableRendezvousServer => .flag config.enableRendezvousServer
  | .rpcProtocolName => .text config.rpcProtocolName
  | .rpcRequestTimeoutSecs => .number config.rpcRequestTimeoutSecs.toNat
  | .idleConnectionTimeoutSecs => .number config.idleConnectionTimeoutSecs.toNat
  | .maxEstablishedIncoming => .number config.maxEstablishedIncoming.toNat
  | .maxEstablishedOutgoing => .number config.maxEstablishedOutgoing.toNat
  | .maxPendingIncoming => .number config.maxPendingIncoming.toNat
  | .maxPendingOutgoing => .number config.maxPendingOutgoing.toNat
  | .maxEstablishedPerPeer => .number config.maxEstablishedPerPeer.toNat
  | .memoryMaxPercentage => .float config.memoryMaxPercentage
  | .relayMaxReservations => .number config.relayMaxReservations.toNat
  | .relayMaxCircuits => .number config.relayMaxCircuits.toNat
  | .relayMaxCircuitDurationSecs =>
      .number config.relayMaxCircuitDurationSecs.toNat
  | .relayMaxCircuitBytes => .number config.relayMaxCircuitBytes.toNat
  | .peerScoreDisabled => .flag config.peerScoreDisabled
  | .peerScore => .peerScore config.peerScore
  | .thresholds => .thresholds config.thresholds

def Config.group (config : Config) : Group → Struct
  | .identity => config.identity
  | .network => config.network
  | .discovery => config.discovery
  | .gossipsub => config.gossipsub
  | .requestResponse => config.requestResponse
  | .relay => config.relay
  | .rendezvous => config.rendezvous

def Config.defaults : Group → Struct
  | .identity => identityDefaults
  | .network => networkDefaults
  | .discovery => discoveryDefaults
  | .gossipsub => gossipsubDefaults
  | .requestResponse => requestResponseDefaults
  | .relay => relayDefaults
  | .rendezvous => rendezvousDefaults

def Field.default (field : Field) : Term :=
  ((Config.defaults field.home.1).lookup field.home.2).getD (.atom "nil")

/-- What the caller asks for: the option if it was given, else the default. -/
def Field.asked (field : Field) (opts : Keywords) : Term :=
  (opts.lookup field.option).getD field.default

def peerScoreFields (config : PeerScoreConfig) : List (String × UInt64) :=
  [("ip_colocation_factor_weight", config.ipColocationFactorWeight),
    ("ip_colocation_factor_threshold", config.ipColocationFactorThreshold),
    ("behaviour_penalty_weight", config.behaviourPenaltyWeight),
    ("behaviour_penalty_decay", config.behaviourPenaltyDecay)]

def thresholdsFields (config : ThresholdsConfig) : List (String × UInt64) :=
  [("gossip_threshold", config.gossipThreshold),
    ("publish_threshold", config.publishThreshold),
    ("graylist_threshold", config.graylistThreshold),
    ("accept_px_threshold", config.acceptPxThreshold),
    ("opportunistic_graft_threshold", config.opportunisticGraftThreshold)]

/-- The term is the struct of that name with these floats, its pairs in any
order. -/
def IsStruct (name : String) (fields : List (String × UInt64)) (term : Term) :
    Prop :=
  ∃ pairs, term = .map pairs ∧
    pairs.Perm ((.atom "__struct__", .atom name) ::
      fields.map fun field => (.atom field.1, .float field.2))

def IsPeerScore (config : PeerScoreConfig) : Term → Prop :=
  IsStruct "Elixir.ExLibp2p.Gossipsub.PeerScore" (peerScoreFields config)

def IsThresholds (config : ThresholdsConfig) : Term → Prop :=
  IsStruct "Elixir.ExLibp2p.Gossipsub.PeerScore.Thresholds"
    (thresholdsFields config)

/-- The value on the native side is exactly the term of the caller. -/
def Value.Represents : Value → Term → Prop
  | .keypair none, term => term = .atom "nil"
  | .keypair (some bytes), term => term = .binary bytes
  | .texts list, term => term = .list (list.map .text)
  | .text content, term => term = .text content
  | .flag on, term => term = .atom (if on then "true" else "false")
  | .number value, term => term = .integer value
  | .float bits, term => term = .float bits
  | .peerScore none, term => term = .atom "nil"
  | .peerScore (some config), term => IsPeerScore config term
  | .thresholds none, term => term = .atom "nil"
  | .thresholds (some config), term => IsThresholds config term

/-- The term has the documented type and fits the native one. -/
def Kind.Fits : Kind → Term → Prop
  | .keypair, term => ∃ bytes, term = .binary bytes
  | .texts, term => ∃ list : List String, term = .list (list.map .text)
  | .text, term => ∃ content, term = .text content
  | .flag, term => term = .atom "true" ∨ term = .atom "false"
  | .u32, term => ∃ value : Int, term = .integer value ∧
      0 ≤ value ∧ value ≤ 0xffffffff
  | .u64, term => ∃ value : Int, term = .integer value ∧
      0 ≤ value ∧ value ≤ 0xffffffffffffffff
  | .float, term => ∃ bits, term = .float bits
  | .peerScore, term => ∃ config, IsPeerScore config term
  | .thresholds, term => ∃ config, IsThresholds config term

/-- A list with an element that is no text in front of any improper end. -/
def HasOther : Term → Prop
  | .cons head tail =>
      (∀ content : String, head ≠ .text content) ∨ HasOther tail
  | _ => False

def NotTexts (term : Term) : Prop :=
  term.isList = false ∨ HasOther term

end ExLibp2p.Node
