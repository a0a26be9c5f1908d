import ExLibp2p.Data.Script
import ExLibp2p.Native.ConnectionLimits
import ExLibp2p.Native.GetRuntime
import ExLibp2p.Native.Identity
import ExLibp2p.Native.Nif
import ExLibp2p.Native.PeerId
import ExLibp2p.Native.Policy

namespace ExLibp2p.Native.StartNode

open ExLibp2p.Data
open ExLibp2p.Data.Script

/-! `start_node` of `lib.rs` with `start_node_inner` of `node.rs`. Durations are
numbers of their unit, and what a behaviour has by default is left out. -/

structure GossipsubConfig where
  heartbeatIntervalMs : UInt64
  meshN : UInt64
  meshNLow : UInt64
  meshNHigh : UInt64
  gossipLazy : UInt64
  maxTransmitSize : UInt64
  deriving DecidableEq

structure Gossipsub (Key : Type) where
  signed : Key
  config : GossipsubConfig
  peerScore : Option (PeerScoreConfig × ThresholdsConfig)

structure RequestResponse where
  protocol : String
  requestTimeoutSecs : UInt64
  deriving DecidableEq

structure RelayConfig where
  maxReservations : UInt64
  maxCircuits : UInt64
  maxCircuitDurationSecs : UInt64
  maxCircuitBytes : UInt64
  deriving DecidableEq

/-- The behaviours, by what each is built from. `ping` and the relay client are
built from nothing of the configuration. -/
structure NodeBehaviour (Key : Type) where
  connectionLimits : ConnectionLimits
  memoryLimits : UInt64
  identify : String × Key
  gossipsub : Gossipsub Key
  requestResponse : RequestResponse
  kademlia : Option Bytes
  mdns : Option Bytes
  rendezvousClient : Option Key
  rendezvousServer : Option Unit
  relayServer : Option (Bytes × RelayConfig)
  dcutr : Option Bytes
  autonat : Option Bytes
  autonatServer : Option Unit
  upnp : Option Unit

structure Swarm (Key : Type) where
  identity : Key
  behaviour : NodeBehaviour Key
  idleConnectionTimeoutSecs : UInt64
  topics : List String
  listeners : List Multiaddr

/-- What libp2p makes of what it is given. Apart from the reading of a keypair,
its functions may panic, also those that return no `Result`. -/
structure Libp2p (Key : Type) where
  identity : Identity Key
  -- `Keypair::generate_ed25519`
  generated : Except Panic Key
  buildGossipsubConfig : GossipsubConfig → Except Failure Unit
  newGossipsub : Key → GossipsubConfig → Except Failure Unit
  withPeerScore : PeerScoreConfig → ThresholdsConfig → Except Failure Unit
  kademliaPanics : Bytes → Bool
  identifyPanics : String × Key → Bool
  newMdns : Bytes → Except Failure Unit
  streamProtocol : String → Except Failure Unit
  -- the constructors from `request_response` to the memory limits
  protocolsPanic : NodeBehaviour Key → Bool
  withTcp : Except Failure Unit
  quicPanics : Bool
  withDns : Except Failure Unit
  withRelayClient : Except Failure Unit
  metricsPanic : Bool
  withBehaviour : Except Failure Unit
  buildPanics : Bool
  subscribe : List String → String → Except Failure Bool
  parseMultiaddr : String → Except Failure Multiaddr
  listenOn : List Multiaddr → Multiaddr → Except Failure Unit

/-- A node handle, by the channel of its loop and its identifier. -/
structure NodeHandle where
  peerId : Bytes
  deriving DecidableEq

inductive Effect (Key : Type)
  | subscribe (topic : String)
  | listenOn (addr : Multiaddr)
  | spawn (runtime : GetRuntime.Runtime) (swarm : Swarm Key)
      (mdnsAutoDial : Bool)

abbrev Script (Key : Type) :=
  Data.Script Failure (Effect Key)

def gossipsubConfig (config : NodeConfig) : GossipsubConfig where
  heartbeatIntervalMs := config.gossipsubHeartbeatIntervalMs
  meshN := config.gossipsubMeshN
  meshNLow := config.gossipsubMeshNLow
  meshNHigh := config.gossipsubMeshNHigh
  gossipLazy := config.gossipsubGossipLazy
  maxTransmitSize := config.gossipsubMaxTransmitSize

def defaultScore : PeerScoreConfig where
  ipColocationFactorWeight :=
    Policy.GossipsubDefaultScore.ipColocationFactorWeight
  ipColocationFactorThreshold :=
    Policy.GossipsubDefaultScore.ipColocationFactorThreshold
  behaviourPenaltyWeight := Policy.GossipsubDefaultScore.behaviourPenaltyWeight
  behaviourPenaltyDecay := Policy.GossipsubDefaultScore.behaviourPenaltyDecay

def defaultThresholds : ThresholdsConfig where
  gossipThreshold := Policy.GossipsubDefaultThresholds.gossip
  publishThreshold := Policy.GossipsubDefaultThresholds.publish
  graylistThreshold := Policy.GossipsubDefaultThresholds.graylist
  acceptPxThreshold := Policy.GossipsubDefaultThresholds.acceptPx
  opportunisticGraftThreshold :=
    Policy.GossipsubDefaultThresholds.opportunisticGraft

def peerScoring (config : NodeConfig) :
    Option (PeerScoreConfig × ThresholdsConfig) :=
  if config.peerScoreDisabled then none
  else
    some (config.peerScore.getD defaultScore,
      config.thresholds.getD defaultThresholds)

def relayConfig (config : NodeConfig) : RelayConfig where
  -- `as usize`
  maxReservations := config.relayMaxReservations.toUInt64
  maxCircuits := config.relayMaxCircuits.toUInt64
  maxCircuitDurationSecs := config.relayMaxCircuitDurationSecs
  maxCircuitBytes := config.relayMaxCircuitBytes

/-- A `Toggle`. -/
def toggle {Built : Type} (enabled : Bool) (built : Built) : Option Built :=
  if enabled then some built else none

def during (step : String) : Failure → Failure
  | .message reason => .message (step ++ reason)
  | .panic panic => .panic panic

section Start

variable {Key : Type} (rustler : Rustler) (libp2p : Libp2p Key)
  (profile : Profile) (runtime : Except String GetRuntime.Runtime)

/-- `map_err` with the name of the step, and `?`. -/
def attempt {Value : Type} (step : String) (result : Except Failure Value) :
    Script Key Value :=
  lift (result.mapError (during step))

def infallible (panics : Bool) : Except Failure Unit :=
  if panics then .error (.panic .library) else .ok ()

def identityKeypair (config : NodeConfig) : Except Failure Key :=
  match config.keypairBytes with
  | some bytes =>
      (libp2p.identity.fromProtobufEncoding bytes).mapError .message
  | none => libp2p.generated.mapError .panic

def withPeerScore (config : NodeConfig) : Except Failure Unit :=
  match peerScoring config with
  | some (params, thresholds) => libp2p.withPeerScore params thresholds
  | none => .ok ()

def kademliaBehaviour (config : NodeConfig) (localPeerId : Bytes) :
    Except Failure Unit :=
  if config.enableKademlia then
    infallible (libp2p.kademliaPanics localPeerId)
  else
    .ok ()

def mdnsBehaviour (config : NodeConfig) (localPeerId : Bytes) :
    Except Failure Unit :=
  if config.enableMdns then libp2p.newMdns localPeerId else .ok ()

def nodeBehaviour (config : NodeConfig) (keypair : Key)
    (limits : ConnectionLimits) : NodeBehaviour Key :=
  let localPeerId := libp2p.identity.peerId keypair
  { connectionLimits := limits
    memoryLimits := config.memoryMaxPercentage
    identify := ("/ex-libp2p/0.1.0", keypair)
    gossipsub :=
      { signed := keypair
        config := gossipsubConfig config
        peerScore := peerScoring config }
    requestResponse :=
      { protocol := config.rpcProtocolName
        requestTimeoutSecs := config.rpcRequestTimeoutSecs }
    kademlia := toggle config.enableKademlia localPeerId
    mdns := toggle config.enableMdns localPeerId
    rendezvousClient := toggle config.enableRendezvousClient keypair
    rendezvousServer := toggle config.enableRendezvousServer ()
    relayServer :=
      toggle config.enableRelayServer (localPeerId, relayConfig config)
    dcutr := toggle config.enableRelay localPeerId
    autonat := toggle config.enableAutonat localPeerId
    autonatServer := toggle config.enableAutonatServer ()
    upnp := toggle config.enableUpnp () }

def subscribeAll (swarm : Swarm Key) : List String → Script Key (Swarm Key)
  | [] => return swarm
  | topic :: topics => do
      let _ ← attempt ("subscribe " ++ topic ++ ": ")
        (libp2p.subscribe swarm.topics topic)
      perform (.subscribe topic)
      subscribeAll { swarm with topics := swarm.topics ++ [topic] } topics

def listenOnAll (swarm : Swarm Key) : List String → Script Key (Swarm Key)
  | [] => return swarm
  | text :: texts => do
      let addr ← attempt ("invalid listen addr " ++ text ++ ": ")
        (libp2p.parseMultiaddr text)
      attempt "listen: " (libp2p.listenOn swarm.listeners addr)
      perform (.listenOn addr)
      listenOnAll { swarm with listeners := swarm.listeners ++ [addr] } texts

def startNodeInner (configMap : TermMap) : Script Key NodeHandle := do
  let config ← attempt "" (NodeConfig.fromMap rustler configMap)
  let runtime ← attempt "" (runtime.mapError .message)
  let keypair ← attempt "invalid keypair: " (identityKeypair libp2p config)
  let localPeerId := libp2p.identity.peerId keypair
  let limits ← attempt "" ((connectionLimits profile config).mapError .panic)
  attempt "gossipsub config: "
    (libp2p.buildGossipsubConfig (gossipsubConfig config))
  attempt "gossipsub behaviour: "
    (libp2p.newGossipsub keypair (gossipsubConfig config))
  attempt "peer scoring: " (withPeerScore libp2p config)
  attempt "" (kademliaBehaviour libp2p config localPeerId)
  let behaviour := nodeBehaviour libp2p config keypair limits
  attempt "" (infallible (libp2p.identifyPanics behaviour.identify))
  attempt "mdns: " (mdnsBehaviour libp2p config localPeerId)
  attempt "invalid protocol name: "
    (libp2p.streamProtocol config.rpcProtocolName)
  attempt "" (infallible (libp2p.protocolsPanic behaviour))
  attempt "tcp transport: " libp2p.withTcp
  attempt "" (infallible libp2p.quicPanics)
  attempt "dns: " libp2p.withDns
  attempt "relay client: " libp2p.withRelayClient
  attempt "" (infallible libp2p.metricsPanic)
  attempt "behaviour: " libp2p.withBehaviour
  attempt "" (infallible libp2p.buildPanics)
  let built : Swarm Key :=
    { identity := keypair
      behaviour
      idleConnectionTimeoutSecs := config.idleConnectionTimeoutSecs
      topics := []
      listeners := [] }
  let subscribed ← subscribeAll libp2p built config.gossipsubTopics
  let swarm ← listenOnAll libp2p subscribed config.listenAddrs
  perform (.spawn runtime swarm config.mdnsAutoDial)
  return { peerId := localPeerId }

/-- What `start_node` makes of a failure, or of the panic that it catches. -/
def toNifError : Failure → NifError
  | .message text => .internal text
  | .panic _ => .nifPanic "panic caught in start_node — check Rust logs"

/-- `start_node`, with what it did before it returned. -/
def startNode (configMap : TermMap) :
    Except NifError NodeHandle × List (Effect Key) :=
  let (result, effects) :=
    run (startNodeInner rustler libp2p profile runtime configMap) []
  (result.mapError toNifError, effects)

end Start

end ExLibp2p.Native.StartNode
