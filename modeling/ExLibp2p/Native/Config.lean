import ExLibp2p.Erlang.Term

namespace ExLibp2p.Native

open ExLibp2p.Data
open ExLibp2p.Erlang

/-! How `config.rs` reads the map that the node hands over. Floats are held as
their bits. -/

inductive Panic
  | addOverflow
  | improperList
  | library
  deriving DecidableEq

/-- How a native function ends without a result. -/
inductive Failure
  | message (text : String)
  | panic (panic : Panic)
  deriving DecidableEq

structure Rustler where
  f64OfInteger : Int → Option UInt64

namespace Decode

def binary : Term → Option Bytes
  | .binary bytes => some bytes
  | _ => none

def text (term : Term) : Option String :=
  (binary term).bind utf8?

def bool : Term → Option Bool
  | .atom "true" => some true
  | .atom "false" => some false
  | _ => none

def u32 : Term → Option UInt32
  | .integer value =>
      if 0 ≤ value ∧ value ≤ 0xffffffff then
        some (UInt32.ofNat value.toNat)
      else
        none
  | _ => none

def u64 : Term → Option UInt64
  | .integer value =>
      if 0 ≤ value ∧ value ≤ 0xffffffffffffffff then
        some (UInt64.ofNat value.toNat)
      else
        none
  | _ => none

def f64 (rustler : Rustler) : Term → Option UInt64
  | .float bits => some bits
  | .integer value => rustler.f64OfInteger value
  | _ => none

/-- The iterator over the cells of a list, which panics at an improper end. -/
def collectTexts : Term → Except Panic (Option (List String))
  | .nil => return some []
  | .cons head tail =>
      match text head with
      | some first => return (← collectTexts tail).map (first :: ·)
      | none => return none
  | _ => throw .improperList

def texts (term : Term) : Except Panic (Option (List String)) :=
  if term.isList then collectTexts term else return none

def hashMap : Term → Option (List (String × Term))
  | .map pairs => pairs.mapM fun pair => do return (← text pair.1, pair.2)
  | _ => none

end Decode

def isAtom : Term → Bool
  | .atom _ => true
  | _ => false

/-- A `HashMap<String, Term>`. -/
abbrev TermMap := List (String × Term)

section Getters

variable (rustler : Rustler) (map : TermMap) (key : String)

def getStringList : Except Failure (List String) :=
  match map.lookup key with
  | some term =>
      match Decode.texts term with
      | .ok (some list) => .ok list
      | .ok none => .error (.message ("invalid " ++ key))
      | .error panic => .error (.panic panic)
  | none => .ok []

/-- The getters that fall back to a default. -/
def getOr {Value : Type} (decode : Term → Option Value) (default : Value) :
    Value :=
  ((map.lookup key).bind decode).getD default

def getString (default : String) : String :=
  getOr map key Decode.text default

def getBinary : Option Bytes :=
  (map.lookup key).bind fun term =>
    if isAtom term then none else Decode.binary term

def getBool (default : Bool) : Bool :=
  getOr map key Decode.bool default

def getU64 (default : UInt64) : UInt64 :=
  getOr map key Decode.u64 default

def getU32 (default : UInt32) : UInt32 :=
  getOr map key Decode.u32 default

def getUsize (default : UInt64) : UInt64 :=
  getOr map key Decode.u64 default

def getF64 (default : UInt64) : UInt64 :=
  getOr map key (Decode.f64 rustler) default

end Getters

structure PeerScoreConfig where
  ipColocationFactorWeight : UInt64
  ipColocationFactorThreshold : UInt64
  behaviourPenaltyWeight : UInt64
  behaviourPenaltyDecay : UInt64
  deriving DecidableEq

structure ThresholdsConfig where
  gossipThreshold : UInt64
  publishThreshold : UInt64
  graylistThreshold : UInt64
  acceptPxThreshold : UInt64
  opportunisticGraftThreshold : UInt64
  deriving DecidableEq

/-- The map inside the map, unless the field is an atom or no such map. -/
def getInner (map : TermMap) (key : String) : Option TermMap :=
  (map.lookup key).bind fun term =>
    if isAtom term then none else Decode.hashMap term

def getPeerScore (rustler : Rustler) (map : TermMap) :
    Option PeerScoreConfig :=
  (getInner map "gossipsub_peer_score").map fun inner =>
    { -- -53.0
      ipColocationFactorWeight :=
        getF64 rustler inner "ip_colocation_factor_weight" 0xc04a800000000000
      -- 3.0
      ipColocationFactorThreshold :=
        getF64 rustler inner "ip_colocation_factor_threshold" 0x4008000000000000
      -- -15.92
      behaviourPenaltyWeight :=
        getF64 rustler inner "behaviour_penalty_weight" 0xc02fd70a3d70a3d7
      -- 0.986
      behaviourPenaltyDecay :=
        getF64 rustler inner "behaviour_penalty_decay" 0x3fef8d4fdf3b645a }

def getThresholds (rustler : Rustler) (map : TermMap) :
    Option ThresholdsConfig :=
  (getInner map "gossipsub_thresholds").map fun inner =>
    { -- -4000.0
      gossipThreshold :=
        getF64 rustler inner "gossip_threshold" 0xc0af400000000000
      -- -8000.0
      publishThreshold :=
        getF64 rustler inner "publish_threshold" 0xc0bf400000000000
      -- -16000.0
      graylistThreshold :=
        getF64 rustler inner "graylist_threshold" 0xc0cf400000000000
      -- 100.0
      acceptPxThreshold :=
        getF64 rustler inner "accept_px_threshold" 0x4059000000000000
      -- 5.0
      opportunisticGraftThreshold :=
        getF64 rustler inner "opportunistic_graft_threshold"
          0x4014000000000000 }

structure NodeConfig where
  keypairBytes : Option Bytes
  listenAddrs : List String
  bootstrapPeers : List String
  gossipsubTopics : List String
  gossipsubMeshN : UInt64
  gossipsubMeshNLow : UInt64
  gossipsubMeshNHigh : UInt64
  gossipsubGossipLazy : UInt64
  gossipsubMaxTransmitSize : UInt64
  gossipsubHeartbeatIntervalMs : UInt64
  enableMdns : Bool
  mdnsAutoDial : Bool
  enableKademlia : Bool
  enableRelay : Bool
  enableRelayServer : Bool
  enableAutonat : Bool
  enableAutonatServer : Bool
  enableUpnp : Bool
  enableWebsocket : Bool
  enableRendezvousClient : Bool
  enableRendezvousServer : Bool
  rpcProtocolName : String
  rpcRequestTimeoutSecs : UInt64
  idleConnectionTimeoutSecs : UInt64
  maxEstablishedIncoming : UInt32
  maxEstablishedOutgoing : UInt32
  maxPendingIncoming : UInt32
  maxPendingOutgoing : UInt32
  maxEstablishedPerPeer : UInt32
  memoryMaxPercentage : UInt64
  relayMaxReservations : UInt32
  relayMaxCircuits : UInt32
  relayMaxCircuitDurationSecs : UInt64
  relayMaxCircuitBytes : UInt64
  peerScoreDisabled : Bool
  peerScore : Option PeerScoreConfig
  thresholds : Option ThresholdsConfig
  deriving DecidableEq

def NodeConfig.fromMap (rustler : Rustler) (map : TermMap) :
    Except Failure NodeConfig := do
  return {
    keypairBytes := getBinary map "keypair_bytes"
    listenAddrs := ← getStringList map "listen_addrs"
    bootstrapPeers := ← getStringList map "bootstrap_peers"
    gossipsubTopics := ← getStringList map "gossipsub_topics"
    gossipsubMeshN := getUsize map "gossipsub_mesh_n" 6
    gossipsubMeshNLow := getUsize map "gossipsub_mesh_n_low" 4
    gossipsubMeshNHigh := getUsize map "gossipsub_mesh_n_high" 12
    gossipsubGossipLazy := getUsize map "gossipsub_gossip_lazy" 6
    gossipsubMaxTransmitSize := getUsize map "gossipsub_max_transmit_size" 65536
    gossipsubHeartbeatIntervalMs :=
      getU64 map "gossipsub_heartbeat_interval_ms" 1000
    enableMdns := getBool map "enable_mdns" true
    mdnsAutoDial := getBool map "mdns_auto_dial" true
    enableKademlia := getBool map "enable_kademlia" true
    enableRelay := getBool map "enable_relay" false
    enableRelayServer := getBool map "enable_relay_server" false
    enableAutonat := getBool map "enable_autonat" false
    enableAutonatServer := getBool map "enable_autonat_server" false
    enableUpnp := getBool map "enable_upnp" false
    enableWebsocket := getBool map "enable_websocket" false
    enableRendezvousClient := getBool map "enable_rendezvous_client" false
    enableRendezvousServer := getBool map "enable_rendezvous_server" false
    rpcProtocolName := getString map "rpc_protocol_name" "/ex-libp2p/rpc/1.0.0"
    rpcRequestTimeoutSecs := getU64 map "rpc_request_timeout_secs" 30
    idleConnectionTimeoutSecs := getU64 map "idle_connection_timeout_secs" 60
    maxEstablishedIncoming := getU32 map "max_established_incoming" 256
    maxEstablishedOutgoing := getU32 map "max_established_outgoing" 256
    maxPendingIncoming := getU32 map "max_pending_incoming" 128
    maxPendingOutgoing := getU32 map "max_pending_outgoing" 64
    maxEstablishedPerPeer := getU32 map "max_established_per_peer" 2
    -- 0.9
    memoryMaxPercentage :=
      getF64 rustler map "memory_max_percentage" 0x3feccccccccccccd
    relayMaxReservations := getU32 map "relay_max_reservations" 128
    relayMaxCircuits := getU32 map "relay_max_circuits" 16
    relayMaxCircuitDurationSecs :=
      getU64 map "relay_max_circuit_duration_secs" 120
    relayMaxCircuitBytes := getU64 map "relay_max_circuit_bytes" 131072
    peerScoreDisabled := getBool map "peer_score_disabled" false
    peerScore := getPeerScore rustler map
    thresholds := getThresholds rustler map }

/-- A list of texts with an improper end. -/
inductive ImproperTexts : Term → Prop
  | last {head tail : Term} (isText : (Decode.text head).isSome)
      (noList : tail.isList = false) : ImproperTexts (.cons head tail)
  | cons {head tail : Term} (isText : (Decode.text head).isSome)
      (later : ImproperTexts tail) : ImproperTexts (.cons head tail)

theorem improperTexts_of_panic {term : Term} {panic : Panic}
    (isList : term.isList = true)
    (panicked : Decode.collectTexts term = .error panic) :
    ImproperTexts term := by
  fun_induction Decode.collectTexts term with
  | case1 => cases panicked
  | case2 head tail first isText induction =>
      have isSome : (Decode.text head).isSome := Option.isSome_of_mem isText
      cases isTail : tail.isList with
      | false => exact .last isSome isTail
      | true =>
          cases collected : Decode.collectTexts tail with
          | ok list =>
              rw [collected] at panicked
              cases panicked
          | error other =>
              rw [collected] at panicked
              cases panicked
              exact .cons isSome (induction isTail collected)
  | case3 head tail notText => cases panicked
  | case4 term notNil notCons =>
      cases term with
      | nil => exact absurd rfl notNil
      | cons head tail => exact absurd rfl (notCons head tail)
      | _ => cases isList

theorem improperTexts_of_getStringList {map : TermMap} {key : String}
    {panic : Panic} (panicked : getStringList map key = .error (.panic panic)) :
    ∃ term, map.lookup key = some term ∧ ImproperTexts term := by
  unfold getStringList at panicked
  cases found : map.lookup key with
  | none =>
      rw [found] at panicked
      cases panicked
  | some term =>
      rw [found] at panicked
      refine ⟨term, rfl, ?_⟩
      simp only [Decode.texts] at panicked
      cases isList : term.isList with
      | false =>
          rw [isList] at panicked
          cases panicked
      | true =>
          rw [if_pos isList] at panicked
          rcases collected : Decode.collectTexts term with other | none | list
          · exact improperTexts_of_panic isList collected
          · simp [collected] at panicked
          · simp [collected] at panicked

theorem error_of_bind {First Next : Type} {result : Except Failure First}
    {next : First → Except Failure Next} {failure : Failure}
    (failed : (result >>= next) = .error failure) :
    result = .error failure ∨ ∃ value, next value = .error failure := by
  cases result with
  | error other =>
      cases failed
      exact .inl rfl
  | ok value => exact .inr ⟨value, failed⟩

theorem improperTexts_of_fromMap {rustler : Rustler} {map : TermMap}
    {panic : Panic}
    (panicked : NodeConfig.fromMap rustler map = .error (.panic panic)) :
    ∃ key ∈ ["listen_addrs", "bootstrap_peers", "gossipsub_topics"],
      ∃ term, map.lookup key = some term ∧ ImproperTexts term := by
  rcases error_of_bind panicked with first | ⟨listenAddrs, later⟩
  · exact ⟨_, by simp, improperTexts_of_getStringList first⟩
  · rcases error_of_bind later with second | ⟨bootstrapPeers, last⟩
    · exact ⟨_, by simp, improperTexts_of_getStringList second⟩
    · rcases error_of_bind last with third | ⟨topics, impossible⟩
      · exact ⟨_, by simp, improperTexts_of_getStringList third⟩
      · cases impossible

end ExLibp2p.Native
