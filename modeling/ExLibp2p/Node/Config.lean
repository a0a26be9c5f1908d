import ExLibp2p.Data.KeyList
import ExLibp2p.Erlang.Term

namespace ExLibp2p.Node

open ExLibp2p.Data
open ExLibp2p.Erlang

/-! The configuration of `node/config.ex` and its seven subgroups. Keys and
field names are atoms and stand by their names. -/

/-- A keyword list. -/
abbrev Keywords := List (String × Term)

namespace Keyword

/-- The two halves of the keys that are still free, without the one found. -/
def findKey (key : String) :
    List String → List String → Option (List String × List String)
  | [], _ => none
  | head :: tail, acc =>
      if key = head then some (tail, acc) else findKey key tail (head :: acc)

def badKeys : Keywords → List String → List String → List String → List String
  | [], _, _, bad => bad
  | (key, _) :: opts, values, others, bad =>
      match findKey key values others with
      | some (values, others) => badKeys opts values others bad
      | none =>
          match findKey key others values with
          | some (values, others) => badKeys opts values others bad
          | none => badKeys opts values others (key :: bad)

/-- `Keyword.validate!`, which takes each key away once it is used. -/
def validate! (opts : Keywords) (keys : List String) : Except Exception Unit :=
  match badKeys opts keys [] [] with
  | [] => .ok ()
  | bad =>
      .error (.argumentError "unknown keys "
        (.tuple [.list (bad.map .atom),
          .list (opts.map fun entry => .tuple [.atom entry.1, entry.2]),
          .list (keys.map .atom)]))

def take (opts : Keywords) (keys : List String) : Keywords :=
  opts.filter fun entry => entry.1 ∈ keys

end Keyword

/-- A struct by its fields. -/
abbrev Struct := List (String × Term)

namespace Struct

def put (struct : Struct) (entry : String × Term) : Struct :=
  struct.map fun field => if field.1 = entry.1 then entry else field

/-- `struct/2`, which passes over fields that the struct does not have. -/
def build (defaults : Struct) (fields : Keywords) : Struct :=
  fields.foldl put defaults

def fetch! (struct : Struct) (field : String) : Except Exception Term :=
  match struct.lookup field with
  | some value => .ok value
  | none => .error (.keyError field)

end Struct

namespace Config

def identityDefaults : Struct :=
  [("keypair_bytes", .atom "nil")]

def networkDefaults : Struct :=
  [("listen_addrs", .list [.text "/ip4/0.0.0.0/tcp/0",
      .text "/ip4/0.0.0.0/udp/0/quic-v1"]),
    ("idle_connection_timeout_secs", .integer 60),
    ("max_pending_incoming", .integer 128),
    ("max_pending_outgoing", .integer 64),
    ("max_established_incoming", .integer 256),
    ("max_established_outgoing", .integer 256),
    ("max_established_per_peer", .integer 2),
    -- 0.9
    ("memory_max_percentage", .float 0x3feccccccccccccd),
    ("enable_websocket", .atom "false")]

def discoveryDefaults : Struct :=
  [("bootstrap_peers", .list []),
    ("enable_mdns", .atom "true"),
    ("enable_kademlia", .atom "true"),
    ("mdns_auto_dial", .atom "true"),
    ("dht_state_path", .atom "nil")]

def gossipsubDefaults : Struct :=
  [("topics", .list []),
    ("mesh_n", .integer 6),
    ("mesh_n_low", .integer 4),
    ("mesh_n_high", .integer 12),
    ("gossip_lazy", .integer 6),
    ("max_transmit_size", .integer 65536),
    ("heartbeat_interval_ms", .integer 1000),
    ("peer_score", .atom "nil"),
    ("thresholds", .atom "nil"),
    ("peer_score_disabled", .atom "false")]

def requestResponseDefaults : Struct :=
  [("protocol_name", .text "/ex-libp2p/rpc/1.0.0"),
    ("request_timeout_secs", .integer 30)]

def relayDefaults : Struct :=
  [("enable", .atom "false"),
    ("enable_server", .atom "false"),
    ("enable_autonat", .atom "false"),
    ("enable_autonat_server", .atom "false"),
    ("enable_upnp", .atom "false"),
    ("max_reservations", .integer 128),
    ("max_circuits", .integer 16),
    ("max_circuit_duration_secs", .integer 120),
    ("max_circuit_bytes", .integer 131072)]

def rendezvousDefaults : Struct :=
  [("enable_client", .atom "false"),
    ("enable_server", .atom "false")]

def identityKeys : List String :=
  ["keypair_bytes"]

def networkKeys : List String :=
  ["listen_addrs",
    "idle_connection_timeout_secs",
    "max_pending_incoming",
    "max_pending_outgoing",
    "max_established_incoming",
    "max_established_outgoing",
    "max_established_per_peer",
    "memory_max_percentage",
    "enable_websocket"]

def discoveryKeys : List String :=
  ["bootstrap_peers",
    "enable_mdns",
    "enable_kademlia",
    "mdns_auto_dial",
    "dht_state_path"]

def gossipsubRenames : List (String × String) :=
  [("gossipsub_topics", "topics"),
    ("gossipsub_mesh_n", "mesh_n"),
    ("gossipsub_mesh_n_low", "mesh_n_low"),
    ("gossipsub_mesh_n_high", "mesh_n_high"),
    ("gossipsub_gossip_lazy", "gossip_lazy"),
    ("gossipsub_max_transmit_size", "max_transmit_size"),
    ("gossipsub_heartbeat_interval_ms", "heartbeat_interval_ms"),
    ("gossipsub_peer_score", "peer_score"),
    ("gossipsub_thresholds", "thresholds"),
    ("gossipsub_peer_score_disabled", "peer_score_disabled")]

def requestResponseRenames : List (String × String) :=
  [("rpc_protocol_name", "protocol_name"),
    ("rpc_request_timeout_secs", "request_timeout_secs")]

def relayRenames : List (String × String) :=
  [("enable_relay", "enable"),
    ("enable_relay_server", "enable_server"),
    ("enable_autonat", "enable_autonat"),
    ("enable_autonat_server", "enable_autonat_server"),
    ("enable_upnp", "enable_upnp"),
    ("relay_max_reservations", "max_reservations"),
    ("relay_max_circuits", "max_circuits"),
    ("relay_max_circuit_duration_secs", "max_circuit_duration_secs"),
    ("relay_max_circuit_bytes", "max_circuit_bytes")]

def rendezvousRenames : List (String × String) :=
  [("enable_rendezvous_client", "enable_client"),
    ("enable_rendezvous_server", "enable_server")]

def knownKeys : List String :=
  identityKeys ++ networkKeys ++ discoveryKeys ++
    gossipsubRenames.map Prod.fst ++ requestResponseRenames.map Prod.fst ++
    relayRenames.map Prod.fst ++ rendezvousRenames.map Prod.fst

end Config

structure Config where
  identity : Struct
  network : Struct
  discovery : Struct
  gossipsub : Struct
  requestResponse : Struct
  relay : Struct
  rendezvous : Struct

inductive ConfigError
  | noListenAddrs
  | invalidTimeout
  deriving DecidableEq

namespace Config

def takeWithRenames (opts : Keywords) (renameMap : List (String × String)) :
    Keywords :=
  renameMap.foldl
    (fun acc (flatKey, field) =>
      match opts.lookup flatKey with
      | some value => (field, value) :: acc
      | none => acc)
    []

def new (opts : Keywords) : Except Exception Config := do
  Keyword.validate! opts knownKeys
  return {
    identity :=
      [("keypair_bytes", (opts.lookup "keypair_bytes").getD (.atom "nil"))]
    network := .build networkDefaults (Keyword.take opts networkKeys)
    discovery := .build discoveryDefaults (Keyword.take opts discoveryKeys)
    gossipsub := .build gossipsubDefaults (takeWithRenames opts gossipsubRenames)
    requestResponse :=
      .build requestResponseDefaults (takeWithRenames opts requestResponseRenames)
    relay := .build relayDefaults (takeWithRenames opts relayRenames)
    rendezvous :=
      .build rendezvousDefaults (takeWithRenames opts rendezvousRenames) }

/-- The guard `t <= 0` in the order of all terms, where numbers come before
everything else. -/
def atMostZero : Term → Bool
  | .integer value => value ≤ 0
  | .float bits => 0x8000000000000000 ≤ bits || bits = 0
  | _ => false

def validate (config : Config) : Except ConfigError Config :=
  match config.network.lookup "listen_addrs" with
  | some .nil => .error .noListenAddrs
  | _ =>
      match config.network.lookup "idle_connection_timeout_secs" with
      | some timeout =>
          if atMostZero timeout then .error .invalidTimeout else .ok config
      | none => .ok config

section Flattening

/-! `String.Chars` is open to other implementations, so that the text of a key
that is no atom is not determined here. -/

variable (chars : Term → Except Exception Bytes)

def keyText : Term → Except Exception Bytes
  | .atom "nil" => .ok []
  | .atom name => .ok (utf8 name)
  | key => chars key

def isStructKey : Term → Bool
  | .atom "__struct__" => true
  | _ => false

/-- `Map.put` on the pairs of a map whose keys are binaries. -/
def putText (pairs : List (Bytes × Term)) (key : Bytes) (value : Term) :
    List (Bytes × Term) :=
  (key, value) :: pairs.filter fun pair => pair.1 ≠ key

def stringifyPairs (pairs : List (Term × Term)) :
    Except Exception (List (Bytes × Term)) :=
  pairs.foldlM
    (fun acc pair => do return putText acc (← keyText chars pair.1) pair.2) []

def fromStruct (pairs : List (Term × Term)) :
    Except Exception (List (Term × Term)) :=
  match pairs.find? fun pair => isStructKey pair.1 with
  | some (_, .atom _) => .ok (pairs.filter fun pair => !isStructKey pair.1)
  | _ => .error (.functionClauseError "Map.from_struct/1" (.map pairs))

def stringifyStruct : Term → Except Exception Term
  | .atom "nil" => .ok (.atom "nil")
  | .map pairs =>
      if pairs.any fun pair => isStructKey pair.1 then do
        let fields ← fromStruct pairs
        let texts ← stringifyPairs chars fields
        return .map (texts.map fun pair => (.binary pair.1, pair.2))
      else
        .error (.functionClauseError "stringify_struct/1" (.map pairs))
  | term => .error (.functionClauseError "stringify_struct/1" term)

def nifRows (config : Config) : List (String × Except Exception Term) :=
  [("keypair_bytes", config.identity.fetch! "keypair_bytes"),
    ("listen_addrs", config.network.fetch! "listen_addrs"),
    ("idle_connection_timeout_secs",
      config.network.fetch! "idle_connection_timeout_secs"),
    ("max_pending_incoming", config.network.fetch! "max_pending_incoming"),
    ("max_pending_outgoing", config.network.fetch! "max_pending_outgoing"),
    ("max_established_incoming",
      config.network.fetch! "max_established_incoming"),
    ("max_established_outgoing",
      config.network.fetch! "max_established_outgoing"),
    ("max_established_per_peer",
      config.network.fetch! "max_established_per_peer"),
    ("memory_max_percentage", config.network.fetch! "memory_max_percentage"),
    ("enable_websocket", config.network.fetch! "enable_websocket"),
    ("bootstrap_peers", config.discovery.fetch! "bootstrap_peers"),
    ("enable_mdns", config.discovery.fetch! "enable_mdns"),
    ("enable_kademlia", config.discovery.fetch! "enable_kademlia"),
    ("mdns_auto_dial", config.discovery.fetch! "mdns_auto_dial"),
    ("gossipsub_topics", config.gossipsub.fetch! "topics"),
    ("gossipsub_mesh_n", config.gossipsub.fetch! "mesh_n"),
    ("gossipsub_mesh_n_low", config.gossipsub.fetch! "mesh_n_low"),
    ("gossipsub_mesh_n_high", config.gossipsub.fetch! "mesh_n_high"),
    ("gossipsub_gossip_lazy", config.gossipsub.fetch! "gossip_lazy"),
    ("gossipsub_max_transmit_size",
      config.gossipsub.fetch! "max_transmit_size"),
    ("gossipsub_heartbeat_interval_ms",
      config.gossipsub.fetch! "heartbeat_interval_ms"),
    ("gossipsub_peer_score",
      config.gossipsub.fetch! "peer_score" >>= stringifyStruct chars),
    ("gossipsub_thresholds",
      config.gossipsub.fetch! "thresholds" >>= stringifyStruct chars),
    ("peer_score_disabled", config.gossipsub.fetch! "peer_score_disabled"),
    ("rpc_protocol_name", config.requestResponse.fetch! "protocol_name"),
    ("rpc_request_timeout_secs",
      config.requestResponse.fetch! "request_timeout_secs"),
    ("enable_relay", config.relay.fetch! "enable"),
    ("enable_relay_server", config.relay.fetch! "enable_server"),
    ("enable_autonat", config.relay.fetch! "enable_autonat"),
    ("enable_autonat_server", config.relay.fetch! "enable_autonat_server"),
    ("enable_upnp", config.relay.fetch! "enable_upnp"),
    ("relay_max_reservations", config.relay.fetch! "max_reservations"),
    ("relay_max_circuits", config.relay.fetch! "max_circuits"),
    ("relay_max_circuit_duration_secs",
      config.relay.fetch! "max_circuit_duration_secs"),
    ("relay_max_circuit_bytes", config.relay.fetch! "max_circuit_bytes"),
    ("enable_rendezvous_client", config.rendezvous.fetch! "enable_client"),
    ("enable_rendezvous_server", config.rendezvous.fetch! "enable_server")]

def toNifMap (config : Config) : Except Exception (List (String × Term)) :=
  sequence (nifRows chars config)

end Flattening

end Config

end ExLibp2p.Node
