import ExLibp2p.Call
import ExLibp2p.Client.Multiaddr
import ExLibp2p.Data.Script
import ExLibp2p.Telemetry.Counters

namespace ExLibp2p.Client

open ExLibp2p.Data
open ExLibp2p.Data.Script
open ExLibp2p.Erlang
open ExLibp2p.Call
open ExLibp2p.Node.Result (tag)
open ExLibp2p.Telemetry.Counters (Metadata)

/-! The functions that a client process calls: `node.ex`, `gossipsub.ex`,
`dht.ex`, `discovery.ex`, `request_response.ex`, `relay.ex`, `rendezvous.ex`
and `metrics.ex`. Arguments that a guard wants to be binaries are bytes. -/

inductive Effect
  | call (message : Term)
  | execute (event : Telemetry.Event) (metadata : Metadata)

abbrev Script := Data.Script Exception Effect

def Effect.call? : Effect → Option Term
  | .call message => some message
  | .execute _ _ => none

def calls (effects : List Effect) : List Term :=
  effects.filterMap Effect.call?

/-- `:telemetry.span/3`. The span context and what the exception event says
about the exception are read by nobody here. -/
def span (event : Telemetry.Event) (metadata : Metadata)
    (body : Script (Term × Metadata)) : Script Term := do
  perform (.execute (event ++ ["start"]) metadata)
  let (result, stopMetadata) ← tryCatch body fun exception => do
    perform (.execute (event ++ ["exception"]) metadata)
    throw exception
  perform (.execute (event ++ ["stop"]) stopMetadata)
  return result

def resultMetadata (result : Term) : Metadata :=
  [(.atom "result", (tag result).toTerm)]

section Functions

variable (answers : Nat → Outcome)

def safeCall (message : Term) : Script Term := do
  let earlier ← get
  perform (.call message)
  lift (Call.safeCall (answers (calls earlier).length))

def connectedPeers : Script Term :=
  safeCall answers (.atom "connected_peers")

def listeningAddrs : Script Term :=
  safeCall answers (.atom "listening_addrs")

def dialEvent : Telemetry.Event :=
  ["ex_libp2p", "node", "dial"]

def dial : Term → Script Term
  | .binary addr =>
      span dialEvent [(.atom "addr", .binary addr)] do
        let result ←
          match Multiaddr.new (.binary addr) with
          | .ok _ => safeCall answers (.tuple [.atom "dial", .binary addr])
          | .error _ => pure (.error (.atom "invalid_multiaddr"))
        return (result, resultMetadata result)
  | other => throw (.functionClauseError "Node.dial/2" other)

def reported (event : Telemetry.Event) (topic : Bytes) (message : Term) :
    Script Term := do
  let result ← safeCall answers message
  perform (.execute event
    ((.atom "topic", .binary topic) :: resultMetadata result))
  return result

def subscribe (topic : Bytes) : Script Term :=
  reported answers ["ex_libp2p", "gossipsub", "subscribe"] topic
    (.tuple [.atom "subscribe", .binary topic])

def unsubscribe (topic : Bytes) : Script Term :=
  reported answers ["ex_libp2p", "gossipsub", "unsubscribe"] topic
    (.tuple [.atom "unsubscribe", .binary topic])

def publishEvent : Telemetry.Event :=
  ["ex_libp2p", "gossipsub", "publish"]

def publish (topic data : Bytes) : Script Term :=
  span publishEvent
    [(.atom "topic", .binary topic), (.atom "size", .integer data.length)] do
    let result ← safeCall answers
      (.tuple [.atom "publish", .binary topic, .binary data])
    return (result, resultMetadata result)

/-- `{:ok, peers}` with the texts as identifiers, and errors as they are. -/
def asPeers : Term → Except Exception Term
  | .tuple [.atom "ok", peers] => do
      let identifiers ← Node.enumMap PeerId.new! peers
      return .ok (.list (identifiers.map PeerId.toTerm))
  | .tuple [.atom "error", reason] => return .error reason
  | other => throw (.caseClauseError other)

def meshPeers (topic : Bytes) : Script Term := do
  lift (asPeers (← safeCall answers
    (.tuple [.atom "gossipsub_mesh_peers", .binary topic])))

def allPeers : Script Term := do
  lift (asPeers (← safeCall answers (.atom "gossipsub_all_peers")))

def peerScore (peerId : PeerId) : Script Term :=
  safeCall answers (.tuple [.atom "gossipsub_peer_score", .binary peerId.id])

def putRecord (key value : Bytes) : Script Term :=
  safeCall answers (.tuple [.atom "dht_put", .binary key, .binary value])

def getRecord (key : Bytes) : Script Term :=
  safeCall answers (.tuple [.atom "dht_get", .binary key])

def findPeer (peerId : PeerId) : Script Term :=
  safeCall answers (.tuple [.atom "dht_find_peer", .binary peerId.id])

def provide (key : Bytes) : Script Term :=
  safeCall answers (.tuple [.atom "dht_provide", .binary key])

def findProviders (key : Bytes) : Script Term :=
  safeCall answers (.tuple [.atom "dht_find_providers", .binary key])

def dhtBootstrap : Script Term :=
  safeCall answers (.atom "dht_bootstrap")

def sendRequest (peerId : PeerId) (data : Bytes) : Script Term :=
  safeCall answers
    (.tuple [.atom "rpc_send_request", .binary peerId.id, .binary data])

def sendResponse (channelId data : Bytes) : Script Term :=
  safeCall answers
    (.tuple [.atom "rpc_send_response", .binary channelId, .binary data])

def listenViaRelay (relayAddr : Bytes) : Script Term :=
  safeCall answers (.tuple [.atom "listen_via_relay", .binary relayAddr])

def register (ns : Bytes) (peerId : PeerId) (ttlSecs : Term) : Script Term :=
  safeCall answers (.tuple [.atom "rendezvous_register", .binary ns, ttlSecs,
    .binary peerId.id])

def discover (ns : Bytes) (peerId : PeerId) : Script Term :=
  safeCall answers
    (.tuple [.atom "rendezvous_discover", .binary ns, .binary peerId.id])

def unregister (ns : Bytes) (peerId : PeerId) : Script Term :=
  safeCall answers
    (.tuple [.atom "rendezvous_unregister", .binary ns, .binary peerId.id])

def asBandwidth : Term → Except Exception Term
  | .tuple [.atom "ok", bytesIn, bytesOut] =>
      return .ok (.map
        [(.atom "bytes_in", bytesIn), (.atom "bytes_out", bytesOut)])
  | .tuple [.atom "error", reason] => return .error reason
  | other => throw (.caseClauseError other)

def bandwidth : Script Term := do
  lift (asBandwidth (← safeCall answers (.atom "bandwidth_stats")))

def prometheusScrape : Script Term :=
  safeCall answers (.atom "prometheus_metrics")

def dialEach : Term → Script (List Term)
  | .nil => return []
  | .cons addr rest => do
      let result ← dial answers addr
      let results ← dialEach rest
      return result :: results
  | tail => throw (.functionClauseError ":lists.map/2" tail)

def completed (dialResults : List Term) : Term → Except Exception Term
  | .atom "ok" => .ok (.ok (.list dialResults))
  | .tuple [.atom "error", reason] => .ok (.error reason)
  | other => .error (.caseClauseError other)

def bootstrap : Term → Script Term
  | .nil => return .atom "ok"
  | .cons first rest => do
      let dialResults ← dialEach answers (.cons first rest)
      lift (completed dialResults (← dhtBootstrap answers))
  | _ => return .error (.atom "invalid_peer_addrs")

end Functions

section Runs

variable {Value : Type} {earlier : List Effect} {answers : Nat → Outcome}

theorem run_safeCall (message : Term) :
    run (safeCall answers message) earlier =
      (Call.safeCall (answers (calls earlier).length),
        earlier ++ [.call message]) := by
  change run (lift (Call.safeCall (answers (calls earlier).length)))
    (earlier ++ [.call message]) = _
  exact run_lift _

theorem run_span (event : Telemetry.Event) (metadata : Metadata)
    (body : Script (Term × Metadata)) :
    run (span event metadata body) earlier =
      match run body (earlier ++ [.execute (event ++ ["start"]) metadata]) with
      | (.ok (result, stopMetadata), later) =>
          (.ok result,
            later ++ [.execute (event ++ ["stop"]) stopMetadata])
      | (.error exception, later) =>
          (.error exception,
            later ++ [.execute (event ++ ["exception"]) metadata]) := by
  rw [span, run_bind, run_perform]
  simp only
  rw [run_bind, run_tryCatch]
  generalize run body _ = outcome
  obtain ⟨result, later⟩ := outcome
  cases result with
  | ok value => rfl
  | error exception => rfl

@[simp] theorem calls_append (first second : List Effect) :
    calls (first ++ second) = calls first ++ calls second :=
  List.filterMap_append ..

end Runs

end ExLibp2p.Client
