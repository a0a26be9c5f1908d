import ExLibp2p.Node.Ops

namespace ExLibp2p.Node

open ExLibp2p.Data
open ExLibp2p.Erlang
open ExLibp2p.Native

namespace NativeCall

def message : NativeCall → Term
  | .connectedPeers => .atom "connected_peers"
  | .listeningAddrs => .atom "listening_addrs"
  | .dial addr => .tuple [.atom "dial", addr]
  | .listenViaRelay relayAddr => .tuple [.atom "listen_via_relay", relayAddr]
  | .publish topic data => .tuple [.atom "publish", topic, data]
  | .subscribe topic => .tuple [.atom "subscribe", topic]
  | .unsubscribe topic => .tuple [.atom "unsubscribe", topic]
  | .gossipsubMeshPeers topic => .tuple [.atom "gossipsub_mesh_peers", topic]
  | .gossipsubAllPeers => .atom "gossipsub_all_peers"
  | .gossipsubPeerScore peerId =>
      .tuple [.atom "gossipsub_peer_score", peerId]
  | .dhtPut key value => .tuple [.atom "dht_put", key, value]
  | .dhtGet key => .tuple [.atom "dht_get", key]
  | .dhtFindPeer peerId => .tuple [.atom "dht_find_peer", peerId]
  | .dhtProvide key => .tuple [.atom "dht_provide", key]
  | .dhtFindProviders key => .tuple [.atom "dht_find_providers", key]
  | .dhtBootstrap => .atom "dht_bootstrap"
  | .rpcSendRequest peerId data =>
      .tuple [.atom "rpc_send_request", peerId, data]
  | .rpcSendResponse channelId data =>
      .tuple [.atom "rpc_send_response", channelId, data]
  | .bandwidthStats => .atom "bandwidth_stats"
  | .prometheusMetrics => .atom "prometheus_metrics"
  | .rendezvousRegister ns ttl rendezvousPeer =>
      .tuple [.atom "rendezvous_register", ns, ttl, rendezvousPeer]
  | .rendezvousDiscover ns rendezvousPeer =>
      .tuple [.atom "rendezvous_discover", ns, rendezvousPeer]
  | .rendezvousUnregister ns rendezvousPeer =>
      .tuple [.atom "rendezvous_unregister", ns, rendezvousPeer]

/-- The return types of the functions in `lib.rs`. -/
def returnType : NativeCall → ReturnType
  | .connectedPeers => .strings
  | .listeningAddrs => .strings
  | .gossipsubMeshPeers _ => .okStrings
  | .gossipsubAllPeers => .okStrings
  | .gossipsubPeerScore _ => .okFloat
  | .rpcSendRequest _ _ => .okString
  | .bandwidthStats => .okCounts
  | .prometheusMetrics => .okString
  | _ => .atom

abbrev Result (call : NativeCall) :=
  Except NifError call.returnType.Value

/-- The texts of the connected peers are ones that `PeerId.new` accepts. -/
def PeersAccepted : (call : NativeCall) → call.Result → Prop
  | .connectedPeers => fun (result : Except NifError (List Bytes)) =>
      ∀ texts, result = .ok texts → ∀ text ∈ texts, ∃ peerId,
        PeerId.new (.binary text) = .ok peerId
  | _ => fun _ => True

end NativeCall

/-- The node replies, keeps its state, and reports an error exactly when the
NIF did. -/
def Faithful (state : State) (call : NativeCall) (result : call.Result) :
    Prop :=
  ∃ reply, handleCall state call.message = .ok (reply, state) ∧
    (reply.isError = true ↔ ∃ error, result = .error error)

section Calls

variable {state : State} {call : NativeCall} {result : call.Result}

theorem isError_encodeResult (returnType : ReturnType)
    (outcome : Except NifError returnType.Value) :
    (Reply.term (returnType.encodeResult outcome)).isError = true ↔
      ∃ error, outcome = .error error := by
  cases outcome with
  | error error =>
      exact iff_of_true rfl ⟨error, rfl⟩
  | ok value =>
      apply iff_of_false
      · cases returnType with
        | strings =>
            cases (value : List Bytes) with
            | nil => exact Bool.false_ne_true
            | cons text texts => exact Bool.false_ne_true
        | _ => exact Bool.false_ne_true
      · intro failed
        obtain ⟨error, impossible⟩ := failed
        cases impossible

theorem normalizeOk_of_atom {answer : Term} {outcome : Except NifError Unit}
    (answers : answer = ReturnType.encodeResult .atom outcome) :
    Result.normalizeOk answer = answer := by
  subst answers
  cases outcome with
  | error error => rfl
  | ok value => rfl

theorem faithful_of_passed
    (answers : state.native state.handle call =
      call.returnType.encodeResult result)
    (handled : handleCall state call.message =
      .ok (.term (state.native state.handle call), state)) :
    Faithful state call result := by
  refine ⟨_, handled, ?_⟩
  rw [answers]
  exact isError_encodeResult _ result

theorem faithful_of_normalized
    (answers : state.native state.handle call =
      call.returnType.encodeResult result)
    (handled : handleCall state call.message =
      .ok (.term (Result.normalizeOk (state.native state.handle call)), state))
    (unchanged : Result.normalizeOk (state.native state.handle call) =
      state.native state.handle call) :
    Faithful state call result := by
  rw [unchanged] at handled
  exact faithful_of_passed answers handled

theorem mapCells_accepted {texts : List Bytes}
    (accepted : ∀ text ∈ texts, ∃ peerId,
      PeerId.new (.binary text) = .ok peerId) :
    ∃ peers, mapCells PeerId.new! (.list (texts.map .binary)) = .ok peers := by
  induction texts with
  | nil => exact ⟨[], rfl⟩
  | cons text texts induction =>
      obtain ⟨peerId, first⟩ := accepted text List.mem_cons_self
      obtain ⟨peers, rest⟩ := induction fun other member =>
        accepted other (List.mem_cons_of_mem text member)
      refine ⟨peerId :: peers, ?_⟩
      rw [List.map_cons, Term.list, mapCells, PeerId.new!_of_new first, rest]
      rfl

theorem enumMap_accepted {texts : List Bytes}
    (accepted : ∀ text ∈ texts, ∃ peerId,
      PeerId.new (.binary text) = .ok peerId) :
    ∃ peers, enumMap PeerId.new! (.list (texts.map .binary)) = .ok peers := by
  obtain ⟨peers, mapped⟩ := mapCells_accepted accepted
  refine ⟨peers, ?_⟩
  rw [← mapped]
  cases texts with
  | nil => rfl
  | cons text texts => rfl

end Calls

section Queries

variable {state : State}

theorem connectedPeers_faithful_iff
    {result : Except NifError (List Bytes)}
    (answers : state.native state.handle .connectedPeers =
      ReturnType.encodeResult .strings result)
    (accepted : NativeCall.connectedPeers.PeersAccepted result) :
    Faithful state .connectedPeers result ↔
      ¬ ∃ error, result = .error error := by
  have handled : handleCall state (.atom "connected_peers") = (do
      let peers ← enumMap PeerId.new!
        (state.native state.handle .connectedPeers)
      return (.okPeers peers, state)) := rfl
  cases result with
  | error error =>
      have answer : state.native state.handle .connectedPeers =
          .error error.encode := answers
      apply iff_of_false
      · intro faithful
        obtain ⟨reply, replied, -⟩ := faithful
        rw [NativeCall.message, handled, answer] at replied
        cases replied
      · exact not_not_intro ⟨error, rfl⟩
  | ok texts =>
      have answer : state.native state.handle .connectedPeers =
          .list (texts.map .binary) := answers
      obtain ⟨peers, mapped⟩ := enumMap_accepted (accepted texts rfl)
      have noFailure : ¬ ∃ error,
          (.ok texts : Except NifError (List Bytes)) = .error error := by
        intro failed
        obtain ⟨error, impossible⟩ := failed
        cases impossible
      apply iff_of_true
      · refine ⟨.okPeers peers, ?_, iff_of_false Bool.false_ne_true noFailure⟩
        rw [NativeCall.message, handled, answer, mapped]
        rfl
      · exact noFailure

theorem listeningAddrs_faithful_iff
    {result : Except NifError (List Bytes)}
    (answers : state.native state.handle .listeningAddrs =
      ReturnType.encodeResult .strings result) :
    Faithful state .listeningAddrs result ↔
      ¬ ∃ error, result = .error error := by
  have handled : handleCall state (.atom "listening_addrs") =
      .ok (.term (.ok (ReturnType.encodeResult .strings result)), state) := by
    rw [← answers]
    rfl
  constructor
  · intro faithful failed
    obtain ⟨reply, replied, reports⟩ := faithful
    rw [NativeCall.message, handled] at replied
    cases replied
    exact Bool.false_ne_true (reports.mpr failed)
  · intro succeeded
    exact ⟨_, handled, iff_of_false Bool.false_ne_true succeeded⟩

end Queries

/-- A reply is faithful unless one of the two list queries failed. -/
theorem faithful_iff_not_failed_query (state : State) (call : NativeCall)
    (result : call.Result)
    (answers : state.native state.handle call =
      call.returnType.encodeResult result)
    (accepted : call.PeersAccepted result) :
    Faithful state call result ↔
      ¬ ((call = .connectedPeers ∨ call = .listeningAddrs) ∧
        ∃ error, result = .error error) := by
  have other : call ≠ .connectedPeers → call ≠ .listeningAddrs →
      Faithful state call result → (Faithful state call result ↔
        ¬ ((call = .connectedPeers ∨ call = .listeningAddrs) ∧
          ∃ error, result = .error error)) := by
    intro notPeers notAddrs faithful
    apply iff_of_true faithful
    intro both
    rcases both.1 with isPeers | isAddrs
    · exact notPeers isPeers
    · exact notAddrs isAddrs
  cases call with
  | connectedPeers =>
      have query := connectedPeers_faithful_iff answers accepted
      exact query.trans (not_congr (and_iff_right (.inl rfl)).symm)
  | listeningAddrs =>
      have query := listeningAddrs_faithful_iff answers
      exact query.trans (not_congr (and_iff_right (.inr rfl)).symm)
  | dial addr =>
      apply other NativeCall.noConfusion NativeCall.noConfusion
      exact faithful_of_normalized answers rfl (normalizeOk_of_atom answers)
  | publish topic data =>
      apply other NativeCall.noConfusion NativeCall.noConfusion
      exact faithful_of_normalized answers rfl (normalizeOk_of_atom answers)
  | subscribe topic =>
      apply other NativeCall.noConfusion NativeCall.noConfusion
      exact faithful_of_normalized answers rfl (normalizeOk_of_atom answers)
  | unsubscribe topic =>
      apply other NativeCall.noConfusion NativeCall.noConfusion
      exact faithful_of_normalized answers rfl (normalizeOk_of_atom answers)
  | _ =>
      apply other NativeCall.noConfusion NativeCall.noConfusion
      exact faithful_of_passed answers rfl

def stoppedNode (peerId : PeerId) : State where
  handle := 0
  peerId := peerId
  native := fun _ call => call.returnType.encodeResult (.error .nodeStopped)

def localPeer : PeerId where
  id := utf8 "12D3KooWDpJ7As7BWAwRMfu1VU2WCqNjvq387JEYKDBj4kx6nXTN"
  long := by decide
  base58 := by decide

theorem faithful_dial_stopped :
    Faithful (stoppedNode localPeer) (.dial (.text "/ip4/127.0.0.1/tcp/4001"))
      (.error .nodeStopped) :=
  (faithful_iff_not_failed_query (stoppedNode localPeer) (.dial _)
    (.error .nodeStopped) rfl trivial).mpr fun both =>
      both.1.elim NativeCall.noConfusion NativeCall.noConfusion

/-- On a stopped node the peers query raises, and the address query reports
success around the error. -/
theorem stopped_queries_not_faithful :
    (handleCall (stoppedNode localPeer) NativeCall.connectedPeers.message =
        .error (.protocolUndefined "Enumerable"
          (.error NifError.nodeStopped.encode)) ∧
      ¬ Faithful (stoppedNode localPeer) .connectedPeers
        (.error .nodeStopped)) ∧
    (handleCall (stoppedNode localPeer) NativeCall.listeningAddrs.message =
        .ok (.term (.ok (.error NifError.nodeStopped.encode)),
          stoppedNode localPeer) ∧
      ¬ Faithful (stoppedNode localPeer) .listeningAddrs
        (.error .nodeStopped)) := by
  refine ⟨⟨rfl, ?_⟩, rfl, ?_⟩
  · intro faithful
    obtain ⟨reply, replied, -⟩ := faithful
    cases replied
  · intro faithful
    obtain ⟨reply, replied, reports⟩ := faithful
    cases replied
    exact Bool.false_ne_true (reports.mpr ⟨_, rfl⟩)

end ExLibp2p.Node
