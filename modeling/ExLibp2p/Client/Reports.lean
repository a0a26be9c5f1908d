import ExLibp2p.Client
import ExLibp2p.Node.Replies

namespace ExLibp2p.Client

open ExLibp2p.Data
open ExLibp2p.Data.Script
open ExLibp2p.Erlang
open ExLibp2p.Call
open ExLibp2p.Native
open ExLibp2p.Telemetry.Counters (Metadata)
open ExLibp2p.Node (NativeCall)
open ExLibp2p.Node.Result (Tag tag)

/-! What a client is told about a result of the NIF, through the node process
and `safe_call`. -/

inductive Request
  | connectedPeers
  | listeningAddrs
  | dial (addr : Bytes)
  | subscribe (topic : Bytes)
  | unsubscribe (topic : Bytes)
  | publish (topic data : Bytes)
  | meshPeers (topic : Bytes)
  | allPeers
  | peerScore (peerId : PeerId)
  | putRecord (key value : Bytes)
  | getRecord (key : Bytes)
  | findPeer (peerId : PeerId)
  | provide (key : Bytes)
  | findProviders (key : Bytes)
  | dhtBootstrap
  | sendRequest (peerId : PeerId) (data : Bytes)
  | sendResponse (channelId data : Bytes)
  | listenViaRelay (relayAddr : Bytes)
  | register (ns : Bytes) (peerId : PeerId) (ttlSecs : Term)
  | discover (ns : Bytes) (peerId : PeerId)
  | unregister (ns : Bytes) (peerId : PeerId)
  | bandwidth
  | prometheusScrape

namespace Request

def script (answers : Nat → Outcome) : Request → Script Term
  | .connectedPeers => Client.connectedPeers answers
  | .listeningAddrs => Client.listeningAddrs answers
  | .dial addr => Client.dial answers (.binary addr)
  | .subscribe topic => Client.subscribe answers topic
  | .unsubscribe topic => Client.unsubscribe answers topic
  | .publish topic data => Client.publish answers topic data
  | .meshPeers topic => Client.meshPeers answers topic
  | .allPeers => Client.allPeers answers
  | .peerScore peerId => Client.peerScore answers peerId
  | .putRecord key value => Client.putRecord answers key value
  | .getRecord key => Client.getRecord answers key
  | .findPeer peerId => Client.findPeer answers peerId
  | .provide key => Client.provide answers key
  | .findProviders key => Client.findProviders answers key
  | .dhtBootstrap => Client.dhtBootstrap answers
  | .sendRequest peerId data => Client.sendRequest answers peerId data
  | .sendResponse channelId data => Client.sendResponse answers channelId data
  | .listenViaRelay relayAddr => Client.listenViaRelay answers relayAddr
  | .register ns peerId ttlSecs => Client.register answers ns peerId ttlSecs
  | .discover ns peerId => Client.discover answers ns peerId
  | .unregister ns peerId => Client.unregister answers ns peerId
  | .bandwidth => Client.bandwidth answers
  | .prometheusScrape => Client.prometheusScrape answers

/-- The function of the native module that is to do the work. -/
def native : Request → NativeCall
  | .connectedPeers => .connectedPeers
  | .listeningAddrs => .listeningAddrs
  | .dial addr => .dial (.binary addr)
  | .subscribe topic => .subscribe (.binary topic)
  | .unsubscribe topic => .unsubscribe (.binary topic)
  | .publish topic data => .publish (.binary topic) (.binary data)
  | .meshPeers topic => .gossipsubMeshPeers (.binary topic)
  | .allPeers => .gossipsubAllPeers
  | .peerScore peerId => .gossipsubPeerScore (.binary peerId.id)
  | .putRecord key value => .dhtPut (.binary key) (.binary value)
  | .getRecord key => .dhtGet (.binary key)
  | .findPeer peerId => .dhtFindPeer (.binary peerId.id)
  | .provide key => .dhtProvide (.binary key)
  | .findProviders key => .dhtFindProviders (.binary key)
  | .dhtBootstrap => .dhtBootstrap
  | .sendRequest peerId data =>
      .rpcSendRequest (.binary peerId.id) (.binary data)
  | .sendResponse channelId data =>
      .rpcSendResponse (.binary channelId) (.binary data)
  | .listenViaRelay relayAddr => .listenViaRelay (.binary relayAddr)
  | .register ns peerId ttlSecs =>
      .rendezvousRegister (.binary ns) ttlSecs (.binary peerId.id)
  | .discover ns peerId =>
      .rendezvousDiscover (.binary ns) (.binary peerId.id)
  | .unregister ns peerId =>
      .rendezvousUnregister (.binary ns) (.binary peerId.id)
  | .bandwidth => .bandwidthStats
  | .prometheusScrape => .prometheusMetrics

/-- The check of an address before it is dialled. -/
def Admitted : Request → Prop
  | .dial addr => ∃ multiaddr, Multiaddr.new (.binary addr) = .ok multiaddr
  | _ => True

def announces : Request → Bool
  | .dial _ => true
  | .subscribe _ => true
  | .unsubscribe _ => true
  | .publish _ _ => true
  | _ => false

def Texts (result : Except NifError (List Bytes)) : Prop :=
  ∀ texts, result = .ok texts → ∀ text ∈ texts, ∃ peerId,
    PeerId.new (.binary text) = .ok peerId

/-- The texts of peers are ones that `PeerId.new` accepts. -/
def PeersAccepted : (request : Request) → request.native.Result → Prop
  | .connectedPeers => Texts
  | .meshPeers _ => Texts
  | .allPeers => Texts
  | _ => fun _ => True

end Request

/-- How a call to a node ends: a callback that raises ends the node, which exits
the caller. -/
def FromCallback (state : Node.State) (message : Term) (outcome : Outcome) :
    Prop :=
  match Node.handleCall state message with
  | .ok (reply, _) => outcome = .replied reply.toTerm
  | .error _ => ∃ reason, outcome = .exited reason

def Effect.announced? : Effect → Option Term
  | .call _ => none
  | .execute _ metadata => metadata.result

def announced (effects : List Effect) : List Term :=
  effects.filterMap Effect.announced?

/-- The tags of a value that says whether something failed. -/
def Tells (value : Term) (failed : Prop) : Prop :=
  (tag value = .error ↔ failed) ∧ (tag value = .ok ↔ ¬ failed)

/-- The client function returns, has made the one call, and reports an error
exactly when the NIF did. If it announces the end of the call, then once, with
the tag of what it returns. -/
structure Reported (answers : Nat → Outcome) (request : Request)
    (failed : Prop) : Prop where
  once : calls (run (request.script answers) []).2 = [request.native.message]
  returned : ∃ value, (run (request.script answers) []).1 = .ok value ∧
    Tells value failed ∧
    announced (run (request.script answers) []).2 =
      if request.announces then [(tag value).toTerm] else []

section Reports

variable {state : Node.State} {answers : Nat → Outcome} {request : Request}

theorem handleCall_native {call : NativeCall} {result : call.Result}
    (native : state.native state.handle call =
      call.returnType.encodeResult result)
    (notPeers : call ≠ .connectedPeers) (notAddrs : call ≠ .listeningAddrs) :
    Node.handleCall state call.message =
      .ok (.term (call.returnType.encodeResult result), state) := by
  rw [← native]
  cases call with
  | connectedPeers => contradiction
  | listeningAddrs => contradiction
  | dial addr =>
      exact congrArg (fun reply => Except.ok (Node.Reply.term reply, state))
        (Node.normalizeOk_of_atom native)
  | publish topic data =>
      exact congrArg (fun reply => Except.ok (Node.Reply.term reply, state))
        (Node.normalizeOk_of_atom native)
  | subscribe topic =>
      exact congrArg (fun reply => Except.ok (Node.Reply.term reply, state))
        (Node.normalizeOk_of_atom native)
  | unsubscribe topic =>
      exact congrArg (fun reply => Except.ok (Node.Reply.term reply, state))
        (Node.normalizeOk_of_atom native)
  | _ => rfl

theorem answered {call : NativeCall} {result : call.Result}
    (native : state.native state.handle call =
      call.returnType.encodeResult result)
    (notPeers : call ≠ .connectedPeers) (notAddrs : call ≠ .listeningAddrs)
    (called : FromCallback state call.message (answers 0)) :
    Call.safeCall (answers 0) = .ok (call.returnType.encodeResult result) := by
  rw [FromCallback, handleCall_native native notPeers notAddrs] at called
  rw [called]
  rfl

theorem tells_error {reason : Term} {failed : Prop} (hasFailed : failed) :
    Tells (.error reason) failed :=
  ⟨iff_of_true rfl hasFailed,
    iff_of_false (fun impossible => nomatch impossible) (not_not_intro hasFailed)⟩

theorem tells_of_ok {value : Term} {failed : Prop} (isOk : tag value = .ok)
    (succeeded : ¬ failed) : Tells value failed :=
  ⟨iff_of_false (fun isError => nomatch isOk.symm.trans isError) succeeded,
    iff_of_true isOk succeeded⟩

theorem not_failed {Value : Type} (value : Value) :
    ¬ ∃ error : NifError, (.ok value : Except NifError Value) =
      .error error := by
  intro failed
  obtain ⟨error, impossible⟩ := failed
  cases impossible

theorem tells_encodeResult {returnType : ReturnType}
    (tagged : ∀ value, tag (returnType.encode value) = .ok)
    (result : Except NifError returnType.Value) :
    Tells (returnType.encodeResult result)
      (∃ error, result = .error error) := by
  cases result with
  | error error => exact tells_error ⟨error, rfl⟩
  | ok value => exact tells_of_ok (tagged value) (not_failed value)

theorem reported_of_passed {message value : Term} {failed : Prop}
    (isMessage : message = request.native.message)
    (isScript : request.script answers = safeCall answers message)
    (silent : request.announces = false)
    (replied : Call.safeCall (answers 0) = .ok value)
    (tells : Tells value failed) : Reported answers request failed := by
  have ran : run (request.script answers) [] = (.ok value, [.call message]) := by
    rw [isScript, run_safeCall]
    exact congrArg (·, _) replied
  refine ⟨?_, value, ?_, tells, ?_⟩
  · rw [ran, ← isMessage]
    rfl
  · rw [ran]
  · rw [ran, silent]
    rfl

theorem reported_of_converted {message value converted : Term}
    {convert : Term → Except Exception Term} {failed : Prop}
    (isMessage : message = request.native.message)
    (isScript : request.script answers = (do
      lift (convert (← safeCall answers message))))
    (silent : request.announces = false)
    (replied : Call.safeCall (answers 0) = .ok value)
    (conversion : convert value = .ok converted)
    (tells : Tells converted failed) : Reported answers request failed := by
  have ran : run (request.script answers) [] =
      (.ok converted, [.call message]) := by
    have called : run (safeCall answers message) [] =
        (.ok value, [.call message]) := by
      rw [run_safeCall]
      exact congrArg (·, _) replied
    rw [isScript, run_bind, called]
    exact (run_lift _).trans (congrArg (·, _) conversion)
  refine ⟨?_, converted, ?_, tells, ?_⟩
  · rw [ran, ← isMessage]
    rfl
  · rw [ran]
  · rw [ran, silent]
    rfl

theorem reported_of_announced {event : Telemetry.Event} {topic : Bytes}
    {message value : Term} {failed : Prop}
    (isMessage : message = request.native.message)
    (isScript : request.script answers =
      reported answers event topic message)
    (announces : request.announces = true)
    (replied : Call.safeCall (answers 0) = .ok value)
    (tells : Tells value failed) : Reported answers request failed := by
  have called : run (safeCall answers message) [] =
      (.ok value, [.call message]) := by
    rw [run_safeCall]
    exact congrArg (·, _) replied
  have ran : run (request.script answers) [] = (.ok value,
      [.call message, .execute event
        ((.atom "topic", .binary topic) :: resultMetadata value)]) := by
    rw [isScript, reported, run_bind, called]
    rfl
  refine ⟨?_, value, ?_, tells, ?_⟩
  · rw [ran, ← isMessage]
    rfl
  · rw [ran]
  · rw [ran, announces]
    rfl

theorem reported_of_spanned {event : Telemetry.Event} {metadata : Metadata}
    {message value : Term} {failed : Prop}
    (isMessage : message = request.native.message)
    (isScript : request.script answers = span event metadata (do
      let result ← safeCall answers message
      return (result, resultMetadata result)))
    (announces : request.announces = true)
    (untold : metadata.result = none)
    (replied : Call.safeCall (answers 0) = .ok value)
    (tells : Tells value failed) : Reported answers request failed := by
  have called (start : Effect) (first : start.call? = none) :
      run (safeCall answers message) [start] =
        (.ok value, [start, .call message]) := by
    have none : calls [start] = [] := by
      unfold calls
      rw [List.filterMap_cons, first]
      rfl
    rw [run_safeCall, none]
    exact congrArg (·, _) replied
  have ran : run (request.script answers) [] = (.ok value,
      [.execute (event ++ ["start"]) metadata, .call message,
        .execute (event ++ ["stop"]) (resultMetadata value)]) := by
    rw [isScript, run_span, List.nil_append, run_bind, called _ rfl]
    rfl
  refine ⟨?_, value, ?_, tells, ?_⟩
  · rw [ran, ← isMessage]
    rfl
  · rw [ran]
  · rw [ran, announces, announced, List.filterMap_cons, Effect.announced?,
      untold]
    rfl

theorem connectedPeers_answered {result : Except NifError (List Bytes)}
    (native : state.native state.handle .connectedPeers =
      ReturnType.encodeResult .strings result)
    (accepted : Request.Texts result)
    (called : FromCallback state (.atom "connected_peers") (answers 0)) :
    ∃ value, Call.safeCall (answers 0) = .ok value ∧
      Tells value (∃ error, result = .error error) := by
  have handled : Node.handleCall state (.atom "connected_peers") = (do
      let peers ← Node.enumMap PeerId.new!
        (state.native state.handle .connectedPeers)
      return (.okPeers peers, state)) := rfl
  rw [FromCallback, handled] at called
  cases result with
  | error error =>
      -- enumerating the error raises, which ends the node
      have answer : state.native state.handle .connectedPeers =
          .error error.encode := native
      rw [answer] at called
      obtain ⟨reason, exited⟩ := called
      rw [exited]
      exact ⟨_, rfl, tells_error ⟨error, rfl⟩⟩
  | ok texts =>
      obtain ⟨peers, mapped⟩ := Node.enumMap_accepted (accepted texts rfl)
      have answer : state.native state.handle .connectedPeers =
          .list (texts.map .binary) := native
      rw [answer, mapped] at called
      have replied : answers 0 = .replied (Node.Reply.okPeers peers).toTerm :=
        called
      rw [replied]
      exact ⟨_, rfl, tells_of_ok rfl (not_failed texts)⟩

theorem listeningAddrs_answered {result : Except NifError (List Bytes)}
    (native : state.native state.handle .listeningAddrs =
      ReturnType.encodeResult .strings result)
    (called : FromCallback state (.atom "listening_addrs") (answers 0)) :
    Call.safeCall (answers 0) =
      .ok (.ok (ReturnType.encodeResult .strings result)) := by
  have handled : Node.handleCall state (.atom "listening_addrs") =
      .ok (.term (.ok (state.native state.handle .listeningAddrs)), state) :=
    rfl
  rw [FromCallback, handled, native] at called
  have replied : answers 0 = .replied
      (.ok (ReturnType.encodeResult .strings result)) := called
  rw [replied]
  rfl

theorem asPeers_told {result : Except NifError (List Bytes)}
    (accepted : Request.Texts result) :
    ∃ converted, asPeers (ReturnType.encodeResult .okStrings result) =
        .ok converted ∧
      Tells converted (∃ error, result = .error error) := by
  cases result with
  | error error => exact ⟨_, rfl, tells_error ⟨error, rfl⟩⟩
  | ok texts =>
      obtain ⟨peers, mapped⟩ := Node.enumMap_accepted (accepted texts rfl)
      have conversion :
          asPeers (ReturnType.encodeResult .okStrings (.ok texts)) = (do
            let identifiers ← Node.enumMap PeerId.new!
              (.list (texts.map .binary))
            return .ok (.list (identifiers.map PeerId.toTerm))) := rfl
      refine ⟨.ok (.list (peers.map PeerId.toTerm)), conversion.trans ?_,
        tells_of_ok rfl (not_failed texts)⟩
      rw [mapped]
      rfl

theorem asBandwidth_told (result : Except NifError (UInt64 × UInt64)) :
    ∃ converted, asBandwidth (ReturnType.encodeResult .okCounts result) =
        .ok converted ∧
      Tells converted (∃ error, result = .error error) := by
  cases result with
  | error error => exact ⟨_, rfl, tells_error ⟨error, rfl⟩⟩
  | ok counts => exact ⟨_, rfl, tells_of_ok rfl (not_failed counts)⟩

theorem dial_script {addr : Bytes}
    (admitted : (Request.dial addr).Admitted) :
    Client.dial answers (.binary addr) =
      span dialEvent [(.atom "addr", .binary addr)] (do
        let result ← safeCall answers (.tuple [.atom "dial", .binary addr])
        return (result, resultMetadata result)) := by
  obtain ⟨multiaddr, valid⟩ := admitted
  rw [Client.dial, valid]

theorem tells_of_other {value : Term} {failed : Prop}
    (notAddrs : request ≠ .listeningAddrs) (told : Tells value failed) :
    Tells value (request ≠ .listeningAddrs ∧ failed) := by
  rw [and_iff_right notAddrs]
  exact told

end Reports

def full : Node.State where
  handle := 0
  peerId := Node.localPeer
  native := fun _ _ => .error NifError.channelFull.encode

end ExLibp2p.Client
