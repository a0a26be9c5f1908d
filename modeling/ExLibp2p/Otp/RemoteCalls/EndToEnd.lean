import ExLibp2p.Otp.RemoteCalls.Origins

namespace ExLibp2p.Otp.RemoteCalls

open ExLibp2p.Data
open ExLibp2p.Data.Machine (mem_of_earlier)
open ExLibp2p.Erlang
open ExLibp2p.Native
open ExLibp2p.Native.SwarmLoop (Settings)
open ExLibp2p.Otp.Distribution
open ExLibp2p.Otp.DistributionServer (InboundRequest)

section Server

variable {format : Format} {vm server : Vm format} {request : Calls.Request}
  {event : InboundRequest} {effects : List Effect} {id : String} {data : Bytes}

/-- The terms that the server sends back for a call: the reply of the process
that it called, and errors. -/
inductive Response (server : Vm format) (request : Calls.Request) :
    List Effect → Term → Prop
  | replied {effects : List Effect} {callee : Pid} {value : Term}
      (found : server.runtime.whereis request.name = some callee)
      (answer : server.runtime.call callee request.message = .reply value)
      (called : Effect.call callee request.message ∈ effects) :
      Response server request effects (reply value)
  | failed {effects : List Effect} (reason : Term) :
      Response server request effects (.error reason)

theorem read_of_written
    (isData : event.data = request.payload vm.runtime ∨ event.data = [])
    {term : Term}
    (read : decode server.runtime (.binary event.data) = .ok term) :
    term = .tuple [.atom request.operation.tag, .atom request.name,
      request.message] := by
  rw [decode] at read
  split at read
  · cases read
  · split at read
    · rename_i found isTerm
      cases read
      have understood := server.understands _ _ isTerm
      rcases isData with isPayload | isEmpty
      · rw [isPayload] at understood
        exact vm.writes _ _ understood
      · rw [isEmpty, format.unread] at understood
        cases understood
    · cases read

theorem Response.mono {more : List Effect} {term : Term}
    (response : Response server request effects term)
    (contained : ∀ {effect}, effect ∈ effects → effect ∈ more) :
    Response server request more term := by
  cases response with
  | replied found answer called =>
      exact .replied found answer (contained called)
  | failed reason => exact .failed reason

theorem response_of_call {response : Bytes}
    (handled : handleRemoteRequest server.runtime (.tuple [.atom "call",
      .atom request.name, request.message]) = .ok (effects, response)) :
    ∃ term, response = server.runtime.termToBinary term ∧
      Response server request effects term := by
  rw [handleRemoteRequest] at handled
  cases found : server.runtime.whereis request.name with
  | none =>
      have absent : whereis server.runtime (.atom request.name) = .ok none :=
        congrArg Except.ok found
      rw [absent] at handled
      cases handled
      exact ⟨_, rfl, .failed _⟩
  | some callee =>
      have present : whereis server.runtime (.atom request.name) =
          .ok (some callee) :=
        congrArg Except.ok found
      rw [present] at handled
      cases handled
      refine ⟨_, rfl, ?_⟩
      cases answer : server.runtime.call callee request.message with
      | reply value =>
          rw [DistributionServer.safeCall_of_reply answer]
          exact .replied found answer List.mem_cons_self
      | exit reason =>
          obtain ⟨shown, failed⟩ := DistributionServer.safeCall_of_exit answer
          rw [failed]
          exact .failed shown

theorem silent_of_handleRemoteRequest {runtime : Runtime} {term : Term}
    {response : Bytes}
    (handled : handleRemoteRequest runtime term = .ok (effects, response)) :
    DistributionServer.responses effects = [] := by
  unfold handleRemoteRequest at handled
  split at handled
  · obtain ⟨callee, -, inner⟩ := bind_eq_ok.mp handled
    cases callee with
    | none =>
        cases inner
        rfl
    | some callee =>
        cases inner
        rfl
  · obtain ⟨callee, -, inner⟩ := bind_eq_ok.mp handled
    cases inner
    cases callee with
    | none => rfl
    | some callee => rfl
  · obtain ⟨callee, -, inner⟩ := bind_eq_ok.mp handled
    cases inner
    cases callee with
    | none => rfl
    | some callee => rfl
  · cases handled
    rfl

theorem sent_of_responses (responded : (id, data) ∈ responses effects) :
    ∃ channelId, (channelId, data) ∈ DistributionServer.responses effects := by
  obtain ⟨⟨channelId, sent⟩, member, isPair⟩ := List.mem_filterMap.mp responded
  obtain ⟨text, -, same⟩ := Option.map_eq_some_iff.mp isPair
  cases same
  exact ⟨channelId, member⟩

theorem response_of_served (isCall : request.operation = .call)
    (isData : event.data = request.payload vm.runtime ∨ event.data = [])
    (handled : DistributionServer.handleInfo server.runtime event.info =
      .ok effects)
    (responded : (id, data) ∈ responses effects) :
    ∃ term, data = server.runtime.termToBinary term ∧
      Response server request effects term := by
  obtain ⟨channelId, sent⟩ := sent_of_responses responded
  rw [InboundRequest.info, DistributionServer.handleInfo] at handled
  split at handled
  · rename_i term read
    obtain rfl := read_of_written isData read
    obtain ⟨⟨performed, response⟩, inner, same⟩ := bind_eq_ok.mp handled
    cases same
    rw [DistributionServer.responses_append,
      (silent_of_handleRemoteRequest inner), List.nil_append] at sent
    cases List.mem_singleton.mp sent
    rw [isCall] at inner
    obtain ⟨term, rfl, response⟩ := response_of_call inner
    exact ⟨term, rfl, response.mono (List.mem_append_left _)⟩
  · cases handled
    cases List.mem_singleton.mp sent
    exact ⟨_, rfl, .failed _⟩
  · cases handled

inductive Told (server : Vm format) (request : Calls.Request)
    (effects : List Effect) : Except Term Term → Prop
  | replied {callee : Pid} {value : Term}
      (found : server.runtime.whereis request.name = some callee)
      (answer : server.runtime.call callee request.message = .reply value)
      (called : Effect.call callee request.message ∈ effects) :
      Told server request effects (.ok value)
  | failed (reason : Term) : Told server request effects (.error reason)

theorem decode_response (term : Term) (allocates : Nat → Bool) :
    decode vm.runtime (Events.encodeBinary allocates
        (server.runtime.termToBinary term)) = .ok term ∨
      ∃ error, decode vm.runtime (Events.encodeBinary allocates
        (server.runtime.termToBinary term)) = .error error := by
  cases read : decode vm.runtime (Events.encodeBinary allocates
      (server.runtime.termToBinary term)) with
  | error error => exact .inr ⟨error, rfl⟩
  | ok found =>
      have understood : ∀ bytes,
          decode vm.runtime (.binary bytes) = .ok found →
            format.reads bytes = some found := by
        intro bytes decoded
        rw [decode] at decoded
        split at decoded
        · cases decoded
        · split at decoded
          · rename_i isTerm
            cases decoded
            exact vm.understands _ _ isTerm
          · cases decoded
      unfold Events.encodeBinary at read
      split at read
      · rw [server.writes _ _ (understood _ read)]
        exact .inl rfl
      · split at read
        · have impossible := understood [] read
          rw [format.unread] at impossible
          cases impossible
        · cases read

theorem told_of_response {term : Term}
    (response : Response server request effects term)
    (allocates : Nat → Bool) :
    ∃ outcome, callResult vm.runtime (Events.encodeBinary allocates
        (server.runtime.termToBinary term)) = .ok outcome ∧
      Told server request effects outcome := by
  unfold callResult
  rcases @decode_response _ vm server term allocates with read | ⟨error, read⟩
  · rw [read]
    cases response with
    | replied found answer called =>
        exact ⟨_, rfl, .replied found answer called⟩
    | failed reason => exact ⟨_, rfl, .failed reason⟩
  · rw [read]
    exact ⟨_, rfl, .failed _⟩

end Server

section Runs

variable {format : Format} {vm : Vm format} {settings : Settings}
  {remote : PeerId} {trace : History format} {system : System}

theorem asked_of_waiting
    (run : (remoteCalls vm settings remote).Run trace system) {pid : Pid}
    {own : String}
    (waits : (system.callers.processes pid).waiting = some own) :
    ∃ request, Asked trace own request pid ∧ request.operation = .call := by
  obtain ⟨earlier, before, after, ⟨input, output⟩, isPrefix, reached, taken,
      request, isCall, isRequest⟩ :=
    run.origin (fun system (caller : Pid × String) =>
        (system.callers.processes caller.1).waiting = some caller.2)
      (fun _ entry caller => ∃ request : Calls.Request,
        request.operation = .call ∧
          entry.1 = .caller (.request caller.1 request (some caller.2)))
      (fun caller impossible => by cases impossible)
      (fun taken waits => (Move.of_step taken).waiting_added waits)
      (show (system.callers.processes (pid, own).1).waiting = some own
        from waits)
  cases isRequest
  exact ⟨request, ⟨output, mem_of_earlier isPrefix⟩, isCall⟩

theorem response_of_queued
    (run : (remoteCalls vm settings remote).Run trace system) {pid : Pid}
    {response : Calls.Response}
    (queued : response ∈ (system.callers.processes pid).mailbox) :
    ∃ earlier before, earlier <+: trace ∧
      (remoteCalls vm settings remote).Run earlier before ∧
      ((∃ data allocates,
          response.data = Events.encodeBinary allocates data ∧
            (response.requestId, data) ∈ before.returning) ∨
        response.requestId ∈ before.elsewhere) := by
  obtain ⟨earlier, before, after, entry, isPrefix, reached, taken, came⟩ :=
    run.origin (fun system (response : Pid × Calls.Response) =>
        response.2 ∈ (system.callers.processes response.1).mailbox)
      (fun before _ response =>
        (∃ data allocates,
            response.2.data = Events.encodeBinary allocates data ∧
              (response.2.requestId, data) ∈ before.returning) ∨
          response.2.requestId ∈ before.elsewhere)
      (fun response => List.not_mem_nil)
      (fun taken queued => (Move.of_step taken).mailbox_added queued)
      (show (pid, response).2 ∈ (system.callers.processes pid).mailbox
        from queued)
  exact ⟨earlier, before, (List.prefix_append _ _).trans isPrefix, reached,
    came⟩

/-- A response to a request to the other node tells of the execution of that
request. -/
theorem told_of_queued
    (run : (remoteCalls vm settings remote).Run trace system)
    (few : SwarmLoop.requests (turns trace) < 2 ^ 64) {pid caller : Pid}
    {response : Calls.Response}
    (queued : response ∈ (system.callers.processes pid).mailbox)
    {request : Calls.Request}
    (asked : Asked trace response.requestId request caller)
    (isCall : request.operation = .call) (isRemote : request.peer = remote) :
    ∃ outcome server event effects,
      callResult vm.runtime response.data = .ok outcome ∧
      Executed trace response.requestId server event effects ∧
      Told server request effects outcome := by
  obtain ⟨earlier, before, isPrefix, reached, came⟩ :=
    response_of_queued run queued
  rcases came with ⟨data, allocates, isData, returning⟩ | elsewhere
  · obtain ⟨found, sender, server, event, effects, foundAsked, -, executed,
      handled, isPayload, id, responded⟩ :=
      executed_of_returning reached (few_earlier isPrefix few) returning
    obtain ⟨rfl, rfl⟩ := asked_unique run asked (foundAsked.of_prefix isPrefix)
    obtain ⟨term, rfl, answered⟩ :=
      response_of_served isCall isPayload handled responded
    obtain ⟨outcome, result, told⟩ :=
      @told_of_response _ vm server request effects term answered allocates
    rw [isData]
    exact ⟨outcome, server, event, effects, result,
      executed.of_prefix isPrefix, told⟩
  · obtain ⟨other, sender, otherAsked, notRemote⟩ :=
      asked_of_elsewhere reached elsewhere
    obtain ⟨rfl, -⟩ := asked_unique run asked (otherAsked.of_prefix isPrefix)
    exact absurd isRemote notRemote

end Runs

/-- The external form of `{:call, :my_server, :ping}`. -/
def pingData : Bytes :=
  [131, 104, 3, 119, 4, 99, 97, 108, 108, 119, 9, 109, 121, 95, 115, 101, 114,
    118, 101, 114, 119, 4, 112, 105, 110, 103]

def pingFormat : Format where
  reads := fun data =>
    if data = pingData then
      some (.tuple [.atom "call", .atom "my_server", .atom "ping"])
    else if data = Calls.pongData then
      some (reply (.atom "pong"))
    else
      none
  unread := rfl

/-- A machine with one process, which replies to every message. -/
def ponger : Vm pingFormat where
  runtime := {
    binaryToTerm := pingFormat.reads
    termToBinary := fun
      | .tuple [.atom "call", .atom "my_server", .atom "ping"] => pingData
      | .tuple [.atom "reply", .atom "pong"] => Calls.pongData
      | _ => []
    whereis := fun name => if name = "my_server" then some 7 else none
    whereisVia := fun _ _ => .ok none
    call := fun _ _ => .reply (.atom "pong")
    inspect := fun _ => "" }
  writes := by
    intro term found read
    dsimp only at read
    split at read
    · exact (Option.some.inj read).symm
    · exact (Option.some.inj read).symm
    · cases read
  understands := fun _ _ read => read

def answeredPing : List (Input pingFormat) :=
  [.turn (.command (some (.registerEventHandler 9)) SwarmLoop.noAnswers),
    .caller (.register 1),
    .caller (.request 1 (Calls.ping .call) (some "OutboundRequestId(1)")),
    .arrive "OutboundRequestId(1)" pingData SwarmLoop.requester
      "InboundRequestId(1)" ⟨10⟩ 0 SwarmLoop.noAnswers,
    .serve ponger 0,
    .turn (.command (some (.rpcSendResponse "ch-1" Calls.pongData))
      SwarmLoop.noAnswers),
    .respond "OutboundRequestId(1)" Calls.pongData (fun _ => true),
    .caller (.receive 1)]

def returnsPong : Input pingFormat × Output → Bool
  | (_, .called (.returned 1 "OutboundRequestId(1)" _
      (.ok (.ok (.atom "pong"))))) => true
  | _ => false

theorem returned_of_returnsPong {entry : Input pingFormat × Output}
    (returns : returnsPong entry = true) :
    ∃ input consumed, entry = (input, .called (.returned 1
      "OutboundRequestId(1)" consumed (.ok (.ok (.atom "pong"))))) := by
  unfold returnsPong at returns
  split at returns
  · exact ⟨_, _, rfl⟩
  · cases returns

end ExLibp2p.Otp.RemoteCalls
