import ExLibp2p.Otp.RemoteCalls.Steps

namespace ExLibp2p.Otp.RemoteCalls

open ExLibp2p.Data
open ExLibp2p.Data.Machine (mem_of_earlier entry_unique)
open ExLibp2p.Erlang
open ExLibp2p.Native
open ExLibp2p.Native.SwarmLoop (Answers Settings Turn swarmLoop)
open ExLibp2p.Otp.DistributionServer (InboundRequest)

abbrev History (format : Format) := List (Input format × Output)

section Histories

variable {format : Format} (trace : History format) (requestId : String)

def Asked (request : Calls.Request) (pid : Pid) : Prop :=
  ∃ output, (.caller (.request pid request (some requestId)), output) ∈ trace

/-- The request came to the other node, whose loop stored its channel under an
identifier. -/
def Arrived (id : String) : Prop :=
  ∃ payload peer inboundId channel now answers effects,
    (.arrive requestId payload peer inboundId channel now answers,
      .looped effects) ∈ trace ∧
    SwarmLoop.Effect.store id channel ∈ effects

def Executed (server : Vm format) (event : InboundRequest)
    (effects : List Effect) : Prop :=
  Arrived trace requestId event.channelId ∧
    ∃ place, (.serve server place, .served event effects) ∈ trace

def turns : SwarmLoop.History :=
  trace.filterMap turnOf

def asks : Input format × Output → List String
  | (.caller input, _) => askedIn input
  | _ => []

end Histories

section Origins

variable {format : Format} {vm : Vm format} {settings : Settings}
  {remote : PeerId} {trace earlier : History format} {system : System}
  {requestId : String}

theorem Asked.of_prefix {request : Calls.Request} {pid : Pid}
    (asked : Asked earlier requestId request pid)
    (isPrefix : earlier <+: trace) : Asked trace requestId request pid := by
  obtain ⟨output, member⟩ := asked
  exact ⟨output, isPrefix.subset member⟩

theorem Executed.of_prefix {server : Vm format} {event : InboundRequest}
    {effects : List Effect}
    (executed : Executed earlier requestId server event effects)
    (isPrefix : earlier <+: trace) :
    Executed trace requestId server event effects := by
  obtain ⟨⟨payload, peer, inboundId, channel, now, answers, looped, member,
    isStored⟩, place, served⟩ := executed
  exact ⟨⟨payload, peer, inboundId, channel, now, answers, looped,
    isPrefix.subset member, isStored⟩, place, isPrefix.subset served⟩

theorem few_earlier {limit : Nat} (isPrefix : earlier <+: trace)
    (few : SwarmLoop.requests (turns trace) < limit) :
    SwarmLoop.requests (turns earlier) < limit := by
  obtain ⟨later, rfl⟩ := isPrefix
  rw [turns, List.filterMap_append] at few
  exact Nat.lt_of_le_of_lt SwarmLoop.requests_prefix few

theorem Move.issued {next : System} {input : Input format} {output : Output}
    (move : Move vm settings remote system input next output) :
    next.callers.issued = asks (input, output) ++ system.callers.issued ∧
      ∀ own ∈ asks (input, output), own ∉ system.callers.issued := by
  cases move with
  | @called callInput callers called notResponse taken =>
      obtain ⟨outgoing, elsewhere, same⟩ :=
        carry_eq { system with callers } remote callInput called
      rw [same]
      refine ⟨issued_step taken, ?_⟩
      intro own isAsked
      cases callInput with
      | request pid request sent =>
          cases sent with
          | none => cases isAsked
          | some requestId =>
              rw [List.mem_singleton.mp isAsked]
              exact (sent_of_request taken).1
      | _ => cases isAsked
  | responded came taken =>
      exact ⟨issued_step taken, List.forall_mem_nil _⟩
  | forged sent taken =>
      exact ⟨issued_step taken, List.forall_mem_nil _⟩
  | _ => exact ⟨rfl, List.forall_mem_nil _⟩

theorem asked_of_run (run : (remoteCalls vm settings remote).Run trace system) :
    (∀ own, own ∈ trace.flatMap asks ↔ own ∈ system.callers.issued) ∧
      (trace.flatMap asks).Nodup := by
  refine run.invariant (fun trace system =>
    (∀ own, own ∈ trace.flatMap asks ↔ own ∈ system.callers.issued) ∧
      (trace.flatMap asks).Nodup) ?_ ?_
  · exact ⟨fun own => Iff.rfl, List.nodup_nil⟩
  · intro trace system input next output reached both taken
    obtain ⟨listed, distinct⟩ := both
    obtain ⟨grown, fresh⟩ := (Move.of_step taken).issued
    have single : (asks (input, output)).Nodup := by
      cases input with
      | caller callInput =>
          cases callInput with
          | request pid request sent =>
              cases sent with
              | none => exact List.nodup_nil
              | some requestId => exact List.nodup_singleton requestId
          | _ => exact List.nodup_nil
      | _ => exact List.nodup_nil
    rw [List.flatMap_append, List.flatMap_singleton, grown]
    refine ⟨?_, ?_⟩
    · intro own
      rw [List.mem_append, List.mem_append, listed, or_comm]
    · refine List.Nodup.append distinct single ?_
      intro own before now
      exact fresh own now ((listed own).mp before)

theorem asked_unique
    (run : (remoteCalls vm settings remote).Run trace system)
    {first second : Calls.Request} {pid other : Pid}
    (isFirst : Asked trace requestId first pid)
    (isSecond : Asked trace requestId second other) :
    first = second ∧ pid = other := by
  obtain ⟨output, inTrace⟩ := isFirst
  obtain ⟨otherOutput, otherInTrace⟩ := isSecond
  have same := entry_unique (asked_of_run run).2 inTrace otherInTrace
    (List.mem_singleton_self requestId) (List.mem_singleton_self requestId)
  cases same
  exact ⟨rfl, rfl⟩

theorem raw_of_inboundRequest {rawEvent id channelId data : Term}
    {peer : PeerId}
    (parses : Node.Event.fromRaw rawEvent =
      .ok (.ok (.inboundRequest id channelId peer data))) :
    ∃ peerId, rawEvent =
      .tuple [.atom "inbound_request", id, channelId, peerId, data] := by
  unfold Node.Event.fromRaw at parses
  split at parses
  all_goals first
    | cases parses
    | (obtain ⟨peerId, -, same⟩ := bind_eq_ok.mp parses
       cases same)
  exact ⟨_, rfl⟩

theorem announcedId_of_requestOf {message : Term} {event : InboundRequest}
    (isRequest : requestOf message = some event) :
    SwarmLoop.announcedId message = some (.text event.channelId) := by
  unfold requestOf at isRequest
  split at isRequest
  · split at isRequest
    · rename_i parses
      obtain ⟨peerId, rfl⟩ := raw_of_inboundRequest parses
      obtain ⟨channelId, valid, rfl⟩ := Option.map_eq_some_iff.mp isRequest
      rw [utf8?_eq_some.mp valid]
      rfl
    · cases isRequest
  · cases isRequest

theorem requestOf_sendInboundRequest {allocates : Nat → Bool}
    {peer : Native.PeerId} {inboundId id : String} {data : Bytes}
    {event : InboundRequest}
    (isRequest : requestOf (Events.sendInboundRequest allocates peer inboundId
      id data) = some event) :
    event.channelId = id ∧ (event.data = data ∨ event.data = []) := by
  unfold requestOf at isRequest
  split at isRequest
  · rename_i rawEvent same
    cases same
    split at isRequest
    · rename_i binaryId name bytes parses
      obtain ⟨peerId, same⟩ := raw_of_inboundRequest parses
      simp only [Term.tuple.injEq, List.cons.injEq, Term.text,
        Term.binary.injEq] at same
      obtain ⟨-, -, isId, -, isData, -⟩ := same
      obtain ⟨channelId, valid, rfl⟩ := Option.map_eq_some_iff.mp isRequest
      refine ⟨?_, ?_⟩
      · apply utf8_injective
        rw [isId, utf8?_eq_some.mp valid]
      · unfold Events.encodeBinary at isData
        split at isData
        · cases isData
          exact .inl rfl
        · split at isData
          · cases isData
            exact .inr rfl
          · cases isData
    · cases isRequest
  · cases isRequest

theorem turn_of_looped {before after : System} {input : Input format}
    {effects : List SwarmLoop.Effect}
    (taken : (remoteCalls vm settings remote).step before input =
      some (after, .looped effects)) :
    ∃ turn, turnOf (input, .looped effects) = some (turn, effects) := by
  generalize same : Output.looped effects = output at taken
  cases Move.of_step taken with
  | arrived sent moved =>
      cases same
      exact ⟨_, rfl⟩
  | answered commanded moved =>
      cases same
      exact ⟨_, rfl⟩
  | turned notAnswer moved =>
      cases same
      exact ⟨_, rfl⟩
  | _ => cases same

theorem call_of_called {before after : System} {input : Input format}
    {output : Calls.Output}
    (taken : (remoteCalls vm settings remote).step before input =
      some (after, .called output)) :
    ∃ callInput, callOf (input, .called output) = some (callInput, output) := by
  generalize same : Output.called output = called at taken
  cases Move.of_step taken with
  | called notResponse moved =>
      cases same
      exact ⟨_, rfl⟩
  | responded came moved =>
      cases same
      exact ⟨_, rfl⟩
  | forged sent moved =>
      cases same
      exact ⟨_, rfl⟩
  | _ => cases same

theorem turns_prefix {entry : Input format × Output}
    {turn : Turn × List SwarmLoop.Effect}
    (isPrefix : earlier ++ [entry] <+: trace)
    (seen : turnOf entry = some turn) :
    ∃ later, turns trace = turns earlier ++ turn :: later := by
  obtain ⟨rest, rfl⟩ := isPrefix
  refine ⟨rest.filterMap turnOf, ?_⟩
  rw [turns, turns, List.filterMap_append, List.filterMap_append,
    List.filterMap_cons_some seen, List.append_assoc]
  rfl

theorem mem_turns_of_prefix {turn : Turn × List SwarmLoop.Effect}
    (isPrefix : earlier <+: trace) (member : turn ∈ turns earlier) :
    turn ∈ turns trace := by
  obtain ⟨entry, inEarlier, seen⟩ := List.mem_filterMap.mp member
  exact List.mem_filterMap.mpr ⟨entry, isPrefix.subset inEarlier, seen⟩

theorem turn_unique (run : (remoteCalls vm settings remote).Run trace system)
    {first second : Turn × List SwarmLoop.Effect}
    (isFirst : first ∈ turns trace) (isSecond : second ∈ turns trace)
    {channel : ResponseChannel} (inFirst : first.1.channel = some channel)
    (inSecond : second.1.channel = some channel) : first = second := by
  have loopRun := (loopPart vm settings remote).run run
  obtain ⟨listed, distinct⟩ := SwarmLoop.channels_of_run loopRun
  rw [listed, List.nodup_reverse, List.filterMap_eq_flatMap_toList] at distinct
  exact entry_unique distinct isFirst isSecond
    (Option.mem_toList.mpr inFirst) (Option.mem_toList.mpr inSecond)

section Responses

variable {data : Bytes}

theorem announced_of_waiting
    (run : (remoteCalls vm settings remote).Run trace system)
    {message : Term} (waits : message ∈ system.inbox) {event : InboundRequest}
    (isRequest : requestOf message = some event) :
    ∃ peer inboundId request channel now answers effects,
      (.event (.requestReceived peer inboundId request channel) now answers,
        effects) ∈ turns trace ∧
      SwarmLoop.Effect.store event.channelId channel ∈ effects ∧
      (event.data = request ∨ event.data = []) := by
  obtain ⟨earlier, before, after, ⟨input, output⟩, isPrefix, reached, taken,
      effects, pid, looped, sent⟩ :=
    run.origin (fun system message => message ∈ system.inbox)
      (fun _ entry message => ∃ effects pid, entry.2 = .looped effects ∧
        SwarmLoop.Effect.send pid message ∈ effects)
      (fun message => List.not_mem_nil)
      (fun taken waits => (Move.of_step taken).inbox_added waits) waits
  obtain rfl : output = .looped effects := looped
  obtain ⟨turn, seen⟩ := turn_of_looped taken
  have stepped := (loopPart vm settings remote).follows taken
  rw [show (loopPart vm settings remote).sees _ = _ from seen] at stepped
  obtain ⟨-, -, movement⟩ := SwarmLoop.step_movement stepped
  obtain ⟨peer, inboundId, request, channel, now, answers, id, rfl, rfl,
    isStored⟩ := movement.announced_origin sent
      (announcedId_of_requestOf isRequest)
  obtain ⟨rfl, isData⟩ := requestOf_sendInboundRequest isRequest
  refine ⟨peer, inboundId, request, channel, now, answers, effects, ?_,
    isStored, isData⟩
  exact List.mem_filterMap.mpr ⟨_, mem_of_earlier isPrefix, seen⟩

theorem served_of_command
    (run : (remoteCalls vm settings remote).Run trace system) {id : String}
    (waits : (id, data) ∈ system.commands) :
    ∃ earlier before server place event effects message,
      earlier ++ [(.serve server place, .served event effects)] <+: trace ∧
      (remoteCalls vm settings remote).Run earlier before ∧
      message ∈ before.inbox ∧ requestOf message = some event ∧
      DistributionServer.handleInfo server.runtime event.info = .ok effects ∧
      (id, data) ∈ responses effects := by
  obtain ⟨earlier, before, after, ⟨input, output⟩, isPrefix, reached, taken,
      event, effects, served, responded⟩ :=
    run.origin (fun system command => command ∈ system.commands)
      (fun _ entry command => ∃ event effects, entry.2 = .served event effects ∧
        command ∈ responses effects)
      (fun message => List.not_mem_nil)
      (fun taken waits => (Move.of_step taken).commands_added waits) waits
  obtain rfl : output = .served event effects := served
  obtain ⟨server, place, message, rfl, member, isRequest, handled⟩ :=
    (Move.of_step taken).served_message rfl
  exact ⟨earlier, before, server, place, event, effects, message, isPrefix,
    reached, member, isRequest, handled, responded⟩

theorem arrived_of_carried
    (run : (remoteCalls vm settings remote).Run trace system)
    {channel : ResponseChannel}
    (isCarried : (channel, requestId) ∈ system.carried) :
    ∃ earlier before payload peer inboundId now answers effects,
      earlier ++ [(.arrive requestId payload peer inboundId channel now answers,
        .looped effects)] <+: trace ∧
      (remoteCalls vm settings remote).Run earlier before ∧
      (requestId, payload) ∈ before.outgoing := by
  obtain ⟨earlier, before, after, ⟨input, output⟩, isPrefix, reached, taken,
      payload, peer, inboundId, now, answers, effects, arrived, looped, sent⟩ :=
    run.origin (fun system pair => pair ∈ system.carried)
      (fun before entry (pair : ResponseChannel × String) =>
        ∃ payload peer inboundId now answers effects,
          entry.1 = .arrive pair.2 payload peer inboundId pair.1 now answers ∧
            entry.2 = .looped effects ∧ (pair.2, payload) ∈ before.outgoing)
      (fun message => List.not_mem_nil)
      (fun taken isCarried => (Move.of_step taken).carried_added isCarried)
      isCarried
  cases arrived
  cases looped
  exact ⟨earlier, before, payload, peer, inboundId, now, answers, effects,
    isPrefix, reached, sent⟩

theorem channelId_of_responses {runtime : Runtime} {event : InboundRequest}
    {effects : List Effect} {id : String}
    (handled : DistributionServer.handleInfo runtime event.info = .ok effects)
    (responded : (id, data) ∈ responses effects) : id = event.channelId := by
  obtain ⟨same, bytes, isText, isBinary, servable⟩ :=
    DistributionServer.servable_of_handleInfo handled
  obtain ⟨performed, again, answered⟩ :=
    @DistributionServer.Servable.answered runtime (utf8 event.channelId) _ servable
  cases isText
  cases isBinary
  cases handled.symm.trans again
  obtain ⟨channelId, data, term, isText, -, single, -⟩ := answered
  cases isText
  rw [responses, single] at responded
  obtain ⟨⟨channelId, data⟩, member, isPair⟩ := List.mem_filterMap.mp responded
  cases List.mem_singleton.mp member
  obtain ⟨text, valid, same⟩ := Option.map_eq_some_iff.mp isPair
  cases same
  exact utf8_injective (utf8?_eq_some.mp valid).symm

theorem answered_of_returning
    (run : (remoteCalls vm settings remote).Run trace system)
    (few : SwarmLoop.requests (turns trace) < 2 ^ 64)
    (came : (requestId, data) ∈ system.returning) :
    ∃ earlier before channel id, earlier <+: trace ∧
      (remoteCalls vm settings remote).Run earlier before ∧
      (channel, requestId) ∈ before.carried ∧ (id, data) ∈ before.commands ∧
      (id, channel) ∈ SwarmLoop.issued (turns trace) := by
  obtain ⟨earlier, before, after, ⟨input, output⟩, isPrefix, reached, taken,
      id, answers, channel, effects, isCommand, looped, sent, isCarried,
      waits⟩ :=
    run.origin (fun system pair => pair ∈ system.returning)
      (fun before entry (pair : String × Bytes) =>
        ∃ id answers channel effects,
          entry.1 = .turn
              (.command (some (.rpcSendResponse id pair.2)) answers) ∧
            entry.2 = .looped effects ∧
            SwarmLoop.Effect.sendResponse channel pair.2 ∈ effects ∧
            (channel, pair.1) ∈ before.carried ∧
            (id, pair.2) ∈ before.commands)
      (fun message => List.not_mem_nil)
      (fun taken came => (Move.of_step taken).returning_added came) came
  cases isCommand
  cases looped
  obtain ⟨later, split⟩ := turns_prefix isPrefix rfl
  obtain ⟨sentId, sentAnswers, sameCommand, isIssued⟩ :=
    SwarmLoop.answered_by_id_of_run ((loopPart vm settings remote).run run) few
      split sent
  cases sameCommand
  refine ⟨earlier, before, channel, id,
    (List.prefix_append _ _).trans isPrefix, reached, isCarried, waits, ?_⟩
  rw [split, SwarmLoop.issued, List.flatMap_append]
  exact List.mem_append_left _ isIssued

theorem asked_of_outgoing
    (run : (remoteCalls vm settings remote).Run trace system)
    {payload : Bytes} (underWay : (requestId, payload) ∈ system.outgoing) :
    ∃ request pid, Asked trace requestId request pid ∧
      request.peer = remote ∧ payload = request.payload vm.runtime := by
  obtain ⟨earlier, before, after, ⟨input, output⟩, isPrefix, reached, taken,
      pid, request, isRequest, isRemote, isPayload⟩ :=
    run.origin (fun system pair => pair ∈ system.outgoing)
      (fun _ entry (pair : String × Bytes) => ∃ caller request,
        entry.1 = .caller (.request caller request (some pair.1)) ∧
          request.peer = remote ∧ pair.2 = request.payload vm.runtime)
      (fun message => List.not_mem_nil)
      (fun taken underWay => (Move.of_step taken).outgoing_added underWay)
      underWay
  cases isRequest
  exact ⟨request, pid, ⟨output, mem_of_earlier isPrefix⟩, isRemote, isPayload⟩

theorem asked_of_elsewhere
    (run : (remoteCalls vm settings remote).Run trace system)
    (underWay : requestId ∈ system.elsewhere) :
    ∃ request pid, Asked trace requestId request pid ∧
      request.peer ≠ remote := by
  obtain ⟨earlier, before, after, ⟨input, output⟩, isPrefix, reached, taken,
      pid, request, isRequest, notRemote⟩ :=
    run.origin (fun system own => own ∈ system.elsewhere)
      (fun _ entry own => ∃ caller request,
        entry.1 = .caller (.request caller request (some own)) ∧
          request.peer ≠ remote)
      (fun message => List.not_mem_nil)
      (fun taken underWay => (Move.of_step taken).elsewhere_added underWay)
      underWay
  cases isRequest
  exact ⟨request, pid, ⟨output, mem_of_earlier isPrefix⟩, notRemote⟩

/-- A response on its way back to a request is the one that the server made
when it executed that very request. -/
theorem executed_of_returning
    (run : (remoteCalls vm settings remote).Run trace system)
    (few : SwarmLoop.requests (turns trace) < 2 ^ 64)
    (came : (requestId, data) ∈ system.returning) :
    ∃ request pid server event effects, Asked trace requestId request pid ∧
      request.peer = remote ∧ Executed trace requestId server event effects ∧
      DistributionServer.handleInfo server.runtime event.info = .ok effects ∧
      (event.data = request.payload vm.runtime ∨ event.data = []) ∧
      ∃ id, (id, data) ∈ responses effects := by
  obtain ⟨earlier, before, channel, id, isPrefix, reached, isCarried, waits,
    isIssued⟩ := answered_of_returning run few came
  obtain ⟨toServed, atServed, server, place, event, effects, message,
    servedPrefix, servedRun, member, isRequest, handled, responded⟩ :=
    served_of_command reached waits
  obtain rfl := channelId_of_responses handled responded
  obtain ⟨peer, inboundId, payload, announced, now, answers, looped, inTurns,
    isStored, isData⟩ := announced_of_waiting servedRun member isRequest
  obtain ⟨toArrived, atArrived, carried, sender, arrivedId, arrivedNow,
    arrivedAnswers, arrivedEffects, arrivedPrefix, arrivedRun, underWay⟩ :=
    arrived_of_carried reached isCarried
  obtain ⟨request, pid, asked, isRemote, isPayload⟩ :=
    asked_of_outgoing arrivedRun underWay
  have toServedPrefix : toServed <+: trace :=
    ((List.prefix_append _ _).trans servedPrefix).trans isPrefix
  have inTrace := mem_turns_of_prefix toServedPrefix inTurns
  have arrivedInTrace := mem_of_earlier (arrivedPrefix.trans isPrefix)
  obtain rfl : announced = channel := by
    have ledger :=
      SwarmLoop.Ledger.of_run ((loopPart vm settings remote).run run) few
    apply ledger.issues.channel_unique _ isIssued
    exact List.mem_flatMap.mpr ⟨_, inTrace, SwarmLoop.mem_stored.mpr isStored⟩
  have sameTurn := turn_unique run inTrace
    (List.mem_filterMap.mpr ⟨_, arrivedInTrace, rfl⟩) rfl rfl
  cases sameTurn
  refine ⟨request, pid, server, event, effects, ?_, isRemote, ⟨?_, place, ?_⟩,
    handled, ?_, _, responded⟩
  · exact asked.of_prefix
      (((List.prefix_append _ _).trans arrivedPrefix).trans isPrefix)
  · exact ⟨_, _, _, _, _, _, _, arrivedInTrace, isStored⟩
  · exact mem_of_earlier (servedPrefix.trans isPrefix)
  · rw [← isPayload]
    exact isData

end Responses

end Origins

end ExLibp2p.Otp.RemoteCalls
