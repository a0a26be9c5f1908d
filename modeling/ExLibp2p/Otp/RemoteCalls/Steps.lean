import ExLibp2p.Native.SwarmLoop.Safety
import ExLibp2p.Otp.RemoteCalls

namespace ExLibp2p.Otp.RemoteCalls

open ExLibp2p.Data
open ExLibp2p.Erlang
open ExLibp2p.Native
open ExLibp2p.Native.SwarmLoop (Answers Instant Settings Turn swarmLoop)
open ExLibp2p.Otp.DistributionServer (InboundRequest)

section Steps

variable {format : Format} {vm : Vm format} {settings : Settings}
  {remote : PeerId}

inductive Move (vm : Vm format) (settings : Settings) (remote : PeerId)
    (system : System) : Input format → System → Output → Prop
  | called {input : Calls.Input} {callers : Calls.System}
      {output : Calls.Output}
      (notResponse : ∀ requestId data, input ≠ .respond requestId data)
      (taken : Calls.step vm.runtime system.callers input =
        some (callers, output)) :
      Move vm settings remote system (.caller input)
        (({ system with callers } : System).carry remote input output)
        (.called output)
  | arrived {requestId inboundId : String} {payload : Bytes}
      {peer : Native.PeerId} {channel : ResponseChannel} {now : Instant}
      {answers : Answers} {loop : SwarmLoop.State}
      {effects : List SwarmLoop.Effect}
      (sent : (requestId, payload) ∈ system.outgoing)
      (taken : (swarmLoop settings).step system.loop
        (.event (.requestReceived peer inboundId payload channel) now
          answers) = some (loop, effects)) :
      Move vm settings remote system
        (.arrive requestId payload peer inboundId channel now answers)
        (({ system with
            outgoing := system.outgoing.erase (requestId, payload)
            carried := (channel, requestId) :: system.carried } :
            System).looped loop effects)
        (.looped effects)
  | answered {id : String} {data : Bytes} {answers : Answers}
      {loop : SwarmLoop.State} {effects : List SwarmLoop.Effect}
      (waits : (id, data) ∈ system.commands)
      (taken : (swarmLoop settings).step system.loop
        (.command (some (.rpcSendResponse id data)) answers) =
          some (loop, effects)) :
      Move vm settings remote system
        (.turn (.command (some (.rpcSendResponse id data)) answers))
        (({ system with
            commands := system.commands.erase (id, data) } :
            System).looped loop effects)
        (.looped effects)
  | turned {turn : Turn} {loop : SwarmLoop.State}
      {effects : List SwarmLoop.Effect}
      (notAnswer : ∀ id data answers,
        turn ≠ .command (some (.rpcSendResponse id data)) answers)
      (taken : (swarmLoop settings).step system.loop turn =
        some (loop, effects)) :
      Move vm settings remote system (.turn turn)
        (system.looped loop effects) (.looped effects)
  | served {server : Vm format} {place : Nat} {message : Term}
      {event : InboundRequest} {effects : List Effect}
      (waits : system.inbox[place]? = some message)
      (isRequest : requestOf message = some event)
      (handled : DistributionServer.handleInfo server.runtime event.info =
        .ok effects) :
      Move vm settings remote system (.serve server place)
        { system with
          inbox := system.inbox.eraseIdx place
          commands := system.commands ++ responses effects }
        (.served event effects)
  | crashed {server : Vm format} {place : Nat} {message : Term}
      {event : InboundRequest} {exception : Exception}
      (waits : system.inbox[place]? = some message)
      (isRequest : requestOf message = some event) :
      Move vm settings remote system (.serve server place)
        { system with inbox := system.inbox.eraseIdx place }
        (.crashed event exception)
  | responded {requestId : String} {data : Bytes} {allocates : Nat → Bool}
      {callers : Calls.System} {output : Calls.Output}
      (came : (requestId, data) ∈ system.returning)
      (taken : Calls.step vm.runtime system.callers
        (.respond requestId (Events.encodeBinary allocates data)) =
          some (callers, output)) :
      Move vm settings remote system (.respond requestId data allocates)
        { system with
          callers
          returning := system.returning.erase (requestId, data) }
        (.called output)
  | forged {requestId : String} {data : Term} {callers : Calls.System}
      {output : Calls.Output}
      (sent : requestId ∈ system.elsewhere)
      (taken : Calls.step vm.runtime system.callers
        (.respond requestId data) = some (callers, output)) :
      Move vm settings remote system (.forge requestId data)
        { system with callers } (.called output)

theorem loops_eq_some {system next : System} {turn : Turn} {output : Output}
    (taken : system.loops settings turn = some (next, output)) :
    ∃ loop effects,
      (swarmLoop settings).step system.loop turn = some (loop, effects) ∧
        next = system.looped loop effects ∧ output = .looped effects := by
  obtain ⟨⟨loop, effects⟩, stepped, same⟩ := Option.map_eq_some_iff.mp taken
  cases same
  exact ⟨loop, effects, stepped, rfl, rfl⟩

theorem calls_eq_some {system next : System} {input : Calls.Input}
    {output : Output}
    (taken : system.calls vm remote input = some (next, output)) :
    ∃ callers called,
      Calls.step vm.runtime system.callers input = some (callers, called) ∧
        next = ({ system with callers } : System).carry remote input called ∧
        output = .called called := by
  obtain ⟨⟨callers, called⟩, stepped, same⟩ :=
    Option.map_eq_some_iff.mp taken
  cases same
  exact ⟨callers, called, stepped, rfl, rfl⟩

theorem Move.of_step {system next : System} {input : Input format}
    {output : Output}
    (taken : step vm settings remote system input = some (next, output)) :
    Move vm settings remote system input next output := by
  unfold step at taken
  split at taken
  · cases taken
  · rename_i input notResponse
    obtain ⟨callers, called, stepped, rfl, rfl⟩ := calls_eq_some taken
    exact .called notResponse stepped
  · split at taken
    · rename_i sent
      obtain ⟨loop, effects, stepped, rfl, rfl⟩ := loops_eq_some taken
      exact .arrived sent stepped
    · cases taken
  · split at taken
    · rename_i waits
      obtain ⟨loop, effects, stepped, rfl, rfl⟩ := loops_eq_some taken
      exact .answered waits stepped
    · cases taken
  · rename_i turn notAnswer
    obtain ⟨loop, effects, stepped, rfl, rfl⟩ := loops_eq_some taken
    exact .turned notAnswer stepped
  · obtain ⟨event, found, same⟩ := Option.map_eq_some_iff.mp taken
    obtain ⟨message, waits, isRequest⟩ := Option.bind_eq_some_iff.mp found
    split at same
    · rename_i handled
      cases same
      exact .served waits isRequest handled
    · cases same
      exact .crashed waits isRequest
  · split at taken
    · rename_i came
      obtain ⟨callers, called, stepped, rfl, rfl⟩ := calls_eq_some taken
      exact .responded came stepped
    · cases taken
  · split at taken
    · rename_i sent
      obtain ⟨callers, called, stepped, rfl, rfl⟩ := calls_eq_some taken
      exact .forged sent stepped
    · cases taken

section Callers

variable {runtime : Runtime} {callers next : Calls.System}
  {input : Calls.Input} {output : Calls.Output} {pid : Pid}

theorem mailbox_added (move : Calls.Move runtime callers input next output)
    {response : Calls.Response}
    (queued : response ∈ (next.processes pid).mailbox) :
    response ∈ (callers.processes pid).mailbox ∨
      input = .respond response.requestId response.data := by
  cases move with
  | registered => exact .inl queued
  | unregistered => exact .inl queued
  | unsent reported => exact .inl queued
  | notified isNotice => exact .inl queued
  | called isCall fresh =>
      rw [Calls.put_processes] at queued
      split at queued
      · rename_i same
        subst same
        exact .inl queued
      · exact .inl queued
  | responded isIssued =>
      simp only [Calls.System.deliver] at queued
      split at queued
      · rcases List.mem_append.mp queued with earlier | new
        · exact .inl earlier
        · obtain rfl := List.mem_singleton.mp new
          exact .inr rfl
      · exact .inl queued
  | received state =>
      rw [Calls.put_processes] at queued
      split at queued
      · rename_i same
        subst same
        rw [state]
        exact .inl (List.mem_cons_of_mem _ queued)
      · exact .inl queued
  | timedOut =>
      rw [Calls.put_processes] at queued
      split at queued
      · cases queued
      · exact .inl queued
  | discarded state =>
      rw [Calls.put_processes] at queued
      split at queued
      · rename_i same
        subst same
        rw [state]
        exact .inl (List.mem_cons_of_mem _ queued)
      · exact .inl queued

theorem waiting_added (move : Calls.Move runtime callers input next output)
    {own : String} (waits : (next.processes pid).waiting = some own) :
    (callers.processes pid).waiting = some own ∨
      ∃ request : Calls.Request, request.operation = .call ∧
        input = .request pid request (some own) := by
  cases move with
  | registered => exact .inl waits
  | unregistered => exact .inl waits
  | unsent reported => exact .inl waits
  | notified isNotice => exact .inl waits
  | @called caller request requestId isCall fresh =>
      rw [Calls.put_processes] at waits
      split at waits
      · rename_i same
        subst same
        cases waits
        exact .inr ⟨request, isCall, rfl⟩
      · exact .inl waits
  | responded isIssued =>
      simp only [Calls.System.deliver] at waits
      split at waits
      · exact .inl waits
      · exact .inl waits
  | received state =>
      rw [Calls.put_processes] at waits
      split at waits
      · cases waits
      · exact .inl waits
  | timedOut =>
      rw [Calls.put_processes] at waits
      split at waits
      · cases waits
      · exact .inl waits
  | discarded state =>
      rw [Calls.put_processes] at waits
      split at waits
      · cases waits
      · exact .inl waits

theorem response_of_returned
    (move : Calls.Move runtime callers input next output)
    {own consumed : String} {result : Except Exception (Except Term Term)}
    (isReturn : output = .returned pid own consumed result) :
    (callers.processes pid).waiting = some own ∧
      ∃ response ∈ (callers.processes pid).mailbox,
        response.requestId = consumed ∧
          result = Distribution.callResult runtime response.data := by
  cases move with
  | received state =>
      cases isReturn
      rw [state]
      exact ⟨rfl, _, List.mem_cons_self, rfl, rfl⟩
  | unsent reported =>
      rcases reported with rfl | rfl
      · cases isReturn
      · cases isReturn
  | _ => cases isReturn

theorem sent_of_request {request : Calls.Request} {requestId : String}
    (taken : Calls.step runtime callers (.request pid request (some requestId)) =
      some (next, output)) :
    requestId ∉ callers.issued ∧ next.issued = requestId :: callers.issued ∧
      output = .sent request.peer (request.payload runtime) := by
  simp only [Calls.step] at taken
  split at taken
  · rename_i admitted
    refine ⟨admitted.2 requestId rfl, ?_⟩
    simp only [Calls.System.request, Option.some.injEq] at taken
    split at taken
    · cases taken
      exact ⟨rfl, rfl⟩
    · cases taken
      exact ⟨rfl, rfl⟩
  · cases taken

def askedIn : Calls.Input → List String
  | .request _ _ requestId => requestId.toList
  | _ => []

theorem issued_step (taken : Calls.step runtime callers input =
      some (next, output)) :
    next.issued = askedIn input ++ callers.issued := by
  cases input with
  | request pid request requestId =>
      cases requestId with
      | some requestId => exact (sent_of_request taken).2.1
      | none =>
          cases Calls.Move.of_step taken with
          | unsent reported => rfl
  | _ =>
      cases Calls.Move.of_step taken with
      | _ => rfl

theorem carry_cases (taken : Calls.step runtime callers input =
      some (next, output)) (system : System) (remote : PeerId) :
    (askedIn input = [] ∧ system.carry remote input output = system) ∨
      ∃ caller request requestId,
        input = .request caller request (some requestId) ∧
          system.carry remote input output =
            if request.peer = remote then
              { system with
                outgoing :=
                  (requestId, request.payload runtime) :: system.outgoing }
            else
              { system with elsewhere := requestId :: system.elsewhere } := by
  cases input with
  | request caller request requestId =>
      cases requestId with
      | none => exact .inl ⟨rfl, rfl⟩
      | some requestId =>
          obtain ⟨-, -, rfl⟩ := sent_of_request taken
          exact .inr ⟨caller, request, requestId, rfl, rfl⟩
  | _ => exact .inl ⟨rfl, rfl⟩

end Callers

section Ways

variable {system next : System} {input : Input format} {output : Output}
  {requestId : String} {data : Bytes}

theorem Move.outgoing_added
    (move : Move vm settings remote system input next output)
    {payload : Bytes} (underWay : (requestId, payload) ∈ next.outgoing) :
    (requestId, payload) ∈ system.outgoing ∨
      ∃ caller request,
        input = .caller (.request caller request (some requestId)) ∧
          request.peer = remote ∧ payload = request.payload vm.runtime := by
  cases move with
  | called notResponse taken =>
      rcases carry_cases taken _ remote with ⟨-, same⟩ |
        ⟨caller, request, sentId, isRequest, carried⟩
      · rw [same] at underWay
        exact .inl underWay
      · rw [carried] at underWay
        split at underWay
        · rename_i isRemote
          rcases List.mem_cons.mp underWay with new | earlier
          · cases new
            exact .inr ⟨caller, request, congrArg _ isRequest, isRemote, rfl⟩
          · exact .inl earlier
        · exact .inl underWay
  | arrived sent taken => exact .inl (List.mem_of_mem_erase underWay)
  | _ => exact .inl underWay

theorem Move.elsewhere_added
    (move : Move vm settings remote system input next output)
    (underWay : requestId ∈ next.elsewhere) :
    requestId ∈ system.elsewhere ∨
      ∃ caller request,
        input = .caller (.request caller request (some requestId)) ∧
          request.peer ≠ remote := by
  cases move with
  | called notResponse taken =>
      rcases carry_cases taken _ remote with ⟨-, same⟩ |
        ⟨caller, request, sentId, isRequest, carried⟩
      · rw [same] at underWay
        exact .inl underWay
      · rw [carried] at underWay
        split at underWay
        · exact .inl underWay
        · rename_i notRemote
          rcases List.mem_cons.mp underWay with rfl | earlier
          · exact .inr ⟨caller, request, congrArg _ isRequest, notRemote⟩
          · exact .inl earlier
  | _ => exact .inl underWay

theorem carry_eq (system : System) (remote : PeerId)
    (callInput : Calls.Input) (called : Calls.Output) :
    ∃ outgoing elsewhere, system.carry remote callInput called =
      { system with outgoing, elsewhere } := by
  unfold System.carry
  split
  · split
    · exact ⟨_, _, rfl⟩
    · exact ⟨_, _, rfl⟩
  · exact ⟨_, _, rfl⟩

theorem Move.carried_added
    (move : Move vm settings remote system input next output)
    {channel : ResponseChannel}
    (isCarried : (channel, requestId) ∈ next.carried) :
    (channel, requestId) ∈ system.carried ∨
      ∃ payload peer inboundId now answers effects,
        input = .arrive requestId payload peer inboundId channel now answers ∧
          output = .looped effects ∧
          (requestId, payload) ∈ system.outgoing := by
  cases move with
  | called notResponse taken =>
      obtain ⟨outgoing, elsewhere, same⟩ := carry_eq _ remote _ _
      rw [same] at isCarried
      exact .inl isCarried
  | arrived sent taken =>
      rcases List.mem_cons.mp isCarried with new | earlier
      · cases new
        exact .inr ⟨_, _, _, _, _, _, rfl, rfl, sent⟩
      · exact .inl earlier
  | _ => exact .inl isCarried

theorem mem_sends {effects : List SwarmLoop.Effect} {message : Term} :
    message ∈ sends effects ↔
      ∃ pid, SwarmLoop.Effect.send pid message ∈ effects := by
  rw [sends, List.mem_filterMap]
  constructor
  · intro found
    obtain ⟨effect, member, same⟩ := found
    cases effect with
    | send pid other =>
        cases same
        exact ⟨pid, member⟩
    | _ => cases same
  · intro found
    obtain ⟨pid, member⟩ := found
    exact ⟨_, member, rfl⟩

theorem mem_replies {effects : List SwarmLoop.Effect}
    {channel : ResponseChannel} :
    (channel, data) ∈ replies effects ↔
      SwarmLoop.Effect.sendResponse channel data ∈ effects := by
  rw [replies, List.mem_filterMap]
  constructor
  · intro found
    obtain ⟨effect, member, same⟩ := found
    cases effect with
    | sendResponse other sent =>
        cases same
        exact member
    | _ => cases same
  · intro member
    exact ⟨_, member, rfl⟩

theorem mem_of_lookup {channel : ResponseChannel}
    {carried : List (ResponseChannel × String)}
    (found : carried.lookup channel = some requestId) :
    (channel, requestId) ∈ carried := by
  obtain ⟨first, second, same, -⟩ := List.lookup_eq_some_iff.mp found
  rw [same]
  exact List.mem_append_right _ List.mem_cons_self

theorem mem_returned {effects : List SwarmLoop.Effect}
    (isReturned : (requestId, data) ∈ system.returned effects) :
    ∃ channel, SwarmLoop.Effect.sendResponse channel data ∈ effects ∧
      (channel, requestId) ∈ system.carried := by
  obtain ⟨⟨channel, sent⟩, member, same⟩ :=
    List.mem_filterMap.mp isReturned
  obtain ⟨owner, found, same⟩ := Option.map_eq_some_iff.mp same
  cases same
  exact ⟨channel, mem_replies.mp member, mem_of_lookup found⟩

theorem Move.inbox_added
    (move : Move vm settings remote system input next output) {message : Term}
    (waits : message ∈ next.inbox) :
    message ∈ system.inbox ∨
      ∃ effects pid, output = .looped effects ∧
        SwarmLoop.Effect.send pid message ∈ effects := by
  cases move with
  | called notResponse taken =>
      obtain ⟨outgoing, elsewhere, same⟩ := carry_eq _ remote _ _
      rw [same] at waits
      exact .inl waits
  | arrived sent taken =>
      rcases List.mem_append.mp waits with earlier | new
      · exact .inl earlier
      · obtain ⟨pid, member⟩ := mem_sends.mp new
        exact .inr ⟨_, pid, rfl, member⟩
  | answered commanded taken =>
      rcases List.mem_append.mp waits with earlier | new
      · exact .inl earlier
      · obtain ⟨pid, member⟩ := mem_sends.mp new
        exact .inr ⟨_, pid, rfl, member⟩
  | turned notAnswer taken =>
      rcases List.mem_append.mp waits with earlier | new
      · exact .inl earlier
      · obtain ⟨pid, member⟩ := mem_sends.mp new
        exact .inr ⟨_, pid, rfl, member⟩
  | served waited isRequest handled =>
      exact .inl (List.mem_of_mem_eraseIdx waits)
  | crashed waited isRequest => exact .inl (List.mem_of_mem_eraseIdx waits)
  | responded came taken => exact .inl waits
  | forged sent taken => exact .inl waits

theorem Move.commands_added
    (move : Move vm settings remote system input next output) {id : String}
    (waits : (id, data) ∈ next.commands) :
    (id, data) ∈ system.commands ∨
      ∃ event effects, output = .served event effects ∧
        (id, data) ∈ responses effects := by
  cases move with
  | called notResponse taken =>
      obtain ⟨outgoing, elsewhere, same⟩ := carry_eq _ remote _ _
      rw [same] at waits
      exact .inl waits
  | answered commanded taken => exact .inl (List.mem_of_mem_erase waits)
  | served waited isRequest handled =>
      rcases List.mem_append.mp waits with earlier | new
      · exact .inl earlier
      · exact .inr ⟨_, _, rfl, new⟩
  | _ => exact .inl waits

theorem Move.returning_added
    (move : Move vm settings remote system input next output)
    (came : (requestId, data) ∈ next.returning) :
    (requestId, data) ∈ system.returning ∨
      ∃ id answers channel effects,
        input = .turn (.command (some (.rpcSendResponse id data)) answers) ∧
          output = .looped effects ∧
          SwarmLoop.Effect.sendResponse channel data ∈ effects ∧
          (channel, requestId) ∈ system.carried ∧
          (id, data) ∈ system.commands := by
  cases move with
  | called notResponse taken =>
      obtain ⟨outgoing, elsewhere, same⟩ := carry_eq _ remote _ _
      rw [same] at came
      exact .inl came
  | arrived sent taken =>
      rcases List.mem_append.mp came with earlier | new
      · exact .inl earlier
      · obtain ⟨channel, member, -⟩ := mem_returned new
        obtain ⟨-, -, movement⟩ := SwarmLoop.step_movement taken
        obtain ⟨id, answers, created, impossible, -⟩ :=
          movement.answered_origin member
        cases impossible
  | answered commanded taken =>
      rcases List.mem_append.mp came with earlier | new
      · exact .inl earlier
      · obtain ⟨channel, member, isCarried⟩ := mem_returned new
        obtain ⟨-, -, movement⟩ := SwarmLoop.step_movement taken
        obtain ⟨id, answers, created, same, -⟩ :=
          movement.answered_origin member
        cases same
        exact .inr ⟨_, _, channel, _, rfl, rfl, member, isCarried, commanded⟩
  | turned notAnswer taken =>
      rcases List.mem_append.mp came with earlier | new
      · exact .inl earlier
      · obtain ⟨channel, member, -⟩ := mem_returned new
        obtain ⟨-, -, movement⟩ := SwarmLoop.step_movement taken
        obtain ⟨id, answers, created, isAnswer, -⟩ :=
          movement.answered_origin member
        exact absurd isAnswer (notAnswer id data answers)
  | responded arrived taken => exact .inl (List.mem_of_mem_erase came)
  | served waited isRequest handled => exact .inl came
  | crashed waited isRequest => exact .inl came
  | forged sent taken => exact .inl came

theorem Move.mailbox_added
    (move : Move vm settings remote system input next output) {pid : Pid}
    {response : Calls.Response}
    (queued : response ∈ (next.callers.processes pid).mailbox) :
    response ∈ (system.callers.processes pid).mailbox ∨
      (∃ data allocates,
        response.data = Events.encodeBinary allocates data ∧
          (response.requestId, data) ∈ system.returning) ∨
      response.requestId ∈ system.elsewhere := by
  cases move with
  | called notResponse taken =>
      obtain ⟨outgoing, elsewhere, same⟩ := carry_eq _ remote _ _
      rw [same] at queued
      rcases RemoteCalls.mailbox_added (Calls.Move.of_step taken) queued
        with earlier | isResponse
      · exact .inl earlier
      · exact absurd isResponse (notResponse _ _)
  | responded came taken =>
      rcases RemoteCalls.mailbox_added (Calls.Move.of_step taken) queued
        with earlier | isResponse
      · exact .inl earlier
      · obtain ⟨sameId, sameData⟩ := Calls.Input.respond.inj isResponse
        subst sameId
        exact .inr (.inl ⟨_, _, sameData.symm, came⟩)
  | forged sent taken =>
      rcases RemoteCalls.mailbox_added (Calls.Move.of_step taken) queued
        with earlier | isResponse
      · exact .inl earlier
      · obtain ⟨sameId, -⟩ := Calls.Input.respond.inj isResponse
        subst sameId
        exact .inr (.inr sent)
  | _ => exact .inl queued

theorem Move.waiting_added
    (move : Move vm settings remote system input next output) {pid : Pid}
    {own : String}
    (waits : (next.callers.processes pid).waiting = some own) :
    (system.callers.processes pid).waiting = some own ∨
      ∃ request : Calls.Request, request.operation = .call ∧
        input = .caller (.request pid request (some own)) := by
  cases move with
  | called notResponse taken =>
      obtain ⟨outgoing, elsewhere, same⟩ := carry_eq _ remote _ _
      rw [same] at waits
      rcases RemoteCalls.waiting_added (Calls.Move.of_step taken) waits
        with earlier | ⟨request, isCall, isRequest⟩
      · exact .inl earlier
      · exact .inr ⟨request, isCall, congrArg _ isRequest⟩
  | responded came taken =>
      rcases RemoteCalls.waiting_added (Calls.Move.of_step taken) waits
        with earlier | ⟨request, isCall, impossible⟩
      · exact .inl earlier
      · cases impossible
  | forged sent taken =>
      rcases RemoteCalls.waiting_added (Calls.Move.of_step taken) waits
        with earlier | ⟨request, isCall, impossible⟩
      · exact .inl earlier
      · cases impossible
  | _ => exact .inl waits

theorem Move.returned_response
    (move : Move vm settings remote system input next output) {pid : Pid}
    {own consumed : String} {result : Except Exception (Except Term Term)}
    (isReturn : output = .called (.returned pid own consumed result)) :
    (system.callers.processes pid).waiting = some own ∧
      ∃ response ∈ (system.callers.processes pid).mailbox,
        response.requestId = consumed ∧
          result = Distribution.callResult vm.runtime response.data := by
  cases move with
  | called notResponse taken =>
      exact response_of_returned (Calls.Move.of_step taken)
        (Output.called.inj isReturn)
  | responded came taken =>
      exact response_of_returned (Calls.Move.of_step taken)
        (Output.called.inj isReturn)
  | forged sent taken =>
      exact response_of_returned (Calls.Move.of_step taken)
        (Output.called.inj isReturn)
  | _ => cases isReturn

theorem Move.served_message
    (move : Move vm settings remote system input next output)
    {event : InboundRequest} {effects : List Effect}
    (isServed : output = .served event effects) :
    ∃ server place message, input = .serve server place ∧
      message ∈ system.inbox ∧ requestOf message = some event ∧
      DistributionServer.handleInfo server.runtime event.info = .ok effects := by
  cases move with
  | served waits isRequest handled =>
      cases isServed
      exact ⟨_, _, _, rfl, List.mem_of_getElem? waits, isRequest, handled⟩
  | _ => cases isServed

end Ways

def turnOf : Input format × Output → Option (Turn × List SwarmLoop.Effect)
  | (.arrive _ payload peer inboundId channel now answers, .looped effects) =>
      some (.event (.requestReceived peer inboundId payload channel) now
        answers, effects)
  | (.turn turn, .looped effects) => some (turn, effects)
  | _ => none

def loopPart (vm : Vm format) (settings : Settings) (remote : PeerId) :
    Machine.Component (remoteCalls vm settings remote)
      (swarmLoop settings) where
  view := System.loop
  sees := turnOf
  init := rfl
  follows := by
    intro system next input output taken
    cases Move.of_step taken with
    | called notResponse moved =>
        obtain ⟨outgoing, elsewhere, same⟩ := carry_eq _ remote _ _
        rw [same]
        rfl
    | arrived sent moved => exact moved
    | answered commanded moved => exact moved
    | turned notAnswer moved => exact moved
    | _ => rfl

def callOf : Input format × Output → Option (Calls.Input × Calls.Output)
  | (.caller input, .called output) => some (input, output)
  | (.respond requestId data allocates, .called output) =>
      some (.respond requestId (Events.encodeBinary allocates data), output)
  | (.forge requestId data, .called output) =>
      some (.respond requestId data, output)
  | _ => none

def callersPart (vm : Vm format) (settings : Settings) (remote : PeerId) :
    Machine.Component ((remoteCalls vm settings remote).guard Orderly)
      ((Calls.calls vm.runtime).guard Calls.Orderly) where
  view := System.callers
  sees := callOf
  init := rfl
  follows := by
    intro system next input output taken
    obtain ⟨orderly, taken⟩ := Machine.guard_step.mp taken
    cases Move.of_step taken with
    | called notResponse moved =>
        obtain ⟨outgoing, elsewhere, same⟩ := carry_eq _ remote _ _
        rw [same]
        exact Machine.guard_step.mpr ⟨orderly, moved⟩
    | responded came moved =>
        exact Machine.guard_step.mpr ⟨orderly, moved⟩
    | forged sent moved =>
        exact Machine.guard_step.mpr ⟨orderly, moved⟩
    | _ => rfl

end Steps

end ExLibp2p.Otp.RemoteCalls
