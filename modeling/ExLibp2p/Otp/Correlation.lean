import ExLibp2p.Otp.Calls

namespace ExLibp2p.Otp.Calls

open ExLibp2p.Data
open ExLibp2p.Erlang
open ExLibp2p.Otp.Distribution

/-! Which response a waiting call consumes. The call takes the first one in
the mailbox and never compares its request identifier, so the correlation
rests on the order in which responses arrive. -/

def Process.isClear (process : Process) : Bool :=
  process.mailbox.isEmpty

/-- The step that is about to be taken keeps responses apart: no call starts
while a response is queued for its process, and the first response to reach a
waiting process is the one to its own request. -/
def Orderly (system : System) : Input → Prop
  | .request pid request (some _) =>
      request.operation = .call → (system.processes pid).isClear = true
  | .respond requestId _ =>
      ∀ pid ∈ system.registered, (system.processes pid).isClear = true →
        ∀ own ∈ (system.processes pid).waiting, requestId = own
  | _ => True

instance (system : System) : (input : Input) →
    Decidable (Orderly system input)
  | .request pid request (some _) =>
      inferInstanceAs (Decidable (request.operation = .call →
        (system.processes pid).isClear = true))
  | .respond requestId _ =>
      inferInstanceAs (Decidable (∀ pid ∈ system.registered,
        (system.processes pid).isClear = true →
          ∀ own ∈ (system.processes pid).waiting, requestId = own))
  | .request _ _ none => isTrue trivial
  | .register _ => isTrue trivial
  | .unregister _ => isTrue trivial
  | .receive _ => isTrue trivial
  | .timeout _ => isTrue trivial
  | .discard _ => isTrue trivial

/-- The response that a waiting process will take is its own. -/
def Process.Correlated (process : Process) : Prop :=
  ∀ own response rest, process.waiting = some own →
    process.mailbox = response :: rest → response.requestId = own

def Output.Correlated : Output → Prop
  | .returned _ own consumed _ => consumed = own
  | _ => True

inductive Move (runtime : Runtime) (system : System) :
    Input → System → Output → Prop
  | registered {pid : Pid} :
      Move runtime system (.register pid)
        { system with registered := pid :: system.registered.erase pid } .done
  | unregistered {pid : Pid} :
      Move runtime system (.unregister pid)
        { system with registered := system.registered.erase pid } .done
  | unsent {pid : Pid} {request : Request} {output : Output}
      (reported : output = .unreachable pid ∨ output = .done) :
      Move runtime system (.request pid request none) system output
  | called {pid : Pid} {request : Request} {requestId : String}
      (isCall : request.operation = .call)
      (fresh : requestId ∉ system.issued) :
      Move runtime system (.request pid request (some requestId))
        (({ system with issued := requestId :: system.issued } : System).put
          pid { mailbox := (system.processes pid).mailbox
                waiting := some requestId })
        (.sent request.peer (request.payload runtime))
  | notified {pid : Pid} {request : Request} {requestId : String}
      (isNotice : request.operation ≠ .call) :
      Move runtime system (.request pid request (some requestId))
        { system with issued := requestId :: system.issued }
        (.sent request.peer (request.payload runtime))
  | responded {requestId : String} {data : Term}
      (isIssued : requestId ∈ system.issued) :
      Move runtime system (.respond requestId data)
        (system.deliver { requestId, data }) .done
  | received {pid : Pid} {response : Response} {rest : List Response}
      {own : String}
      (state : system.processes pid =
        { mailbox := response :: rest, waiting := some own }) :
      Move runtime system (.receive pid)
        (system.put pid { mailbox := rest, waiting := none })
        (.returned pid own response.requestId
          (callResult runtime response.data))
  | timedOut {pid : Pid} :
      Move runtime system (.timeout pid)
        (system.put pid { mailbox := [], waiting := none }) (.timedOut pid)
  | discarded {pid : Pid} {response : Response} {rest : List Response}
      (state : system.processes pid =
        { mailbox := response :: rest, waiting := none }) :
      Move runtime system (.discard pid)
        (system.put pid { mailbox := rest, waiting := none }) .done

section Steps

variable {runtime : Runtime} {system next : System} {input : Input}
  {output : Output}

theorem Move.of_request {pid : Pid} {request : Request} {sent : Option String}
    (fresh : ∀ requestId ∈ sent, requestId ∉ system.issued)
    (moved : system.request runtime pid request sent = (next, output)) :
    Move runtime system (.request pid request sent) next output := by
  cases sent with
  | none =>
      cases moved
      apply Move.unsent
      split
      · exact .inl rfl
      · exact .inr rfl
  | some requestId =>
      simp only [System.request] at moved
      split at moved
      · rename_i isCall
        cases moved
        exact .called isCall (fresh requestId rfl)
      · rename_i isNotice
        cases moved
        exact .notified isNotice

theorem Move.of_step (taken : step runtime system input = some (next, output)) :
    Move runtime system input next output := by
  cases input with
  | register pid =>
      cases taken
      exact .registered
  | unregister pid =>
      cases taken
      exact .unregistered
  | request pid request sent =>
      simp only [step] at taken
      split at taken
      · rename_i admitted
        exact .of_request admitted.2 (Option.some.inj taken)
      · cases taken
  | respond requestId data =>
      simp only [step] at taken
      split at taken
      · rename_i admitted
        cases taken
        exact .responded admitted.1
      · cases taken
  | receive pid =>
      simp only [step] at taken
      split at taken
      · rename_i state
        cases taken
        exact .received state
      · cases taken
  | timeout pid =>
      simp only [step] at taken
      split at taken
      · cases taken
        exact .timedOut
      · cases taken
  | discard pid =>
      simp only [step] at taken
      split at taken
      · rename_i state
        cases taken
        exact .discarded state
      · cases taken

theorem Process.correlated_of_idle {process : Process}
    (idle : process.waiting = none) : process.Correlated := by
  intro own response rest waiting
  rw [idle] at waiting
  cases waiting

theorem put_processes (pid other : Pid) (process : Process) :
    (system.put pid process).processes other =
      if other = pid then process else system.processes other := rfl

theorem correlated_put {pid : Pid} {process : Process}
    (correlated : ∀ other, (system.processes other).Correlated)
    (new : process.Correlated) :
    ∀ other, ((system.put pid process).processes other).Correlated := by
  intro other
  rw [put_processes]
  split
  · exact new
  · exact correlated other

theorem correlated_deliver {requestId : String} {data : Term}
    (orderly : Orderly system (.respond requestId data))
    (correlated : ∀ pid, (system.processes pid).Correlated) :
    ∀ pid, ((system.deliver { requestId, data }).processes pid).Correlated := by
  intro pid
  simp only [System.deliver]
  split
  · rename_i registered
    intro own response rest waiting mailbox
    cases queued : (system.processes pid).mailbox with
    | nil =>
        have clear : (system.processes pid).isClear = true := by
          rw [Process.isClear, queued]
          rfl
        rw [queued, List.nil_append] at mailbox
        cases mailbox
        exact orderly pid registered clear own waiting
    | cons oldest others =>
        rw [queued, List.cons_append] at mailbox
        cases mailbox
        exact correlated pid own response others waiting queued
  · exact correlated pid

theorem Move.correlated (move : Move runtime system input next output)
    (orderly : Orderly system input)
    (correlated : ∀ pid, (system.processes pid).Correlated) :
    (∀ pid, (next.processes pid).Correlated) ∧ output.Correlated := by
  cases move with
  | registered => exact ⟨correlated, trivial⟩
  | unregistered => exact ⟨correlated, trivial⟩
  | unsent reported =>
      refine ⟨correlated, ?_⟩
      rcases reported with rfl | rfl
      · trivial
      · trivial
  | called isCall fresh =>
      refine ⟨correlated_put correlated ?_, trivial⟩
      intro own response rest waiting mailbox
      have clear := orderly isCall
      rw [Process.isClear] at clear
      change (system.processes _).mailbox = response :: rest at mailbox
      rw [mailbox] at clear
      contradiction
  | notified isNotice => exact ⟨correlated, trivial⟩
  | responded isIssued =>
      exact ⟨correlated_deliver orderly correlated, trivial⟩
  | @received pid response rest own state =>
      refine ⟨correlated_put correlated (Process.correlated_of_idle rfl), ?_⟩
      have process := correlated pid
      rw [state] at process
      exact process own response rest rfl rfl
  | timedOut =>
      exact ⟨correlated_put correlated (Process.correlated_of_idle rfl),
        trivial⟩
  | discarded state =>
      exact ⟨correlated_put correlated (Process.correlated_of_idle rfl),
        trivial⟩

def System.Issued (system : System) : Prop :=
  ∀ pid, ∀ response ∈ (system.processes pid).mailbox,
    response.requestId ∈ system.issued

theorem issued_put {pid : Pid} {process : Process} (issued : system.Issued)
    (queued : ∀ response ∈ process.mailbox,
      response.requestId ∈ system.issued) :
    (system.put pid process).Issued := by
  intro other response member
  rw [put_processes] at member
  split at member
  · exact queued response member
  · exact issued other response member

theorem issued_cons {requestId : String} (issued : system.Issued) :
    System.Issued { system with issued := requestId :: system.issued } := by
  intro pid response member
  exact List.mem_cons_of_mem requestId (issued pid response member)

theorem issued_deliver {response : Response} (issued : system.Issued)
    (isIssued : response.requestId ∈ system.issued) :
    (system.deliver response).Issued := by
  intro pid other member
  simp only [System.deliver] at member
  split at member
  · rcases List.mem_append.mp member with earlier | new
    · exact issued pid other earlier
    · rw [List.mem_singleton.mp new]
      exact isIssued
  · exact issued pid other member

theorem Move.issued (move : Move runtime system input next output)
    (issued : system.Issued) : next.Issued := by
  cases move with
  | registered => exact issued
  | unregistered => exact issued
  | unsent reported => exact issued
  | @called pid request requestId isCall fresh =>
      apply issued_put (issued_cons issued)
      intro response member
      exact List.mem_cons_of_mem requestId (issued pid response member)
  | notified isNotice => exact issued_cons issued
  | responded isIssued => exact issued_deliver issued isIssued
  | @received pid response rest own state =>
      apply issued_put issued
      intro other member
      apply issued pid
      rw [state]
      exact List.mem_cons_of_mem response member
  | timedOut => exact issued_put issued (List.forall_mem_nil _)
  | @discarded pid response rest state =>
      apply issued_put issued
      intro other member
      apply issued pid
      rw [state]
      exact List.mem_cons_of_mem response member

theorem step_receive {pid : Pid} {response : Response} {rest : List Response}
    {own : String}
    (state : system.processes pid =
      { mailbox := response :: rest, waiting := some own }) :
    step runtime system (.receive pid) =
      some (system.put pid { mailbox := rest, waiting := none },
        .returned pid own response.requestId
          (callResult runtime response.data)) := by
  simp only [step, state]

/-- After a step that is not orderly, some waiting process can take a response
to another request at once. -/
theorem Move.misdelivers (move : Move runtime system input next output)
    (issued : system.Issued) (disorderly : ¬ Orderly system input) :
    ∃ pid own consumed result last,
      step runtime next (.receive pid) =
        some (last, .returned pid own consumed result) ∧ consumed ≠ own := by
  cases move with
  | @called pid request requestId isCall fresh =>
      cases queued : (system.processes pid).mailbox with
      | nil =>
          have clear : (system.processes pid).isClear = true := by
            rw [Process.isClear, queued]
            rfl
          exact (disorderly fun _ => clear).elim
      | cons response rest =>
          refine ⟨pid, requestId, response.requestId, _, _,
            step_receive (if_pos rfl), ?_⟩
          intro same
          apply fresh
          rw [← same]
          apply issued pid
          rw [queued]
          exact List.mem_cons_self
  | @responded requestId data isIssued =>
      simp only [Orderly, not_forall] at disorderly
      obtain ⟨pid, registered, clear, own, waiting, different⟩ := disorderly
      have empty : (system.processes pid).mailbox = [] :=
        List.isEmpty_iff.mp clear
      have state : (system.deliver { requestId, data }).processes pid =
          { mailbox := [{ requestId, data }], waiting := some own } := by
        simp only [System.deliver, if_pos registered, empty]
        rw [show (system.processes pid).waiting = some own from waiting]
        rfl
      exact ⟨pid, own, requestId, _, _, step_receive state, different⟩
  | notified isNotice =>
      exact (disorderly fun isCall => absurd isCall isNotice).elim
  | registered => exact (disorderly trivial).elim
  | unregistered => exact (disorderly trivial).elim
  | unsent reported => exact (disorderly trivial).elim
  | received state => exact (disorderly trivial).elim
  | timedOut => exact (disorderly trivial).elim
  | discarded state => exact (disorderly trivial).elim

end Steps

theorem correlated_of_run {runtime : Runtime}
    {trace : List (Input × Output)} {system : System}
    (run : Machine.Run ((calls runtime).guard Orderly) trace system) :
    (∀ pid, (system.processes pid).Correlated) ∧
      ∀ entry ∈ trace, entry.2.Correlated := by
  refine run.invariant (fun trace system =>
    (∀ pid, (system.processes pid).Correlated) ∧
      ∀ entry ∈ trace, entry.2.Correlated) ?_ ?_
  · exact ⟨fun pid => Process.correlated_of_idle rfl, List.forall_mem_nil _⟩
  · intro trace system input next output earlier both taken
    obtain ⟨orderly, taken⟩ := Machine.guard_step.mp taken
    obtain ⟨correlated, returned⟩ :=
      (Move.of_step taken).correlated orderly both.1
    refine ⟨correlated, ?_⟩
    intro entry member
    rcases List.mem_append.mp member with before | last
    · exact both.2 entry before
    · rw [List.mem_singleton.mp last]
      exact returned

theorem issued_of_run {runtime : Runtime} {trace : List (Input × Output)}
    {system : System} (run : Machine.Run (calls runtime) trace system) :
    system.Issued := by
  refine run.invariant (fun _ system => system.Issued) ?_ ?_
  · intro pid response member
    cases member
  · intro trace system input next output earlier issued taken
    exact (Move.of_step taken).issued issued

/-- In a run of orderly steps every call that consumes a response consumes the
one to its own request. In any run, a step that is not orderly leaves a process
that can consume another one next. -/
theorem calls_correlated_of_orderly (runtime : Runtime) :
    (∀ trace system, Machine.Run ((calls runtime).guard Orderly) trace system →
      ∀ entry ∈ trace, ∀ pid own consumed result,
        entry.2 = .returned pid own consumed result → consumed = own) ∧
    (∀ trace system, Machine.Run (calls runtime) trace system →
      ∀ input next output,
        (calls runtime).step system input = some (next, output) →
          ¬ Orderly system input →
            ∃ pid own consumed result last,
              (calls runtime).step next (.receive pid) =
                some (last, .returned pid own consumed result) ∧
              consumed ≠ own) := by
  refine ⟨?_, ?_⟩
  · intro trace system run entry member pid own consumed result isReturn
    have correlated := (correlated_of_run run).2 entry member
    rw [isReturn] at correlated
    exact correlated
  · intro trace system run input next output taken disorderly
    exact (Move.of_step taken).misdelivers (issued_of_run run) disorderly

def remotePeer : PeerId where
  id := utf8 "12D3KooWRPmBBCBTuGh1cnUuFVr35GYnm4bRXYsSB94TXJLAg4mA"
  long := by decide
  base58 := by decide

def ping (operation : Operation) : Request where
  operation := operation
  peer := remotePeer
  name := "my_server"
  message := .atom "ping"

/-- The external forms of `{:reply, :pong}` and `{:reply, :ok}`. -/
def pongData : Bytes :=
  [131, 104, 2, 119, 5, 114, 101, 112, 108, 121, 119, 4, 112, 111, 110, 103]

def okData : Bytes :=
  [131, 104, 2, 119, 5, 114, 101, 112, 108, 121, 119, 2, 111, 107]

def pingRuntime : Runtime where
  binaryToTerm := fun data =>
    if data = pongData then
      some (reply (.atom "pong"))
    else if data = okData then
      some (reply (.atom "ok"))
    else
      none
  termToBinary := fun
    | .tuple [.atom tag, .atom "my_server", .atom "ping"] =>
        [131, 104, 3, 119, 4] ++ utf8 tag ++ [119, 9] ++ utf8 "my_server" ++
          [119, 4] ++ utf8 "ping"
    | _ => []
  whereis := fun _ => none
  whereisVia := fun _ _ => .ok none
  call := fun _ _ => .exit (.tuple [.atom "noproc", .nil])
  inspect := fun _ => ""

/-- A call, and a cast whose acknowledgement is taken out before the next
call. -/
def orderlyCalls : List Input :=
  [.register 1, .register 2,
    .request 1 (ping .call) (some "OutboundRequestId(1)"),
    .respond "OutboundRequestId(1)" (.binary pongData), .receive 1,
    .request 1 (ping .cast) (some "OutboundRequestId(2)"),
    .respond "OutboundRequestId(2)" (.binary okData), .discard 1,
    .request 1 (ping .call) (some "OutboundRequestId(3)"),
    .respond "OutboundRequestId(3)" (.binary pongData), .receive 1]

theorem calls_correlated_orderlyCalls :
    ∃ trace system,
      Machine.Run ((calls pingRuntime).guard Orderly) trace system ∧
      trace.map Prod.fst = orderlyCalls ∧
      ∀ entry ∈ trace, ∀ pid own consumed result,
        entry.2 = .returned pid own consumed result → consumed = own := by
  obtain ⟨trace, system, -, run, inputs⟩ := Machine.exists_run_of_start
    (by decide :
      (((calls pingRuntime).guard Orderly).start orderlyCalls).isSome)
  exact ⟨trace, system, run, inputs,
    (calls_correlated_of_orderly pingRuntime).1 trace system run⟩

/-- A call that times out, its late response, and the next call. -/
def lateResponse : List Input :=
  [.register 1, .request 1 (ping .call) (some "OutboundRequestId(1)"),
    .timeout 1, .respond "OutboundRequestId(1)" (.binary pongData),
    .request 1 (ping .call) (some "OutboundRequestId(2)"), .receive 1]

/-- The second call returns the reply to the first one. -/
theorem lateResponse_misdelivered :
    ∃ trace system, Machine.Run (calls pingRuntime) trace system ∧
      trace.map Prod.fst = lateResponse ∧
      ∃ entry ∈ trace,
        entry.2 = .returned 1 "OutboundRequestId(2)" "OutboundRequestId(1)"
          (.ok (.ok (.atom "pong"))) := by
  obtain ⟨trace, system, started, run, inputs⟩ :=
    Machine.exists_run_of_start
      (by decide : ((calls pingRuntime).start lateResponse).isSome)
  have outputs : ((calls pingRuntime).start lateResponse).map
      (fun result => result.1.getLast?.map Prod.snd) =
        some (some (.returned 1 "OutboundRequestId(2)" "OutboundRequestId(1)"
          (.ok (.ok (.atom "pong"))))) := rfl
  rw [started, Option.map_some, Option.some.injEq,
    Option.map_eq_some_iff] at outputs
  obtain ⟨entry, last, returned⟩ := outputs
  exact ⟨trace, system, run, inputs, entry, List.mem_of_getLast? last, returned⟩

end ExLibp2p.Otp.Calls
