import ExLibp2p.Otp.RemoteCalls.EndToEnd
import Mathlib.Data.List.Perm.Basic

namespace ExLibp2p.Otp.RemoteCalls

open ExLibp2p.Data
open ExLibp2p.Erlang
open ExLibp2p.Native
open ExLibp2p.Native.SwarmLoop (Settings Turn)
open ExLibp2p.Otp.DistributionServer (InboundRequest)

section Histories

variable {format : Format}

def arrives (requestId : String) : Input format × Output → Bool
  | (.arrive other _ _ _ _ _ _, .looped _) => other = requestId
  | _ => false

/-- The identifiers under which the loop stored the channels of an arrival. -/
def idsOf (requestId : String) : Input format × Output → List String
  | (.arrive other _ _ _ _ _ _, .looped effects) =>
      if other = requestId then
        (SwarmLoop.stored effects).map Prod.fst
      else
        []
  | _ => []

/-- The server took up the request, whether or not it survived it. -/
def handles (id : String) : Input format × Output → Bool
  | (_, .served event _) => event.channelId = id
  | (_, .crashed event _) => event.channelId = id
  | _ => false

def executions (trace : History format) (requestId : String) : Nat :=
  trace.countP fun entry =>
    (trace.flatMap (idsOf requestId)).any fun id => handles id entry

def announces (id : String) (message : Term) : Bool :=
  (requestOf message).map InboundRequest.channelId = some id

end Histories

section Messages

variable {locals next : SwarmLoop.Locals} {turn : Turn}
  {effects : List SwarmLoop.Effect}

theorem announces_eq_true {id : String} {message : Term} :
    announces id message = true ↔
      ∃ event, requestOf message = some event ∧ event.channelId = id := by
  rw [announces, decide_eq_true_eq, Option.map_eq_some_iff]

theorem countP_announces_of_unannounced {messages : List Term} (id : String)
    (silent : ∀ message ∈ messages, SwarmLoop.announcedId message = none) :
    messages.countP (announces id) = 0 := by
  apply List.countP_eq_zero.mpr
  intro message member announced
  obtain ⟨event, isRequest, -⟩ := announces_eq_true.mp announced
  have impossible := announcedId_of_requestOf isRequest
  rw [silent message member] at impossible
  cases impossible

theorem announces_le_stored
    (movement : SwarmLoop.Movement locals turn next effects) (id : String) :
    (sends effects).countP (announces id) ≤
      ((SwarmLoop.stored effects).map Prod.fst).count id := by
  cases movement with
  | @accepted peer inboundId request channel now answers room =>
      rw [SwarmLoop.stored_issue, List.map_singleton]
      unfold SwarmLoop.announce
      cases locals.eventHandler with
      | none => exact Nat.zero_le _
      | some pid =>
          change List.countP _ [Events.sendInboundRequest answers.allocates peer
            inboundId (SwarmLoop.nextId locals) request] ≤ _
          rw [List.countP_singleton]
          split
          · rename_i announced
            obtain ⟨event, isRequest, rfl⟩ := announces_eq_true.mp announced
            rw [(requestOf_sendInboundRequest isRequest).1,
              List.count_singleton_self]
          · exact Nat.zero_le _
  | other noRequest pending counter quiet =>
      rw [countP_announces_of_unannounced]
      · exact Nat.zero_le _
      · intro message member
        obtain ⟨pid, sent⟩ := mem_sends.mp member
        exact Option.isNone_iff_eq_none.mp (quiet _ sent)
  | evicted now =>
      have silent : sends (SwarmLoop.evict locals now).2 = [] := by
        simp [sends, SwarmLoop.evict, List.filterMap_map]
      rw [silent]
      exact Nat.zero_le _
  | answered found => exact Nat.zero_le _
  | unknown missing => exact Nat.zero_le _
  | refused => exact Nat.zero_le _

end Messages

section Runs

variable {format : Format} {vm : Vm format} {settings : Settings}
  {remote : PeerId} {trace : History format} {system : System}

theorem countP_eraseIdx {Element : Type*} {elements : List Element}
    {place : Nat} {element : Element} (test : Element → Bool)
    (there : elements[place]? = some element) :
    (elements.eraseIdx place).countP test +
      (if test element then 1 else 0) = elements.countP test := by
  obtain ⟨bound, rfl⟩ := List.getElem?_eq_some_iff.mp there
  rw [← (List.getElem_cons_eraseIdx_perm bound).countP_eq, List.countP_cons]

theorem announced_by_loop {loop : SwarmLoop.State} {turn : Turn}
    {effects : List SwarmLoop.Effect} {before : SwarmLoop.State} (id : String)
    (taken : (SwarmLoop.swarmLoop settings).step before turn =
      some (loop, effects)) :
    (sends effects).countP (announces id) ≤
      ((SwarmLoop.issued [(turn, effects)]).map Prod.fst).count id := by
  obtain ⟨-, -, movement⟩ := SwarmLoop.step_movement taken
  rw [SwarmLoop.issued, List.flatMap_singleton]
  exact announces_le_stored movement id

theorem handles_of_request {message : Term} {event : InboundRequest}
    (isRequest : requestOf message = some event) (id : String) :
    announces id message = decide (event.channelId = id) := by
  rw [announces, isRequest]
  exact decide_eq_decide.mpr (Option.some.injEq ..).to_iff

theorem Move.handled_le {next : System} {input : Input format}
    {output : Output}
    (move : Move vm settings remote system input next output) (id : String) :
    [(input, output)].countP (handles id) + next.inbox.countP (announces id) ≤
      system.inbox.countP (announces id) +
        ((SwarmLoop.issued (turns [(input, output)])).map Prod.fst).count
          id := by
  have untouched : [(input, output)].countP (handles id) = 0 →
      next.inbox = system.inbox →
      [(input, output)].countP (handles id) +
          next.inbox.countP (announces id) ≤
        system.inbox.countP (announces id) +
          ((SwarmLoop.issued (turns [(input, output)])).map Prod.fst).count
            id := by
    intro unhandled same
    rw [unhandled, same, Nat.zero_add]
    exact Nat.le_add_right _ _
  cases move with
  | called notResponse taken =>
      obtain ⟨outgoing, elsewhere, same⟩ := carry_eq _ remote _ _
      rw [same] at untouched ⊢
      exact untouched rfl rfl
  | arrived sent taken =>
      have announced := announced_by_loop id taken
      change 0 + (system.inbox ++ sends _).countP _ ≤ _
      rw [List.countP_append, Nat.zero_add]
      exact Nat.add_le_add_left announced _
  | answered commanded taken =>
      have announced := announced_by_loop id taken
      change 0 + (system.inbox ++ sends _).countP _ ≤ _
      rw [List.countP_append, Nat.zero_add]
      exact Nat.add_le_add_left announced _
  | turned notAnswer taken =>
      have announced := announced_by_loop id taken
      change 0 + (system.inbox ++ sends _).countP _ ≤ _
      rw [List.countP_append, Nat.zero_add]
      exact Nat.add_le_add_left announced _
  | @served server place message event effects waits isRequest handled =>
      have removed := countP_eraseIdx (announces id) waits
      rw [handles_of_request isRequest] at removed
      rw [List.countP_singleton, ← removed, handles, Nat.add_comm]
      exact Nat.le_add_right _ _
  | @crashed server place message event exception waits isRequest =>
      have removed := countP_eraseIdx (announces id) waits
      rw [handles_of_request isRequest] at removed
      rw [List.countP_singleton, ← removed, handles, Nat.add_comm]
      exact Nat.le_add_right _ _
  | responded came taken => exact untouched rfl rfl
  | forged sent taken => exact untouched rfl rfl

theorem handled_le_issued
    (run : (remoteCalls vm settings remote).Run trace system) (id : String) :
    trace.countP (handles id) + system.inbox.countP (announces id) ≤
      ((SwarmLoop.issued (turns trace)).map Prod.fst).count id := by
  refine run.invariant (fun trace system =>
    trace.countP (handles id) + system.inbox.countP (announces id) ≤
      ((SwarmLoop.issued (turns trace)).map Prod.fst).count id)
    (Nat.le_refl 0) ?_
  intro trace system input next output reached bound taken
  have entry := (Move.of_step taken).handled_le id
  have appended : turns (trace ++ [(input, output)]) =
      turns trace ++ turns [(input, output)] := List.filterMap_append ..
  rw [List.countP_append, appended, SwarmLoop.issued, List.flatMap_append,
    List.map_append, List.count_append, ← SwarmLoop.issued,
    ← SwarmLoop.issued]
  omega

theorem count_erase {own requestId : String} {payload : Bytes}
    {outgoing : List (String × Bytes)}
    (sent : (requestId, payload) ∈ outgoing) :
    ((outgoing.erase (requestId, payload)).map Prod.fst).count own +
        (if requestId = own then 1 else 0) =
      (outgoing.map Prod.fst).count own := by
  rw [((List.perm_cons_erase sent).map Prod.fst).count_eq, List.map_cons,
    List.count_cons]
  simp only [beq_iff_eq]

theorem Move.arrived_le {next : System} {input : Input format}
    {output : Output}
    (move : Move vm settings remote system input next output) (own : String) :
    [(input, output)].countP (arrives own) +
        (next.outgoing.map Prod.fst).count own ≤
      (system.outgoing.map Prod.fst).count own +
        (asks (input, output)).count own := by
  cases move with
  | @called callInput callers called notResponse taken =>
      change 0 + _ ≤ _
      rw [Nat.zero_add]
      rcases carry_cases taken { system with callers } remote with
        ⟨-, same⟩ | ⟨caller, request, sentId, rfl, carried⟩
      · rw [same]
        exact Nat.le_add_right _ _
      · rw [carried]
        split
        · change ([sentId] ++ system.outgoing.map Prod.fst).count own ≤
            _ + [sentId].count own
          rw [List.count_append, Nat.add_comm]
        · exact Nat.le_add_right _ _
  | @arrived requestId _ payload _ _ _ _ _ _ sent taken =>
      rw [← count_erase sent, List.countP_singleton]
      simp only [arrives, decide_eq_true_eq]
      rw [Nat.add_comm]
      exact Nat.le_add_right _ _
  | answered commanded taken =>
      exact Nat.le_of_eq (Nat.zero_add _)
  | turned notAnswer taken => exact Nat.le_of_eq (Nat.zero_add _)
  | served waits isRequest handled => exact Nat.le_of_eq (Nat.zero_add _)
  | crashed waits isRequest => exact Nat.le_of_eq (Nat.zero_add _)
  | responded came taken => exact Nat.le_of_eq (Nat.zero_add _)
  | forged sent taken => exact Nat.le_of_eq (Nat.zero_add _)

/-- No request arrives more than once. -/
theorem arrived_le_asked
    (run : (remoteCalls vm settings remote).Run trace system) (own : String) :
    trace.countP (arrives own) + (system.outgoing.map Prod.fst).count own ≤
      (trace.flatMap asks).count own := by
  refine run.invariant (fun trace system =>
    trace.countP (arrives own) + (system.outgoing.map Prod.fst).count own ≤
      (trace.flatMap asks).count own) (Nat.le_refl 0) ?_
  intro trace system input next output reached bound taken
  have entry := (Move.of_step taken).arrived_le own
  rw [List.countP_append, List.flatMap_append, List.count_append,
    List.flatMap_singleton]
  omega

theorem length_stored {locals next : SwarmLoop.Locals} {turn : Turn}
    {effects : List SwarmLoop.Effect}
    (movement : SwarmLoop.Movement locals turn next effects) :
    (SwarmLoop.stored effects).length ≤ 1 := by
  cases movement with
  | accepted room =>
      rw [SwarmLoop.stored_issue]
      exact Nat.le_refl 1
  | other noRequest pending counter quiet =>
      rw [quiet.stored]
      exact Nat.zero_le 1
  | evicted now =>
      rw [SwarmLoop.stored_evict]
      exact Nat.zero_le 1
  | answered found => exact Nat.zero_le 1
  | unknown missing => exact Nat.zero_le 1
  | refused => exact Nat.zero_le 1

theorem ids_le_arrived
    (run : (remoteCalls vm settings remote).Run trace system) (own : String) :
    (trace.flatMap (idsOf own)).length ≤ trace.countP (arrives own) := by
  refine run.invariant (fun trace _ =>
    (trace.flatMap (idsOf own)).length ≤ trace.countP (arrives own))
    (Nat.le_refl 0) ?_
  intro trace system input next output reached bound taken
  rw [List.countP_append, List.flatMap_append, List.length_append,
    List.flatMap_singleton]
  apply Nat.add_le_add bound
  cases Move.of_step taken with
  | arrived sent moved =>
      obtain ⟨-, -, movement⟩ := SwarmLoop.step_movement moved
      simp only [idsOf, List.countP_singleton, arrives, decide_eq_true_eq]
      split
      · rw [List.length_map]
        exact length_stored movement
      · exact Nat.le_refl 0
  | _ => exact Nat.zero_le _

end Runs

def timedOutPing : List (Input pingFormat) :=
  [.turn (.command (some (.registerEventHandler 9)) SwarmLoop.noAnswers),
    .caller (.request 1 (Calls.ping .call) (some "OutboundRequestId(1)")),
    .arrive "OutboundRequestId(1)" pingData SwarmLoop.requester
      "InboundRequestId(1)" ⟨10⟩ 0 SwarmLoop.noAnswers,
    .caller (.timeout 1),
    .serve ponger 0]

end ExLibp2p.Otp.RemoteCalls
