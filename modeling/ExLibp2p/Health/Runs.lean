import ExLibp2p.Health
import ExLibp2p.Node.Replies
import Mathlib.Algebra.GroupWithZero.Nat

namespace ExLibp2p.Health

open ExLibp2p.Data
open ExLibp2p.Erlang
open ExLibp2p.Call

/-! Runs of the periodic check: what it counts, and that it goes on. -/

abbrev History := List (Input × Output)

def Effect.event? : Effect → Option TelemetryEvent
  | .execute event => some event
  | .sendAfter _ => none

/-- The event of a periodic check. A check on demand has none. -/
def Output.event? : Output → Option TelemetryEvent
  | .performed effects => effects.findSome? Effect.event?
  | _ => none

def TelemetryEvent.isFailure : TelemetryEvent → Bool
  | .check _ _ => false
  | .checkFailed _ _ => true

def isPeriodic (entry : Input × Output) : Bool :=
  entry.2.event?.isSome

def isFailed (entry : Input × Output) : Bool :=
  entry.2.event?.any TelemetryEvent.isFailure

/-- The periodic checks that failed since the last one that did not. -/
def failures (trace : History) : Nat :=
  streak isPeriodic isFailed trace

def Message.isCheck : Message → Bool
  | .info (.atom "check") => true
  | _ => false

inductive Move (system : System) : Input → System → Output → Prop
  | expired (running : 0 < system.timers) :
      Move system .expire
        { system with
          timers := system.timers - 1
          mailbox := system.mailbox ++ [.info (.atom "check")] } .done
  | sent (message : Message) :
      Move system (.send message)
        { system with mailbox := system.mailbox ++ [message] } .done
  | asked {answers : Query → Outcome} {state : State} {request : Term}
      {rest : List Message} {status : Except Term Status}
      (server : system.server = some state)
      (oldest : system.mailbox = .call request :: rest) :
      Move system (.handle answers)
        { system with server := some state, mailbox := rest }
        (.replied status)
  | checked {answers : Query → Outcome} {state next : State}
      {rest : List Message} {event : TelemetryEvent}
      (server : system.server = some state)
      (oldest : system.mailbox = .info (.atom "check") :: rest)
      (looked : checked answers state = .ok (event, next)) :
      Move system (.handle answers)
        { server := some next, timers := system.timers + 1, mailbox := rest }
        (.performed [.execute event, .sendAfter next.interval])
  | crashed {answers : Query → Outcome} {state : State} {message : Message}
      {rest : List Message} {exception : Exception}
      (server : system.server = some state)
      (oldest : system.mailbox = message :: rest)
      (raised : system.receive state rest answers message =
        system.crash rest message exception) :
      Move system (.handle answers)
        { system with server := none, mailbox := rest }
        (.crashed message exception)

section Steps

variable {system next : System} {input : Input} {output : Output}
  {answers : Query → Outcome} {state : State}

theorem handleCall_state {request : Term} {status : Except Term Status}
    {after : State}
    (handled : handleCall answers state request = .ok (status, after)) :
    after = state := by
  unfold handleCall at handled
  split at handled
  · obtain ⟨found, -, same⟩ := bind_eq_ok.mp handled
    cases same
    rfl
  · cases handled

theorem handleInfo_eq_ok {message : Term} {effects : List Effect}
    {after : State}
    (handled : handleInfo answers state message = .ok (effects, after)) :
    message = .atom "check" ∧ ∃ event,
      checked answers state = .ok (event, after) ∧
        effects = [.execute event, .sendAfter after.interval] := by
  unfold handleInfo at handled
  split at handled
  · obtain ⟨⟨event, checkedState⟩, looked, same⟩ := bind_eq_ok.mp handled
    cases same
    exact ⟨rfl, event, looked, rfl⟩
  · cases handled

theorem Move.of_receive {message : Message} {rest : List Message}
    (server : system.server = some state)
    (oldest : system.mailbox = message :: rest)
    (received : system.receive state rest answers message = (next, output)) :
    Move system (.handle answers) next output := by
  have whole := received
  cases message with
  | call request =>
      simp only [System.receive] at received
      split at received
      · rename_i exception raised
        cases received
        exact .crashed server oldest whole
      · rename_i status after handled
        cases received
        rw [handleCall_state handled]
        exact .asked server oldest
  | info message =>
      simp only [System.receive] at received
      split at received
      · rename_i exception raised
        cases received
        exact .crashed server oldest whole
      · rename_i effects after handled
        obtain ⟨rfl, event, looked, rfl⟩ := handleInfo_eq_ok handled
        cases received
        exact .checked server oldest looked

theorem Move.of_step (taken : step system input = some (next, output)) :
    Move system input next output := by
  cases input with
  | expire =>
      simp only [step] at taken
      split at taken
      · rename_i running
        cases taken
        exact .expired running
      · cases taken
  | send message =>
      cases taken
      exact .sent message
  | handle answers =>
      simp only [step] at taken
      split at taken
      · rename_i state message rest server oldest
        exact .of_receive server oldest (Option.some.inj taken)
      · cases taken

theorem checked_eq_ok {event : TelemetryEvent} {after : State}
    (looked : checked answers state = .ok (event, after)) :
    (∃ connectedPeers peerId, event = .check connectedPeers peerId ∧
        after = { state with consecutiveFailures := 0 }) ∨
      ∃ reason, event = .checkFailed (state.consecutiveFailures + 1) reason ∧
        after = { state with
          consecutiveFailures := state.consecutiveFailures + 1 } := by
  obtain ⟨found, -, matched⟩ := bind_eq_ok.mp looked
  split at matched
  · obtain ⟨connectedPeers, -, same⟩ := bind_eq_ok.mp matched
    cases same
    exact .inl ⟨_, _, rfl, rfl⟩
  · cases matched
    exact .inr ⟨_, rfl, rfl⟩
  · cases matched

def Counted (trace : History) (system : System) : Prop :=
  ∀ state, system.server = some state →
    state.consecutiveFailures = failures trace

theorem Counted.quiet {trace : History} {entry : Input × Output}
    (counted : Counted trace system) (same : next.server = system.server)
    (silent : entry.2.event? = none) :
    Counted (trace ++ [entry]) next := by
  intro state server
  have ignored : isPeriodic entry = false := by
    rw [isPeriodic, silent]
    rfl
  rw [failures, streak_ignored ignored]
  exact counted state (same ▸ server)

theorem Counted.move {trace : History} (counted : Counted trace system)
    (move : Move system input next output) :
    Counted (trace ++ [(input, output)]) next := by
  cases move with
  | expired running => exact counted.quiet rfl rfl
  | sent message => exact counted.quiet rfl rfl
  | asked server oldest => exact counted.quiet server.symm rfl
  | checked server oldest looked =>
      intro state same
      cases same
      rcases checked_eq_ok looked with
        ⟨connectedPeers, peerId, rfl, rfl⟩ | ⟨reason, rfl, rfl⟩
      · exact (streak_ends rfl rfl).symm
      · rw [failures, streak_grows rfl rfl]
        exact congrArg (· + 1) (counted _ server)
  | crashed server oldest raised =>
      intro state impossible
      cases impossible

end Steps

section Runs

variable {node : Term} {interval : Nat} {trace : History} {system : System}

theorem Counted.of_run (run : (health node interval).Run trace system) :
    Counted trace system := by
  apply run.invariant Counted
  · intro state same
    cases same
    rfl
  · intro trace state input next output _ counted taken
    exact counted.move (.of_step taken)

/-- The state and every reported failure count exactly the periodic checks that
failed since the last good one, whatever is asked on demand in between. -/
theorem failures_counted (node : Term) (interval : Nat) :
    (∀ trace system, (health node interval).Run trace system →
      ∀ state, system.server = some state →
        state.consecutiveFailures = failures trace) ∧
    ∀ earlier input output later system,
      (health node interval).Run (earlier ++ (input, output) :: later) system →
        ∀ count reason, output.event? = some (.checkFailed count reason) →
          count = failures earlier + 1 := by
  refine ⟨fun trace system run => Counted.of_run run, ?_⟩
  intro earlier input output later system run count reason reported
  obtain ⟨before, after, reached, taken, -⟩ := run.step_of_mem
  cases Move.of_step taken with
  | checked server oldest looked =>
      rw [← Counted.of_run reached _ server]
      rcases checked_eq_ok looked with
        ⟨connectedPeers, peerId, rfl, -⟩ | ⟨reason, rfl, -⟩
      · cases reported
      · cases reported
        rfl
  | _ => cases reported

end Runs

def System.pendingChecks (system : System) : Nat :=
  system.timers + system.mailbox.countP Message.isCheck

def injected (entry : Input × Output) : Nat :=
  match entry.1 with
  | .send message => if message.isCheck then 1 else 0
  | _ => 0

def lost (entry : Input × Output) : Nat :=
  match entry.2 with
  | .crashed message _ => if message.isCheck then 1 else 0
  | _ => 0

section Pending

variable {node : Term} {interval : Nat} {trace : History}
  {system next : System} {input : Input} {output : Output}
  {answers : Query → Outcome}

theorem Move.booked (move : Move system input next output) :
    next.pendingChecks + lost (input, output) =
      system.pendingChecks + injected (input, output) := by
  cases move with
  | expired running =>
      simp only [System.pendingChecks, lost, injected, List.countP_append,
        List.countP_singleton, Message.isCheck, if_pos]
      omega
  | sent message =>
      simp only [System.pendingChecks, lost, injected, List.countP_append,
        List.countP_singleton]
      omega
  | asked server oldest =>
      simp only [System.pendingChecks, lost, injected, oldest,
        List.countP_cons, Message.isCheck, Bool.false_eq_true, if_false]
      omega
  | checked server oldest looked =>
      simp only [System.pendingChecks, lost, injected, oldest,
        List.countP_cons, Message.isCheck, if_pos]
      omega
  | crashed server oldest raised =>
      simp only [System.pendingChecks, lost, injected, oldest,
        List.countP_cons]
      omega

theorem pendingChecks_of_run
    (run : (health node interval).Run trace system) :
    system.pendingChecks + (trace.map lost).sum =
      1 + (trace.map injected).sum :=
  run.balance System.pendingChecks injected lost
    fun taken => (Move.of_step taken).booked

def FromNode (answers : Query → Outcome) : Prop :=
  ∀ query, (∃ reason, answers query = .exited reason) ∨
    ∃ state reply next,
      Node.handleCall state query.message = .ok (reply, next) ∧
        answers query = .replied reply.toTerm

def Peaceful : Input → Prop
  | .expire => True
  | .send message =>
      message = .info (.atom "check") ∨ message = .call (.atom "check")
  | .handle answers => FromNode answers

theorem FromNode.answer (fromNode : FromNode answers) (query : Query) :
    (∃ reason, answers query = .exited reason) ∨
      ∃ value, answers query = .replied (.ok value) ∧
        (query = .connectedPeers → ∃ elements, value = .list elements) := by
  rcases fromNode query with exited | ⟨state, reply, next, handled, replied⟩
  · exact .inl exited
  · right
    cases query with
    | peerId =>
        cases handled
        exact ⟨_, replied, fun impossible => nomatch impossible⟩
    | connectedPeers =>
        obtain ⟨peers, -, same⟩ := bind_eq_ok.mp handled
        cases same
        exact ⟨_, replied, fun _ => ⟨_, rfl⟩⟩
    | listeningAddrs =>
        cases handled
        exact ⟨_, replied, fun impossible => nomatch impossible⟩

theorem length_list (elements : List Term) :
    length (.list elements) = .ok elements.length := by
  induction elements with
  | nil => rfl
  | cons head tail induction =>
      change (length (.list tail) >>= _) = _
      rw [induction]
      rfl

theorem checked_of_unavailable {state : State} {reason : Term}
    (collected : collectStatus answers =
      .ok (.error (nodeUnavailable reason))) :
    checked answers state = .ok
      (.checkFailed (state.consecutiveFailures + 1)
        (.tuple [.atom "node_unavailable", reason]),
      { state with consecutiveFailures := state.consecutiveFailures + 1 }) := by
  rw [checked, collected]
  rfl

theorem checked_of_status {state : State} {status : Status}
    {elements : List Term} (collected : collectStatus answers = .ok (.ok status))
    (isList : status.connectedPeers = .list elements) :
    checked answers state = .ok (.check elements.length status.peerId,
      { state with consecutiveFailures := 0 }) := by
  rw [checked, collected]
  change (length status.connectedPeers >>= _) = _
  rw [isList, length_list]
  rfl

/-- Against a node a check fails exactly when one of its calls exits, and it
never raises. -/
theorem checked_of_fromNode (fromNode : FromNode answers) (state : State) :
    ∃ event after, checked answers state = .ok (event, after) ∧
      (event.isFailure = true ↔
        ∃ query reason, answers query = .exited reason) := by
  rcases fromNode.answer .peerId with ⟨reason, exited⟩ | ⟨peerId, first, -⟩
  · exact ⟨_, _, checked_of_unavailable (by rw [collectStatus, exited]; rfl),
      iff_of_true rfl ⟨_, _, exited⟩⟩
  rcases fromNode.answer .connectedPeers with
    ⟨reason, exited⟩ | ⟨peers, second, isList⟩
  · exact ⟨_, _,
      checked_of_unavailable (by rw [collectStatus, first, exited]; rfl),
      iff_of_true rfl ⟨_, _, exited⟩⟩
  rcases fromNode.answer .listeningAddrs with
    ⟨reason, exited⟩ | ⟨addrs, third, -⟩
  · exact ⟨_, _,
      checked_of_unavailable (by rw [collectStatus, first, second, exited]; rfl),
      iff_of_true rfl ⟨_, _, exited⟩⟩
  · obtain ⟨elements, isPeers⟩ := isList rfl
    have collected : collectStatus answers =
        .ok (.ok ⟨peerId, peers, addrs⟩) := by
      rw [collectStatus, first, second, third]
      rfl
    refine ⟨_, _, checked_of_status collected isPeers,
      iff_of_false Bool.false_ne_true ?_⟩
    intro found
    obtain ⟨query, reason, exited⟩ := found
    cases query with
    | peerId =>
        rw [first] at exited
        cases exited
    | connectedPeers =>
        rw [second] at exited
        cases exited
    | listeningAddrs =>
        rw [third] at exited
        cases exited

/-- The process runs, and only checks wait for it. -/
structure Serving (trace : History) (system : System) : Prop where
  running : ∃ state, system.server = some state
  mailbox : ∀ message ∈ system.mailbox,
    message = .info (.atom "check") ∨ message = .call (.atom "check")
  survived : ∀ entry ∈ trace, ∀ message exception,
    entry.2 ≠ .crashed message exception

theorem receive_check {state : State} {rest : List Message} {message : Message}
    (fromNode : FromNode answers)
    (isCheck : message = .info (.atom "check") ∨
      message = .call (.atom "check")) :
    ∃ after output, system.receive state rest answers message =
        (after, output) ∧
      (∃ kept, after.server = some kept) ∧ after.mailbox = rest ∧
      ∀ crashing exception, output ≠ .crashed crashing exception := by
  obtain ⟨event, after, looked, -⟩ := checked_of_fromNode fromNode state
  rcases isCheck with rfl | rfl
  · have handled : handleInfo answers state (.atom "check") =
        .ok ([.execute event, .sendAfter after.interval], after) := by
      rw [handleInfo, looked]
      rfl
    refine ⟨_, _, by rw [System.receive, handled], ⟨_, rfl⟩, rfl, ?_⟩
    intro crashing exception impossible
    cases impossible
  · obtain ⟨status, collected, -⟩ := bind_eq_ok.mp looked
    have handled : handleCall answers state (.atom "check") =
        .ok (status, state) := by
      rw [handleCall, collected]
      rfl
    refine ⟨_, _, by rw [System.receive, handled], ⟨_, rfl⟩, rfl, ?_⟩
    intro crashing exception impossible
    cases impossible

theorem mem_snoc {property : Input × Output → Prop}
    (earlier : ∀ entry ∈ trace, property entry)
    (last : property (input, output)) :
    ∀ entry ∈ trace ++ [(input, output)], property entry := by
  intro entry member
  rcases List.mem_append.mp member with before | now
  · exact earlier entry before
  · rw [List.mem_singleton.mp now]
    exact last

theorem Serving.step (serving : Serving trace system)
    (peaceful : Peaceful input)
    (taken : step system input = some (next, output)) :
    Serving (trace ++ [(input, output)]) next := by
  have checkFirst : Message.info (.atom "check") = .info (.atom "check") ∨
      Message.info (.atom "check") = .call (.atom "check") := .inl rfl
  cases input with
  | expire =>
      cases Move.of_step taken with
      | expired running =>
          refine ⟨serving.running, ?_, mem_snoc serving.survived
            fun _ _ impossible => nomatch impossible⟩
          exact List.forall_mem_append.mpr
            ⟨serving.mailbox, List.forall_mem_singleton.mpr checkFirst⟩
  | send message =>
      cases taken
      refine ⟨serving.running, ?_, mem_snoc serving.survived
        fun _ _ impossible => nomatch impossible⟩
      exact List.forall_mem_append.mpr
        ⟨serving.mailbox, List.forall_mem_singleton.mpr peaceful⟩
  | handle answers =>
      simp only [Health.step] at taken
      split at taken
      · rename_i state message rest server oldest
        have isCheck :=
          serving.mailbox message (oldest ▸ List.mem_cons_self)
        obtain ⟨after, given, received, kept, left, survived⟩ :
            ∃ after given, system.receive state rest answers message =
                (after, given) ∧ _ :=
          receive_check peaceful isCheck
        rw [received] at taken
        cases taken
        refine ⟨kept, ?_, mem_snoc serving.survived survived⟩
        intro waiting member
        rw [left] at member
        exact serving.mailbox waiting (oldest ▸ List.mem_cons_of_mem _ member)
      · cases taken

theorem Serving.of_run (run : (health node interval).Run trace system)
    (peaceful : ∀ entry ∈ trace, Peaceful entry.1) :
    Serving trace system := by
  induction run with
  | nil =>
      exact ⟨⟨_, rfl⟩, List.forall_mem_nil _, List.forall_mem_nil _⟩
  | snoc earlier taken induction =>
      have parts := List.forall_mem_append.mp peaceful
      exact (induction parts.1).step
        (parts.2 _ List.mem_cons_self) taken

theorem lost_of_survived
    (survived : ∀ entry ∈ trace, ∀ message exception,
      entry.2 ≠ .crashed message exception) :
    (trace.map lost).sum = 0 := by
  apply List.sum_eq_zero
  intro amount member
  obtain ⟨⟨input, output⟩, listed, rfl⟩ := List.mem_map.mp member
  cases output with
  | crashed message exception => exact absurd rfl (survived _ listed _ _)
  | _ => rfl

end Pending

def homeNode : Node.State where
  handle := 1
  peerId := Node.localPeer
  native := fun _ call =>
    match call with
    | .connectedPeers => .nil
    | _ => .list [.text "/ip4/127.0.0.1/tcp/0"]

def present : Query → Outcome
  | .peerId => .replied (.ok homeNode.peerId.toTerm)
  | .connectedPeers => .replied (.ok .nil)
  | .listeningAddrs => .replied (.ok (.list [.text "/ip4/127.0.0.1/tcp/0"]))

def absent : Query → Outcome := fun _ =>
  .exited (.tuple [.atom "noproc", .nil])

theorem fromNode_present : FromNode present := by
  intro query
  cases query with
  | peerId => exact .inr ⟨homeNode, _, _, rfl, rfl⟩
  | connectedPeers => exact .inr ⟨homeNode, _, _, rfl, rfl⟩
  | listeningAddrs => exact .inr ⟨homeNode, _, _, rfl, rfl⟩

theorem fromNode_absent : FromNode absent :=
  fun _ => .inl ⟨_, rfl⟩

/-- Two failures around a question on demand, and a check from outside. -/
def outage : List Input :=
  [.expire, .handle absent, .send (.call (.atom "check")), .handle present,
    .send (.info (.atom "check")), .handle absent, .expire, .handle present]

theorem failures_counted_outage :
    ∃ trace system, (health (.atom "node") 30000).Run trace system ∧
      trace.map Prod.fst = outage ∧
      ∀ state, system.server = some state →
        state.consecutiveFailures = failures trace := by
  obtain ⟨trace, system, -, run, inputs⟩ := Machine.exists_run_of_start
    (by rfl : ((health (.atom "node") 30000).start outage).isSome)
  exact ⟨trace, system, run, inputs,
    (failures_counted (.atom "node") 30000).1 trace system run⟩

end ExLibp2p.Health
