import ExLibp2p.Otp.TaskTracker.Accounting

namespace ExLibp2p.Otp.TaskTracker

open ExLibp2p.Data

variable {Pid Peer Value : Type}

/-! Identifiers that were given and will never again be those of certain
pending tasks: no step makes a task pending but the dispatch that names it. -/

structure Barred (barred : Task Peer Value → Prop) (id : String)
    (state : State Pid Peer Value) : Prop where
  given : id ∈ labels "task-" state.counter
  free : ∀ {task}, state.tasks.lookup id = some task → task.isPending →
    ¬ barred task

variable [DecidableEq Peer] {peerLost : Value}

theorem Barred.step {barred : Task Peer Value → Prop} {id : String}
    {state next : State Pid Peer Value} {input : Input Pid Peer Value}
    {output : Output Pid Peer Value} (spent : Barred barred id state)
    (taken : (tracker peerLost).step state input = some (next, output)) :
    Barred barred id next := by
  have change := change_of_step taken
  refine ⟨mem_labels_mono change.counter_le spent.given, ?_⟩
  intro task held pending
  obtain ⟨rfl, -, -⟩ | ⟨before, present, -, same⟩ := change.origin held
  · exact absurd spent.given (next_notMem_labels "task-" state.counter)
  · obtain rfl := same pending
    exact spent.free present pending

theorem Barred.steps {barred : Task Peer Value → Prop} {id : String}
    {state last : State Pid Peer Value} {trace : History Pid Peer Value}
    (steps : (tracker peerLost).Steps state trace last)
    (spent : Barred barred id state) : Barred barred id last :=
  steps.keeps (Barred barred id) (fun spent taken => spent.step taken) spent

/-- What the end of the last connection to a peer does to a state. -/
structure Loses (peerLost : Value) (peerId : Peer) (alive : Pid → Bool)
    (state next : State Pid Peer Value) (output : Output Pid Peer Value) :
    Prop where
  absent : ∀ id, state.tasks.lookup id = none → next.tasks.lookup id = none
  lost : ∀ id task, state.tasks.lookup id = some task → task.isPending →
    task.peerId = peerId →
      next.tasks.lookup id = some { task with status := .failed peerLost }
  untouched : ∀ id task, state.tasks.lookup id = some task →
    ¬ (task.isPending ∧ task.peerId = peerId) →
      next.tasks.lookup id = some task
  counter : next.counter = state.counter
  subscribers : next.subscribers = state.subscribers
  reported : ∃ orphaned : List (Task Peer Value),
    (orphaned.map Task.id).Nodup ∧
    (∀ task, task ∈ orphaned ↔
      ∃ before, HoldsPending state before ∧ before.peerId = peerId ∧
        task = { before with status := .failed peerLost }) ∧
    output =
      { reply := .noreply
        sent := if orphaned.isEmpty then [] else
          (state.subscribers.filter alive).map fun pid =>
            { pid, peerId, orphaned } }

theorem isOrphan_iff {peerId : Peer} {task : Task Peer Value} :
    task.isOrphan peerId = true ↔ task.isPending ∧ task.peerId = peerId := by
  rw [Task.isOrphan, Bool.and_eq_true, decide_eq_true_iff]

section Orphans

variable {trace : History Pid Peer Value} {state next : State Pid Peer Value}
  {peerId : Peer}

theorem Ledger.nodup_orphaned (ledger : Ledger trace state) :
    ((loseTasks peerLost state.tasks peerId).2.map Task.id).Nodup := by
  rw [orphaned_loseTasks, List.map_reverse, List.nodup_reverse, List.map_map]
  exact ledger.nodup_ids _

theorem mem_orphaned {task : Task Peer Value} :
    task ∈ (loseTasks peerLost state.tasks peerId).2 ↔
      ∃ before, HoldsPending state before ∧ before.peerId = peerId ∧
        task = before.lose peerLost := by
  rw [orphaned_loseTasks, List.mem_reverse, List.mem_map]
  constructor
  · intro found
    obtain ⟨entry, member, rfl⟩ := found
    obtain ⟨stored, orphan⟩ := List.mem_filter.mp member
    obtain ⟨pending, same⟩ := isOrphan_iff.mp orphan
    exact ⟨entry.2, ⟨entry.1, Dict.mem_entries_iff.mp stored, pending⟩, same, rfl⟩
  · intro found
    obtain ⟨before, ⟨id, held, pending⟩, same, rfl⟩ := found
    refine ⟨⟨id, before⟩, List.mem_filter.mpr ⟨?_, ?_⟩, rfl⟩
    · exact Dict.mem_entries_iff.mpr held
    · exact isOrphan_iff.mpr ⟨pending, same⟩

theorem notices_eq (alive : Pid → Bool) :
    notices peerLost state peerId alive =
      if (loseTasks peerLost state.tasks peerId).2.isEmpty then [] else
        (state.subscribers.filter alive).map fun pid =>
          { pid, peerId
            orphaned := (loseTasks peerLost state.tasks peerId).2 } := by
  rw [notices]
  cases (loseTasks peerLost state.tasks peerId).2 with
  | nil => rfl
  | cons orphan rest => rfl

theorem loses_of_step {alive : Pid → Bool} {output : Output Pid Peer Value}
    (ledger : Ledger trace state)
    (taken : (tracker peerLost).step state (.connectionClosed peerId 0 alive) =
      some (next, output)) :
    Loses peerLost peerId alive state next output := by
  cases change_of_step taken with
  | kept passive => cases passive
  | lost size lookups =>
      refine ⟨?_, ?_, ?_, rfl, rfl, ?_⟩
      · intro id absent
        rw [lookups, absent]
        rfl
      · intro id task held pending same
        have orphan := isOrphan_iff.mpr ⟨pending, same⟩
        rw [lookups, held, Option.map_some, Task.afterLoss, if_pos orphan]
        rfl
      · intro id task held spared
        have kept := mt isOrphan_iff.mp spared
        rw [lookups, held, Option.map_some, Task.afterLoss, if_neg kept]
      · exact ⟨_, ledger.nodup_orphaned, fun _ => mem_orphaned,
          congrArg (Output.mk .noreply) (notices_eq alive)⟩

theorem mem_of_notified {input : Input Pid Peer Value}
    {output : Output Pid Peer Value} {notice : Notification Pid Peer Value}
    {task : Task Peer Value}
    (taken : (tracker peerLost).step state input = some (next, output))
    (sent : notice ∈ output.sent) (listed : task ∈ notice.orphaned) :
    ∃ peerId alive, input = .connectionClosed peerId 0 alive ∧
      task ∈ (loseTasks peerLost state.tasks peerId).2 := by
  cases change_of_step taken with
  | @lost peerId alive tasks size lookups =>
      rw [notices_eq] at sent
      split at sent
      · cases sent
      · obtain ⟨pid, -, rfl⟩ := List.mem_map.mp sent
        exact ⟨peerId, alive, rfl, listed⟩
  | kept passive unnamed unremoved silent =>
      rw [silent] at sent
      cases sent
  | _ => cases sent

end Orphans

section Runs

variable {trace : History Pid Peer Value} {state : State Pid Peer Value}

theorem barred_of_notified {next : State Pid Peer Value}
    {input : Input Pid Peer Value} {output : Output Pid Peer Value}
    {notice : Notification Pid Peer Value} {task : Task Peer Value}
    (ledger : Ledger trace state)
    (taken : (tracker peerLost).step state input = some (next, output))
    (sent : notice ∈ output.sent) (listed : task ∈ notice.orphaned) :
    Barred (fun _ => True) task.id next := by
  obtain ⟨peerId, alive, rfl, member⟩ := mem_of_notified taken sent listed
  obtain ⟨before, ⟨id, held, pending⟩, same, rfl⟩ := mem_orphaned.mp member
  obtain ⟨rfl, given⟩ := ledger.keyed held
  have loses := loses_of_step ledger taken
  refine ⟨loses.counter.symm ▸ given, ?_⟩
  intro after present stillPending
  rw [show (before.lose peerLost).id = before.id from rfl,
    loses.lost _ _ held pending same] at present
  cases present
  cases stillPending

theorem not_barred_of_notified {next : State Pid Peer Value}
    {input : Input Pid Peer Value} {output : Output Pid Peer Value}
    {notice : Notification Pid Peer Value} {task : Task Peer Value}
    (ledger : Ledger trace state)
    (taken : (tracker peerLost).step state input = some (next, output))
    (sent : notice ∈ output.sent) (listed : task ∈ notice.orphaned) :
    ¬ Barred (fun _ => True) task.id state := by
  intro barred
  obtain ⟨peerId, alive, -, member⟩ := mem_of_notified taken sent listed
  obtain ⟨before, ⟨id, held, pending⟩, -, rfl⟩ := mem_orphaned.mp member
  obtain ⟨rfl, -⟩ := ledger.keyed held
  exact barred.free held pending trivial

theorem Loses.barred {peerId : Peer} {alive : Pid → Bool}
    {next : State Pid Peer Value} {output : Output Pid Peer Value}
    (loses : Loses peerLost peerId alive state next output) {id : String}
    (given : id ∈ labels "task-" state.counter) :
    Barred (fun task => task.peerId = peerId) id next := by
  refine ⟨loses.counter.symm ▸ given, ?_⟩
  intro task present pending same
  cases held : state.tasks.lookup id with
  | none =>
      rw [loses.absent id held] at present
      cases present
  | some before =>
      by_cases orphan : before.isPending = true ∧ before.peerId = peerId
      · rw [loses.lost id before held orphan.1 orphan.2] at present
        cases present
        cases pending
      · rw [loses.untouched id before held orphan] at present
        cases present
        exact orphan ⟨pending, same⟩

/-- Orphan detection over a history. A notification is what one event sends;
every live subscriber gets a copy of it. -/
structure DetectsOrphans (peerLost : Value) (trace : History Pid Peer Value)
    (state : State Pid Peer Value) : Prop where
  last : ∀ peerId alive, ∃ next output,
    (tracker peerLost).step state (.connectionClosed peerId 0 alive) =
        some (next, output) ∧
      Loses peerLost peerId alive state next output
  remaining : ∀ peerId numEstablished alive, 0 < numEstablished →
    (tracker peerLost).step state
        (.connectionClosed peerId numEstablished alive) =
      some (state, { reply := .noreply, sent := [] })
  once : ∀ first entry between later rest,
    trace = first ++ entry :: between ++ later :: rest →
      ∀ notice ∈ entry.2.sent, ∀ other ∈ later.2.sent,
        ∀ task ∈ notice.orphaned, ∀ again ∈ other.orphaned,
          task.id ≠ again.id
  cleared : ∀ first peerId alive output rest,
    trace = first ++ (.connectionClosed peerId 0 alive, output) :: rest →
      ∀ task, HoldsPending state task → task.peerId = peerId →
        task.id ∉ dispatchedIds first

theorem orphans_detected (run : (tracker peerLost).Run trace state) :
    DetectsOrphans peerLost trace state := by
  refine ⟨?_, ?_, ?_, ?_⟩
  · intro peerId alive
    exact ⟨_, _, rfl, loses_of_step (ledger_of_run run) rfl⟩
  · intro peerId numEstablished alive positive
    simp only [tracker, handleConnectionClosed, Nat.ne_of_gt positive, if_false]
  · intro first entry between later rest split notice sent other sentLater
      task listed again listedLater same
    obtain ⟨middle, last, reached, takenLater, -⟩ :=
      Machine.Run.step_of_mem (split ▸ run)
    obtain ⟨before, after, earlier, taken, -, steps⟩ :=
      Machine.Run.step_of_mem reached
    have barred := Barred.steps steps
      (barred_of_notified (ledger_of_run earlier) taken sent listed)
    have notBarred := not_barred_of_notified (ledger_of_run reached) takenLater
      sentLater listedLater
    exact notBarred (same ▸ barred)
  · intro first peerId alive output rest split task found same given
    obtain ⟨id, held, pending⟩ := found
    obtain ⟨before, after, earlier, taken, -, steps⟩ :=
      Machine.Run.step_of_mem (split ▸ run)
    have ledger := ledger_of_run earlier
    rw [ledger.given] at given
    have barred := Barred.steps steps
      ((loses_of_step ledger taken).barred given)
    obtain ⟨rfl, -⟩ := (ledger_of_run run).keyed held
    exact barred.free held pending same

end Runs

/-- A task is lost, completed too late, and dispatched once more before its
peer is lost again. -/
def redispatch : List (Input Nat Nat Nat) :=
  [.call (.subscribe 9) 0,
    .call (.dispatch 1 "resize" 5) 10,
    .connectionClosed 1 0 fun _ => true,
    .call (.complete "task-1") 12,
    .call (.dispatch 1 "resize" 5) 13,
    .connectionClosed 1 0 fun _ => true]

theorem orphans_detected_redispatch :
    ∃ trace state, (tracker 404).Run trace state ∧
      trace.map Prod.fst = redispatch ∧ DetectsOrphans 404 trace state := by
  obtain ⟨trace, state, -, run, inputs⟩ := Machine.exists_run_of_start
    (by decide : ((tracker 404).start redispatch).isSome)
  exact ⟨trace, state, run, inputs, orphans_detected run⟩

/-- A task changes only by leaving `pending`. -/
def Task.Follows (after before : Task Peer Value) : Prop :=
  after = before ∨ (before.isPending ∧ ¬ after.isPending ∧
    ∃ status, after = { before with status })

omit [DecidableEq Peer] in
theorem Task.Follows.trans {last after before : Task Peer Value}
    (later : last.Follows after) (earlier : after.Follows before) :
    last.Follows before := by
  obtain rfl | ⟨pending, left, status, rfl⟩ := earlier
  · exact later
  · obtain rfl | ⟨impossible, -⟩ := later
    · exact .inr ⟨pending, left, status, rfl⟩
    · exact absurd impossible left

/-- A task held under an identifier that was already given is what became of
the task held under it before. -/
structure Evolves (state next : State Pid Peer Value) : Prop where
  counter : state.counter ≤ next.counter
  follows : ∀ {id after}, id ∈ labels "task-" state.counter →
    next.tasks.lookup id = some after →
      ∃ before, state.tasks.lookup id = some before ∧ after.Follows before

omit [DecidableEq Peer] in
theorem Evolves.refl (state : State Pid Peer Value) : Evolves state state where
  counter := Nat.le_refl _
  follows := fun _ held => ⟨_, held, .inl rfl⟩

omit [DecidableEq Peer] in
theorem Evolves.trans {state middle last : State Pid Peer Value}
    (earlier : Evolves state middle) (later : Evolves middle last) :
    Evolves state last := by
  refine ⟨Nat.le_trans earlier.counter later.counter, ?_⟩
  intro id after given held
  obtain ⟨between, present, second⟩ :=
    later.follows (mem_labels_mono earlier.counter given) held
  obtain ⟨before, stored, first⟩ := earlier.follows given present
  exact ⟨before, stored, second.trans first⟩

/-- In every run, what is held under an identifier changes only by leaving
`pending`: from then on it stays as it is for as long as it is held. -/
def Settles (machine : Machine (State Pid Peer Value) (Input Pid Peer Value)
    (Output Pid Peer Value)) : Prop :=
  ∀ first middle second last, machine.Run first middle →
    machine.Steps middle second last →
    ∀ id before after, middle.tasks.lookup id = some before →
      last.tasks.lookup id = some after → after.Follows before

/-- Whether a step leaves every task that is no longer pending as it is. -/
def KeepsSettled (state next : State Pid Peer Value) : Prop :=
  ∀ id before after, state.tasks.lookup id = some before →
    before.isPending = false → next.tasks.lookup id = some after →
      after = before

section Timely

variable {trace : History Pid Peer Value} {state next : State Pid Peer Value}
  {input : Input Pid Peer Value} {output : Output Pid Peer Value}

theorem lookup_of_ending {request : Call Pid Peer Value} {now : Int}
    {taskId : String} {status : Status Value} {task : Task Peer Value}
    (ending : request.ending = some (taskId, status))
    (held : state.tasks.lookup taskId = some task)
    (taken : (tracker peerLost).step state (.call request now) =
      some (next, output)) :
    next.tasks.lookup taskId = some { task with status } := by
  have updated : (updateTaskStatus state taskId status).2 = next := by
    cases request with
    | complete =>
        cases ending
        cases taken
        rfl
    | fail =>
        cases ending
        cases taken
        rfl
    | _ => cases ending
  rw [← updated, updateTaskStatus, held]
  exact AList.lookup_insert _

variable [DecidableEq Value]

/-- A task is completed or failed only while it is pending, or once more with
the status that it has. -/
def timely (state : State Pid Peer Value) (input : Input Pid Peer Value) : Bool :=
  match input with
  | .call request _ =>
      match request.ending with
      | some (taskId, status) =>
          (state.tasks.lookup taskId).all fun task =>
            task.isPending || task.status = status
      | none => true
  | _ => true

omit [DecidableEq Peer] in
theorem timely_of_ending {request : Call Pid Peer Value} {now : Int}
    {taskId : String} {status : Status Value} {task : Task Peer Value}
    (ending : request.ending = some (taskId, status))
    (held : state.tasks.lookup taskId = some task) :
    timely state (.call request now) ↔
      task.isPending ∨ task.status = status := by
  simp only [timely, ending, held, Option.all_some, Bool.or_eq_true,
    decide_eq_true_iff]

theorem Change.evolves (change : Change peerLost state input next output)
    (inTime : timely state input) : Evolves state next := by
  refine ⟨change.counter_le, ?_⟩
  intro id after given held
  cases change with
  | dispatched peerId target message now =>
      rw [Dict.lookup_insert_ite] at held
      split at held
      · rename_i same
        subst same
        exact absurd given (next_notMem_labels "task-" state.counter)
      · exact ⟨after, held, .inl rfl⟩
  | @ended request now taskId status task ending present =>
      rw [Dict.lookup_insert_ite] at held
      split at held
      · rename_i same
        cases held
        refine ⟨task, same ▸ present, ?_⟩
        obtain pending | repeated := (timely_of_ending ending present).mp inTime
        · refine .inr ⟨pending, ?_, status, rfl⟩
          cases status with
          | pending => exact absurd rfl (Call.not_pending_of_ending ending)
          | _ => exact Bool.false_ne_true
        · cases repeated
          exact .inl rfl
      · exact ⟨after, held, .inl rfl⟩
  | cleaned now =>
      rw [Dict.lookup_retain, Option.filter_eq_some_iff] at held
      exact ⟨after, held.1, .inl rfl⟩
  | @lost peerId alive tasks size lookups =>
      obtain ⟨before, present, rfl⟩ :=
        Option.map_eq_some_iff.mp ((lookups id).symm.trans held)
      refine ⟨before, present, ?_⟩
      rw [Task.afterLoss]
      split
      · rename_i orphan
        exact .inr ⟨(isOrphan_iff.mp orphan).1, Bool.false_ne_true, _, rfl⟩
      · exact .inl rfl
  | kept => exact ⟨after, held, .inl rfl⟩

theorem keepsSettled_iff_timely (ledger : Ledger trace state)
    (taken : (tracker peerLost).step state input = some (next, output)) :
    KeepsSettled state next ↔ timely state input := by
  constructor
  · intro keeps
    cases input with
    | call request now =>
        cases ending : request.ending with
        | none => simp only [timely, ending]
        | some ended =>
            obtain ⟨taskId, status⟩ := ended
            cases held : state.tasks.lookup taskId with
            | none => simp only [timely, ending, held, Option.all_none]
            | some task =>
                rw [timely_of_ending ending held]
                cases pending : task.isPending with
                | true => exact .inl rfl
                | false =>
                    have after := lookup_of_ending ending held taken
                    have same := keeps taskId task _ held pending after
                    exact .inr (congrArg Task.status same).symm
    | _ => rfl
  · intro inTime id before after held left present
    have evolves := (change_of_step taken).evolves inTime
    obtain ⟨stored, found, follows⟩ :=
      evolves.follows (ledger.keyed held).2 present
    rw [held] at found
    cases found
    obtain same | ⟨pending, -⟩ := follows
    · exact same
    · rw [left] at pending
      cases pending

/-- Statuses settle in every run in which no call to complete or to fail a
task comes too late, and a step that comes too late is exactly one that
changes a settled task. -/
theorem statuses_settle_of_timely (peerLost : Value) :
    Settles ((tracker peerLost : Machine (State Pid Peer Value) _ _).guard
        fun state input => timely state input) ∧
      ∀ trace state input next output,
        (tracker peerLost : Machine (State Pid Peer Value) _ _).Run trace state →
        (tracker peerLost).step state input = some (next, output) →
          (KeepsSettled state next ↔ timely state input) := by
  constructor
  · intro first middle second last run steps id before after held present
    have evolves : Evolves middle last := by
      apply steps.keeps (Evolves middle) _ (.refl middle)
      intro state input next output earlier taken
      obtain ⟨inTime, taken⟩ := Machine.guard_step.mp taken
      exact earlier.trans ((change_of_step taken).evolves inTime)
    have ledger : Ledger first middle := by
      apply run.invariant Ledger .init
      intro trace state input next output _ ledger taken
      exact ledger.step (Machine.guard_step.mp taken).2
    obtain ⟨stored, found, follows⟩ :=
      evolves.follows (ledger.keyed held).2 present
    rw [held] at found
    cases found
    exact follows
  · intro trace state input next output run taken
    exact keepsSettled_iff_timely (ledger_of_run run) taken

end Timely

def reportedLoss : List (Input Nat Nat Nat) :=
  [.call (.subscribe 9) 0,
    .call (.dispatch 1 "resize" 5) 10,
    .connectionClosed 1 0 fun _ => true]

/-- A late completion turns the task that was reported as lost into a
completed one. -/
theorem lateCompletion_unsettled :
    ¬ Settles (tracker 404 : Machine (State Nat Nat Nat) _ _) := by
  intro settles
  obtain ⟨trace, middle, started, run, -⟩ := Machine.exists_run_of_start
    (by decide : ((tracker 404).start reportedLoss).isSome)
  have failed : ((tracker 404).start reportedLoss).map (fun result =>
      (result.2.tasks.lookup "task-1").map Task.status) =
        some (some (.failed 404)) := by decide
  rw [started] at failed
  obtain ⟨before, held, status⟩ :=
    Option.map_eq_some_iff.mp (Option.some.inj failed)
  have completed : (tracker 404).step middle (.call (.complete "task-1") 12) =
      some (_, _) := rfl
  have present := lookup_of_ending rfl held completed
  have follows := settles _ _ _ _ run (.snoc .nil completed) "task-1" _ _
    held present
  obtain same | ⟨pending, -⟩ := follows
  · have impossible := congrArg Task.status same
    rw [status] at impossible
    cases impossible
  · rw [Task.isPending, status] at pending
    cases pending

end ExLibp2p.Otp.TaskTracker
