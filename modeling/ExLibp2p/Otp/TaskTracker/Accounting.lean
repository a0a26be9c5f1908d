import ExLibp2p.Data.Label
import ExLibp2p.Otp.TaskTracker
import Mathlib.Algebra.Ring.Nat

namespace ExLibp2p.Otp.TaskTracker

open ExLibp2p.Data

variable {Pid Peer Value : Type}

def Call.ending : Call Pid Peer Value → Option (String × Status Value)
  | .complete taskId => some (taskId, .completed)
  | .fail taskId reason => some (taskId, .failed reason)
  | _ => none

theorem Call.not_pending_of_ending {request : Call Pid Peer Value}
    {taskId : String} {status : Status Value}
    (ending : request.ending = some (taskId, status)) : status ≠ .pending := by
  cases request with
  | complete =>
      cases ending
      intro impossible
      cases impossible
  | fail =>
      cases ending
      intro impossible
      cases impossible
  | _ => cases ending

def Input.isDispatch : Input Pid Peer Value → Bool
  | .call (.dispatch ..) _ => true
  | _ => false

/-- Whether the message can neither add, remove nor lose a task. -/
def Input.isPassive : Input Pid Peer Value → Bool
  | .call (.dispatch ..) _ => false
  | .call .cleanup _ => false
  | .connectionClosed _ 0 _ => false
  | _ => true

theorem Input.not_dispatch_of_passive {input : Input Pid Peer Value}
    (passive : input.isPassive) : input.isDispatch = false := by
  cases input with
  | call request now =>
      cases request with
      | dispatch => cases passive
      | _ => rfl
  | _ => rfl

def Output.dispatchedId (output : Output Pid Peer Value) : Option String :=
  match output.reply with
  | .dispatched id => some id
  | _ => none

def Output.removed (output : Output Pid Peer Value) : Nat :=
  match output.reply with
  | .removed count => count
  | _ => 0

section Histories

abbrev History (Pid Peer Value : Type) :=
  List (Input Pid Peer Value × Output Pid Peer Value)

def dispatchedIds (trace : History Pid Peer Value) : List String :=
  trace.filterMap fun entry => entry.2.dispatchedId

def dispatches (trace : History Pid Peer Value) : Nat :=
  trace.countP fun entry => entry.1.isDispatch

def removedIn (trace : History Pid Peer Value) : Nat :=
  (trace.map fun entry => entry.2.removed).sum

variable (trace : History Pid Peer Value) (input : Input Pid Peer Value)
  (output : Output Pid Peer Value)

theorem dispatchedIds_snoc :
    dispatchedIds (trace ++ [(input, output)]) =
      dispatchedIds trace ++ output.dispatchedId.toList := by
  rw [dispatchedIds, dispatchedIds, List.filterMap_append]
  cases named : output.dispatchedId with
  | none => simp [named]
  | some id => simp [named]

theorem dispatches_snoc :
    dispatches (trace ++ [(input, output)]) =
      dispatches trace + if input.isDispatch then 1 else 0 := by
  rw [dispatches, dispatches, List.countP_append, List.countP_singleton]

theorem removedIn_snoc :
    removedIn (trace ++ [(input, output)]) =
      removedIn trace + output.removed := by
  simp [removedIn]

end Histories

/-- Every identifier up to the counter was given once, the tasks bear theirs,
and those that are gone were counted by a cleanup. -/
structure Ledger (trace : History Pid Peer Value)
    (state : State Pid Peer Value) : Prop where
  given : dispatchedIds trace = labels "task-" state.counter
  counted : dispatches trace = state.counter
  keyed : ∀ {id task}, state.tasks.lookup id = some task →
    task.id = id ∧ id ∈ labels "task-" state.counter
  balanced : dispatches trace = state.tasks.size + removedIn trace

theorem Ledger.init : Ledger [] (State.init : State Pid Peer Value) where
  given := rfl
  counted := rfl
  keyed := fun held => nomatch held
  balanced := rfl

theorem Ledger.fresh {trace : History Pid Peer Value}
    {state : State Pid Peer Value} (ledger : Ledger trace state) :
    state.tasks.lookup (taskId (state.counter + 1)) = none := by
  rw [Option.eq_none_iff_forall_ne_some]
  intro task held
  exact next_notMem_labels "task-" state.counter (ledger.keyed held).2

def HoldsPending (state : State Pid Peer Value) (task : Task Peer Value) : Prop :=
  ∃ id, state.tasks.lookup id = some task ∧ task.isPending

theorem mem_pendingTasks {state : State Pid Peer Value}
    {extraFilter : Task Peer Value → Bool} {task : Task Peer Value} :
    task ∈ pendingTasks state extraFilter ↔
      HoldsPending state task ∧ extraFilter task := by
  simp only [pendingTasks, List.mem_map, List.mem_filter, Bool.and_eq_true]
  constructor
  · intro found
    obtain ⟨entry, ⟨member, pending, chosen⟩, rfl⟩ := found
    exact ⟨⟨entry.1, Dict.mem_entries_iff.mp member, pending⟩, chosen⟩
  · intro found
    obtain ⟨⟨id, held, pending⟩, chosen⟩ := found
    exact ⟨⟨id, task⟩, ⟨Dict.mem_entries_iff.mpr held, pending, chosen⟩, rfl⟩

abbrev Entry (Peer Value : Type) :=
  Sigma fun _ : String => Task Peer Value

theorem Ledger.nodup_ids {trace : History Pid Peer Value}
    {state : State Pid Peer Value} (ledger : Ledger trace state)
    (keep : Entry Peer Value → Bool) :
    ((state.tasks.entries.filter keep).map fun entry => entry.2.id).Nodup := by
  have ids : (state.tasks.entries.filter keep).map (fun entry => entry.2.id) =
      (state.tasks.entries.filter keep).map Sigma.fst := by
    apply List.map_congr_left
    intro entry member
    have held := Dict.mem_entries_iff.mp (List.mem_filter.mp member).1
    exact (ledger.keyed held).1
  rw [ids]
  exact List.Nodup.sublist (List.filter_sublist.map _) state.tasks.keys_nodup

theorem Ledger.nodup_pendingTasks {trace : History Pid Peer Value}
    {state : State Pid Peer Value} (ledger : Ledger trace state)
    (extraFilter : Task Peer Value → Bool) :
    (pendingTasks state extraFilter).Nodup := by
  apply List.Nodup.of_map Task.id
  rw [pendingTasks, List.map_map]
  exact ledger.nodup_ids _

variable [DecidableEq Peer]

section Loss

variable (peerLost : Value) (peerId : Peer)

def Task.afterLoss (task : Task Peer Value) : Task Peer Value :=
  if task.isOrphan peerId then task.lose peerLost else task

def loseEntry (acc : Dict String (Task Peer Value) × List (Task Peer Value))
    (entry : Entry Peer Value) :
    Dict String (Task Peer Value) × List (Task Peer Value) :=
  if entry.2.isOrphan peerId then
    (acc.1.insert entry.1 (entry.2.lose peerLost),
      entry.2.lose peerLost :: acc.2)
  else
    acc

theorem loseTasks_eq_foldl (tasks : Dict String (Task Peer Value)) :
    loseTasks peerLost tasks peerId =
      tasks.entries.foldl (loseEntry peerLost peerId) (tasks, []) := rfl

theorem lookup_foldl_loseEntry {entries : List (Entry Peer Value)}
    (distinct : entries.NodupKeys)
    (acc : Dict String (Task Peer Value) × List (Task Peer Value))
    (id : String) :
    (entries.foldl (loseEntry peerLost peerId) acc).1.lookup id =
      match entries.dlookup id with
      | some task =>
          if task.isOrphan peerId then some (task.lose peerLost)
          else acc.1.lookup id
      | none => acc.1.lookup id := by
  induction entries generalizing acc with
  | nil => rfl
  | cons entry rest induction =>
      obtain ⟨key, task⟩ := entry
      obtain ⟨fresh, restDistinct⟩ := List.nodupKeys_cons.mp distinct
      rw [List.foldl_cons, induction restDistinct]
      by_cases same : id = key
      · subst same
        rw [List.dlookup_eq_none.mpr fresh, List.dlookup_cons_eq]
        by_cases orphan : task.isOrphan peerId = true
        · simp [loseEntry, orphan]
        · simp [loseEntry, orphan]
      · rw [List.dlookup_cons_ne rest ⟨key, task⟩ same]
        by_cases orphan : task.isOrphan peerId = true
        · simp [loseEntry, orphan, same]
        · simp [loseEntry, orphan]

theorem size_foldl_loseEntry {entries : List (Entry Peer Value)}
    {acc : Dict String (Task Peer Value) × List (Task Peer Value)}
    (held : ∀ entry ∈ entries, (acc.1.lookup entry.1).isSome) :
    (entries.foldl (loseEntry peerLost peerId) acc).1.size = acc.1.size := by
  induction entries generalizing acc with
  | nil => rfl
  | cons entry rest induction =>
      obtain ⟨headHeld, restHeld⟩ := List.forall_mem_cons.mp held
      rw [List.foldl_cons]
      by_cases orphan : entry.2.isOrphan peerId = true
      · rw [loseEntry, if_pos orphan, induction]
        · exact Dict.size_insert_of_mem headHeld _
        · intro other member
          rw [Dict.lookup_insert_ite]
          split
          · rfl
          · exact restHeld other member
      · rw [loseEntry, if_neg orphan]
        exact induction restHeld

theorem orphaned_foldl_loseEntry (entries : List (Entry Peer Value))
    (acc : Dict String (Task Peer Value) × List (Task Peer Value)) :
    (entries.foldl (loseEntry peerLost peerId) acc).2 =
      ((entries.filter fun entry => entry.2.isOrphan peerId).map
        fun entry => entry.2.lose peerLost).reverse ++ acc.2 := by
  induction entries generalizing acc with
  | nil => rfl
  | cons entry rest induction =>
      rw [List.foldl_cons, induction]
      by_cases orphan : entry.2.isOrphan peerId = true
      · simp [loseEntry, orphan]
      · simp [loseEntry, orphan]

variable (tasks : Dict String (Task Peer Value))

theorem lookup_loseTasks (id : String) :
    (loseTasks peerLost tasks peerId).1.lookup id =
      (tasks.lookup id).map (·.afterLoss peerLost peerId) := by
  rw [loseTasks_eq_foldl, lookup_foldl_loseEntry peerLost peerId tasks.nodupKeys]
  change (match tasks.lookup id with
    | some task =>
        if task.isOrphan peerId then some (task.lose peerLost)
        else tasks.lookup id
    | none => tasks.lookup id) = _
  cases tasks.lookup id with
  | none => rfl
  | some task =>
      by_cases orphan : task.isOrphan peerId = true
      · simp [Task.afterLoss, orphan]
      · simp [Task.afterLoss, orphan]

theorem size_loseTasks :
    (loseTasks peerLost tasks peerId).1.size = tasks.size := by
  rw [loseTasks_eq_foldl]
  apply size_foldl_loseEntry
  intro entry member
  rw [Dict.mem_entries_iff.mp member]
  rfl

theorem orphaned_loseTasks :
    (loseTasks peerLost tasks peerId).2 =
      ((tasks.entries.filter fun entry => entry.2.isOrphan peerId).map
        fun entry => entry.2.lose peerLost).reverse := by
  rw [loseTasks_eq_foldl, orphaned_foldl_loseEntry, List.append_nil]

theorem afterLoss_of_no_orphans
    (none : (loseTasks peerLost tasks peerId).2 = []) (id : String) :
    (tasks.lookup id).map (·.afterLoss peerLost peerId) = tasks.lookup id := by
  rw [orphaned_loseTasks, List.reverse_eq_nil_iff, List.map_eq_nil_iff,
    List.filter_eq_nil_iff] at none
  cases held : tasks.lookup id with
  | none => rfl
  | some task =>
      have spared := none _ (Dict.mem_entries_iff.mpr held)
      rw [Option.map_some, Task.afterLoss, if_neg spared]

end Loss

section Steps

variable (peerLost : Value)

def notices (state : State Pid Peer Value) (peerId : Peer)
    (alive : Pid → Bool) : List (Notification Pid Peer Value) :=
  match (loseTasks peerLost state.tasks peerId).2 with
  | [] => []
  | orphaned =>
      (state.subscribers.filter alive).map fun pid => { pid, peerId, orphaned }

inductive Change (state : State Pid Peer Value) :
    Input Pid Peer Value → State Pid Peer Value → Output Pid Peer Value → Prop
  | dispatched (peerId : Peer) (target : String) (message : Value) (now : Int) :
      Change state (.call (.dispatch peerId target message) now)
        { state with
          tasks := state.tasks.insert (taskId (state.counter + 1))
            { id := taskId (state.counter + 1), peerId, target, message,
              dispatchedAt := now, status := .pending }
          counter := state.counter + 1 }
        { reply := .dispatched (taskId (state.counter + 1)), sent := [] }
  | ended {request : Call Pid Peer Value} {now : Int} {taskId : String}
      {status : Status Value} {task : Task Peer Value}
      (ending : request.ending = some (taskId, status))
      (held : state.tasks.lookup taskId = some task) :
      Change state (.call request now)
        { state with
          tasks := state.tasks.insert taskId { task with status } }
        { reply := .ok, sent := [] }
  | cleaned (now : Int) :
      Change state (.call .cleanup now)
        { state with
          tasks := Dict.retain (fun _ task => task.isPending) state.tasks }
        { reply := .removed
            (Dict.retain (fun _ task => !task.isPending) state.tasks).size
          sent := [] }
  | lost {peerId : Peer} {alive : Pid → Bool}
      {tasks : Dict String (Task Peer Value)}
      (size : tasks.size = state.tasks.size)
      (lookups : ∀ id, tasks.lookup id =
        (state.tasks.lookup id).map (·.afterLoss peerLost peerId)) :
      Change state (.connectionClosed peerId 0 alive)
        { state with tasks }
        { reply := .noreply, sent := notices peerLost state peerId alive }
  | kept {input : Input Pid Peer Value} {subscribers : List Pid}
      {output : Output Pid Peer Value}
      (passive : input.isPassive)
      (unnamed : output.dispatchedId = none)
      (unremoved : output.removed = 0)
      (silent : output.sent = []) :
      Change state input { state with subscribers } output

variable {peerLost : Value}

theorem change_updateTaskStatus {state : State Pid Peer Value}
    {request : Call Pid Peer Value} {now : Int} {taskId : String}
    {status : Status Value}
    (ending : request.ending = some (taskId, status))
    (passive : (Input.call request now).isPassive) :
    Change peerLost state (.call request now)
      (updateTaskStatus state taskId status).2
      { reply := (updateTaskStatus state taskId status).1, sent := [] } := by
  cases held : state.tasks.lookup taskId with
  | none =>
      simp only [updateTaskStatus, held]
      exact .kept passive rfl rfl rfl
  | some task =>
      simp only [updateTaskStatus, held]
      exact .ended ending held

theorem change_connectionClosed (state : State Pid Peer Value) (peerId : Peer)
    (numEstablished : Nat) (alive : Pid → Bool) :
    Change peerLost state (.connectionClosed peerId numEstablished alive)
      (handleConnectionClosed peerLost state peerId numEstablished alive).1
      { reply := .noreply
        sent := (handleConnectionClosed peerLost state peerId numEstablished
          alive).2 } := by
  cases numEstablished with
  | succ remaining =>
      simp only [handleConnectionClosed, Nat.succ_ne_zero, if_false]
      exact .kept rfl rfl rfl rfl
  | zero =>
      cases orphans : (loseTasks peerLost state.tasks peerId).2 with
      | nil =>
          have lost : Change peerLost state (.connectionClosed peerId 0 alive)
              _ _ :=
            .lost rfl fun id =>
              (afterLoss_of_no_orphans peerLost peerId state.tasks orphans id).symm
          simp only [notices, orphans] at lost
          simpa only [handleConnectionClosed, orphans, if_true] using lost
      | cons orphan rest =>
          have lost : Change peerLost state (.connectionClosed peerId 0 alive)
              _ _ :=
            .lost (size_loseTasks peerLost peerId state.tasks)
              (lookup_loseTasks peerLost peerId state.tasks)
          simp only [notices, orphans] at lost
          simpa only [handleConnectionClosed, orphans, if_true] using lost

theorem change_of_step {state next : State Pid Peer Value}
    {input : Input Pid Peer Value} {output : Output Pid Peer Value}
    (taken : (tracker peerLost).step state input = some (next, output)) :
    Change peerLost state input next output := by
  cases input with
  | unexpected =>
      cases taken
      exact .kept rfl rfl rfl rfl
  | connectionClosed peerId numEstablished alive =>
      cases taken
      exact change_connectionClosed state peerId numEstablished alive
  | call request now =>
      cases taken
      cases request with
      | dispatch peerId target message =>
          exact .dispatched peerId target message now
      | complete taskId => exact change_updateTaskStatus rfl rfl
      | fail taskId reason => exact change_updateTaskStatus rfl rfl
      | cleanup => exact .cleaned now
      | get taskId =>
          cases held : state.tasks.lookup taskId with
          | none =>
              simp only [held]
              exact .kept rfl rfl rfl rfl
          | some task =>
              simp only [held]
              exact .kept rfl rfl rfl rfl
      | _ => exact .kept rfl rfl rfl rfl

end Steps

theorem Task.afterLoss_id (peerLost : Value) (peerId : Peer)
    (task : Task Peer Value) : (task.afterLoss peerLost peerId).id = task.id := by
  rw [Task.afterLoss]
  split
  · rfl
  · rfl

theorem Task.isPending_afterLoss {peerLost : Value} {peerId : Peer}
    {task : Task Peer Value}
    (pending : (task.afterLoss peerLost peerId).isPending) :
    task.afterLoss peerLost peerId = task := by
  rw [Task.afterLoss] at pending ⊢
  split at pending
  · cases pending
  · rename_i spared
    rw [if_neg spared]

section Changes

variable {peerLost : Value} {state next : State Pid Peer Value}
  {input : Input Pid Peer Value} {output : Output Pid Peer Value}

theorem Change.counter_le (change : Change peerLost state input next output) :
    state.counter ≤ next.counter := by
  cases change with
  | dispatched => exact Nat.le_succ _
  | _ => exact Nat.le_refl _

theorem Change.origin (change : Change peerLost state input next output)
    {id : String} {task : Task Peer Value}
    (held : next.tasks.lookup id = some task) :
    (id = taskId (state.counter + 1) ∧ task.id = id ∧
      next.counter = state.counter + 1) ∨
    ∃ before, state.tasks.lookup id = some before ∧ task.id = before.id ∧
      (task.isPending → task = before) := by
  cases change with
  | dispatched peerId target message now =>
      rw [Dict.lookup_insert_ite] at held
      split at held
      · rename_i same
        cases held
        exact .inl ⟨same, same.symm, rfl⟩
      · exact .inr ⟨task, held, rfl, fun _ => rfl⟩
  | @ended request now taskId status before ending present =>
      rw [Dict.lookup_insert_ite] at held
      split at held
      · rename_i same
        cases held
        refine .inr ⟨before, same ▸ present, rfl, ?_⟩
        intro pending
        cases status with
        | pending => exact absurd rfl (Call.not_pending_of_ending ending)
        | _ => cases pending
      · exact .inr ⟨task, held, rfl, fun _ => rfl⟩
  | cleaned now =>
      rw [Dict.lookup_retain, Option.filter_eq_some_iff] at held
      exact .inr ⟨task, held.1, rfl, fun _ => rfl⟩
  | @lost peerId alive tasks size lookups =>
      obtain ⟨before, present, rfl⟩ :=
        Option.map_eq_some_iff.mp ((lookups id).symm.trans held)
      exact .inr ⟨before, present, Task.afterLoss_id peerLost peerId before,
        Task.isPending_afterLoss⟩
  | kept => exact .inr ⟨task, held, rfl, fun _ => rfl⟩

theorem Ledger.keyed_step {trace : History Pid Peer Value}
    (ledger : Ledger trace state)
    (change : Change peerLost state input next output) {id : String}
    {task : Task Peer Value} (held : next.tasks.lookup id = some task) :
    task.id = id ∧ id ∈ labels "task-" next.counter := by
  obtain ⟨rfl, bears, counter⟩ | ⟨before, present, bears, -⟩ :=
    change.origin held
  · refine ⟨bears, ?_⟩
    rw [counter, labels_succ]
    exact List.mem_append_right _ (List.mem_singleton.mpr rfl)
  · obtain ⟨named, member⟩ := ledger.keyed present
    exact ⟨bears.trans named, mem_labels_mono change.counter_le member⟩

theorem Ledger.step {trace : History Pid Peer Value}
    (ledger : Ledger trace state)
    (taken : (tracker peerLost).step state input = some (next, output)) :
    Ledger (trace ++ [(input, output)]) next := by
  have change := change_of_step taken
  have keyed : ∀ {id task}, next.tasks.lookup id = some task → _ :=
    fun held => ledger.keyed_step change held
  have given := ledger.given
  have counted := ledger.counted
  have balanced := ledger.balanced
  cases change with
  | dispatched peerId target message now =>
      refine ⟨?_, ?_, keyed, ?_⟩
      · rw [dispatchedIds_snoc, given, labels_succ]
        rfl
      · rw [dispatches_snoc, counted]
        rfl
      · rw [dispatches_snoc, removedIn_snoc,
          Dict.size_insert_of_fresh ledger.fresh, balanced]
        exact Nat.add_right_comm ..
  | @ended request now taskId status task ending held =>
      have undispatched : (Input.call request now).isDispatch = false := by
        cases request with
        | dispatch => cases ending
        | _ => rfl
      refine ⟨?_, ?_, keyed, ?_⟩
      · rw [dispatchedIds_snoc, given]
        exact List.append_nil _
      · rw [dispatches_snoc, counted, undispatched]
        rfl
      · have size := Dict.size_insert_of_mem (Option.isSome_of_mem held)
          { task with status }
        rw [dispatches_snoc, removedIn_snoc, size, undispatched]
        exact balanced
  | cleaned now =>
      refine ⟨?_, counted ▸ dispatches_snoc .., keyed, ?_⟩
      · rw [dispatchedIds_snoc, given]
        exact List.append_nil _
      · have split := Dict.size_eq_retain_add
          (fun _ task => Task.isPending task) state.tasks
        rw [dispatches_snoc, removedIn_snoc, balanced, split]
        simp only [Input.isDispatch, Output.removed, Bool.false_eq_true,
          if_false]
        omega
  | lost size lookups =>
      refine ⟨?_, counted ▸ dispatches_snoc .., keyed, ?_⟩
      · rw [dispatchedIds_snoc, given]
        exact List.append_nil _
      · rw [dispatches_snoc, removedIn_snoc, size]
        exact balanced
  | kept passive unnamed unremoved silent =>
      refine ⟨?_, ?_, keyed, ?_⟩
      · rw [dispatchedIds_snoc, given, unnamed]
        exact List.append_nil _
      · rw [dispatches_snoc, counted, Input.not_dispatch_of_passive passive]
        rfl
      · rw [dispatches_snoc, removedIn_snoc, unremoved,
          Input.not_dispatch_of_passive passive]
        exact balanced

end Changes

theorem ledger_of_run {peerLost : Value} {trace : History Pid Peer Value}
    {state : State Pid Peer Value} (run : (tracker peerLost).Run trace state) :
    Ledger trace state :=
  run.invariant Ledger .init fun _ ledger taken => ledger.step taken

section Conservation

variable {peerLost : Value} {trace : History Pid Peer Value}
  {state next : State Pid Peer Value} {input : Input Pid Peer Value}
  {output : Output Pid Peer Value}

/-- Only a cleanup takes tasks away; anything else can change no more than
their statuses. -/
theorem Ledger.keeps (ledger : Ledger trace state)
    (change : Change peerLost state input next output)
    (uncleaned : ∀ now, input ≠ .call .cleanup now) {id : String}
    {task : Task Peer Value} (held : state.tasks.lookup id = some task) :
    ∃ status, next.tasks.lookup id = some { task with status } := by
  cases change with
  | dispatched peerId target message now =>
      have other : id ≠ taskId (state.counter + 1) := by
        rintro rfl
        rw [ledger.fresh] at held
        cases held
      exact ⟨task.status, (AList.lookup_insert_ne other).trans held⟩
  | @ended request now taskId status before ending present =>
      by_cases same : id = taskId
      · subst same
        rw [held] at present
        cases present
        exact ⟨status, AList.lookup_insert _⟩
      · exact ⟨task.status, (AList.lookup_insert_ne same).trans held⟩
  | cleaned now => exact absurd rfl (uncleaned now)
  | @lost peerId alive tasks size lookups =>
      have after := lookups id
      rw [held, Option.map_some, Task.afterLoss] at after
      split at after
      · exact ⟨.failed peerLost, after⟩
      · exact ⟨task.status, after⟩
  | kept => exact ⟨task.status, held⟩

structure Accounted (peerLost : Value) (trace : History Pid Peer Value)
    (state : State Pid Peer Value) : Prop where
  keyed : ∀ id task, state.tasks.lookup id = some task →
    task.id = id ∧ ∃ number, 1 ≤ number ∧ number ≤ state.counter ∧
      id = taskId number
  givenOnce : (dispatchedIds trace).Nodup
  counted : state.counter = dispatches trace
  conserved : dispatches trace = state.tasks.size + removedIn trace
  cleanup : ∀ now, ∃ next count,
    (tracker peerLost).step state (.call .cleanup now) =
        some (next, { reply := .removed count, sent := [] }) ∧
      ∀ id, next.tasks.lookup id =
        (state.tasks.lookup id).filter Task.isPending
  others : ∀ input next output,
    (tracker peerLost).step state input = some (next, output) →
      (∀ now, input ≠ .call .cleanup now) →
      ∀ id task, state.tasks.lookup id = some task →
        ∃ status, next.tasks.lookup id = some { task with status }
  allPending : ∀ now, ∃ tasks,
    (tracker peerLost).step state (.call .allPending now) =
        some (state, { reply := .tasks tasks, sent := [] }) ∧
      tasks.Nodup ∧ ∀ task, task ∈ tasks ↔ HoldsPending state task
  pendingForPeer : ∀ now, ∃ tasks : Peer → List (Task Peer Value),
    (∀ peerId,
      (tracker peerLost).step state (.call (.pendingForPeer peerId) now) =
        some (state, { reply := .tasks (tasks peerId), sent := [] }) ∧
      (tasks peerId).Nodup ∧
      ∀ task ∈ tasks peerId, task.peerId = peerId) ∧
    ∀ task, (∃ peerId, task ∈ tasks peerId) ↔ HoldsPending state task

theorem task_accounting (run : (tracker peerLost).Run trace state) :
    Accounted peerLost trace state := by
  have ledger := ledger_of_run run
  refine ⟨?_, ?_, ledger.counted.symm, ledger.balanced, ?_, ?_, ?_, ?_⟩
  · intro id task held
    obtain ⟨bears, member⟩ := ledger.keyed held
    exact ⟨bears, mem_labels.mp member⟩
  · rw [ledger.given]
    exact labels_nodup ..
  · intro now
    exact ⟨_, _, rfl, fun id => Dict.lookup_retain ..⟩
  · intro input next output taken uncleaned id task held
    exact ledger.keeps (change_of_step taken) uncleaned held
  · intro now
    refine ⟨_, rfl, ledger.nodup_pendingTasks _, ?_⟩
    intro task
    rw [mem_pendingTasks]
    exact and_iff_left rfl
  · intro now
    refine ⟨fun peerId =>
      pendingTasks state fun task => task.peerId = peerId, ?_, ?_⟩
    · intro peerId
      refine ⟨rfl, ledger.nodup_pendingTasks _, ?_⟩
      intro task member
      exact of_decide_eq_true (mem_pendingTasks.mp member).2
    · intro task
      constructor
      · intro found
        obtain ⟨peerId, member⟩ := found
        exact (mem_pendingTasks.mp member).1
      · intro pending
        exact ⟨task.peerId, mem_pendingTasks.mpr ⟨pending, decide_eq_true rfl⟩⟩

end Conservation

/-- Three tasks, of which one is completed, one lost and both are removed
before the next task comes. -/
def errands : List (Input Nat Nat Nat) :=
  [.call (.subscribe 9) 0,
    .call (.dispatch 1 "resize" 5) 10,
    .call (.dispatch 2 "encode" 6) 11,
    .call (.dispatch 1 "upload" 7) 12,
    .call (.complete "task-1") 20,
    .connectionClosed 1 1 fun _ => true,
    .connectionClosed 1 0 fun _ => true,
    .call .cleanup 30,
    .call (.dispatch 1 "upload" 7) 31,
    .call (.fail "task-1" 3) 32,
    .connectionClosed 1 0 fun _ => true]

theorem task_accounting_errands :
    ∃ trace state, (tracker 404).Run trace state ∧
      trace.map Prod.fst = errands ∧ Accounted 404 trace state := by
  obtain ⟨trace, state, -, run, inputs⟩ := Machine.exists_run_of_start
    (by decide : ((tracker 404).start errands).isSome)
  exact ⟨trace, state, run, inputs, task_accounting run⟩

end ExLibp2p.Otp.TaskTracker
