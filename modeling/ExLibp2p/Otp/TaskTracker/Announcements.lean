import ExLibp2p.Otp.TaskTracker.Lifecycle

namespace ExLibp2p.Otp.TaskTracker

open ExLibp2p.Data

variable {Pid Peer Value : Type}

def Input.subscriber : Input Pid Peer Value → Option Pid
  | .call (.subscribe pid) _ => some pid
  | _ => none

/-- The processes that subscribed, once for each time they did. -/
def subscriptions (trace : History Pid Peer Value) : List Pid :=
  trace.filterMap fun entry => entry.1.subscriber

theorem subscribers_updateTaskStatus (state : State Pid Peer Value)
    (taskId : String) (status : Status Value) :
    (updateTaskStatus state taskId status).2.subscribers =
      state.subscribers := by
  rw [updateTaskStatus]
  split
  · rfl
  · rfl

section Subscribers

variable [DecidableEq Peer] {peerLost : Value}

theorem subscribers_handleConnectionClosed (state : State Pid Peer Value)
    (peerId : Peer) (numEstablished : Nat) (alive : Pid → Bool) :
    (handleConnectionClosed peerLost state peerId numEstablished
      alive).1.subscribers = state.subscribers := by
  cases numEstablished with
  | succ remaining => rfl
  | zero =>
      rw [handleConnectionClosed, if_pos rfl]
      obtain ⟨tasks, orphaned⟩ := loseTasks peerLost state.tasks peerId
      cases orphaned with
      | nil => rfl
      | cons orphan rest => rfl

theorem subscribers_of_step {state next : State Pid Peer Value}
    {input : Input Pid Peer Value} {output : Output Pid Peer Value}
    (taken : (tracker peerLost).step state input = some (next, output)) :
    next.subscribers = input.subscriber.toList ++ state.subscribers := by
  cases input with
  | unexpected =>
      cases taken
      rfl
  | connectionClosed peerId numEstablished alive =>
      cases taken
      exact subscribers_handleConnectionClosed state peerId numEstablished alive
  | call request now =>
      cases taken
      cases request with
      | complete taskId => exact subscribers_updateTaskStatus state taskId _
      | fail taskId reason => exact subscribers_updateTaskStatus state taskId _
      | get taskId =>
          cases held : state.tasks.lookup taskId with
          | none =>
              simp only [held]
              rfl
          | some task =>
              simp only [held]
              rfl
      | _ => rfl

theorem subscribers_of_run {trace : History Pid Peer Value}
    {state : State Pid Peer Value}
    (run : (tracker peerLost).Run trace state) :
    state.subscribers = (subscriptions trace).reverse := by
  refine run.invariant
    (fun trace state => state.subscribers = (subscriptions trace).reverse) rfl ?_
  intro trace state input next output earlier subscribed taken
  rw [subscribers_of_step taken, subscribed, subscriptions, subscriptions,
    List.filterMap_append, List.reverse_append]
  cases input with
  | call request now =>
      cases request with
      | _ => rfl
  | _ => rfl

end Subscribers

section Messages

variable [DecidableEq Pid]

def messagesTo (pid : Pid) (sent : List (Notification Pid Peer Value)) :
    List (Peer × List (Task Peer Value)) :=
  (sent.filter fun notice => notice.pid = pid).map fun notice =>
    (notice.peerId, notice.orphaned)

theorem messagesTo_map (subscribers : List Pid) (alive : Pid → Bool)
    (peerId : Peer) (orphaned : List (Task Peer Value)) (pid : Pid) :
    messagesTo pid ((subscribers.filter alive).map fun pid =>
        { pid, peerId, orphaned }) =
      if alive pid then List.replicate (subscribers.count pid) (peerId, orphaned)
      else [] := by
  induction subscribers with
  | nil => simp [messagesTo]
  | cons subscriber rest induction =>
      rw [List.filter_cons]
      by_cases same : subscriber = pid
      · subst same
        by_cases living : alive subscriber = true
        · simp only [living, if_true] at induction ⊢
          rw [List.count_cons_self, List.replicate_succ, ← induction]
          simp [messagesTo]
        · simp only [living] at induction ⊢
          exact induction
      · rw [List.count_cons_of_ne same, ← induction]
        by_cases living : alive subscriber = true
        · simp [messagesTo, living, same]
        · simp [living]

variable [DecidableEq Peer] {peerLost : Value}

/-- The event that ends the last connection to a peer with pending tasks. -/
def Orphans (state : State Pid Peer Value) (peerId : Peer)
    (numEstablished : Nat) : Prop :=
  numEstablished = 0 ∧ ∃ task, HoldsPending state task ∧ task.peerId = peerId

omit [DecidableEq Pid] in
theorem exists_orphan (peerLost : Value) {state : State Pid Peer Value} {peerId : Peer}
    {numEstablished : Nat} (orphans : Orphans state peerId numEstablished) :
    (loseTasks peerLost state.tasks peerId).2 ≠ [] := by
  obtain ⟨-, task, pending, same⟩ := orphans
  have member : task.lose peerLost ∈ (loseTasks peerLost state.tasks peerId).2 :=
    mem_orphaned.mpr ⟨task, pending, same, rfl⟩
  exact List.ne_nil_of_mem member

theorem messagesTo_of_loss {state next : State Pid Peer Value} {peerId : Peer}
    {numEstablished : Nat} {alive : Pid → Bool} {output : Output Pid Peer Value}
    (orphans : Orphans state peerId numEstablished)
    (taken : (tracker peerLost).step state
      (.connectionClosed peerId numEstablished alive) = some (next, output))
    (pid : Pid) :
    messagesTo pid output.sent =
      if alive pid then
        List.replicate (state.subscribers.count pid)
          (peerId, (loseTasks peerLost state.tasks peerId).2)
      else
        [] := by
  have some := exists_orphan peerLost orphans
  obtain ⟨rfl, -⟩ := orphans
  cases change_of_step taken with
  | kept passive => cases passive
  | lost size lookups =>
      rw [notices_eq, if_neg (by simpa using some)]
      exact messagesTo_map _ _ _ _ pid

end Messages

section Histories

variable [DecidableEq Pid] [DecidableEq Peer] (peerLost : Value)
  (trace : History Pid Peer Value)

/-- Each loss is announced once: there is one list of the orphaned tasks, and
every live process that has subscribed gets one message with it, and no other
process gets any. -/
def AnnouncedOnce : Prop :=
  ∀ earlier peerId numEstablished alive output later before,
    trace = earlier ++
        (.connectionClosed peerId numEstablished alive, output) :: later →
      (tracker peerLost).Run earlier before →
        Orphans before peerId numEstablished →
          ∃ orphaned : List (Task Peer Value),
            (orphaned.map Task.id).Nodup ∧
            (∀ task, task ∈ orphaned ↔
              ∃ pending, HoldsPending before pending ∧
                pending.peerId = peerId ∧
                task = { pending with status := .failed peerLost }) ∧
            ∀ pid, messagesTo pid output.sent =
              if alive pid ∧ pid ∈ subscriptions earlier then
                [(peerId, orphaned)]
              else
                []

/-- No process that is alive at a loss has subscribed twice before it. -/
def SubscribedOnce : Prop :=
  ∀ earlier peerId numEstablished alive output later before,
    trace = earlier ++
        (.connectionClosed peerId numEstablished alive, output) :: later →
      (tracker peerLost).Run earlier before →
        Orphans before peerId numEstablished →
          ∀ pid, alive pid → (subscriptions earlier).count pid ≤ 1

end Histories

section Runs

variable [DecidableEq Pid] [DecidableEq Peer] {peerLost : Value}

/-- Copies of one message come to a single one for the subscribers exactly
when each stands in the list once. -/
theorem replicate_eq_once {Message : Type} (message : Message)
    (subscribers : List Pid) (pid : Pid) :
    List.replicate (subscribers.count pid) message =
        (if pid ∈ subscribers then [message] else []) ↔
      subscribers.count pid ≤ 1 := by
  by_cases member : pid ∈ subscribers
  · have positive := List.count_pos_iff.mpr member
    rw [if_pos member]
    constructor
    · intro same
      have lengths := congrArg List.length same
      simp only [List.length_replicate, List.length_singleton] at lengths
      exact Nat.le_of_eq lengths
    · intro once
      rw [Nat.le_antisymm once positive]
      rfl
  · rw [if_neg member, List.count_eq_zero.mpr member]
    simp

/-- In every run, the losses are announced once exactly when no process
subscribes twice and lives to see one of them. -/
theorem announcedOnce_iff_subscribedOnce {trace : History Pid Peer Value}
    {state : State Pid Peer Value}
    (run : (tracker peerLost).Run trace state) :
    AnnouncedOnce peerLost trace ↔ SubscribedOnce peerLost trace := by
  constructor
  · intro announced earlier peerId numEstablished alive output later before
      split reached orphans pid living
    obtain ⟨orphaned, -, listed, sent⟩ := announced earlier peerId numEstablished
      alive output later before split reached orphans
    obtain ⟨state, next, known, taken, -⟩ := (split ▸ run).step_of_mem
    obtain rfl := known.state_unique reached
    have copies := messagesTo_of_loss orphans taken pid
    rw [sent pid, if_pos living, subscribers_of_run reached,
      List.count_reverse] at copies
    simp only [living, true_and] at copies
    by_cases member : pid ∈ subscriptions earlier
    · rw [if_pos member] at copies
      have lengths := congrArg List.length copies
      simp only [List.length_singleton, List.length_replicate] at lengths
      exact Nat.le_of_eq lengths.symm
    · rw [List.count_eq_zero.mpr member]
      exact Nat.zero_le 1
  · intro once earlier peerId numEstablished alive output later before split
      reached orphans
    obtain ⟨state, next, known, taken, -⟩ := (split ▸ run).step_of_mem
    obtain rfl := known.state_unique reached
    refine ⟨_, (ledger_of_run reached).nodup_orphaned, fun _ => mem_orphaned, ?_⟩
    intro pid
    rw [messagesTo_of_loss orphans taken pid, subscribers_of_run reached,
      List.count_reverse]
    by_cases living : alive pid = true
    · simp only [living, if_true, true_and]
      exact (replicate_eq_once _ _ pid).mpr
        (once _ _ _ _ _ _ _ split reached orphans pid living)
    · simp [living]

end Runs

/-- Two subscribers, one of which has ended by the time the task of peer 1 is
lost, and a peer without tasks. -/
def twoSubscribers : List (Input Nat Nat Nat) :=
  [.call (.subscribe 8) 0,
    .call (.dispatch 1 "resize" 5) 10,
    .call (.subscribe 9) 11,
    .connectionClosed 2 0 (fun _ => true),
    .connectionClosed 1 0 (fun pid => pid != 8)]

theorem announcedOnce_twoSubscribers :
    ∃ trace state, (tracker 404).Run trace state ∧
      trace.map Prod.fst = twoSubscribers ∧ AnnouncedOnce 404 trace := by
  obtain ⟨trace, state, -, run, inputs⟩ := Machine.exists_run_of_start
    (by decide : ((tracker 404).start twoSubscribers).isSome)
  refine ⟨trace, state, run, inputs,
    (announcedOnce_iff_subscribedOnce run).mpr ?_⟩
  intro earlier peerId numEstablished alive output later before split reached
    orphans pid living
  have whole : (subscriptions trace).Nodup := by
    have listed : subscriptions trace =
        (trace.map Prod.fst).filterMap Input.subscriber := by
      rw [List.filterMap_map]
      rfl
    rw [listed, inputs]
    decide
  rw [split, subscriptions, List.filterMap_append] at whole
  exact List.nodup_iff_count_le_one.mp (List.nodup_append.mp whole).1 pid

def subscribedTwice : List (Input Nat Nat Nat) :=
  [.call (.subscribe 9) 0,
    .call (.subscribe 9) 1,
    .call (.dispatch 1 "resize" 5) 10]

/-- It is told of the same orphan twice. -/
theorem subscribedTwice_not_announcedOnce :
    ∃ trace state, (tracker 404).Run trace state ∧
      trace.map Prod.fst =
        subscribedTwice ++ [.connectionClosed 1 0 fun _ => true] ∧
      ¬ AnnouncedOnce 404 trace := by
  obtain ⟨trace, middle, started, run, inputs⟩ := Machine.exists_run_of_start
    (by decide : ((tracker 404).start subscribedTwice).isSome)
  have known : ((tracker 404).start subscribedTwice).map (fun result =>
      (result.2.tasks.lookup "task-1", result.2.subscribers)) =
        some (some ⟨"task-1", 1, "resize", 5, 10, .pending⟩, [9, 9]) := by decide
  rw [started, Option.map_some, Option.some.injEq, Prod.mk.injEq] at known
  obtain ⟨held, subscribers⟩ := known
  have orphans : Orphans middle 1 0 := ⟨rfl, _, ⟨_, held, rfl⟩, rfl⟩
  have taken : (tracker 404).step middle
      (.connectionClosed 1 0 fun _ => true) = some (_, _) := rfl
  refine ⟨_, _, run.snoc taken, by rw [List.map_append, inputs]; rfl, ?_⟩
  intro announced
  obtain ⟨orphaned, -, -, sent⟩ :=
    announced _ _ _ _ _ _ _ rfl run orphans
  have copies := messagesTo_of_loss orphans taken 9
  rw [sent 9, subscribers] at copies
  have lengths := congrArg List.length copies
  split at lengths
  · simp at lengths
  · simp at lengths

end ExLibp2p.Otp.TaskTracker
