import ExLibp2p.Data.Dict
import ExLibp2p.Data.Machine

namespace ExLibp2p.Otp.TaskTracker

open ExLibp2p.Data

/-! The tracker of dispatched work of `task_tracker.ex`. Peers, processes and
the terms that callers hand over are arbitrary types. -/

inductive Status (Value : Type)
  | pending
  | completed
  | failed (reason : Value)
  deriving DecidableEq

structure Task (Peer Value : Type) where
  id : String
  peerId : Peer
  target : String
  message : Value
  dispatchedAt : Int
  status : Status Value
  deriving DecidableEq

structure State (Pid Peer Value : Type) where
  tasks : Dict String (Task Peer Value)
  subscribers : List Pid
  counter : Nat

inductive Call (Pid Peer Value : Type)
  | dispatch (peerId : Peer) (target : String) (message : Value)
  | complete (taskId : String)
  | fail (taskId : String) (reason : Value)
  | get (taskId : String)
  | pendingForPeer (peerId : Peer)
  | allPending
  | subscribe (pid : Pid)
  | cleanup
  | unknown
  deriving DecidableEq

/-- A message, with what the clock shows and which processes are alive while
it is handled. -/
inductive Input (Pid Peer Value : Type)
  | call (request : Call Pid Peer Value) (now : Int)
  | connectionClosed (peerId : Peer) (numEstablished : Nat)
      (alive : Pid → Bool)
  | unexpected

inductive Reply (Peer Value : Type)
  | ok
  | dispatched (id : String)
  | task (task : Task Peer Value)
  | notFound
  | tasks (tasks : List (Task Peer Value))
  | removed (count : Nat)
  | unknownCall
  | noreply
  deriving DecidableEq

/-- `{:task_tracker, :peer_lost, peer_id, orphaned}`, sent to one process. -/
structure Notification (Pid Peer Value : Type) where
  pid : Pid
  peerId : Peer
  orphaned : List (Task Peer Value)
  deriving DecidableEq

structure Output (Pid Peer Value : Type) where
  reply : Reply Peer Value
  sent : List (Notification Pid Peer Value)
  deriving DecidableEq

variable {Pid Peer Value : Type}

def State.init : State Pid Peer Value where
  tasks := ∅
  subscribers := []
  counter := 0

def taskId (number : Nat) : String :=
  "task-" ++ toString number

def Task.isPending (task : Task Peer Value) : Bool :=
  match task.status with
  | .pending => true
  | _ => false

def updateTaskStatus (state : State Pid Peer Value) (taskId : String)
    (status : Status Value) : Reply Peer Value × State Pid Peer Value :=
  match state.tasks.lookup taskId with
  | some task =>
      (.ok, { state with
        tasks := state.tasks.insert taskId { task with status } })
  | none => (.notFound, state)

def pendingTasks (state : State Pid Peer Value)
    (extraFilter : Task Peer Value → Bool) : List (Task Peer Value) :=
  (state.tasks.entries.filter fun entry =>
    entry.2.isPending && extraFilter entry.2).map fun entry => entry.2

variable [DecidableEq Peer]

def handleCall (state : State Pid Peer Value) (now : Int) :
    Call Pid Peer Value → Reply Peer Value × State Pid Peer Value
  | .dispatch peerId target message =>
      let id := taskId (state.counter + 1)
      let task :=
        { id, peerId, target, message, dispatchedAt := now, status := .pending }
      (.dispatched id,
        { state with
          tasks := state.tasks.insert id task
          counter := state.counter + 1 })
  | .complete taskId => updateTaskStatus state taskId .completed
  | .fail taskId reason => updateTaskStatus state taskId (.failed reason)
  | .get taskId =>
      match state.tasks.lookup taskId with
      | some task => (.task task, state)
      | none => (.notFound, state)
  | .pendingForPeer peerId =>
      (.tasks (pendingTasks state fun task => task.peerId = peerId), state)
  | .allPending => (.tasks (pendingTasks state fun _ => true), state)
  | .subscribe pid =>
      (.ok, { state with subscribers := pid :: state.subscribers })
  | .cleanup =>
      let removed := Dict.retain (fun _ task => !task.isPending) state.tasks
      let kept := Dict.retain (fun _ task => task.isPending) state.tasks
      (.removed removed.size, { state with tasks := kept })
  | .unknown => (.unknownCall, state)

/-! The loss of a peer. The source's `:peer_lost` is one of the terms. -/

section Loss

variable (peerLost : Value)

def Task.lose (task : Task Peer Value) : Task Peer Value :=
  { task with status := .failed peerLost }

def Task.isOrphan (peerId : Peer) (task : Task Peer Value) : Bool :=
  task.isPending && decide (task.peerId = peerId)

def loseTasks (tasks : Dict String (Task Peer Value)) (peerId : Peer) :
    Dict String (Task Peer Value) × List (Task Peer Value) :=
  tasks.entries.foldl
    (fun (tasksAcc, orphanedAcc) entry =>
      if entry.2.isOrphan peerId then
        let failed := entry.2.lose peerLost
        (tasksAcc.insert entry.1 failed, failed :: orphanedAcc)
      else
        (tasksAcc, orphanedAcc))
    (tasks, [])

def handleConnectionClosed (state : State Pid Peer Value) (peerId : Peer)
    (numEstablished : Nat) (alive : Pid → Bool) :
    State Pid Peer Value × List (Notification Pid Peer Value) :=
  if numEstablished = 0 then
    let (updatedTasks, orphaned) := loseTasks peerLost state.tasks peerId
    match orphaned with
    | [] => (state, [])
    | _ =>
        ({ state with tasks := updatedTasks },
          (state.subscribers.filter alive).map fun pid =>
            { pid, peerId, orphaned })
  else
    (state, [])

def tracker : Machine (State Pid Peer Value) (Input Pid Peer Value)
    (Output Pid Peer Value) where
  init := State.init
  step := fun state input =>
    match input with
    | .call request now =>
        let (reply, next) := handleCall state now request
        some (next, { reply, sent := [] })
    | .connectionClosed peerId numEstablished alive =>
        let (next, sent) :=
          handleConnectionClosed peerLost state peerId numEstablished alive
        some (next, { reply := .noreply, sent })
    | .unexpected => some (state, { reply := .noreply, sent := [] })

end Loss

end ExLibp2p.Otp.TaskTracker
