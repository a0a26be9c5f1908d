import ExLibp2p.Data.Dict
import ExLibp2p.Data.KeyList

namespace ExLibp2p.Node.HandlerRegistry

open ExLibp2p.Data

/-! The subscriber registry of `handler_registry.ex`. Pids, monitor references,
event types and events are arbitrary types; a node is a pid. -/

structure State (Pid EventType Ref : Type) where
  subscriptions : Dict (Pid × EventType) (List (Pid × Ref))
  monitors : Dict Ref (Pid × Pid × EventType)

/-- What a callback asks of the virtual machine, in the order it asks. -/
inductive Effect (Pid EventType Event Ref : Type)
  | monitor (pid : Pid) (ref : Ref)
  -- `Process.demonitor(ref, [:flush])`
  | demonitor (ref : Ref)
  -- `send(pid, {:libp2p, event_type, event})`
  | send (pid : Pid) (eventType : EventType) (event : Event)
  deriving DecidableEq

inductive Reply
  | ok
  | count (subscribers : Nat)
  | unknownCall
  | noreply
  deriving DecidableEq

inductive Call (Pid EventType : Type)
  | register (node : Pid) (eventType : EventType) (pid : Pid)
  | unregister (node : Pid) (eventType : EventType) (pid : Pid)
  | count (node : Pid) (eventType : EventType)
  | cleanupNode (node : Pid)
  | sync
  | unknown
  deriving DecidableEq

inductive Cast (Pid EventType Event : Type)
  | dispatch (node : Pid) (eventType : EventType) (event : Event)
  | unknown
  deriving DecidableEq

inductive Info (Pid Ref : Type)
  -- `{:DOWN, ref, :process, dead_pid, _reason}`
  | down (ref : Ref) (deadPid : Pid)
  | unexpected
  deriving DecidableEq

inductive Message (Pid EventType Event Ref : Type)
  | call (request : Call Pid EventType)
  | cast (request : Cast Pid EventType Event)
  | info (signal : Info Pid Ref)
  deriving DecidableEq

inductive Exception
  | caseClauseError
  deriving DecidableEq

section

variable {Pid EventType Event Ref : Type}
variable [DecidableEq Pid] [DecidableEq EventType] [DecidableEq Ref]

namespace State

def init : State Pid EventType Ref where
  subscriptions := ∅
  monitors := ∅

def entriesAt (state : State Pid EventType Ref) (key : Pid × EventType) :
    List (Pid × Ref) :=
  Dict.get state.subscriptions key []

end State

def putRemaining
    (subscriptions : Dict (Pid × EventType) (List (Pid × Ref)))
    (key : Pid × EventType) (remaining : List (Pid × Ref)) :
    Dict (Pid × EventType) (List (Pid × Ref)) :=
  match remaining with
  | [] => subscriptions.erase key
  | entry :: rest => subscriptions.insert key (entry :: rest)

def alreadyRegistered (state : State Pid EventType Ref)
    (key : Pid × EventType) (pid : Pid) : Bool :=
  keymember pid (state.entriesAt key)

def removeSubscription (state : State Pid EventType Ref)
    (key : Pid × EventType) (pid : Pid) :
    State Pid EventType Ref × List (Effect Pid EventType Event Ref) :=
  let entries := state.entriesAt key
  match keyfind pid entries with
  | some (_, ref) =>
      ({ subscriptions :=
            putRemaining state.subscriptions key (keydelete pid entries)
         monitors := state.monitors.erase ref }, [.demonitor ref])
  | none => (state, [])

def removeDeadSubscriber (state : State Pid EventType Ref)
    (ref : Ref) (deadPid : Pid) :
    Except Exception (State Pid EventType Ref) :=
  match state.monitors.lookup ref with
  | some (pid, node, eventType) =>
      if pid = deadPid then
        let key := (node, eventType)
        .ok {
          subscriptions := putRemaining state.subscriptions key
            (keydelete deadPid (state.entriesAt key))
          monitors := state.monitors.erase ref }
      else
        -- `Map.pop/2` found another pid: no clause of the `case` matches
        .error .caseClauseError
  | none => .ok state

def nodeKeysAndRefs (state : State Pid EventType Ref) (node : Pid) :
    List (Pid × EventType) × List Ref :=
  state.subscriptions.entries.foldl
    (fun (keysAcc, refsAcc) entry =>
      if entry.1.1 = node then
        (entry.1 :: keysAcc, entry.2.map Prod.snd ++ refsAcc)
      else
        (keysAcc, refsAcc))
    ([], [])

def removeAllForNode (state : State Pid EventType Ref) (node : Pid) :
    State Pid EventType Ref × List (Effect Pid EventType Event Ref) :=
  let (keysToDrop, refsToDrop) := nodeKeysAndRefs state node
  ({ subscriptions := Dict.drop state.subscriptions keysToDrop
     monitors := Dict.drop state.monitors refsToDrop },
    refsToDrop.map .demonitor)

/-- `handle_call/3`; `ref` is what `Process.monitor` returns if it is called. -/
def handleCall (ref : Ref) (request : Call Pid EventType)
    (state : State Pid EventType Ref) :
    Reply × State Pid EventType Ref ×
      List (Effect Pid EventType Event Ref) :=
  match request with
  | .register node eventType pid =>
      let key := (node, eventType)
      if alreadyRegistered state key pid then
        (.ok, state, [])
      else
        (.ok,
          { subscriptions :=
              Dict.update state.subscriptions key [(pid, ref)]
                fun entries => (pid, ref) :: entries
            monitors := state.monitors.insert ref (pid, node, eventType) },
          [.monitor pid ref])
  | .unregister node eventType pid =>
      (.ok, removeSubscription state (node, eventType) pid)
  | .count node eventType =>
      (.count (state.entriesAt (node, eventType)).length, state, [])
  | .cleanupNode node => (.ok, removeAllForNode state node)
  | .sync => (.ok, state, [])
  | .unknown => (.unknownCall, state, [])

def handleCast (request : Cast Pid EventType Event)
    (state : State Pid EventType Ref) :
    State Pid EventType Ref × List (Effect Pid EventType Event Ref) :=
  match request with
  | .dispatch node eventType event =>
      (state, (state.entriesAt (node, eventType)).map fun (pid, _) =>
        .send pid eventType event)
  | .unknown => (state, [])

def handleInfo (signal : Info Pid Ref) (state : State Pid EventType Ref) :
    Except Exception (State Pid EventType Ref) :=
  match signal with
  | .down ref deadPid => removeDeadSubscriber state ref deadPid
  | .unexpected => .ok state

def handle (ref : Ref) (message : Message Pid EventType Event Ref)
    (state : State Pid EventType Ref) :
    Except Exception (Reply × State Pid EventType Ref ×
      List (Effect Pid EventType Event Ref)) :=
  match message with
  | .call request => .ok (handleCall ref request state)
  | .cast request => .ok (.noreply, handleCast request state)
  | .info signal => do
      let next ← handleInfo signal state
      return (.noreply, next, [])

end

end ExLibp2p.Node.HandlerRegistry
