import ExLibp2p.Data.Oneshot
import ExLibp2p.Native.RoutingTable

namespace ExLibp2p.Native

open ExLibp2p.Data

def Command.replyTo : Command → Option ReplyTo
  | .connectedPeers reply => some reply
  | .listeningAddrs reply => some reply
  | .bandwidthStats reply => some reply
  | .gossipsubMeshPeers _ reply => some reply
  | .gossipsubAllPeers reply => some reply
  | .gossipsubPeerScore _ reply => some reply
  | .dhtExportRoutingTable reply => some reply
  | .dhtImportRoutingTable _ reply => some reply
  | .rpcSendRequest _ _ reply => some reply
  | _ => none

namespace CommandChannel

open ExLibp2p.Native.RoutingTable (channelCapacity)
open ExLibp2p.Native.SwarmLoop (Settings Effect Turn swarmLoop)

/-! The node handle, the functions of `lib.rs` that send a command, and the
swarm loop at the other end of the channel. A step is one operation on a
channel, so that the calls interleave with the turns of the loop. -/

/-- The two senders that `start_node_inner` makes. -/
inductive Sender
  | cmdTx
  | handleTx
  deriving DecidableEq

inductive Handle
  | starting
  | held
  -- inside `drop`, before the fields go
  | dropping
  | dropped
  deriving DecidableEq

/-- The loop owns the receiver until it has left its function. A call that
waits for its reply is known by the number of queries before it. -/
structure State where
  loop : SwarmLoop.State
  receiver : Bool
  queue : List Command
  senders : List Sender
  handle : Handle
  calls : Oneshots ReplyTo Reply
  callers : Nat

inductive Action
  -- the frame of `start_node_inner` ends, and its `cmd_tx` with it
  | startReturns
  | sendTyped (command : Command)
  | queryTyped (makeCmd : ReplyTo → Command)
  | registerEventHandler (pid : LocalPid)
  | stopNode
  | dropHandle
  | releaseHandle
  | turn (turn : Turn) (panics : Option Nat)
  -- after the loop or during unwinding: the receiver goes
  | leave
  | wake (caller : ReplyTo)

inductive Output
  /-- The outcome of `try_send`. The functions that return an atom ignore it,
  the others return its error at once. -/
  | sent (command : Command) (result : Except NifError Unit)
  | returned (caller : ReplyTo) (result : Except NifError Reply)
  | turned (taken : Option Command) (effects : List Effect)
  | quiet

def asReply : Effect → Option (ReplyTo × Reply)
  | .reply caller value => some (caller, value)
  | _ => none

def replies (effects : List Effect) : List (ReplyTo × Reply) :=
  effects.filterMap asReply

def commandOf : Turn → Option Command
  | .command command _ => command
  | _ => none

namespace State

def trySend (state : State) (command : Command) : Except NifError State :=
  if !state.receiver then .error .nodeStopped
  else if channelCapacity ≤ state.queue.length then .error .channelFull
  else .ok { state with queue := state.queue ++ [command] }

def sendTyped (state : State) (command : Command) : State × Output :=
  match state.trySend command with
  | .error error => (state, .sent command (.error error))
  | .ok next => (next, .sent command (.ok ()))

/-- The first half of the call, up to `blocking_recv`. -/
def queryTyped (state : State) (makeCmd : ReplyTo → Command) :
    State × Output :=
  let caller := state.callers
  let called := { state with callers := caller + 1 }
  match called.trySend (makeCmd caller) with
  | .error error => (called, .sent (makeCmd caller) (.error error))
  | .ok next =>
      ({ next with calls := next.calls.insert caller .waiting },
        .sent (makeCmd caller) (.ok ()))

def dequeue (state : State) : Turn → Option (List Command)
  | .command (some command) _ =>
      match state.queue with
      | [] => none
      | first :: rest => if first = command then some rest else none
  | .command none _ =>
      if state.queue = [] ∧ state.senders = [] then some [] else none
  | _ => some state.queue

/-- After a turn the command that it has taken is gone, and with it a sender
that was not used. -/
def turned (state : State) (taken : Option Command) (panics : Option Nat)
    (result : SwarmLoop.State × List Effect) : State × Output :=
  let effects := panics.elim result.2 result.2.take
  let answered := (replies effects).foldl Oneshots.send state.calls
  ({ state with
      loop := { result.1 with exited := result.1.exited || panics.isSome }
      calls := answered.closeAll (taken.bind Command.replyTo).toList },
    .turned taken effects)

def leave (state : State) : State :=
  { state with
    receiver := false
    queue := []
    calls := state.calls.closeAll (state.queue.filterMap Command.replyTo) }

def wake (state : State) (caller : ReplyTo) : Option (State × Output) :=
  let returned := { state with calls := state.calls.erase caller }
  match state.calls.lookup caller with
  | some (.replied value) => some (returned, .returned caller (.ok value))
  | some .closed => some (returned, .returned caller (.error .nodeStopped))
  | _ => none

end State

def channel (settings : Settings) : Machine State Action Output where
  init :=
    { loop := (swarmLoop settings).init
      receiver := true
      queue := []
      senders := [.cmdTx, .handleTx]
      handle := .starting
      calls := ∅
      callers := 0 }
  step := fun state action =>
    match action with
    | .startReturns =>
        if state.handle = .starting then
          some ({ state with
              handle := .held
              senders := state.senders.erase .cmdTx },
            .quiet)
        else none
    | .sendTyped command =>
        if state.handle = .held ∧ command.replyTo = none then
          some (state.sendTyped command)
        else none
    | .queryTyped makeCmd =>
        if state.handle = .held ∧
            (makeCmd state.callers).replyTo = some state.callers then
          some (state.queryTyped makeCmd)
        else none
    | .registerEventHandler pid =>
        if state.handle = .held then
          some (state.sendTyped (.registerEventHandler pid))
        else none
    | .stopNode =>
        if state.handle = .held then some (state.sendTyped .shutdown) else none
    | .dropHandle =>
        if state.handle = .held ∧ state.calls.entries = [] then
          let (next, output) := state.sendTyped .shutdown
          some ({ next with handle := .dropping }, output)
        else none
    | .releaseHandle =>
        if state.handle = .dropping then
          some ({ state with
              handle := .dropped
              senders := state.senders.erase .handleTx },
            .quiet)
        else none
    | .turn turn panics =>
        (state.dequeue turn).bind fun queue =>
          ((swarmLoop settings).step state.loop turn).map
            ({ state with queue }.turned (commandOf turn) panics)
    | .leave =>
        if state.loop.exited && state.receiver then
          some (state.leave, .quiet)
        else none
    | .wake caller => state.wake caller

end CommandChannel

end ExLibp2p.Native
