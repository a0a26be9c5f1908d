import ExLibp2p.Native.Nif
import ExLibp2p.Native.SwarmLoop

namespace ExLibp2p.Native.RoutingTable

open ExLibp2p.Data
open ExLibp2p.Native.DhtState
open ExLibp2p.Native.SwarmLoop (Settings Answers Effect Instant swarmLoop)

/-! The two functions of `lib.rs` that save and restore the routing table, with
the command channel between them and the swarm loop. Calls into libp2p
return. -/

-- `mpsc::channel(512)`
def channelCapacity : Nat := 512

/-- The loop, the commands in its channel and the number of calls so far. A call
is known by the number of calls before it. -/
structure Node where
  loop : SwarmLoop.State
  queue : List Command
  callers : Nat

inductive Returned
  | exported (result : Except NifError Bytes)
  | imported (result : Except NifError Nat)

inductive Action
  | kadExportRoutingTable
  | kadImportRoutingTable (data : Bytes)
  | send (command : Command)
  | receive (answers : Answers)
  | disconnect (answers : Answers)
  | tick (now : Instant)
  | event (event : SwarmEvent) (now : Instant) (answers : Answers)
  -- between two turns: `catch_unwind` ends the task
  | panic

/-- A call returns at once or waits for the loop. A turn of the loop may let
waiting calls return. -/
inductive Output
  | called (caller : ReplyTo) (returned : Option Returned)
  | sent (result : Except NifError Unit)
  | turned (taken : Option Command) (effects : List Effect)
      (returned : List (ReplyTo × Returned))

def decodeError : DhtStateError → NifError
  | .inputTooLarge got max => .inputTooLarge got max
  | .truncated offset need =>
      .internal ("truncated at offset " ++ toString offset ++ ", need " ++
        toString need)
  | .badMagic _ => .internal "bad magic header"
  | .unsupportedVersion version =>
      .internal ("unsupported wire version " ++ toString version.toNat)

namespace Node

def trySend (node : Node) (command : Command) : Except NifError Node :=
  if node.loop.exited then .error .nodeStopped
  else if channelCapacity ≤ node.queue.length then .error .channelFull
  else .ok { node with queue := node.queue ++ [command] }

def kadExportRoutingTable (node : Node) : Node × Output :=
  let caller := node.callers
  let called := { node with callers := caller + 1 }
  match called.trySend (.dhtExportRoutingTable caller) with
  | .error error => (called, .called caller (some (.exported (.error error))))
  | .ok next => (next, .called caller none)

def kadImportRoutingTable (node : Node) (data : Bytes) : Node × Output :=
  let caller := node.callers
  let called := { node with callers := caller + 1 }
  match decode data with
  | .error error =>
      (called, .called caller (some (.imported (.error (decodeError error)))))
  | .ok entries =>
      match called.trySend (.dhtImportRoutingTable entries caller) with
      | .error error =>
          (called, .called caller (some (.imported (.error error))))
      | .ok next => (next, .called caller none)

end Node

def exportReply (caller : ReplyTo) :
    Effect → Option (Except Unit (List RoutingEntry))
  | .reply reply (.exported result) =>
      if reply = caller then some result else none
  | _ => none

def importReply (caller : ReplyTo) : Effect → Option (Except Unit Nat)
  | .reply reply (.imported result) =>
      if reply = caller then some result else none
  | _ => none

def finishExport (allocates : Nat → Bool) :
    Option (Except Unit (List RoutingEntry)) → Except NifError Bytes
  | none => .error .nodeStopped
  | some (.error ()) => .error .dhtNotEnabled
  | some (.ok entries) =>
      let bytes := encode entries
      if allocates bytes.length then .ok bytes
      else .error (.internal ("alloc " ++ toString bytes.length ++ " bytes"))

def finishImport : Option (Except Unit Nat) → Except NifError Nat
  | none => .error .nodeStopped
  | some (.error ()) => .error .dhtNotEnabled
  | some (.ok count) => .ok count

def finish (allocates : Nat → Bool) (effects : List Effect) :
    Command → List (ReplyTo × Returned)
  | .dhtExportRoutingTable caller =>
      [(caller, .exported (finishExport allocates
        (effects.findSome? (exportReply caller))))]
  | .dhtImportRoutingTable _ caller =>
      [(caller, .imported (finishImport
        (effects.findSome? (importReply caller))))]
  | _ => []

def usesRoutingTable : Command → Bool
  | .dhtExportRoutingTable _ => true
  | .dhtImportRoutingTable _ _ => true
  | _ => false

namespace Node

/-- After a turn of the loop. One that has ended drops its channel, and the
commands in it with their senders. -/
def continues (node : Node) (allocates : Nat → Bool) (taken : Option Command)
    (turned : SwarmLoop.State × List Effect) : Node × Output :=
  if turned.1.exited then
    ({ node with loop := turned.1, queue := [] },
      .turned taken turned.2 ((taken.toList ++ node.queue).flatMap
        (finish allocates turned.2)))
  else
    ({ node with loop := turned.1 },
      .turned taken turned.2 (taken.toList.flatMap
        (finish allocates turned.2)))

end Node

def node (settings : Settings) : Machine Node Action Output where
  init := { loop := (swarmLoop settings).init, queue := [], callers := 0 }
  step := fun node action =>
    match action with
    | .kadExportRoutingTable => some node.kadExportRoutingTable
    | .kadImportRoutingTable data => some (node.kadImportRoutingTable data)
    | .send command =>
        if usesRoutingTable command then none
        else
          match node.trySend command with
          | .error error => some (node, .sent (.error error))
          | .ok next => some (next, .sent (.ok ()))
    | .receive answers =>
        match node.queue with
        | [] => none
        | command :: rest =>
            ((swarmLoop settings).step node.loop
              (.command (some command) answers)).map
              ({ node with queue := rest }.continues answers.allocates
                (some command))
    | .disconnect answers =>
        match node.queue with
        | [] =>
            ((swarmLoop settings).step node.loop (.command none answers)).map
              (node.continues answers.allocates none)
        | _ :: _ => none
    | .tick now =>
        ((swarmLoop settings).step node.loop (.tick now)).map
          (node.continues (fun _ => true) none)
    | .event event now answers =>
        ((swarmLoop settings).step node.loop (.event event now answers)).map
          (node.continues answers.allocates none)
    | .panic =>
        if node.loop.exited then none
        else
          some (node.continues (fun _ => true) none
            ({ node.loop with exited := true }, []))

end ExLibp2p.Native.RoutingTable
