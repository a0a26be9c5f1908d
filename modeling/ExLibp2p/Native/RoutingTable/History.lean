import ExLibp2p.Native.RoutingTable
import ExLibp2p.Native.SwarmLoop.Pending

namespace ExLibp2p.Native.RoutingTable

open ExLibp2p.Data
open ExLibp2p.Native.DhtState
open ExLibp2p.Native.SwarmLoop
  (Settings Answers Effect Turn swarmLoop swarmLoop_step_eq_some importedPairs
    importRoutingTable)

/-! What a history says about one import: the calls of `add_address` made for
it, and what it returned. -/

abbrev History := List (Action × Output)

def asAddAddress : Effect → Option (PeerId × Multiaddr)
  | .addAddress peerId addr => some (peerId, addr)
  | _ => none

def addsOf (caller : ReplyTo) : Output → List (PeerId × Multiaddr)
  | .turned (some (.dhtImportRoutingTable _ reply)) effects _ =>
      if reply = caller then effects.filterMap asAddAddress else []
  | _ => []

def asImported (caller : ReplyTo) :
    ReplyTo × Returned → Option (Except NifError Nat)
  | (other, .imported result) => if other = caller then some result else none
  | _ => none

def resultsOf (caller : ReplyTo) : Output → List (Except NifError Nat)
  | .called other (some returned) =>
      (asImported caller (other, returned)).toList
  | .turned _ _ returned => returned.filterMap (asImported caller)
  | _ => []

def adds (caller : ReplyTo) (trace : History) : List (PeerId × Multiaddr) :=
  trace.flatMap fun entry => addsOf caller entry.2

def results (caller : ReplyTo) (trace : History) :
    List (Except NifError Nat) :=
  trace.flatMap fun entry => resultsOf caller entry.2

@[simp] theorem adds_snoc (caller : ReplyTo) (trace : History)
    (entry : Action × Output) :
    adds caller (trace ++ [entry]) =
      adds caller trace ++ addsOf caller entry.2 := by
  simp [adds]

@[simp] theorem results_snoc (caller : ReplyTo) (trace : History)
    (entry : Action × Output) :
    results caller (trace ++ [entry]) =
      results caller trace ++ resultsOf caller entry.2 := by
  simp [results]

def storedPairs (entries : List RoutingEntry) : List (Bytes × Bytes) :=
  entries.flatMap fun entry =>
    entry.addresses.map fun address => (entry.peerId, address)

def parsePair (settings : Settings) (pair : Bytes × Bytes) :
    Option (PeerId × Multiaddr) := do
  let peerId ← settings.peerIdFromBytes pair.1
  let addr ← settings.multiaddrTryFrom pair.2
  return (peerId, addr)

theorem importedPairs_eq (settings : Settings) (entries : List RoutingEntry) :
    importedPairs settings entries =
      (storedPairs entries).filterMap (parsePair settings) := by
  rw [importedPairs, storedPairs, List.filterMap_flatMap]
  congr
  funext entry
  rw [List.filterMap_map]
  cases parsed : settings.peerIdFromBytes entry.peerId with
  | none =>
      refine (List.filterMap_eq_nil_iff.mpr ?_).symm
      intro address _
      simp [parsePair, parsed]
  | some peerId =>
      refine List.map_filterMap.trans ?_
      congr
      funext address
      simp only [Function.comp, parsePair, parsed, Option.bind_eq_bind,
        Option.bind_some]
      cases settings.multiaddrTryFrom address <;> rfl

def asImport : Command → Option (List RoutingEntry × ReplyTo)
  | .dhtImportRoutingTable entries caller => some (entries, caller)
  | _ => none

def imports (queue : List Command) : List (List RoutingEntry × ReplyTo) :=
  queue.filterMap asImport

@[simp] theorem imports_append (first second : List Command) :
    imports (first ++ second) = imports first ++ imports second :=
  List.filterMap_append

theorem imports_cons (command : Command) (queue : List Command) :
    imports (command :: queue) =
      (asImport command).toList ++ imports queue := by
  rw [imports, List.filterMap_cons]
  cases asImport command <;> rfl

inductive Moves (settings : Settings) (before next : Node) :
    Action → Output → Prop
  | refused {data : Bytes} (error : NifError)
      (waiting : imports next.queue = imports before.queue)
      (callers : next.callers = before.callers + 1) :
      Moves settings before next (.kadImportRoutingTable data)
        (.called before.callers (some (.imported (.error error))))
  | queued {data : Bytes} {entries : List RoutingEntry}
      (decoded : decode data = .ok entries)
      (waiting : imports next.queue =
        imports before.queue ++ [(entries, before.callers)])
      (callers : next.callers = before.callers + 1) :
      Moves settings before next (.kadImportRoutingTable data)
        (.called before.callers none)
  | silent {action : Action} {output : Output}
      (other : ∀ data, action ≠ .kadImportRoutingTable data)
      (waiting : imports next.queue = imports before.queue)
      (callers : before.callers ≤ next.callers)
      (quiet : ∀ caller,
        addsOf caller output = [] ∧ resultsOf caller output = []) :
      Moves settings before next action output
  | performed {action : Action} {entries : List RoutingEntry}
      {caller : ReplyTo}
      (other : ∀ data, action ≠ .kadImportRoutingTable data)
      (waiting : imports before.queue =
        (entries, caller) :: imports next.queue)
      (callers : next.callers = before.callers) :
      Moves settings before next action
        (.turned (some (.dhtImportRoutingTable entries caller))
          (importRoutingTable settings entries caller)
          [(caller, .imported (finishImport
            ((importRoutingTable settings entries caller).findSome?
              (importReply caller))))])
  | stopped {action : Action} {output : Output}
      (other : ∀ data, action ≠ .kadImportRoutingTable data)
      (waiting : imports next.queue = [])
      (callers : next.callers = before.callers)
      (dropped : ∀ caller, addsOf caller output = [] ∧
        resultsOf caller output = (imports before.queue).filterMap fun entry =>
          if entry.2 = caller then some (.error .nodeStopped) else none) :
      Moves settings before next action output

theorem trySend_eq_ok {node next : Node} {command : Command}
    (sent : node.trySend command = .ok next) :
    next = { node with queue := node.queue ++ [command] } := by
  simp only [Node.trySend] at sent
  split at sent
  · contradiction
  · split at sent
    · contradiction
    · cases sent
      rfl

theorem resultsOf_finish_of_plain {command : Command}
    (plain : asImport command = none) (allocates : Nat → Bool)
    (effects : List Effect) (caller : ReplyTo) :
    (finish allocates effects command).filterMap (asImported caller) = [] := by
  cases command with
  | dhtImportRoutingTable entries reply => cases plain
  | dhtExportRoutingTable reply => rfl
  | _ => rfl

theorem resultsOf_finish_dropped (allocates : Nat → Bool)
    (queue : List Command) (caller : ReplyTo) :
    (queue.flatMap (finish allocates [])).filterMap (asImported caller) =
      (imports queue).filterMap fun entry =>
        if entry.2 = caller then some (.error .nodeStopped) else none := by
  induction queue with
  | nil => rfl
  | cons command rest induction =>
      rw [List.flatMap_cons, List.filterMap_append, induction, imports_cons,
        List.filterMap_append]
      congr 1
      cases isImport : asImport command with
      | none => exact resultsOf_finish_of_plain isImport allocates [] caller
      | some entry =>
          cases command with
          | dhtImportRoutingTable entries reply =>
              cases isImport
              rfl
          | _ => cases isImport

theorem Moves.of_continues {settings : Settings} {before node : Node}
    {action : Action} {allocates : Nat → Bool} {taken : Option Command}
    {loop : SwarmLoop.State} {effects : List Effect}
    (other : ∀ data, action ≠ .kadImportRoutingTable data)
    (queue : before.queue = taken.toList ++ node.queue)
    (callers : node.callers = before.callers)
    (plain : ∀ command ∈ taken, asImport command = none)
    (ended : loop.exited = true → effects = []) :
    Moves settings before (node.continues allocates taken (loop, effects)).1
      action (node.continues allocates taken (loop, effects)).2 := by
  have noAdds : ∀ caller returned,
      addsOf caller (.turned taken effects returned) = [] := by
    intro caller returned
    cases taken with
    | none => rfl
    | some command =>
        cases command with
        | dhtImportRoutingTable entries reply => cases plain _ rfl
        | _ => rfl
  have noImports : imports taken.toList = [] := by
    cases taken with
    | none => rfl
    | some command =>
        rw [Option.toList_some, imports_cons, plain command rfl]
        rfl
  simp only [Node.continues]
  split
  · rename_i exited
    obtain rfl := ended exited
    refine .stopped other rfl callers ?_
    intro caller
    refine ⟨noAdds caller _, ?_⟩
    rw [queue]
    exact resultsOf_finish_dropped allocates _ caller
  · refine .silent other ?_ (Nat.le_of_eq callers.symm) ?_
    · rw [queue, imports_append, noImports, List.nil_append]
    · intro caller
      refine ⟨noAdds caller _, ?_⟩
      cases taken with
      | none => rfl
      | some command =>
          rw [Option.toList_some, List.flatMap_singleton]
          exact resultsOf_finish_of_plain (plain command rfl) allocates effects
            caller

theorem Moves.of_receive {settings : Settings} {before : Node}
    {answers : Answers} {command : Command} {rest : List Command}
    {loop : SwarmLoop.State} {effects : List Effect}
    (queue : before.queue = command :: rest)
    (turned : (swarmLoop settings).step before.loop
      (.command (some command) answers) = some (loop, effects)) :
    let result := { before with queue := rest }.continues answers.allocates
      (some command) (loop, effects)
    Moves settings before result.1 (.receive answers) result.2 := by
  have other : ∀ data,
      Action.receive answers ≠ .kadImportRoutingTable data := by
    intro data same
    cases same
  have inverted := swarmLoop_step_eq_some turned
  cases isImport : asImport command with
  | none =>
      refine .of_continues other queue rfl ?_ ?_
      · intro taken same
        cases same
        exact isImport
      · intro exited
        rcases inverted with running | ended
        · rw [running.1] at exited
          contradiction
        · exact ended.2.1
  | some entry =>
      cases command with
      | dhtImportRoutingTable entries caller =>
          cases isImport
          rcases inverted with ⟨running, locals, -, produced⟩ | ended
          · cases produced
            simp only [Node.continues, running, Bool.false_eq_true, if_false]
            refine .performed other ?_ rfl
            rw [queue]
            rfl
          · cases ended.2.2
      | _ => cases isImport

theorem Moves.of_turn {settings : Settings} {before : Node} {action : Action}
    {turn : Turn} {allocates : Nat → Bool} {loop : SwarmLoop.State}
    {effects : List Effect}
    (other : ∀ data, action ≠ .kadImportRoutingTable data)
    (turned : (swarmLoop settings).step before.loop turn =
      some (loop, effects)) :
    Moves settings before (before.continues allocates none (loop, effects)).1
      action (before.continues allocates none (loop, effects)).2 := by
  refine .of_continues other rfl rfl ?_ ?_
  · intro command isNone
    cases isNone
  · intro exited
    rcases swarmLoop_step_eq_some turned with running | ended
    · rw [running.1] at exited
      contradiction
    · exact ended.2.1

theorem Moves.of_export {settings : Settings} {before : Node} :
    Moves settings before before.kadExportRoutingTable.1
      .kadExportRoutingTable before.kadExportRoutingTable.2 := by
  simp only [Node.kadExportRoutingTable]
  split
  · refine .silent (by simp) rfl (Nat.le_succ _) ?_
    intro caller
    exact ⟨rfl, rfl⟩
  · rename_i sent
    rw [trySend_eq_ok sent]
    refine .silent (by simp) ?_ (Nat.le_succ _) ?_
    · rw [imports_append]
      exact List.append_nil _
    · intro caller
      exact ⟨rfl, rfl⟩

theorem Moves.of_import {settings : Settings} {before : Node} (data : Bytes) :
    Moves settings before (before.kadImportRoutingTable data).1
      (.kadImportRoutingTable data) (before.kadImportRoutingTable data).2 := by
  simp only [Node.kadImportRoutingTable]
  split
  · exact .refused _ rfl rfl
  · rename_i entries decoded
    split
    · exact .refused _ rfl rfl
    · rename_i sent
      rw [trySend_eq_ok sent]
      refine .queued decoded ?_ rfl
      rw [imports_append]
      rfl

theorem Moves.of_send {settings : Settings} {before next : Node}
    {command : Command} {output : Output}
    (taken : (node settings).step before (.send command) =
      some (next, output)) :
    Moves settings before next (.send command) output := by
  simp only [node] at taken
  split at taken
  · contradiction
  · rename_i plain
    split at taken
    · cases taken
      refine .silent (by simp) rfl (Nat.le_refl _) ?_
      intro caller
      exact ⟨rfl, rfl⟩
    · rename_i sent
      cases taken
      rw [trySend_eq_ok sent]
      refine .silent (by simp) ?_ (Nat.le_refl _) ?_
      · have noImport : imports [command] = [] := by
          cases command with
          | dhtImportRoutingTable entries caller => exact absurd rfl plain
          | _ => rfl
        rw [imports_append, noImport, List.append_nil]
      · intro caller
        exact ⟨rfl, rfl⟩

theorem Moves.of_eq {settings : Settings} {before next : Node}
    {action : Action} {output : Output} {result : Node × Output}
    (equal : result = (next, output))
    (moves : Moves settings before result.1 action result.2) :
    Moves settings before next action output := by
  subst equal
  exact moves

theorem Moves.of_step {settings : Settings} {before next : Node}
    {action : Action} {output : Output}
    (taken : (node settings).step before action = some (next, output)) :
    Moves settings before next action output := by
  cases action with
  | kadExportRoutingTable => exact .of_eq (Option.some.inj taken) .of_export
  | kadImportRoutingTable data =>
      exact .of_eq (Option.some.inj taken) (.of_import data)
  | send command => exact .of_send taken
  | receive answers =>
      simp only [node] at taken
      cases queue : before.queue with
      | nil => simp [queue] at taken
      | cons command rest =>
          simp only [queue, Option.map_eq_some_iff] at taken
          obtain ⟨⟨loop, effects⟩, turned, equal⟩ := taken
          exact .of_eq equal (.of_receive queue turned)
  | disconnect answers =>
      simp only [node] at taken
      split at taken
      · obtain ⟨⟨loop, effects⟩, turned, equal⟩ :=
          Option.map_eq_some_iff.mp taken
        exact .of_eq equal (.of_turn (by simp) turned)
      · contradiction
  | tick now =>
      obtain ⟨⟨loop, effects⟩, turned, equal⟩ :=
        Option.map_eq_some_iff.mp taken
      exact .of_eq equal (.of_turn (by simp) turned)
  | event event now answers =>
      obtain ⟨⟨loop, effects⟩, turned, equal⟩ :=
        Option.map_eq_some_iff.mp taken
      exact .of_eq equal (.of_turn (by simp) turned)
  | panic =>
      simp only [node] at taken
      split at taken
      · contradiction
      · refine .of_eq (Option.some.inj taken) (.of_continues ?_ rfl rfl ?_ ?_)
        · intro data same
          cases same
        · intro command isNone
          cases isNone
        · intro _
          rfl

end ExLibp2p.Native.RoutingTable
