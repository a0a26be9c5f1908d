import ExLibp2p.Erlang.Term

namespace ExLibp2p.Node.Shutdown

open ExLibp2p.Data
open ExLibp2p.Erlang

/-! What `terminate/2` does to the registry, the native side and the storage,
in its order, for each way in which these can answer. -/

variable {Pid Handle : Type}

structure State (Handle : Type) where
  handle : Handle
  dhtStatePath : Option String

inductive Effect (Pid Handle : Type)
  | cleanupNode (node : Pid)
  | kadExportRoutingTable (handle : Handle)
  | write (path : String) (bytes : Bytes)
  | stopNode (handle : Handle)
  deriving DecidableEq

/-- How a `GenServer.call` ends. All but a reply exit the caller. -/
inductive CallOutcome
  | reply
  | timeout
  | noproc
  deriving DecidableEq

structure Outcomes where
  cleanup : CallOutcome
  exported : Except Term Bytes
  written : Except Term Unit

/-- Effects in their order, up to an exit with the outcome of a call. -/
abbrev Script (Pid Handle : Type) :=
  ExceptT CallOutcome (StateM (List (Effect Pid Handle)))

def perform (effect : Effect Pid Handle) : Script Pid Handle Unit :=
  modify (· ++ [effect])

section Terminate

variable (outcomes : Outcomes)

def cleanupNode (node : Pid) : Script Pid Handle Unit := do
  perform (.cleanupNode node)
  match outcomes.cleanup with
  | .reply => return
  | failure => throw failure

def maybeExportDhtState (state : State Handle) : Script Pid Handle Unit := do
  match state.dhtStatePath with
  | none => return
  | some path =>
      perform (.kadExportRoutingTable state.handle)
      match outcomes.exported with
      | .ok bytes =>
          perform (.write path bytes)
          match outcomes.written with
          | .ok () => return
          | .error _ => return
      | .error _ => return

def terminate (self : Pid) (state : State Handle) : Script Pid Handle Unit := do
  cleanupNode outcomes self
  maybeExportDhtState outcomes state
  perform (.stopNode state.handle)

end Terminate

def run (script : Script Pid Handle Unit) :
    Except CallOutcome Unit × List (Effect Pid Handle) :=
  StateT.run (ExceptT.run script) []

structure Completes (outcomes : Outcomes) (state : State Handle)
    (result : Except CallOutcome Unit × List (Effect Pid Handle)) : Prop where
  returns : result.1 = .ok ()
  stopsLast : ∃ before, result.2 = before ++ [.stopNode state.handle] ∧
    ∀ handle, .stopNode handle ∉ before
  exports : state.dhtStatePath.isSome →
    .kadExportRoutingTable state.handle ∈ result.2
  writes : ∀ path bytes, .write path bytes ∈ result.2 ↔
    state.dhtStatePath = some path ∧ outcomes.exported = .ok bytes
  once : result.2.Nodup

def exportEffects (outcomes : Outcomes) (state : State Handle) :
    List (Effect Pid Handle) :=
  match state.dhtStatePath, outcomes.exported with
  | none, _ => []
  | some _, .error _ => [.kadExportRoutingTable state.handle]
  | some path, .ok bytes =>
      [.kadExportRoutingTable state.handle, .write path bytes]

theorem run_terminate (outcomes : Outcomes) (self : Pid) (state : State Handle) :
    run (terminate outcomes self state) =
      match outcomes.cleanup with
      | .reply => (.ok (), .cleanupNode self ::
          (exportEffects outcomes state ++ [.stopNode state.handle]))
      | failure => (.error failure, [.cleanupNode self]) := by
  obtain ⟨cleanup, exported, written⟩ := outcomes
  obtain ⟨handle, path⟩ := state
  cases cleanup with
  | timeout => rfl
  | noproc => rfl
  | reply =>
      cases path with
      | none => rfl
      | some path =>
          cases exported with
          | error reason => rfl
          | ok bytes =>
              cases written with
              | error reason => rfl
              | ok done => rfl

/-- No outcome of the export and the write keeps a shutdown from completing,
and only an answer of the registry lets it complete. -/
theorem completes_iff_reply (outcomes : Outcomes) (self : Pid)
    (state : State Handle) :
    Completes outcomes state (run (terminate outcomes self state)) ↔
      outcomes.cleanup = .reply := by
  rw [run_terminate]
  constructor
  · intro completes
    have returns := completes.returns
    cases cleanup : outcomes.cleanup with
    | reply => rfl
    | timeout =>
        rw [cleanup] at returns
        cases returns
    | noproc =>
        rw [cleanup] at returns
        cases returns
  · intro cleanup
    rw [cleanup]
    refine ⟨rfl, ⟨.cleanupNode self :: exportEffects outcomes state, rfl, ?_⟩,
      ?_, ?_, ?_⟩
    all_goals
      obtain ⟨cleanup, exported, written⟩ := outcomes
      obtain ⟨handle, path⟩ := state
      cases path with
      | none => simp [exportEffects]
      | some path =>
          cases exported with
          | error reason => simp [exportEffects]
          | ok bytes => simp [exportEffects, eq_comm]

/-! The supervision tree. A crash under `:rest_for_one` takes the children that
were started after the crashed one down, the last one first, before any of them
is started again. -/

inductive Child
  | registry
  | handlerRegistry
  | nodeSupervisor
  deriving DecidableEq

def children : List Child :=
  [.registry, .handlerRegistry, .nodeSupervisor]

def takenDown (crashed : Child) : List Child :=
  (children.dropWhile (· ≠ crashed)).tail.reverse

def stillRunning (crashed : Child) : List Child :=
  children.takeWhile (· ≠ crashed)

def callRegistry (running : List Child) (answers : Bool) : CallOutcome :=
  if .handlerRegistry ∈ running then
    if answers then .reply else .timeout
  else
    .noproc

/-- The nodes that a crash of the registry takes down leave their swarms
running and their routing tables unsaved. -/
theorem registryCrash_not_completes :
    .nodeSupervisor ∈ takenDown .handlerRegistry ∧
      ∀ answers exported written,
        ¬ Completes
          ⟨callRegistry (stillRunning .handlerRegistry) answers, exported, written⟩
          (State.mk 1 (some "dht.bin"))
          (run (terminate
            ⟨callRegistry (stillRunning .handlerRegistry) answers, exported,
              written⟩ 7 (State.mk 1 (some "dht.bin")))) := by
  refine ⟨by decide, ?_⟩
  intro answers exported written completes
  have returns := completes.returns
  rw [run_terminate] at returns
  cases returns

end ExLibp2p.Node.Shutdown
