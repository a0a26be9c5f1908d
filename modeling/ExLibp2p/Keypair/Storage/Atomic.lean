import ExLibp2p.Keypair.Storage.File

namespace ExLibp2p.Keypair.Storage

open ExLibp2p.Data

abbrev History := List (Input × Output)

theorem tmpPath_ne (path : String) : tmpPath path ≠ path := by
  intro same
  have lengths := congrArg String.length same
  rw [tmpPath, String.length_append] at lengths
  have suffix : ".tmp".length = 4 := rfl
  omega

def newFile (bytes : Bytes) : File where
  content := bytes
  mode := ownerOnly

def removalFailed (trace : History) : Prop :=
  .removeFailed ∈ trace.map Prod.snd

section Invariant

variable (old : FileSystem) (path : String) (bytes : Bytes)

def Contents (trace : History) (files : FileSystem) : Stage → Prop
  | .opening => files path = old path
  | .appending remaining =>
      files path = old path ∧ ∃ written mode,
        files (tmpPath path) = some { content := written, mode } ∧
          written ++ remaining = bytes
  | .chmodding =>
      files path = old path ∧
        ∃ mode, files (tmpPath path) = some { content := bytes, mode }
  | .renaming =>
      files path = old path ∧ files (tmpPath path) = some (newFile bytes)
  | .removing _ => files path = old path
  | .returned (.ok ()) =>
      files path = some (newFile bytes) ∧ files (tmpPath path) = none
  | .returned (.error _) =>
      files path = old path ∧
        (files (tmpPath path) = none ∨ removalFailed trace)

variable {old path bytes}

theorem Contents.visible {trace : History} {files : FileSystem} {stage : Stage}
    (contents : Contents old path bytes trace files stage) :
    files path = old path ∨ files path = some (newFile bytes) := by
  cases stage with
  | opening => exact .inl contents
  | removing reason => exact .inl contents
  | returned result =>
      cases result with
      | error reason => exact .inl contents.1
      | ok => exact .inr contents.1
  | _ => exact .inl contents.1

theorem Contents.before_return {trace : History} {files : FileSystem}
    {stage : Stage} (contents : Contents old path bytes trace files stage)
    (unfinished : ∀ result, stage ≠ .returned result) :
    files path = old path := by
  cases stage with
  | opening => exact contents
  | removing reason => exact contents
  | returned result => exact absurd rfl (unfinished result)
  | _ => exact contents.1

theorem Contents.snoc {trace : History} {files : FileSystem} {stage : Stage}
    (contents : Contents old path bytes trace files stage)
    (entry : Input × Output) :
    Contents old path bytes (trace ++ [entry]) files stage := by
  cases stage with
  | returned result =>
      cases result with
      | ok => exact contents
      | error reason =>
          refine ⟨contents.1, contents.2.imp_right ?_⟩
          intro failed
          rw [removalFailed, List.map_append]
          exact List.mem_append_left _ failed
  | _ => exact contents

end Invariant

inductive Move (path : String) (bytes : Bytes) (writer : Writer) :
    Input → Writer → Output → Prop
  | read (other : String) :
      Move path bytes writer (.read other) writer (.seen (writer.files other))
  | failed {reason : String}
      (first : ∀ reason, writer.stage ≠ .removing reason)
      (unfinished : ∀ result, writer.stage ≠ .returned result) :
      Move path bytes writer (.fail reason)
        { writer with stage := .removing reason } .failed
  | removeFailed {reason first : String}
      (stage : writer.stage = .removing first) :
      Move path bytes writer (.fail reason)
        { writer with stage := .returned (.error first) } .removeFailed
  | opened {mode : Nat} (stage : writer.stage = .opening) :
      Move path bytes writer (.openWrite mode)
        { files := writer.files.openWrite (tmpPath path) mode
          stage := .appending bytes } .done
  | appended {count : Nat} {remaining : Bytes} {file : File}
      (stage : writer.stage = .appending remaining)
      (positive : 0 < count) (bound : count ≤ remaining.length)
      (held : writer.files (tmpPath path) = some file) :
      Move path bytes writer (.append count)
        { files := writer.files.set (tmpPath path) (some
            { file with content := file.content ++ remaining.take count })
          stage := .appending (remaining.drop count) } .done
  | closed (stage : writer.stage = .appending []) :
      Move path bytes writer .close { writer with stage := .chmodding } .done
  | chmodded {file : File} (stage : writer.stage = .chmodding)
      (held : writer.files (tmpPath path) = some file) :
      Move path bytes writer .chmod
        { files := writer.files.set (tmpPath path)
            (some { file with mode := ownerOnly })
          stage := .renaming } .done
  | renamed {file : File} (stage : writer.stage = .renaming)
      (held : writer.files (tmpPath path) = some file) :
      Move path bytes writer .rename
        { files := (writer.files.set (tmpPath path) none).set path (some file)
          stage := .returned (.ok ()) } .done
  | removed {reason : String} (stage : writer.stage = .removing reason) :
      Move path bytes writer .remove
        { files := writer.files.set (tmpPath path) none
          stage := .returned (.error reason) } .done

section Moves

variable {path : String} {bytes : Bytes} {writer next : Writer} {input : Input}
  {output : Output}

theorem goes_eq_some {stage : Stage} {files : Option FileSystem} :
    writer.goes stage files = some (next, output) ↔
      ∃ changed, files = some changed ∧ next = { files := changed, stage } ∧
        output = .done := by
  rw [Writer.goes, Option.map_eq_some_iff]
  constructor
  · intro found
    obtain ⟨changed, same, equal⟩ := found
    cases equal
    exact ⟨changed, same, rfl, rfl⟩
  · intro found
    obtain ⟨changed, same, rfl, rfl⟩ := found
    exact ⟨changed, same, rfl⟩

theorem Move.of_fail {reason : String}
    (taken : fail writer reason = some (next, output)) :
    Move path bytes writer (.fail reason) next output := by
  rw [fail] at taken
  split at taken
  · rename_i first stage
    cases taken
    exact .removeFailed stage
  · cases taken
  · rename_i first unfinished
    cases taken
    exact .failed first unfinished

theorem Move.of_step
    (taken : step path bytes writer input = some (next, output)) :
    Move path bytes writer input next output := by
  unfold step at taken
  split at taken
  · cases taken
    exact .read _
  · exact .of_fail taken
  · rename_i mode stage
    obtain ⟨changed, same, rfl, rfl⟩ := goes_eq_some.mp taken
    cases same
    exact .opened stage
  · rename_i remaining count stage
    split at taken
    · rename_i fits
      obtain ⟨changed, same, rfl, rfl⟩ := goes_eq_some.mp taken
      obtain ⟨file, held, rfl⟩ := Option.map_eq_some_iff.mp same
      exact .appended stage fits.1 fits.2 held
    · cases taken
  · rename_i stage
    obtain ⟨changed, same, rfl, rfl⟩ := goes_eq_some.mp taken
    cases same
    exact .closed stage
  · rename_i stage
    obtain ⟨changed, same, rfl, rfl⟩ := goes_eq_some.mp taken
    obtain ⟨file, held, rfl⟩ := Option.map_eq_some_iff.mp same
    exact .chmodded stage held
  · rename_i stage
    obtain ⟨changed, same, rfl, rfl⟩ := goes_eq_some.mp taken
    obtain ⟨file, held, rfl⟩ := Option.map_eq_some_iff.mp same
    exact .renamed stage held
  · rename_i reason stage
    obtain ⟨changed, same, rfl, rfl⟩ := goes_eq_some.mp taken
    obtain ⟨file, held, rfl⟩ := Option.map_eq_some_iff.mp same
    exact .removed stage
  · cases taken

end Moves

section Preservation

variable {old : FileSystem} {path : String} {bytes : Bytes} {trace : History}
  {writer next : Writer} {input : Input} {output : Output}

theorem Contents.move
    (contents : Contents old path bytes trace writer.files writer.stage)
    (move : Move path bytes writer input next output) :
    Contents old path bytes (trace ++ [(input, output)]) next.files
      next.stage := by
  have apart := (tmpPath_ne path).symm
  cases move with
  | read other => exact contents.snoc _
  | failed first unfinished => exact contents.before_return unfinished
  | removeFailed stage =>
      rw [stage] at contents
      refine ⟨contents, .inr ?_⟩
      simp [removalFailed]
  | opened stage =>
      rw [stage] at contents
      exact ⟨(FileSystem.set_other apart).trans contents, [], _,
        FileSystem.set_same .., rfl⟩
  | @appended count remaining file stage positive bound held =>
      rw [stage] at contents
      obtain ⟨untouched, written, mode, standing, whole⟩ := contents
      rw [held] at standing
      cases standing
      refine ⟨(FileSystem.set_other apart).trans untouched, _, mode,
        FileSystem.set_same .., ?_⟩
      rw [List.append_assoc, List.take_append_drop]
      exact whole
  | closed stage =>
      rw [stage] at contents
      obtain ⟨untouched, written, mode, standing, whole⟩ := contents
      rw [List.append_nil] at whole
      subst whole
      exact ⟨untouched, mode, standing⟩
  | chmodded stage held =>
      rw [stage] at contents
      obtain ⟨untouched, mode, standing⟩ := contents
      rw [held] at standing
      cases standing
      exact ⟨(FileSystem.set_other apart).trans untouched,
        FileSystem.set_same ..⟩
  | renamed stage held =>
      rw [stage] at contents
      obtain ⟨untouched, standing⟩ := contents
      rw [held] at standing
      cases standing
      exact ⟨FileSystem.set_same ..,
        (FileSystem.set_other apart.symm).trans (FileSystem.set_same ..)⟩
  | removed stage =>
      rw [stage] at contents
      exact ⟨(FileSystem.set_other apart).trans contents,
        .inl (FileSystem.set_same ..)⟩

/-- Only the destination and the temporary file change. -/
theorem Move.frame (move : Move path bytes writer input next output)
    {other : String} (notPath : other ≠ path) (notTmp : other ≠ tmpPath path) :
    next.files other = writer.files other := by
  cases move with
  | opened stage => exact FileSystem.set_other notTmp
  | appended stage positive bound held => exact FileSystem.set_other notTmp
  | chmodded stage held => exact FileSystem.set_other notTmp
  | renamed stage held =>
      exact (FileSystem.set_other notPath).trans (FileSystem.set_other notTmp)
  | removed stage => exact FileSystem.set_other notTmp
  | _ => rfl

end Preservation

def Input.isPrimitive : Input → Bool
  | .read _ => false
  | _ => true

def primitives (trace : History) : Nat :=
  trace.countP fun entry => entry.1.isPrimitive

def Stage.ahead (bytes : Bytes) : Stage → Nat
  | .opening => bytes.length + 5
  | .appending remaining => remaining.length + 4
  | .chmodding => 3
  | .renaming => 2
  | .removing _ => 1
  | .returned _ => 0

theorem Move.ahead_lt {path : String} {bytes : Bytes} {writer next : Writer}
    {input : Input} {output : Output}
    (move : Move path bytes writer input next output)
    (primitive : input.isPrimitive = true) :
    next.stage.ahead bytes < writer.stage.ahead bytes := by
  cases move with
  | read other => cases primitive
  | failed first unfinished =>
      cases stage : writer.stage with
      | removing reason => exact absurd stage (first reason)
      | returned result => exact absurd stage (unfinished result)
      | _ =>
          simp only [Stage.ahead]
          omega
  | appended stage positive bound held =>
      rw [stage]
      simp only [Stage.ahead, List.length_drop]
      omega
  | opened stage =>
      rw [stage]
      exact Nat.lt_succ_self _
  | removeFailed stage =>
      rw [stage]
      exact Nat.one_pos
  | closed stage =>
      rw [stage]
      exact Nat.lt_succ_self 3
  | chmodded stage held =>
      rw [stage]
      exact Nat.lt_succ_self 2
  | renamed stage held =>
      rw [stage]
      exact Nat.two_pos
  | removed stage =>
      rw [stage]
      exact Nat.one_pos

def Writer.CanProceed (path : String) (bytes : Bytes) (writer : Writer) :
    Prop :=
  ∃ input next, input.isPrimitive ∧
    step path bytes writer input = some (next, .done)

theorem canProceed_of_goes {path : String} {bytes : Bytes} {writer : Writer}
    {stage : Stage} {files : Option FileSystem} (input : Input)
    (primitive : input.isPrimitive = true)
    (goes : step path bytes writer input = writer.goes stage files)
    (possible : files.isSome) : writer.CanProceed path bytes := by
  obtain ⟨changed, rfl⟩ := Option.isSome_iff_exists.mp possible
  exact ⟨input, { files := changed, stage }, primitive, goes⟩

theorem Contents.canProceed {old files : FileSystem} {path : String}
    {bytes : Bytes} {trace : History} {stage : Stage}
    (contents : Contents old path bytes trace files stage) :
    Writer.CanProceed path bytes { files, stage } ∨
      (∃ reason, stage = .removing reason ∧ files (tmpPath path) = none) ∨
      ∃ result, stage = .returned result := by
  match stage, contents with
  | .opening, _ =>
      exact .inl (canProceed_of_goes (.openWrite 0o644) rfl rfl rfl)
  | .appending [], _ =>
      exact .inl (canProceed_of_goes .close rfl rfl rfl)
  | .appending (byte :: remaining), ⟨_, written, mode, held, _⟩ =>
      have fits : 0 < 1 ∧ 1 ≤ (byte :: remaining).length :=
        ⟨Nat.one_pos, Nat.le_add_left 1 _⟩
      let writer : Writer := ⟨files, .appending (byte :: remaining)⟩
      have goes : step path bytes writer (.append 1) = writer.goes
          (.appending remaining) (files.append (tmpPath path) [byte]) := by
        simp only [step, writer, if_pos fits]
        rfl
      refine .inl (canProceed_of_goes (.append 1) rfl goes ?_)
      simp [FileSystem.append, held]
  | .chmodding, ⟨_, mode, held⟩ =>
      refine .inl (canProceed_of_goes .chmod rfl rfl ?_)
      simp [FileSystem.chmod, held]
  | .renaming, ⟨_, held⟩ =>
      refine .inl (canProceed_of_goes .rename rfl rfl ?_)
      simp [FileSystem.rename, held]
  | .removing reason, _ =>
      cases held : files (tmpPath path) with
      | none => exact .inr (.inl ⟨reason, rfl, rfl⟩)
      | some file =>
          refine .inl (canProceed_of_goes .remove rfl rfl ?_)
          simp [FileSystem.remove, held]
  | .returned result, _ => exact .inr (.inr ⟨result, rfl⟩)

/-- What a write guarantees after any history of its steps and of readers. -/
structure Atomic (old : FileSystem) (path : String) (bytes : Bytes)
    (trace : History) (writer : Writer) : Prop where
  seen : ∀ file, (.read path, .seen file) ∈ trace →
    file = old path ∨ file = some { content := bytes, mode := 0o600 }
  standing : writer.files path = old path ∨
    writer.files path = some { content := bytes, mode := 0o600 }
  succeeded : writer.stage = .returned (.ok ()) →
    writer.files path = some { content := bytes, mode := 0o600 } ∧
      writer.files (path ++ ".tmp") = none
  failed : ∀ reason, writer.stage = .returned (.error reason) →
    writer.files path = old path ∧
      (writer.files (path ++ ".tmp") = none ∨
        .removeFailed ∈ trace.map Prod.snd)
  untouched : ∀ other, other ≠ path → other ≠ path ++ ".tmp" →
    writer.files other = old other
  returns : primitives trace ≤ bytes.length + 5 ∧
    ((∀ result, writer.stage ≠ .returned result) →
      ∃ input, input.isPrimitive ∧ (step path bytes writer input).isSome)
  proceeds : writer.CanProceed path bytes ∨
    (∃ reason, writer.stage = .removing reason ∧
      writer.files (path ++ ".tmp") = none) ∨
    ∃ result, writer.stage = .returned result

section Runs

variable {old : FileSystem} {path : String} {bytes : Bytes} {trace : History}
  {writer : Writer}

theorem contents_of_run (run : (write path bytes old).Run trace writer) :
    Contents old path bytes trace writer.files writer.stage := by
  have initial : Contents old path bytes [] old .opening := rfl
  refine run.invariant (fun trace writer =>
    Contents old path bytes trace writer.files writer.stage) initial ?_
  intro trace writer input next output earlier contents taken
  exact contents.move (.of_step taken)

theorem untouched_of_run (run : (write path bytes old).Run trace writer)
    {other : String} (notPath : other ≠ path) (notTmp : other ≠ tmpPath path) :
    writer.files other = old other := by
  refine run.invariant (fun _ writer => writer.files other = old other) rfl ?_
  intro trace writer input next output earlier untouched taken
  exact ((Move.of_step taken).frame notPath notTmp).trans untouched

theorem primitives_of_run (run : (write path bytes old).Run trace writer) :
    primitives trace + writer.stage.ahead bytes ≤ bytes.length + 5 := by
  refine run.invariant (fun trace writer =>
    primitives trace + writer.stage.ahead bytes ≤ bytes.length + 5)
    (Nat.le_of_eq (Nat.zero_add _)) ?_
  intro trace writer input next output earlier bound taken
  have move := Move.of_step taken
  rw [primitives, List.countP_append, List.countP_singleton]
  by_cases primitive : input.isPrimitive = true
  · have less := move.ahead_lt primitive
    rw [if_pos primitive]
    rw [primitives] at bound
    omega
  · have isRead : next = writer := by
      cases move with
      | read other => rfl
      | _ => exact absurd rfl primitive
    rw [if_neg primitive, isRead]
    exact bound

theorem seen_of_run (run : (write path bytes old).Run trace writer)
    {file : Option File} (member : (Input.read path, Output.seen file) ∈ trace) :
    file = old path ∨ file = some (newFile bytes) := by
  obtain ⟨earlier, later, rfl⟩ := List.append_of_mem member
  obtain ⟨before, after, reached, taken, -⟩ := run.step_of_mem
  have visible := (contents_of_run reached).visible
  have move : Move path bytes before (.read path) after (.seen file) :=
    .of_step taken
  cases move with
  | read other => exact visible

/-- A write is atomic under every failure and for every reader. -/
theorem write_atomic (run : (write path bytes old).Run trace writer) :
    Atomic old path bytes trace writer := by
  have contents := contents_of_run run
  refine
    { seen := fun file member => seen_of_run run member
      standing := contents.visible
      succeeded := ?_
      failed := ?_
      untouched := fun other => untouched_of_run run
      returns := ⟨?_, ?_⟩
      proceeds := contents.canProceed }
  · intro stage
    rw [stage] at contents
    exact contents
  · intro reason stage
    rw [stage] at contents
    exact contents
  · exact Nat.le_trans (Nat.le_add_right _ _) (primitives_of_run run)
  · intro unfinished
    refine ⟨.fail "eio", rfl, ?_⟩
    change (fail writer "eio").isSome
    rw [fail]
    split
    · rfl
    · rename_i result stage
      exact absurd stage (unfinished result)
    · rfl

end Runs

def oldKey : FileSystem := fun path =>
  if path = "node.key" then some { content := [1, 2], mode := 0o644 }
  else if path = "node.key.tmp" then some { content := [9], mode := 0o644 }
  else none

/-- A write over a leftover file, read at every stage, whose rename fails. -/
def failedRename : List Input :=
  [.read "node.key", .openWrite 0o644, .append 2, .read "node.key", .append 1,
    .close, .chmod, .read "node.key", .fail "exdev", .remove, .read "node.key"]

def completed : List Input :=
  [.openWrite 0o600, .append 1, .append 2, .read "node.key", .close, .chmod,
    .rename, .read "node.key"]

def Stage.isOk : Stage → Bool
  | .returned (.ok ()) => true
  | _ => false

theorem completed_isOk :
    ((write "node.key" [3, 4, 5] oldKey).start completed).map
      (·.2.stage.isOk) = some true := by
  decide

/-- One write fails at its rename, another comes to its end. -/
theorem write_atomic_failed_and_completed :
    (∃ trace writer,
      (write "node.key" [3, 4, 5] oldKey).Run trace writer ∧
      trace.map Prod.fst = failedRename ∧
      Atomic oldKey "node.key" [3, 4, 5] trace writer) ∧
    ∃ trace writer,
      (write "node.key" [3, 4, 5] oldKey).Run trace writer ∧
      trace.map Prod.fst = completed ∧ writer.stage.isOk ∧
      Atomic oldKey "node.key" [3, 4, 5] trace writer := by
  constructor
  · obtain ⟨trace, writer, -, run, inputs⟩ := Machine.exists_run_of_start
      (by decide :
        ((write "node.key" [3, 4, 5] oldKey).start failedRename).isSome)
    exact ⟨trace, writer, run, inputs, write_atomic run⟩
  · obtain ⟨ended, started, isOk⟩ := Option.map_eq_some_iff.mp completed_isOk
    obtain ⟨trace, writer, accepted, run, inputs⟩ :=
      Machine.exists_run_of_start (Option.isSome_of_mem started)
    cases started.symm.trans accepted
    exact ⟨trace, writer, run, inputs, isOk, write_atomic run⟩

end ExLibp2p.Keypair.Storage
