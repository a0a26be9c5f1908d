import ExLibp2p.Data.Disk
import ExLibp2p.Keypair.Storage.Atomic

namespace ExLibp2p.Keypair.Storage

open ExLibp2p.Data

/-! Calls of `write/2` on one path that interleave, with readers between any
two primitives. No primitive fails unless its path is missing. -/

/-- Where a call stands. While it appends, it holds an open file and its
position there. -/
inductive Progress
  | opening
  | appending (inode position : Nat) (remaining : Bytes)
  | chmodding
  | moving
  | removing (reason : String)
  | returned (result : Except String Unit)

namespace Progress

def stage : Progress → Stage
  | .opening => .opening
  | .appending _ _ remaining => .appending remaining
  | .chmodding => .chmodding
  | .moving => .renaming
  | .removing reason => .removing reason
  | .returned result => .returned result

/-- From the opening of the temporary file until the call returns. -/
def isUnderWay : Progress → Bool
  | .opening => false
  | .returned _ => false
  | _ => true

def hasFailed : Progress → Bool
  | .removing _ => true
  | .returned (.error _) => true
  | _ => false

theorem stage_eq_returned {progress : Progress} {result : Except String Unit}
    (returned : progress.stage = .returned result) :
    progress = .returned result := by
  cases progress with
  | returned other =>
      cases returned
      rfl
  | _ => cases returned

end Progress

inductive Primitive
  | openWrite (mode : Nat)
  | write (count : Nat)
  | close
  | chmod
  | rename
  | remove

/-- The next stage, or the `else` branch if the path was missing. -/
def orMissing (disk : Disk) (changed : Option Disk) (next : Progress) :
    Disk × Progress :=
  match changed with
  | some changed => (changed, next)
  | none => (disk, .removing "enoent")

def advance (path : String) (bytes : Bytes) (disk : Disk) :
    Progress → Primitive → Option (Disk × Progress)
  | .opening, .openWrite mode =>
      let opened := disk.openWrite (tmpPath path) mode
      some (opened.1, .appending opened.2 0 bytes)
  | .appending inode position remaining, .write count =>
      if 0 < count ∧ count ≤ remaining.length then
        some (disk.writeAt inode position (remaining.take count),
          .appending inode (position + count) (remaining.drop count))
      else
        none
  | .appending _ _ [], .close => some (disk, .chmodding)
  | .chmodding, .chmod =>
      some (orMissing disk (disk.chmod (tmpPath path) ownerOnly) .moving)
  | .moving, .rename =>
      some (orMissing disk (disk.rename (tmpPath path) path)
        (.returned (.ok ())))
  | .removing reason, .remove =>
      -- `_ = File.rm(tmp_path)`
      some ((disk.remove (tmpPath path)).getD disk, .returned (.error reason))
  | _, _ => none

/-- The calls, and the one that opened the temporary file last. -/
structure Writers (Caller : Type) where
  disk : Disk
  calls : Caller → Progress
  opener : Option Caller

namespace Writers

variable {Caller : Type} [DecidableEq Caller] (state : Writers Caller)
  (caller : Caller) (primitive : Primitive) (disk : Disk) (progress : Progress)

def put : Writers Caller where
  disk := disk
  calls := Function.update state.calls caller progress
  opener :=
    match primitive with
    | .openWrite _ => some caller
    | _ => state.opener

variable {caller} in
theorem calls_put_ne {other : Caller} (different : other ≠ caller) :
    (state.put caller primitive disk progress).calls other =
      state.calls other :=
  Function.update_of_ne different ..

theorem calls_put_self :
    (state.put caller primitive disk progress).calls caller = progress :=
  Function.update_self ..

end Writers

inductive Action (Caller : Type)
  | primitive (caller : Caller) (primitive : Primitive)
  | read (path : String)

section Machine

variable {Caller : Type} [DecidableEq Caller] (path : String)
  (bytes : Caller → Bytes)

def writers (disk : Disk) :
    Machine (Writers Caller) (Action Caller) (Option (Option File)) where
  init := { disk, calls := fun _ => .opening, opener := none }
  step := fun state action =>
    match action with
    | .primitive caller primitive =>
        (advance path (bytes caller) state.disk (state.calls caller)
          primitive).map fun (disk, progress) =>
            (state.put caller primitive disk progress, none)
    | .read other => some (state, some (state.disk.view other))

end Machine

/-- The call has written so much of its bytes to the file at the temporary
path. -/
def Undisturbed (path : String) (bytes : Bytes) (disk : Disk) :
    Progress → Prop
  | .appending inode position remaining =>
      disk.names (tmpPath path) = some inode ∧
        position + remaining.length = bytes.length
  | _ => True

section Simulation

variable {path : String} {bytes : Bytes} {disk next : Disk}
  {progress after : Progress} {primitive : Primitive} {old : FileSystem}
  {trace : History}

theorem step_of_write {inode position count : Nat} {remaining : Bytes}
    (entry : disk.names (tmpPath path) = some inode)
    (account : position + remaining.length = bytes.length)
    (contents : Contents old path bytes trace disk.view (.appending remaining))
    (fits : 0 < count ∧ count ≤ remaining.length) :
    step path bytes { files := disk.view, stage := .appending remaining }
        (.append count) =
      some
        ({ files := (disk.writeAt inode position (remaining.take count)).view
           stage := .appending (remaining.drop count) }, .done) := by
  obtain ⟨-, written, mode, standing, whole⟩ := contents
  have held : disk.inodes inode = { content := written, mode } := by
    rw [Disk.view, entry] at standing
    exact Option.some.inj standing
  have isEnd : position = (disk.inodes inode).content.length := by
    have lengths := congrArg List.length whole
    rw [List.length_append] at lengths
    rw [held]
    change position = written.length
    omega
  simp only [step, if_pos fits, Writer.goes, Disk.view_writeAt entry isEnd]
  rfl

theorem orMissing_of_viewed {changed : Option Disk} {files : FileSystem}
    {success : Progress} (viewed : changed.map Disk.view = some files)
    (taken : some (orMissing disk changed success) = some (next, after)) :
    next.view = files ∧ after = success := by
  obtain ⟨result, rfl, same⟩ := Option.map_eq_some_iff.mp viewed
  cases taken
  exact ⟨same, rfl⟩

/-- Each step of such a call is a step of the single writer. -/
theorem step_of_advance (unfailed : progress.hasFailed = false)
    (undisturbed : Undisturbed path bytes disk progress)
    (contents : Contents old path bytes trace disk.view progress.stage)
    (taken : advance path bytes disk progress primitive =
      some (next, after)) :
    (∃ input output,
      step path bytes { files := disk.view, stage := progress.stage } input =
        some ({ files := next.view, stage := after.stage }, output)) ∧
      Undisturbed path bytes next after ∧ after.hasFailed = false := by
  cases progress with
  | opening =>
      cases primitive with
      | openWrite mode =>
          obtain ⟨rfl, rfl⟩ := Prod.mk.inj (Option.some.inj taken)
          refine ⟨⟨.openWrite mode, .done, ?_⟩, ?_⟩
          · rw [Disk.view_openWrite]
            rfl
          · exact ⟨⟨disk.names_openWrite _ mode, Nat.zero_add _⟩, rfl⟩
      | _ => cases taken
  | appending inode position remaining =>
      obtain ⟨entry, account⟩ := undisturbed
      cases primitive with
      | write count =>
          obtain ⟨fits, taken⟩ := Option.ite_none_right_eq_some.mp taken
          cases taken
          refine ⟨⟨.append count, .done, ?_⟩, ⟨entry, ?_⟩, rfl⟩
          · exact step_of_write entry account contents fits
          · rw [List.length_drop]
            omega
      | close =>
          cases remaining with
          | nil =>
              cases taken
              exact ⟨⟨.close, .done, rfl⟩, trivial, rfl⟩
          | cons byte rest => cases taken
      | _ => cases taken
  | chmodding =>
      cases primitive with
      | chmod =>
          obtain ⟨-, mode, standing⟩ := contents
          have viewed := disk.view_chmod (tmpPath path) ownerOnly
          rw [FileSystem.chmod, standing] at viewed
          obtain ⟨same, rfl⟩ := orMissing_of_viewed viewed taken
          refine ⟨⟨.chmod, .done, ?_⟩, trivial, rfl⟩
          simp only [step, Progress.stage, Writer.goes, FileSystem.chmod,
            standing, same]
          rfl
      | _ => cases taken
  | moving =>
      cases primitive with
      | rename =>
          obtain ⟨-, standing⟩ := contents
          have viewed := disk.view_rename (tmpPath path) path
          rw [FileSystem.rename, standing] at viewed
          obtain ⟨same, rfl⟩ := orMissing_of_viewed viewed taken
          refine ⟨⟨.rename, .done, ?_⟩, trivial, rfl⟩
          simp only [step, Progress.stage, Writer.goes, FileSystem.rename,
            standing, same]
          rfl
      | _ => cases taken
  | removing reason => cases unfailed
  | returned result => cases taken

end Simulation

end ExLibp2p.Keypair.Storage
