import ExLibp2p.Data.FileSystem
import ExLibp2p.Data.Machine

namespace ExLibp2p.Keypair.Storage

open ExLibp2p.Data

/-! `write/2` of `storage/file.ex`, one primitive at a time, with readers
between any two of them. Every primitive may fail. -/

def tmpPath (path : String) : String :=
  path ++ ".tmp"

def ownerOnly : Nat := 0o600

/-- Where a call of `write/2` stands. `File.write` has opened its file once it
appends, and a failure leads to the `else` branch. -/
inductive Stage
  | opening
  | appending (remaining : Bytes)
  | chmodding
  | renaming
  | removing (reason : String)
  | returned (result : Except String Unit)

structure Writer where
  files : FileSystem
  stage : Stage

/-- The next thing to happen: the writer's primitive succeeds or fails, or
somebody reads. A new file gets its mode from the `umask`, and `File.write`
appends in pieces of any size. -/
inductive Input
  | openWrite (mode : Nat)
  | append (count : Nat)
  | close
  | chmod
  | rename
  | remove
  | fail (reason : String)
  | read (path : String)

inductive Output
  | done
  | failed
  | removeFailed
  | seen (file : Option File)

section Write

variable (path : String) (bytes : Bytes)

def fail (writer : Writer) (reason : String) : Option (Writer × Output) :=
  match writer.stage with
  | .removing first =>
      -- `_ = File.rm(tmp_path)`
      some ({ writer with stage := .returned (.error first) }, .removeFailed)
  | .returned _ => none
  | _ => some ({ writer with stage := .removing reason }, .failed)

def Writer.goes (writer : Writer) (stage : Stage) (files : Option FileSystem) :
    Option (Writer × Output) :=
  files.map fun files => ({ writer with files, stage }, .done)

def step (writer : Writer) (input : Input) : Option (Writer × Output) :=
  match writer.stage, input with
  | _, .read other => some (writer, .seen (writer.files other))
  | _, .fail reason => fail writer reason
  | .opening, .openWrite mode =>
      writer.goes (.appending bytes)
        (some (writer.files.openWrite (tmpPath path) mode))
  | .appending remaining, .append count =>
      if 0 < count ∧ count ≤ remaining.length then
        writer.goes (.appending (remaining.drop count))
          (writer.files.append (tmpPath path) (remaining.take count))
      else
        none
  | .appending [], .close => writer.goes .chmodding (some writer.files)
  | .chmodding, .chmod =>
      writer.goes .renaming (writer.files.chmod (tmpPath path) ownerOnly)
  | .renaming, .rename =>
      writer.goes (.returned (.ok ())) (writer.files.rename (tmpPath path) path)
  | .removing reason, .remove =>
      writer.goes (.returned (.error reason))
        (writer.files.remove (tmpPath path))
  | _, _ => none

/-- A call of `write/2` in a file system that may hold anything. -/
def write (files : FileSystem) : Machine Writer Input Output where
  init := { files, stage := .opening }
  step := step path bytes

end Write

end ExLibp2p.Keypair.Storage
