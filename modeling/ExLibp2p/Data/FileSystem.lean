import ExLibp2p.Data.Bytes
import Mathlib.Logic.Function.Basic

namespace ExLibp2p.Data

/-! File systems as maps from paths, and the operations that one step of a
process performs on them. An operation on a missing file cannot succeed. -/

structure File where
  content : Bytes
  mode : Nat
  deriving DecidableEq

abbrev FileSystem := String → Option File

namespace FileSystem

def set (files : FileSystem) (path : String) (file : Option File) :
    FileSystem :=
  Function.update files path file

@[simp] theorem set_same (files : FileSystem) (path : String)
    (file : Option File) : files.set path file path = file := by
  rw [set, Function.update_self]

theorem set_other {files : FileSystem} {path other : String}
    {file : Option File} (ne : other ≠ path) :
    files.set path file other = files other := by
  rw [set, Function.update_of_ne ne]

/-- Open for writing: an existing file is truncated and keeps its mode. -/
def openWrite (files : FileSystem) (path : String) (mode : Nat) : FileSystem :=
  files.set path (some
    { content := []
      mode := ((files path).map File.mode).getD mode })

def append (files : FileSystem) (path : String) (bytes : Bytes) :
    Option FileSystem :=
  (files path).map fun file =>
    files.set path (some { file with content := file.content ++ bytes })

def chmod (files : FileSystem) (path : String) (mode : Nat) :
    Option FileSystem :=
  (files path).map fun file => files.set path (some { file with mode })

/-- Whatever stood at the destination is replaced in the same step. -/
def rename (files : FileSystem) (source destination : String) :
    Option FileSystem :=
  (files source).map fun file =>
    (files.set source none).set destination (some file)

def remove (files : FileSystem) (path : String) : Option FileSystem :=
  (files path).map fun _ => files.set path none

end FileSystem

end ExLibp2p.Data
