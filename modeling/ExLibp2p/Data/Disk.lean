import ExLibp2p.Data.FileSystem

namespace ExLibp2p.Data

/-! Directories over inodes. A process that has opened a file holds its inode,
which stays the same when its path is renamed, replaced or removed. -/

structure Disk where
  names : String → Option Nat
  inodes : Nat → File
  fresh : Nat
  bounded : ∀ path inode, names path = some inode → inode < fresh
  unshared : ∀ first second inode, names first = some inode →
    names second = some inode → first = second

namespace Disk

def empty : Disk where
  names := fun _ => none
  inodes := fun _ => { content := [], mode := 0 }
  fresh := 0
  bounded := by
    intro path inode impossible
    cases impossible
  unshared := by
    intro first second inode impossible
    cases impossible

variable (disk : Disk)

def view : FileSystem :=
  fun path => (disk.names path).map disk.inodes

def setInode (inode : Nat) (file : File) : Disk where
  names := disk.names
  inodes := Function.update disk.inodes inode file
  fresh := disk.fresh
  bounded := disk.bounded
  unshared := disk.unshared

/-- Another inode, or none, for a path. No other path may have it. -/
def rebind (path : String) (entry : Option Nat)
    (allowed : ∀ inode, entry = some inode → inode < disk.fresh ∧
      ∀ other, other ≠ path → disk.names other ≠ some inode) : Disk where
  names := Function.update disk.names path entry
  inodes := disk.inodes
  fresh := disk.fresh
  bounded := by
    intro other inode found
    by_cases same : other = path
    · rw [same, Function.update_self] at found
      exact (allowed inode found).1
    · rw [Function.update_of_ne same] at found
      exact disk.bounded other inode found
  unshared := by
    intro first second inode isFirst isSecond
    by_cases firstSame : first = path
    · by_cases secondSame : second = path
      · rw [firstSame, secondSame]
      · rw [firstSame, Function.update_self] at isFirst
        rw [Function.update_of_ne secondSame] at isSecond
        exact absurd isSecond ((allowed inode isFirst).2 second secondSame)
    · by_cases secondSame : second = path
      · rw [secondSame, Function.update_self] at isSecond
        rw [Function.update_of_ne firstSame] at isFirst
        exact absurd isFirst ((allowed inode isSecond).2 first firstSame)
      · rw [Function.update_of_ne firstSame] at isFirst
        rw [Function.update_of_ne secondSame] at isSecond
        exact disk.unshared first second inode isFirst isSecond

def unlink (path : String) : Disk :=
  disk.rebind path none (by simp)

def grow : Disk where
  names := disk.names
  inodes := disk.inodes
  fresh := disk.fresh + 1
  bounded := fun path inode found =>
    Nat.lt_succ_of_lt (disk.bounded path inode found)
  unshared := disk.unshared

theorem names_ne_fresh (path : String) : disk.names path ≠ some disk.fresh :=
  fun found => Nat.lt_irrefl _ (disk.bounded path _ found)

def create (path : String) (file : File) : Disk :=
  (disk.grow.setInode disk.fresh file).rebind path (some disk.fresh) (by
    intro inode same
    cases same
    exact ⟨Nat.lt_succ_self _, fun other _ => disk.names_ne_fresh other⟩)

def openWrite (path : String) (mode : Nat) : Disk × Nat :=
  match disk.names path with
  | some inode =>
      (disk.setInode inode { disk.inodes inode with content := [] }, inode)
  | none => (disk.create path { content := [], mode }, disk.fresh)

/-- Bytes at a position, over what stands there; a gap is filled with zeros. -/
def writeAt (inode position : Nat) (bytes : Bytes) : Disk :=
  let file := disk.inodes inode
  let before := file.content.take position ++
    List.replicate (position - file.content.length) 0
  disk.setInode inode
    { file with
      content := before ++ bytes ++ file.content.drop (position + bytes.length) }

def chmod (path : String) (mode : Nat) : Option Disk :=
  (disk.names path).map fun inode =>
    disk.setInode inode { disk.inodes inode with mode }

def rename (source destination : String) : Option Disk :=
  match found : disk.names source with
  | some inode =>
      some ((disk.unlink source).rebind destination (some inode) (by
        intro held same
        cases same
        refine ⟨disk.bounded source inode found, fun other _ entry => ?_⟩
        by_cases isSource : other = source
        · simp [unlink, rebind, isSource] at entry
        · simp only [unlink, rebind, Function.update_of_ne isSource] at entry
          exact isSource (disk.unshared other source inode entry found)))
  | none => none

def remove (path : String) : Option Disk :=
  (disk.names path).map fun _ => disk.unlink path

variable {disk}

@[simp] theorem view_rebind (path : String) (entry : Option Nat)
    {allowed : ∀ inode, entry = some inode → inode < disk.fresh ∧
      ∀ other, other ≠ path → disk.names other ≠ some inode} :
    (disk.rebind path entry allowed).view =
      disk.view.set path (entry.map disk.inodes) := by
  funext other
  by_cases same : other = path
  · subst same
    simp [view, rebind]
  · simp [view, rebind, FileSystem.set_other same, same]

@[simp] theorem view_unlink (path : String) :
    (disk.unlink path).view = disk.view.set path none :=
  view_rebind path none

theorem view_setInode {path : String} {inode : Nat}
    (found : disk.names path = some inode) (file : File) :
    (disk.setInode inode file).view = disk.view.set path (some file) := by
  funext other
  by_cases same : other = path
  · subst same
    simp [view, setInode, found]
  · rw [FileSystem.set_other same, view, view, setInode]
    cases entry : disk.names other with
    | none => rfl
    | some held =>
        have different : held ≠ inode := by
          intro equal
          exact same (disk.unshared other path inode (equal ▸ entry) found)
        simp [Function.update_of_ne different]

theorem view_setInode_unnamed {inode : Nat}
    (unnamed : ∀ path, disk.names path ≠ some inode) (file : File) :
    (disk.setInode inode file).view = disk.view := by
  funext path
  rw [view, view, setInode]
  cases entry : disk.names path with
  | none => rfl
  | some held =>
      have different : held ≠ inode := by
        intro equal
        exact unnamed path (equal ▸ entry)
      simp [Function.update_of_ne different]

theorem view_create (path : String) (file : File) :
    (disk.create path file).view = disk.view.set path (some file) := by
  have before : (disk.grow.setInode disk.fresh file).view = disk.view :=
    view_setInode_unnamed disk.names_ne_fresh file
  rw [create, view_rebind, before]
  simp [setInode]

theorem view_openWrite (path : String) (mode : Nat) :
    (disk.openWrite path mode).1.view = disk.view.openWrite path mode := by
  rw [openWrite, FileSystem.openWrite]
  split
  · rename_i inode found
    rw [view_setInode found, view, found]
    rfl
  · rename_i missing
    rw [view_create, view, missing]
    rfl

theorem names_openWrite (path : String) (mode : Nat) :
    (disk.openWrite path mode).1.names path =
      some (disk.openWrite path mode).2 := by
  rw [openWrite]
  split
  · rename_i inode found
    exact found
  · simp [create, rebind]

theorem view_writeAt {path : String} {inode position : Nat}
    (found : disk.names path = some inode)
    (isEnd : position = (disk.inodes inode).content.length) (bytes : Bytes) :
    disk.view.append path bytes =
      some (disk.writeAt inode position bytes).view := by
  have appended : (disk.inodes inode).content.take position ++
      List.replicate (position - (disk.inodes inode).content.length) 0 ++
        bytes ++ (disk.inodes inode).content.drop (position + bytes.length) =
      (disk.inodes inode).content ++ bytes := by
    rw [isEnd, List.take_length, Nat.sub_self,
      List.drop_eq_nil_of_le (Nat.le_add_right _ _)]
    simp
  rw [FileSystem.append, view, found, writeAt, view_setInode found, appended]
  rfl

theorem view_chmod (path : String) (mode : Nat) :
    (disk.chmod path mode).map view = disk.view.chmod path mode := by
  rw [chmod, FileSystem.chmod, Option.map_map]
  cases found : disk.names path with
  | none => simp [view, found]
  | some inode =>
      simp only [Option.map_some, Function.comp_apply, view_setInode found]
      simp [view, found]

theorem view_rename (source destination : String) :
    (disk.rename source destination).map view =
      disk.view.rename source destination := by
  rw [rename, FileSystem.rename]
  split
  · rename_i inode found
    rw [Option.map_some, view_rebind, view_unlink, view, found]
    rfl
  · rename_i missing
    rw [view, missing]
    rfl

end Disk

end ExLibp2p.Data
