import ExLibp2p.Erlang.Term
import ExLibp2p.Keypair.Storage.Atomic

namespace ExLibp2p.Keypair.Storage

open ExLibp2p.Data
open ExLibp2p.Erlang

/-- `read/1`, which may also fail of a file that is there. -/
def read (unreadable : Option Term) (file : Option File) :
    Except Term Bytes :=
  match unreadable, file with
  | some reason, _ => .error reason
  | none, some file => .ok file.content
  | none, none => .error (.atom "enoent")

/-! A file in which something is saved again and again, each time by one call of
`write/2` that may be killed between any two of its primitives. -/

universe u

structure Cell (Item : Type u) where
  files : FileSystem
  saving : Option (Item × Stage)

namespace Cell

inductive Input (Item : Type u)
  | save (item : Item)
  | write (primitive : Storage.Input)
  | kill

inductive Output (Item : Type u)
  | saving
  | wrote (item : Item) (output : Storage.Output)
  | killed

variable {Item : Type u}

/-- The call that goes on, which a `write/2` that has returned does not. -/
def ongoing (item : Item) : Stage → Option (Item × Stage)
  | .returned _ => none
  | stage => some (item, stage)

def step (encode : Item → Bytes) (path : String) (cell : Cell Item)
    (input : Input Item) : Option (Cell Item × Output Item) :=
  match cell.saving, input with
  | none, .save item =>
      some ({ cell with saving := some (item, .opening) }, .saving)
  | some (item, stage), .write primitive =>
      (Storage.step path (encode item) ⟨cell.files, stage⟩ primitive).map
        fun (writer, output) =>
          ({ files := writer.files, saving := ongoing item writer.stage },
            .wrote item output)
  | _, .kill => some ({ cell with saving := none }, .killed)
  | _, _ => none

end Cell

def cell {Item : Type u} (encode : Item → Bytes) (path : String)
    (files : FileSystem) :
    Machine (Cell Item) (Cell.Input Item) (Cell.Output Item) where
  init := { files, saving := none }
  step := Cell.step encode path

namespace Cell

variable {Item : Type u}

abbrev History (Item : Type u) := List (Input Item × Output Item)

/-- A save is complete once the new file stands under the path. -/
def saved : Input Item × Output Item → Option Item
  | (.write .rename, .wrote item .done) => some item
  | _ => none

def lastSaved (trace : History Item) : Option Item :=
  (trace.filterMap saved).getLast?

/-- What the path has to hold after a history. -/
def expected (encode : Item → Bytes) (old : Option File)
    (trace : History Item) : Option File :=
  match lastSaved trace with
  | some item => some (newFile (encode item))
  | none => old

inductive Move (encode : Item → Bytes) (path : String) (cell : Cell Item) :
    Input Item → Cell Item → Output Item → Prop
  | save (item : Item) :
      Move encode path cell (.save item)
        { cell with saving := some (item, .opening) } .saving
  | wrote {item : Item} {stage : Stage} {primitive : Storage.Input}
      {writer : Writer} {output : Storage.Output}
      (saving : cell.saving = some (item, stage))
      (moved : Storage.Move path (encode item) ⟨cell.files, stage⟩ primitive
        writer output) :
      Move encode path cell (.write primitive)
        { files := writer.files, saving := ongoing item writer.stage }
        (.wrote item output)
  | killed :
      Move encode path cell .kill { cell with saving := none } .killed

section Runs

variable {encode : Item → Bytes} {path : String} {old : Option File}
  {trace : History Item} {cell next : Cell Item} {input : Input Item}
  {output : Output Item}

theorem Move.of_step
    (taken : step encode path cell input = some (next, output)) :
    Move encode path cell input next output := by
  unfold step at taken
  split at taken
  · cases taken
    exact .save _
  · rename_i item stage primitive saving
    obtain ⟨⟨writer, wrote⟩, moved, equal⟩ := Option.map_eq_some_iff.mp taken
    cases equal
    exact .wrote saving (.of_step moved)
  · cases taken
    exact .killed
  · cases taken

theorem step_save (idle : cell.saving = none) (item : Item) :
    step encode path cell (.save item) =
      some ({ cell with saving := some (item, .opening) }, .saving) := by
  obtain ⟨files, saving⟩ := cell
  cases idle
  rfl

theorem step_write {item : Item} {stage : Stage}
    {primitive : Storage.Input} {writer : Writer} {wrote : Storage.Output}
    (saving : cell.saving = some (item, stage))
    (taken : Storage.step path (encode item) ⟨cell.files, stage⟩ primitive =
      some (writer, wrote)) :
    step encode path cell (.write primitive) =
      some ({ files := writer.files, saving := ongoing item writer.stage },
        .wrote item wrote) := by
  obtain ⟨files, ongoing⟩ := cell
  cases saving
  exact congrArg (Option.map _) taken

theorem step_kill (encode : Item → Bytes) (path : String)
    (cell : Cell Item) :
    step encode path cell .kill =
      some ({ cell with saving := none }, .killed) := by
  unfold step
  cases cell.saving with
  | none => rfl
  | some saving => rfl

theorem ongoing_eq_some {item other : Item} {stage next : Stage}
    (goesOn : ongoing item stage = some (other, next)) :
    other = item ∧ next = stage ∧ ∀ result, stage ≠ .returned result := by
  unfold ongoing at goesOn
  split at goesOn
  · cases goesOn
  · rename_i unfinished
    cases goesOn
    exact ⟨rfl, rfl, unfinished⟩

theorem lastSaved_snoc (entry : Input Item × Output Item) :
    lastSaved (trace ++ [entry]) = (saved entry).or (lastSaved trace) := by
  rw [lastSaved, List.filterMap_append]
  cases isSaved : saved entry with
  | none => simp [isSaved, lastSaved]
  | some item => simp [isSaved]

theorem expected_snoc_of_none {entry : Input Item × Output Item}
    (unsaved : saved entry = none) :
    expected encode old (trace ++ [entry]) = expected encode old trace := by
  rw [expected, lastSaved_snoc, unsaved]
  rfl

theorem expected_snoc_of_some {entry : Input Item × Output Item}
    {item : Item} (isSaved : saved entry = some item) :
    expected encode old (trace ++ [entry]) =
      some (newFile (encode item)) := by
  rw [expected, lastSaved_snoc, isSaved]
  rfl

/-- The path holds what was last saved. While a call of `write/2` goes on, this
is what that call found. -/
structure Stored (encode : Item → Bytes) (old : Option File) (path : String)
    (trace : History Item) (cell : Cell Item) : Prop where
  standing : cell.files path = expected encode old trace
  saving : ∀ item stage, cell.saving = some (item, stage) →
    (∀ result, stage ≠ .returned result) ∧
      (.save item, .saving) ∈ trace ∧
      ∃ before writes, before path = expected encode old trace ∧
        Contents before path (encode item) writes cell.files stage
  asked : ∀ item, lastSaved trace = some item →
    (.save item, .saving) ∈ trace

theorem standing_of_contents {before files : FileSystem} {bytes : Bytes}
    {writes : Storage.History} {stage : Stage}
    (contents : Contents before path bytes writes files stage)
    (unrenamed : stage ≠ .returned (.ok ())) : files path = before path := by
  cases stage with
  | returned result =>
      cases result with
      | ok => exact absurd rfl unrenamed
      | error reason => exact contents.1
  | _ => exact contents.before_return nofun

theorem saved_iff_renamed {item : Item} {primitive : Storage.Input}
    {before writer : Writer} {wrote : Storage.Output}
    (unfinished : ∀ result, before.stage ≠ .returned result)
    (moved : Storage.Move path (encode item) before primitive writer wrote) :
    (writer.stage = .returned (.ok ()) ∧
      saved (.write primitive, .wrote item wrote) = some item) ∨
    (writer.stage ≠ .returned (.ok ()) ∧
      saved (.write primitive, .wrote item wrote) = none) := by
  cases moved with
  | renamed stage held => exact .inl ⟨rfl, rfl⟩
  | read other => exact .inr ⟨unfinished _, rfl⟩
  | _ => exact .inr ⟨nofun, rfl⟩

theorem Stored.keeps (stored : Stored encode old path trace cell)
    {entry : Input Item × Output Item} (unsaved : saved entry = none)
    (files : next.files path = cell.files path)
    (saving : ∀ item stage, next.saving = some (item, stage) →
      (∀ result, stage ≠ .returned result) ∧
        (.save item, .saving) ∈ trace ++ [entry] ∧
        ∃ before writes, before path = expected encode old trace ∧
          Contents before path (encode item) writes next.files stage) :
    Stored encode old path (trace ++ [entry]) next where
  standing := by
    rw [files, expected_snoc_of_none unsaved]
    exact stored.standing
  saving := by
    rw [expected_snoc_of_none unsaved]
    exact saving
  asked := by
    intro item last
    rw [lastSaved_snoc, unsaved] at last
    exact List.mem_append_left _ (stored.asked item last)

theorem Stored.wrote {item : Item} {stage : Stage}
    {primitive : Storage.Input} {writer : Writer} {wrote : Storage.Output}
    (stored : Stored encode old path trace cell)
    (saving : cell.saving = some (item, stage))
    (moved : Storage.Move path (encode item) ⟨cell.files, stage⟩ primitive
      writer wrote) :
    Stored encode old path
      (trace ++ [(.write primitive, .wrote item wrote)])
      { files := writer.files, saving := ongoing item writer.stage } := by
  obtain ⟨unfinished, asked, before, writes, standing, contents⟩ :=
    stored.saving item stage saving
  have after := contents.move moved
  rcases saved_iff_renamed unfinished moved with
    ⟨returned, isSaved⟩ | ⟨unrenamed, unsaved⟩
  · rw [returned] at after ⊢
    refine ⟨?_, nofun, ?_⟩
    · rw [expected_snoc_of_some isSaved]
      exact after.1
    · intro other last
      rw [lastSaved_snoc, isSaved] at last
      cases last
      exact List.mem_append_left _ asked
  · refine stored.keeps unsaved ?_ ?_
    · exact (standing_of_contents after unrenamed).trans
        (standing_of_contents contents (unfinished _)).symm
    · intro other next goesOn
      obtain ⟨rfl, rfl, unfinished⟩ := ongoing_eq_some goesOn
      exact ⟨unfinished, List.mem_append_left _ asked, before, _, standing,
        after⟩

theorem Stored.move (stored : Stored encode old path trace cell)
    (move : Move encode path cell input next output) :
    Stored encode old path (trace ++ [(input, output)]) next := by
  cases move with
  | save item =>
      refine stored.keeps rfl rfl ?_
      intro other stage saving
      cases saving
      exact ⟨nofun, List.mem_append_right _ List.mem_cons_self, cell.files, [],
        stored.standing, rfl⟩
  | wrote saving moved => exact stored.wrote saving moved
  | killed => exact stored.keeps rfl rfl nofun

theorem stored_of_run {files : FileSystem}
    (run : (Storage.cell encode path files).Run trace cell) :
    Stored encode (files path) path trace cell := by
  have initial :
      Stored encode (files path) path [] { files, saving := none } :=
    ⟨rfl, nofun, nofun⟩
  refine run.invariant (Stored encode (files path) path) initial ?_
  intro trace cell input next output earlier stored taken
  exact stored.move (.of_step taken)

end Runs

end Cell

end ExLibp2p.Keypair.Storage
