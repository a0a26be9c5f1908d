import ExLibp2p.Data.Base58
import ExLibp2p.Data.Component
import ExLibp2p.Keypair
import ExLibp2p.Keypair.Storage.Cell

namespace ExLibp2p.Keypair.Loads

open ExLibp2p.Data
open ExLibp2p.Erlang
open ExLibp2p.Native (Identity)
open ExLibp2p.Keypair.Storage (Cell)

/-! Keypairs that are generated, saved under one path and loaded from it, with
loads at any moment of a save, and a kill at any moment. -/

abbrev Loaded := Except Exception (Except Term Keypair)

/-- The file, and the keypairs that were returned and not lost. -/
structure System where
  cell : Cell Keypair
  known : List Keypair

inductive Input (Key : Type)
  | generate (key : Key)
  | load (unreadable : Option Term)
  | save (place : Nat)
  | write (primitive : Storage.Input)
  | kill

inductive Output
  | generated (result : Loaded)
  | loaded (result : Loaded)
  | saving (keypair : Keypair)
  | raised (exception : Exception)
  | stored (output : Cell.Output Keypair)

def remember (known : List Keypair) : Loaded → List Keypair
  | .ok (.ok keypair) => keypair :: known
  | _ => known

def savedBytes (keypair : Keypair) : Bytes :=
  match save keypair with
  | .ok bytes => bytes
  | .error _ => []

section Machine

variable {Key : Type} (identity : Identity Key) (path : String)

def System.stores (system : System) (known : List Keypair)
    (input : Cell.Input Keypair) : Option (System × Output) :=
  (Cell.step savedBytes path system.cell input).map fun (cell, output) =>
    ({ cell, known }, .stored output)

def System.save (system : System) (keypair : Keypair) :
    Option (System × Output) :=
  match Keypair.save keypair with
  | .ok _ =>
      (system.stores path system.known (.save keypair)).map
        fun (next, _) => (next, .saving keypair)
  | .error exception => some (system, .raised exception)

def step (system : System) : Input Key → Option (System × Output)
  | .generate key =>
      let result := Keypair.generate identity key
      some ({ system with known := remember system.known result },
        .generated result)
  | .load unreadable =>
      let result := Keypair.load identity
        (Storage.read unreadable (system.cell.files path))
      some ({ system with known := remember system.known result },
        .loaded result)
  | .save place => system.known[place]?.bind (system.save path)
  | .write primitive =>
      system.stores path system.known (.write primitive)
  | .kill => system.stores path [] .kill

def loads (files : FileSystem) : Machine System (Input Key) Output where
  init := { cell := { files, saving := none }, known := [] }
  step := step identity path

end Machine

abbrev History (Key : Type) := List (Input Key × Output)

def cellEntry {Key : Type} :
    Input Key × Output → Option (Cell.Input Keypair × Cell.Output Keypair)
  | (_, .saving keypair) => some (.save keypair, .saving)
  | (.write primitive, .stored output) => some (.write primitive, output)
  | (.kill, .stored output) => some (.kill, output)
  | _ => none

def lastSaved {Key : Type} (trace : History Key) : Option Keypair :=
  Cell.lastSaved (trace.filterMap cellEntry)

inductive Move {Key : Type} (identity : Identity Key) (path : String)
    (system : System) : Input Key → System → Output → Prop
  | generated {key : Key} {result : Loaded}
      (returned : Keypair.generate identity key = result) :
      Move identity path system (.generate key)
        { system with known := remember system.known result }
        (.generated result)
  | loaded {unreadable : Option Term} {result : Loaded}
      (returned : Keypair.load identity
        (Storage.read unreadable (system.cell.files path)) = result) :
      Move identity path system (.load unreadable)
        { system with known := remember system.known result } (.loaded result)
  | saving {place : Nat} {keypair : Keypair} {cell : Cell Keypair}
      (isKnown : keypair ∈ system.known)
      (taken : Cell.step savedBytes path system.cell (.save keypair) =
        some (cell, .saving)) :
      Move identity path system (.save place) { system with cell }
        (.saving keypair)
  | raised {place : Nat} {exception : Exception} :
      Move identity path system (.save place) system (.raised exception)
  | wrote {primitive : Storage.Input} {cell : Cell Keypair}
      {output : Cell.Output Keypair}
      (taken : Cell.step savedBytes path system.cell (.write primitive) =
        some (cell, output)) :
      Move identity path system (.write primitive) { system with cell }
        (.stored output)
  | killed {cell : Cell Keypair} {output : Cell.Output Keypair}
      (taken : Cell.step savedBytes path system.cell .kill =
        some (cell, output)) :
      Move identity path system .kill { cell, known := [] } (.stored output)

section Runs

variable {Key : Type} {identity : Identity Key} {path : String}
  {files : FileSystem} {trace : History Key} {system next : System}
  {input : Input Key} {output : Output}

theorem stores_eq_some {known : List Keypair} {entry : Cell.Input Keypair}
    (stored : system.stores path known entry = some (next, output)) :
    ∃ cell wrote, Cell.step savedBytes path system.cell entry =
      some (cell, wrote) ∧ next = { cell, known } ∧
        output = .stored wrote := by
  obtain ⟨⟨cell, wrote⟩, taken, equal⟩ := Option.map_eq_some_iff.mp stored
  cases equal
  exact ⟨cell, wrote, taken, rfl, rfl⟩

theorem Move.of_save {place : Nat} {keypair : Keypair}
    (isKnown : keypair ∈ system.known)
    (taken : system.save path keypair = some (next, output)) :
    Move identity path system (.save place) next output := by
  unfold System.save at taken
  split at taken
  · obtain ⟨⟨saved, _⟩, stored, equal⟩ := Option.map_eq_some_iff.mp taken
    cases equal
    obtain ⟨cell, wrote, stepped, rfl, -⟩ := stores_eq_some stored
    cases Cell.Move.of_step stepped with
    | save item => exact .saving isKnown stepped
  · cases taken
    exact .raised

theorem Move.of_step
    (taken : step identity path system input = some (next, output)) :
    Move identity path system input next output := by
  cases input with
  | generate key =>
      cases taken
      exact .generated rfl
  | load unreadable =>
      cases taken
      exact .loaded rfl
  | save place =>
      obtain ⟨keypair, found, saved⟩ := Option.bind_eq_some_iff.mp taken
      exact .of_save (List.mem_of_getElem? found) saved
  | write primitive =>
      obtain ⟨cell, wrote, stepped, rfl, rfl⟩ := stores_eq_some taken
      exact .wrote stepped
  | kill =>
      obtain ⟨cell, wrote, stepped, rfl, rfl⟩ := stores_eq_some taken
      exact .killed stepped

def cellPart (identity : Identity Key) (path : String) (files : FileSystem) :
    Machine.Component (loads identity path files)
      (Storage.cell savedBytes path files) where
  view := System.cell
  sees := cellEntry
  init := rfl
  follows := by
    intro system next input output taken
    cases Move.of_step taken with
    | saving isKnown moved => exact moved
    | wrote moved => exact moved
    | killed moved => exact moved
    | _ => rfl

theorem stored_of_run (run : (loads identity path files).Run trace system) :
    Cell.Stored savedBytes (files path) path (trace.filterMap cellEntry)
      system.cell :=
  Cell.stored_of_run ((cellPart identity path files).run run)

def Held (identity : Identity Key) (keypair : Keypair) : Prop :=
  ∃ bytes key, Valid identity keypair bytes key

theorem held_remember {known : List Keypair} {result : Loaded}
    (held : ∀ keypair ∈ known, Held identity keypair)
    (returned : ∀ keypair, result = .ok (.ok keypair) →
      Held identity keypair) :
    ∀ keypair ∈ remember known result, Held identity keypair := by
  intro keypair member
  unfold remember at member
  split at member
  · rcases List.mem_cons.mp member with rfl | earlier
    · exact returned keypair rfl
    · exact held keypair earlier
  · exact held keypair member

theorem held_of_run (lawful : identity.Lawful)
    (run : (loads identity path files).Run trace system) :
    ∀ keypair ∈ system.known, Held identity keypair := by
  have initial : ∀ keypair ∈ ([] : List Keypair), Held identity keypair :=
    nofun
  refine run.invariant
    (fun _ system => ∀ keypair ∈ system.known, Held identity keypair)
    initial ?_
  intro trace system input next output earlier held taken
  cases Move.of_step taken with
  | @generated key result returned =>
      refine held_remember held ?_
      intro keypair isOk
      obtain ⟨bytes, valid⟩ := valid_of_generate lawful (returned.trans isOk)
      exact ⟨bytes, key, valid⟩
  | loaded returned =>
      exact held_remember held
        fun keypair isOk => valid_of_load (returned.trans isOk)
  | killed moved => exact initial
  | _ => exact held

theorem held_of_lastSaved (lawful : identity.Lawful)
    (run : (loads identity path files).Run trace system) {keypair : Keypair}
    (last : lastSaved trace = some keypair) : Held identity keypair := by
  obtain ⟨⟨input, output⟩, member, seen⟩ :=
    List.mem_filterMap.mp ((stored_of_run run).asked keypair last)
  obtain ⟨earlier, before, after, -, reached, taken⟩ :=
    run.before_of_mem member
  cases Move.of_step taken with
  | saving isKnown moved =>
      cases seen
      exact held_of_run lawful reached keypair isKnown
  | _ => cases seen

structure Recovers (identity : Identity Key) (old : Option File)
    (before : History Key) (result : Loaded) : Prop where
  last : ∀ keypair, lastSaved before = some keypair →
    result = .ok (.ok keypair)
  first : lastSaved before = none →
    result = Keypair.load identity (Storage.read none old)
  identifies : ∀ keypair, result = .ok (.ok keypair) →
    ∃ bytes, toProtobuf keypair = .ok bytes ∧ ∀ drawn,
      (identity.localPeerId (some bytes) drawn).map Term.binary =
        .ok keypair.peerId

/-- A load returns the keypair of the last complete save, whatever was killed
since, and a node that is given it has its identifier. -/
theorem identity_stable (lawful : identity.Lawful)
    {before after : History Key} {result : Loaded}
    (run : (loads identity path files).Run trace system)
    (loaded : trace = before ++ (.load none, .loaded result) :: after) :
    Recovers identity (files path) before result := by
  subst loaded
  obtain ⟨reader, next, reached, taken, -⟩ := run.step_of_mem
  have standing := (stored_of_run reached).standing
  have move : Move identity path reader (.load none) next (.loaded result) :=
    .of_step taken
  cases move with
  | loaded returned =>
      refine ⟨?_, ?_, ?_⟩
      · intro keypair last
        obtain ⟨bytes, key, valid⟩ := held_of_lastSaved lawful reached last
        have found : reader.cell.files path =
            some (Storage.newFile (savedBytes keypair)) := by
          rw [standing, Cell.expected, ← lastSaved, last]
        have content : savedBytes keypair = bytes := by
          rw [savedBytes, valid.save]
        rw [← returned, found, content]
        exact valid.fromProtobuf
      · intro never
        have found : reader.cell.files path = files path := by
          rw [standing, Cell.expected, ← lastSaved, never]
        rw [← returned, found]
      · intro keypair isOk
        obtain ⟨bytes, key, valid⟩ := valid_of_load (returned.trans isOk)
        exact ⟨bytes, valid.toProtobuf, valid.localPeerId⟩

end Runs

abbrev Ed25519 := { halves : Bytes // halves.length = 64 }

def publicProtobuf (key : Ed25519) : Bytes :=
  [8, 1, 18, 32] ++ key.1.drop 32

def ed25519 : Identity Ed25519 where
  toProtobufEncoding key := .ok ([8, 1, 18, 64] ++ key.1)
  fromProtobufEncoding bytes :=
    if whole : (bytes.drop 4).length = 64 ∧ bytes.take 4 = [8, 1, 18, 64] then
      .ok ⟨bytes.drop 4, whole.1⟩
    else
      .error "failed to decode"
  encodePublic := publicProtobuf
  peerId key := base58 ([0, 36] ++ publicProtobuf key)

theorem lawful_ed25519 : ed25519.Lawful where
  decoded := by
    intro key bytes encoded
    cases encoded
    simp [ed25519, key.2]
  short := by
    intro key bytes encoded
    cases encoded
    simp [key.2, Native.maxKeypairBytes]

def secretHalf : Bytes :=
  [0x9d, 0x61, 0xb1, 0x9d, 0xef, 0xfd, 0x5a, 0x60, 0xba, 0x84, 0x4a, 0xf4,
    0x92, 0xec, 0x2c, 0xc4, 0x44, 0x49, 0xc5, 0x69, 0x7b, 0x32, 0x69, 0x19,
    0x70, 0x3b, 0xac, 0x03, 0x1c, 0xae, 0x7f, 0x60]

def publicHalf : Bytes :=
  [0xd7, 0x5a, 0x98, 0x01, 0x82, 0xb1, 0x0a, 0xb7, 0xd5, 0x4b, 0xfe, 0xd3,
    0xc9, 0x64, 0x07, 0x3a, 0x0e, 0xe1, 0x72, 0xf3, 0xda, 0xa6, 0x23, 0x25,
    0xaf, 0x02, 0x1a, 0x68, 0xf7, 0x07, 0x51, 0x1a]

/-- A keypair that is saved by a process that is then killed. -/
def savedThenKilled : List (Input Ed25519) :=
  [.generate ⟨secretHalf ++ publicHalf, rfl⟩, .save 0, .write (.openWrite 0o644),
    .write (.append 68), .write .close, .write .chmod, .write .rename, .kill,
    .load none]

def endsLoaded (trace : History Ed25519) : Bool :=
  match trace.getLast? with
  | some (.load none, .loaded _) => (lastSaved trace.dropLast).isSome
  | _ => false

theorem loaded_of_endsLoaded {trace : History Ed25519}
    (ends : endsLoaded trace = true) :
    ∃ before result, trace = before ++ [(.load none, .loaded result)] ∧
      (lastSaved before).isSome := by
  unfold endsLoaded at ends
  split at ends
  · rename_i result last
    obtain ⟨before, rfl⟩ := List.getLast?_eq_some_iff.mp last
    rw [List.dropLast_concat] at ends
    exact ⟨before, result, rfl, ends⟩
  · contradiction

theorem savedThenKilled_loaded :
    (((loads ed25519 "identity.key" fun _ => none).start
      savedThenKilled).map fun ended => endsLoaded ended.1) = some true := by
  decide +kernel

theorem identity_stable_savedThenKilled :
    ∃ trace system before result,
      (loads ed25519 "identity.key" fun _ => none).Run trace system ∧
      trace.map Prod.fst = savedThenKilled ∧
      trace = before ++ [(.load none, .loaded result)] ∧
      (lastSaved before).isSome ∧ Recovers ed25519 none before result := by
  obtain ⟨⟨trace, system⟩, started, ends⟩ :=
    Option.map_eq_some_iff.mp savedThenKilled_loaded
  obtain ⟨_, _, accepted, run, inputs⟩ := Machine.exists_run_of_start
    (Option.isSome_of_mem started)
  cases started.symm.trans accepted
  obtain ⟨before, result, loaded, hasSaved⟩ := loaded_of_endsLoaded ends
  exact ⟨trace, system, before, result, run, inputs, loaded, hasSaved,
    identity_stable lawful_ed25519 run loaded⟩

end ExLibp2p.Keypair.Loads
