import ExLibp2p.Data.Component
import ExLibp2p.Keypair.Storage.Cell
import ExLibp2p.Native.RoutingTable.Restore
import ExLibp2p.Node.Shutdown
import ExLibp2p.Node.Start

namespace ExLibp2p.Node.Persistence

open ExLibp2p.Data
open ExLibp2p.Erlang
open ExLibp2p.Keypair.Storage (Cell Stage)
open ExLibp2p.Native (Multiaddr)
open ExLibp2p.Native.RoutingTable (Table tableEntries tablePairs Held Lawful
  Restorable Restores)
open ExLibp2p.Native.SwarmLoop (Settings)

/-! A node that is started again and again over one file. The start reads the
file and the end replaces it, and the process may be killed between any two
primitives of the write. -/

variable {Pid Handle : Type}

def snapshot (table : Table) : Bytes :=
  Native.DhtState.encode (tableEntries table)

structure Boot (Pid Handle : Type) where
  self : Pid
  started : Start.Started Handle
  peerIdStr : Bytes
  unreadable : Option Term
  imported : Except Term Nat

/-- A text can be read from and logged, so nothing raises here. -/
def Boot.outcomes (boot : Boot Pid Handle) (file : Option File) :
    Start.Outcomes Handle where
  started := boot.started
  peerIdStr := boot.peerIdStr
  read := .ok (Keypair.Storage.read boot.unreadable file)
  imported := boot.imported
  logged := .ok ()

inductive Phase (Pid Handle : Type)
  | down
  | up (self : Pid) (state : Start.State Handle)
  | saving (table : Table) (stage : Stage)

structure Host (Pid Handle : Type) where
  files : FileSystem
  phase : Phase Pid Handle

inductive Input (Pid Handle : Type)
  | boot (boot : Boot Pid Handle)
  | terminate (cleanup : Shutdown.CallOutcome) (exported : Except Term Table)
  | write (primitive : Keypair.Storage.Input)
  | kill

inductive Output (Pid Handle : Type)
  | booted (result : Except Exception (Start.Result Handle))
      (effects : List (Start.Effect Pid Handle))
  | terminated (saving : Option Table)
  | wrote (table : Table) (output : Keypair.Storage.Output)
  | killed

section Machine

variable (chars : Term → Except Exception Bytes) (opts : Keywords)
  (path : String)

def Phase.booted (self : Pid) :
    Except Exception (Start.Result Handle) → Phase Pid Handle
  | .ok (.ok state) => .up self state
  | _ => .down

def Phase.wrote (table : Table) :
    Stage → Phase Pid Handle
  | .returned _ => .down
  | stage => .saving table stage

def shutdownState (state : Start.State Handle) : Shutdown.State Handle where
  handle := state.handle
  dhtStatePath :=
    match state.dhtStatePath with
    | .atom "nil" => none
    | _ => some path

def asWrite : Shutdown.Effect Pid Handle → Option Bytes
  | .write _ bytes => some bytes
  | _ => none

def writes (self : Pid) (state : Start.State Handle)
    (cleanup : Shutdown.CallOutcome) (exported : Except Term Bytes) :
    Option Bytes :=
  (Shutdown.run (Shutdown.terminate ⟨cleanup, exported, .ok ()⟩ self
    (shutdownState path state))).2.findSome? asWrite

/-- The table that `terminate/2` comes to write. -/
def saves (self : Pid) (state : Start.State Handle)
    (cleanup : Shutdown.CallOutcome) (exported : Except Term Table) :
    Option Table :=
  match exported, writes path self state cleanup (exported.map snapshot) with
  | .ok table, some _ => some table
  | _, _ => none

def Phase.terminated : Option Table → Phase Pid Handle
  | some table => .saving table .opening
  | none => .down

def step (host : Host Pid Handle) (input : Input Pid Handle) :
    Option (Host Pid Handle × Output Pid Handle) :=
  match host.phase, input with
  | .down, .boot boot =>
      let ended := Script.run
        (Start.init chars (boot.outcomes (host.files path)) opts boot.self) []
      some ({ host with phase := .booted boot.self ended.1 },
        .booted ended.1 ended.2)
  | .up self state, .terminate cleanup exported =>
      let saving := saves path self state cleanup exported
      some ({ host with phase := .terminated saving }, .terminated saving)
  | .saving table stage, .write primitive =>
      (Keypair.Storage.step path (snapshot table) ⟨host.files, stage⟩
        primitive).map fun (writer, output) =>
          ({ files := writer.files, phase := .wrote table writer.stage },
            .wrote table output)
  | .down, .kill => none
  | _, .kill => some ({ host with phase := .down }, .killed)
  | _, _ => none

def host (files : FileSystem) :
    Machine (Host Pid Handle) (Input Pid Handle) (Output Pid Handle) where
  init := { files, phase := .down }
  step := step chars opts path

end Machine

abbrev History (Pid Handle : Type) :=
  List (Input Pid Handle × Output Pid Handle)

inductive Move (chars : Term → Except Exception Bytes) (opts : Keywords)
    (path : String) (host : Host Pid Handle) :
    Input Pid Handle → Host Pid Handle → Output Pid Handle → Prop
  | booted {boot : Boot Pid Handle}
      {ended : Except Exception (Start.Result Handle) ×
        List (Start.Effect Pid Handle)}
      (phase : host.phase = .down)
      (ran : Script.run (Start.init chars (boot.outcomes (host.files path))
        opts boot.self) [] = ended) :
      Move chars opts path host (.boot boot)
        { host with phase := .booted boot.self ended.1 }
        (.booted ended.1 ended.2)
  | terminated {self : Pid} {state : Start.State Handle}
      (cleanup : Shutdown.CallOutcome) {exported : Except Term Table}
      {saving : Option Table}
      (phase : host.phase = .up self state)
      (asked : ∀ table, saving = some table → exported = .ok table) :
      Move chars opts path host (.terminate cleanup exported)
        { host with phase := .terminated saving } (.terminated saving)
  | wrote {table : Table} {stage : Stage}
      {primitive : Keypair.Storage.Input} {writer : Keypair.Storage.Writer}
      {output : Keypair.Storage.Output}
      (phase : host.phase = .saving table stage)
      (taken : Keypair.Storage.step path (snapshot table) ⟨host.files, stage⟩
        primitive = some (writer, output)) :
      Move chars opts path host (.write primitive)
        { files := writer.files, phase := .wrote table writer.stage }
        (.wrote table output)
  | killed :
      Move chars opts path host .kill { host with phase := .down } .killed

section Moves

variable {chars : Term → Except Exception Bytes} {opts : Keywords}
  {path : String} {host next : Host Pid Handle} {input : Input Pid Handle}
  {output : Output Pid Handle}

theorem saves_eq_some {self : Pid} {state : Start.State Handle}
    {cleanup : Shutdown.CallOutcome} {exported : Except Term Table}
    {table : Table}
    (saving : saves path self state cleanup exported = some table) :
    exported = .ok table := by
  unfold saves at saving
  split at saving
  · cases saving
    rfl
  · cases saving

theorem Move.of_step
    (taken : step chars opts path host input = some (next, output)) :
    Move chars opts path host input next output := by
  unfold step at taken
  split at taken
  · rename_i boot phase
    cases taken
    exact .booted phase rfl
  · rename_i self state cleanup exported phase
    cases taken
    exact .terminated cleanup phase fun table => saves_eq_some
  · rename_i table stage primitive phase
    obtain ⟨⟨writer, wrote⟩, moved, equal⟩ := Option.map_eq_some_iff.mp taken
    cases equal
    exact .wrote phase moved
  · cases taken
  · cases taken
    exact .killed
  · cases taken

end Moves

def Phase.saving? : Phase Pid Handle → Option (Table × Stage)
  | .saving table stage => some (table, stage)
  | _ => none

def Host.cell (host : Host Pid Handle) : Cell Table where
  files := host.files
  saving := host.phase.saving?

def cellEntry : Input Pid Handle × Output Pid Handle →
    Option (Cell.Input Table × Cell.Output Table)
  | (_, .terminated (some table)) => some (.save table, .saving)
  | (.write primitive, .wrote table output) =>
      some (.write primitive, .wrote table output)
  | (.kill, .killed) => some (.kill, .killed)
  | _ => none

def lastSaved (trace : History Pid Handle) : Option Table :=
  Cell.lastSaved (trace.filterMap cellEntry)

theorem booted_idle (self : Pid)
    (result : Except Exception (Start.Result Handle)) :
    (Phase.booted self result).saving? = none := by
  unfold Phase.booted
  split
  · rfl
  · rfl

theorem wrote_ongoing (table : Table) (stage : Stage) :
    (Phase.wrote table stage : Phase Pid Handle).saving? =
      Cell.ongoing table stage := by
  cases stage with
  | returned result => rfl
  | _ => rfl

def cellPart (chars : Term → Except Exception Bytes) (opts : Keywords)
    (path : String) (files : FileSystem) :
    Machine.Component
      (Persistence.host chars opts path files :
        Machine _ (Input Pid Handle) (Output Pid Handle))
      (Keypair.Storage.cell snapshot path files) where
  view := Host.cell
  sees := cellEntry
  init := rfl
  follows := by
    intro host next input output taken
    cases Move.of_step taken with
    | @booted boot ended phase ran =>
        have idle : host.cell.saving = none :=
          congrArg Phase.saving? phase
        exact congrArg (Cell.mk host.files)
          ((booted_idle boot.self ended.1).trans idle.symm)
    | @terminated self state cleanup exported saving phase asked =>
        have idle : host.cell.saving = none :=
          congrArg Phase.saving? phase
        cases saving with
        | none => exact congrArg (Cell.mk host.files) idle.symm
        | some table => exact Cell.step_save idle table
    | @wrote table stage primitive writer output phase moved =>
        have saving : host.cell.saving = some (table, stage) :=
          congrArg Phase.saving? phase
        have stepped := Cell.step_write saving moved
        rw [← @wrote_ongoing Pid Handle] at stepped
        exact stepped
    | killed => exact Cell.step_kill snapshot path host.cell

section File

variable {chars : Term → Except Exception Bytes} {opts : Keywords}
  {path : String} {trace : History Pid Handle} {host : Host Pid Handle}

theorem stored_of_run {files : FileSystem}
    (run : (Persistence.host chars opts path files).Run trace host) :
    Cell.Stored snapshot (files path) path (trace.filterMap cellEntry)
      host.cell :=
  Cell.stored_of_run ((cellPart chars opts path files).run run)

/-- A table is only saved after the node has exported it. -/
theorem exported_of_lastSaved {files : FileSystem}
    (run : (Persistence.host chars opts path files).Run trace host)
    {table : Table} (last : lastSaved trace = some table) :
    ∃ cleanup, (.terminate cleanup (.ok table), .terminated (some table)) ∈
      trace := by
  obtain ⟨⟨input, output⟩, member, seen⟩ :=
    List.mem_filterMap.mp ((stored_of_run run).asked table last)
  obtain ⟨earlier, before, after, -, -, taken⟩ := run.before_of_mem member
  cases Move.of_step taken with
  | @terminated self state cleanup exported saving phase asked =>
      cases saving with
      | none => cases seen
      | some other =>
          cases seen
          rw [asked table rfl] at member
          exact ⟨cleanup, member⟩
  | _ => cases seen

end File

section Boots

variable {chars : Term → Except Exception Bytes} {opts : Keywords}
  {path : String} {host : Host Pid Handle}

theorem dhtStatePath_of_openable {outcomes : Start.Outcomes Handle}
    {config : Config} {configMap : List (String × Term)}
    {state : Start.State Handle}
    (openable : Start.Openable chars outcomes opts config configMap state)
    (named : opts.lookup "dht_state_path" = some (.text path)) :
    state.dhtStatePath = .text path := by
  have kept := lookup_filter (fun key => decide (key ≠ "native_module")) opts
    "dht_state_path"
  rw [if_pos (by decide), named] at kept
  have fetched := Start.fetch_dhtStatePath openable.created
  rw [openable.path, kept] at fetched
  exact Except.ok.inj fetched

theorem importEffects_text {boot : Boot Pid Handle} {file : Option File}
    {handle : Handle} (readable : boot.unreadable = none) :
    (Start.importEffects (boot.outcomes file) handle (.text path) :
        List (Start.Effect Pid Handle)) =
      .read (.text path) :: file.toList.map fun file =>
        .kadImportRoutingTable handle file.content := by
  cases file with
  | none =>
      simp [Start.importEffects, Boot.outcomes, Keypair.Storage.read, readable,
        Term.text]
  | some file =>
      simp [Start.importEffects, Boot.outcomes, Keypair.Storage.read, readable,
        Term.text]

theorem effects_of_move {boot : Boot Pid Handle} {next : Host Pid Handle}
    {state : Start.State Handle} {effects : List (Start.Effect Pid Handle)}
    (move : Move chars opts path host (.boot boot) next
      (.booted (.ok (.ok state)) effects))
    (named : opts.lookup "dht_state_path" = some (.text path))
    (readable : boot.unreadable = none) :
    ∃ configMap, effects =
      [.startNode configMap, .getPeerId state.handle,
        .registerEventHandler state.handle boot.self, .read (.text path)] ++
      (host.files path).toList.map fun file =>
        .kadImportRoutingTable state.handle file.content := by
  generalize output : Output.booted (.ok (.ok state)) effects = booted at move
  cases move with
  | @booted boot ended phase ran =>
      obtain ⟨result, produced⟩ := ended
      cases output
      obtain ⟨config, configMap, startable⟩ :=
        Start.starts_iff_startable.mp (congrArg Prod.fst ran)
      rw [Start.run_init startable.toOpenable, startable.imports] at ran
      have path := dhtStatePath_of_openable startable.toOpenable named
      cases ran
      refine ⟨configMap, ?_⟩
      rw [List.nil_append, Start.startEffects, path,
        importEffects_text readable]
      rfl

/-- The start of a node after a history: it imports the last table whose save
was complete, and such an import gives back the pairs of the table. -/
structure Resumes (settings : Settings)
    (accepts : List (Native.PeerId × Multiaddr) →
      Native.PeerId × Multiaddr → Bool)
    (old : Option File) (path : String) (before : History Pid Handle)
    (boot : Boot Pid Handle) (state : Start.State Handle)
    (effects : List (Start.Effect Pid Handle)) : Prop where
  imports : ∃ configMap, effects =
    [.startNode configMap, .getPeerId state.handle,
      .registerEventHandler state.handle boot.self, .read (.text path)] ++
    match lastSaved before with
    | some table => [.kadImportRoutingTable state.handle (snapshot table)]
    | none => old.toList.map fun file =>
        .kadImportRoutingTable state.handle file.content
  restores : ∀ table, lastSaved before = some table →
    (∃ cleanup,
      (.terminate cleanup (.ok table), .terminated (some table)) ∈ before) ∧
    (Held table → Lawful settings table → Restorable accepts table →
      Restores settings accepts table (snapshot table))

theorem last_save_resumed {files : FileSystem}
    {trace before after : History Pid Handle}
    {boot : Boot Pid Handle} {state : Start.State Handle}
    {effects : List (Start.Effect Pid Handle)} {settings : Settings}
    (run : (Persistence.host chars opts path files).Run trace host)
    (named : opts.lookup "dht_state_path" = some (.text path))
    (booted : trace =
      before ++ (.boot boot, .booted (.ok (.ok state)) effects) :: after)
    (readable : boot.unreadable = none)
    (enabled : settings.kademlia = true)
    (accepts : List (Native.PeerId × Multiaddr) →
      Native.PeerId × Multiaddr → Bool) :
    Resumes settings accepts (files path) path before boot state effects := by
  subst booted
  obtain ⟨down, next, reached, taken, -⟩ := run.step_of_mem
  have standing := (stored_of_run reached).standing
  obtain ⟨configMap, performed⟩ :=
    effects_of_move (.of_step taken) named readable
  refine ⟨⟨configMap, ?_⟩, ?_⟩
  · have found : down.files path = _ := standing
    rw [performed, found, Cell.expected, lastSaved]
    cases Cell.lastSaved (before.filterMap cellEntry) with
    | none => rfl
    | some table => rfl
  · intro table last
    refine ⟨exported_of_lastSaved reached last, ?_⟩
    intro held lawful restorable
    exact restorable.restores held enabled lawful

end Boots

def noChars (term : Term) : Except Exception Bytes :=
  .error (.functionClauseError "to_string/1" term)

def readingBoot : Boot Nat Nat where
  self := 7
  started := .handle 1
  peerIdStr := utf8 "12D3KooWDpJ7As7BWAwRMfu1VU2WCqNjvq387JEYKDBj4kx6nXTN"
  unreadable := none
  imported := .ok 1

/-- A node that saves a table, is killed while it saves the next one, and is
started again. -/
def killedSave : List (Input Nat Nat) :=
  [.boot readingBoot,
    .terminate .reply (.ok Native.RoutingTable.homeTable),
    .write (.openWrite 0o644),
    .write (.append (snapshot Native.RoutingTable.homeTable).length),
    .write .close, .write .chmod, .write .rename, .boot readingBoot,
    .terminate .reply (.ok []), .write (.openWrite 0o644),
    .write (.append 3), .kill, .boot readingBoot]

def namedOpts : Keywords :=
  [("dht_state_path", .text "dht.bin")]

def resumed (trace : History Nat Nat) : Bool :=
  match trace.getLast? with
  | some (.boot boot, .booted (.ok (.ok _)) _) =>
      boot.unreadable.isNone && (lastSaved trace.dropLast).isSome
  | _ => false

theorem boot_of_resumed {trace : History Nat Nat}
    (isResumed : resumed trace = true) :
    ∃ before boot state effects,
      trace = before ++ [(.boot boot, .booted (.ok (.ok state)) effects)] ∧
        boot.unreadable = none ∧ (lastSaved before).isSome := by
  unfold resumed at isResumed
  split at isResumed
  · rename_i boot state effects last
    obtain ⟨before, rfl⟩ := List.getLast?_eq_some_iff.mp last
    simp only [List.dropLast_concat, Bool.and_eq_true,
      Option.isNone_iff_eq_none] at isResumed
    exact ⟨before, boot, state, effects, rfl, isResumed⟩
  · contradiction

theorem killedSave_resumed :
    (((Persistence.host noChars namedOpts "dht.bin" fun _ => none).start
      killedSave).map fun ended => resumed ended.1) = some true := by
  decide +kernel

theorem last_save_resumed_killedSave :
    ∃ trace host before boot state effects,
      (Persistence.host noChars namedOpts "dht.bin" fun _ => none).Run trace
        host ∧
      trace.map Prod.fst = killedSave ∧
      trace = before ++ [(.boot boot, .booted (.ok (.ok state)) effects)] ∧
      (lastSaved before).isSome ∧
      Resumes Native.RoutingTable.homeSettings (fun _ _ => true) none "dht.bin"
        before boot state effects := by
  obtain ⟨⟨trace, host⟩, started, isResumed⟩ :=
    Option.map_eq_some_iff.mp killedSave_resumed
  obtain ⟨_, _, accepted, run, inputs⟩ := Machine.exists_run_of_start
    (Option.isSome_of_mem started)
  cases started.symm.trans accepted
  obtain ⟨before, boot, state, effects, booted, readable, hasSaved⟩ :=
    boot_of_resumed isResumed
  exact ⟨trace, host, before, boot, state, effects, run, inputs, booted,
    hasSaved, last_save_resumed run rfl booted readable rfl _⟩

end ExLibp2p.Node.Persistence
