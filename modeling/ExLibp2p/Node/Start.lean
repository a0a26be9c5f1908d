import ExLibp2p.Data.Script
import ExLibp2p.Node.Config.Wiring
import ExLibp2p.PeerId

namespace ExLibp2p.Node.Start

open ExLibp2p.Data
open ExLibp2p.Data.Script
open ExLibp2p.Erlang

/-! What `init/1` does to the native side and the storage, in its order, for
each way in which these can answer. -/

variable {Pid Handle : Type}

structure State (Handle : Type) where
  handle : Handle
  peerId : PeerId
  dhtStatePath : Term

inductive Effect (Pid Handle : Type)
  | startNode (configMap : List (String × Term))
  | getPeerId (handle : Handle)
  | registerEventHandler (handle : Handle) (pid : Pid)
  | read (path : Term)
  | kadImportRoutingTable (handle : Handle) (bytes : Bytes)

/-- How `native.start_node` ends. -/
inductive Started (Handle : Type)
  | handle (handle : Handle)
  | error (reason : Term)
  | raised (original : Term)

/-- The read may raise, as `File.read/1` does for a path that is no text, and
so may a log line that holds the path. -/
structure Outcomes (Handle : Type) where
  started : Started Handle
  peerIdStr : Bytes
  read : Except Exception (Except Term Bytes)
  imported : Except Term Nat
  logged : Except Exception Unit

inductive Result (Handle : Type)
  | ok (state : State Handle)
  | stop (reason : Term)

abbrev Script (Pid Handle : Type) :=
  Data.Script Exception (Effect Pid Handle)

def reason : ConfigError → Term
  | .noListenAddrs => .atom "no_listen_addrs"
  | .invalidTimeout => .atom "invalid_timeout"

def failedToStart (reason : Term) : Result Handle :=
  .stop (.tuple [.atom "failed_to_start", reason])

section Init

variable (chars : Term → Except Exception Bytes) (outcomes : Outcomes Handle)

def startNodeSafe (configMap : List (String × Term)) :
    Script Pid Handle (Except Term Handle) := do
  perform (.startNode configMap)
  match outcomes.started with
  | .handle handle => return .ok handle
  | .error reason => return .error reason
  | .raised original => return .error original

def maybeImportDhtState (handle : Handle) : Term → Script Pid Handle Unit
  | .atom "nil" => return
  | path => do
      perform (.read path)
      match ← lift outcomes.read with
      | .ok bytes =>
          perform (.kadImportRoutingTable handle bytes)
          match outcomes.imported with
          | .ok _ => lift outcomes.logged
          | .error _ => return
      | .error (.atom "enoent") => return
      | .error _ => lift outcomes.logged

def init (opts : Keywords) (self : Pid) :
    Script Pid Handle (Result Handle) := do
  let configOpts := opts.filter fun entry => entry.1 ≠ "native_module"
  let config ← lift (Config.new configOpts)
  match Config.validate config with
  | .error error => return failedToStart (reason error)
  | .ok validConfig =>
      let configMap ← lift (Config.toNifMap chars validConfig)
      match ← startNodeSafe outcomes configMap with
      | .error reason => return failedToStart reason
      | .ok handle =>
          perform (.getPeerId handle)
          match PeerId.new (.binary outcomes.peerIdStr) with
          | .error .invalidPeerId =>
              return failedToStart (.atom "invalid_peer_id")
          | .ok peerId =>
              perform (.registerEventHandler handle self)
              let dhtStatePath ←
                lift (validConfig.discovery.fetch! "dht_state_path")
              maybeImportDhtState outcomes handle dhtStatePath
              return .ok { handle, peerId, dhtStatePath }

end Init

def importEffects (outcomes : Outcomes Handle) (handle : Handle) :
    Term → List (Effect Pid Handle)
  | .atom "nil" => []
  | path =>
      match outcomes.read with
      | .ok (.ok bytes) => [.read path, .kadImportRoutingTable handle bytes]
      | _ => [.read path]

/-- The import returns, unless the read or a log line raises. -/
def importResult (outcomes : Outcomes Handle) : Term → Except Exception Unit
  | .atom "nil" => .ok ()
  | _ => do
      match ← outcomes.read with
      | .ok _ =>
          match outcomes.imported with
          | .ok _ => outcomes.logged
          | .error _ => return
      | .error (.atom "enoent") => return
      | .error _ => outcomes.logged

/-- What a node needs to get as far as the import: options that make a
configuration, a swarm, and an identifier that is one. -/
structure Openable (chars : Term → Except Exception Bytes)
    (outcomes : Outcomes Handle) (opts : Keywords) (config : Config)
    (configMap : List (String × Term)) (state : State Handle) : Prop where
  created : Config.new (opts.filter fun entry => entry.1 ≠ "native_module") =
    .ok config
  valid : Config.validate config = .ok config
  flattened : Config.toNifMap chars config = .ok configMap
  started : outcomes.started = .handle state.handle
  identified : PeerId.new (.binary outcomes.peerIdStr) = .ok state.peerId
  path : config.discovery.fetch! "dht_state_path" = .ok state.dhtStatePath

structure Startable (chars : Term → Except Exception Bytes)
    (outcomes : Outcomes Handle) (opts : Keywords) (config : Config)
    (configMap : List (String × Term)) (state : State Handle) : Prop
    extends Openable chars outcomes opts config configMap state where
  imports : importResult outcomes state.dhtStatePath = .ok ()

def startEffects (outcomes : Outcomes Handle)
    (configMap : List (String × Term)) (state : State Handle) (self : Pid) :
    List (Effect Pid Handle) :=
  .startNode configMap :: .getPeerId state.handle ::
    .registerEventHandler state.handle self ::
    importEffects outcomes state.handle state.dhtStatePath

section Runs

variable {chars : Term → Except Exception Bytes} {outcomes : Outcomes Handle}
  {opts : Keywords} {self : Pid} {state : State Handle}
  {earlier : List (Effect Pid Handle)}

theorem run_maybeImportDhtState (handle : Handle) (path : Term) :
    run (maybeImportDhtState outcomes handle path) earlier =
      (importResult outcomes path,
        earlier ++ importEffects outcomes handle path) := by
  obtain ⟨started, peerIdStr, read, imported, logged⟩ := outcomes
  unfold maybeImportDhtState importResult importEffects
  split
  · exact congrArg (Except.ok (), ·) (List.append_nil earlier).symm
  · rcases read with exception | reason | bytes
    · rfl
    · simp only [run_bind, run_perform, run_lift]
      split
      · contradiction
      · rename_i absent
        cases absent
        rfl
      · rename_i different same
        cases same
        rw [run_lift]
        refine congrArg (·, _) ?_
        simp only [bind, Except.bind]
    · simp only [run_bind, run_perform, run_lift]
      cases imported with
      | ok count =>
          simp only [run_lift, List.append_assoc]
          rfl
      | error reason =>
          simp only [run_pure, List.append_assoc]
          rfl

theorem validate_same {config valid : Config}
    (validated : Config.validate config = .ok valid) : valid = config := by
  unfold Config.validate at validated
  split at validated
  · cases validated
  · split at validated
    · split at validated
      · cases validated
      · cases validated
        rfl
    · cases validated
      rfl

theorem run_startNodeSafe (configMap : List (String × Term)) :
    run (startNodeSafe outcomes configMap : Script Pid Handle _) earlier =
      (.ok (match outcomes.started with
        | .handle handle => .ok handle
        | .error reason => .error reason
        | .raised original => .error original),
        earlier ++ [.startNode configMap]) := by
  unfold startNodeSafe
  rw [run_bind, run_perform]
  cases outcomes.started with
  | handle handle => rfl
  | error reason => rfl
  | raised original => rfl

theorem fetch_dhtStatePath {opts : Keywords} {config : Config}
    (created : Config.new opts = .ok config) :
    config.discovery.fetch! "dht_state_path" =
      .ok ((opts.lookup "dht_state_path").getD (.atom "nil")) := by
  have distinct := (new_isOk_iff.mp ⟨config, created⟩).1
  obtain ⟨_, -, built⟩ := bind_eq_ok.mp created
  obtain rfl := Except.ok.inj built
  have default :
      Config.discoveryDefaults.lookup "dht_state_path" = some (.atom "nil") :=
    rfl
  have known : "dht_state_path" ∈ Config.discoveryKeys := by decide
  rw [Struct.fetch!, built_take distinct default known]

theorem run_init {config : Config} {configMap : List (String × Term)}
    (openable : Openable chars outcomes opts config configMap state) :
    run (init chars outcomes opts self) earlier =
      ((importResult outcomes state.dhtStatePath).map fun _ => .ok state,
        earlier ++ startEffects outcomes configMap state self) := by
  unfold init
  rw [run_bind, openable.created, run_lift]
  simp only [openable.valid]
  rw [run_bind, openable.flattened, run_lift]
  simp only
  rw [run_bind, run_startNodeSafe, openable.started]
  simp only
  rw [run_bind, run_perform]
  simp only [openable.identified]
  rw [run_bind, run_perform]
  simp only
  rw [run_bind, openable.path, run_lift]
  simp only
  rw [run_bind, run_maybeImportDhtState]
  cases importResult outcomes state.dhtStatePath with
  | error exception => simp [startEffects, Except.map]
  | ok done => simp [startEffects, Except.map]

/-- Everything before the identifier is known leaves the events and the storage
alone. -/
def Effect.isOpening : Effect Pid Handle → Bool
  | .startNode _ => true
  | .getPeerId _ => true
  | _ => false

structure Fails (result : Except Exception (Result Handle))
    (effects : List (Effect Pid Handle)) : Prop where
  stopped : ∀ state, result ≠ .ok (.ok state)
  opening : ∀ effect ∈ effects, effect.isOpening = true

theorem init_cases (chars : Term → Except Exception Bytes)
    (outcomes : Outcomes Handle) (opts : Keywords) (self : Pid) :
    (∃ config configMap state,
      Openable chars outcomes opts config configMap state) ∨
    Fails (run (init chars outcomes opts self) []).1
      (run (init chars outcomes opts self) []).2 := by
  unfold init
  rw [run_bind, run_lift]
  cases created :
      Config.new (opts.filter fun entry => entry.1 ≠ "native_module") with
  | error raised =>
      exact .inr ⟨nofun, nofun⟩
  | ok config =>
      simp only
      cases validated : Config.validate config with
      | error error =>
          exact .inr ⟨nofun, nofun⟩
      | ok valid =>
          obtain rfl := validate_same validated
          simp only
          rw [run_bind, run_lift]
          cases flattened : Config.toNifMap chars valid with
          | error raised =>
              exact .inr ⟨nofun, nofun⟩
          | ok configMap =>
              simp only
              rw [run_bind, run_startNodeSafe]
              cases started : outcomes.started with
              | error reason =>
                  exact .inr ⟨nofun, by simp [Effect.isOpening]⟩
              | raised original =>
                  exact .inr ⟨nofun, by simp [Effect.isOpening]⟩
              | handle handle =>
                  simp only
                  rw [run_bind, run_perform]
                  cases identified :
                      PeerId.new (.binary outcomes.peerIdStr) with
                  | error invalid =>
                      cases invalid
                      exact .inr ⟨nofun, by simp [Effect.isOpening]⟩
                  | ok peerId =>
                      exact .inl ⟨valid, configMap, ⟨handle, peerId, _⟩,
                        created, validated, flattened, started, identified,
                        fetch_dhtStatePath created⟩

theorem starts_iff_startable :
    (run (init chars outcomes opts self) []).1 = .ok (.ok state) ↔
      ∃ config configMap,
        Startable chars outcomes opts config configMap state := by
  constructor
  · intro started
    rcases init_cases chars outcomes opts self with
      ⟨config, configMap, other, openable⟩ | fails
    · rw [run_init openable] at started
      cases imports : importResult outcomes other.dhtStatePath with
      | error exception =>
          rw [imports] at started
          cases started
      | ok done =>
          rw [imports] at started
          cases started
          exact ⟨config, configMap, openable, imports⟩
    · exact absurd started (fails.stopped state)
  · intro found
    obtain ⟨config, configMap, startable⟩ := found
    rw [run_init startable.toOpenable, startable.imports]
    rfl

/-- A start that ends in the import, after it has asked for events. -/
structure EndsInImport (chars : Term → Except Exception Bytes)
    (outcomes : Outcomes Handle) (opts : Keywords) (self : Pid) : Prop where
  ended : ∃ config configMap state exception,
    Openable chars outcomes opts config configMap state ∧
      importResult outcomes state.dhtStatePath = .error exception ∧
      run (init chars outcomes opts self) [] =
        (.error exception, startEffects outcomes configMap state self)

theorem endsInImport_of_openable {config : Config}
    {configMap : List (String × Term)}
    (down : ∀ state,
      (run (init chars outcomes opts self) []).1 ≠ .ok (.ok state))
    (openable : Openable chars outcomes opts config configMap state) :
    EndsInImport chars outcomes opts self := by
  cases imports : importResult outcomes state.dhtStatePath with
  | error exception =>
      refine ⟨config, configMap, state, exception, openable, imports, ?_⟩
      rw [run_init openable, imports]
      rfl
  | ok done =>
      have started : (run (init chars outcomes opts self) []).1 =
          .ok (.ok state) :=
        starts_iff_startable.mpr ⟨config, configMap, openable, imports⟩
      exact absurd started (down state)

/-- A node starts exactly if it gets as far as the import and returns from it.
One that does not start has not asked for events and has not touched the
storage, unless it raised in the import. -/
theorem init_all_or_nothing (chars : Term → Except Exception Bytes)
    (outcomes : Outcomes Handle) (opts : Keywords) (self : Pid) :
    (∀ state, (run (init chars outcomes opts self) []).1 = .ok (.ok state) ↔
      ∃ config configMap,
        Startable chars outcomes opts config configMap state) ∧
    (∀ config configMap state,
      Startable chars outcomes opts config configMap state →
        (run (init chars outcomes opts self) []).2 =
          startEffects outcomes configMap state self) ∧
    ((∀ state, (run (init chars outcomes opts self) []).1 ≠
        .ok (.ok state)) →
      (∀ effect ∈ (run (init chars outcomes opts self) []).2,
        effect.isOpening = true) ∨
      EndsInImport chars outcomes opts self) := by
  refine ⟨fun state => starts_iff_startable, ?_, ?_⟩
  · intro config configMap state startable
    rw [run_init startable.toOpenable]
    exact List.nil_append _
  · intro stopped
    rcases init_cases chars outcomes opts self with
      ⟨config, configMap, state, openable⟩ | fails
    · exact .inr (endsInImport_of_openable stopped openable)
    · exact .inl fails.opening

end Runs

end ExLibp2p.Node.Start
