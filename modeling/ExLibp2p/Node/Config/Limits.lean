import ExLibp2p.Native.ConnectionLimits
import ExLibp2p.Node.Config.Wiring

namespace ExLibp2p.Node

open ExLibp2p.Data
open ExLibp2p.Erlang
open ExLibp2p.Native

/-- What `get_u32` makes of one of the two limits. -/
def establishedLimit (config : Config) (field : String) : UInt32 :=
  ((config.network.lookup field).bind Decode.u32).getD 256

/-- The installed total is the sum of the limits of both directions. -/
def TotalExact (config : NodeConfig)
    (installed : Except Panic ConnectionLimits) : Prop :=
  ∃ limits total, installed = .ok limits ∧
    limits.maxEstablished = some total ∧
    total.toNat = config.maxEstablishedIncoming.toNat +
      config.maxEstablishedOutgoing.toNat ∧
    config.maxEstablishedIncoming ≤ total ∧
    config.maxEstablishedOutgoing ≤ total

theorem totalExact_iff (profile : Profile) (config : NodeConfig) :
    TotalExact config (connectionLimits profile config) ↔
      config.maxEstablishedIncoming.toNat +
        config.maxEstablishedOutgoing.toNat < UInt32.size := by
  rw [← profile.add_exact_iff]
  constructor
  · intro exact
    obtain ⟨limits, total, installed, isTotal, sum, -, -⟩ := exact
    rw [connectionLimits] at installed
    cases added : profile.add config.maxEstablishedIncoming
        config.maxEstablishedOutgoing with
    | error panic =>
        rw [added] at installed
        cases installed
    | ok result =>
        rw [added] at installed
        cases installed
        cases isTotal
        exact ⟨total, rfl, sum⟩
  · intro exact
    obtain ⟨total, added, sum⟩ := exact
    refine ⟨_, total, by rw [connectionLimits, added]; rfl, rfl, sum, ?_, ?_⟩
    · rw [UInt32.le_iff_toNat_le]
      omega
    · rw [UInt32.le_iff_toNat_le]
      omega

theorem validate_eq_ok {config accepted : Config}
    (validated : Config.validate config = .ok accepted) : config = accepted := by
  unfold Config.validate at validated
  split at validated
  · cases validated
  · split at validated
    · split at validated
      · cases validated
      · exact Except.ok.inj validated
    · exact Except.ok.inj validated

section Loading

variable {rustler : Rustler} {chars : Term → Except Exception Bytes}
  {config : Config} {map : TermMap} {node : NodeConfig}

theorem getU32_network {field : String}
    (row : (Config.nifRows chars config).lookup field =
      some (config.network.fetch! field))
    (flattened : Config.toNifMap chars config = .ok map) :
    getU32 map field 256 = establishedLimit config field := by
  have present := sequence_isOk_iff.mp ⟨map, flattened⟩ _ (mem_of_lookup row)
  obtain ⟨value, fetched⟩ := present
  have found : map.lookup field = some value :=
    lookup_sequence flattened (row.trans (congrArg some fetched))
  have held : config.network.lookup field = some value := by
    cases stored : config.network.lookup field with
    | none => simp [Struct.fetch!, stored] at fetched
    | some other =>
        simp only [Struct.fetch!, stored] at fetched
        cases fetched
        rfl
  rw [getU32, getOr, found, establishedLimit, held]

theorem limits_of_load (loaded : load rustler chars config = .ok node) :
    node.maxEstablishedIncoming =
        establishedLimit config "max_established_incoming" ∧
      node.maxEstablishedOutgoing =
        establishedLimit config "max_established_outgoing" := by
  obtain ⟨map, flattened, read⟩ := load_eq_ok.mp loaded
  obtain ⟨listenAddrs, -, read⟩ := bind_eq_ok.mp read
  obtain ⟨bootstrapPeers, -, read⟩ := bind_eq_ok.mp read
  obtain ⟨topics, -, read⟩ := bind_eq_ok.mp read
  obtain rfl := Except.ok.inj read
  exact ⟨getU32_network rfl flattened, getU32_network rfl flattened⟩

/-- The total is right in every build exactly when the two limits add up to a
`u32`. -/
theorem totalExact_iff_sum_fits {accepted : Config}
    (validated : Config.validate config = .ok accepted)
    (loaded : load rustler chars accepted = .ok node) (profile : Profile) :
    TotalExact node (connectionLimits profile node) ↔
      (establishedLimit config "max_established_incoming").toNat +
        (establishedLimit config "max_established_outgoing").toNat < 2 ^ 32 := by
  obtain ⟨incoming, outgoing⟩ := limits_of_load loaded
  rw [totalExact_iff, incoming, outgoing, validate_eq_ok validated]
  rfl

end Loading

/-- Limits that together are the largest `u32`. -/
def wideOptions : Keywords :=
  [("max_established_incoming", .integer 4294967039)]

theorem totalExact_wide :
    ∃ config node, Config.new wideOptions = .ok config ∧
      Config.validate config = .ok config ∧
      load strict noChars config = .ok node ∧
      ∀ profile, TotalExact node (connectionLimits profile node) := by
  obtain ⟨config, node, created, validated, loaded, fits⟩ :
      ∃ config node, Config.new wideOptions = .ok config ∧
        Config.validate config = .ok config ∧
        load strict noChars config = .ok node ∧
        (establishedLimit config "max_established_incoming").toNat +
          (establishedLimit config "max_established_outgoing").toNat < 2 ^ 32 :=
    ⟨_, _, rfl, rfl, rfl, by decide⟩
  refine ⟨config, node, created, validated, loaded, ?_⟩
  intro profile
  exact (totalExact_iff_sum_fits validated loaded profile).mpr fits

/-- No limit on outgoing connections, as far as the type goes: a release build
installs a total of 255, below either limit, and a debug build panics. -/
theorem unlimited_not_totalExact :
    ∃ config node,
      Config.new [("max_established_outgoing", .integer 4294967295)] =
        .ok config ∧
      Config.validate config = .ok config ∧
      load strict noChars config = .ok node ∧
      (connectionLimits .release node).map ConnectionLimits.maxEstablished =
        .ok (some 255) ∧
      connectionLimits .debug node = .error .addOverflow ∧
      ∀ profile, ¬ TotalExact node (connectionLimits profile node) := by
  refine ⟨_, _, rfl, rfl, rfl, rfl, rfl, ?_⟩
  intro profile exact
  exact absurd ((totalExact_iff profile _).mp exact) (by decide)

end ExLibp2p.Node
