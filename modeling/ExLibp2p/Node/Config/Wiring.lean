import ExLibp2p.Node.Config.Flattening
import ExLibp2p.Node.Config.Getters

namespace ExLibp2p.Node

open ExLibp2p.Data
open ExLibp2p.Erlang
open ExLibp2p.Native

def Kind.isOptional : Kind → Bool
  | .keypair => true
  | .peerScore => true
  | .thresholds => true
  | _ => false

/-- The documented types, of which some admit `nil`. -/
def Kind.Accepts (kind : Kind) (term : Term) : Prop :=
  kind.Fits term ∨ (kind.isOptional ∧ term = .atom "nil")

def Field.isScore (field : Field) : Bool :=
  field = .peerScore || field = .thresholds

section Elixir

variable {opts : Keywords} {config : Config}

theorem knownKeys_nodup : Config.knownKeys.Nodup := by
  decide

theorem new_isOk_iff :
    (∃ config, Config.new opts = .ok config) ↔
      (opts.map Prod.fst).Nodup ∧
        ∀ key ∈ opts.map Prod.fst, key ∈ Config.knownKeys := by
  rw [← Keyword.validate!_eq_ok knownKeys_nodup]
  constructor
  · intro found
    obtain ⟨config, created⟩ := found
    obtain ⟨_, valid, -⟩ := bind_eq_ok.mp created
    exact valid
  · intro valid
    rw [Config.new, valid]
    exact ⟨_, rfl⟩

theorem built_take (distinct : (opts.map Prod.fst).Nodup) {defaults : Struct}
    {keys : List String} {field : String} {default : Term}
    (defaulted : defaults.lookup field = some default) (known : field ∈ keys) :
    (Struct.build defaults (Keyword.take opts keys)).lookup field =
      some ((opts.lookup field).getD default) := by
  rw [Struct.lookup_build (Config.keys_take_nodup keys distinct), defaulted,
    Config.lookup_take known]
  rfl

theorem built_renames {defaults : Struct}
    {renameMap : List (String × String)} {option field : String}
    {default : Term} (distinct : (renameMap.map Prod.snd).Nodup)
    (defaulted : defaults.lookup field = some default)
    (renamed : (option, field) ∈ renameMap) :
    (Struct.build defaults
        (Config.takeWithRenames opts renameMap)).lookup field =
      some ((opts.lookup option).getD default) := by
  rw [Struct.lookup_build (Config.keys_takeWithRenames_nodup opts distinct),
    defaulted, Config.lookup_takeWithRenames distinct renamed]
  rfl

theorem lookup_group (created : Config.new opts = .ok config) (field : Field) :
    (config.group field.home.1).lookup field.home.2 =
      some (field.asked opts) := by
  have distinct := (new_isOk_iff.mp ⟨config, created⟩).1
  obtain ⟨_, -, built⟩ := bind_eq_ok.mp created
  obtain rfl := Except.ok.inj built
  cases field with
  | keypairBytes => rfl
  | listenAddrs | idleConnectionTimeoutSecs | maxPendingIncoming
  | maxPendingOutgoing | maxEstablishedIncoming | maxEstablishedOutgoing
  | maxEstablishedPerPeer | memoryMaxPercentage | enableWebsocket
  | bootstrapPeers | enableMdns | enableKademlia | mdnsAutoDial =>
      exact built_take distinct rfl (by decide)
  | _ => exact built_renames (by decide) rfl (by decide)

variable {chars : Term → Except Exception Bytes} {map : TermMap}

theorem fetch_group (created : Config.new opts = .ok config) (field : Field) :
    (config.group field.home.1).fetch! field.home.2 = .ok (field.asked opts) := by
  rw [Struct.fetch!, lookup_group created field]

theorem lookup_nifRows (created : Config.new opts = .ok config) {field : Field}
    (plain : field.isScore = false) :
    (Config.nifRows chars config).lookup field.key =
      some (.ok (field.asked opts)) := by
  have row : (Config.nifRows chars config).lookup field.key =
      some ((config.group field.home.1).fetch! field.home.2) := by
    cases field with
    | peerScore | thresholds => cases plain
    | _ => rfl
  rw [row, fetch_group created field]

theorem lookup_nifRows_score (created : Config.new opts = .ok config)
    {field : Field} (scored : field.isScore = true) :
    (Config.nifRows chars config).lookup field.key =
      some (Config.stringifyStruct chars (field.asked opts)) := by
  have row : (Config.nifRows chars config).lookup field.key =
      some ((config.group field.home.1).fetch! field.home.2 >>=
        Config.stringifyStruct chars) := by
    cases field with
    | peerScore | thresholds => rfl
    | _ => cases scored
  rw [row, fetch_group created field]
  rfl

/-- The fields in the order of the rows of `to_nif_map/1`. -/
def Field.all : List Field :=
  [.keypairBytes, .listenAddrs, .idleConnectionTimeoutSecs,
    .maxPendingIncoming, .maxPendingOutgoing, .maxEstablishedIncoming,
    .maxEstablishedOutgoing, .maxEstablishedPerPeer, .memoryMaxPercentage,
    .enableWebsocket, .bootstrapPeers, .enableMdns, .enableKademlia,
    .mdnsAutoDial, .gossipsubTopics, .gossipsubMeshN, .gossipsubMeshNLow,
    .gossipsubMeshNHigh, .gossipsubGossipLazy, .gossipsubMaxTransmitSize,
    .gossipsubHeartbeatIntervalMs, .peerScore, .thresholds,
    .peerScoreDisabled, .rpcProtocolName, .rpcRequestTimeoutSecs,
    .enableRelay, .enableRelayServer, .enableAutonat, .enableAutonatServer,
    .enableUpnp, .relayMaxReservations, .relayMaxCircuits,
    .relayMaxCircuitDurationSecs, .relayMaxCircuitBytes,
    .enableRendezvousClient, .enableRendezvousServer]

theorem keys_nifRows (chars : Term → Except Exception Bytes) (config : Config) :
    (Config.nifRows chars config).map Prod.fst = Field.all.map Field.key := rfl

theorem keys_nodup : (Field.all.map Field.key).Nodup := by
  decide

/-- Only the two structs can make the flattening raise. -/
theorem toNifMap_isOk_iff (created : Config.new opts = .ok config) :
    (∃ map, Config.toNifMap chars config = .ok map) ↔
      ∀ field : Field, field.isScore →
        ∃ sent, Config.stringifyStruct chars (field.asked opts) = .ok sent := by
  rw [Config.toNifMap, sequence_isOk_iff]
  constructor
  · intro rows field scored
    exact rows _ (mem_of_lookup (lookup_nifRows_score created scored))
  · intro scores entry member
    have listed : entry.1 ∈ Field.all.map Field.key :=
      keys_nifRows chars config ▸ List.mem_map_of_mem member
    obtain ⟨field, -, named⟩ := List.mem_map.mp listed
    have found := lookup_of_mem (keys_nifRows chars config ▸ keys_nodup) member
    rw [← named] at found
    cases scored : field.isScore with
    | false =>
        rw [lookup_nifRows created scored] at found
        exact ⟨_, (Option.some.inj found).symm⟩
    | true =>
        rw [lookup_nifRows_score created scored] at found
        obtain ⟨sent, stringified⟩ := scores field scored
        exact ⟨sent, (Option.some.inj found).symm.trans stringified⟩

theorem lookup_toNifMap (created : Config.new opts = .ok config)
    (flattened : Config.toNifMap chars config = .ok map) {field : Field}
    (plain : field.isScore = false) :
    map.lookup field.key = some (field.asked opts) :=
  lookup_sequence flattened (lookup_nifRows created plain)

theorem lookup_toNifMap_score (created : Config.new opts = .ok config)
    (flattened : Config.toNifMap chars config = .ok map) {field : Field}
    (scored : field.isScore = true) :
    ∃ sent, Config.stringifyStruct chars (field.asked opts) = .ok sent ∧
      map.lookup field.key = some sent := by
  obtain ⟨sent, stringified⟩ :=
    (toNifMap_isOk_iff created).mp ⟨map, flattened⟩ field scored
  refine ⟨sent, stringified, lookup_sequence flattened ?_⟩
  rw [lookup_nifRows_score created scored, stringified]

end Elixir

section Native

variable {rustler : Rustler} {opts : Keywords} {config : Config} {map : TermMap}
  {node : NodeConfig} {chars : Term → Except Exception Bytes}

theorem accepts_iff_fits {kind : Kind} {term : Term}
    (mandatory : kind.isOptional = false) :
    kind.Accepts term ↔ kind.Fits term := by
  simp [Kind.Accepts, mandatory]

theorem accepts_optional {kind : Kind} {term : Term}
    (optional : kind.isOptional = true) :
    kind.Accepts term ↔ term = .atom "nil" ∨ kind.Fits term := by
  simp [Kind.Accepts, optional, or_comm]

theorem texts_of_fromMap {key : String} {list : List String} {term : Term}
    (read : getStringList map key = .ok list)
    (found : map.lookup key = some term) :
    (Value.texts list).Represents term ↔ Kind.texts.Accepts term := by
  have same := (getStringList_eq_ok found).mp read
  exact iff_of_true same (.inl ⟨list, same⟩)

/-- A field is exactly what was asked for when that has the type of the
field. -/
theorem represents_iff_accepts (created : Config.new opts = .ok config)
    (flattened : Config.toNifMap chars config = .ok map)
    (read : NodeConfig.fromMap rustler map = .ok node) (field : Field) :
    (valueOf node field).Represents (field.asked opts) ↔
      field.kind.Accepts (field.asked opts) := by
  obtain ⟨listenAddrs, listenRead, read⟩ := bind_eq_ok.mp read
  obtain ⟨bootstrapPeers, bootstrapRead, read⟩ := bind_eq_ok.mp read
  obtain ⟨topics, topicsRead, read⟩ := bind_eq_ok.mp read
  obtain rfl := Except.ok.inj read
  have found : field.isScore = false →
      map.lookup field.key = some (field.asked opts) :=
    lookup_toNifMap created flattened
  cases field with
  | peerScore =>
      obtain ⟨sent, stringified, held⟩ :=
        lookup_toNifMap_score created flattened (rfl : Field.peerScore.isScore = true)
      exact (getPeerScore_exact stringified held).trans (accepts_optional rfl).symm
  | thresholds =>
      obtain ⟨sent, stringified, held⟩ :=
        lookup_toNifMap_score created flattened
          (rfl : Field.thresholds.isScore = true)
      exact (getThresholds_exact stringified held).trans (accepts_optional rfl).symm
  | keypairBytes =>
      exact (getBinary_exact (found rfl)).trans (accepts_optional rfl).symm
  | listenAddrs =>
      exact texts_of_fromMap listenRead (found rfl)
  | bootstrapPeers =>
      exact texts_of_fromMap bootstrapRead (found rfl)
  | gossipsubTopics =>
      exact texts_of_fromMap topicsRead (found rfl)
  | rpcProtocolName =>
      exact (getString_exact (found rfl) _).trans (accepts_iff_fits rfl).symm
  | memoryMaxPercentage =>
      exact (getF64_exact (found rfl) _).trans (accepts_iff_fits rfl).symm
  | maxEstablishedIncoming | maxEstablishedOutgoing | maxPendingIncoming
  | maxPendingOutgoing | maxEstablishedPerPeer | relayMaxReservations
  | relayMaxCircuits =>
      exact (getU32_exact (found rfl) _).trans (accepts_iff_fits rfl).symm
  | gossipsubMeshN | gossipsubMeshNLow | gossipsubMeshNHigh
  | gossipsubGossipLazy | gossipsubMaxTransmitSize =>
      exact (getUsize_exact (found rfl) _).trans (accepts_iff_fits rfl).symm
  | gossipsubHeartbeatIntervalMs | rpcRequestTimeoutSecs
  | idleConnectionTimeoutSecs | relayMaxCircuitDurationSecs
  | relayMaxCircuitBytes =>
      exact (getU64_exact (found rfl) _).trans (accepts_iff_fits rfl).symm
  | _ => exact (getBool_exact (found rfl) _).trans (accepts_iff_fits rfl).symm

theorem fromMap_isOk_iff :
    (∃ node, NodeConfig.fromMap rustler map = .ok node) ↔
      ∀ field : Field, field.kind = .texts →
        ∃ list, getStringList map field.key = .ok list := by
  constructor
  · intro found field isTexts
    obtain ⟨node, read⟩ := found
    obtain ⟨listenAddrs, listenRead, read⟩ := bind_eq_ok.mp read
    obtain ⟨bootstrapPeers, bootstrapRead, read⟩ := bind_eq_ok.mp read
    obtain ⟨topics, topicsRead, -⟩ := bind_eq_ok.mp read
    cases field with
    | listenAddrs => exact ⟨listenAddrs, listenRead⟩
    | bootstrapPeers => exact ⟨bootstrapPeers, bootstrapRead⟩
    | gossipsubTopics => exact ⟨topics, topicsRead⟩
    | _ => cases isTexts
  · intro lists
    obtain ⟨listenAddrs, listenRead⟩ := lists .listenAddrs rfl
    obtain ⟨bootstrapPeers, bootstrapRead⟩ := lists .bootstrapPeers rfl
    obtain ⟨topics, topicsRead⟩ := lists .gossipsubTopics rfl
    exact ⟨_, bind_eq_ok.mpr ⟨listenAddrs, listenRead,
      bind_eq_ok.mpr ⟨bootstrapPeers, bootstrapRead,
        bind_eq_ok.mpr ⟨topics, topicsRead, rfl⟩⟩⟩⟩

theorem valueOf_congr {other : TermMap} {otherNode : NodeConfig} {field : Field}
    (read : NodeConfig.fromMap rustler map = .ok node)
    (otherRead : NodeConfig.fromMap rustler other = .ok otherNode)
    (same : other.lookup field.key = map.lookup field.key) :
    valueOf otherNode field = valueOf node field := by
  have lists : ∀ {key : String} {list otherList : List String},
      other.lookup key = map.lookup key → getStringList map key = .ok list →
        getStringList other key = .ok otherList → otherList = list := by
    intro key list otherList same read otherRead
    rw [getStringList, same, ← getStringList, read] at otherRead
    exact (Except.ok.inj otherRead).symm
  obtain ⟨listenAddrs, listenRead, read⟩ := bind_eq_ok.mp read
  obtain ⟨bootstrapPeers, bootstrapRead, read⟩ := bind_eq_ok.mp read
  obtain ⟨topics, topicsRead, read⟩ := bind_eq_ok.mp read
  obtain rfl := Except.ok.inj read
  obtain ⟨otherListen, otherListenRead, otherRead⟩ := bind_eq_ok.mp otherRead
  obtain ⟨otherPeers, otherPeersRead, otherRead⟩ := bind_eq_ok.mp otherRead
  obtain ⟨otherTopics, otherTopicsRead, otherRead⟩ := bind_eq_ok.mp otherRead
  obtain rfl := Except.ok.inj otherRead
  cases field with
  | listenAddrs => exact congrArg Value.texts (lists same listenRead otherListenRead)
  | bootstrapPeers =>
      exact congrArg Value.texts (lists same bootstrapRead otherPeersRead)
  | gossipsubTopics =>
      exact congrArg Value.texts (lists same topicsRead otherTopicsRead)
  | _ =>
      simp only [Field.key] at same
      simp only [valueOf, getBinary, getUsize, getU64, getU32, getF64, getBool,
        getString, getOr, getPeerScore, getThresholds, getInner, same]

end Native

inductive LoadError
  | raised (exception : Exception)
  | refused (message : String)
  | panicked (panic : Panic)

/-- `NodeConfig::from_map(Config.to_nif_map(config))`. -/
def load (rustler : Rustler) (chars : Term → Except Exception Bytes)
    (config : Config) : Except LoadError NodeConfig :=
  match Config.toNifMap chars config with
  | .error exception => .error (.raised exception)
  | .ok map =>
      match NodeConfig.fromMap rustler map with
      | .error (.message text) => .error (.refused text)
      | .error (.panic panic) => .error (.panicked panic)
      | .ok node => .ok node

section Loading

variable {rustler : Rustler} {opts : Keywords} {config : Config}
  {node : NodeConfig} {chars : Term → Except Exception Bytes}

theorem load_eq_ok :
    load rustler chars config = .ok node ↔
      ∃ map, Config.toNifMap chars config = .ok map ∧
        NodeConfig.fromMap rustler map = .ok node := by
  unfold load
  cases flattened : Config.toNifMap chars config with
  | error exception => simp
  | ok map =>
      rcases read : NodeConfig.fromMap rustler map with ⟨text | panic⟩ | other
      · simp [read]
      · simp [read]
      · simp [read]

theorem not_isScore_of_texts {field : Field} (isTexts : field.kind = .texts) :
    field.isScore = false := by
  cases field with
  | peerScore | thresholds => cases isTexts
  | _ => rfl

theorem load_isOk_iff (created : Config.new opts = .ok config) :
    (∃ node, load rustler chars config = .ok node) ↔
      (∀ field : Field, field.isScore → ∃ sent,
        Config.stringifyStruct chars (field.asked opts) = .ok sent) ∧
      ∀ field : Field, field.kind = .texts →
        Kind.texts.Fits (field.asked opts) := by
  have lists : ∀ {map}, Config.toNifMap chars config = .ok map →
      ((∃ node, NodeConfig.fromMap rustler map = .ok node) ↔
        ∀ field : Field, field.kind = .texts →
          Kind.texts.Fits (field.asked opts)) := by
    intro map flattened
    rw [fromMap_isOk_iff]
    refine forall₂_congr fun field isTexts => exists_congr fun list => ?_
    exact getStringList_eq_ok
      (lookup_toNifMap created flattened (not_isScore_of_texts isTexts))
  rw [← toNifMap_isOk_iff created]
  constructor
  · intro found
    obtain ⟨node, loaded⟩ := found
    obtain ⟨map, flattened, read⟩ := load_eq_ok.mp loaded
    exact ⟨⟨map, flattened⟩, (lists flattened).mp ⟨node, read⟩⟩
  · intro both
    obtain ⟨⟨map, flattened⟩, fits⟩ := both
    obtain ⟨node, read⟩ := (lists flattened).mpr fits
    exact ⟨node, load_eq_ok.mpr ⟨map, flattened, read⟩⟩

theorem asked_of_mem (distinct : (opts.map Prod.fst).Nodup) {field : Field}
    {value : Term} (given : (field.option, value) ∈ opts) :
    field.asked opts = value := by
  rw [Field.asked, lookup_of_mem distinct given]
  rfl

theorem asked_cases (opts : Keywords) (field : Field) :
    (field.option, field.asked opts) ∈ opts ∨
      field.asked opts = field.default := by
  rw [Field.asked]
  cases found : opts.lookup field.option with
  | none => exact .inr rfl
  | some value => exact .inl (mem_of_lookup found)

theorem default_accepted (field : Field) : field.kind.Accepts field.default := by
  cases field with
  | keypairBytes | peerScore | thresholds => exact .inr ⟨rfl, rfl⟩
  | listenAddrs =>
      exact .inl ⟨["/ip4/0.0.0.0/tcp/0", "/ip4/0.0.0.0/udp/0/quic-v1"], rfl⟩
  | bootstrapPeers | gossipsubTopics => exact .inl ⟨[], rfl⟩
  | rpcProtocolName => exact .inl ⟨_, rfl⟩
  | memoryMaxPercentage => exact .inl ⟨_, rfl⟩
  | enableMdns | mdnsAutoDial | enableKademlia => exact .inl (.inl rfl)
  | enableRelay | enableRelayServer | enableAutonat | enableAutonatServer
  | enableUpnp | enableWebsocket | enableRendezvousClient
  | enableRendezvousServer | peerScoreDisabled => exact .inl (.inr rfl)
  | _ => exact .inl ⟨_, rfl, by decide, by decide⟩

theorem stringifyStruct_of_accepts {field : Field} {term : Term}
    (scored : field.isScore = true) (accepts : field.kind.Accepts term) :
    ∃ sent, Config.stringifyStruct chars term = .ok sent := by
  obtain fits | ⟨-, rfl⟩ := accepts
  · cases field with
    | peerScore =>
        obtain ⟨config, isStruct⟩ := fits
        obtain ⟨others, -, stringified⟩ :=
          stringifyStruct_of_isStruct (peerScoreFields_plain config) isStruct
        exact ⟨_, stringified⟩
    | thresholds =>
        obtain ⟨config, isStruct⟩ := fits
        obtain ⟨others, -, stringified⟩ :=
          stringifyStruct_of_isStruct (thresholdsFields_plain config) isStruct
        exact ⟨_, stringified⟩
    | _ => cases scored
  · exact ⟨_, rfl⟩

theorem texts_fits_of_accepts {field : Field} {term : Term}
    (isTexts : field.kind = .texts) (accepts : field.kind.Accepts term) :
    Kind.texts.Fits term := by
  rw [isTexts] at accepts
  exact (accepts_iff_fits rfl).mp accepts

theorem valueOf_of_asked {others : Keywords} {otherConfig : Config}
    {otherNode : NodeConfig} {field : Field}
    (created : Config.new opts = .ok config)
    (loaded : load rustler chars config = .ok node)
    (otherCreated : Config.new others = .ok otherConfig)
    (otherLoaded : load rustler chars otherConfig = .ok otherNode)
    (same : field.asked others = field.asked opts) :
    valueOf otherNode field = valueOf node field := by
  obtain ⟨map, flattened, read⟩ := load_eq_ok.mp loaded
  obtain ⟨otherMap, otherFlattened, otherRead⟩ := load_eq_ok.mp otherLoaded
  apply valueOf_congr read otherRead
  cases scored : field.isScore with
  | false =>
      rw [lookup_toNifMap created flattened scored,
        lookup_toNifMap otherCreated otherFlattened scored, same]
  | true =>
      obtain ⟨sent, stringified, found⟩ :=
        lookup_toNifMap_score created flattened scored
      obtain ⟨otherSent, otherStringified, otherFound⟩ :=
        lookup_toNifMap_score otherCreated otherFlattened scored
      rw [same, stringified] at otherStringified
      cases otherStringified
      rw [found, otherFound]

/-- Distinct known options of the documented types reach their fields, the
other fields have the defaults of the structs, and no field depends on another
option than its own. -/
theorem config_wired (rustler : Rustler)
    (chars : Term → Except Exception Bytes) {opts : Keywords}
    (distinct : (opts.map Prod.fst).Nodup)
    (known : ∀ key ∈ opts.map Prod.fst, key ∈ Config.knownKeys)
    (typed : ∀ field value, (Field.option field, value) ∈ opts →
      field.kind.Accepts value) :
    ∃ config node, Config.new opts = .ok config ∧
      load rustler chars config = .ok node ∧
      (∀ field, (valueOf node field).Represents (field.asked opts)) ∧
      ∀ others otherConfig otherNode, Config.new others = .ok otherConfig →
        load rustler chars otherConfig = .ok otherNode →
        ∀ field, others.lookup (Field.option field) =
            opts.lookup (Field.option field) →
          valueOf otherNode field = valueOf node field := by
  have accepted : ∀ field : Field, field.kind.Accepts (field.asked opts) := by
    intro field
    obtain given | default := asked_cases opts field
    · exact typed field _ given
    · exact default ▸ default_accepted field
  obtain ⟨config, created⟩ := new_isOk_iff.mpr ⟨distinct, known⟩
  obtain ⟨node, loaded⟩ : ∃ node, load rustler chars config = .ok node :=
    (load_isOk_iff created).mpr
      ⟨fun field scored => stringifyStruct_of_accepts scored (accepted field),
        fun field isTexts => texts_fits_of_accepts isTexts (accepted field)⟩
  refine ⟨config, node, created, loaded, ?_, ?_⟩
  · intro field
    obtain ⟨map, flattened, read⟩ := load_eq_ok.mp loaded
    exact (represents_iff_accepts created flattened read field).mpr
      (accepted field)
  · intro others otherConfig otherNode otherCreated otherLoaded field same
    apply valueOf_of_asked created loaded otherCreated otherLoaded
    rw [Field.asked, same, ← Field.asked]

/-- The scores pass `stringify_struct/1`. -/
def ScoresPass (chars : Term → Except Exception Bytes) (opts : Keywords) :
    Prop :=
  ∀ field : Field, field.isScore →
    ∃ sent, Config.stringifyStruct chars (field.asked opts) = .ok sent

/-- The first of these fields that is asked to be anything but a list of texts
is asked to be what is refused, and not what the iterator panics at. -/
def ListRefused (opts : Keywords) : List Field → Prop
  | [] => False
  | field :: later =>
      NotTexts (field.asked opts) ∨
        Kind.texts.Fits (field.asked opts) ∧ ListRefused opts later

/-- The options make the load end with an error. -/
def Refused (chars : Term → Except Exception Bytes) (opts : Keywords) : Prop :=
  ScoresPass chars opts ∧
    ListRefused opts [.listenAddrs, .bootstrapPeers, .gossipsubTopics]

/-- The load ends with an error, or with every option that was set, exactly. -/
def Honoured (rustler : Rustler) (chars : Term → Except Exception Bytes)
    (opts : Keywords) (config : Config) : Prop :=
  match load rustler chars config with
  | .ok node =>
      ∀ field value, (Field.option field, value) ∈ opts →
        value ≠ .atom "nil" → (valueOf node field).Represents value
  | .error (.refused _) => True
  | .error _ => False

theorem bind_message_iff {Given Next : Type} {first : Except Failure Given}
    {next : Given → Except Failure Next} {later : Prop}
    (rest : ∀ value, (∃ text, next value = .error (.message text)) ↔ later) :
    (∃ text, (first >>= next) = .error (.message text)) ↔
      (∃ text, first = .error (.message text)) ∨
        (∃ value, first = .ok value) ∧ later := by
  cases first with
  | error failure => simp [bind, Except.bind]
  | ok value => simpa [bind, Except.bind] using rest value

theorem fromMap_message_iff {map : TermMap}
    (found : ∀ field : Field, field.kind = .texts →
      map.lookup field.key = some (field.asked opts)) :
    (∃ text, NodeConfig.fromMap rustler map = .error (.message text)) ↔
      ListRefused opts [.listenAddrs, .bootstrapPeers, .gossipsubTopics] := by
  have last : ∀ node : NodeConfig,
      (∃ text, (pure node : Except Failure NodeConfig) =
        .error (.message text)) ↔ False := by
    intro node
    simp [pure, Except.pure]
  have fits : ∀ field : Field, field.kind = .texts →
      ((∃ list, getStringList map field.key = .ok list) ↔
        Kind.texts.Fits (field.asked opts)) := by
    intro field isTexts
    exact exists_congr fun list => getStringList_eq_ok (found field isTexts)
  refine (bind_message_iff fun _ => bind_message_iff fun _ =>
    bind_message_iff fun _ => last _).trans ?_
  refine or_congr (getStringList_message (found .listenAddrs rfl))
    (and_congr (fits .listenAddrs rfl) ?_)
  refine or_congr (getStringList_message (found .bootstrapPeers rfl))
    (and_congr (fits .bootstrapPeers rfl) ?_)
  exact or_congr (getStringList_message (found .gossipsubTopics rfl))
    (and_congr (fits .gossipsubTopics rfl) Iff.rfl)

theorem load_refused_iff (created : Config.new opts = .ok config) :
    (∃ text, load rustler chars config = .error (.refused text)) ↔
      Refused chars opts := by
  rw [Refused, ScoresPass, ← toNifMap_isOk_iff created, load]
  cases flattened : Config.toNifMap chars config with
  | error exception => simp
  | ok map =>
      have refused := @fromMap_message_iff rustler opts map
        fun field isTexts =>
          lookup_toNifMap created flattened (not_isScore_of_texts isTexts)
      rw [← refused]
      rcases read : NodeConfig.fromMap rustler map with ⟨text | panic⟩ | node
      · simp [read]
      · simp [read]
      · simp [read]

/-- Options that fit leave nothing to panic at: a list that is not set to texts
is set to `nil`, which is refused. -/
theorem fits_or_listRefused {fields : List Field}
    (each : ∀ field ∈ fields, Kind.texts.Fits (field.asked opts) ∨
      NotTexts (field.asked opts)) :
    (∀ field ∈ fields, Kind.texts.Fits (field.asked opts)) ∨
      ListRefused opts fields := by
  induction fields with
  | nil => exact .inl (List.forall_mem_nil _)
  | cons field fields induction =>
      rw [List.forall_mem_cons] at each ⊢
      obtain ⟨first, later⟩ := each
      rcases first with fits | refused
      · exact (induction later).imp (⟨fits, ·⟩) fun refused => .inr ⟨fits, refused⟩
      · exact .inr (.inl refused)

/-- Every option that was set has the type and the range of its field. -/
def SetFits (opts : Keywords) : Prop :=
  ∀ field value, (Field.option field, value) ∈ opts → value ≠ .atom "nil" →
    field.kind.Fits value

theorem SetFits.asked (fits : SetFits opts) (field : Field) :
    field.kind.Accepts (field.asked opts) ∨ field.asked opts = .atom "nil" := by
  obtain given | default := asked_cases opts field
  · by_cases unset : field.asked opts = .atom "nil"
    · exact .inr unset
    · exact .inl (.inl (fits field _ given unset))
  · exact .inl (default ▸ default_accepted field)

theorem SetFits.scoresPass (fits : SetFits opts) : ScoresPass chars opts := by
  intro field scored
  rcases fits.asked field with accepted | unset
  · exact stringifyStruct_of_accepts scored accepted
  · exact ⟨.atom "nil", congrArg (Config.stringifyStruct chars) unset⟩

theorem SetFits.loaded_or_refused (fits : SetFits opts)
    (created : Config.new opts = .ok config) :
    (∃ node, load rustler chars config = .ok node) ∨ Refused chars opts := by
  have each : ∀ field : Field, field.kind = .texts →
      Kind.texts.Fits (field.asked opts) ∨ NotTexts (field.asked opts) := by
    intro field isTexts
    rcases fits.asked field with accepted | unset
    · exact .inl (texts_fits_of_accepts isTexts accepted)
    · rw [unset]
      exact .inr (.inl rfl)
  have three : ∀ field ∈ [Field.listenAddrs, .bootstrapPeers, .gossipsubTopics],
      Field.kind field = .texts := by decide
  rcases fits_or_listRefused fun field member => each field (three field member)
    with lists | refused
  · refine .inl ((load_isOk_iff created).mpr ⟨fits.scoresPass, ?_⟩)
    intro field isTexts
    apply lists
    cases field with
    | listenAddrs | bootstrapPeers | gossipsubTopics => simp
    | _ => cases isTexts
  · exact .inr ⟨fits.scoresPass, refused⟩

theorem honoured_of_load (created : Config.new opts = .ok config)
    (loaded : load rustler chars config = .ok node) :
    Honoured rustler chars opts config ↔ SetFits opts := by
  have distinct := (new_isOk_iff.mp ⟨config, created⟩).1
  obtain ⟨map, flattened, read⟩ := load_eq_ok.mp loaded
  have represents := represents_iff_accepts created flattened read
  rw [Honoured, loaded]
  refine forall₂_congr fun field value => forall₂_congr fun given isSet => ?_
  rw [← asked_of_mem distinct given] at isSet ⊢
  rw [represents field]
  exact ⟨fun accepted => accepted.resolve_right fun both => isSet both.2, .inl⟩

/-- Accepted options are honoured exactly when one of them is refused or every
one that is set has the type and the range of its field. -/
theorem honoured_iff_refused_or_fits (created : Config.new opts = .ok config) :
    Honoured rustler chars opts config ↔
      Refused chars opts ∨ SetFits opts := by
  cases loaded : load rustler chars config with
  | ok node =>
      rw [honoured_of_load created loaded]
      constructor
      · exact .inr
      · intro either
        refine either.resolve_left fun refused => ?_
        obtain ⟨text, failed⟩ := (load_refused_iff created).mpr refused
        cases loaded.symm.trans failed
  | error error =>
      have unloaded : ¬ ∃ node, load rustler chars config = .ok node := by
        simp [loaded]
      have refusing : Refused chars opts ∨ SetFits opts ↔
          ∃ text, load rustler chars config = .error (.refused text) := by
        rw [load_refused_iff created]
        constructor
        · intro either
          rcases either with refused | fits
          · exact refused
          · exact (fits.loaded_or_refused created).resolve_left unloaded
        · exact .inl
      rw [refusing, Honoured, loaded]
      cases error with
      | raised exception => simp
      | refused text => simp
      | panicked panic => simp

end Loading

def strict : Rustler where
  f64OfInteger := fun _ => none

/-- No implementation of `String.Chars` beyond that of atoms. -/
def noChars (key : Term) : Except Exception Bytes :=
  .error (.protocolUndefined "String.Chars" key)

/-- Options of six subgroups, with a renamed key and a struct. -/
def tunedOptions : Keywords :=
  [("keypair_bytes", .binary [8, 1, 18, 64]),
    ("max_established_per_peer", .integer 1),
    ("enable_mdns", .atom "false"),
    ("gossipsub_mesh_n", .integer 8),
    ("gossipsub_peer_score_disabled", .atom "true"),
    ("gossipsub_peer_score", .map
      [(.atom "__struct__", .atom "Elixir.ExLibp2p.Gossipsub.PeerScore"),
        (.atom "behaviour_penalty_decay", .float 0x3fef8d4fdf3b645a),
        (.atom "behaviour_penalty_weight", .float 0xc024000000000000),
        (.atom "ip_colocation_factor_threshold", .float 0x4008000000000000),
        (.atom "ip_colocation_factor_weight", .float 0xc04a800000000000)]),
    ("rpc_protocol_name", .text "/custom/rpc/2.0"),
    ("enable_relay", .atom "true")]

def tunedScore : PeerScoreConfig where
  ipColocationFactorWeight := 0xc04a800000000000
  ipColocationFactorThreshold := 0x4008000000000000
  behaviourPenaltyWeight := 0xc024000000000000
  behaviourPenaltyDecay := 0x3fef8d4fdf3b645a

theorem tunedOptions_fit {field : Field} {value : Term}
    (given : (field.option, value) ∈ tunedOptions) : field.kind.Fits value := by
  have found : tunedOptions.lookup field.option = some value :=
    lookup_of_mem (by decide) given
  cases field with
  | keypairBytes =>
      cases found
      exact ⟨_, rfl⟩
  | maxEstablishedPerPeer | gossipsubMeshN =>
      cases found
      exact ⟨_, rfl, by decide, by decide⟩
  | enableMdns =>
      cases found
      exact .inr rfl
  | peerScoreDisabled | enableRelay =>
      cases found
      exact .inl rfl
  | rpcProtocolName =>
      cases found
      exact ⟨_, rfl⟩
  | peerScore =>
      cases found
      refine ⟨tunedScore, _, rfl, ?_⟩
      exact .cons _ (List.reverse_perm
        ((peerScoreFields tunedScore).map fieldPair))
  | _ => cases found

theorem config_wired_tuned :
    ∃ config node, Config.new tunedOptions = .ok config ∧
      Config.validate config = .ok config ∧
      load strict noChars config = .ok node ∧
      ∀ field, (valueOf node field).Represents (field.asked tunedOptions) := by
  obtain ⟨config, node, created, loaded, represents, -⟩ :=
    config_wired strict noChars (by decide : (tunedOptions.map Prod.fst).Nodup)
      (by decide) fun field value given => .inl (tunedOptions_fit given)
  refine ⟨config, node, created, ?_, loaded, represents⟩
  obtain rfl := Except.ok.inj created
  rfl

theorem honoured_tuned :
    ∃ config, Config.new tunedOptions = .ok config ∧
      Honoured strict noChars tunedOptions config := by
  obtain ⟨config, created⟩ :=
    new_isOk_iff.mpr ⟨(by decide : (tunedOptions.map Prod.fst).Nodup), by decide⟩
  refine ⟨config, created, (honoured_iff_refused_or_fits created).mpr (.inr ?_)⟩
  intro field value given isSet
  exact tunedOptions_fit given

/-- One more connection to a peer than an unsigned word holds: two are
allowed. -/
theorem overflow_not_honoured :
    ∃ config node,
      Config.new [("max_established_per_peer", .integer 4294967296)] =
        .ok config ∧
      Config.validate config = .ok config ∧
      load strict noChars config = .ok node ∧ node.maxEstablishedPerPeer = 2 ∧
      ¬ Honoured strict noChars
        [("max_established_per_peer", .integer 4294967296)] config := by
  refine ⟨_, _, rfl, rfl, rfl, rfl, ?_⟩
  intro honoured
  have represents := honoured .maxEstablishedPerPeer _
    (List.mem_singleton.mpr rfl) (by simp)
  cases represents

end ExLibp2p.Node
