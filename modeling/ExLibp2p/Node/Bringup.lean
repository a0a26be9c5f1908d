import ExLibp2p.Native.StartNode.Outcome
import ExLibp2p.Node.Start

namespace ExLibp2p.Node.Bringup

open ExLibp2p.Data
open ExLibp2p.Data.Script
open ExLibp2p.Erlang
open ExLibp2p.Native
open ExLibp2p.Native.StartNode
  (Libp2p Swarm NodeHandle startNode startEffects Describes toggle peerScoring
    defaultScore defaultThresholds nodeBehaviour relayConfig startNode_ok_iff
    quiet_of_startNode_error)
open ExLibp2p.Node.Start (Outcomes Started EndsInImport init run_init
  importResult)

/-! A node process over the native side that it starts, from the options to the
swarm that the loop runs. -/

/-- How the call of `start_node` ends for the process. -/
def ended : Except NifError NodeHandle → Started NodeHandle
  | .ok handle => .handle handle
  | .error error => .error error.encode

structure Answered {Key : Type} (rustler : Rustler) (libp2p : Libp2p Key)
    (profile : Profile) (runtime : Except String GetRuntime.Runtime) (configMap : TermMap)
    (outcomes : Outcomes NodeHandle) : Prop where
  started : outcomes.started =
    ended (startNode rustler libp2p profile runtime configMap).1
  identified : ∀ handle, outcomes.started = .handle handle →
    outcomes.peerIdStr = handle.peerId

/-- What a running swarm has of an option. It has nothing of the limits of a
relay that is off and of a score that is disabled. The keypair and the addresses
are not kept as they were given, and two options are not read at all. -/
def setting {Key : Type} (swarm : Swarm Key) (mdnsAutoDial : Bool) :
    Field → Option Value :=
  let behaviour := swarm.behaviour
  let limits := behaviour.connectionLimits
  let gossipsub := behaviour.gossipsub
  fun
  | .keypairBytes => none
  | .listenAddrs => none
  | .bootstrapPeers => none
  | .enableWebsocket => none
  | .gossipsubTopics => some (.texts swarm.topics)
  | .gossipsubMeshN => some (.number gossipsub.config.meshN.toNat)
  | .gossipsubMeshNLow => some (.number gossipsub.config.meshNLow.toNat)
  | .gossipsubMeshNHigh => some (.number gossipsub.config.meshNHigh.toNat)
  | .gossipsubGossipLazy => some (.number gossipsub.config.gossipLazy.toNat)
  | .gossipsubMaxTransmitSize =>
      some (.number gossipsub.config.maxTransmitSize.toNat)
  | .gossipsubHeartbeatIntervalMs =>
      some (.number gossipsub.config.heartbeatIntervalMs.toNat)
  | .enableMdns => some (.flag behaviour.mdns.isSome)
  | .mdnsAutoDial => some (.flag mdnsAutoDial)
  | .enableKademlia => some (.flag behaviour.kademlia.isSome)
  | .enableRelay => some (.flag behaviour.dcutr.isSome)
  | .enableRelayServer => some (.flag behaviour.relayServer.isSome)
  | .enableAutonat => some (.flag behaviour.autonat.isSome)
  | .enableAutonatServer => some (.flag behaviour.autonatServer.isSome)
  | .enableUpnp => some (.flag behaviour.upnp.isSome)
  | .enableRendezvousClient => some (.flag behaviour.rendezvousClient.isSome)
  | .enableRendezvousServer => some (.flag behaviour.rendezvousServer.isSome)
  | .rpcProtocolName => some (.text behaviour.requestResponse.protocol)
  | .rpcRequestTimeoutSecs =>
      some (.number behaviour.requestResponse.requestTimeoutSecs.toNat)
  | .idleConnectionTimeoutSecs =>
      some (.number swarm.idleConnectionTimeoutSecs.toNat)
  | .maxEstablishedIncoming =>
      limits.maxEstablishedIncoming.map (.number ·.toNat)
  | .maxEstablishedOutgoing =>
      limits.maxEstablishedOutgoing.map (.number ·.toNat)
  | .maxPendingIncoming => limits.maxPendingIncoming.map (.number ·.toNat)
  | .maxPendingOutgoing => limits.maxPendingOutgoing.map (.number ·.toNat)
  | .maxEstablishedPerPeer =>
      limits.maxEstablishedPerPeer.map (.number ·.toNat)
  | .memoryMaxPercentage => some (.float behaviour.memoryLimits)
  | .relayMaxReservations =>
      behaviour.relayServer.map (.number ·.2.maxReservations.toNat)
  | .relayMaxCircuits =>
      behaviour.relayServer.map (.number ·.2.maxCircuits.toNat)
  | .relayMaxCircuitDurationSecs =>
      behaviour.relayServer.map (.number ·.2.maxCircuitDurationSecs.toNat)
  | .relayMaxCircuitBytes =>
      behaviour.relayServer.map (.number ·.2.maxCircuitBytes.toNat)
  | .peerScoreDisabled => some (.flag gossipsub.peerScore.isNone)
  | .peerScore => gossipsub.peerScore.map (.peerScore <| some ·.1)
  | .thresholds => gossipsub.peerScore.map (.thresholds <| some ·.2)

section Settings

variable {Key : Type} {libp2p : Libp2p Key} {profile : Profile}
  {config : NodeConfig} {swarm : Swarm Key}

theorem toggle_isSome {Built : Type} (enabled : Bool) (built : Built) :
    (toggle enabled built).isSome = enabled := by
  cases enabled with
  | false => rfl
  | true => rfl

theorem toggle_map {Built : Type} {enabled : Bool} {built : Built}
    {read : Built → Value} {value : Value}
    (found : (toggle enabled built).map read = some value) :
    value = read built := by
  cases enabled with
  | false => cases found
  | true => exact (Option.some.inj found).symm

theorem peerScoring_isNone (config : NodeConfig) :
    (peerScoring config).isNone = config.peerScoreDisabled := by
  unfold peerScoring
  cases config.peerScoreDisabled with
  | false => rfl
  | true => rfl

theorem peerScoring_map {read : PeerScoreConfig × ThresholdsConfig → Value}
    {value : Value} (found : (peerScoring config).map read = some value) :
    value = read (config.peerScore.getD defaultScore,
      config.thresholds.getD defaultThresholds) := by
  unfold peerScoring at found
  split at found
  · cases found
  · exact (Option.some.inj found).symm

theorem limits_eq {limits : ConnectionLimits}
    (limited : connectionLimits profile config = .ok limits) :
    ∃ total, limits =
      { maxPendingIncoming := some config.maxPendingIncoming
        maxPendingOutgoing := some config.maxPendingOutgoing
        maxEstablishedIncoming := some config.maxEstablishedIncoming
        maxEstablishedOutgoing := some config.maxEstablishedOutgoing
        maxEstablishedPerPeer := some config.maxEstablishedPerPeer
        maxEstablished := some total } := by
  obtain ⟨total, -, built⟩ := bind_eq_ok.mp limited
  exact ⟨total, (Except.ok.inj built).symm⟩

/-- What stands in for a score that is not set. -/
inductive StandsIn : Value → Value → Prop
  | peerScore :
      StandsIn (.peerScore (some defaultScore)) (.peerScore none)
  | thresholds :
      StandsIn (.thresholds (some defaultThresholds)) (.thresholds none)

theorem setting_of_describes (described : Describes libp2p profile config swarm)
    {field : Field} {value : Value}
    (found : setting swarm config.mdnsAutoDial field = some value) :
    value = valueOf config field ∨ StandsIn value (valueOf config field) := by
  obtain ⟨keypair, behaviour, idle, topics, addrs⟩ := swarm
  obtain ⟨identified, limited, built, rfl, rfl, parsed⟩ := described
  simp only at limited built
  obtain ⟨total, limits⟩ := limits_eq limited
  rw [limits] at built
  subst built
  cases field with
  | keypairBytes | listenAddrs | bootstrapPeers | enableWebsocket =>
      cases found
  | enableMdns | enableKademlia | enableRelay | enableRelayServer
  | enableAutonat | enableAutonatServer | enableUpnp | enableRendezvousClient
  | enableRendezvousServer =>
      left
      cases found
      exact congrArg Value.flag (toggle_isSome _ _)
  | peerScoreDisabled =>
      left
      cases found
      exact congrArg Value.flag (peerScoring_isNone config)
  | relayMaxReservations | relayMaxCircuits | relayMaxCircuitDurationSecs
  | relayMaxCircuitBytes =>
      left
      simp only [setting, nodeBehaviour] at found
      rw [toggle_map found]
      simp [relayConfig, valueOf]
  | peerScore =>
      simp only [setting, nodeBehaviour] at found
      rw [peerScoring_map found]
      simp only [valueOf]
      cases config.peerScore with
      | none => exact .inr .peerScore
      | some score => exact .inl rfl
  | thresholds =>
      simp only [setting, nodeBehaviour] at found
      rw [peerScoring_map found]
      simp only [valueOf]
      cases config.thresholds with
      | none => exact .inr .thresholds
      | some thresholds => exact .inl rfl
  | _ =>
      left
      exact (Option.some.inj found).symm

end Settings

/-- The value is the one asked for, or stands in for none. -/
def Realises (value : Value) (term : Term) : Prop :=
  ∃ given : Value, given.Represents term ∧
    (value = given ∨ StandsIn value given)

/-- The swarm of a loop does what the options say. -/
structure AsAsked {Key : Type} (libp2p : Libp2p Key) (opts : Keywords)
    (swarm : Swarm Key) (mdnsAutoDial : Bool) : Prop where
  identity : ∀ bytes, Field.keypairBytes.asked opts = .binary bytes →
    libp2p.identity.fromProtobufEncoding bytes = .ok swarm.identity
  generated : Field.keypairBytes.asked opts = .atom "nil" →
    libp2p.generated = .ok swarm.identity
  listeners : ∀ texts : List String,
    Field.listenAddrs.asked opts = .list (texts.map .text) →
    texts.mapM libp2p.parseMultiaddr = .ok swarm.listeners
  settings : ∀ field value, (Field.kind field).Accepts (field.asked opts) →
    setting swarm mdnsAutoDial field = some value →
    Realises value (field.asked opts)

section Start

variable {Pid Key : Type} {chars : Term → Except Exception Bytes}
  {outcomes : Outcomes NodeHandle} {opts : Keywords} {self : Pid}
  {rustler : Rustler} {libp2p : Libp2p Key} {profile : Profile}
  {config : Config} {configMap : TermMap} {node : NodeConfig} {swarm : Swarm Key}

theorem asAsked_of_describes (created : Config.new opts = .ok config)
    (flattened : Config.toNifMap chars config = .ok configMap)
    (read : NodeConfig.fromMap rustler configMap = .ok node)
    (described : Describes libp2p profile node swarm) :
    AsAsked libp2p opts swarm node.mdnsAutoDial := by
  have represents := represents_iff_accepts created flattened read
  have identified := described.identity
  unfold StartNode.identityKeypair at identified
  refine ⟨?_, ?_, ?_, ?_⟩
  · intro bytes given
    have keypair := (represents .keypairBytes).mpr (.inl ⟨bytes, given⟩)
    rw [given, valueOf] at keypair
    cases set : node.keypairBytes with
    | none =>
        rw [set] at keypair
        cases keypair
    | some other =>
        rw [set] at keypair identified
        cases keypair
        exact StartNode.mapError_ok_iff.mp identified
  · intro unset
    have keypair := (represents .keypairBytes).mpr (.inr ⟨rfl, unset⟩)
    rw [unset, valueOf] at keypair
    cases set : node.keypairBytes with
    | none =>
        rw [set] at identified
        exact StartNode.mapError_ok_iff.mp identified
    | some other =>
        rw [set] at keypair
        cases keypair
  · intro texts given
    have listed : (Value.texts node.listenAddrs).Represents
        (Field.listenAddrs.asked opts) :=
      (represents .listenAddrs).mpr (.inl ⟨texts, given⟩)
    have both := ((decode_texts _ _).mpr listed).symm.trans
      ((decode_texts _ _).mpr given)
    rw [← Option.some.inj (Except.ok.inj both)]
    exact described.listeners
  · intro field value accepts found
    refine ⟨valueOf node field, (represents field).mpr accepts, ?_⟩
    exact setting_of_describes described found

def Flattened (chars : Term → Except Exception Bytes) (opts : Keywords)
    (configMap : TermMap) : Prop :=
  ∃ config, Config.new (opts.filter fun entry =>
      entry.1 ≠ "native_module") = .ok config ∧
    Config.validate config = .ok config ∧
    Config.toNifMap chars config = .ok configMap

def Asks (chars : Term → Except Exception Bytes) (opts : Keywords)
    (effect : Start.Effect Pid NodeHandle) : Prop :=
  ∀ configMap, effect = .startNode configMap → Flattened chars opts configMap

theorem within_maybeImport {handle : NodeHandle} (path : Term) :
    Within (Asks chars opts)
      (Start.maybeImportDhtState outcomes handle path :
        Start.Script Pid NodeHandle Unit) := by
  unfold Start.maybeImportDhtState
  split
  · exact Within.pure ()
  · refine Within.bind (Within.perform nofun) fun _ => ?_
    refine Within.lift_bind fun bytes _ => ?_
    split
    · refine Within.bind (Within.perform nofun) fun _ => ?_
      split
      · exact Within.lift _
      · exact Within.pure ()
    · exact Within.pure ()
    · exact Within.lift _

theorem within_startNodeSafe (flattened : Flattened chars opts configMap) :
    Within (Asks chars opts)
      (Start.startNodeSafe outcomes configMap :
        Start.Script Pid NodeHandle _) := by
  refine Within.bind (Within.perform ?_) fun _ => ?_
  · rintro _ ⟨⟩
    exact flattened
  · split
    · exact Within.pure _
    · exact Within.pure _
    · exact Within.pure _

theorem within_init (chars : Term → Except Exception Bytes)
    (outcomes : Outcomes NodeHandle) (opts : Keywords) (self : Pid) :
    Within (Asks chars opts) (init chars outcomes opts self) := by
  refine Within.lift_bind fun config created => ?_
  split
  · exact Within.pure _
  · rename_i valid validated
    obtain rfl := Start.validate_same validated
    refine Within.lift_bind fun configMap flattened => ?_
    refine Within.bind (within_startNodeSafe
      ⟨_, created, validated, flattened⟩) fun _ => ?_
    split
    · exact Within.pure _
    · refine Within.bind (Within.perform nofun) fun _ => ?_
      split
      · exact Within.pure _
      · refine Within.bind (Within.perform nofun) fun _ => ?_
        refine Within.lift_bind fun path _ => ?_
        exact Within.bind (within_maybeImport path) fun _ => Within.pure _

theorem flattened_of_startNode
    (member : .startNode configMap ∈
      (run (init chars outcomes opts self) []).2) :
    Flattened chars opts configMap := by
  obtain ⟨done, performed, asked⟩ :=
    within_init chars outcomes opts self []
  rw [performed] at member
  exact asked _ member configMap rfl

theorem returned_of_ended {runtime : Except String GetRuntime.Runtime}
    {handle : NodeHandle}
    (finished : ended (startNode rustler libp2p profile runtime configMap).1 =
      .handle handle) :
    startNode rustler libp2p profile runtime configMap =
      (.ok handle, (startNode rustler libp2p profile runtime configMap).2) := by
  revert finished
  obtain ⟨result, effects⟩ := startNode rustler libp2p profile runtime configMap
  intro finished
  cases result with
  | error error => cases finished
  | ok other =>
      cases finished
      rfl

end Start

def lanPeer : Bytes :=
  utf8 "12D3KooWD3eckifWpRn9wQpMG9R9hX3sD158z7EqHWmweQAJU5SA"

def lan : Libp2p Bytes where
  identity :=
    { toProtobufEncoding := .ok
      fromProtobufEncoding := .ok
      encodePublic := id
      peerId := fun _ => lanPeer }
  generated := .ok []
  buildGossipsubConfig _ := .ok ()
  newGossipsub _ _ := .ok ()
  withPeerScore _ _ := .ok ()
  kademliaPanics _ := false
  identifyPanics _ := false
  newMdns _ := .ok ()
  streamProtocol _ := .ok ()
  protocolsPanic _ := false
  withTcp := .ok ()
  quicPanics := false
  withDns := .ok ()
  withRelayClient := .ok ()
  metricsPanic := false
  withBehaviour := .ok ()
  buildPanics := false
  subscribe _ _ := .ok true
  parseMultiaddr text := .ok { toVec := [], toString := text }
  listenOn _ _ := .ok ()

def lanOptions : Keywords :=
  [("enable_kademlia", .atom "false"),
    ("listen_addrs", .list [.text "/ip4/127.0.0.1/tcp/4001"]),
    ("max_established_per_peer", .integer 1)]

def lanOutcomes : Outcomes NodeHandle where
  started := .handle { peerId := lanPeer }
  peerIdStr := lanPeer
  read := .ok (.error (.atom "enoent"))
  imported := .ok 0
  logged := .ok ()

def lanState : Start.State NodeHandle where
  handle := { peerId := lanPeer }
  peerId :=
    { id := lanPeer
      long := by decide +kernel
      base58 := by decide +kernel }
  dhtStatePath := .atom "nil"

theorem answered_lan {configMap : TermMap}
    (member : .startNode configMap ∈
      (run (init noChars lanOutcomes lanOptions ()) []).2) :
    Answered strict lan .release (.ok 0) configMap lanOutcomes := by
  obtain ⟨config, created, -, flattened⟩ := flattened_of_startNode member
  obtain rfl := Except.ok.inj created
  obtain rfl := Except.ok.inj flattened
  refine ⟨rfl, ?_⟩
  rintro _ ⟨⟩
  rfl

def isRead : Field → Bool
  | .bootstrapPeers => false
  | .enableWebsocket => false
  | _ => true

section Unread

variable {Key : Type} {config otherConfig : Config}
  {configMap otherMap : TermMap} {node otherNode : NodeConfig}

theorem eq_of_values
    (same : ∀ field, isRead field = true →
      valueOf otherNode field = valueOf node field) :
    otherNode =
      { node with
        bootstrapPeers := otherNode.bootstrapPeers
        enableWebsocket := otherNode.enableWebsocket } := by
  have word : ∀ {one other : UInt64}, Value.number one.toNat =
      .number other.toNat → one = other := by
    intro one other equal
    exact UInt64.toNat_inj.mp (Value.number.inj equal)
  have half : ∀ {one other : UInt32}, Value.number one.toNat =
      .number other.toNat → one = other := by
    intro one other equal
    exact UInt32.toNat_inj.mp (Value.number.inj equal)
  cases node
  cases otherNode
  simp only [NodeConfig.mk.injEq, true_and]
  refine ⟨Value.keypair.inj (same .keypairBytes rfl),
    Value.texts.inj (same .listenAddrs rfl),
    Value.texts.inj (same .gossipsubTopics rfl),
    word (same .gossipsubMeshN rfl), word (same .gossipsubMeshNLow rfl),
    word (same .gossipsubMeshNHigh rfl), word (same .gossipsubGossipLazy rfl),
    word (same .gossipsubMaxTransmitSize rfl),
    word (same .gossipsubHeartbeatIntervalMs rfl),
    Value.flag.inj (same .enableMdns rfl),
    Value.flag.inj (same .mdnsAutoDial rfl),
    Value.flag.inj (same .enableKademlia rfl),
    Value.flag.inj (same .enableRelay rfl),
    Value.flag.inj (same .enableRelayServer rfl),
    Value.flag.inj (same .enableAutonat rfl),
    Value.flag.inj (same .enableAutonatServer rfl),
    Value.flag.inj (same .enableUpnp rfl),
    Value.flag.inj (same .enableRendezvousClient rfl),
    Value.flag.inj (same .enableRendezvousServer rfl),
    Value.text.inj (same .rpcProtocolName rfl),
    word (same .rpcRequestTimeoutSecs rfl),
    word (same .idleConnectionTimeoutSecs rfl),
    half (same .maxEstablishedIncoming rfl),
    half (same .maxEstablishedOutgoing rfl),
    half (same .maxPendingIncoming rfl), half (same .maxPendingOutgoing rfl),
    half (same .maxEstablishedPerPeer rfl),
    Value.float.inj (same .memoryMaxPercentage rfl),
    half (same .relayMaxReservations rfl), half (same .relayMaxCircuits rfl),
    word (same .relayMaxCircuitDurationSecs rfl),
    word (same .relayMaxCircuitBytes rfl),
    Value.flag.inj (same .peerScoreDisabled rfl),
    Value.peerScore.inj (same .peerScore rfl),
    Value.thresholds.inj (same .thresholds rfl)⟩

/-- Two sets of options that differ in the bootstrap peers and the websocket
flag alone start the same swarm: neither is ever read. -/
theorem unread_options_ignored (rustler : Rustler) (libp2p : Libp2p Key)
    (profile : Profile) (runtime : Except String GetRuntime.Runtime)
    (chars : Term → Except Exception Bytes) {opts others : Keywords}
    (created : Config.new opts = .ok config)
    (flattened : Config.toNifMap chars config = .ok configMap)
    (read : NodeConfig.fromMap rustler configMap = .ok node)
    (otherCreated : Config.new others = .ok otherConfig)
    (otherFlattened : Config.toNifMap chars otherConfig = .ok otherMap)
    (otherRead : NodeConfig.fromMap rustler otherMap = .ok otherNode)
    (same : ∀ field, isRead field = true →
      Field.asked field others = field.asked opts) :
    startNode rustler libp2p profile runtime otherMap =
      startNode rustler libp2p profile runtime configMap := by
  have loaded : load rustler chars config = .ok node :=
    load_eq_ok.mpr ⟨configMap, flattened, read⟩
  have otherLoaded : load rustler chars otherConfig = .ok otherNode :=
    load_eq_ok.mpr ⟨otherMap, otherFlattened, otherRead⟩
  have equal := eq_of_values fun field isRead =>
    valueOf_of_asked created loaded otherCreated otherLoaded
      (same field isRead)
  unfold startNode StartNode.startNodeInner
  rw [read, otherRead, equal]
  rfl

end Unread

def bootstrappedOptions : Keywords :=
  lanOptions ++
    [("bootstrap_peers", .list [.text "/dns4/example/tcp/4001"]),
      ("enable_websocket", .atom "true")]

theorem unread_options_ignored_bootstrapped :
    ∃ config otherConfig configMap otherMap,
      Config.new lanOptions = .ok config ∧
      Config.toNifMap noChars config = .ok configMap ∧
      Config.new bootstrappedOptions = .ok otherConfig ∧
      Config.toNifMap noChars otherConfig = .ok otherMap ∧
      startNode strict lan .release (.ok 0) otherMap =
        startNode strict lan .release (.ok 0) configMap := by
  have same : ∀ field, isRead field = true →
      Field.asked field bootstrappedOptions = field.asked lanOptions := by
    intro field read
    cases field with
    | bootstrapPeers | enableWebsocket => cases read
    | _ => rfl
  exact ⟨_, _, _, _, rfl, rfl, rfl, rfl,
    unread_options_ignored strict lan .release (.ok 0) noChars rfl rfl rfl rfl rfl rfl
      same⟩

end ExLibp2p.Node.Bringup
