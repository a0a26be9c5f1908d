import ExLibp2p.Native.StartNode

namespace ExLibp2p.Native.StartNode

open ExLibp2p.Data
open ExLibp2p.Data.Script
open ExLibp2p.Erlang

/-- The swarm is the one that is configured. -/
structure Describes {Key : Type} (libp2p : Libp2p Key) (profile : Profile)
    (config : NodeConfig) (swarm : Swarm Key) : Prop where
  identity : identityKeypair libp2p config = .ok swarm.identity
  limits : connectionLimits profile config =
    .ok swarm.behaviour.connectionLimits
  behaviour : swarm.behaviour = nodeBehaviour libp2p config swarm.identity
    swarm.behaviour.connectionLimits
  idle : swarm.idleConnectionTimeoutSecs = config.idleConnectionTimeoutSecs
  topics : swarm.topics = config.gossipsubTopics
  listeners : config.listenAddrs.mapM libp2p.parseMultiaddr =
    .ok swarm.listeners

/-- libp2p and the operating system have nothing against the swarm. -/
structure Libp2p.Accepts {Key : Type} (libp2p : Libp2p Key)
    (swarm : Swarm Key) : Prop where
  gossipsubConfig :
    libp2p.buildGossipsubConfig swarm.behaviour.gossipsub.config = .ok ()
  gossipsub : libp2p.newGossipsub swarm.behaviour.gossipsub.signed
    swarm.behaviour.gossipsub.config = .ok ()
  scoring : ∀ params thresholds,
    swarm.behaviour.gossipsub.peerScore = some (params, thresholds) →
    libp2p.withPeerScore params thresholds = .ok ()
  kademlia : ∀ localPeerId, swarm.behaviour.kademlia = some localPeerId →
    libp2p.kademliaPanics localPeerId = false
  identify : libp2p.identifyPanics swarm.behaviour.identify = false
  mdns : ∀ localPeerId, swarm.behaviour.mdns = some localPeerId →
    libp2p.newMdns localPeerId = .ok ()
  protocol : libp2p.streamProtocol swarm.behaviour.requestResponse.protocol =
    .ok ()
  protocols : libp2p.protocolsPanic swarm.behaviour = false
  tcp : libp2p.withTcp = .ok ()
  quic : libp2p.quicPanics = false
  dns : libp2p.withDns = .ok ()
  relayClient : libp2p.withRelayClient = .ok ()
  metrics : libp2p.metricsPanic = false
  composed : libp2p.withBehaviour = .ok ()
  built : libp2p.buildPanics = false
  subscribes : ∀ earlier topic later,
    swarm.topics = earlier ++ topic :: later →
    ∃ fresh, libp2p.subscribe earlier topic = .ok fresh
  listens : ∀ earlier addr later,
    swarm.listeners = earlier ++ addr :: later →
    libp2p.listenOn earlier addr = .ok ()

def startEffects {Key : Type} (runtime : GetRuntime.Runtime)
    (swarm : Swarm Key) (mdnsAutoDial : Bool) : List (Effect Key) :=
  swarm.topics.map .subscribe ++ swarm.listeners.map .listenOn ++
    [.spawn runtime swarm mdnsAutoDial]

def Effect.isSpawn {Key : Type} : Effect Key → Bool
  | .spawn _ _ _ => true
  | _ => false

section Runs

variable {Key : Type} {rustler : Rustler} {libp2p : Libp2p Key}
  {profile : Profile} {runtime : Except String GetRuntime.Runtime}
  {earlier later : List (Effect Key)}

theorem mapError_ok_iff {Before After Value : Type}
    {result : Except Before Value} {convert : Before → After} {value : Value} :
    result.mapError convert = .ok value ↔ result = .ok value := by
  cases result with
  | ok other => simp [Except.mapError]
  | error reason => simp [Except.mapError]

theorem infallible_ok_iff {panics : Bool} :
    infallible panics = .ok () ↔ panics = false := by
  cases panics with
  | false => exact iff_of_true rfl rfl
  | true => exact iff_of_false nofun nofun

theorem run_attempt_ok_iff {Value : Type} {step : String}
    {result : Except Failure Value} {value : Value} :
    run (attempt step result : Script Key Value) earlier =
      (.ok value, later) ↔ result = .ok value ∧ later = earlier := by
  rw [attempt, run_lift, Prod.mk.injEq, mapError_ok_iff, eq_comm (a := later)]

theorem run_bind_attempt_ok_iff {Value Next : Type} {step : String}
    {result : Except Failure Value} {next : Value → Script Key Next}
    {value : Next} :
    run (attempt step result >>= next) earlier = (.ok value, later) ↔
      ∃ middle, result = .ok middle ∧
        run (next middle) earlier = (.ok value, later) := by
  rw [run_bind_ok_iff]
  constructor
  · intro found
    obtain ⟨middle, between, attempted, rest⟩ := found
    obtain ⟨succeeded, rfl⟩ := run_attempt_ok_iff.mp attempted
    exact ⟨middle, succeeded, rest⟩
  · intro found
    obtain ⟨middle, succeeded, rest⟩ := found
    exact ⟨middle, earlier, run_attempt_ok_iff.mpr ⟨succeeded, rfl⟩, rest⟩

theorem forall_split_cons {Item : Type} {allowed : List Item → Item → Prop}
    {first : Item} {rest : List Item} :
    (∀ before item after, first :: rest = before ++ item :: after →
      allowed before item) ↔
      allowed [] first ∧
        ∀ before item after, rest = before ++ item :: after →
          allowed (first :: before) item := by
  constructor
  · intro each
    refine ⟨each [] first rest rfl, ?_⟩
    intro before item after split
    exact each (first :: before) item after (congrArg (first :: ·) split)
  · intro both before item after split
    cases before with
    | nil =>
        cases split
        exact both.1
    | cons head before =>
        cases split
        exact both.2 before item after rfl

theorem run_subscribeAll_ok_iff {swarm final : Swarm Key}
    {topics : List String} :
    run (subscribeAll libp2p swarm topics) earlier = (.ok final, later) ↔
      (∀ before topic after, topics = before ++ topic :: after →
        ∃ fresh, libp2p.subscribe (swarm.topics ++ before) topic =
          .ok fresh) ∧
      final = { swarm with topics := swarm.topics ++ topics } ∧
      later = earlier ++ topics.map .subscribe := by
  induction topics generalizing swarm earlier with
  | nil =>
      simp [subscribeAll, eq_comm]
  | cons topic topics ih =>
      rw [subscribeAll, run_bind_attempt_ok_iff, forall_split_cons]
      simp only [run_bind_perform, ih, exists_and_right, and_assoc,
        List.append_assoc, List.singleton_append, List.append_nil,
        List.map_cons]

theorem run_listenOnAll_ok_iff {swarm final : Swarm Key}
    {texts : List String} :
    run (listenOnAll libp2p swarm texts) earlier = (.ok final, later) ↔
      ∃ addrs, texts.mapM libp2p.parseMultiaddr = .ok addrs ∧
        (∀ before addr after, addrs = before ++ addr :: after →
          libp2p.listenOn (swarm.listeners ++ before) addr = .ok ()) ∧
        final = { swarm with listeners := swarm.listeners ++ addrs } ∧
        later = earlier ++ addrs.map .listenOn := by
  induction texts generalizing swarm earlier with
  | nil =>
      rw [listenOnAll, run_pure, List.mapM_nil]
      simp [pure, Except.pure, eq_comm]
  | cons text texts ih =>
      rw [listenOnAll, run_bind_attempt_ok_iff, List.mapM_cons]
      simp only [run_bind_attempt_ok_iff, run_bind_perform, ih, bind_eq_ok]
      constructor
      · intro found
        obtain ⟨addr, parsed, ⟨⟩, listened, addrs, rest, others, same, done⟩ :=
          found
        refine ⟨addr :: addrs, ⟨addr, parsed, addrs, rest, rfl⟩,
          forall_split_cons.mpr ⟨?_, ?_⟩, ?_, ?_⟩
        · rw [List.append_nil]
          exact listened
        · intro before item after split
          rw [List.append_cons]
          exact others before item after split
        · rw [same, List.append_assoc]
          rfl
        · rw [done, List.append_assoc]
          rfl
      · intro found
        obtain ⟨_, ⟨addr, parsed, addrs, rest, ⟨⟩⟩, listened, same, done⟩ :=
          found
        obtain ⟨first, others⟩ := forall_split_cons.mp listened
        rw [List.append_nil] at first
        refine ⟨addr, parsed, (), first, addrs, rest, ?_, ?_, ?_⟩
        · intro before item after split
          rw [List.append_assoc]
          exact others before item after split
        · rw [same, List.append_assoc]
          rfl
        · rw [done, List.append_assoc]
          rfl

theorem withPeerScore_ok_iff {config : NodeConfig} :
    withPeerScore libp2p config = .ok () ↔
      ∀ params thresholds, peerScoring config = some (params, thresholds) →
        libp2p.withPeerScore params thresholds = .ok () := by
  unfold withPeerScore
  cases peerScoring config with
  | none => exact iff_of_true rfl nofun
  | some scoring =>
      constructor
      · rintro accepted _ _ ⟨⟩
        exact accepted
      · intro accepted
        exact accepted _ _ rfl

theorem kademliaBehaviour_ok_iff {config : NodeConfig} {localPeerId : Bytes} :
    kademliaBehaviour libp2p config localPeerId = .ok () ↔
      ∀ peerId, toggle config.enableKademlia localPeerId = some peerId →
        libp2p.kademliaPanics peerId = false := by
  unfold kademliaBehaviour toggle
  cases config.enableKademlia with
  | false => exact iff_of_true rfl nofun
  | true =>
      constructor
      · rintro accepted _ ⟨⟩
        exact infallible_ok_iff.mp accepted
      · intro accepted
        exact infallible_ok_iff.mpr (accepted _ rfl)

theorem mdnsBehaviour_ok_iff {config : NodeConfig} {localPeerId : Bytes} :
    mdnsBehaviour libp2p config localPeerId = .ok () ↔
      ∀ peerId, toggle config.enableMdns localPeerId = some peerId →
        libp2p.newMdns peerId = .ok () := by
  unfold mdnsBehaviour toggle
  cases config.enableMdns with
  | false => exact iff_of_true rfl nofun
  | true =>
      constructor
      · rintro accepted _ ⟨⟩
        exact accepted
      · intro accepted
        exact accepted _ rfl

/-- A start comes to its end exactly if the swarm of its configuration is
acceptable, and then it runs this swarm. -/
theorem run_startNodeInner_ok_iff {configMap : TermMap}
    {handle : NodeHandle} :
    run (startNodeInner rustler libp2p profile runtime configMap) [] =
        (.ok handle, later) ↔
      ∃ config started swarm,
        NodeConfig.fromMap rustler configMap = .ok config ∧
        runtime = .ok started ∧ Describes libp2p profile config swarm ∧
        libp2p.Accepts swarm ∧
        handle = { peerId := libp2p.identity.peerId swarm.identity } ∧
        later = startEffects started swarm config.mdnsAutoDial := by
  unfold startNodeInner
  constructor
  · intro ran
    obtain ⟨config, read, ran⟩ := run_bind_attempt_ok_iff.mp ran
    obtain ⟨started, got, ran⟩ := run_bind_attempt_ok_iff.mp ran
    obtain ⟨keypair, identified, ran⟩ := run_bind_attempt_ok_iff.mp ran
    obtain ⟨limits, limited, ran⟩ := run_bind_attempt_ok_iff.mp ran
    obtain ⟨⟨⟩, gossipsubConfig, ran⟩ := run_bind_attempt_ok_iff.mp ran
    obtain ⟨⟨⟩, gossipsub, ran⟩ := run_bind_attempt_ok_iff.mp ran
    obtain ⟨⟨⟩, scoring, ran⟩ := run_bind_attempt_ok_iff.mp ran
    obtain ⟨⟨⟩, kademlia, ran⟩ := run_bind_attempt_ok_iff.mp ran
    obtain ⟨⟨⟩, identify, ran⟩ := run_bind_attempt_ok_iff.mp ran
    obtain ⟨⟨⟩, mdns, ran⟩ := run_bind_attempt_ok_iff.mp ran
    obtain ⟨⟨⟩, protocol, ran⟩ := run_bind_attempt_ok_iff.mp ran
    obtain ⟨⟨⟩, protocols, ran⟩ := run_bind_attempt_ok_iff.mp ran
    obtain ⟨⟨⟩, tcp, ran⟩ := run_bind_attempt_ok_iff.mp ran
    obtain ⟨⟨⟩, quic, ran⟩ := run_bind_attempt_ok_iff.mp ran
    obtain ⟨⟨⟩, dns, ran⟩ := run_bind_attempt_ok_iff.mp ran
    obtain ⟨⟨⟩, relayClient, ran⟩ := run_bind_attempt_ok_iff.mp ran
    obtain ⟨⟨⟩, metrics, ran⟩ := run_bind_attempt_ok_iff.mp ran
    obtain ⟨⟨⟩, composed, ran⟩ := run_bind_attempt_ok_iff.mp ran
    obtain ⟨⟨⟩, built, ran⟩ := run_bind_attempt_ok_iff.mp ran
    rw [mapError_ok_iff] at got limited
    obtain ⟨_, _, subscribed, ran⟩ := run_bind_ok_iff.mp ran
    obtain ⟨subscribes, rfl, rfl⟩ := run_subscribeAll_ok_iff.mp subscribed
    obtain ⟨_, _, listened, ran⟩ := run_bind_ok_iff.mp ran
    obtain ⟨addrs, parsed, listens, rfl, rfl⟩ :=
      run_listenOnAll_ok_iff.mp listened
    cases ran
    let swarm : Swarm Key :=
      { identity := keypair
        behaviour := nodeBehaviour libp2p config keypair limits
        idleConnectionTimeoutSecs := config.idleConnectionTimeoutSecs
        topics := config.gossipsubTopics
        listeners := addrs }
    refine ⟨config, started, swarm, read, got, ?_, ?_, rfl, rfl⟩
    · exact ⟨identified, limited, rfl, rfl, rfl, parsed⟩
    · exact ⟨gossipsubConfig, gossipsub, withPeerScore_ok_iff.mp scoring,
        kademliaBehaviour_ok_iff.mp kademlia, infallible_ok_iff.mp identify,
        mdnsBehaviour_ok_iff.mp mdns, protocol, infallible_ok_iff.mp protocols,
        tcp, infallible_ok_iff.mp quic, dns, relayClient,
        infallible_ok_iff.mp metrics, composed, infallible_ok_iff.mp built,
        subscribes, listens⟩
  · intro found
    obtain ⟨config, started, swarm, read, got, described, accepts, rfl, rfl⟩ :=
      found
    obtain ⟨keypair, behaviour, idle, topics, addrs⟩ := swarm
    obtain ⟨identified, limited, built, rfl, rfl, parsed⟩ := described
    simp only at identified limited built parsed
    rw [built] at accepts
    refine run_bind_attempt_ok_iff.mpr ⟨config, read, ?_⟩
    refine run_bind_attempt_ok_iff.mpr
      ⟨started, mapError_ok_iff.mpr got, ?_⟩
    refine run_bind_attempt_ok_iff.mpr ⟨keypair, identified, ?_⟩
    refine run_bind_attempt_ok_iff.mpr ⟨_, mapError_ok_iff.mpr limited, ?_⟩
    refine run_bind_attempt_ok_iff.mpr ⟨(), accepts.gossipsubConfig, ?_⟩
    refine run_bind_attempt_ok_iff.mpr ⟨(), accepts.gossipsub, ?_⟩
    refine run_bind_attempt_ok_iff.mpr
      ⟨(), withPeerScore_ok_iff.mpr accepts.scoring, ?_⟩
    refine run_bind_attempt_ok_iff.mpr
      ⟨(), kademliaBehaviour_ok_iff.mpr accepts.kademlia, ?_⟩
    refine run_bind_attempt_ok_iff.mpr
      ⟨(), infallible_ok_iff.mpr accepts.identify, ?_⟩
    refine run_bind_attempt_ok_iff.mpr
      ⟨(), mdnsBehaviour_ok_iff.mpr accepts.mdns, ?_⟩
    refine run_bind_attempt_ok_iff.mpr ⟨(), accepts.protocol, ?_⟩
    refine run_bind_attempt_ok_iff.mpr
      ⟨(), infallible_ok_iff.mpr accepts.protocols, ?_⟩
    refine run_bind_attempt_ok_iff.mpr ⟨(), accepts.tcp, ?_⟩
    refine run_bind_attempt_ok_iff.mpr
      ⟨(), infallible_ok_iff.mpr accepts.quic, ?_⟩
    refine run_bind_attempt_ok_iff.mpr ⟨(), accepts.dns, ?_⟩
    refine run_bind_attempt_ok_iff.mpr ⟨(), accepts.relayClient, ?_⟩
    refine run_bind_attempt_ok_iff.mpr
      ⟨(), infallible_ok_iff.mpr accepts.metrics, ?_⟩
    refine run_bind_attempt_ok_iff.mpr ⟨(), accepts.composed, ?_⟩
    refine run_bind_attempt_ok_iff.mpr
      ⟨(), infallible_ok_iff.mpr accepts.built, ?_⟩
    refine run_bind_ok_iff.mpr ⟨_, _,
      run_subscribeAll_ok_iff.mpr ⟨accepts.subscribes, rfl, rfl⟩, ?_⟩
    refine run_bind_ok_iff.mpr ⟨_, _, run_listenOnAll_ok_iff.mpr
      ⟨addrs, parsed, accepts.listens, rfl, rfl⟩, ?_⟩
    rw [built]
    rfl

def Quiet (effect : Effect Key) : Prop :=
  effect.isSpawn = false

theorem within_attempt {Value : Type} (step : String)
    (result : Except Failure Value) :
    Within Quiet (attempt step result : Script Key Value) :=
  Within.lift _

theorem within_subscribeAll (swarm : Swarm Key) (topics : List String) :
    Within Quiet (subscribeAll libp2p swarm topics) := by
  induction topics generalizing swarm with
  | nil => exact Within.pure swarm
  | cons topic topics ih =>
      refine Within.bind (within_attempt _ _) fun fresh => ?_
      exact Within.bind (Within.perform rfl) fun _ => ih _

theorem within_listenOnAll (swarm : Swarm Key) (texts : List String) :
    Within Quiet (listenOnAll libp2p swarm texts) := by
  induction texts generalizing swarm with
  | nil => exact Within.pure swarm
  | cons text texts ih =>
      refine Within.bind (within_attempt _ _) fun addr => ?_
      refine Within.bind (within_attempt _ _) fun _ => ?_
      exact Within.bind (Within.perform rfl) fun _ => ih _

/-- The loop is spawned last, so that nothing runs that a later step would have
refused. -/
theorem commits_startNodeInner (rustler : Rustler) (libp2p : Libp2p Key)
    (profile : Profile) (runtime : Except String GetRuntime.Runtime)
    (configMap : TermMap) :
    Commits Quiet
      (startNodeInner rustler libp2p profile runtime configMap) := by
  refine Commits.bind (within_attempt _ _) fun config => ?_
  refine Commits.bind (within_attempt _ _) fun started => ?_
  refine Commits.bind (within_attempt _ _) fun keypair => ?_
  refine Commits.bind (within_attempt _ _) fun limits => ?_
  iterate 15 refine Commits.bind (within_attempt _ _) fun _ => ?_
  refine Commits.bind (within_subscribeAll _ _) fun subscribed => ?_
  refine Commits.bind (within_listenOnAll _ _) fun swarm => ?_
  exact Commits.last _ _

/-- The sum of the established limits does not fit, and the build checks it. -/
def Overflows (profile : Profile) (config : NodeConfig) : Prop :=
  profile = .debug ∧ UInt32.size ≤
    config.maxEstablishedIncoming.toNat + config.maxEstablishedOutgoing.toNat

/-- A function of libp2p panics at what a start gives it. -/
inductive Libp2p.PanicsAt (libp2p : Libp2p Key) (config : NodeConfig)
    (keypair : Key) (limits : ConnectionLimits) (panic : Panic) : Prop
  | gossipsubConfig (panicked : libp2p.buildGossipsubConfig
      (StartNode.gossipsubConfig config) = .error (.panic panic))
  | gossipsub (panicked : libp2p.newGossipsub keypair
      (StartNode.gossipsubConfig config) = .error (.panic panic))
  | scoring (panicked : StartNode.withPeerScore libp2p config =
      .error (.panic panic))
  | kademlia (enabled : config.enableKademlia = true)
      (panicked : libp2p.kademliaPanics (libp2p.identity.peerId keypair) =
        true)
  | identify (panicked : libp2p.identifyPanics
      (nodeBehaviour libp2p config keypair limits).identify = true)
  | mdns (enabled : config.enableMdns = true)
      (panicked : libp2p.newMdns (libp2p.identity.peerId keypair) =
        .error (.panic panic))
  | protocol (panicked : libp2p.streamProtocol config.rpcProtocolName =
      .error (.panic panic))
  | protocols (panicked : libp2p.protocolsPanic
      (nodeBehaviour libp2p config keypair limits) = true)
  | tcp (panicked : libp2p.withTcp = .error (.panic panic))
  | quic (panicked : libp2p.quicPanics = true)
  | dns (panicked : libp2p.withDns = .error (.panic panic))
  | relayClient (panicked : libp2p.withRelayClient = .error (.panic panic))
  | metrics (panicked : libp2p.metricsPanic = true)
  | composed (panicked : libp2p.withBehaviour = .error (.panic panic))
  | built (panicked : libp2p.buildPanics = true)
  | subscribe {earlier later : List String} {topic : String}
      (split : config.gossipsubTopics = earlier ++ topic :: later)
      (panicked : libp2p.subscribe earlier topic = .error (.panic panic))
  | parse {text : String} (listed : text ∈ config.listenAddrs)
      (panicked : libp2p.parseMultiaddr text = .error (.panic panic))
  | listen {before after : List String} {text : String}
      {earlier : List Multiaddr} {addr : Multiaddr}
      (split : config.listenAddrs = before ++ text :: after)
      (listening : before.mapM libp2p.parseMultiaddr = .ok earlier)
      (parsed : libp2p.parseMultiaddr text = .ok addr)
      (panicked : libp2p.listenOn earlier addr = .error (.panic panic))

/-- What a start can panic for. -/
inductive PanicsFor (rustler : Rustler) (libp2p : Libp2p Key)
    (profile : Profile) (configMap : TermMap) (panic : Panic) : Prop
  | reading {key : String} {term : Term}
      (listed : key ∈ ["listen_addrs", "bootstrap_peers", "gossipsub_topics"])
      (found : configMap.lookup key = some term)
      (improper : ImproperTexts term)
  | generating {config : NodeConfig}
      (read : NodeConfig.fromMap rustler configMap = .ok config)
      (unset : config.keypairBytes = none)
      (panicked : libp2p.generated = .error panic)
  | limits {config : NodeConfig}
      (read : NodeConfig.fromMap rustler configMap = .ok config)
      (overflows : Overflows profile config)
  | libp2p {config : NodeConfig} {keypair : Key} {limits : ConnectionLimits}
      (read : NodeConfig.fromMap rustler configMap = .ok config)
      (identified : identityKeypair libp2p config = .ok keypair)
      (limited : connectionLimits profile config = .ok limits)
      (panicked : libp2p.PanicsAt config keypair limits panic)

def Panics (cause : Panic → Prop) {Value : Type} : Script Key Value → Prop :=
  Leaves fun result _ => ∀ panic, result = .error (.panic panic) → cause panic

section Panics

variable {cause : Panic → Prop}

theorem Panics.bind {Value Next : Type} {script : Script Key Value}
    {next : Value → Script Key Next} (first : Panics cause script)
    (rest : ∀ earlier value later, run script earlier = (.ok value, later) →
      Panics cause (next value)) :
    Panics cause (script >>= next) := by
  intro earlier
  obtain ⟨done, performed, caused⟩ := first earlier
  rw [run_bind]
  cases ran : run script earlier with
  | mk result between =>
      rw [ran] at performed caused
      obtain rfl : between = earlier ++ done := performed
      cases result with
      | error error =>
          refine ⟨done, rfl, ?_⟩
          intro panic same
          cases same
          exact caused panic rfl
      | ok value =>
          obtain ⟨more, later, ending⟩ :=
            rest earlier value _ ran (earlier ++ done)
          refine ⟨done ++ more, ?_, ending⟩
          rw [← List.append_assoc]
          exact later

theorem panics_attempt {Value Next : Type} {step : String}
    {result : Except Failure Value} {next : Value → Script Key Next}
    (caused : ∀ panic, result = .error (.panic panic) → cause panic)
    (rest : ∀ value, result = .ok value → Panics cause (next value)) :
    Panics cause (attempt step result >>= next) := by
  refine Leaves.lift_bind ?_ ?_
  · intro failure failed panic same
    cases same
    rcases result with ⟨reason | other⟩ | value
    · cases failed
    · cases failed
      exact caused panic rfl
    · cases failed
  · intro value succeeded
    exact rest value (mapError_ok_iff.mp succeeded)

theorem panics_message {Value Next : Type} {step : String}
    {result : Except String Value} {next : Value → Script Key Next}
    (rest : ∀ value, result = .ok value → Panics cause (next value)) :
    Panics cause (attempt step (result.mapError .message) >>= next) := by
  refine panics_attempt ?_ fun value succeeded =>
    rest value (mapError_ok_iff.mp succeeded)
  intro panic panicked
  cases result with
  | ok value => cases panicked
  | error reason => cases panicked

theorem panics_infallible {Next : Type} {step : String} {panics : Bool}
    {next : Unit → Script Key Next}
    (caused : ∀ panic, panics = true → cause panic)
    (rest : ∀ value, Panics cause (next value)) :
    Panics cause (attempt step (infallible panics) >>= next) := by
  refine panics_attempt ?_ fun value _ => rest value
  intro panic panicked
  cases panics with
  | false => cases panicked
  | true => exact caused panic rfl

theorem panics_perform {Next : Type} {effect : Effect Key}
    {next : Unit → Script Key Next} (rest : Panics cause (next ())) :
    Panics cause (perform effect >>= next) := by
  refine Panics.bind ?_ fun _ _ _ _ => rest
  intro earlier
  exact ⟨_, rfl, nofun⟩

theorem panics_subscribeAll {swarm : Swarm Key} {topics : List String}
    (caused : ∀ before topic after, topics = before ++ topic :: after →
      ∀ panic, libp2p.subscribe (swarm.topics ++ before) topic =
        .error (.panic panic) → cause panic) :
    Panics cause (subscribeAll libp2p swarm topics) := by
  induction topics generalizing swarm with
  | nil => exact Leaves.pure nofun
  | cons topic topics ih =>
      obtain ⟨first, later⟩ := forall_split_cons.mp caused
      rw [List.append_nil] at first
      refine panics_attempt first fun fresh _ => panics_perform (ih ?_)
      intro before other after split panic panicked
      rw [List.append_assoc] at panicked
      exact later before other after split panic panicked

theorem panics_listenOnAll {swarm : Swarm Key} {texts : List String}
    (parsing : ∀ text ∈ texts, ∀ panic,
      libp2p.parseMultiaddr text = .error (.panic panic) → cause panic)
    (listening : ∀ before text after earlier addr panic,
      texts = before ++ text :: after →
      before.mapM libp2p.parseMultiaddr = .ok earlier →
      libp2p.parseMultiaddr text = .ok addr →
      libp2p.listenOn (swarm.listeners ++ earlier) addr =
        .error (.panic panic) → cause panic) :
    Panics cause (listenOnAll libp2p swarm texts) := by
  induction texts generalizing swarm with
  | nil => exact Leaves.pure nofun
  | cons text texts ih =>
      obtain ⟨first, later⟩ := List.forall_mem_cons.mp parsing
      refine panics_attempt first fun addr parsed => ?_
      refine panics_attempt ?_ fun _ _ => panics_perform (ih later ?_)
      · intro panic panicked
        apply listening [] text texts [] addr panic rfl rfl parsed
        rw [List.append_nil]
        exact panicked
      · intro before other after earlier next panic split listened isNext
          panicked
        apply listening (text :: before) other after (addr :: earlier) next
          panic (congrArg (text :: ·) split) _ isNext
        · rw [List.append_cons]
          exact panicked
        · rw [List.mapM_cons, parsed, listened]
          rfl

end Panics

theorem generated_of_panic {config : NodeConfig} {panic : Panic}
    (panicked : identityKeypair libp2p config = .error (.panic panic)) :
    config.keypairBytes = none ∧ libp2p.generated = .error panic := by
  unfold identityKeypair at panicked
  cases given : config.keypairBytes with
  | some bytes =>
      rw [given] at panicked
      cases read : libp2p.identity.fromProtobufEncoding bytes with
      | ok key => simp [read, Except.mapError] at panicked
      | error reason => simp [read, Except.mapError] at panicked
  | none =>
      rw [given] at panicked
      cases drawn : libp2p.generated with
      | ok key => simp [drawn, Except.mapError] at panicked
      | error other =>
          simp only [drawn, Except.mapError] at panicked
          cases panicked
          exact ⟨rfl, rfl⟩

theorem overflows_of_panic {config : NodeConfig} {panic : Panic}
    (panicked : connectionLimits profile config = .error panic) :
    Overflows profile config := by
  unfold connectionLimits Profile.add at panicked
  cases profile with
  | release => cases panicked
  | debug =>
      refine ⟨rfl, not_lt.mp ?_⟩
      intro small
      simp only [if_pos small] at panicked
      cases panicked

section Optional

variable {config : NodeConfig} {keypair : Key} {limits : ConnectionLimits}
  {panic : Panic}

theorem panicsAt_of_kademlia
    (panicked : kademliaBehaviour libp2p config
      (libp2p.identity.peerId keypair) = .error (.panic panic)) :
    libp2p.PanicsAt config keypair limits panic := by
  unfold kademliaBehaviour infallible at panicked
  split at panicked
  · rename_i enabled
    split at panicked
    · rename_i panics
      exact .kademlia enabled panics
    · cases panicked
  · cases panicked

theorem panicsAt_of_mdns
    (panicked : mdnsBehaviour libp2p config (libp2p.identity.peerId keypair) =
      .error (.panic panic)) :
    libp2p.PanicsAt config keypair limits panic := by
  unfold mdnsBehaviour at panicked
  split at panicked
  · rename_i enabled
    exact .mdns enabled panicked
  · cases panicked

end Optional

theorem panics_startNodeInner (rustler : Rustler) (libp2p : Libp2p Key)
    (profile : Profile) (runtime : Except String GetRuntime.Runtime)
    (configMap : TermMap) :
    Panics (PanicsFor rustler libp2p profile configMap)
      (startNodeInner rustler libp2p profile runtime configMap) := by
  refine panics_attempt ?_ fun config read => ?_
  · intro panic panicked
    obtain ⟨key, listed, term, found, improper⟩ :=
      improperTexts_of_fromMap panicked
    exact .reading listed found improper
  refine panics_message fun started _ => ?_
  refine panics_attempt ?_ fun keypair identified => ?_
  · intro panic panicked
    obtain ⟨unset, drawn⟩ := generated_of_panic panicked
    exact .generating read unset drawn
  refine panics_attempt ?_ fun limits succeeded => ?_
  · intro panic panicked
    cases limited : connectionLimits profile config with
    | ok limits =>
        rw [limited] at panicked
        cases panicked
    | error other => exact .limits read (overflows_of_panic limited)
  have limited := mapError_ok_iff.mp succeeded
  have caused : ∀ {panic}, libp2p.PanicsAt config keypair limits panic →
      PanicsFor rustler libp2p profile configMap panic :=
    .libp2p read identified limited
  refine panics_attempt (fun _ => caused ∘ .gossipsubConfig) fun _ _ => ?_
  refine panics_attempt (fun _ => caused ∘ .gossipsub) fun _ _ => ?_
  refine panics_attempt (fun _ => caused ∘ .scoring) fun _ _ => ?_
  refine panics_attempt (fun _ => caused ∘ panicsAt_of_kademlia) fun _ _ => ?_
  refine panics_infallible (fun _ => caused ∘ .identify) fun _ => ?_
  refine panics_attempt (fun _ => caused ∘ panicsAt_of_mdns) fun _ _ => ?_
  refine panics_attempt (fun _ => caused ∘ .protocol) fun _ _ => ?_
  refine panics_infallible (fun _ => caused ∘ .protocols) fun _ => ?_
  refine panics_attempt (fun _ => caused ∘ .tcp) fun _ _ => ?_
  refine panics_infallible (fun _ => caused ∘ .quic) fun _ => ?_
  refine panics_attempt (fun _ => caused ∘ .dns) fun _ _ => ?_
  refine panics_attempt (fun _ => caused ∘ .relayClient) fun _ _ => ?_
  refine panics_infallible (fun _ => caused ∘ .metrics) fun _ => ?_
  refine panics_attempt (fun _ => caused ∘ .composed) fun _ _ => ?_
  refine panics_infallible (fun _ => caused ∘ .built) fun _ => ?_
  refine Panics.bind (panics_subscribeAll
    fun _ _ _ split _ => caused ∘ .subscribe split)
    fun _ subscribed _ ran => ?_
  obtain ⟨-, rfl, -⟩ := run_subscribeAll_ok_iff.mp ran
  refine Panics.bind (panics_listenOnAll
    (fun _ listed _ => caused ∘ .parse listed)
    fun _ _ _ _ _ _ split listened parsed =>
      caused ∘ .listen split listened parsed) fun _ _ _ _ => ?_
  refine panics_perform ?_
  exact Leaves.pure nofun

theorem startNode_ok_iff {configMap : TermMap} {handle : NodeHandle}
    {effects : List (Effect Key)} :
    startNode rustler libp2p profile runtime configMap = (.ok handle, effects) ↔
      ∃ config started swarm,
        NodeConfig.fromMap rustler configMap = .ok config ∧
        runtime = .ok started ∧ Describes libp2p profile config swarm ∧
        libp2p.Accepts swarm ∧
        handle = { peerId := libp2p.identity.peerId swarm.identity } ∧
        effects = startEffects started swarm config.mdnsAutoDial := by
  rw [← run_startNodeInner_ok_iff, startNode]
  obtain ⟨result, others⟩ :=
    run (startNodeInner rustler libp2p profile runtime configMap) []
  cases result with
  | ok other => simp [Except.mapError]
  | error failure => simp [Except.mapError]

theorem startNode_error {configMap : TermMap} {error : NifError}
    (failed : (startNode rustler libp2p profile runtime configMap).1 =
      .error error) :
    ∃ failure, error = toNifError failure ∧
      (run (startNodeInner rustler libp2p profile runtime configMap) []).1 =
        .error failure := by
  rw [startNode] at failed
  cases ran :
      (run (startNodeInner rustler libp2p profile runtime configMap) []).1 with
  | ok handle =>
      simp only [ran] at failed
      cases failed
  | error failure =>
      simp only [ran] at failed
      exact ⟨failure, (Except.error.inj failed).symm, rfl⟩

theorem quiet_of_startNode_error {configMap : TermMap} {error : NifError}
    (failed : (startNode rustler libp2p profile runtime configMap).1 =
      .error error) :
    ∀ effect ∈ (startNode rustler libp2p profile runtime configMap).2,
      effect.isSpawn = false := by
  obtain ⟨failure, -, ran⟩ := startNode_error failed
  obtain ⟨done, performed, ⟨value, returned⟩ | quiet⟩ :=
    commits_startNodeInner rustler libp2p profile runtime configMap []
  · rw [ran] at returned
    cases returned
  · intro effect member
    have listed : effect ∈
        (run (startNodeInner rustler libp2p profile runtime configMap) []).2 :=
      member
    rw [performed] at listed
    exact quiet effect listed

theorem panicsFor_of_nifPanic {configMap : TermMap} {text : String}
    (failed : (startNode rustler libp2p profile runtime configMap).1 =
      .error (.nifPanic text)) :
    ∃ panic, PanicsFor rustler libp2p profile configMap panic := by
  obtain ⟨failure, same, ran⟩ := startNode_error failed
  obtain ⟨_, -, caused⟩ :=
    panics_startNodeInner rustler libp2p profile runtime configMap []
  cases failure with
  | message reason => cases same
  | panic panic => exact ⟨panic, caused panic ran⟩

/-- A start returns a handle exactly if nothing has to be refused, and the loop
then runs the swarm of the configuration. Otherwise no loop is left behind, and
a panic is reported only for an improper list, the sum of the limits or a panic
of libp2p. -/
theorem start_node_all_or_nothing (rustler : Rustler) (libp2p : Libp2p Key)
    (profile : Profile) (runtime : Except String GetRuntime.Runtime)
    (configMap : TermMap) :
    (∀ handle effects,
      startNode rustler libp2p profile runtime configMap =
          (.ok handle, effects) ↔
      ∃ config started swarm,
        NodeConfig.fromMap rustler configMap = .ok config ∧
        runtime = .ok started ∧ Describes libp2p profile config swarm ∧
        libp2p.Accepts swarm ∧
        handle = { peerId := libp2p.identity.peerId swarm.identity } ∧
        effects = startEffects started swarm config.mdnsAutoDial) ∧
    (∀ error,
      (startNode rustler libp2p profile runtime configMap).1 = .error error →
      ∀ effect ∈ (startNode rustler libp2p profile runtime configMap).2,
        effect.isSpawn = false) ∧
    ∀ text, (startNode rustler libp2p profile runtime configMap).1 =
        .error (.nifPanic text) →
      ∃ panic, PanicsFor rustler libp2p profile configMap panic :=
  ⟨fun _ _ => startNode_ok_iff, fun _ => quiet_of_startNode_error,
    fun _ => panicsFor_of_nifPanic⟩

end Runs

end ExLibp2p.Native.StartNode
