import ExLibp2p.Native.SwarmLoop.Ledger

namespace ExLibp2p.Native.SwarmLoop

open ExLibp2p.Data
open ExLibp2p.Erlang
open ExLibp2p.Native.Policy

section Origins

variable {locals next : Locals} {input : Turn} {effects : List Effect}

theorem Movement.stored_origin (movement : Movement locals input next effects)
    {id : String} {channel : ResponseChannel}
    (isStored : (id, channel) ∈ stored effects) :
    input.channel = some channel := by
  cases movement with
  | accepted room =>
      rw [stored_issue] at isStored
      cases List.mem_singleton.mp isStored
      rfl
  | evicted now =>
      rw [stored_evict] at isStored
      cases isStored
  | other noRequest pending counter quiet =>
      rw [quiet.stored] at isStored
      cases isStored
  | answered found => cases isStored
  | unknown missing => cases isStored
  | refused => cases isStored

theorem mem_answered {channel : ResponseChannel} :
    channel ∈ answered effects ↔
      ∃ data, Effect.sendResponse channel data ∈ effects := by
  rw [answered, List.mem_filterMap]
  constructor
  · intro found
    obtain ⟨effect, member, same⟩ := found
    cases effect with
    | sendResponse other data =>
        cases same
        exact ⟨data, member⟩
    | _ => cases same
  · intro found
    obtain ⟨data, member⟩ := found
    exact ⟨_, member, rfl⟩

theorem Movement.answered_origin
    (movement : Movement locals input next effects)
    {channel : ResponseChannel} {data : Bytes}
    (sent : Effect.sendResponse channel data ∈ effects) :
    ∃ id answers created,
      input = .command (some (.rpcSendResponse id data)) answers ∧
        locals.pendingResponses.lookup id = some (channel, created) := by
  have isAnswered : channel ∈ SwarmLoop.answered effects :=
    mem_answered.mpr ⟨data, sent⟩
  cases movement with
  | answered found =>
      cases List.mem_singleton.mp sent
      exact ⟨_, _, _, rfl, found⟩
  | evicted now =>
      rw [answered_evict] at isAnswered
      cases isAnswered
  | accepted room =>
      rw [answered_issue] at isAnswered
      cases isAnswered
  | other noRequest pending counter quiet =>
      rw [quiet.answered] at isAnswered
      cases isAnswered
  | unknown missing => cases isAnswered
  | refused => cases isAnswered

theorem Movement.announced_origin
    (movement : Movement locals input next effects) {pid : LocalPid}
    {message id : Term} (sent : Effect.send pid message ∈ effects)
    (isRequest : announcedId message = some id) :
    ∃ peer requestId request channel now answers channelId,
      input = .event (.requestReceived peer requestId request channel) now
        answers ∧
      message = Events.sendInboundRequest answers.allocates peer requestId
        channelId request ∧
      Effect.store channelId channel ∈ effects := by
  cases movement with
  | accepted room =>
      rcases List.mem_cons.mp sent with impossible | announced
      · cases impossible
      · simp only [announce, Option.mem_toList, Option.map_eq_some_iff]
          at announced
        obtain ⟨handler, -, same⟩ := announced
        cases same
        exact ⟨_, _, _, _, _, _, _, rfl, rfl, List.mem_cons_self⟩
  | other noRequest pending counter quiet =>
      have unseen := quiet _ sent
      rw [Effect.isQuiet, isRequest] at unseen
      contradiction
  | evicted now =>
      simp [evict] at sent
  | answered found =>
      cases List.mem_singleton.mp sent
  | unknown missing => cases sent
  | refused => cases List.mem_singleton.mp sent

end Origins

/-- An identifier that was never issued, whose response was sent, or that was
evicted. -/
def Spent (trace : History) (id : String) : Prop :=
  id ∉ (issued trace).map Prod.fst ∨
    (∃ entry ∈ trace, ∃ data answers channel,
      entry.1 = .command (some (.rpcSendResponse id data)) answers ∧
        Effect.sendResponse channel data ∈ entry.2) ∨
    id ∈ evictedIn trace

structure Safe (settings : Settings) (trace : History) (state : State) :
    Prop where
  capped : state.locals.pendingResponses.size ≤ maxPendingResponses
  keys_nodup : state.locals.pendingResponses.keys.Nodup
  keys_numbered : ∀ id ∈ state.locals.pendingResponses.keys,
    ∃ number, 1 ≤ number ∧ number ≤ state.locals.channelCounter ∧
      id = channelId number
  issued_once : ((issued trace).map Prod.fst).Nodup
  requests_distinct : (trace.filterMap fun entry => entry.1.channel).Nodup
  issued_to_request : ∀ entry ∈ trace, ∀ id channel,
    Effect.store id channel ∈ entry.2 → entry.1.channel = some channel
  answered_once : (trace.flatMap fun entry => answered entry.2).Nodup
  answered_by_id : ∀ earlier entry later,
    trace = earlier ++ entry :: later → ∀ channel data,
      Effect.sendResponse channel data ∈ entry.2 →
        ∃ id answers,
          entry.1 = .command (some (.rpcSendResponse id data)) answers ∧
            (id, channel) ∈ issued earlier
  announced_id : ∀ entry ∈ trace, ∀ pid message id,
    Effect.send pid message ∈ entry.2 → announcedId message = some id →
      ∃ peer requestId request channel now answers issuedId,
        entry.1 = .event (.requestReceived peer requestId request channel) now
          answers ∧
        message = Events.sendInboundRequest answers.allocates peer requestId
          issuedId request ∧
        Effect.store issuedId channel ∈ entry.2
  spent_ignored : ∀ id, Spent trace id → ∀ data answers next effects,
    (swarmLoop settings).step state
        (.command (some (.rpcSendResponse id data)) answers) =
      some (next, effects) →
        next.locals.pendingResponses = state.locals.pendingResponses ∧
          next.locals.channelCounter = state.locals.channelCounter ∧
          answered effects = []

theorem mem_stored {effects : List Effect} {id : String}
    {channel : ResponseChannel} :
    (id, channel) ∈ stored effects ↔ Effect.store id channel ∈ effects := by
  rw [stored, List.mem_filterMap]
  constructor
  · intro found
    obtain ⟨effect, member, same⟩ := found
    cases effect with
    | store otherId other =>
        cases same
        exact member
    | _ => cases same
  · intro member
    exact ⟨_, member, rfl⟩

theorem channels_of_run {settings : Settings} {trace : History} {state : State}
    (run : Machine.Run (swarmLoop settings) trace state) :
    state.channels = (trace.filterMap fun entry => entry.1.channel).reverse ∧
      state.channels.Nodup := by
  refine run.invariant (fun trace state =>
    state.channels = (trace.filterMap fun entry => entry.1.channel).reverse ∧
      state.channels.Nodup) ⟨rfl, List.nodup_nil⟩ ?_
  intro trace state input next output earlier both taken
  obtain ⟨listed, nodup⟩ := both
  obtain ⟨fresh, channels, -⟩ := step_movement taken
  rw [channels, listed, List.filterMap_append]
  cases carried : input.channel with
  | none =>
      simpa [carried, ← listed] using nodup
  | some channel =>
      have unseen := fresh channel carried
      simp only [List.filterMap_cons, carried, List.filterMap_nil,
        List.reverse_append, List.reverse_singleton, Option.toList_some]
      refine ⟨trivial, ?_⟩
      rw [← listed]
      exact List.nodup_cons.mpr ⟨unseen, nodup⟩

section Runs

variable {settings : Settings} {trace : History} {state : State}

theorem requests_prefix {first second : History} :
    requests first ≤ requests (first ++ second) := by
  rw [requests, requests, List.countP_append]
  exact Nat.le_add_right _ _

theorem movement_of_mem
    (run : Machine.Run (swarmLoop settings) trace state)
    (few : requests trace < 2 ^ 64) {earlier later : History}
    {entry : Turn × List Effect} (split : trace = earlier ++ entry :: later) :
    ∃ before after, Ledger earlier before ∧
      Movement before.locals entry.1 after entry.2 := by
  subst split
  obtain ⟨before, after, reached, taken, -⟩ := run.step_of_mem
  obtain ⟨-, -, movement⟩ := step_movement taken
  have fewer := Nat.lt_of_le_of_lt requests_prefix few
  exact ⟨before, after.locals, Ledger.of_run reached fewer, movement⟩

theorem answered_by_id_of_run
    (run : Machine.Run (swarmLoop settings) trace state)
    (few : requests trace < 2 ^ 64) {earlier later : History}
    {entry : Turn × List Effect} (split : trace = earlier ++ entry :: later)
    {channel : ResponseChannel} {data : Bytes}
    (sent : Effect.sendResponse channel data ∈ entry.2) :
    ∃ id answers,
      entry.1 = .command (some (.rpcSendResponse id data)) answers ∧
        (id, channel) ∈ issued earlier := by
  obtain ⟨before, after, ledger, movement⟩ := movement_of_mem run few split
  obtain ⟨id, answers, created, isCommand, found⟩ :=
    movement.answered_origin sent
  exact ⟨id, answers, isCommand, (ledger.held id channel created found).1⟩

theorem lookup_of_spent (run : Machine.Run (swarmLoop settings) trace state)
    (few : requests trace < 2 ^ 64) {id : String} (spent : Spent trace id) :
    state.locals.pendingResponses.lookup id = none := by
  have ledger := Ledger.of_run run few
  cases found : state.locals.pendingResponses.lookup id with
  | none => rfl
  | some pending =>
      exfalso
      obtain ⟨channel, created⟩ := pending
      obtain ⟨isIssued, unanswered, unevicted⟩ :=
        ledger.held id channel created found
      rcases spent with unknown | used | isEvicted
      · exact unknown (List.mem_map_of_mem isIssued)
      · obtain ⟨entry, member, data, answers, other, isCommand, sent⟩ := used
        obtain ⟨earlier, later, split⟩ := List.append_of_mem member
        obtain ⟨sentId, sentAnswers, sameCommand, otherIssued⟩ :=
          answered_by_id_of_run run few split sent
        rw [isCommand] at sameCommand
        cases sameCommand
        have inTrace : (id, other) ∈ issued trace := by
          rw [split, issued, List.flatMap_append]
          exact List.mem_append_left _ otherIssued
        rw [ledger.issues.channel_unique inTrace isIssued] at sent
        exact unanswered (List.mem_flatMap.mpr
          ⟨entry, member, mem_answered.mpr ⟨data, sent⟩⟩)
      · exact unevicted isEvicted

theorem ignored_of_missing {id : String} {data : Bytes} {answers : Answers}
    {next : State} {effects : List Effect}
    (missing : state.locals.pendingResponses.lookup id = none)
    (taken : (swarmLoop settings).step state
      (.command (some (.rpcSendResponse id data)) answers) =
        some (next, effects)) :
    next.locals.pendingResponses = state.locals.pendingResponses ∧
      next.locals.channelCounter = state.locals.channelCounter ∧
      answered effects = [] := by
  obtain ⟨-, -, movement⟩ := step_movement taken
  generalize next.locals = locals at movement ⊢
  cases movement with
  | answered found =>
      rw [missing] at found
      contradiction
  | unknown _ => exact ⟨rfl, rfl, rfl⟩
  | other noRequest pending counter quiet =>
      exact ⟨pending, counter, quiet.answered⟩

/-- Every run keeps the pending responses safe, as long as fewer than `2 ^ 64`
requests arrive. -/
theorem pendingResponses_safe
    (run : Machine.Run (swarmLoop settings) trace state)
    (few : requests trace < 2 ^ 64) : Safe settings trace state := by
  have ledger := Ledger.of_run run few
  refine
    { capped := ledger.capped
      keys_nodup := state.locals.pendingResponses.keys_nodup
      keys_numbered := ?_
      issued_once := ?_
      requests_distinct := ?_
      issued_to_request := ?_
      answered_once := ledger.answeredOnce
      answered_by_id := ?_
      announced_id := ?_
      spent_ignored := ?_ }
  · intro id isKey
    obtain ⟨⟨channel, created⟩, found⟩ := Option.isSome_iff_exists.mp
      (AList.lookup_isSome.mpr isKey)
    have isIssued := (ledger.held id channel created found).1
    rw [ledger.issues.counter, ← mem_channelIds, ← ledger.issues.ids]
    exact List.mem_map_of_mem isIssued
  · rw [ledger.issues.ids]
    exact channelIds_nodup _
  · obtain ⟨listed, nodup⟩ := channels_of_run run
    rw [listed] at nodup
    exact List.nodup_reverse.mp nodup
  · intro entry member id channel isStored
    obtain ⟨earlier, later, split⟩ := List.append_of_mem member
    obtain ⟨before, after, -, movement⟩ := movement_of_mem run few split
    exact movement.stored_origin (mem_stored.mpr isStored)
  · intro earlier entry later split channel data sent
    exact answered_by_id_of_run run few split sent
  · intro entry member pid message id sent isRequest
    obtain ⟨earlier, later, split⟩ := List.append_of_mem member
    obtain ⟨before, after, -, movement⟩ := movement_of_mem run few split
    exact movement.announced_origin sent isRequest
  · intro id spent data answers next effects taken
    exact ignored_of_missing (lookup_of_spent run few spent) taken

end Runs

def lanSettings : Settings where
  mdnsAutoDial := true
  kademlia := true
  rendezvousClient := false
  peerIdFromBytes := fun _ => none
  multiaddrTryFrom := fun _ => none
  namespaceNew := fun _ => true

def noAnswers : Answers where
  connectedPeers := []
  listeners := []
  meshPeers := fun _ => []
  allPeers := []
  peerScore := fun _ => none
  kbuckets := []
  sendRequest := fun _ _ => "OutboundRequestId(1)"
  allocates := fun _ => true

def requester : PeerId where
  multihash := { code := Multihash.sha256, digest := List.replicate 32 7 }
  accepted := .inl rfl

/-- Two requests, of which the first is answered twice and the second is
evicted before its answer comes, and a third one. -/
def exchange : List Turn :=
  [.command (some (.registerEventHandler 1)) noAnswers,
    .event (.requestReceived requester "InboundRequestId(1)" [1] ⟨10⟩) 0
      noAnswers,
    .event (.requestReceived requester "InboundRequestId(2)" [2] ⟨11⟩) 5
      noAnswers,
    .command (some (.rpcSendResponse "ch-1" [3])) noAnswers,
    .command (some (.rpcSendResponse "ch-1" [4])) noAnswers,
    .tick (responseTtl + 5),
    .command (some (.rpcSendResponse "ch-2" [5])) noAnswers,
    .event (.requestReceived requester "InboundRequestId(3)" [6] ⟨12⟩)
      (responseTtl + 6) noAnswers,
    .command (some .shutdown) noAnswers]

theorem pendingResponses_safe_exchange :
    ∃ trace state, Machine.Run (swarmLoop lanSettings) trace state ∧
      trace.map Prod.fst = exchange ∧ requests trace < 2 ^ 64 ∧
      Safe lanSettings trace state := by
  obtain ⟨trace, state, -, run, inputs⟩ := Machine.exists_run_of_start
    (by decide : ((swarmLoop lanSettings).start exchange).isSome)
  have few : requests trace < 2 ^ 64 := by
    have counted : requests trace =
        (trace.map Prod.fst).countP fun input => input.channel.isSome := by
      rw [List.countP_map]
      rfl
    rw [counted, inputs]
    decide
  exact ⟨trace, state, run, inputs, few, pendingResponses_safe run few⟩

end ExLibp2p.Native.SwarmLoop
