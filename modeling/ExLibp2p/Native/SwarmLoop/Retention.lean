import ExLibp2p.Native.SwarmLoop.Safety

namespace ExLibp2p.Native.SwarmLoop

open ExLibp2p.Data
open ExLibp2p.Erlang
open ExLibp2p.Native.Policy

def Turn.now : Turn → Option Instant
  | .tick now => some now
  | .command _ _ => none
  | .event _ now _ => some now

/-- The clock does not go back. -/
def Timely (trace : History) : Prop :=
  (trace.filterMap fun entry => entry.1.now).Pairwise (· ≤ ·)

/-- A request that came in at this time has been answered since, or a tick has
found it too old. -/
def Settled (later : History) (channel : ResponseChannel) (created : Instant) :
    Prop :=
  channel ∈ answeredIn later ∨
    ∃ now effects, (Turn.tick now, effects) ∈ later ∧
      created + responseTtl ≤ now

/-- After the wrap of the counter a later request takes the identifier. -/
structure Retention (settings : Settings) (trace : History) (state : State) :
    Prop where
  answerable : ∀ earlier entry later,
    trace = earlier ++ entry :: later → ∀ id channel,
      Effect.store id channel ∈ entry.2 →
        ∃ created, entry.1.now = some created ∧
          (state.locals.pendingResponses.lookup id = some (channel, created) ∨
            Settled later channel created ∨ 2 ^ 64 ≤ (issued later).length)
  young_kept : ∀ now next effects,
    (swarmLoop settings).step state (.tick now) = some (next, effects) →
      ∀ id channel created,
        state.locals.pendingResponses.lookup id = some (channel, created) →
          now < created + responseTtl →
            next.locals.pendingResponses.lookup id = some (channel, created)
  old_gone : ∀ now next effects,
    (swarmLoop settings).step state (.tick now) = some (next, effects) →
      ∀ id channel created,
        next.locals.pendingResponses.lookup id = some (channel, created) →
          now < created + responseTtl
  refused_iff_full : ∀ peer requestId request channel now answers next effects,
    (swarmLoop settings).step state
        (.event (.requestReceived peer requestId request channel) now answers) =
      some (next, effects) →
        (Effect.dropRequest channel ∈ effects ↔
          state.locals.pendingResponses.size = maxPendingResponses) ∧
        (Effect.dropRequest channel ∈ effects →
          next.locals = state.locals ∧ effects = [.dropRequest channel]) ∧
        (Effect.dropRequest channel ∉ effects → ∃ id,
          Effect.store id channel ∈ effects ∧
            next.locals.pendingResponses.lookup id = some (channel, now))

theorem keeps_iff {now created : Nat} {channel : ResponseChannel} :
    keeps now (channel, created) = true ↔ now < created + responseTtl := by
  have positive : 0 < responseTtl := by decide
  have saturated : now - created < responseTtl ↔
      now < created + responseTtl := by
    omega
  rw [← saturated]
  exact decide_eq_true_iff

section Ticks

variable {settings : Settings} {state next : State} {now : Instant}
  {effects : List Effect} {id : String} {channel : ResponseChannel}
  {created : Instant}

theorem step_tick
    (taken : (swarmLoop settings).step state (.tick now) =
      some (next, effects)) :
    next.locals = (evict state.locals now).1 := by
  simp only [swarmLoop] at taken
  split at taken
  · contradiction
  · cases taken
    rfl

theorem lookup_of_tick
    (taken : (swarmLoop settings).step state (.tick now) =
      some (next, effects)) :
    next.locals.pendingResponses.lookup id = some (channel, created) ↔
      state.locals.pendingResponses.lookup id = some (channel, created) ∧
        now < created + responseTtl := by
  rw [step_tick taken, evict, Dict.lookup_retain, Option.filter_eq_some_iff,
    keeps_iff]

end Ticks

section Entries

variable {locals next : Locals} {input : Turn} {effects : List Effect}

theorem Movement.counter (movement : Movement locals input next effects)
    (bounded : locals.channelCounter < 2 ^ 64) :
    next.channelCounter =
      (locals.channelCounter + (stored effects).length) % 2 ^ 64 := by
  have same : locals.channelCounter =
      (locals.channelCounter + 0) % 2 ^ 64 := (Nat.mod_eq_of_lt bounded).symm
  cases movement with
  | accepted room =>
      rw [stored_issue]
      rfl
  | evicted now =>
      rw [stored_evict]
      exact same
  | other noRequest pending counter quiet =>
      rw [quiet.stored, counter]
      exact same
  | answered found => exact same
  | unknown missing => exact same
  | refused => exact same

theorem Movement.retains {id : String} {channel : ResponseChannel}
    {created : Instant} (movement : Movement locals input next effects)
    (found : locals.pendingResponses.lookup id = some (channel, created))
    (fresh : stored effects ≠ [] → nextId locals ≠ id) :
    next.pendingResponses.lookup id = some (channel, created) ∨
      channel ∈ SwarmLoop.answered effects ∨
      ∃ now, input = .tick now ∧ created + responseTtl ≤ now := by
  cases movement with
  | evicted now =>
      by_cases young : now < created + responseTtl
      · refine .inl ?_
        rw [evict, Dict.lookup_retain, Option.filter_eq_some_iff, keeps_iff]
        exact ⟨found, young⟩
      · exact .inr (.inr ⟨now, rfl, Nat.le_of_not_lt young⟩)
  | @answered answeredId data answers answeredChannel answeredAt isPending =>
      by_cases same : id = answeredId
      · subst same
        rw [found] at isPending
        cases isPending
        exact .inr (.inl List.mem_cons_self)
      · refine .inl ?_
        rw [Dict.lookup_erase_ite, if_neg same]
        exact found
  | accepted room =>
      rw [stored_issue] at fresh
      refine .inl ?_
      rw [Dict.lookup_insert_ite, if_neg (fresh (List.cons_ne_nil _ _)).symm]
      exact found
  | other noRequest pending counter quiet =>
      rw [pending]
      exact .inl found
  | unknown missing => exact .inl found
  | refused => exact .inl found

end Entries

theorem channelId_injective {first second : Nat}
    (same : channelId first = channelId second) : first = second :=
  append_toString_injective "ch-" same

/-- The identifier of a request comes up again only after `2 ^ 64` others. -/
theorem nextId_ne {locals : Locals} {number issuedSince : Nat}
    (counter : locals.channelCounter = (number + issuedSince) % 2 ^ 64)
    (few : issuedSince + 1 < 2 ^ 64) :
    nextId locals ≠ channelId number := by
  intro same
  have equal := channelId_injective same
  rw [counter] at equal
  omega

theorem Settled.snoc {later : History} {channel : ResponseChannel}
    {created : Instant} (settled : Settled later channel created)
    (entry : Turn × List Effect) :
    Settled (later ++ [entry]) channel created := by
  rcases settled with isAnswered | ⟨now, effects, member, old⟩
  · refine .inl ?_
    rw [answeredIn, List.flatMap_append]
    exact List.mem_append_left _ isAnswered
  · exact .inr ⟨now, effects, List.mem_append_left _ member, old⟩

section Continuations

variable {settings : Settings} {start state : State} {later : History}

theorem counter_of_steps
    (steps : (swarmLoop settings).Steps start later state)
    (bounded : start.locals.channelCounter < 2 ^ 64) :
    state.locals.channelCounter =
      (start.locals.channelCounter + (issued later).length) % 2 ^ 64 := by
  induction steps with
  | nil => exact (Nat.mod_eq_of_lt bounded).symm
  | @snoc later state next input effects earlier taken induction =>
      obtain ⟨-, -, movement⟩ := step_movement taken
      have small : state.locals.channelCounter < 2 ^ 64 := by
        rw [induction]
        exact Nat.mod_lt _ (Nat.two_pow_pos 64)
      rw [movement.counter small, induction, issued_snoc, List.length_append,
        Nat.mod_add_mod, Nat.add_assoc]

theorem retained_of_steps {number : Nat} {channel : ResponseChannel}
    {created : Instant}
    (steps : (swarmLoop settings).Steps start later state)
    (counter : start.locals.channelCounter = number)
    (bounded : number < 2 ^ 64)
    (found : start.locals.pendingResponses.lookup (channelId number) =
      some (channel, created)) :
    state.locals.pendingResponses.lookup (channelId number) =
        some (channel, created) ∨
      Settled later channel created ∨ 2 ^ 64 ≤ (issued later).length := by
  induction steps with
  | nil => exact .inl found
  | @snoc later state next input effects earlier taken induction =>
      obtain ⟨-, -, movement⟩ := step_movement taken
      have grown : (issued (later ++ [(input, effects)])).length =
          (issued later).length + (stored effects).length := by
        rw [issued_snoc, List.length_append]
      rcases induction with held | settled | many
      · by_cases few :
            (issued (later ++ [(input, effects)])).length < 2 ^ 64
        · have fresh : stored effects ≠ [] →
              nextId state.locals ≠ channelId number := by
            intro stores
            have positive := List.length_pos_of_ne_nil stores
            have since := counter_of_steps earlier (counter ▸ bounded)
            rw [counter] at since
            exact nextId_ne since (by omega)
          rcases movement.retains held fresh with kept | sent | old
          · exact .inl kept
          · refine .inr (.inl (.inl ?_))
            rw [answeredIn_snoc]
            exact List.mem_append_right _ sent
          · obtain ⟨now, rfl, old⟩ := old
            exact .inr (.inl (.inr ⟨now, effects,
              List.mem_append_right _ List.mem_cons_self, old⟩))
        · exact .inr (.inr (Nat.le_of_not_lt few))
      · exact .inr (.inl (settled.snoc _))
      · refine .inr (.inr ?_)
        rw [grown]
        exact Nat.le_add_right_of_le many

end Continuations

section Lifetimes

variable {settings : Settings} {trace : History} {state : State}

theorem Movement.stored_held {locals next : Locals} {input : Turn}
    {effects : List Effect} {id : String} {channel : ResponseChannel}
    (movement : Movement locals input next effects)
    (isStored : Effect.store id channel ∈ effects) :
    ∃ created, input.now = some created ∧
      id = channelId next.channelCounter ∧ next.channelCounter < 2 ^ 64 ∧
      next.pendingResponses.lookup id = some (channel, created) := by
  have listed := mem_stored.mpr isStored
  cases movement with
  | accepted room =>
      rw [stored_issue] at listed
      cases List.mem_singleton.mp listed
      refine ⟨_, rfl, rfl, Nat.mod_lt _ (Nat.two_pow_pos 64), ?_⟩
      rw [Dict.lookup_insert_ite, if_pos rfl]
  | evicted now =>
      rw [stored_evict] at listed
      cases listed
  | other noRequest pending counter quiet =>
      rw [quiet.stored] at listed
      cases listed
  | answered found => cases listed
  | unknown missing => cases listed
  | refused => cases listed

theorem answerable_of_run (run : (swarmLoop settings).Run trace state)
    {earlier later : History} {entry : Turn × List Effect}
    (split : trace = earlier ++ entry :: later) {id : String}
    {channel : ResponseChannel} (isStored : Effect.store id channel ∈ entry.2) :
    ∃ created, entry.1.now = some created ∧
      (state.locals.pendingResponses.lookup id = some (channel, created) ∨
        Settled later channel created ∨ 2 ^ 64 ≤ (issued later).length) := by
  subst split
  obtain ⟨before, after, -, taken, -, steps⟩ := run.step_of_mem
  obtain ⟨-, -, movement⟩ := step_movement taken
  obtain ⟨created, atTime, rfl, bounded, found⟩ := movement.stored_held isStored
  exact ⟨created, atTime, retained_of_steps steps rfl bounded found⟩

theorem capped_of_run (run : (swarmLoop settings).Run trace state) :
    state.locals.pendingResponses.size ≤ maxPendingResponses := by
  refine run.invariant (fun _ state =>
    state.locals.pendingResponses.size ≤ maxPendingResponses) (Nat.zero_le _) ?_
  intro trace state input next effects earlier capped taken
  obtain ⟨-, -, movement⟩ := step_movement taken
  generalize next.locals = locals at movement
  cases movement with
  | evicted now => exact (Dict.size_retain_le _ _).trans capped
  | answered found => exact (Dict.size_erase_le _ _).trans capped
  | unknown missing => exact capped
  | accepted room => exact (Dict.size_insert_le _ _ _).trans room
  | refused => exact capped
  | other noRequest pending counter quiet =>
      rw [pending]
      exact capped

theorem dropRequest_notMem {id : String} {channel : ResponseChannel}
    {locals : Locals} {message : Term} :
    Effect.dropRequest channel ∉
      Effect.store id channel :: announce locals message := by
  unfold announce
  cases locals.eventHandler with
  | none => simp
  | some pid => simp

theorem refused_of_step {peer : PeerId} {requestId : String} {request : Bytes}
    {channel : ResponseChannel} {now : Instant} {answers : Answers}
    {next : State} {effects : List Effect}
    (capped : state.locals.pendingResponses.size ≤ maxPendingResponses)
    (taken : (swarmLoop settings).step state
        (.event (.requestReceived peer requestId request channel) now answers) =
      some (next, effects)) :
    (Effect.dropRequest channel ∈ effects ↔
        state.locals.pendingResponses.size = maxPendingResponses) ∧
      (Effect.dropRequest channel ∈ effects →
        next.locals = state.locals ∧ effects = [.dropRequest channel]) ∧
      (Effect.dropRequest channel ∉ effects → ∃ id,
        Effect.store id channel ∈ effects ∧
          next.locals.pendingResponses.lookup id = some (channel, now)) := by
  simp only [swarmLoop, turn, handleEvent, receiveRequest] at taken
  split at taken
  · contradiction
  · split at taken
    · rename_i full
      cases taken
      refine ⟨?_, fun _ => ⟨rfl, rfl⟩, fun kept => absurd List.mem_cons_self kept⟩
      exact iff_of_true List.mem_cons_self (Nat.le_antisymm capped full)
    · rename_i room
      cases taken
      refine ⟨?_, fun dropped => absurd dropped dropRequest_notMem, fun _ => ?_⟩
      · exact iff_of_false dropRequest_notMem fun full => room (Nat.le_of_eq full.symm)
      · refine ⟨_, List.mem_cons_self, ?_⟩
        rw [Dict.lookup_insert_ite, if_pos rfl]

theorem pendingResponses_retained
    (run : (swarmLoop settings).Run trace state) :
    Retention settings trace state where
  answerable := by
    intro earlier entry later split id channel isStored
    exact answerable_of_run run split isStored
  young_kept := by
    intro now next effects taken id channel created found young
    exact (lookup_of_tick taken).mpr ⟨found, young⟩
  old_gone := by
    intro now next effects taken id channel created found
    exact ((lookup_of_tick taken).mp found).2
  refused_iff_full := by
    intro peer requestId request channel now answers next effects taken
    exact refused_of_step (capped_of_run run) taken

end Lifetimes

theorem pendingResponses_retained_exchange :
    ∃ trace state, (swarmLoop lanSettings).Run trace state ∧
      trace.map Prod.fst = exchange ∧ Timely trace ∧
      Retention lanSettings trace state := by
  obtain ⟨trace, state, -, run, inputs⟩ := Machine.exists_run_of_start
    (by decide : ((swarmLoop lanSettings).start exchange).isSome)
  have timely : Timely trace := by
    have clock : (trace.filterMap fun entry => entry.1.now) =
        (trace.map Prod.fst).filterMap Turn.now := by
      rw [List.filterMap_map]
      rfl
    rw [Timely, clock, inputs]
    decide
  exact ⟨trace, state, run, inputs, timely, pendingResponses_retained run⟩

/-! The counter is a `u64` without a check: a run that takes in `2 ^ 64`
requests while the first one waits overwrites it. -/

section Overwriting

variable {settings : Settings} {state : State}

theorem step_accept {peer : PeerId} {requestId : String} {request : Bytes}
    {channel : ResponseChannel} {now : Instant} {answers : Answers}
    (running : state.exited = false) (fresh : channel ∉ state.channels)
    (room : state.locals.pendingResponses.size < maxPendingResponses) :
    (swarmLoop settings).step state
        (.event (.requestReceived peer requestId request channel) now answers) =
      some ({ state with
          locals := { state.locals with
            channelCounter := (state.locals.channelCounter + 1) % 2 ^ 64
            pendingResponses := state.locals.pendingResponses.insert
              (nextId state.locals) (channel, now) }
          channels := channel :: state.channels },
        .store (nextId state.locals) channel ::
          announce state.locals (Events.sendInboundRequest answers.allocates
            peer requestId (nextId state.locals) request)) := by
  have admitted : ¬(state.exited = true ∨
      ∃ other ∈ some channel, other ∈ state.channels) := by
    simp [running, fresh]
  simp only [swarmLoop, turn, handleEvent, receiveRequest, Turn.channel]
  rw [if_neg admitted, if_neg (Nat.not_le_of_lt room)]
  rfl

theorem step_answer {id : String} {data : Bytes} {answers : Answers}
    {channel : ResponseChannel} {created : Instant}
    (running : state.exited = false)
    (found : state.locals.pendingResponses.lookup id =
      some (channel, created)) :
    (swarmLoop settings).step state
        (.command (some (.rpcSendResponse id data)) answers) =
      some ({ state with
          locals := { state.locals with
            pendingResponses := state.locals.pendingResponses.erase id } },
        [.sendResponse channel data]) := by
  simp [swarmLoop, turn, handleCommand, sendResponse, found, running,
    Turn.channel]

end Overwriting

def floodRequest (number : Nat) : Turn :=
  .event (.requestReceived requester "InboundRequestId(1)" [] ⟨number⟩) 0
    noAnswers

def Still (trace : History) : Prop :=
  ∀ entry ∈ trace, ∀ now, entry.1.now = some now → now = 0

theorem Still.snoc {trace : History} (still : Still trace)
    {entry : Turn × List Effect}
    (atZero : ∀ now, entry.1.now = some now → now = 0) :
    Still (trace ++ [entry]) := by
  intro other member
  rcases List.mem_append.mp member with earlier | last
  · exact still other earlier
  · rw [List.mem_singleton.mp last]
    exact atZero

theorem Still.timely {trace : History} (still : Still trace) : Timely trace := by
  have zeros : ∀ now ∈ trace.filterMap fun entry => entry.1.now, now = 0 := by
    intro now member
    obtain ⟨entry, inTrace, atTime⟩ := List.mem_filterMap.mp member
    exact still entry inTrace now atTime
  apply List.pairwise_of_forall_mem_list
  intro first isFirst second isSecond
  rw [zeros first isFirst]
  exact Nat.zero_le second

theorem floodRequest_now {number : Nat} :
    ∀ now, (floodRequest number).now = some now → now = 0 := by
  intro now atTime
  cases atTime
  rfl

def opening : Turn × List Effect :=
  (floodRequest 0, [.store (channelId 1) ⟨0⟩])

/-- After the first request, so many others have come and been answered. -/
structure Flooded (count : Nat) (later : History) (state : State) : Prop where
  run : (swarmLoop lanSettings).Run (opening :: later) state
  running : state.exited = false
  handler : state.locals.eventHandler = none
  counter : state.locals.channelCounter = (count + 1) % 2 ^ 64
  held : state.locals.pendingResponses.lookup (channelId 1) = some (⟨0⟩, 0)
  few : state.locals.pendingResponses.size ≤ 1
  channels : ∀ channel ∈ state.channels, channel.number ≤ count
  still : Still (opening :: later)
  unanswered : ⟨0⟩ ∉ answeredIn later

theorem flooded_zero : ∃ state, Flooded 0 [] state := by
  have taken := @step_accept lanSettings (swarmLoop lanSettings).init requester
    "InboundRequestId(1)" [] ⟨0⟩ 0 noAnswers rfl List.not_mem_nil (by decide)
  refine ⟨_, Machine.Run.nil.snoc taken, rfl, rfl, rfl, rfl, by decide, ?_, ?_,
    List.not_mem_nil⟩
  · intro channel member
    cases List.mem_singleton.mp member
    exact Nat.le_refl 0
  · intro entry member
    rw [List.mem_singleton.mp member]
    exact floodRequest_now

theorem size_erase_insert_le {Value : Type} (dict : Dict String Value)
    (key : String) (value : Value) :
    Dict.size ((dict.insert key value).erase key) ≤ Dict.size dict := by
  rw [Dict.size_eq_length_keys, Dict.size_eq_length_keys, AList.keys_erase,
    AList.keys_insert, List.erase_cons_head]
  exact List.length_erase_le

def afterRequest (state : State) (number : Nat) : State :=
  { state with
    locals := { state.locals with
      channelCounter := (state.locals.channelCounter + 1) % 2 ^ 64
      pendingResponses := state.locals.pendingResponses.insert
        (nextId state.locals) (⟨number⟩, 0) }
    channels := ⟨number⟩ :: state.channels }

theorem Flooded.step_request {count number : Nat} {later : History}
    {state : State} (flooded : Flooded count later state)
    (fresh : (⟨number⟩ : ResponseChannel) ∉ state.channels) :
    (swarmLoop lanSettings).step state (floodRequest number) =
      some (afterRequest state number,
        [.store (nextId state.locals) ⟨number⟩]) := by
  have room : state.locals.pendingResponses.size < maxPendingResponses :=
    Nat.lt_of_le_of_lt flooded.few (by decide)
  have quiet : ∀ message, announce state.locals message = [] := by
    intro message
    rw [announce, flooded.handler]
    rfl
  rw [floodRequest, step_accept flooded.running fresh room, quiet]
  rfl

/-- One more request with its answer, before the counter comes round. -/
theorem Flooded.succ {count : Nat} {later : History} {state : State}
    (flooded : Flooded count later state) (early : count + 1 < 2 ^ 64) :
    ∃ more next, Flooded (count + 1) more next := by
  have counter : state.locals.channelCounter = (1 + count) % 2 ^ 64 := by
    rw [flooded.counter, Nat.add_comm]
  have different := nextId_ne counter early
  have fresh : (⟨count + 1⟩ : ResponseChannel) ∉ state.channels := by
    intro known
    exact Nat.not_succ_le_self count (flooded.channels _ known)
  have accepted := flooded.step_request fresh
  have answered := @step_answer lanSettings (afterRequest state (count + 1))
    (nextId state.locals) [] noAnswers ⟨count + 1⟩ 0 flooded.running
    (AList.lookup_insert _)
  have run := (flooded.run.snoc accepted).snoc answered
  rw [List.cons_append, List.cons_append] at run
  refine ⟨_, _, run, flooded.running, flooded.handler, ?_, ?_, ?_, ?_, ?_, ?_⟩
  · simp only [afterRequest, counter]
    omega
  · rw [Dict.lookup_erase_ite, if_neg different.symm, afterRequest,
      Dict.lookup_insert_ite, if_neg different.symm]
    exact flooded.held
  · exact (size_erase_insert_le _ _ _).trans flooded.few
  · intro channel member
    rcases List.mem_cons.mp member with same | known
    · rw [same]
    · exact Nat.le_succ_of_le (flooded.channels channel known)
  · apply (flooded.still.snoc floodRequest_now).snoc
    intro now impossible
    cases impossible
  · rw [answeredIn_snoc, answeredIn_snoc]
    intro member
    rcases List.mem_append.mp member with earlier | last
    · rcases List.mem_append.mp earlier with earlier | impossible
      · exact flooded.unanswered earlier
      · cases impossible
    · cases List.mem_singleton.mp last

theorem exists_flooded (count : Nat) (early : count < 2 ^ 64) :
    ∃ later state, Flooded count later state := by
  induction count with
  | zero =>
      obtain ⟨state, flooded⟩ := flooded_zero
      exact ⟨[], state, flooded⟩
  | succ count induction =>
      obtain ⟨later, state, flooded⟩ := induction (Nat.lt_of_succ_lt early)
      exact flooded.succ early

theorem counterWrap_loses_request :
    ¬ ∀ trace state, (swarmLoop lanSettings).Run trace state → Timely trace →
      ∀ earlier entry later, trace = earlier ++ entry :: later →
        ∀ id channel created, Effect.store id channel ∈ entry.2 →
          entry.1.now = some created →
            state.locals.pendingResponses.lookup id = some (channel, created) ∨
              Settled later channel created := by
  intro claimed
  obtain ⟨later, state, flooded⟩ := exists_flooded (2 ^ 64 - 1) (by decide)
  have fresh : (⟨2 ^ 64⟩ : ResponseChannel) ∉ state.channels := by
    intro known
    exact absurd (flooded.channels _ known) (by decide)
  have accepted := flooded.step_request fresh
  have run := flooded.run.snoc accepted
  have still : Still (opening :: later ++ [(floodRequest (2 ^ 64),
      [.store (nextId state.locals) ⟨2 ^ 64⟩])]) :=
    flooded.still.snoc floodRequest_now
  rw [List.cons_append] at run still
  have same : nextId state.locals = channelId 1 := by
    rw [nextId, flooded.counter]
    rfl
  rcases claimed _ _ run still.timely [] opening _ rfl _ _ 0
    List.mem_cons_self rfl with held | isAnswered | ⟨now, _, member, old⟩
  · rw [afterRequest, same, Dict.lookup_insert_ite, if_pos rfl] at held
    cases held
  · rw [answeredIn_snoc] at isAnswered
    rcases List.mem_append.mp isAnswered with earlier | impossible
    · exact flooded.unanswered earlier
    · cases impossible
  · have zero := still _ (List.mem_cons_of_mem _ member) now rfl
    subst zero
    exact absurd old (by decide)

end ExLibp2p.Native.SwarmLoop
