import ExLibp2p.Native.CommandChannel.Protocol

namespace ExLibp2p.Native.CommandChannel

open ExLibp2p.Data
open ExLibp2p.Erlang
open ExLibp2p.Native.Policy
open ExLibp2p.Native.SwarmLoop
  (Settings Answers Effect Turn Locals Instant swarmLoop swarmLoop_step_eq_some
    announce announcedId nextId lanSettings noAnswers requester step_movement)

/-! Events on their way to the Node process, which registers itself after
`start_node` has returned. Each arm sends under `if let Some(ref pid)`. -/

/-- The term that `events.rs` makes of an event. A request that is turned away
does not get there. -/
def translation (locals : Locals) (answers : Answers) :
    SwarmEvent → Option Term
  | .requestReceived peer requestId request _ =>
      if locals.pendingResponses.size ≥ maxPendingResponses then none
      else
        some (Events.sendInboundRequest answers.allocates peer requestId
          (nextId locals) request)
  | .responseReceived peer requestId response =>
      some (Events.sendOutboundResponse answers.allocates peer requestId
        response)
  | .mdnsDiscovered peers => Events.sendPeersDiscovered peers
  | .mdnsExpired => none
  | event => some (Events.handleSwarmEvent answers.allocates event)

section Arms

variable {settings : Settings} {locals : Locals} {now : Instant}
  {answers : Answers} {event : SwarmEvent} {pid : LocalPid} {message : Term}

theorem announce_of_some (handler : locals.eventHandler = some pid) :
    announce locals message = [.send pid message] := by
  rw [announce, handler]
  rfl

theorem mem_announce (handler : locals.eventHandler = some pid) :
    Effect.send pid message ∈ announce locals message := by
  rw [announce_of_some handler]
  exact List.mem_cons_self

theorem announce_of_none (handler : locals.eventHandler = none) :
    announce locals message = [] := by
  rw [announce, handler]
  rfl

theorem send_of_translation (handler : locals.eventHandler = some pid)
    (translated : translation locals answers event = some message) :
    Effect.send pid message ∈
      (SwarmLoop.handleEvent settings locals now answers event).2 := by
  cases event with
  | requestReceived peer requestId request channel =>
      simp only [translation] at translated
      split at translated
      · cases translated
      · rename_i room
        cases translated
        simp only [SwarmLoop.handleEvent, SwarmLoop.receiveRequest]
        rw [if_neg room]
        exact List.mem_cons_of_mem _ (mem_announce handler)
  | mdnsDiscovered peers =>
      simp only [translation] at translated
      simp only [SwarmLoop.handleEvent, SwarmLoop.discoverPeers, translated,
        Option.map_some, Option.getD_some]
      exact List.mem_append_right _ (mem_announce handler)
  | mdnsExpired => cases translated
  | _ =>
      cases translated
      exact mem_announce handler

theorem no_send_of_handleEvent (handler : locals.eventHandler = none) :
    Effect.send pid message ∉
      (SwarmLoop.handleEvent settings locals now answers event).2 := by
  have silent : ∀ other, Effect.send pid message ∉ announce locals other := by
    intro other
    rw [announce_of_none handler]
    exact List.not_mem_nil
  cases event with
  | requestReceived peer requestId request channel =>
      simp only [SwarmLoop.handleEvent, SwarmLoop.receiveRequest]
      split
      · simp
      · simp [silent]
  | mdnsDiscovered peers =>
      simp only [SwarmLoop.handleEvent, SwarmLoop.discoverPeers]
      intro member
      rcases List.mem_append.mp member with dialled | announced
      · obtain ⟨pair, -, inPair⟩ := List.mem_flatMap.mp dialled
        simp only [SwarmLoop.whenKademlia] at inPair
        split at inPair
        · split at inPair <;> simp at inPair
        · split at inPair <;> simp at inPair
      · cases translated : Events.sendPeersDiscovered peers with
        | none =>
            rw [translated] at announced
            cases announced
        | some other =>
            rw [translated] at announced
            exact silent other announced
  | mdnsExpired => exact List.not_mem_nil
  | _ => exact silent _

end Arms

def effectsBy : Output → List Effect
  | .turned _ effects => effects
  | _ => []

/-- While the loop runs, it has a handler exactly if it has taken a
registration. -/
structure Registers (trace : History) (state : State) : Prop where
  handler : state.loop.exited = false →
    ∀ pid, state.loop.locals.eventHandler = some pid →
      .registerEventHandler pid ∈ executed trace
  noHandler : state.loop.exited = false →
    state.loop.locals.eventHandler = none →
      ∀ pid, .registerEventHandler pid ∉ executed trace

theorem eventHandler_handleEvent (settings : Settings) (locals : Locals)
    (now : Instant) (answers : Answers) (event : SwarmEvent) :
    (SwarmLoop.handleEvent settings locals now answers event).1.eventHandler =
      locals.eventHandler := by
  cases event with
  | requestReceived peer requestId request channel =>
      simp only [SwarmLoop.handleEvent, SwarmLoop.receiveRequest]
      split
      · rfl
      · rfl
  | _ => rfl

theorem eventHandler_of_turn {settings : Settings} {locals next : Locals}
    {turn : Turn} {effects : List Effect}
    (turned : SwarmLoop.turn settings locals turn = some (next, effects)) :
    (∃ pid, commandOf turn = some (.registerEventHandler pid) ∧
      next.eventHandler = some pid) ∨
    ((∀ pid, commandOf turn ≠ some (.registerEventHandler pid)) ∧
      next.eventHandler = locals.eventHandler) := by
  cases turn with
  | tick now =>
      cases turned
      exact .inr ⟨by simp [commandOf], rfl⟩
  | event event now answers =>
      have same := eventHandler_handleEvent settings locals now answers event
      rw [Option.some.inj turned] at same
      exact .inr ⟨by simp [commandOf], same⟩
  | command command answers =>
      cases command with
      | none => cases turned
      | some command =>
          cases command with
          | registerEventHandler pid =>
              cases turned
              exact .inl ⟨pid, rfl, rfl⟩
          | shutdown => cases turned
          | rpcSendResponse channelId data =>
              refine .inr ⟨by simp [commandOf], ?_⟩
              simp only [SwarmLoop.turn, SwarmLoop.handleCommand,
                SwarmLoop.sendResponse, Option.some.injEq] at turned
              split at turned
              · cases turned
                rfl
              · cases turned
                rfl
          | _ =>
              cases turned
              exact .inr ⟨by simp [commandOf], rfl⟩

section Runs

variable {settings : Settings} {trace : History} {state next : State}
  {action : Action} {output : Output}

theorem locals_of_step {loop after : SwarmLoop.State} {turn : Turn}
    {effects : List Effect}
    (stepped : (swarmLoop settings).step loop turn = some (after, effects))
    (running : after.exited = false) :
    SwarmLoop.turn settings loop.locals turn = some (after.locals, effects) := by
  rcases swarmLoop_step_eq_some stepped with ⟨-, locals, rfl, turned⟩ | ⟨ended, -⟩
  · exact turned
  · rw [running] at ended
    cases ended

theorem Registers.keep (registers : Registers trace state)
    (takes : takenBy output = []) (loop : next.loop = state.loop) :
    Registers (trace ++ [(action, output)]) next where
  handler := by
    rw [executed_snoc, takes, List.append_nil, loop]
    exact registers.handler
  noHandler := by
    rw [executed_snoc, takes, List.append_nil, loop]
    exact registers.noHandler

theorem Registers.turned {turn : Turn} {panics : Option Nat}
    {queue : List Command} {loop : SwarmLoop.State} {effects : List Effect}
    (registers : Registers trace state)
    (stepped : (swarmLoop settings).step state.loop turn =
      some (loop, effects)) :
    Registers (trace ++ [(.turn turn panics,
        .turned (commandOf turn) (panics.elim effects effects.take))])
      ({ state with queue }.turned (commandOf turn) panics (loop, effects)).1 := by
  have before := running_of_step stepped
  have quiet : ∀ pid, commandOf turn ≠ some (.registerEventHandler pid) →
      .registerEventHandler pid ∈ executed (trace ++ [(.turn turn panics,
        .turned (commandOf turn) (panics.elim effects effects.take))]) →
      .registerEventHandler pid ∈ executed trace := by
    intro pid other member
    rw [executed_snoc] at member
    rcases List.mem_append.mp member with earlier | last
    · exact earlier
    · exact absurd (Option.mem_toList.mp last) other
  refine ⟨?_, ?_⟩
  · intro running pid handler
    have after : loop.exited = false := (Bool.or_eq_false_iff.mp running).1
    rw [executed_snoc]
    rcases eventHandler_of_turn (locals_of_step stepped after) with
      ⟨registered, taken, same⟩ | ⟨-, same⟩
    · refine List.mem_append_right _ (Option.mem_toList.mpr ?_)
      cases handler.symm.trans same
      exact taken
    · exact List.mem_append_left _
        (registers.handler before pid (same.symm.trans handler))
  · intro running handler pid
    have after : loop.exited = false := (Bool.or_eq_false_iff.mp running).1
    rcases eventHandler_of_turn (locals_of_step stepped after) with
      ⟨registered, -, same⟩ | ⟨other, same⟩
    · cases handler.symm.trans same
    · intro member
      exact registers.noHandler before (same.symm.trans handler) pid
        (quiet pid (other pid) member)

theorem Moves.turned_or_idle (moves : Moves settings state next action output) :
    (∃ turn panics queue loop effects,
      action = .turn turn panics ∧
        output = .turned (commandOf turn)
          (panics.elim effects effects.take) ∧
        (swarmLoop settings).step state.loop turn = some (loop, effects) ∧
        next = ({ state with queue }.turned (commandOf turn) panics
          (loop, effects)).1) ∨
    (takenBy output = [] ∧ next.loop = state.loop) := by
  cases moves with
  | turned dequeued stepped same =>
      exact .inl ⟨_, _, _, _, _, rfl, rfl, stepped, same⟩
  | sent handle held plain alive room same kept =>
      exact .inr ⟨rfl, by rw [same]⟩
  | asked held carries alive room same => exact .inr ⟨rfl, by rw [same]⟩
  | refused handle callers held cause same kept counted =>
      exact .inr ⟨rfl, by rw [same]⟩
  | started starting same => exact .inr ⟨rfl, by rw [same]⟩
  | released dropping same => exact .inr ⟨rfl, by rw [same]⟩
  | left exited alive same => exact .inr ⟨rfl, by rw [same, State.leave]⟩
  | woken settled same => exact .inr ⟨rfl, by rw [same]⟩

theorem Registers.preserved (registers : Registers trace state)
    (moves : Moves settings state next action output) :
    Registers (trace ++ [(action, output)]) next := by
  rcases moves.turned_or_idle with
    ⟨turn, panics, queue, loop, effects, rfl, rfl, stepped, rfl⟩ |
      ⟨takes, loop⟩
  · exact registers.turned stepped
  · exact registers.keep takes loop

theorem Registers.of_run (run : (channel settings).Run trace state) :
    Registers trace state := by
  refine run.invariant Registers ⟨?_, ?_⟩ ?_
  · intro _ pid impossible
    cases impossible
  · intro _ _ pid impossible
    cases impossible
  · intro trace state action next output earlier registers taken
    exact registers.preserved (.of_step taken)

/-- Where a request was accepted after the registration, the Node was told its
identifier in the same turn. -/
def Announced (node : LocalPid) (trace : History) (id : String)
    (channel : ResponseChannel) : Prop :=
  ∃ earlier entry later, trace = earlier ++ entry :: later ∧
    Effect.store id channel ∈ effectsBy entry.2 ∧
    (.registerEventHandler node ∈ executed earlier →
      ∃ message, announcedId message = some (.text id) ∧
        Effect.send node message ∈ effectsBy entry.2)

/-- What becomes of the events that the loop takes from the swarm. -/
structure Delivery (settings : Settings) (node : LocalPid) (trace : History)
    (state : State) : Prop where
  taken : ∀ earlier event now answers effects later,
    trace = earlier ++
      (.turn (.event event now answers) none, .turned none effects) :: later →
        ∃ before, (channel settings).Run earlier before ∧
          (.registerEventHandler node ∈ executed earlier → ∀ message,
            translation before.loop.locals answers event = some message →
              Effect.send node message ∈ effects) ∧
          (.registerEventHandler node ∉ executed earlier →
            ∀ pid message, Effect.send pid message ∉ effects)
  announced : state.loop.exited = false → ∀ id channel created,
    state.loop.locals.pendingResponses.lookup id = some (channel, created) →
      Announced node trace id channel

theorem Announced.snoc {node : LocalPid} {id : String}
    {channel : ResponseChannel} (announced : Announced node trace id channel)
    (last : Action × Output) :
    Announced node (trace ++ [last]) id channel := by
  obtain ⟨earlier, entry, later, rfl, isStored, told⟩ := announced
  exact ⟨earlier, entry, later ++ [last], by simp, isStored, told⟩

def RegistersOnly (node : LocalPid) (trace : History) : Prop :=
  ∀ pid, .registerEventHandler pid ∈ enqueued trace → pid = node

theorem handler_of_registered {node : LocalPid}
    (run : (channel settings).Run trace state)
    (only : RegistersOnly node trace) (running : state.loop.exited = false)
    (registered : .registerEventHandler node ∈ executed trace) :
    state.loop.locals.eventHandler = some node := by
  have registers := Registers.of_run run
  cases handler : state.loop.locals.eventHandler with
  | none => exact absurd registered (registers.noHandler running handler node)
  | some pid =>
      have taken := registers.handler running pid handler
      have inOrder := (Ledger.of_run run).order.inOrder
      rw [only pid (inOrder.subset taken)]

theorem handler_of_unregistered {node : LocalPid}
    (run : (channel settings).Run trace state)
    (only : RegistersOnly node trace) (running : state.loop.exited = false)
    (unregistered : .registerEventHandler node ∉ executed trace) :
    state.loop.locals.eventHandler = none := by
  have registers := Registers.of_run run
  cases handler : state.loop.locals.eventHandler with
  | none => rfl
  | some pid =>
      have taken := registers.handler running pid handler
      have inOrder := (Ledger.of_run run).order.inOrder
      rw [only pid (inOrder.subset taken)] at taken
      contradiction

theorem effects_of_event {loop after : SwarmLoop.State} {event : SwarmEvent}
    {now : Instant} {answers : Answers} {effects : List Effect}
    (stepped : (swarmLoop settings).step loop (.event event now answers) =
      some (after, effects)) :
    effects = (SwarmLoop.handleEvent settings loop.locals now answers event).2 := by
  rcases swarmLoop_step_eq_some stepped with
    ⟨-, locals, -, turned⟩ | ⟨-, -, impossible⟩
  · rw [Option.some.inj turned]
  · cases impossible

theorem RegistersOnly.earlier {node : LocalPid} {first second : History}
    (only : RegistersOnly node (first ++ second)) : RegistersOnly node first := by
  intro pid member
  apply only pid
  rw [enqueued, List.flatMap_append]
  exact List.mem_append_left _ member

theorem sends_of_event {node : LocalPid} {event : SwarmEvent} {now : Instant}
    {answers : Answers} {after : SwarmLoop.State} {effects : List Effect}
    (run : (channel settings).Run trace state)
    (only : RegistersOnly node trace)
    (stepped : (swarmLoop settings).step state.loop
      (.event event now answers) = some (after, effects)) :
    (.registerEventHandler node ∈ executed trace → ∀ message,
        translation state.loop.locals answers event = some message →
          Effect.send node message ∈ effects) ∧
      (.registerEventHandler node ∉ executed trace →
        ∀ pid message, Effect.send pid message ∉ effects) := by
  have running := running_of_step stepped
  rw [effects_of_event stepped]
  constructor
  · intro registered message translated
    exact send_of_translation (handler_of_registered run only running registered)
      translated
  · intro unregistered pid message
    exact no_send_of_handleEvent
      (handler_of_unregistered run only running unregistered)

theorem Announced.of_turn {node : LocalPid} {turn : Turn}
    {after : SwarmLoop.State} {effects : List Effect} {taken : Option Command}
    {id : String} {channel : ResponseChannel} {created : Instant}
    (run : (CommandChannel.channel settings).Run trace state)
    (only : RegistersOnly node trace)
    (announced : ∀ id channel created,
      state.loop.locals.pendingResponses.lookup id = some (channel, created) →
        Announced node trace id channel)
    (stepped : (swarmLoop settings).step state.loop turn =
      some (after, effects))
    (found : after.locals.pendingResponses.lookup id =
      some (channel, created)) :
    Announced node (trace ++ [(.turn turn none, .turned taken effects)]) id
      channel := by
  obtain ⟨-, -, movement⟩ := step_movement stepped
  generalize after.locals = locals at movement found
  cases movement with
  | evicted now =>
      rw [SwarmLoop.evict, Dict.lookup_retain, Option.filter_eq_some_iff] at found
      exact (announced id channel created found.1).snoc _
  | answered isPending =>
      exact (announced id channel created (Dict.lookup_of_erase found)).snoc _
  | unknown missing => exact (announced id channel created found).snoc _
  | refused => exact (announced id channel created found).snoc _
  | other noRequest pending counter quiet =>
      rw [pending] at found
      exact (announced id channel created found).snoc _
  | accepted room =>
      rw [Dict.lookup_insert_ite] at found
      split at found
      · rename_i same
        cases found
        subst same
        refine ⟨trace, _, [], rfl, List.mem_cons_self, ?_⟩
        intro registered
        have handler := handler_of_registered run only
          (running_of_step stepped) registered
        exact ⟨_, rfl, List.mem_cons_of_mem _ (mem_announce handler)⟩
      · exact (announced id channel created found).snoc _

theorem announced_of_run {node : LocalPid}
    (run : (channel settings).Run trace state)
    (only : RegistersOnly node trace) (running : state.loop.exited = false)
    {id : String} {channel : ResponseChannel} {created : Instant}
    (found : state.loop.locals.pendingResponses.lookup id =
      some (channel, created)) :
    Announced node trace id channel := by
  revert only running id channel created
  induction run with
  | nil =>
      intro only running id channel created impossible
      cases impossible
  | @snoc trace state next action output earlier taken induction =>
      intro only running id channel created found
      have onlyBefore := only.earlier
      rcases (Moves.of_step taken).turned_or_idle with
        ⟨turn, panics, queue, loop, effects, rfl, rfl, stepped, rfl⟩ |
          ⟨-, loop⟩
      · have before := running_of_step stepped
        cases panics with
        | some count =>
            rw [State.turned] at running
            simp at running
        | none =>
            exact .of_turn earlier onlyBefore
              (fun id channel created => induction onlyBefore before) stepped
              found
      · rw [loop] at running found
        exact (induction onlyBefore running found).snoc _

theorem events_delivered {node : LocalPid}
    (run : (channel settings).Run trace state)
    (only : RegistersOnly node trace) : Delivery settings node trace state where
  taken := by
    intro earlier event now answers effects later split
    subst split
    obtain ⟨before, after, reached, taken, -, -⟩ := run.step_of_mem
    refine ⟨before, reached, ?_⟩
    cases Moves.of_step taken with
    | turned dequeued stepped same =>
        exact sends_of_event reached only.earlier stepped
  announced := by
    intro running id channel created found
    exact announced_of_run run only running found

end Runs

def connected : SwarmEvent :=
  .connectionEstablished requester 1 false

def requested : SwarmEvent :=
  .requestReceived requester "InboundRequestId(1)" [7] ⟨0⟩

def happens (event : SwarmEvent) : Action :=
  .turn (.event event 0 noAnswers) none

def promptNode : List Action :=
  [.startReturns, .registerEventHandler 1, take (.registerEventHandler 1),
    happens connected, happens requested]

theorem events_delivered_promptNode :
    ∃ trace state, (channel lanSettings).Run trace state ∧
      trace.map Prod.fst = promptNode ∧ RegistersOnly 1 trace ∧
      Delivery lanSettings 1 trace state := by
  obtain ⟨trace, state, started, run, inputs⟩ := Machine.exists_run_of_start
    (by decide : ((channel lanSettings).start promptNode).isSome)
  have sent : ((channel lanSettings).start promptNode).map
      (fun result => enqueued result.1) = some [.registerEventHandler 1] := rfl
  have only : RegistersOnly 1 trace := by
    rw [started, Option.map_some, Option.some.injEq] at sent
    intro pid member
    rw [sent] at member
    cases List.mem_singleton.mp member
    rfl
  exact ⟨trace, state, run, inputs, only, events_delivered run only⟩

/-- Every event is sent to the Node, whenever the loop takes it. -/
def EverySent (settings : Settings) (node : LocalPid) (trace : History) :
    Prop :=
  ∀ earlier event now answers effects later before,
    trace = earlier ++
      (.turn (.event event now answers) none, .turned none effects) :: later →
        (channel settings).Run earlier before → ∀ message,
          translation before.loop.locals answers event = some message →
            message ≠ Events.libp2pNoop → Effect.send node message ∈ effects

def EveryPendingAnnounced (node : LocalPid) (trace : History) (state : State) :
    Prop :=
  ∀ id channel created,
    state.loop.locals.pendingResponses.lookup id = some (channel, created) →
      ∃ entry ∈ trace, ∃ message, announcedId message = some (.text id) ∧
        Effect.send node message ∈ effectsBy entry.2

def lateNode : List Action :=
  [.startReturns, happens connected, happens requested,
    .registerEventHandler 1, take (.registerEventHandler 1)]

def lateHistory : History :=
  [(.startReturns, .quiet),
    (happens connected, .turned none []),
    (happens requested, .turned none [.store "ch-1" ⟨0⟩]),
    (.registerEventHandler 1, .sent (.registerEventHandler 1) (.ok ())),
    (take (.registerEventHandler 1),
      .turned (some (.registerEventHandler 1)) [])]

theorem run_lateHistory :
    ∃ state, (channel lanSettings).Run lateHistory state ∧
      state.loop.locals.pendingResponses.lookup "ch-1" = some (⟨0⟩, 0) := by
  have started : ∃ state,
      (channel lanSettings).start lateNode = some (lateHistory, state) ∧
        state.loop.locals.pendingResponses.lookup "ch-1" = some (⟨0⟩, 0) :=
    ⟨_, rfl, rfl⟩
  obtain ⟨state, executed, found⟩ := started
  exact ⟨state, Machine.Run.nil.append_exec executed, found⟩

theorem early_events_lost :
    ∃ trace state, (channel lanSettings).Run trace state ∧
      trace.map Prod.fst = lateNode ∧ RegistersOnly 1 trace ∧
      ¬EverySent lanSettings 1 trace ∧
      ¬EveryPendingAnnounced 1 trace state := by
  obtain ⟨state, run, found⟩ := run_lateHistory
  refine ⟨lateHistory, state, run, rfl, ?_, ?_, ?_⟩
  · intro pid member
    cases List.mem_singleton.mp member
    rfl
  · intro claimed
    have start : (channel lanSettings).step (channel lanSettings).init
        .startReturns = some ({ (channel lanSettings).init with
          handle := .held, senders := [.handleTx] }, .quiet) := rfl
    have sent := claimed [(.startReturns, .quiet)] connected 0 noAnswers [] _
      _ rfl (Machine.Run.nil.snoc start) _ rfl (by intro same; cases same)
    cases sent
  · intro claimed
    obtain ⟨entry, member, message, -, sent⟩ := claimed "ch-1" ⟨0⟩ 0 found
    have silent : ∀ entry ∈ lateHistory,
        Effect.send 1 message ∉ effectsBy entry.2 := by
      simp [lateHistory, effectsBy]
    exact silent entry member sent

end ExLibp2p.Native.CommandChannel
