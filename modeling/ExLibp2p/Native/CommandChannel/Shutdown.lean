import ExLibp2p.Native.CommandChannel.Protocol

namespace ExLibp2p.Native.CommandChannel

open ExLibp2p.Data
open ExLibp2p.Native.RoutingTable (channelCapacity)
open ExLibp2p.Native.SwarmLoop
  (Settings Answers Effect Turn swarmLoop swarmLoop_step_eq_some lanSettings)

/-! The end of a node whose handle is gone. Both shutdown messages may be lost
in a full channel; what is left then is that no sender outlives the handle. -/

def ownedBy : Handle → List Sender
  | .starting => [.cmdTx, .handleTx]
  | .held => [.handleTx]
  | .dropping => [.handleTx]
  | .dropped => []

def isCommandTurn : Action → Bool
  | .turn (.command _ _) _ => true
  | _ => false

def commandTurns (trace : History) : Nat :=
  trace.countP fun entry => isCommandTurn entry.1

structure Orphanless (settings : Settings) (state : State) : Prop where
  ends : state.handle = .dropped →
    state.loop.exited = true ∨ .shutdown ∈ state.queue ∨ state.senders = []
  never_stuck : ¬(state.handle = .dropped ∧ state.queue = [] ∧
    state.senders ≠ [] ∧ state.loop.exited = false)
  queue_bounded : state.queue.length ≤ channelCapacity
  goes_on : state.handle = .dropped → state.loop.exited = false →
    ∀ answers, ((channel settings).step state
      (.turn (.command state.queue.head? answers) none)).isSome
  runs_dry : state.handle = .dropped →
    ∀ later next, (channel settings).Steps state later next →
      state.queue.length < commandTurns later → next.loop.exited = true

section Invariants

variable {settings : Settings} {trace : History} {state next : State}
  {action : Action} {output : Output}

theorem senders_preserved (owned : state.senders = ownedBy state.handle)
    (moves : Moves settings state next action output) :
    next.senders = ownedBy next.handle := by
  cases moves with
  | sent handle held plain alive room same kept =>
      subst same
      rw [held] at owned
      rcases kept with rfl | rfl
      · exact owned
      · exact owned
  | refused handle callers held cause same kept counted =>
      subst same
      rw [held] at owned
      rcases kept with rfl | rfl
      · exact owned
      · exact owned
  | started starting same =>
      subst same
      change state.senders.erase .cmdTx = _
      rw [owned, starting]
      rfl
  | released dropping same =>
      subst same
      change state.senders.erase .handleTx = _
      rw [owned, dropping]
      rfl
  | asked held carries alive room same =>
      subst same
      exact owned
  | turned dequeued stepped same =>
      subst same
      exact owned
  | left exited alive same =>
      subst same
      exact owned
  | woken settled same =>
      subst same
      exact owned

theorem length_of_dequeue {turn : Turn} {queue : List Command}
    (dequeued : state.dequeue turn = some queue) :
    state.queue.length = (commandOf turn).toList.length + queue.length := by
  rw [queue_of_dequeue dequeued, List.length_append]

theorem queue_preserved (bounded : state.queue.length ≤ channelCapacity)
    (moves : Moves settings state next action output) :
    next.queue.length ≤ channelCapacity := by
  cases moves with
  | sent handle held plain alive room same kept =>
      subst same
      rw [List.length_append]
      exact room
  | asked held carries alive room same =>
      subst same
      rw [List.length_append]
      exact room
  | @turned turn panics queue loop effects dequeued stepped same =>
      subst same
      have shorter := length_of_dequeue dequeued
      change queue.length ≤ channelCapacity
      omega
  | left exited alive same =>
      subst same
      exact Nat.zero_le _
  | refused handle callers held cause same kept counted =>
      subst same
      exact bounded
  | started starting same =>
      subst same
      exact bounded
  | released dropping same =>
      subst same
      exact bounded
  | woken settled same =>
      subst same
      exact bounded

theorem senders_of_run (run : (channel settings).Run trace state) :
    state.senders = ownedBy state.handle := by
  refine run.invariant (fun _ state =>
    state.senders = ownedBy state.handle) rfl ?_
  intro trace state action next output earlier owned taken
  exact senders_preserved owned (.of_step taken)

theorem queue_of_run (run : (channel settings).Run trace state) :
    state.queue.length ≤ channelCapacity := by
  refine run.invariant (fun _ state =>
    state.queue.length ≤ channelCapacity) (Nat.zero_le _) ?_
  intro trace state action next output earlier bounded taken
  exact queue_preserved bounded (.of_step taken)

@[simp] theorem commandTurns_snoc (entry : Action × Output) :
    commandTurns (trace ++ [entry]) =
      commandTurns trace + if isCommandTurn entry.1 then 1 else 0 := by
  simp [commandTurns]

/-- A turn of the command branch shortens the queue or ends the loop. -/
theorem turned_shorter (panics : Option Nat) {turn : Turn}
    {queue : List Command} {loop : SwarmLoop.State} {effects : List Effect}
    (dequeued : state.dequeue turn = some queue)
    (stepped : (swarmLoop settings).step state.loop turn =
      some (loop, effects)) :
    (if isCommandTurn (.turn turn panics) then 1 else 0) + queue.length ≤
      state.queue.length ∨ loop.exited = true := by
  have length := length_of_dequeue dequeued
  cases turn with
  | tick now =>
      exact .inl (by simpa [isCommandTurn, commandOf] using length.ge)
  | event event now answers =>
      exact .inl (by simpa [isCommandTurn, commandOf] using length.ge)
  | command command answers =>
      cases command with
      | some command =>
          exact .inl (by simpa [isCommandTurn, commandOf] using length.ge)
      | none =>
          refine .inr ?_
          rcases swarmLoop_step_eq_some stepped with
            ⟨-, locals, -, turned⟩ | ⟨exited, -⟩
          · cases turned
          · exact exited

/-- What has been taken since the drop, as long as the loop runs. -/
structure Drying (length : Nat) (later : History) (state : State) : Prop where
  dropped : state.handle = .dropped
  shorter : commandTurns later + state.queue.length ≤ length ∨
    state.loop.exited = true

theorem Drying.preserved {length : Nat} (drying : Drying length trace state)
    (moves : Moves settings state next action output) :
    Drying length (trace ++ [(action, output)]) next := by
  have dropped := drying.dropped
  cases moves with
  | sent handle held plain alive room same kept =>
      rw [held] at dropped
      cases dropped
  | asked held carries alive room same =>
      rw [held] at dropped
      cases dropped
  | refused handle callers held cause same kept counted =>
      rw [held] at dropped
      cases dropped
  | started starting same =>
      rw [starting] at dropped
      cases dropped
  | released dropping same =>
      rw [dropping] at dropped
      cases dropped
  | @turned turn panics queue loop effects dequeued stepped same =>
      subst same
      refine ⟨dropped, ?_⟩
      rw [commandTurns_snoc]
      rcases drying.shorter with shorter | exited
      · rcases turned_shorter panics dequeued stepped with
          less | exited
        · refine .inl ?_
          change commandTurns trace + (if isCommandTurn (.turn turn panics)
            then 1 else 0) + queue.length ≤ length
          omega
        · refine .inr ?_
          simp [State.turned, exited]
      · rw [running_of_step stepped] at exited
        cases exited
  | left exited alive same =>
      subst same
      exact ⟨dropped, .inr exited⟩
  | woken settled same =>
      subst same
      refine ⟨dropped, ?_⟩
      rw [commandTurns_snoc]
      exact drying.shorter

theorem drying_of_steps {later : History} (dropped : state.handle = .dropped)
    (steps : (channel settings).Steps state later next) :
    Drying state.queue.length later next := by
  induction steps with
  | nil => exact ⟨dropped, .inl (Nat.le_of_eq (Nat.zero_add _))⟩
  | snoc earlier taken induction => exact induction.preserved (.of_step taken)

theorem step_next {answers : Answers} (running : state.loop.exited = false)
    (lonely : state.senders = []) :
    ((channel settings).step state
      (.turn (.command state.queue.head? answers) none)).isSome := by
  have looped : ∀ command, ∃ result, (swarmLoop settings).step state.loop
      (.command command answers) = some result := by
    intro command
    simp only [swarmLoop, running, SwarmLoop.Turn.channel]
    split
    · rename_i impossible
      simp at impossible
    · split
      · exact ⟨_, rfl⟩
      · exact ⟨_, rfl⟩
  have dequeues : ∃ queue, state.dequeue (.command state.queue.head? answers) =
      some queue := by
    cases whole : state.queue with
    | nil => exact ⟨[], by simp [State.dequeue, whole, lonely]⟩
    | cons first rest => exact ⟨rest, by simp [State.dequeue, whole]⟩
  obtain ⟨queue, dequeued⟩ := dequeues
  obtain ⟨result, stepped⟩ := looped state.queue.head?
  simp [channel, dequeued, stepped]

theorem swarm_never_orphaned (run : (channel settings).Run trace state) :
    Orphanless settings state := by
  have owned := senders_of_run run
  have lonely : state.handle = .dropped → state.senders = [] := by
    intro dropped
    rw [owned, dropped]
    rfl
  refine
    { ends := ?_
      never_stuck := ?_
      queue_bounded := queue_of_run run
      goes_on := ?_
      runs_dry := ?_ }
  · intro dropped
    exact .inr (.inr (lonely dropped))
  · intro stuck
    exact stuck.2.2.1 (lonely stuck.1)
  · intro dropped running answers
    exact step_next running (lonely dropped)
  · intro dropped later next steps many
    rcases (drying_of_steps dropped steps).shorter with shorter | exited
    · omega
    · exact exited

end Invariants

def filled (count : Nat) : State :=
  { (channel lanSettings).init with
    handle := .held
    senders := [.handleTx]
    queue := List.replicate count .dhtBootstrap }

theorem trySend_filled {count : Nat} (room : count < channelCapacity) :
    (filled count).trySend .dhtBootstrap = .ok (filled (count + 1)) := by
  have short : ¬channelCapacity ≤ (filled count).queue.length := by
    rw [filled, List.length_replicate]
    exact Nat.not_le_of_lt room
  have alive : ¬(!(filled count).receiver) = true := Bool.false_ne_true
  rw [State.trySend, if_neg alive, if_neg short, filled, filled,
    List.replicate_succ']

theorem trySend_full (command : Command) :
    (filled channelCapacity).trySend command = .error .channelFull := by
  have full : channelCapacity ≤ (filled channelCapacity).queue.length := by
    rw [filled, List.length_replicate]
  rw [State.trySend, if_neg (by decide), if_pos full]

theorem run_filled (count : Nat) (room : count ≤ channelCapacity) :
    ∃ trace, (channel lanSettings).Run trace (filled count) := by
  induction count with
  | zero =>
      have taken : (channel lanSettings).step (channel lanSettings).init
          .startReturns = some (filled 0, .quiet) := rfl
      exact ⟨_, Machine.Run.nil.snoc taken⟩
  | succ count induction =>
      obtain ⟨trace, run⟩ := induction (Nat.le_of_succ_le room)
      have taken : (channel lanSettings).step (filled count)
          (.sendTyped .dhtBootstrap) =
          some (filled (count + 1), .sent .dhtBootstrap (.ok ())) := by
        change some ((filled count).sendTyped .dhtBootstrap) = _
        rw [State.sendTyped, trySend_filled room]
      exact ⟨_, run.snoc taken⟩

theorem swarm_never_orphaned_full :
    ∃ trace state, (channel lanSettings).Run (trace ++
        [(.stopNode, .sent .shutdown (.error .channelFull))] ++
        [(.dropHandle, .sent .shutdown (.error .channelFull))] ++
        [(.releaseHandle, .quiet)]) state ∧
      state.handle = .dropped ∧ state.queue.length = channelCapacity ∧
      Orphanless lanSettings state := by
  obtain ⟨trace, run⟩ := run_filled channelCapacity (Nat.le_refl _)
  have stopped : (channel lanSettings).step (filled channelCapacity)
      .stopNode = some (filled channelCapacity,
        .sent .shutdown (.error .channelFull)) := by
    change some ((filled channelCapacity).sendTyped .shutdown) = _
    rw [State.sendTyped, trySend_full]
  have dropped : (channel lanSettings).step (filled channelCapacity)
      .dropHandle = some ({ filled channelCapacity with handle := .dropping },
        .sent .shutdown (.error .channelFull)) := by
    have unused : (filled channelCapacity).handle = .held ∧
        (filled channelCapacity).calls.entries = [] := ⟨rfl, rfl⟩
    simp only [channel, State.sendTyped, trySend_full]
    rw [if_pos unused]
  have released : (channel lanSettings).step
      { filled channelCapacity with handle := .dropping } .releaseHandle =
        some ({ filled channelCapacity with handle := .dropped, senders := [] },
          .quiet) := rfl
  have whole := ((run.snoc stopped).snoc dropped).snoc released
  have full : (filled channelCapacity).queue.length = channelCapacity := by
    rw [filled, List.length_replicate]
  exact ⟨trace, _, whole, rfl, full, swarm_never_orphaned whole⟩

end ExLibp2p.Native.CommandChannel
