import ExLibp2p.Native.CommandChannel.Ledger
import ExLibp2p.Native.SwarmLoop.Safety

namespace ExLibp2p.Native.CommandChannel

open ExLibp2p.Data
open ExLibp2p.Native.RoutingTable (channelCapacity)
open ExLibp2p.Native.SwarmLoop
  (Settings Answers Effect Turn swarmLoop request lanSettings noAnswers)

structure Protocol (settings : Settings) (trace : History) (state : State) :
    Prop where
  executed_in_order : executed trace <+: enqueued trace
  nothing_after_shutdown : ∀ earlier later,
    enqueued trace = earlier ++ .shutdown :: later →
      (executed trace).length ≤ earlier.length + 1
  refused_enqueues_nothing : ∀ action command error next,
    (channel settings).step state action =
      some (next, .sent command (.error error)) →
        next.queue = state.queue ∧ next.calls = state.calls ∧
          ((error = .nodeStopped ∧ state.receiver = false) ∨
            (error = .channelFull ∧ state.queue.length ≥ channelCapacity))
  failed_without_reply : ∀ caller error next,
    (channel settings).step state (.wake caller) =
      some (next, .returned caller (.error error)) →
        error = .nodeStopped ∧ state.loop.exited = true ∧
          ∀ value, (caller, value) ∉ repliesIn trace
  returned_reply : ∀ caller value next,
    (channel settings).step state (.wake caller) =
      some (next, .returned caller (.ok value)) →
        (caller, value) ∈ repliesIn trace
  replied_once : ((repliesIn trace).map Prod.fst).Nodup
  replied_when_taken : ∀ entry ∈ trace, ∀ caller value,
    (caller, value) ∈ repliesBy entry.2 →
      ∃ command answers panics,
        entry.1 = .turn (.command (some command) answers) panics ∧
          command.replyTo = some caller ∧
          Effect.reply caller value ∈ request settings answers command
  returned_once : (returnedIn trace).Nodup
  waiting_is_queued : ∀ caller,
    state.calls.lookup caller = some .waiting →
      ∃ command ∈ state.queue, command.replyTo = some caller
  none_waits_after_exit : state.receiver = false →
    ∀ caller, state.calls.lookup caller ≠ some .waiting
  exit_completes : state.loop.exited = true → state.receiver = true →
    ∃ next, (channel settings).step state .leave = some (next, .quiet) ∧
      ∀ caller, next.calls.lookup caller ≠ some .waiting

/-- Nothing stands behind a command that is only ever the last one taken. -/
theorem length_le_of_last {Value : Type} {front whole earlier later : List Value}
    {last : Value} (inOrder : front <+: whole) (isLast : last ∉ front.dropLast)
    (split : whole = earlier ++ last :: later) :
    front.length ≤ earlier.length + 1 := by
  obtain ⟨rest, joined⟩ := inOrder
  rw [split] at joined
  rcases List.append_eq_append_iff.mp joined with
    ⟨middle, whole, -⟩ | ⟨middle, rfl, remaining⟩
  · rw [whole, List.length_append]
    omega
  · cases middle with
    | nil => simp
    | cons first middle =>
        obtain ⟨rfl, -⟩ := List.cons.inj remaining
        cases middle with
        | nil => simp
        | cons second middle =>
            refine absurd ?_ isLast
            simp

theorem mem_replies {effects : List Effect} {caller : ReplyTo} {value : Reply} :
    (caller, value) ∈ replies effects ↔ Effect.reply caller value ∈ effects := by
  rw [replies, List.mem_filterMap]
  constructor
  · intro found
    obtain ⟨effect, member, same⟩ := found
    cases effect with
    | reply other sent =>
        cases same
        exact member
    | _ => cases same
  · intro member
    exact ⟨_, member, rfl⟩

theorem Moves.reply_origin {settings : Settings} {state next : State}
    {action : Action} {output : Output} {caller : ReplyTo} {value : Reply}
    (moves : Moves settings state next action output)
    (isReply : (caller, value) ∈ repliesBy output) :
    ∃ command answers panics,
      action = .turn (.command (some command) answers) panics ∧
        command.replyTo = some caller ∧
        Effect.reply caller value ∈ request settings answers command := by
  cases moves with
  | @turned turn panics queue loop effects dequeued stepped same =>
      have performed : (caller, value) ∈ replies effects := by
        cases panics with
        | none => exact isReply
        | some count =>
            rw [repliesBy, mem_replies] at isReply
            exact mem_replies.mpr (List.mem_of_mem_take isReply)
      rcases replies_of_step stepped with
        ⟨-, silent⟩ | ⟨command, answers, own, sent, rfl, carries, rfl, single⟩
      · rw [silent] at performed
        cases performed
      · refine ⟨command, answers, panics, rfl, ?_, mem_replies.mp performed⟩
        rw [single] at performed
        cases List.mem_singleton.mp performed
        exact carries
  | _ => cases isReply

section Runs

variable {settings : Settings} {trace : History} {state : State}

theorem not_waiting_of_gone (run : (channel settings).Run trace state)
    (gone : state.receiver = false) (caller : ReplyTo) :
    state.calls.lookup caller ≠ some .waiting := by
  have ledger := Ledger.of_run run
  intro waits
  have queued := (ledger.cells.waiting caller).mp waits
  rw [(ledger.order.gone gone).1] at queued
  cases queued

theorem command_protocol (run : (channel settings).Run trace state) :
    Protocol settings trace state := by
  have ledger := Ledger.of_run run
  refine
    { executed_in_order := ledger.order.inOrder
      nothing_after_shutdown := ?_
      refused_enqueues_nothing := ?_
      failed_without_reply := ?_
      returned_reply := ?_
      replied_once := ledger.replied.once
      replied_when_taken := ?_
      returned_once := ledger.returned.once
      waiting_is_queued := ?_
      none_waits_after_exit := not_waiting_of_gone run
      exit_completes := ?_ }
  · intro earlier later split
    exact length_le_of_last ledger.order.inOrder ledger.order.shutdownLast split
  · intro action command error next taken
    cases Moves.of_step taken with
    | refused handle callers held cause same kept counted =>
        subst same
        exact ⟨rfl, rfl, cause⟩
  · intro caller error next taken
    cases Moves.of_step taken with
    | woken settled same =>
        rcases settled with ⟨value, -, impossible⟩ | ⟨found, isError⟩
        · cases impossible
        · cases isError
          obtain ⟨exited, silent⟩ := ledger.cells.closed caller found
          refine ⟨rfl, exited, ?_⟩
          intro value member
          exact silent (List.mem_map_of_mem member)
  · intro caller value next taken
    cases Moves.of_step taken with
    | woken settled same =>
        rcases settled with ⟨sent, found, isReply⟩ | ⟨-, impossible⟩
        · cases isReply
          exact ledger.cells.replied caller value found
        · cases impossible
  · intro entry member caller value isReply
    obtain ⟨earlier, later, split⟩ := List.append_of_mem member
    subst split
    obtain ⟨before, after, -, taken, -, -⟩ := run.step_of_mem
    exact (Moves.of_step taken).reply_origin isReply
  · intro caller waits
    exact List.mem_filterMap.mp ((ledger.cells.waiting caller).mp waits)
  · intro exited alive
    have taken : (channel settings).step state .leave =
        some (state.leave, .quiet) := by
      simp [channel, exited, alive]
    exact ⟨state.leave, taken, not_waiting_of_gone (run.snoc taken) rfl⟩

end Runs

def take (command : Command) : Action :=
  .turn (.command (some command) noAnswers) none

/-- Two queries around a shutdown: the first is answered, the second is dropped
with the receiver, and a third one finds the channel closed. -/
def conversation : List Action :=
  [.startReturns,
    .registerEventHandler 1,
    .queryTyped .connectedPeers,
    .sendTyped .dhtBootstrap,
    take (.registerEventHandler 1),
    .stopNode,
    take (.connectedPeers 0),
    .queryTyped .listeningAddrs,
    .wake 0,
    take .dhtBootstrap,
    take .shutdown,
    .leave,
    .wake 1,
    .queryTyped .bandwidthStats,
    .dropHandle,
    .releaseHandle]

theorem command_protocol_conversation :
    ∃ trace state, (channel lanSettings).Run trace state ∧
      trace.map Prod.fst = conversation ∧
      Protocol lanSettings trace state := by
  obtain ⟨trace, state, -, run, inputs⟩ := Machine.exists_run_of_start
    (by decide : ((channel lanSettings).start conversation).isSome)
  exact ⟨trace, state, run, inputs, command_protocol run⟩

end ExLibp2p.Native.CommandChannel
