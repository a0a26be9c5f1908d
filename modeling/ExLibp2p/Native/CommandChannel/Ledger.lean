import ExLibp2p.Native.CommandChannel.Steps
import Mathlib.Data.List.Nodup

namespace ExLibp2p.Native.CommandChannel

open ExLibp2p.Data
open ExLibp2p.Native.RoutingTable (channelCapacity)
open ExLibp2p.Native.SwarmLoop (Settings Answers Effect Turn swarmLoop request)

abbrev History := List (Action × Output)

def sentBy : Output → List Command
  | .sent command (.ok ()) => [command]
  | _ => []

def takenBy : Output → List Command
  | .turned taken _ => taken.toList
  | _ => []

def repliesBy : Output → List (ReplyTo × Reply)
  | .turned _ effects => replies effects
  | _ => []

def returnedBy : Output → List ReplyTo
  | .returned caller _ => [caller]
  | _ => []

def enqueued (trace : History) : List Command :=
  trace.flatMap fun entry => sentBy entry.2

def executed (trace : History) : List Command :=
  trace.flatMap fun entry => takenBy entry.2

def repliesIn (trace : History) : List (ReplyTo × Reply) :=
  trace.flatMap fun entry => repliesBy entry.2

def returnedIn (trace : History) : List ReplyTo :=
  trace.flatMap fun entry => returnedBy entry.2

section Histories

variable (trace : History) (entry : Action × Output)

@[simp] theorem enqueued_snoc :
    enqueued (trace ++ [entry]) = enqueued trace ++ sentBy entry.2 := by
  simp [enqueued]

@[simp] theorem executed_snoc :
    executed (trace ++ [entry]) = executed trace ++ takenBy entry.2 := by
  simp [executed]

@[simp] theorem repliesIn_snoc :
    repliesIn (trace ++ [entry]) = repliesIn trace ++ repliesBy entry.2 := by
  simp [repliesIn]

@[simp] theorem returnedIn_snoc :
    returnedIn (trace ++ [entry]) = returnedIn trace ++ returnedBy entry.2 := by
  simp [returnedIn]

end Histories

def senders (commands : List Command) : List ReplyTo :=
  commands.filterMap Command.replyTo

@[simp] theorem senders_append (first second : List Command) :
    senders (first ++ second) = senders first ++ senders second :=
  List.filterMap_append

theorem senders_singleton (command : Command) :
    senders [command] = command.replyTo.toList := by
  cases carries : command.replyTo with
  | none => simp [senders, carries]
  | some caller => simp [senders, carries]

theorem senders_toList (command : Option Command) :
    senders command.toList = (command.bind Command.replyTo).toList := by
  cases command with
  | none => rfl
  | some command => exact senders_singleton command

theorem queue_of_dequeue {state : State} {turn : Turn} {queue : List Command}
    (dequeued : state.dequeue turn = some queue) :
    state.queue = (commandOf turn).toList ++ queue := by
  cases turn with
  | tick now => exact Option.some.inj dequeued
  | event event now answers => exact Option.some.inj dequeued
  | command command answers =>
      cases command with
      | none =>
          simp only [State.dequeue] at dequeued
          split at dequeued
          · rename_i empty
            cases dequeued
            exact empty.1
          · contradiction
      | some command =>
          simp only [State.dequeue] at dequeued
          split at dequeued
          · contradiction
          · rename_i first rest whole
            split at dequeued
            · rename_i same
              cases dequeued
              rw [whole, same]
              rfl
            · contradiction

structure Order (trace : History) (state : State) : Prop where
  account : state.receiver = true →
    enqueued trace = executed trace ++ state.queue
  gone : state.receiver = false →
    state.queue = [] ∧ state.loop.exited = true
  inOrder : executed trace <+: enqueued trace
  shutdownLast : .shutdown ∉ (executed trace).dropLast
  shutdownExits : .shutdown ∈ executed trace → state.loop.exited = true

theorem Order.init (settings : Settings) :
    Order [] (channel settings).init where
  account := fun _ => rfl
  gone := by
    intro impossible
    cases impossible
  inOrder := List.nil_prefix
  shutdownLast := List.not_mem_nil
  shutdownExits := by
    intro impossible
    cases impossible

section Preservation

variable {trace : History} {state next : State} {action : Action}
  {output : Output}

theorem Order.idle (order : Order trace state) (sends : sentBy output = [])
    (takes : takenBy output = []) (receiver : next.receiver = state.receiver)
    (queue : next.queue = state.queue) (loop : next.loop = state.loop) :
    Order (trace ++ [(action, output)]) next where
  account := by
    rw [receiver, queue, enqueued_snoc, executed_snoc, sends, takes,
      List.append_nil, List.append_nil]
    exact order.account
  gone := by
    rw [receiver, queue, loop]
    exact order.gone
  inOrder := by
    rw [enqueued_snoc, executed_snoc, sends, takes, List.append_nil,
      List.append_nil]
    exact order.inOrder
  shutdownLast := by
    rw [executed_snoc, takes, List.append_nil]
    exact order.shutdownLast
  shutdownExits := by
    rw [executed_snoc, takes, List.append_nil, loop]
    exact order.shutdownExits

theorem Order.send {command : Command} (order : Order trace state)
    (alive : state.receiver = true) (receiver : next.receiver = state.receiver)
    (queue : next.queue = state.queue ++ [command])
    (loop : next.loop = state.loop) :
    Order (trace ++ [(action, .sent command (.ok ()))]) next where
  account := by
    intro _
    rw [enqueued_snoc, executed_snoc, queue, order.account alive]
    simp [sentBy, takenBy]
  gone := by
    rw [receiver, alive]
    intro impossible
    cases impossible
  inOrder := by
    rw [enqueued_snoc, executed_snoc]
    simpa [takenBy] using List.prefix_append_of_prefix order.inOrder
  shutdownLast := by
    rw [executed_snoc]
    simpa [takenBy] using order.shutdownLast
  shutdownExits := by
    rw [executed_snoc, loop]
    simpa [takenBy] using order.shutdownExits

theorem Order.turned {settings : Settings} {turn : Turn} {panics : Option Nat}
    {queue : List Command} {loop : SwarmLoop.State} {effects : List Effect}
    (order : Order trace state) (dequeued : state.dequeue turn = some queue)
    (stepped : (swarmLoop settings).step state.loop turn =
      some (loop, effects)) :
    Order (trace ++ [(.turn turn panics,
        .turned (commandOf turn) (panics.elim effects effects.take))])
      ({ state with queue }.turned (commandOf turn) panics (loop, effects)).1 := by
  have running := running_of_step stepped
  have alive : state.receiver = true := by
    cases receiver : state.receiver with
    | true => rfl
    | false =>
        rw [(order.gone receiver).2] at running
        cases running
  have unstopped : Command.shutdown ∉ executed trace := by
    intro member
    rw [order.shutdownExits member] at running
    cases running
  have account := order.account alive
  rw [queue_of_dequeue dequeued, ← List.append_assoc] at account
  refine ⟨?_, ?_, ?_, ?_, ?_⟩
  · intro _
    rw [enqueued_snoc, executed_snoc]
    simpa [sentBy, takenBy, State.turned] using account
  · rw [State.turned, alive]
    intro impossible
    cases impossible
  · rw [enqueued_snoc, executed_snoc]
    exact ⟨queue, by simpa [sentBy, takenBy] using account.symm⟩
  · rw [executed_snoc, takenBy]
    cases taken : commandOf turn with
    | none =>
        rw [Option.toList_none, List.append_nil]
        exact order.shutdownLast
    | some command =>
        rw [Option.toList_some, List.dropLast_concat]
        exact unstopped
  · rw [executed_snoc]
    intro member
    rcases List.mem_append.mp member with earlier | last
    · contradiction
    · cases turn with
      | tick now => cases last
      | event event now answers => cases last
      | command command answers =>
          cases Option.mem_toList.mp last
          simp [State.turned, exited_of_shutdown stepped]

theorem Order.left (order : Order trace state)
    (exited : state.loop.exited = true) :
    Order (trace ++ [(.leave, .quiet)]) state.leave where
  account := by
    intro impossible
    cases impossible
  gone := fun _ => ⟨rfl, exited⟩
  inOrder := by
    rw [enqueued_snoc, executed_snoc]
    simpa [sentBy, takenBy] using order.inOrder
  shutdownLast := by
    rw [executed_snoc]
    simpa [takenBy] using order.shutdownLast
  shutdownExits := fun _ => exited

theorem Order.preserved {settings : Settings} (order : Order trace state)
    (moves : Moves settings state next action output) :
    Order (trace ++ [(action, output)]) next := by
  cases moves with
  | sent handle held plain alive room same kept =>
      subst same
      exact order.send alive rfl rfl rfl
  | asked held carries alive room same =>
      subst same
      exact order.send alive rfl rfl rfl
  | refused handle callers held cause same kept counted =>
      subst same
      exact order.idle rfl rfl rfl rfl rfl
  | started starting same =>
      subst same
      exact order.idle rfl rfl rfl rfl rfl
  | released dropping same =>
      subst same
      exact order.idle rfl rfl rfl rfl rfl
  | turned dequeued stepped same =>
      subst same
      exact order.turned dequeued stepped
  | left exited alive same =>
      subst same
      exact order.left exited
  | woken settled same =>
      subst same
      exact order.idle rfl rfl rfl rfl rfl

structure Numbers (trace : History) (state : State) : Prop where
  bounded : ∀ caller ∈ senders (enqueued trace), caller < state.callers
  distinct : (senders (enqueued trace)).Nodup

theorem Numbers.keep (numbers : Numbers trace state)
    (plain : senders (sentBy output) = [])
    (counted : state.callers ≤ next.callers) :
    Numbers (trace ++ [(action, output)]) next := by
  have same : senders (enqueued (trace ++ [(action, output)])) =
      senders (enqueued trace) := by
    rw [enqueued_snoc, senders_append, plain, List.append_nil]
  refine ⟨?_, ?_⟩
  · intro caller member
    rw [same] at member
    exact Nat.lt_of_lt_of_le (numbers.bounded caller member) counted
  · rw [same]
    exact numbers.distinct

theorem Numbers.ask {command : Command} (numbers : Numbers trace state)
    (carries : command.replyTo = some state.callers)
    (counted : next.callers = state.callers + 1) :
    Numbers (trace ++ [(action, .sent command (.ok ()))]) next := by
  have grown : senders (enqueued (trace ++
      [(action, .sent command (.ok ()))])) =
      senders (enqueued trace) ++ [state.callers] := by
    rw [enqueued_snoc, senders_append, sentBy, senders_singleton, carries]
    rfl
  refine ⟨?_, ?_⟩
  · intro caller member
    rw [counted]
    rw [grown] at member
    rcases List.mem_append.mp member with earlier | last
    · exact Nat.lt_succ_of_lt (numbers.bounded caller earlier)
    · rw [List.mem_singleton.mp last]
      exact Nat.lt_succ_self _
  · rw [grown, ← List.concat_eq_append]
    apply List.Nodup.concat _ numbers.distinct
    intro earlier
    exact Nat.lt_irrefl _ (numbers.bounded _ earlier)

theorem Numbers.preserved {settings : Settings} (numbers : Numbers trace state)
    (moves : Moves settings state next action output) :
    Numbers (trace ++ [(action, output)]) next := by
  cases moves with
  | sent handle held plain alive room same kept =>
      subst same
      refine numbers.keep ?_ (Nat.le_refl _)
      rw [sentBy, senders_singleton, plain]
      rfl
  | asked held carries alive room same =>
      subst same
      exact numbers.ask carries rfl
  | refused handle callers held cause same kept counted =>
      subst same
      exact numbers.keep rfl counted
  | started starting same =>
      subst same
      exact numbers.keep rfl (Nat.le_refl _)
  | released dropping same =>
      subst same
      exact numbers.keep rfl (Nat.le_refl _)
  | turned dequeued stepped same =>
      subst same
      exact numbers.keep rfl (Nat.le_refl _)
  | left exited alive same =>
      subst same
      exact numbers.keep rfl (Nat.le_refl _)
  | woken settled same =>
      subst same
      exact numbers.keep rfl (Nat.le_refl _)

structure Replied (trace : History) : Prop where
  once : ((repliesIn trace).map Prod.fst).Nodup
  taken : ∀ caller ∈ (repliesIn trace).map Prod.fst,
    caller ∈ senders (executed trace)

theorem Replied.keep (replied : Replied trace) (none : repliesBy output = []) :
    Replied (trace ++ [(action, output)]) := by
  have same : repliesIn (trace ++ [(action, output)]) = repliesIn trace := by
    rw [repliesIn_snoc, none, List.append_nil]
  refine ⟨?_, ?_⟩
  · rw [same]
    exact replied.once
  · rw [same, executed_snoc, senders_append]
    intro caller member
    exact List.mem_append_left _ (replied.taken caller member)

theorem Replied.fresh {caller : ReplyTo} {rest : List ReplyTo}
    (replied : Replied trace)
    (distinct : (senders (executed trace) ++ caller :: rest).Nodup) :
    caller ∉ (repliesIn trace).map Prod.fst := by
  intro member
  have earlier := replied.taken caller member
  exact (List.nodup_append.mp distinct).2.2 caller earlier caller
    List.mem_cons_self rfl

structure Cells (trace : History) (state : State) : Prop where
  waiting : ∀ caller, state.calls.lookup caller = some .waiting ↔
    caller ∈ senders state.queue
  replied : ∀ caller value, state.calls.lookup caller = some (.replied value) →
    (caller, value) ∈ repliesIn trace
  closed : ∀ caller, state.calls.lookup caller = some .closed →
    state.loop.exited = true ∧ caller ∉ (repliesIn trace).map Prod.fst
  known : ∀ caller, state.callers ≤ caller → state.calls.lookup caller = none

theorem Cells.init (settings : Settings) :
    Cells [] (channel settings).init where
  waiting := by
    intro caller
    refine iff_of_false ?_ List.not_mem_nil
    intro impossible
    cases impossible
  replied := by
    intro caller value impossible
    cases impossible
  closed := by
    intro caller impossible
    cases impossible
  known := fun _ _ => rfl

theorem Cells.keep (cells : Cells trace state)
    (none : repliesBy output = [])
    (exits : state.loop.exited = true → next.loop.exited = true)
    (counted : state.callers ≤ next.callers)
    (waiting : ∀ caller, next.calls.lookup caller = some .waiting ↔
      caller ∈ senders next.queue)
    (settled : ∀ caller cell, next.calls.lookup caller = some cell →
      cell = .waiting ∨ state.calls.lookup caller = some cell)
    (known : ∀ caller, next.callers ≤ caller →
      state.calls.lookup caller = .none → next.calls.lookup caller = .none) :
    Cells (trace ++ [(action, output)]) next where
  waiting := waiting
  replied := by
    intro caller value found
    rw [repliesIn_snoc, none, List.append_nil]
    rcases settled caller _ found with impossible | before
    · cases impossible
    · exact cells.replied caller value before
  closed := by
    intro caller found
    rw [repliesIn_snoc, none, List.append_nil]
    rcases settled caller _ found with impossible | before
    · cases impossible
    · obtain ⟨exited, silent⟩ := cells.closed caller before
      exact ⟨exits exited, silent⟩
  known := by
    intro caller large
    exact known caller large (cells.known caller (counted.trans large))

theorem Cells.idle (cells : Cells trace state)
    (none : repliesBy output = [])
    (exits : state.loop.exited = true → next.loop.exited = true)
    (counted : state.callers ≤ next.callers)
    (waits : senders next.queue = senders state.queue)
    (calls : next.calls = state.calls) :
    Cells (trace ++ [(action, output)]) next := by
  refine cells.keep none exits counted ?_ ?_ ?_
  · rw [calls, waits]
    exact cells.waiting
  · rw [calls]
    exact fun _ _ found => .inr found
  · rw [calls]
    exact fun _ _ gone => gone

theorem Cells.ask {command : Command} (cells : Cells trace state)
    (carries : command.replyTo = some state.callers)
    (queue : next.queue = state.queue ++ [command])
    (calls : next.calls = state.calls.insert state.callers .waiting)
    (loop : next.loop = state.loop)
    (counted : next.callers = state.callers + 1) :
    Cells (trace ++ [(action, .sent command (.ok ()))]) next := by
  have lookup : ∀ caller, next.calls.lookup caller =
      if caller = state.callers then some .waiting
      else state.calls.lookup caller := by
    intro caller
    rw [calls, Dict.lookup_insert_ite]
  refine cells.keep rfl (by rw [loop]; exact id) (by omega) ?_ ?_ ?_
  · intro caller
    rw [lookup, queue, senders_append, senders_singleton, carries,
      Option.toList_some, List.mem_append, List.mem_singleton]
    split
    · rename_i same
      exact iff_of_true rfl (.inr same)
    · rename_i different
      rw [cells.waiting]
      exact (or_iff_left different).symm
  · intro caller cell found
    rw [lookup] at found
    split at found
    · exact .inl (Option.some.inj found).symm
    · exact .inr found
  · intro caller large gone
    rw [counted] at large
    rw [lookup, if_neg (Nat.ne_of_gt large)]
    exact gone

theorem Cells.woken {caller : ReplyTo} {result : Except NifError Reply}
    (cells : Cells trace state)
    (settled : state.calls.lookup caller ≠ some .waiting) :
    Cells (trace ++ [(.wake caller, .returned caller result)])
      { state with calls := state.calls.erase caller } := by
  refine cells.keep rfl id (Nat.le_refl _) ?_ ?_ ?_
  · intro each
    rw [Dict.lookup_erase_ite, ← cells.waiting]
    split
    · rename_i same
      subst same
      exact iff_of_false (by intro impossible; cases impossible) settled
    · rfl
  · intro each cell found
    exact .inr (Dict.lookup_of_erase found)
  · intro each _ gone
    rw [Dict.lookup_erase_ite]
    split
    · rfl
    · exact gone

theorem Cells.left (cells : Cells trace state) (replied : Replied trace)
    (account : enqueued trace = executed trace ++ state.queue)
    (distinct : (senders (enqueued trace)).Nodup)
    (exited : state.loop.exited = true) :
    Cells (trace ++ [(.leave, .quiet)]) state.leave := by
  have closing := Oneshots.lookup_closeAll state.calls (senders state.queue)
  rw [account, senders_append] at distinct
  refine ⟨?_, ?_, ?_, ?_⟩
  · intro caller
    refine iff_of_false ?_ List.not_mem_nil
    intro waits
    rcases closing caller with kept | ⟨-, -, isClosed⟩
    · have queued := (cells.waiting caller).mp (kept.symm.trans waits)
      exact Oneshots.not_waiting_closeAll queued waits
    · rw [State.leave] at waits
      cases isClosed.symm.trans waits
  · intro caller value found
    rw [repliesIn_snoc]
    rcases closing caller with kept | ⟨-, -, isClosed⟩
    · exact List.mem_append_left _
        (cells.replied caller value (kept.symm.trans found))
    · cases isClosed.symm.trans found
  · intro caller found
    refine ⟨exited, ?_⟩
    rw [repliesIn_snoc]
    change caller ∉ (repliesIn trace ++ []).map Prod.fst
    rw [List.append_nil]
    rcases closing caller with kept | ⟨queued, -, -⟩
    · exact (cells.closed caller (kept.symm.trans found)).2
    · intro member
      exact (List.nodup_append.mp distinct).2.2 caller
        (replied.taken caller member) caller queued rfl
  · intro caller large
    have gone := cells.known caller large
    rcases closing caller with kept | ⟨-, waits, -⟩
    · exact kept.trans gone
    · rw [gone] at waits
      cases waits

section Turns

variable {settings : Settings} {turn : Turn} {panics : Option Nat}
  {queue : List Command} {loop : SwarmLoop.State} {effects : List Effect}

theorem replies_performed
    (stepped : (swarmLoop settings).step state.loop turn =
      some (loop, effects)) (panics : Option Nat) :
    ((commandOf turn).bind Command.replyTo = none ∧
      replies (panics.elim effects effects.take) = []) ∨
    ∃ caller value, (commandOf turn).bind Command.replyTo = some caller ∧
      (replies (panics.elim effects effects.take) = [(caller, value)] ∨
        (replies (panics.elim effects effects.take) = [] ∧
          panics.isSome = true)) := by
  have shorter : replies (panics.elim effects effects.take) <+:
      replies effects := by
    cases panics with
    | none => exact List.prefix_refl _
    | some count => exact (List.take_prefix count effects).filterMap asReply
  rcases replies_of_step stepped with
    ⟨plain, silent⟩ | ⟨command, answers, caller, value, rfl, carries, -, single⟩
  · rw [silent] at shorter
    exact .inl ⟨plain, List.prefix_nil.mp shorter⟩
  · refine .inr ⟨caller, value, carries, ?_⟩
    cases panics with
    | none => exact .inl single
    | some count =>
        rw [single] at shorter
        rcases List.prefix_cons_iff.mp shorter with none | ⟨rest, whole, more⟩
        · exact .inr ⟨none, rfl⟩
        · rw [List.prefix_nil.mp more] at whole
          exact .inl whole

theorem Replied.turned (replied : Replied trace)
    (stepped : (swarmLoop settings).step state.loop turn =
      some (loop, effects))
    (distinct : (senders (executed trace) ++
      senders (commandOf turn).toList).Nodup) :
    Replied (trace ++ [(.turn turn panics,
      .turned (commandOf turn) (panics.elim effects effects.take))]) := by
  rcases replies_performed stepped panics with
    ⟨-, silent⟩ | ⟨caller, value, carries, single | ⟨silent, -⟩⟩
  · exact replied.keep silent
  · rw [senders_toList, carries, Option.toList_some] at distinct
    have fresh := replied.fresh distinct
    have grown : repliesIn (trace ++ [(.turn turn panics,
        .turned (commandOf turn) (panics.elim effects effects.take))]) =
        repliesIn trace ++ [(caller, value)] := by
      rw [repliesIn_snoc, repliesBy, single]
    refine ⟨?_, ?_⟩
    · rw [grown, List.map_append, List.map_singleton, ← List.concat_eq_append]
      exact List.Nodup.concat fresh replied.once
    · rw [grown, List.map_append, executed_snoc, senders_append, takenBy,
        senders_toList, carries]
      intro each member
      rcases List.mem_append.mp member with earlier | last
      · exact List.mem_append_left _ (replied.taken each earlier)
      · exact List.mem_append_right _ last
  · exact replied.keep silent

/-- The query that a turn takes is replied to or dropped; it is the only one
whose channel changes. -/
theorem Cells.take {caller : ReplyTo} {final : Oneshot Reply}
    (cells : Cells trace state) (replied : Replied trace)
    (running : state.loop.exited = false)
    (queued : senders state.queue = caller :: senders next.queue)
    (distinct : (senders (executed trace) ++
      caller :: senders next.queue).Nodup)
    (counted : next.callers = state.callers)
    (lookup : ∀ each, next.calls.lookup each =
      if each = caller then some final else state.calls.lookup each)
    (outcome : (∃ value, final = .replied value ∧
        repliesBy output = [(caller, value)]) ∨
      (final = .closed ∧ repliesBy output = [] ∧ next.loop.exited = true)) :
    Cells (trace ++ [(action, output)]) next := by
  have waits : state.calls.lookup caller = some .waiting := by
    rw [cells.waiting, queued]
    exact List.mem_cons_self
  have unqueued : caller ∉ senders next.queue :=
    (List.nodup_cons.mp (List.nodup_append.mp distinct).2.1).1
  refine ⟨?_, ?_, ?_, ?_⟩
  · intro each
    rw [lookup]
    split
    · rename_i same
      refine iff_of_false ?_ (same ▸ unqueued)
      rcases outcome with ⟨value, rfl, -⟩ | ⟨rfl, -, -⟩
      · intro impossible
        cases impossible
      · intro impossible
        cases impossible
    · rename_i different
      rw [cells.waiting, queued, List.mem_cons]
      exact or_iff_right different
  · intro each value found
    rw [repliesIn_snoc]
    rw [lookup] at found
    split at found
    · rename_i same
      rcases outcome with ⟨sent, rfl, isReply⟩ | ⟨rfl, -, -⟩
      · cases found
        rw [isReply, same]
        exact List.mem_append_right _ List.mem_cons_self
      · cases found
    · exact List.mem_append_left _ (cells.replied each value found)
  · intro each found
    rw [lookup] at found
    split at found
    · rename_i same
      rcases outcome with ⟨sent, rfl, -⟩ | ⟨rfl, silent, exited⟩
      · cases found
      · refine ⟨exited, ?_⟩
        rw [repliesIn_snoc, silent, List.append_nil, same]
        exact replied.fresh distinct
    · rw [(cells.closed each found).1] at running
      cases running
  · intro each large
    rw [counted] at large
    have gone := cells.known each large
    rw [lookup]
    split
    · rename_i same
      rw [same, waits] at gone
      cases gone
    · exact gone

theorem Cells.turned (cells : Cells trace state) (replied : Replied trace)
    (dequeued : state.dequeue turn = some queue)
    (stepped : (swarmLoop settings).step state.loop turn =
      some (loop, effects))
    (distinct : (senders (executed trace) ++ senders state.queue).Nodup) :
    Cells (trace ++ [(.turn turn panics,
        .turned (commandOf turn) (panics.elim effects effects.take))])
      ({ state with queue }.turned (commandOf turn) panics (loop, effects)).1 := by
  have running := running_of_step stepped
  have split : senders state.queue =
      ((commandOf turn).bind Command.replyTo).toList ++ senders queue := by
    rw [queue_of_dequeue dequeued, senders_append, senders_toList]
  rcases replies_performed stepped panics with
    ⟨plain, silent⟩ | ⟨caller, value, carries, outcome⟩
  · rw [plain] at split
    refine cells.idle silent ?_ (Nat.le_refl _) split.symm ?_
    · intro exited
      rw [running] at exited
      cases exited
    · rw [State.turned, silent, plain]
      rfl
  · rw [carries] at split
    rw [split] at distinct
    have waits : state.calls.lookup caller = some .waiting := by
      rw [cells.waiting, split]
      exact List.mem_cons_self
    rcases outcome with single | ⟨silent, panicked⟩
    · refine cells.take replied running split distinct rfl (fun each => ?_)
        (.inl ⟨value, rfl, single⟩)
      simp only [State.turned, single, carries]
      change ((state.calls.send (caller, value)).close caller).lookup each = _
      rw [Oneshots.close_send waits]
      exact Oneshots.lookup_settle waits each
    · refine cells.take replied running split distinct rfl (fun each => ?_)
        (.inr ⟨rfl, silent, ?_⟩)
      · simp only [State.turned, silent, carries]
        exact Oneshots.lookup_settle waits each
      · rw [State.turned, panicked]
        exact Bool.or_true _

end Turns

structure Returned (trace : History) (state : State) : Prop where
  once : (returnedIn trace).Nodup
  gone : ∀ caller ∈ returnedIn trace,
    state.calls.lookup caller = none ∧ caller < state.callers

theorem Returned.keep (returned : Returned trace state)
    (none : returnedBy output = [])
    (counted : state.callers ≤ next.callers)
    (gone : ∀ caller < state.callers, state.calls.lookup caller = .none →
      next.calls.lookup caller = .none) :
    Returned (trace ++ [(action, output)]) next := by
  have same : returnedIn (trace ++ [(action, output)]) = returnedIn trace := by
    rw [returnedIn_snoc, none, List.append_nil]
  refine ⟨?_, ?_⟩
  · rw [same]
    exact returned.once
  · rw [same]
    intro caller member
    obtain ⟨absent, small⟩ := returned.gone caller member
    exact ⟨gone caller small absent, Nat.lt_of_lt_of_le small counted⟩

theorem Returned.woken {caller : ReplyTo} {result : Except NifError Reply}
    (returned : Returned trace state) (cells : Cells trace state)
    (found : state.calls.lookup caller ≠ none) :
    Returned (trace ++ [(.wake caller, .returned caller result)])
      { state with calls := state.calls.erase caller } := by
  refine ⟨?_, ?_⟩
  · rw [returnedIn_snoc, returnedBy, ← List.concat_eq_append]
    apply List.Nodup.concat _ returned.once
    intro earlier
    exact found (returned.gone caller earlier).1
  · rw [returnedIn_snoc, returnedBy]
    intro each member
    rw [Dict.lookup_erase_ite]
    split
    · rename_i same
      refine ⟨rfl, Nat.lt_of_not_le ?_⟩
      intro large
      exact found (cells.known caller (same ▸ large))
    · rename_i different
      rcases List.mem_append.mp member with earlier | last
      · exact returned.gone each earlier
      · exact absurd (List.mem_singleton.mp last) different

theorem settled_of_woken {caller : ReplyTo} {result : Except NifError Reply}
    (settled : (∃ value, state.calls.lookup caller = some (.replied value) ∧
        result = .ok value) ∨
      (state.calls.lookup caller = some .closed ∧
        result = .error .nodeStopped)) :
    state.calls.lookup caller ≠ none ∧
      state.calls.lookup caller ≠ some .waiting := by
  rcases settled with ⟨value, found, -⟩ | ⟨found, -⟩
  · simp [found]
  · simp [found]

structure Ledger (trace : History) (state : State) : Prop where
  order : Order trace state
  numbers : Numbers trace state
  replied : Replied trace
  cells : Cells trace state
  returned : Returned trace state

theorem Ledger.distinct (ledger : Ledger trace state)
    (alive : state.receiver = true) :
    (senders (executed trace) ++ senders state.queue).Nodup := by
  rw [← senders_append, ← ledger.order.account alive]
  exact ledger.numbers.distinct

theorem Ledger.alive (ledger : Ledger trace state)
    (running : state.loop.exited = false) : state.receiver = true := by
  cases receiver : state.receiver with
  | true => rfl
  | false =>
      rw [(ledger.order.gone receiver).2] at running
      cases running

theorem Ledger.idle (ledger : Ledger trace state)
    (order : Order (trace ++ [(action, output)]) next)
    (numbers : Numbers (trace ++ [(action, output)]) next)
    (unanswered : repliesBy output = []) (noReturn : returnedBy output = [])
    (loop : next.loop = state.loop) (counted : state.callers ≤ next.callers)
    (waits : senders next.queue = senders state.queue)
    (calls : next.calls = state.calls) :
    Ledger (trace ++ [(action, output)]) next := by
  refine ⟨order, numbers, ledger.replied.keep unanswered, ?_, ?_⟩
  · apply ledger.cells.idle unanswered _ counted waits calls
    rw [loop]
    exact id
  · apply ledger.returned.keep noReturn counted
    rw [calls]
    exact fun _ _ gone => gone

theorem Ledger.preserved {settings : Settings} (ledger : Ledger trace state)
    (moves : Moves settings state next action output) :
    Ledger (trace ++ [(action, output)]) next := by
  have order := ledger.order.preserved moves
  have numbers := ledger.numbers.preserved moves
  cases moves with
  | sent handle held plain alive room same kept =>
      subst same
      refine ledger.idle order numbers rfl rfl rfl (Nat.le_refl _) ?_ rfl
      rw [senders_append, senders_singleton, plain]
      exact List.append_nil _
  | asked held carries alive room same =>
      subst same
      refine ⟨order, numbers, ledger.replied.keep rfl,
        ledger.cells.ask carries rfl rfl rfl rfl, ?_⟩
      refine ledger.returned.keep rfl (Nat.le_succ _) ?_
      intro caller small gone
      rw [AList.lookup_insert_ne (Nat.ne_of_lt small)]
      exact gone
  | refused handle callers held cause same kept counted =>
      subst same
      exact ledger.idle order numbers rfl rfl rfl counted rfl rfl
  | started starting same =>
      subst same
      exact ledger.idle order numbers rfl rfl rfl (Nat.le_refl _) rfl rfl
  | released dropping same =>
      subst same
      exact ledger.idle order numbers rfl rfl rfl (Nat.le_refl _) rfl rfl
  | turned dequeued stepped same =>
      subst same
      have distinct := ledger.distinct (ledger.alive (running_of_step stepped))
      refine ⟨order, numbers, ledger.replied.turned stepped ?_,
        ledger.cells.turned ledger.replied dequeued stepped distinct, ?_⟩
      · rw [queue_of_dequeue dequeued, senders_append,
          ← List.append_assoc] at distinct
        exact (List.nodup_append.mp distinct).1
      · refine ledger.returned.keep rfl (Nat.le_refl _) ?_
        intro caller _ gone
        exact Oneshots.lookup_closeAll_none
          (Oneshots.lookup_sendAll_none gone _) _
  | left exited alive same =>
      subst same
      refine ⟨order, numbers, ledger.replied.keep rfl,
        ledger.cells.left ledger.replied (ledger.order.account alive)
          ledger.numbers.distinct exited, ?_⟩
      refine ledger.returned.keep rfl (Nat.le_refl _) ?_
      intro caller _ gone
      exact Oneshots.lookup_closeAll_none gone _
  | woken settled same =>
      subst same
      obtain ⟨found, unblocked⟩ := settled_of_woken settled
      exact ⟨order, numbers, ledger.replied.keep rfl,
        ledger.cells.woken unblocked, ledger.returned.woken ledger.cells found⟩

end Preservation

theorem Ledger.of_run {settings : Settings} {trace : History} {state : State}
    (run : (channel settings).Run trace state) : Ledger trace state := by
  refine run.invariant Ledger ?_ ?_
  · exact ⟨.init settings, ⟨by simp [enqueued, senders], List.nodup_nil⟩,
      ⟨List.nodup_nil, by simp [repliesIn]⟩, .init settings,
      ⟨List.nodup_nil, by simp [returnedIn]⟩⟩
  · intro trace state action next output earlier ledger taken
    exact ledger.preserved (.of_step taken)

end ExLibp2p.Native.CommandChannel
