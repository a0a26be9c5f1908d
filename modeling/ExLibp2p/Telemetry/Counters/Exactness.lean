import ExLibp2p.Telemetry.Counters.Prometheus
import Mathlib.Data.List.DropRight

namespace ExLibp2p.Telemetry.Counters

open ExLibp2p.Data

inductive Operation
  | execute (event : Event) (metadata : Metadata)
  | call (call : Call)
  | renderPrometheus
  | unknownCast

inductive Answer
  | silent
  | replied (reply : Reply)
  | rendered (text : Option String)

abbrev History := List (Operation × Answer)

def counterStore (uniqueInteger : Nat) : Machine State Operation Answer where
  init := (init uniqueInteger).2
  step := fun state operation =>
    match operation with
    | .execute event metadata =>
        (handleCast state (handleEvent event metadata)).map (·, .silent)
    | .call call =>
        let (reply, next) := handleCall state call
        some (next, .replied reply)
    | .renderPrometheus =>
        some (state, .rendered (doRenderPrometheus (userCounts state)))
    | .unknownCast => (handleCast state .unknown).map (·, .silent)

namespace Operation

def isReset : Operation → Bool
  | .call .reset => true
  | _ => false

def fires (event : Event) (result : ResultTag) : Operation → Bool
  | .execute fired metadata => fired = event ∧ resultTag metadata = result
  | _ => false

end Operation

def sinceReset (trace : History) : History :=
  trace.rtakeWhile fun entry => !entry.1.isReset

def occurrences (trace : History) (event : Event) (result : ResultTag) : Nat :=
  (sinceReset trace).countP fun entry => entry.1.fires event result

def tally (count : Nat) : Option Value :=
  if count = 0 then none else some (.integer count)

/-- The counters of a history, without the id of the handler. -/
structure Tallies (trace : History) (counts : Dict Key Value) : Prop where
  handler : counts.lookup .handlerId = none
  counters : ∀ event result,
    counts.lookup (.counter event result) =
      tally (occurrences trace event result)

structure Exact (uniqueInteger : Nat) (trace : History) (state : State) :
    Prop where
  snapshots : ∀ earlier answer later,
    trace = earlier ++ (.call .snapshot, answer) :: later →
      ∃ counts, answer = .replied (.counts counts) ∧ Tallies earlier counts
  renders : ∀ earlier answer later,
    trace = earlier ++ (.renderPrometheus, answer) :: later →
      ∃ counts text, answer = .rendered (some text) ∧
        Tallies earlier counts ∧
        (counts.size ≠ 0 → ∃ families, Exposes counts families text) ∧
        recover text = fun key => counts.lookup key
  handler : state.counts.lookup .handlerId =
    (counterStore uniqueInteger).init.counts.lookup .handlerId
  detaches : ∃ id, .attachMany id eventNames ∈ (init uniqueInteger).1 ∧
    terminate state = [.detach id]
  accepts : ∀ operation,
    ((counterStore uniqueInteger).step state operation).isSome

def FromCatalog (trace : History) : Prop :=
  ∀ event metadata answer, (.execute event metadata, answer) ∈ trace →
    event ∈ eventNames

structure Counted (uniqueInteger : Nat) (trace : History) (state : State) :
    Prop where
  handler : state.counts.lookup .handlerId =
    some (.text (handlerId uniqueInteger))
  counters : ∀ event result,
    state.counts.lookup (.counter event result) =
      tally (occurrences trace event result)

section Runs

variable {uniqueInteger : Nat} {trace : History} {state next : State}
  {operation : Operation} {answer : Answer}

theorem occurrences_append (entry : Operation × Answer) (event : Event)
    (result : ResultTag) :
    occurrences (trace ++ [entry]) event result =
      if entry.1.isReset then 0
      else occurrences trace event result +
        if entry.1.fires event result then 1 else 0 := by
  rw [occurrences, sinceReset, List.rtakeWhile_concat]
  cases entry.1.isReset with
  | true => rfl
  | false =>
      rw [if_pos (by rfl : (!false) = true), if_neg Bool.false_ne_true,
        List.countP_append, List.countP_singleton]
      rfl

theorem occurrences_quiet (entry : Operation × Answer)
    (noReset : entry.1.isReset = false)
    (quiet : ∀ event result, entry.1.fires event result = false)
    (event : Event) (result : ResultTag) :
    occurrences (trace ++ [entry]) event result =
      occurrences trace event result := by
  rw [occurrences_append, noReset, quiet]
  rfl

theorem handleCast_increment {event : Event} {result : ResultTag} {count : Nat}
    (found : state.counts.lookup (.counter event result) = tally count) :
    handleCast state (.increment event result) =
      some { state with
        counts := state.counts.insert (.counter event result)
          (.integer (count + 1)) } := by
  cases count with
  | zero => simp only [handleCast, found, tally, if_pos]
  | succ count =>
      simp only [handleCast, found, tally, if_neg (Nat.succ_ne_zero count)]
      rfl

theorem Counted.cleared {id : Value} (empty : sinceReset trace = [])
    (isId : id = .text (handlerId uniqueInteger)) (attached : Bool) :
    Counted uniqueInteger trace
      { counts := AList.singleton .handlerId id, attached } where
  handler := by
    rw [isId]
    exact AList.lookup_insert ∅
  counters := by
    intro event result
    rw [occurrences, empty, ← AList.insert_empty, Dict.lookup_insert_ite,
      if_neg (by simp), AList.lookup_empty]
    rfl

theorem Counted.init :
    Counted uniqueInteger [] (counterStore uniqueInteger).init :=
  .cleared rfl rfl true

theorem Counted.execute {event : Event} {metadata : Metadata}
    (counted : Counted uniqueInteger trace state) :
    Counted uniqueInteger (trace ++ [(.execute event metadata, .silent)])
      { state with
        counts := state.counts.insert (.counter event (resultTag metadata))
          (.integer (occurrences trace event (resultTag metadata) + 1)) } where
  handler := by
    rw [Dict.lookup_insert_ite, if_neg (by simp)]
    exact counted.handler
  counters := by
    intro other result
    rw [Dict.lookup_insert_ite, occurrences_append, counted.counters]
    by_cases same : other = event ∧ result = resultTag metadata
    · obtain ⟨rfl, rfl⟩ := same
      simp [Operation.isReset, Operation.fires, tally]
    · have different : ¬(event = other ∧ resultTag metadata = result) := by
        rintro ⟨rfl, rfl⟩
        exact same ⟨rfl, rfl⟩
      have otherKey : Key.counter other result ≠
          Key.counter event (resultTag metadata) := by
        intro equal
        cases equal
        exact same ⟨rfl, rfl⟩
      rw [if_neg otherKey]
      simp [Operation.isReset, Operation.fires, different]

theorem Counted.quiet {entry : Operation × Answer}
    (counted : Counted uniqueInteger trace state)
    (noReset : entry.1.isReset = false)
    (quiet : ∀ event result, entry.1.fires event result = false) :
    Counted uniqueInteger (trace ++ [entry]) state where
  handler := counted.handler
  counters := by
    intro event result
    rw [occurrences_quiet entry noReset quiet]
    exact counted.counters event result

theorem Counted.preserved (counted : Counted uniqueInteger trace state)
    (taken : (counterStore uniqueInteger).step state operation =
      some (next, answer)) :
    Counted uniqueInteger (trace ++ [(operation, answer)]) next := by
  cases operation with
  | execute event metadata =>
      change (handleCast state (.increment event (resultTag metadata))).map _ =
        _ at taken
      rw [handleCast_increment (counted.counters event _)] at taken
      cases taken
      exact counted.execute
  | call call =>
      cases call with
      | reset =>
          cases taken
          apply Counted.cleared
          · rw [sinceReset, List.rtakeWhile_concat]
            rfl
          · rw [counted.handler]
            rfl
      | _ =>
          cases taken
          exact counted.quiet rfl fun _ _ => rfl
  | _ =>
      cases taken
      exact counted.quiet rfl fun _ _ => rfl

theorem Counted.of_run (run : (counterStore uniqueInteger).Run trace state) :
    Counted uniqueInteger trace state := by
  apply run.invariant (Counted uniqueInteger)
  · exact .init
  · intro trace state operation next answer _ counted taken
    exact counted.preserved taken

theorem Counted.accepts (counted : Counted uniqueInteger trace state)
    (operation : Operation) :
    ((counterStore uniqueInteger).step state operation).isSome := by
  cases operation with
  | execute event metadata =>
      change ((handleCast state (.increment event (resultTag metadata))).map
        _).isSome
      rw [handleCast_increment (counted.counters event _)]
      rfl
  | _ => rfl

theorem Counted.tallies (counted : Counted uniqueInteger trace state) :
    Tallies trace (userCounts state) where
  handler := by
    rw [userCounts, Dict.lookup_retain, counted.handler]
    rfl
  counters := by
    intro event result
    rw [userCounts, Dict.lookup_retain, counted.counters]
    cases tally (occurrences trace event result) with
    | none => rfl
    | some value => rfl

theorem mem_of_occurrences {event : Event} {result : ResultTag}
    (positive : occurrences trace event result ≠ 0) :
    ∃ metadata answer, (.execute event metadata, answer) ∈ trace := by
  obtain ⟨⟨operation, answer⟩, member, fires⟩ :=
    List.countP_pos_iff.mp (Nat.pos_of_ne_zero positive)
  have inside := (List.rtakeWhile_suffix _ _).mem member
  cases operation with
  | execute fired metadata =>
      obtain ⟨rfl, -⟩ := of_decide_eq_true fires
      exact ⟨metadata, answer, inside⟩
  | _ => cases fires

theorem Tallies.catalogued {counts : Dict Key Value}
    (tallies : Tallies trace counts) (fromCatalog : FromCatalog trace) :
    Catalogued counts := by
  intro key value found
  cases key with
  | handlerId =>
      rw [tallies.handler] at found
      cases found
  | counter event result =>
      rw [tallies.counters, tally] at found
      obtain ⟨positive, same⟩ := Option.ite_none_left_eq_some.mp found
      obtain ⟨metadata, answer, member⟩ := mem_of_occurrences positive
      exact ⟨event, fromCatalog event metadata answer member, result, _, rfl,
        (Option.some.inj same).symm⟩

/-- Counters and their text are exact, whatever the order of events, resets,
snapshots and renderings. -/
theorem counters_exact
    (run : (counterStore uniqueInteger).Run trace state)
    (fromCatalog : FromCatalog trace) : Exact uniqueInteger trace state where
  snapshots := by
    rintro earlier answer later rfl
    obtain ⟨before, after, reached, taken, -⟩ := run.step_of_mem
    cases taken
    exact ⟨_, rfl, (Counted.of_run reached).tallies⟩
  renders := by
    rintro earlier answer later rfl
    obtain ⟨before, after, reached, taken, -⟩ := run.step_of_mem
    cases taken
    have tallies := (Counted.of_run reached).tallies
    have catalogued := tallies.catalogued fun event metadata answer member =>
      fromCatalog event metadata answer (List.mem_append_left _ member)
    obtain ⟨text, rendered, recovered⟩ := exists_recoverable catalogued
    refine ⟨userCounts before, text, congrArg Answer.rendered rendered, tallies,
      ?_, recovered⟩
    intro nonempty
    obtain ⟨families, other, again, exposes⟩ :=
      exposes_of_catalogued nonempty catalogued
    obtain rfl := Option.some.inj (rendered.symm.trans again)
    exact ⟨families, exposes⟩
  handler := (Counted.of_run run).handler.trans Counted.init.handler.symm
  detaches := by
    refine ⟨handlerId uniqueInteger, List.mem_cons_self, ?_⟩
    rw [terminate, (Counted.of_run run).handler]
  accepts := (Counted.of_run run).accepts

end Runs

def publishStop : Event :=
  ["ex_libp2p", "gossipsub", "publish", "stop"]

def scrapes : List Operation :=
  [.execute publishStop [(.atom "topic", .text "alpha"),
      (.atom "result", .atom "ok")],
    .execute publishStop [(.atom "result", .atom "ok")],
    .execute ["ex_libp2p", "node", "dial", "stop"]
      [(.atom "result", .atom "error")],
    .renderPrometheus, .call .snapshot, .call .reset, .renderPrometheus,
    .execute ["ex_libp2p", "health", "check"] [], .unknownCast, .call .sync,
    .call .unknown, .call .snapshot, .renderPrometheus]

theorem counters_exact_scrapes :
    ∃ trace state, (counterStore 7).Run trace state ∧
      trace.map Prod.fst = scrapes ∧ FromCatalog trace ∧
      Exact 7 trace state := by
  obtain ⟨trace, state, -, run, inputs⟩ := Machine.exists_run_of_start
    (by decide : ((counterStore 7).start scrapes).isSome)
  have fromCatalog : FromCatalog trace := by
    intro event metadata answer member
    have inside := List.mem_map_of_mem (f := Prod.fst) member
    rw [inputs] at inside
    simp only [scrapes, List.mem_cons, Operation.execute.injEq, reduceCtorEq,
      List.not_mem_nil, or_false, false_or] at inside
    rcases inside with ⟨rfl, -⟩ | ⟨rfl, -⟩ | ⟨rfl, -⟩ | ⟨rfl, -⟩ <;> decide
  exact ⟨trace, state, run, inputs, fromCatalog, counters_exact run fromCatalog⟩

end ExLibp2p.Telemetry.Counters
