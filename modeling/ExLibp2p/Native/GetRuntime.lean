import ExLibp2p.Data.Machine
import ExLibp2p.Data.OnceLock
import Mathlib.Logic.Function.Basic

namespace ExLibp2p.Native.GetRuntime

open ExLibp2p.Data

/-! `get_runtime` of `node.rs`, called by any number of scheduler threads at
once. Runtimes are numbered as they are built. -/

abbrev Runtime := Nat

/-- Where a call stands: before its first look at the cell, before the build,
before the write, before the second look, and behind. -/
inductive Stage
  | entering
  | building
  | setting (runtime : Runtime)
  | reading
  | returned (result : Except String Runtime)

structure System (Thread : Type) where
  cell : OnceLock Runtime
  built : Nat
  dropped : List Runtime
  calls : Thread → Option Stage

inductive Input (Thread : Type)
  | call (thread : Thread)
  | get (thread : Thread)
  | build (thread : Thread) (outcome : Except String Unit)
  | set (thread : Thread)
  | read (thread : Thread)

inductive Output
  | done
  | returned (result : Except String Runtime)

def buildFailed (reason : String) : String :=
  "Failed to create tokio runtime: " ++ reason

def raceFailed : String :=
  "Tokio runtime initialization race failed"

theorem append_ne_of_heads {first second : String} {one other : Char}
    {rest others : List Char} (firstHead : first.toList = one :: rest)
    (secondHead : second.toList = other :: others) (different : one ≠ other)
    (tail : String) : first ++ tail ≠ second := by
  intro same
  have characters := congrArg String.toList same
  rw [String.toList_append, firstHead, secondHead, List.cons_append]
    at characters
  exact different (List.head_eq_of_cons_eq characters)

theorem buildFailed_ne_raceFailed (reason : String) :
    buildFailed reason ≠ raceFailed :=
  append_ne_of_heads
    (by decide +kernel : "Failed to create tokio runtime: ".toList =
      'F' :: "ailed to create tokio runtime: ".toList)
    (by decide +kernel : "Tokio runtime initialization race failed".toList =
      'T' :: "okio runtime initialization race failed".toList)
    (by decide) reason

section Calls

variable {Thread : Type} [DecidableEq Thread]

def System.init : System Thread where
  cell := .empty
  built := 0
  dropped := []
  calls := fun _ => none

def System.goes (system : System Thread) (thread : Thread) (stage : Stage) :
    System Thread × Output :=
  ({ system with calls := Function.update system.calls thread (some stage) },
    match stage with
    | .returned result => .returned result
    | _ => .done)

def step (system : System Thread) :
    Input Thread → Option (System Thread × Output)
  | .call thread =>
      match system.calls thread with
      | none => some (system.goes thread .entering)
      | some (.returned _) => some (system.goes thread .entering)
      | some _ => none
  | .get thread =>
      match system.calls thread with
      | some .entering =>
          match system.cell.get with
          | some runtime => some (system.goes thread (.returned (.ok runtime)))
          | none => some (system.goes thread .building)
      | _ => none
  | .build thread outcome =>
      match system.calls thread with
      | some .building =>
          match outcome with
          | .error reason =>
              some (system.goes thread
                (.returned (.error (buildFailed reason))))
          | .ok () =>
              some (({ system with built := system.built + 1 } :
                System Thread).goes thread (.setting system.built))
      | _ => none
  | .set thread =>
      match system.calls thread with
      | some (.setting runtime) =>
          -- `let _ = RUNTIME.set(rt)` drops the runtime that lost
          match system.cell.set runtime with
          | (.ok (), cell) =>
              some (({ system with cell } : System Thread).goes thread .reading)
          | (.error lost, cell) =>
              some (({ system with cell, dropped := lost :: system.dropped } :
                System Thread).goes thread .reading)
      | _ => none
  | .read thread =>
      match system.calls thread with
      | some .reading =>
          match system.cell.get with
          | some runtime => some (system.goes thread (.returned (.ok runtime)))
          | none =>
              some (system.goes thread (.returned (.error raceFailed)))
      | _ => none

def getRuntime : Machine (System Thread) (Input Thread) Output where
  init := .init
  step := step

inductive Move (system : System Thread) :
    Input Thread → System Thread → Output → Prop
  | called {thread : Thread}
      (idle : ∀ runtime, system.calls thread ≠ some (.setting runtime)) :
      Move system (.call thread) (system.goes thread .entering).1 .done
  | found {thread : Thread} {runtime : Runtime}
      (stage : system.calls thread = some .entering ∨
        system.calls thread = some .reading)
      (holds : system.cell.get = some runtime) {input : Input Thread}
      (looks : input = .get thread ∨ input = .read thread) :
      Move system input (system.goes thread (.returned (.ok runtime))).1
        (.returned (.ok runtime))
  | missed {thread : Thread} (stage : system.calls thread = some .entering) :
      Move system (.get thread) (system.goes thread .building).1 .done
  | unbuilt {thread : Thread} {reason : String}
      (stage : system.calls thread = some .building) :
      Move system (.build thread (.error reason))
        (system.goes thread (.returned (.error (buildFailed reason)))).1
        (.returned (.error (buildFailed reason)))
  | built {thread : Thread} (stage : system.calls thread = some .building) :
      Move system (.build thread (.ok ()))
        (({ system with built := system.built + 1 } : System Thread).goes
          thread (.setting system.built)).1 .done
  | won {thread : Thread} {runtime : Runtime}
      (stage : system.calls thread = some (.setting runtime))
      (isEmpty : system.cell.get = none) :
      Move system (.set thread)
        (({ system with cell := { value := some runtime } } :
          System Thread).goes thread .reading).1 .done
  | lost {thread : Thread} {runtime held : Runtime}
      (stage : system.calls thread = some (.setting runtime))
      (holds : system.cell.get = some held) :
      Move system (.set thread)
        (({ system with dropped := runtime :: system.dropped } :
          System Thread).goes thread .reading).1 .done
  | raced {thread : Thread} (stage : system.calls thread = some .reading)
      (isEmpty : system.cell.get = none) :
      Move system (.read thread)
        (system.goes thread (.returned (.error raceFailed))).1
        (.returned (.error raceFailed))

section Steps

variable {system next : System Thread} {input : Input Thread} {output : Output}

theorem Move.of_step (taken : step system input = some (next, output)) :
    Move system input next output := by
  cases input with
  | call thread =>
      simp only [step] at taken
      split at taken
      · rename_i idle
        cases taken
        exact .called fun runtime impossible =>
          nomatch idle.symm.trans impossible
      · rename_i result behind
        cases taken
        exact .called fun runtime impossible =>
          nomatch behind.symm.trans impossible
      · cases taken
  | get thread =>
      simp only [step] at taken
      split at taken
      · rename_i stage
        split at taken
        · rename_i runtime holds
          cases taken
          exact .found (.inl stage) holds (.inl rfl)
        · cases taken
          exact .missed stage
      · cases taken
  | build thread outcome =>
      simp only [step] at taken
      split at taken
      · rename_i stage
        split at taken
        · cases taken
          exact .unbuilt stage
        · cases taken
          exact .built stage
      · cases taken
  | set thread =>
      simp only [step] at taken
      split at taken
      · rename_i runtime stage
        cases holds : system.cell.get with
        | none =>
            rw [OnceLock.set_of_empty holds] at taken
            cases taken
            exact .won stage holds
        | some held =>
            rw [OnceLock.set_of_full holds] at taken
            cases taken
            exact .lost stage holds
      · cases taken
  | read thread =>
      simp only [step] at taken
      split at taken
      · rename_i stage
        split at taken
        · rename_i runtime holds
          cases taken
          exact .found (.inr stage) holds (.inr rfl)
        · rename_i isEmpty
          cases taken
          exact .raced stage isEmpty
      · cases taken

structure Held (system : System Thread) : Prop where
  cell : ∀ runtime, system.cell.get = some runtime → runtime < system.built
  dropped : ∀ runtime ∈ system.dropped,
    runtime < system.built ∧ system.cell.get ≠ some runtime
  setting : ∀ thread runtime,
    system.calls thread = some (.setting runtime) →
      runtime < system.built ∧ system.cell.get ≠ some runtime ∧
        runtime ∉ system.dropped
  distinct : ∀ first second runtime,
    system.calls first = some (.setting runtime) →
      system.calls second = some (.setting runtime) → first = second
  accounted : ∀ runtime < system.built,
    system.cell.get = some runtime ∨ runtime ∈ system.dropped ∨
      ∃ thread, system.calls thread = some (.setting runtime)
  reading : ∀ thread, system.calls thread = some .reading →
    ∃ runtime, system.cell.get = some runtime

theorem goes_calls (thread other : Thread) (stage : Stage) :
    (system.goes thread stage).1.calls other =
      if other = thread then some stage else system.calls other :=
  Function.update_apply ..

omit [DecidableEq Thread] in
theorem Held.init : Held (System.init : System Thread) where
  cell := fun _ impossible => nomatch impossible
  dropped := fun _ member => absurd member List.not_mem_nil
  setting := fun _ _ impossible => nomatch impossible
  distinct := fun _ _ _ impossible => nomatch impossible
  accounted := fun _ impossible => absurd impossible (Nat.not_lt_zero _)
  reading := fun _ impossible => nomatch impossible

theorem Held.goes {thread : Thread} {stage : Stage} (held : Held system)
    (before : ∀ runtime, system.calls thread ≠ some (.setting runtime))
    (after : ∀ runtime, stage ≠ .setting runtime)
    (looks : stage = .reading → ∃ runtime, system.cell.get = some runtime) :
    Held (system.goes thread stage).1 := by
  have same : ∀ other runtime,
      (system.goes thread stage).1.calls other = some (.setting runtime) ↔
        system.calls other = some (.setting runtime) := by
    intro other runtime
    rw [goes_calls]
    split
    · rename_i isThread
      subst isThread
      exact iff_of_false (fun equal => after runtime (Option.some.inj equal))
        (before runtime)
    · exact Iff.rfl
  refine ⟨held.cell, held.dropped, ?_, ?_, ?_, ?_⟩
  · intro other runtime isSetting
    exact held.setting other runtime ((same other runtime).mp isSetting)
  · intro first second runtime one two
    exact held.distinct first second runtime ((same first runtime).mp one)
      ((same second runtime).mp two)
  · intro runtime wasBuilt
    rcases held.accounted runtime wasBuilt with inCell | gone | ⟨other, has⟩
    · exact .inl inCell
    · exact .inr (.inl gone)
    · exact .inr (.inr ⟨other, (same other runtime).mpr has⟩)
  · intro other isReading
    rw [goes_calls] at isReading
    split at isReading
    · exact looks (Option.some.inj isReading)
    · exact held.reading other isReading

theorem Held.build {thread : Thread} (held : Held system)
    (stage : system.calls thread = some .building) :
    Held (({ system with built := system.built + 1 } : System Thread).goes
      thread (.setting system.built)).1 := by
  have calls (other : Thread) :
      (({ system with built := system.built + 1 } : System Thread).goes
        thread (.setting system.built)).1.calls other =
        if other = thread then some (.setting system.built)
          else system.calls other :=
    goes_calls thread other (.setting system.built)
  refine ⟨?_, ?_, ?_, ?_, ?_, ?_⟩
  · intro runtime holds
    exact Nat.lt_succ_of_lt (held.cell runtime holds)
  · intro runtime member
    have old := held.dropped runtime member
    exact ⟨Nat.lt_succ_of_lt old.1, old.2⟩
  · intro other runtime isSetting
    rw [calls] at isSetting
    split at isSetting
    · cases isSetting
      refine ⟨Nat.lt_succ_self _, ?_, ?_⟩
      · intro holds
        exact Nat.lt_irrefl _ (held.cell _ holds)
      · intro member
        exact Nat.lt_irrefl _ (held.dropped _ member).1
    · have old := held.setting other runtime isSetting
      exact ⟨Nat.lt_succ_of_lt old.1, old.2⟩
  · intro first second runtime one two
    rw [calls] at one two
    split at one
    · rename_i isFirst
      cases one
      split at two
      · rename_i isSecond
        exact isFirst.trans isSecond.symm
      · exact absurd (held.setting second _ two).1 (Nat.lt_irrefl _)
    · split at two
      · cases two
        exact absurd (held.setting first _ one).1 (Nat.lt_irrefl _)
      · exact held.distinct first second runtime one two
  · intro runtime wasBuilt
    rcases Nat.lt_succ_iff_lt_or_eq.mp wasBuilt with old | rfl
    · rcases held.accounted runtime old with inCell | gone | ⟨other, has⟩
      · exact .inl inCell
      · exact .inr (.inl gone)
      · refine .inr (.inr ⟨other, ?_⟩)
        rw [calls, if_neg]
        · exact has
        · intro same
          subst same
          rw [stage] at has
          cases has
    · exact .inr (.inr ⟨thread, by rw [calls, if_pos rfl]⟩)
  · intro other isReading
    rw [calls] at isReading
    split at isReading
    · cases isReading
    · exact held.reading other isReading

theorem Held.set {thread : Thread} {runtime : Runtime} {after : System Thread}
    (held : Held system)
    (stage : system.calls thread = some (.setting runtime))
    (sameBuilt : after.built = system.built)
    (sameCalls : after.calls = system.calls)
    (full : ∃ kept, after.cell.get = some kept)
    (settled : after.cell.get = some runtime ∧ system.cell.get = none ∧
        after.dropped = system.dropped ∨
      after.cell.get = system.cell.get ∧
        after.dropped = runtime :: system.dropped) :
    Held (after.goes thread .reading).1 := by
  have mine := held.setting thread runtime stage
  have others : ∀ other found,
      (after.goes thread .reading).1.calls other = some (.setting found) →
        system.calls other = some (.setting found) ∧ found ≠ runtime := by
    intro other found isSetting
    rw [goes_calls, sameCalls] at isSetting
    split at isSetting
    · cases isSetting
    · rename_i different
      refine ⟨isSetting, ?_⟩
      rintro rfl
      exact different (held.distinct other thread found isSetting stage)
  refine ⟨?_, ?_, ?_, ?_, ?_, ?_⟩
  · intro found holds
    change found < after.built
    rw [sameBuilt]
    rcases settled with ⟨inCell, -, -⟩ | ⟨sameCell, -⟩
    · obtain rfl := Option.some.inj (inCell.symm.trans holds)
      exact mine.1
    · exact held.cell found (sameCell ▸ holds)
  · intro found member
    change found < after.built ∧ after.cell.get ≠ some found
    rw [sameBuilt]
    rcases settled with ⟨inCell, -, sameDropped⟩ | ⟨sameCell, nowDropped⟩
    · change found ∈ after.dropped at member
      rw [sameDropped] at member
      refine ⟨(held.dropped found member).1, ?_⟩
      intro holds
      obtain rfl := Option.some.inj (inCell.symm.trans holds)
      exact mine.2.2 member
    · change found ∈ after.dropped at member
      rw [nowDropped] at member
      rw [sameCell]
      rcases List.mem_cons.mp member with rfl | old
      · exact ⟨mine.1, mine.2.1⟩
      · exact held.dropped found old
  · intro other found isSetting
    obtain ⟨has, different⟩ := others other found isSetting
    have old := held.setting other found has
    change found < after.built ∧ after.cell.get ≠ some found ∧
      found ∉ after.dropped
    rw [sameBuilt]
    rcases settled with ⟨inCell, -, sameDropped⟩ | ⟨sameCell, nowDropped⟩
    · rw [inCell, sameDropped]
      refine ⟨old.1, ?_, old.2.2⟩
      intro equal
      exact different (Option.some.inj equal).symm
    · rw [sameCell, nowDropped]
      refine ⟨old.1, old.2.1, ?_⟩
      intro member
      rcases List.mem_cons.mp member with same | gone
      · exact different same
      · exact old.2.2 gone
  · intro first second found one two
    exact held.distinct first second found (others first found one).1
      (others second found two).1
  · intro found wasBuilt
    change found < after.built at wasBuilt
    rw [sameBuilt] at wasBuilt
    change after.cell.get = some found ∨ found ∈ after.dropped ∨ _
    by_cases isMine : found = runtime
    · subst isMine
      rcases settled with ⟨inCell, -, -⟩ | ⟨-, nowDropped⟩
      · exact .inl inCell
      · rw [nowDropped]
        exact .inr (.inl List.mem_cons_self)
    · rcases held.accounted found wasBuilt with inCell | gone | ⟨other, has⟩
      · rcases settled with ⟨-, wasEmpty, -⟩ | ⟨sameCell, -⟩
        · rw [wasEmpty] at inCell
          cases inCell
        · rw [sameCell]
          exact .inl inCell
      · rcases settled with ⟨-, -, sameDropped⟩ | ⟨-, nowDropped⟩
        · rw [sameDropped]
          exact .inr (.inl gone)
        · rw [nowDropped]
          exact .inr (.inl (List.mem_cons_of_mem _ gone))
      · refine .inr (.inr ⟨other, ?_⟩)
        rw [goes_calls, sameCalls, if_neg]
        · exact has
        · rintro rfl
          rw [stage] at has
          cases has
          exact isMine rfl
  · intro other _
    exact full

theorem Held.move (held : Held system) (move : Move system input next output) :
    Held next := by
  cases move with
  | called idle =>
      exact held.goes idle (fun _ impossible => nomatch impossible)
        fun impossible => nomatch impossible
  | found stage holds looks =>
      apply held.goes
      · intro runtime impossible
        rcases stage with entering | reading
        · cases entering.symm.trans impossible
        · cases reading.symm.trans impossible
      · exact fun _ impossible => nomatch impossible
      · exact fun impossible => nomatch impossible
  | missed stage =>
      exact held.goes
        (fun _ impossible => nomatch stage.symm.trans impossible)
        (fun _ impossible => nomatch impossible)
        fun impossible => nomatch impossible
  | unbuilt stage =>
      exact held.goes
        (fun _ impossible => nomatch stage.symm.trans impossible)
        (fun _ impossible => nomatch impossible)
        fun impossible => nomatch impossible
  | built stage => exact held.build stage
  | won stage isEmpty =>
      have given (thread : Thread) (runtime : Runtime) :=
        @Held.set _ _ system thread runtime
          { system with cell := { value := some runtime } } held
      exact given _ _ stage rfl rfl ⟨_, rfl⟩ (.inl ⟨rfl, isEmpty, rfl⟩)
  | lost stage holds =>
      have given (thread : Thread) (runtime : Runtime) :=
        @Held.set _ _ system thread runtime
          { system with dropped := runtime :: system.dropped } held
      exact given _ _ stage rfl rfl ⟨_, holds⟩ (.inr ⟨rfl, rfl⟩)
  | raced stage isEmpty =>
      obtain ⟨runtime, holds⟩ := held.reading _ stage
      cases isEmpty.symm.trans holds

theorem Move.cell_kept {runtime : Runtime}
    (move : Move system input next output)
    (holds : system.cell.get = some runtime) :
    next.cell.get = some runtime := by
  cases move with
  | won stage isEmpty => cases isEmpty.symm.trans holds
  | _ => exact holds

end Steps

abbrev History (Thread : Type) := List (Input Thread × Output)

/-- Every call that has returned a runtime returned the one in the cell, and a
call that has failed failed to build one itself. -/
structure Agreed (trace : History Thread) (system : System Thread) : Prop where
  held : Held system
  returned : ∀ input result, (input, .returned (.ok result)) ∈ trace →
    system.cell.get = some result
  failed : ∀ input text, (input, .returned (.error text)) ∈ trace →
    ∃ thread reason, input = .build thread (.error reason) ∧
      text = buildFailed reason

theorem Agreed.move {trace : History Thread} {system next : System Thread}
    {input : Input Thread} {output : Output} (agreed : Agreed trace system)
    (move : Move system input next output) :
    Agreed (trace ++ [(input, output)]) next := by
  refine ⟨agreed.held.move move, ?_, ?_⟩
  · intro other result member
    rcases List.mem_append.mp member with earlier | now
    · exact move.cell_kept (agreed.returned other result earlier)
    · cases List.mem_singleton.mp now
      cases move with
      | found stage holds looks => exact holds
  · intro other text member
    rcases List.mem_append.mp member with earlier | now
    · exact agreed.failed other text earlier
    · cases List.mem_singleton.mp now
      cases move with
      | unbuilt stage => exact ⟨_, _, rfl, rfl⟩
      | raced stage isEmpty =>
          obtain ⟨runtime, holds⟩ := agreed.held.reading _ stage
          cases isEmpty.symm.trans holds

theorem Agreed.of_run {trace : History Thread} {system : System Thread}
    (run : getRuntime.Run trace system) : Agreed trace system := by
  apply run.invariant Agreed
  · exact ⟨.init, fun _ _ impossible => absurd impossible List.not_mem_nil,
      fun _ _ impossible => absurd impossible List.not_mem_nil⟩
  · intro trace system input next output _ agreed taken
    exact agreed.move (.of_step taken)

/-- However the calls are interleaved, all of them that succeed return one
runtime, which is never dropped. The others failed to build one, never for the
race, and a runtime that was built is the shared one, was dropped, or is still
in the hands of exactly one call. -/
theorem runtime_agreed {trace : History Thread} {system : System Thread}
    (run : getRuntime.Run trace system) :
    (∀ first second one other,
      (first, .returned (.ok one)) ∈ trace →
        (second, .returned (.ok other)) ∈ trace →
          one = other ∧ one ∉ system.dropped) ∧
    (∀ input text, (input, .returned (.error text)) ∈ trace →
      ∃ thread reason, input = .build thread (.error reason) ∧
        text = buildFailed reason ∧ text ≠ raceFailed) ∧
    ∀ runtime < system.built,
      system.cell.get = some runtime ∨ runtime ∈ system.dropped ∨
        ∃! thread, system.calls thread = some (.setting runtime) := by
  have agreed := Agreed.of_run run
  refine ⟨?_, ?_, ?_⟩
  · intro first second one other oneReturned otherReturned
    have inCell := agreed.returned first one oneReturned
    refine ⟨Option.some.inj
      (inCell.symm.trans (agreed.returned second other otherReturned)), ?_⟩
    intro gone
    exact (agreed.held.dropped one gone).2 inCell
  · intro input text member
    obtain ⟨thread, reason, built, rfl⟩ := agreed.failed input text member
    refine ⟨thread, reason, built, rfl, ?_⟩
    exact buildFailed_ne_raceFailed reason
  · intro runtime wasBuilt
    rcases agreed.held.accounted runtime wasBuilt with
      inCell | gone | ⟨thread, has⟩
    · exact .inl inCell
    · exact .inr (.inl gone)
    · refine .inr (.inr ⟨thread, has, ?_⟩)
      intro other otherHas
      exact agreed.held.distinct other thread runtime otherHas has

end Calls

/-- Two threads build a runtime each, and a third one cannot build. -/
def crowded : List (Input Nat) :=
  [.call 1, .call 2, .get 2, .get 1, .call 3, .get 3, .build 1 (.ok ()),
    .build 2 (.ok ()), .build 3 (.error "out of threads"), .set 2, .set 1,
    .read 1, .read 2, .call 3, .get 3]

theorem runtime_agreed_crowded :
    ∃ trace system, (@getRuntime Nat _).Run trace system ∧
      trace.map Prod.fst = crowded ∧
      ∀ first second one other,
        (first, .returned (.ok one)) ∈ trace →
          (second, .returned (.ok other)) ∈ trace → one = other := by
  obtain ⟨trace, system, -, run, inputs⟩ := Machine.exists_run_of_start
    (by decide +kernel : ((@getRuntime Nat _).start crowded).isSome)
  exact ⟨trace, system, run, inputs, fun first second one other found again =>
    ((runtime_agreed run).1 first second one other found again).1⟩

end ExLibp2p.Native.GetRuntime
