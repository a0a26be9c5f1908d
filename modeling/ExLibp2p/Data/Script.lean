import Mathlib.Logic.Basic

namespace ExLibp2p.Data

/-! Programs with effects, by the list of what they did up to their end or to an
exception. -/

abbrev Script (Error Effect : Type) :=
  ExceptT Error (StateM (List Effect))

namespace Script

section Programs

variable {Error Effect Value : Type}

def perform (effect : Effect) : Script Error Effect Unit :=
  modify (· ++ [effect])

def lift : Except Error Value → Script Error Effect Value
  | .ok value => pure value
  | .error error => throw error

/-- What a script returns, and its effects behind those before it. -/
def run (script : Script Error Effect Value) (earlier : List Effect) :
    Except Error Value × List Effect :=
  StateT.run (ExceptT.run script) earlier

end Programs

section Runs

variable {Error Effect Value Next : Type} {script : Script Error Effect Value}
  {earlier later : List Effect}

@[simp] theorem run_pure (value : Value) :
    run (pure value : Script Error Effect Value) earlier =
      (.ok value, earlier) := rfl

@[simp] theorem run_perform (effect : Effect) :
    run (perform effect : Script Error Effect Unit) earlier =
      (.ok (), earlier ++ [effect]) := rfl

theorem run_lift (result : Except Error Value) :
    run (lift result) earlier = (result, earlier) := by
  cases result with
  | ok value => rfl
  | error error => rfl

theorem run_bind (next : Value → Script Error Effect Next) :
    run (script >>= next) earlier =
      match run script earlier with
      | (.ok value, later) => run (next value) later
      | (.error error, later) => (.error error, later) := by
  change (let outcome := run script earlier
    StateT.run (ExceptT.bindCont next outcome.1) outcome.2) = _
  obtain ⟨result, later⟩ := run script earlier
  cases result with
  | ok value => rfl
  | error error => rfl

theorem run_bind_perform (effect : Effect)
    (next : Unit → Script Error Effect Next) :
    run (perform effect >>= next) earlier =
      run (next ()) (earlier ++ [effect]) := rfl

theorem run_tryCatch (handler : Error → Script Error Effect Value) :
    run (tryCatch script handler) earlier =
      match run script earlier with
      | (.ok value, later) => (.ok value, later)
      | (.error error, later) => run (handler error) later := by
  unfold run ExceptT.run StateT.run
  simp only [tryCatch, tryCatchThe, MonadExceptOf.tryCatch, ExceptT.tryCatch,
    ExceptT.mk, bind, StateT.bind]
  obtain ⟨result, later⟩ := script earlier
  cases result with
  | ok value => rfl
  | error error => rfl

theorem run_bind_ok_iff {next : Value → Script Error Effect Next}
    {value : Next} :
    run (script >>= next) earlier = (.ok value, later) ↔
      ∃ middle between, run script earlier = (.ok middle, between) ∧
        run (next middle) between = (.ok value, later) := by
  rw [run_bind]
  obtain ⟨result, between⟩ := run script earlier
  cases result with
  | ok middle =>
      constructor
      · intro rest
        exact ⟨middle, between, rfl, rest⟩
      · rintro ⟨_, _, ⟨⟩, rest⟩
        exact rest
  | error error =>
      constructor
      · intro raised
        cases raised
      · rintro ⟨_, _, ⟨⟩, _⟩

end Runs

section Effects

variable {Error Effect Value Next : Type} {allowed : Effect → Prop}
  {script : Script Error Effect Value}
  {post : Except Error Value → List Effect → Prop}

/-- Behind the effects before it, a script leaves some that its result
admits. -/
def Leaves (post : Except Error Value → List Effect → Prop)
    (script : Script Error Effect Value) : Prop :=
  ∀ earlier, ∃ done, (run script earlier).2 = earlier ++ done ∧
    post (run script earlier).1 done

theorem Leaves.pure {value : Value} (holds : post (.ok value) []) :
    Leaves post (Pure.pure value : Script Error Effect Value) := by
  intro earlier
  exact ⟨[], (List.append_nil earlier).symm, holds⟩

theorem Leaves.lift {result : Except Error Value} (holds : post result []) :
    Leaves post (lift result : Script Error Effect Value) := by
  intro earlier
  rw [run_lift]
  exact ⟨[], (List.append_nil earlier).symm, holds⟩

theorem Leaves.mono {weaker : Except Error Value → List Effect → Prop}
    (leaves : Leaves post script)
    (weaken : ∀ {result done}, post result done → weaker result done) :
    Leaves weaker script := by
  intro earlier
  obtain ⟨done, performed, holds⟩ := leaves earlier
  exact ⟨done, performed, weaken holds⟩

theorem Leaves.bind {next : Value → Script Error Effect Next}
    {last : Except Error Next → List Effect → Prop}
    (first : Leaves post script)
    (raised : ∀ {error done}, post (.error error) done →
      last (.error error) done)
    (rest : ∀ {value done}, post (.ok value) done →
      Leaves (fun result more => last result (done ++ more)) (next value)) :
    Leaves last (script >>= next) := by
  intro earlier
  obtain ⟨done, performed, holds⟩ := first earlier
  rw [run_bind]
  revert performed holds
  obtain ⟨result, between⟩ := run script earlier
  rintro ⟨⟩ holds
  cases result with
  | error error => exact ⟨done, rfl, raised holds⟩
  | ok value =>
      obtain ⟨more, later, ending⟩ := rest holds (earlier ++ done)
      refine ⟨done ++ more, ?_, ending⟩
      rw [← List.append_assoc]
      exact later

theorem Leaves.lift_bind {result : Except Error Value}
    {next : Value → Script Error Effect Next}
    {last : Except Error Next → List Effect → Prop}
    (raised : ∀ error, result = .error error → last (.error error) [])
    (rest : ∀ value, result = .ok value → Leaves last (next value)) :
    Leaves last (Script.lift result >>= next) := by
  cases result with
  | error error =>
      intro earlier
      exact ⟨[], (List.append_nil earlier).symm, raised error rfl⟩
  | ok value => exact rest value rfl

/-- Whatever a script does is allowed. -/
def Within (allowed : Effect → Prop) : Script Error Effect Value → Prop :=
  Leaves fun _ done => ∀ effect ∈ done, allowed effect

/-- Whatever a script does is allowed, unless it comes to its end. -/
def Commits (allowed : Effect → Prop) : Script Error Effect Value → Prop :=
  Leaves fun result done =>
    (∃ value, result = .ok value) ∨ ∀ effect ∈ done, allowed effect

theorem Within.pure (value : Value) :
    Within allowed (Pure.pure value : Script Error Effect Value) :=
  Leaves.pure nofun

theorem Within.lift (result : Except Error Value) :
    Within allowed (lift result : Script Error Effect Value) :=
  Leaves.lift nofun

theorem Within.perform {effect : Effect} (permitted : allowed effect) :
    Within allowed (perform effect : Script Error Effect Unit) := by
  intro earlier
  exact ⟨[effect], rfl, List.forall_mem_singleton.mpr permitted⟩

theorem Within.bind {next : Value → Script Error Effect Next}
    (first : Within allowed script)
    (rest : ∀ value, Within allowed (next value)) :
    Within allowed (script >>= next) :=
  Leaves.bind first id fun permitted => (rest _).mono fun later =>
    List.forall_mem_append.mpr ⟨permitted, later⟩

theorem Within.lift_bind {result : Except Error Value}
    {next : Value → Script Error Effect Next}
    (rest : ∀ value, result = .ok value → Within allowed (next value)) :
    Within allowed (Script.lift result >>= next) :=
  Leaves.lift_bind (fun _ _ => nofun) rest

theorem Commits.bind {next : Value → Script Error Effect Next}
    (first : Within allowed script)
    (rest : ∀ value, Commits allowed (next value)) :
    Commits allowed (script >>= next) :=
  Leaves.bind first .inr fun permitted => (rest _).mono fun ending =>
    ending.imp_right fun later =>
      List.forall_mem_append.mpr ⟨permitted, later⟩

theorem Commits.last (effect : Effect) (value : Value) :
    Commits allowed (do
      Script.perform effect
      return value : Script Error Effect Value) := by
  intro earlier
  exact ⟨[effect], rfl, .inl ⟨value, rfl⟩⟩

end Effects

end Script

end ExLibp2p.Data
