import Mathlib.Data.List.Forall2
import Mathlib.Data.List.Induction

namespace ExLibp2p.Data

universe u v w x

/-! Deterministic machines with partial steps. Every choice of the environment
is part of the input, and a step that the environment cannot take is `none`. -/

structure Machine (State : Type u) (Input : Type v) (Output : Type w) where
  init : State
  step : State → Input → Option (State × Output)

namespace Machine

variable {State : Type u} {Input : Type v} {Output : Type w}

/-- The runs of a machine, with the history of inputs and their outputs in the
order in which they happened. -/
inductive Run (machine : Machine State Input Output) :
    List (Input × Output) → State → Prop
  | nil : Run machine [] machine.init
  | snoc {trace : List (Input × Output)} {state next : State}
      {input : Input} {output : Output}
      (earlier : Run machine trace state)
      (taken : machine.step state input = some (next, output)) :
      Run machine (trace ++ [(input, output)]) next

/-- A property of histories and states that holds at the start and that every
step keeps is a property of every run. -/
theorem Run.invariant {machine : Machine State Input Output}
    (property : List (Input × Output) → State → Prop)
    (initial : property [] machine.init)
    (preserved : ∀ {trace state input next output},
      Run machine trace state → property trace state →
      machine.step state input = some (next, output) →
        property (trace ++ [(input, output)]) next)
    {trace : List (Input × Output)} {state : State}
    (run : Run machine trace state) : property trace state := by
  induction run with
  | nil => exact initial
  | snoc earlier taken induction => exact preserved earlier induction taken

theorem Run.state_unique {machine : Machine State Input Output}
    {trace : List (Input × Output)} {first second : State}
    (run : Run machine trace first) (other : Run machine trace second) :
    first = second := by
  induction run generalizing second with
  | nil =>
      generalize empty : [] = trace at other
      cases other with
      | nil => rfl
      | snoc earlier taken => simp at empty
  | @snoc trace state next input output earlier taken induction =>
      generalize whole : trace ++ [(input, output)] = longer at other
      cases other with
      | nil => simp at whole
      | snoc otherEarlier otherTaken =>
          obtain ⟨rfl, last⟩ := List.append_inj' whole rfl
          obtain ⟨rfl, rfl⟩ := Prod.mk.inj (List.singleton_inj.mp last)
          obtain rfl := induction otherEarlier
          rw [taken] at otherTaken
          cases otherTaken
          rfl

inductive Steps (machine : Machine State Input Output) (start : State) :
    List (Input × Output) → State → Prop
  | nil : Steps machine start [] start
  | snoc {trace : List (Input × Output)} {state next : State}
      {input : Input} {output : Output}
      (earlier : Steps machine start trace state)
      (taken : machine.step state input = some (next, output)) :
      Steps machine start (trace ++ [(input, output)]) next

theorem Run.split {machine : Machine State Input Output}
    {first second : List (Input × Output)} {state : State}
    (run : Run machine (first ++ second) state) :
    ∃ middle, Run machine first middle ∧
      Steps machine middle second state := by
  induction second using List.reverseRecOn generalizing state with
  | nil => exact ⟨state, by simpa using run, .nil⟩
  | append_singleton second last induction =>
      rw [← List.append_assoc] at run
      generalize whole : (first ++ second) ++ [last] = trace at run
      cases run with
      | nil => simp at whole
      | snoc earlier taken =>
          obtain ⟨rfl, last⟩ := List.append_inj' whole rfl
          obtain rfl := List.singleton_inj.mp last
          obtain ⟨middle, reached, steps⟩ := induction earlier
          exact ⟨middle, reached, steps.snoc taken⟩

theorem Steps.keeps {machine : Machine State Input Output}
    (property : State → Prop)
    (preserved : ∀ {state input next output}, property state →
      machine.step state input = some (next, output) → property next)
    {start state : State} {trace : List (Input × Output)}
    (steps : Steps machine start trace state) (initial : property start) :
    property state := by
  induction steps with
  | nil => exact initial
  | snoc earlier taken induction => exact preserved induction taken

theorem Run.step_of_mem {machine : Machine State Input Output}
    {first second : List (Input × Output)} {entry : Input × Output}
    {state : State}
    (run : Run machine (first ++ entry :: second) state) :
    ∃ before after, Run machine first before ∧
      machine.step before entry.1 = some (after, entry.2) ∧
      Run machine (first ++ [entry]) after ∧
      Steps machine after second state := by
  rw [List.append_cons] at run
  obtain ⟨after, reached, steps⟩ := run.split
  generalize whole : first ++ [entry] = trace at reached
  cases reached with
  | nil => simp at whole
  | snoc earlier taken =>
      obtain ⟨rfl, last⟩ := List.append_inj' whole rfl
      obtain rfl := List.singleton_inj.mp last
      exact ⟨_, _, earlier, taken, whole ▸ .snoc earlier taken, steps⟩

def exec (machine : Machine State Input Output) :
    State → List Input → Option (List (Input × Output) × State)
  | state, [] => some ([], state)
  | state, input :: inputs =>
      match machine.step state input with
      | none => none
      | some (next, output) =>
          (machine.exec next inputs).map fun (trace, last) =>
            ((input, output) :: trace, last)

theorem exec_inputs {machine : Machine State Input Output}
    {state last : State} {inputs : List Input}
    {trace : List (Input × Output)}
    (executed : machine.exec state inputs = some (trace, last)) :
    trace.map Prod.fst = inputs := by
  induction inputs generalizing state trace last with
  | nil =>
      simp only [exec, Option.some.injEq, Prod.mk.injEq] at executed
      obtain ⟨rfl, -⟩ := executed
      rfl
  | cons input inputs induction =>
      simp only [exec] at executed
      cases taken : machine.step state input with
      | none => simp [taken] at executed
      | some result =>
          simp only [taken, Option.map_eq_some_iff, Prod.mk.injEq] at executed
          obtain ⟨⟨rest, finish⟩, tail, rfl, -⟩ := executed
          exact congrArg (input :: ·) (induction tail)

theorem Run.append_exec {machine : Machine State Input Output}
    {trace : List (Input × Output)} {state : State} {inputs : List Input}
    {later : List (Input × Output)} {last : State}
    (run : Run machine trace state)
    (executed : machine.exec state inputs = some (later, last)) :
    Run machine (trace ++ later) last := by
  induction inputs generalizing trace state later with
  | nil =>
      simp only [exec, Option.some.injEq, Prod.mk.injEq] at executed
      obtain ⟨rfl, rfl⟩ := executed
      simpa using run
  | cons input inputs induction =>
      simp only [exec] at executed
      cases taken : machine.step state input with
      | none => simp [taken] at executed
      | some result =>
          obtain ⟨next, output⟩ := result
          simp only [taken, Option.map_eq_some_iff, Prod.mk.injEq] at executed
          obtain ⟨⟨rest, finish⟩, tail, rfl, rfl⟩ := executed
          have continued := induction (run.snoc taken) tail
          simpa using continued

theorem Steps.append_exec {machine : Machine State Input Output}
    {start : State} {trace : List (Input × Output)} {state : State}
    {inputs : List Input} {later : List (Input × Output)} {last : State}
    (steps : Steps machine start trace state)
    (executed : machine.exec state inputs = some (later, last)) :
    Steps machine start (trace ++ later) last := by
  induction inputs generalizing trace state later with
  | nil =>
      simp only [exec, Option.some.injEq, Prod.mk.injEq] at executed
      obtain ⟨rfl, rfl⟩ := executed
      simpa using steps
  | cons input inputs induction =>
      simp only [exec] at executed
      cases taken : machine.step state input with
      | none => simp [taken] at executed
      | some result =>
          obtain ⟨next, output⟩ := result
          simp only [taken, Option.map_eq_some_iff, Prod.mk.injEq] at executed
          obtain ⟨⟨rest, finish⟩, tail, rfl, rfl⟩ := executed
          have continued := induction (steps.snoc taken) tail
          simpa using continued

def start (machine : Machine State Input Output) (inputs : List Input) :
    Option (List (Input × Output) × State) :=
  machine.exec machine.init inputs

/-- Inputs that a machine accepts one after the other are those of a run. -/
theorem exists_run_of_start {machine : Machine State Input Output}
    {inputs : List Input} (accepted : (machine.start inputs).isSome) :
    ∃ trace state, machine.start inputs = some (trace, state) ∧
      Run machine trace state ∧ trace.map Prod.fst = inputs := by
  obtain ⟨⟨trace, state⟩, executed⟩ := Option.isSome_iff_exists.mp accepted
  exact ⟨trace, state, executed, by simpa using Run.nil.append_exec executed,
    exec_inputs executed⟩

def guard (machine : Machine State Input Output)
    (condition : State → Input → Prop)
    [∀ state input, Decidable (condition state input)] :
    Machine State Input Output where
  init := machine.init
  step := fun state input =>
    if condition state input then machine.step state input else none

section Guards

variable {machine : Machine State Input Output}
  {condition : State → Input → Prop}
  [∀ state input, Decidable (condition state input)]

theorem guard_step {state next : State} {input : Input} {output : Output} :
    (machine.guard condition).step state input = some (next, output) ↔
      condition state input ∧
        machine.step state input = some (next, output) := by
  simp only [guard]
  split
  · rename_i met
    exact (and_iff_right met).symm
  · rename_i unmet
    apply iff_of_false
    · intro impossible
      cases impossible
    · intro both
      exact unmet both.1

end Guards

variable {Abstract : Type x} {Observed : Type*}

/-- A forward simulation: related states answer each input with related outputs
and go to related states. -/
structure Simulation (concrete : Machine State Input Output)
    (abstract : Machine Abstract Input Observed) where
  related : State → Abstract → Prop
  observes : Output → Observed → Prop
  init : related concrete.init abstract.init
  step : ∀ {state input next output spec},
    related state spec → concrete.step state input = some (next, output) →
      ∃ specNext observed,
        abstract.step spec input = some (specNext, observed) ∧
          related next specNext ∧ observes output observed

/-- Every run of the concrete machine is matched by a run of the abstract one on
the same inputs, with related outputs step by step. -/
theorem Simulation.run {concrete : Machine State Input Output}
    {abstract : Machine Abstract Input Observed}
    (simulation : Simulation concrete abstract)
    {trace : List (Input × Output)} {state : State}
    (run : Run concrete trace state) :
    ∃ observedTrace spec, Run abstract observedTrace spec ∧
      simulation.related state spec ∧
      observedTrace.map Prod.fst = trace.map Prod.fst ∧
      List.Forall₂ simulation.observes (trace.map Prod.snd)
        (observedTrace.map Prod.snd) := by
  induction run with
  | nil => exact ⟨[], _, .nil, simulation.init, rfl, .nil⟩
  | snoc earlier taken induction =>
      obtain ⟨observedTrace, spec, specRun, related, inputs, matched⟩ :=
        induction
      obtain ⟨specNext, observed, specTaken, relatedNext, observes⟩ :=
        simulation.step related taken
      refine ⟨_, specNext, specRun.snoc specTaken, relatedNext, ?_, ?_⟩
      · rw [List.map_append, List.map_append, inputs]
        rfl
      · rw [List.map_append, List.map_append]
        exact List.rel_append matched (.cons observes .nil)

end Machine

end ExLibp2p.Data
