import ExLibp2p.Data.Machine
import Mathlib.Data.List.Nodup
import Mathlib.Data.List.Pairwise

namespace ExLibp2p.Data.Machine

universe u v w

/-! Where something in the state of a machine comes from. -/

section Origins

variable {State : Type u} {Input : Type v} {Output : Type w}
  {machine : Machine State Input Output} {trace : List (Input × Output)}
  {state : State}

theorem Run.origin {Item : Type*} (holds : State → Item → Prop)
    (puts : State → Input × Output → Item → Prop)
    (empty : ∀ item, ¬ holds machine.init item)
    (added : ∀ {state next input output item},
      machine.step state input = some (next, output) → holds next item →
        holds state item ∨ puts state (input, output) item)
    (run : Run machine trace state) {item : Item} (held : holds state item) :
    ∃ earlier before after entry, earlier ++ [entry] <+: trace ∧
      Run machine earlier before ∧
      machine.step before entry.1 = some (after, entry.2) ∧
      puts before entry item := by
  induction run with
  | nil => exact absurd held (empty item)
  | @snoc trace state next input output reached taken induction =>
      rcases added taken held with already | new
      · obtain ⟨earlier, before, after, entry, isPrefix, rest⟩ :=
          induction already
        exact ⟨earlier, before, after, entry,
          isPrefix.trans (List.prefix_append _ _), rest⟩
      · exact ⟨trace, state, next, (input, output), List.prefix_rfl, reached,
          taken, new⟩

theorem Run.before_of_mem (run : Run machine trace state)
    {entry : Input × Output} (member : entry ∈ trace) :
    ∃ earlier before after, earlier ++ [entry] <+: trace ∧
      Run machine earlier before ∧
      machine.step before entry.1 = some (after, entry.2) := by
  obtain ⟨earlier, later, rfl⟩ := List.append_of_mem member
  obtain ⟨before, after, reached, taken, -⟩ := run.step_of_mem
  exact ⟨earlier, before, after, ⟨later, (List.append_cons ..).symm⟩, reached,
    taken⟩

theorem mem_of_earlier {earlier : List (Input × Output)}
    {entry : Input × Output} (isPrefix : earlier ++ [entry] <+: trace) :
    entry ∈ trace :=
  isPrefix.subset (List.mem_append_right _ List.mem_cons_self)

theorem Run.of_guard {condition : State → Input → Prop}
    [∀ state input, Decidable (condition state input)]
    (run : Run (machine.guard condition) trace state) :
    Run machine trace state := by
  induction run with
  | nil => exact .nil
  | snoc earlier taken induction =>
      exact induction.snoc (guard_step.mp taken).2

theorem entry_unique {Entry Item : Type*} {entries : List Entry}
    {items : Entry → List Item} (distinct : (entries.flatMap items).Nodup)
    {first second : Entry} (isFirst : first ∈ entries)
    (isSecond : second ∈ entries) {item : Item} (inFirst : item ∈ items first)
    (inSecond : item ∈ items second) : first = second := by
  by_contra different
  have apart := (List.nodup_flatMap.mp distinct).2
  have symmetric : Std.Symm (Function.onFun List.Disjoint items) :=
    ⟨fun _ _ => List.disjoint_symm⟩
  exact apart.forall isFirst isSecond different inFirst inSecond

end Origins

/-! Machines that are built from others. A component stands in the state of the
whole, and takes a step of its own or none at each step of the whole. -/

section Components

variable {State Part : Type u} {Input PartInput : Type v}
  {Output PartOutput : Type w}

/-- What a component does while the whole goes from one state to the next. -/
def Follows (part : Machine Part PartInput PartOutput) (before after : Part) :
    Option (PartInput × PartOutput) → Prop
  | none => after = before
  | some (input, output) => part.step before input = some (after, output)

structure Component (whole : Machine State Input Output)
    (part : Machine Part PartInput PartOutput) where
  view : State → Part
  sees : Input × Output → Option (PartInput × PartOutput)
  init : view whole.init = part.init
  follows : ∀ {state input next output},
    whole.step state input = some (next, output) →
      part.Follows (view state) (view next) (sees (input, output))

/-- Every run of the whole holds a run of the component. -/
theorem Component.run {whole : Machine State Input Output}
    {part : Machine Part PartInput PartOutput}
    (component : Component whole part) {trace : List (Input × Output)}
    {state : State} (run : Run whole trace state) :
    Run part (trace.filterMap component.sees) (component.view state) := by
  induction run with
  | nil =>
      rw [component.init]
      exact .nil
  | @snoc trace state next input output earlier taken induction =>
      have followed := component.follows taken
      rw [List.filterMap_append]
      cases seen : component.sees (input, output) with
      | none =>
          rw [seen] at followed
          rw [List.filterMap_cons_none seen, List.filterMap_nil,
            List.append_nil, show component.view next = _ from followed]
          exact induction
      | some entry =>
          obtain ⟨partInput, partOutput⟩ := entry
          rw [seen] at followed
          rw [List.filterMap_cons_some seen, List.filterMap_nil]
          exact induction.snoc followed

end Components

end ExLibp2p.Data.Machine
