import ExLibp2p.Data.Machine

namespace ExLibp2p.Data.Machine

universe u v w x

variable {State : Type u} {Input : Type v} {Output : Type w} {Item : Type x}

/-! Queues inside a machine. A queue that is read where it is oldest obeys one
law at each step, and queues that pass their items on to one another are one
queue again. -/

/-- Allowed steps lead from sound states to sound ones. -/
def Kept (machine : Machine State Input Output) (sound : State → Prop)
    (allowed : Input × Output → Prop) : Prop :=
  ∀ {state input next output}, sound state → allowed (input, output) →
    machine.step state input = some (next, output) → sound next

theorem Kept.steps {machine : Machine State Input Output}
    {sound : State → Prop} {allowed : Input × Output → Prop}
    (kept : Kept machine sound allowed) {start state : State}
    {trace : List (Input × Output)} (steps : Steps machine start trace state)
    (isSound : sound start) (areAllowed : ∀ entry ∈ trace, allowed entry) :
    sound state := by
  induction steps with
  | nil => exact isSound
  | snoc earlier taken induction =>
      obtain ⟨before, isAllowed⟩ := List.forall_mem_append.mp areAllowed
      exact kept (induction before) (isAllowed _ List.mem_cons_self) taken

/-- What a machine holds in order, with what enters it and what leaves it at
each step. The law is asked of sound states and allowed steps only. -/
structure Conduit (machine : Machine State Input Output) (Item : Type x)
    (sound : State → Prop) (allowed : Input × Output → Prop) where
  held : State → List Item
  enters : Input × Output → List Item
  leaves : Input × Output → List Item
  law : ∀ {state input next output}, sound state → allowed (input, output) →
    machine.step state input = some (next, output) →
      held state ++ enters (input, output) =
        leaves (input, output) ++ held next

namespace Conduit

variable {machine : Machine State Input Output} {sound : State → Prop}
  {allowed : Input × Output → Prop}

/-- Nothing is held between what is read and what is made of it. -/
def direct (enters leaves : Input × Output → List Item)
    (law : ∀ {state input next output}, sound state → allowed (input, output) →
      machine.step state input = some (next, output) →
        enters (input, output) = leaves (input, output)) :
    Conduit machine Item sound allowed where
  held := fun _ => []
  enters := enters
  leaves := leaves
  law := by
    intro state input next output isSound isAllowed taken
    rw [List.nil_append, List.append_nil]
    exact law isSound isAllowed taken

def andThen (first second : Conduit machine Item sound allowed)
    (meets : ∀ entry, second.enters entry = first.leaves entry) :
    Conduit machine Item sound allowed where
  held := fun state => second.held state ++ first.held state
  enters := first.enters
  leaves := second.leaves
  law := by
    intro state input next output isSound isAllowed taken
    have ahead := second.law isSound isAllowed taken
    rw [meets] at ahead
    rw [List.append_assoc, first.law isSound isAllowed taken,
      ← List.append_assoc, ahead, List.append_assoc]

def only (conduit : Conduit machine Item sound allowed) (keep : Item → Bool) :
    Conduit machine Item sound allowed where
  held := fun state => (conduit.held state).filter keep
  enters := fun entry => (conduit.enters entry).filter keep
  leaves := fun entry => (conduit.leaves entry).filter keep
  law := by
    intro state input next output isSound isAllowed taken
    rw [← List.filter_append, conduit.law isSound isAllowed taken,
      List.filter_append]

/-- What was held and what has entered since is what has left, followed by
what is still held: nothing is lost, doubled or overtaken. -/
theorem conserved (conduit : Conduit machine Item sound allowed)
    (kept : Kept machine sound allowed) {start state : State}
    {trace : List (Input × Output)} (steps : Steps machine start trace state)
    (isSound : sound start) (areAllowed : ∀ entry ∈ trace, allowed entry) :
    conduit.held start ++ trace.flatMap conduit.enters =
      trace.flatMap conduit.leaves ++ conduit.held state := by
  induction steps with
  | nil => exact List.append_nil _
  | @snoc trace state next input output earlier taken induction =>
      obtain ⟨before, isAllowed⟩ := List.forall_mem_append.mp areAllowed
      have last := conduit.law (kept.steps earlier isSound before)
        (isAllowed _ List.mem_cons_self) taken
      simp only [List.flatMap_append, List.flatMap_singleton]
      rw [← List.append_assoc, induction before, List.append_assoc, last,
        List.append_assoc]

end Conduit

end ExLibp2p.Data.Machine
