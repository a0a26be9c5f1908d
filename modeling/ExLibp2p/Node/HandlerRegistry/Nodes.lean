import ExLibp2p.Node.HandlerRegistry.Standing

namespace ExLibp2p.Node.HandlerRegistry

open ExLibp2p.Data

variable {Pid EventType Event Ref : Type}
variable [DecidableEq Pid] [DecidableEq EventType] [DecidableEq Ref]

/-! The nodes of `node.ex` around the registry: clients register through
`Node.register_handler/3`, and a node that runs `terminate/2` asks the registry
to drop its subscriptions before it ends. -/

structure Nodes (Pid EventType Event Ref : Type) where
  host : System Pid EventType Event Ref
  stopping : List Pid

/-- `Node.stop/1`, a shutdown by the supervisor and a crash in a callback all
run `terminate/2`, since a node traps exits. It is not run for a node that is
killed, nor for one whose `init/1` raises or stops, although its name is
registered before `init/1`. -/
inductive Termination
  | stop
  | shutdown
  | crash
  | kill
  | failedStart
  deriving DecidableEq

/-- Steps of the nodes, their subscribers and the registry. In the calls of
clients, `found` is what `GenServer.whereis/1` returned: it gives a pid back
without asking whether the process is alive. -/
inductive NodeAction (Pid EventType Event Ref : Type)
  | registerHandler (found : Option Pid) (eventType : EventType) (pid : Pid)
  | unregisterHandler (found : Option Pid) (eventType : EventType) (pid : Pid)
  | dispatchEvent (node : Pid) (eventType : EventType) (event : Event)
  | terminate (pid : Pid) (kind : Termination)
  | finish (node : Pid)
  | handle (ref : Ref)
  deriving DecidableEq

inductive Outcome
  | answer (reply : Except Exception Reply)
  | noNode
  deriving DecidableEq

namespace Nodes

def advance (before : Nodes Pid EventType Event Ref)
    (action : Action Pid EventType Event Ref) :
    Option (Nodes Pid EventType Event Ref × Outcome) :=
  (system.step before.host action).map fun (next, output) =>
    ({ before with host := next }, .answer output)

def registerHandler (before : Nodes Pid EventType Event Ref)
    (found : Option Pid) (eventType : EventType) (pid : Pid) :
    Option (Nodes Pid EventType Event Ref × Outcome) :=
  match found with
  | none => some (before, .noNode)
  | some node => before.advance (.call (.register node eventType pid))

def unregisterHandler (before : Nodes Pid EventType Event Ref)
    (found : Option Pid) (eventType : EventType) (pid : Pid) :
    Option (Nodes Pid EventType Event Ref × Outcome) :=
  match found with
  | none => some (before, .noNode)
  | some node => before.advance (.call (.unregister node eventType pid))

/-- The first effect of `terminate/2`. -/
def beginTerminate (before : Nodes Pid EventType Event Ref) (node : Pid) :
    Option (Nodes Pid EventType Event Ref × Outcome) :=
  if node ∈ before.host.dead ∨ node ∈ before.stopping then none
  else
    { before with stopping := node :: before.stopping }.advance
      (.call (.cleanupNode node))

end Nodes

def nodes : Machine (Nodes Pid EventType Event Ref)
    (NodeAction Pid EventType Event Ref) Outcome where
  init := { host := system.init, stopping := [] }
  step := fun before action =>
    match action with
    | .registerHandler found eventType pid =>
        before.registerHandler found eventType pid
    | .unregisterHandler found eventType pid =>
        before.unregisterHandler found eventType pid
    | .dispatchEvent node eventType event =>
        before.advance (.cast (.dispatch node eventType event))
    | .terminate pid .kill => before.advance (.exit pid)
    | .terminate node .failedStart =>
        if node ∈ before.stopping then none else before.advance (.exit node)
    | .terminate node .stop => before.beginTerminate node
    | .terminate node .shutdown => before.beginTerminate node
    | .terminate node .crash => before.beginTerminate node
    | .finish node =>
        if node ∈ before.stopping then before.advance (.exit node) else none
    | .handle ref => before.advance (.handle ref)

/-- Nothing is kept for a node that has ended once the registry has handled
every message sent to it. -/
def NoneOutlives (reached : Nodes Pid EventType Event Ref) : Prop :=
  ∀ node ∈ reached.host.dead, reached.host.mailbox = [] →
    (∀ eventType,
      reached.host.registry.subscriptions.lookup (node, eventType) = none) ∧
    ∀ ref pid eventType,
      reached.host.registry.monitors.lookup ref ≠
        some (pid, node, eventType)

/-- No node is killed or fails to start while a subscriber is registered with
it, and nobody registers with a node that has sent its cleanup or has ended. -/
def Considerate (before : Nodes Pid EventType Event Ref) :
    NodeAction Pid EventType Event Ref → Prop
  | .registerHandler (some node) _ pid =>
      node ∈ before.stopping ∨ node ∈ before.host.dead →
        pid = node ∨ pid ∈ before.host.dead
  | .terminate node .kill => Abandoned before.host node
  | .terminate node .failedStart => Abandoned before.host node
  | _ => True

instance (before : Nodes Pid EventType Event Ref) :
    (action : NodeAction Pid EventType Event Ref) →
      Decidable (Considerate before action)
  | .registerHandler (some node) _ pid =>
      inferInstanceAs (Decidable
        (node ∈ before.stopping ∨ node ∈ before.host.dead →
          pid = node ∨ pid ∈ before.host.dead))
  | .terminate node .kill =>
      inferInstanceAs (Decidable (Abandoned before.host node))
  | .terminate node .failedStart =>
      inferInstanceAs (Decidable (Abandoned before.host node))
  | .registerHandler none _ _ => isTrue trivial
  | .unregisterHandler _ _ _ => isTrue trivial
  | .dispatchEvent _ _ _ => isTrue trivial
  | .terminate _ .stop => isTrue trivial
  | .terminate _ .shutdown => isTrue trivial
  | .terminate _ .crash => isTrue trivial
  | .finish _ => isTrue trivial
  | .handle _ => isTrue trivial

structure Relinquished (reached : Nodes Pid EventType Event Ref) : Prop where
  tracked : Tracked reached.host
  abandoned : ∀ node, node ∈ reached.stopping ∨ node ∈ reached.host.dead →
    Abandoned reached.host node

theorem Relinquished.init :
    Relinquished (nodes : Machine (Nodes Pid EventType Event Ref) _ _).init
    where
  tracked := Tracked.init
  abandoned := by
    intro node ended
    rcases ended with isStopping | isDead
    · contradiction
    · contradiction

theorem Nodes.advance_eq_some {before after : Nodes Pid EventType Event Ref}
    {action : Action Pid EventType Event Ref} {outcome : Outcome}
    (taken : before.advance action = some (after, outcome)) :
    ∃ next output, system.step before.host action = some (next, output) ∧
      after = { before with host := next } := by
  simp only [Nodes.advance, Option.map_eq_some_iff, Prod.mk.injEq] at taken
  obtain ⟨⟨next, output⟩, stepped, same, -⟩ := taken
  exact ⟨next, output, stepped, same.symm⟩

theorem Relinquished.advance {before after : Nodes Pid EventType Event Ref}
    {action : Action Pid EventType Event Ref} {outcome : Outcome}
    (relinquished : Relinquished before)
    (unwanted : ∀ node eventType pid,
      action = .call (.register node eventType pid) →
        node ∈ before.stopping ∨ node ∈ before.host.dead →
          pid = node ∨ pid ∈ before.host.dead)
    (ending : ∀ pid, action = .exit pid → Abandoned before.host pid)
    (taken : before.advance action = some (after, outcome)) :
    Relinquished after := by
  obtain ⟨next, output, stepped, rfl⟩ := Nodes.advance_eq_some taken
  refine ⟨relinquished.tracked.preserved stepped, ?_⟩
  intro node ended
  have earlier : (node ∈ before.stopping ∨ node ∈ before.host.dead) ∨
      action = .exit node := by
    rcases ended with isStopping | isDead
    · exact .inl (.inl isStopping)
    · rcases dead_step relinquished.tracked stepped isDead with old | ends
      · exact .inl (.inr old)
      · exact .inr ends
  rcases earlier with old | ends
  · apply (relinquished.abandoned node old).step relinquished.tracked _ stepped
    intro eventType pid registers
    exact unwanted node eventType pid registers old
  · apply (ending node ends).step relinquished.tracked _ stepped
    intro eventType pid registers
    rw [ends] at registers
    contradiction

theorem Relinquished.beginTerminate
    {before after : Nodes Pid EventType Event Ref} {node : Pid}
    {outcome : Outcome} (relinquished : Relinquished before)
    (taken : before.beginTerminate node = some (after, outcome)) :
    Relinquished after := by
  simp only [Nodes.beginTerminate] at taken
  split at taken
  · contradiction
  · obtain ⟨next, output, stepped, rfl⟩ := Nodes.advance_eq_some taken
    refine ⟨relinquished.tracked.preserved stepped, ?_⟩
    intro other ended
    cases stepped
    by_cases same : other = node
    · subst same
      intro entry member
      rw [standing_enqueue, settle, if_pos rfl] at member
      contradiction
    · have old : other ∈ before.stopping ∨ other ∈ before.host.dead := by
        rcases ended with isStopping | isDead
        · exact .inl (List.mem_of_ne_of_mem same isStopping)
        · exact .inr isDead
      apply (relinquished.abandoned other old).call
      intro eventType pid registers
      contradiction

theorem Relinquished.preserved {before after : Nodes Pid EventType Event Ref}
    {action : NodeAction Pid EventType Event Ref} {outcome : Outcome}
    (relinquished : Relinquished before)
    (considerate : Considerate before action)
    (taken : nodes.step before action = some (after, outcome)) :
    Relinquished after := by
  cases action with
  | registerHandler found eventType pid =>
      cases found with
      | none =>
          cases taken
          exact relinquished
      | some node =>
          simp only [nodes, Nodes.registerHandler] at taken
          refine relinquished.advance ?_ (by simp) taken
          intro _ _ _ registers
          cases registers
          exact considerate
  | unregisterHandler found eventType pid =>
      cases found with
      | none =>
          cases taken
          exact relinquished
      | some node =>
          simp only [nodes, Nodes.unregisterHandler] at taken
          exact relinquished.advance (by simp) (by simp) taken
  | dispatchEvent node eventType event =>
      simp only [nodes] at taken
      exact relinquished.advance (by simp) (by simp) taken
  | terminate node kind =>
      cases kind with
      | stop | shutdown | crash => exact relinquished.beginTerminate taken
      | kill =>
          simp only [nodes] at taken
          refine relinquished.advance (by simp) ?_ taken
          intro _ ends
          cases ends
          exact considerate
      | failedStart =>
          simp only [nodes] at taken
          split at taken
          · contradiction
          · refine relinquished.advance (by simp) ?_ taken
            intro _ ends
            cases ends
            exact considerate
  | finish node =>
      simp only [nodes] at taken
      split at taken
      · rename_i isStopping
        refine relinquished.advance (by simp) ?_ taken
        intro _ ends
        cases ends
        exact relinquished.abandoned node (.inl isStopping)
      · contradiction
  | handle ref =>
      simp only [nodes] at taken
      exact relinquished.advance (by simp) (by simp) taken

theorem Relinquished.of_run
    {trace : List (NodeAction Pid EventType Event Ref × Outcome)}
    {reached : Nodes Pid EventType Event Ref}
    (run : Machine.Run (nodes.guard Considerate) trace reached) :
    Relinquished reached := by
  refine run.invariant (fun _ state => Relinquished state) Relinquished.init ?_
  intro _ _ _ _ _ _ relinquished taken
  obtain ⟨considerate, stepped⟩ := Machine.guard_step.mp taken
  exact relinquished.preserved considerate stepped

theorem Relinquished.entriesAt_eq_nil
    {reached : Nodes Pid EventType Event Ref}
    (relinquished : Relinquished reached) {node : Pid}
    (ended : node ∈ reached.host.dead) (drained : reached.host.mailbox = [])
    (eventType : EventType) :
    reached.host.registry.entriesAt (node, eventType) = [] := by
  rw [List.eq_nil_iff_forall_not_mem]
  intro ⟨pid, ref⟩ stored
  have tracked := relinquished.tracked
  have left : (eventType, pid) ∈ standing reached.host node := by
    rw [standing, drained]
    exact mem_subscribers.mpr ⟨ref, stored⟩
  have dead : pid ∈ reached.host.dead := by
    rcases relinquished.abandoned node (.inr ended) _ left with self | gone
    · cases self
      exact ended
    · exact gone
  have monitored := (tracked.wellFormed.inverse _ _ _ _).mp stored
  rcases tracked.watched monitored with isLive | isQueued
  · exact isLive.1 dead
  · rw [drained] at isQueued
    contradiction

/-- Subscriptions do not outlive their node in the runs in which no node is
killed or fails to start over its subscribers and none of them registers too
late. -/
theorem noneOutlives_of_considerate
    {trace : List (NodeAction Pid EventType Event Ref × Outcome)}
    {reached : Nodes Pid EventType Event Ref}
    (run : Machine.Run (nodes.guard Considerate) trace reached) :
    NoneOutlives reached := by
  have relinquished := Relinquished.of_run run
  have wellFormed := relinquished.tracked.wellFormed
  intro node ended drained
  have entries := relinquished.entriesAt_eq_nil ended drained
  constructor
  · intro eventType
    cases found : reached.host.registry.subscriptions.lookup
        (node, eventType) with
    | none => rfl
    | some stored =>
        have empty : stored = [] := by
          rw [← entries eventType, State.entriesAt, Dict.get, found]
          rfl
        exact absurd empty (wellFormed.occupied _ _ found)
  · intro ref pid eventType monitored
    have stored := (wellFormed.inverse _ _ _ _).mpr monitored
    rw [entries eventType] at stored
    contradiction

/-- A node crashes while one registration is stored and another one queued, and
its subscribers register with the node that takes its place. -/
def restarted : List (NodeAction Nat Nat Nat Nat) :=
  [.registerHandler (some 0) 7 1, .handle 10, .registerHandler (some 0) 8 2,
    .terminate 0 .crash, .registerHandler (some 3) 7 1, .handle 11,
    .handle 12, .finish 0, .handle 12]

theorem noneOutlives_restarted :
    ∃ trace reached,
      Machine.Run (nodes.guard Considerate) trace reached ∧
      trace.map Prod.fst = restarted ∧ reached.host.dead = [0] ∧
      reached.host.mailbox = [] ∧ NoneOutlives reached := by
  obtain ⟨trace, reached, executed, run, inputs⟩ :=
    Machine.exists_run_of_start
      (by decide : ((nodes.guard Considerate).start restarted).isSome)
  have final : ((nodes.guard Considerate).start restarted).map
      (fun result => (result.2.host.dead, result.2.host.mailbox)) =
        some ([0], []) := by
    decide
  rw [executed] at final
  simp only [Option.map_some, Option.some.injEq, Prod.mk.injEq] at final
  exact ⟨trace, reached, run, inputs, final.1, final.2,
    noneOutlives_of_considerate run⟩

def killed : List (NodeAction Nat Nat Nat Nat) :=
  [.registerHandler (some 0) 7 1, .handle 10, .terminate 0 .kill]

def failed : List (NodeAction Nat Nat Nat Nat) :=
  [.registerHandler (some 0) 7 1, .terminate 0 .failedStart, .handle 10]

def registeredLate : List (NodeAction Nat Nat Nat Nat) :=
  [.terminate 0 .stop, .handle 10, .registerHandler (some 0) 7 1, .finish 0,
    .handle 10]

theorem outlives_of_start {actions : List (NodeAction Nat Nat Nat Nat)}
    (accepted : (nodes.start actions).isSome)
    (final : (nodes.start actions).map (fun result =>
      (result.2.host.dead, result.2.host.mailbox,
        result.2.host.registry.subscriptions.lookup (0, 7))) =
      some ([0], [], some [(1, 10)])) :
    ∃ trace reached, Machine.Run nodes trace reached ∧
      trace.map Prod.fst = actions ∧ ¬ NoneOutlives reached := by
  obtain ⟨trace, reached, executed, run, inputs⟩ :=
    Machine.exists_run_of_start accepted
  rw [executed] at final
  simp only [Option.map_some, Option.some.injEq, Prod.mk.injEq] at final
  obtain ⟨dead, drained, stored⟩ := final
  refine ⟨trace, reached, run, inputs, ?_⟩
  intro noneOutlives
  have ended : 0 ∈ reached.host.dead := by
    rw [dead]
    exact List.mem_singleton_self 0
  have absent := (noneOutlives 0 ended drained).1 7
  rw [stored] at absent
  contradiction

theorem outlives_killed_failed_or_registeredLate :
    (∃ trace reached, Machine.Run nodes trace reached ∧
      trace.map Prod.fst = killed ∧ ¬ NoneOutlives reached) ∧
    (∃ trace reached, Machine.Run nodes trace reached ∧
      trace.map Prod.fst = failed ∧ ¬ NoneOutlives reached) ∧
    ∃ trace reached, Machine.Run nodes trace reached ∧
      trace.map Prod.fst = registeredLate ∧ ¬ NoneOutlives reached :=
  ⟨outlives_of_start (by decide) (by decide),
    outlives_of_start (by decide) (by decide),
    outlives_of_start (by decide) (by decide)⟩

end ExLibp2p.Node.HandlerRegistry
