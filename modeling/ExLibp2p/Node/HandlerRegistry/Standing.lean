import ExLibp2p.Node.HandlerRegistry.Mailbox

namespace ExLibp2p.Node.HandlerRegistry

open ExLibp2p.Data

variable {Pid EventType Event Ref : Type}
variable [DecidableEq Pid] [DecidableEq EventType]

/-! The subscribers a node is left with once the registry has handled its
mailbox, if none of them ends before. -/

def subscribers (registry : State Pid EventType Ref) (node : Pid) :
    List (EventType × Pid) :=
  registry.subscriptions.entries.flatMap fun entry =>
    if entry.1.1 = node then entry.2.map fun (pid, _) => (entry.1.2, pid)
    else []

def settle (node : Pid) (standing : List (EventType × Pid)) :
    Message Pid EventType Event Ref → List (EventType × Pid)
  | .call (.register other eventType pid) =>
      if other = node then (eventType, pid) :: standing else standing
  | .call (.unregister other eventType pid) =>
      if other = node then standing.filter (· ≠ (eventType, pid))
      else standing
  | .call (.cleanupNode other) => if other = node then [] else standing
  | _ => standing

def standing (before : System Pid EventType Event Ref) (node : Pid) :
    List (EventType × Pid) :=
  before.mailbox.foldl (settle node) (subscribers before.registry node)

theorem mem_subscribers {registry : State Pid EventType Ref} {node pid : Pid}
    {eventType : EventType} :
    (eventType, pid) ∈ subscribers registry node ↔
      ∃ ref, (pid, ref) ∈ registry.entriesAt (node, eventType) := by
  rw [subscribers, List.mem_flatMap]
  constructor
  · intro found
    obtain ⟨⟨⟨other, otherType⟩, entries⟩, member, listed⟩ := found
    split at listed
    · rename_i same
      obtain ⟨⟨_, ref⟩, stored, equal⟩ := List.mem_map.mp listed
      cases equal
      cases same
      exact ⟨ref, mem_entriesAt.mpr ⟨entries, member, stored⟩⟩
    · contradiction
  · intro found
    obtain ⟨ref, stored⟩ := found
    obtain ⟨entries, member, listed⟩ := mem_entriesAt.mp stored
    refine ⟨⟨(node, eventType), entries⟩, member, ?_⟩
    rw [if_pos rfl]
    exact List.mem_map_of_mem listed

theorem settle_mono (node : Pid) {first second : List (EventType × Pid)}
    (included : first ⊆ second) (message : Message Pid EventType Event Ref) :
    settle node first message ⊆ settle node second message := by
  unfold settle
  split
  · split
    · exact List.cons_subset_cons _ included
    · exact included
  · split
    · exact List.filter_subset _ included
    · exact included
  · split
    · exact List.Subset.refl []
    · exact included
  · exact included

theorem foldl_settle_mono (node : Pid)
    (mailbox : List (Message Pid EventType Event Ref))
    {first second : List (EventType × Pid)} (included : first ⊆ second) :
    mailbox.foldl (settle node) first ⊆
      mailbox.foldl (settle node) second := by
  induction mailbox generalizing first second with
  | nil => exact included
  | cons message rest induction =>
      exact induction (settle_mono node included message)

theorem standing_exit (before : System Pid EventType Event Ref)
    (pid node : Pid) :
    standing (before.exit pid) node = standing before node := by
  have ignored : ∀ (entries : List (Sigma fun _ : Ref => Pid))
      (initial : List (EventType × Pid)),
      (entries.map fun entry =>
        (.info (.down entry.1 pid) : Message Pid EventType Event Ref)).foldl
          (settle node) initial = initial := by
    intro entries initial
    induction entries with
    | nil => rfl
    | cons entry rest induction => exact induction
  simp only [standing, System.exit, List.foldl_append]
  exact ignored _ _

theorem standing_enqueue (before : System Pid EventType Event Ref)
    (message : Message Pid EventType Event Ref) (node : Pid) :
    standing { before with mailbox := before.mailbox ++ [message] } node =
      settle node (standing before node) message := by
  simp only [standing, List.foldl_append]
  rfl

/-- No live process but the node itself is left registered with it. -/
def Abandoned (before : System Pid EventType Event Ref) (node : Pid) : Prop :=
  ∀ entry ∈ standing before node, entry.2 = node ∨ entry.2 ∈ before.dead

instance (before : System Pid EventType Event Ref) (node : Pid) :
    Decidable (Abandoned before node) :=
  inferInstanceAs (Decidable (∀ entry ∈ standing before node,
    entry.2 = node ∨ entry.2 ∈ before.dead))

theorem Abandoned.mono {before after : System Pid EventType Event Ref}
    {node : Pid} (abandoned : Abandoned before node)
    (left : standing after node ⊆ standing before node)
    (dead : before.dead ⊆ after.dead) : Abandoned after node := by
  intro entry member
  rcases abandoned entry (left member) with self | ended
  · exact .inl self
  · exact .inr (dead ended)

theorem Abandoned.call {before : System Pid EventType Event Ref} {node : Pid}
    (abandoned : Abandoned before node) {request : Call Pid EventType}
    (unwanted : ∀ eventType pid, request = .register node eventType pid →
      pid = node ∨ pid ∈ before.dead) :
    Abandoned { before with mailbox := before.mailbox ++ [.call request] }
      node := by
  intro entry member
  rw [standing_enqueue] at member
  cases request with
  | register other eventType pid =>
      simp only [settle] at member
      split at member
      · rename_i same
        subst same
        rcases List.mem_cons.mp member with new | old
        · subst new
          exact unwanted eventType pid rfl
        · exact abandoned entry old
      · exact abandoned entry member
  | unregister other eventType pid =>
      simp only [settle] at member
      split at member
      · exact abandoned entry (List.mem_filter.mp member).1
      · exact abandoned entry member
  | cleanupNode other =>
      simp only [settle] at member
      split at member
      · contradiction
      · exact abandoned entry member
  | count other eventType => exact abandoned entry member
  | sync => exact abandoned entry member
  | unknown => exact abandoned entry member

variable [DecidableEq Ref]

theorem foldl_settle_flush (node : Pid) (ref : Ref)
    (mailbox : List (Message Pid EventType Event Ref))
    (initial : List (EventType × Pid)) :
    (flush ref mailbox).foldl (settle node) initial =
      mailbox.foldl (settle node) initial := by
  induction mailbox generalizing initial with
  | nil => rfl
  | cons message rest induction =>
      rw [flush, List.filter_cons]
      split
      · exact induction _
      · rename_i dropped
        cases isDown : asDown message with
        | none => simp [isDown] at dropped
        | some down =>
            rw [asDown_eq_some] at isDown
            subst isDown
            exact induction _

theorem standing_apply (before : System Pid EventType Event Ref)
    (effect : Effect Pid EventType Event Ref) (node : Pid) :
    standing (before.apply effect) node = standing before node ∧
      (before.apply effect).dead = before.dead := by
  cases effect with
  | monitor pid ref =>
      simp only [System.apply]
      split
      · refine ⟨?_, rfl⟩
        simp only [standing, List.foldl_append]
        rfl
      · exact ⟨rfl, rfl⟩
  | demonitor ref => exact ⟨foldl_settle_flush node ref _ _, rfl⟩
  | send pid eventType event => exact ⟨rfl, rfl⟩

theorem standing_foldl_apply (before : System Pid EventType Event Ref)
    (effects : List (Effect Pid EventType Event Ref)) (node : Pid) :
    standing (effects.foldl System.apply before) node = standing before node ∧
      (effects.foldl System.apply before).dead = before.dead := by
  induction effects generalizing before with
  | nil => exact ⟨rfl, rfl⟩
  | cons effect rest induction =>
      obtain ⟨left, dead⟩ := standing_apply before effect node
      obtain ⟨restLeft, restDead⟩ := induction (before.apply effect)
      exact ⟨restLeft.trans left, restDead.trans dead⟩

theorem subscribers_transition {ref : Ref}
    {state next : State Pid EventType Ref}
    {message : Message Pid EventType Event Ref} {reply : Reply}
    {effects : List (Effect Pid EventType Event Ref)}
    (wellFormed : WellFormed state)
    (transition : Transition ref state message reply next effects)
    (node : Pid) :
    subscribers next node ⊆ settle node (subscribers state node) message := by
  intro ⟨eventType, pid⟩ member
  obtain ⟨own, stored⟩ := mem_subscribers.mp member
  cases transition with
  | registered absent =>
      rw [mem_entriesAt_add] at stored
      simp only [settle]
      rcases stored with kept | ⟨rfl, rfl, equal⟩
      · have remains := mem_subscribers.mpr ⟨own, kept⟩
        split
        · exact List.mem_cons_of_mem _ remains
        · exact remains
      · cases equal
        rw [if_pos rfl]
        exact List.mem_cons_self
  | alreadyRegistered =>
      simp only [settle]
      split
      · exact List.mem_cons_of_mem _ member
      · exact member
  | unregistered =>
      rw [mem_entriesAt_remove wellFormed] at stored
      obtain ⟨kept, different⟩ := stored
      have remains := mem_subscribers.mpr ⟨own, kept⟩
      simp only [settle]
      split
      · rename_i same
        refine List.mem_filter.mpr ⟨remains, decide_eq_true ?_⟩
        intro equal
        cases equal
        exact different ⟨same.symm, rfl, rfl⟩
      · exact remains
  | notRegistered absent =>
      simp only [settle]
      split
      · rename_i same
        subst same
        refine List.mem_filter.mpr ⟨member, decide_eq_true ?_⟩
        intro equal
        cases equal
        exact absent own stored
      · exact member
  | cleaned =>
      rw [mem_entriesAt_removeNode] at stored
      simp only [settle]
      rw [if_neg (Ne.symm stored.2)]
      exact mem_subscribers.mpr ⟨own, stored.1⟩
  | removedDead =>
      rw [mem_entriesAt_remove wellFormed] at stored
      exact mem_subscribers.mpr ⟨own, stored.1⟩
  | counted => exact member
  | synced => exact member
  | unknownCall => exact member
  | dispatched => exact member
  | unknownCast => exact member
  | staleDown => exact member
  | unexpected => exact member

theorem standing_handle {before after : System Pid EventType Event Ref}
    {ref : Ref} {output : Except Exception Reply} (tracked : Tracked before)
    (taken : system.step before (.handle ref) = some (after, output))
    (node : Pid) :
    standing after node ⊆ standing before node ∧ after.dead = before.dead := by
  cases waiting : before.mailbox with
  | nil => simp [system, waiting] at taken
  | cons message rest =>
      by_cases fresh : ref ∈ before.issued
      · simp [system, waiting, fresh] at taken
      · obtain ⟨reply, registry, effects, handled⟩ :=
          tracked.handle_isOk waiting ref
        simp only [system, waiting, if_neg fresh, handled] at taken
        cases taken
        obtain ⟨left, dead⟩ := standing_foldl_apply
          { before with registry := registry, mailbox := rest } effects node
        refine ⟨?_, dead⟩
        rw [left, standing, standing, waiting, List.foldl_cons]
        exact foldl_settle_mono node rest (subscribers_transition
          tracked.wellFormed (Transition.of_handle handled) node)

theorem Abandoned.step {before after : System Pid EventType Event Ref}
    {action : Action Pid EventType Event Ref}
    {output : Except Exception Reply} {node : Pid} (tracked : Tracked before)
    (abandoned : Abandoned before node)
    (unwanted : ∀ eventType pid,
      action = .call (.register node eventType pid) →
        pid = node ∨ pid ∈ before.dead)
    (taken : system.step before action = some (after, output)) :
    Abandoned after node := by
  cases action with
  | call request =>
      cases taken
      apply abandoned.call
      intro eventType pid same
      exact unwanted eventType pid (congrArg Action.call same)
  | cast request =>
      cases taken
      refine abandoned.mono ?_ (List.Subset.refl before.dead)
      rw [standing_enqueue]
      exact List.Subset.refl _
  | unexpected =>
      cases taken
      refine abandoned.mono ?_ (List.Subset.refl before.dead)
      rw [standing_enqueue]
      exact List.Subset.refl _
  | exit pid =>
      simp only [system] at taken
      split at taken
      · contradiction
      · cases taken
        refine abandoned.mono ?_ (List.subset_cons_self pid before.dead)
        rw [standing_exit]
        exact List.Subset.refl _
  | handle ref =>
      obtain ⟨left, dead⟩ := standing_handle tracked taken node
      apply abandoned.mono left
      rw [dead]
      exact List.Subset.refl _

theorem dead_step {before after : System Pid EventType Event Ref}
    {action : Action Pid EventType Event Ref}
    {output : Except Exception Reply} (tracked : Tracked before)
    (taken : system.step before action = some (after, output)) {pid : Pid}
    (dead : pid ∈ after.dead) : pid ∈ before.dead ∨ action = .exit pid := by
  cases action with
  | call request =>
      cases taken
      exact .inl dead
  | cast request =>
      cases taken
      exact .inl dead
  | unexpected =>
      cases taken
      exact .inl dead
  | exit other =>
      simp only [system] at taken
      split at taken
      · contradiction
      · cases taken
        rcases List.mem_cons.mp dead with same | old
        · subst same
          exact .inr rfl
        · exact .inl old
  | handle ref =>
      rw [(standing_handle tracked taken pid).2] at dead
      exact .inl dead

end ExLibp2p.Node.HandlerRegistry
