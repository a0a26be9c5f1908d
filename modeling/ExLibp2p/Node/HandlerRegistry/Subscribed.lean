import ExLibp2p.Node.HandlerRegistry.Refinement
import ExLibp2p.Node.HandlerRegistry.Standing

namespace ExLibp2p.Node.HandlerRegistry

open ExLibp2p.Data

variable {Pid EventType Event Ref : Type}

/-! A subscriber that stays, from the registry's side: what its mailbox holds
for the subscriber, and that nothing in it takes the subscription away. -/

def asRequest : Message Pid EventType Event Ref → Option (Call Pid EventType)
  | .call request => some request
  | _ => none

def requests (mailbox : List (Message Pid EventType Event Ref)) :
    List (Call Pid EventType) :=
  mailbox.filterMap asRequest

section Dispatches

variable [DecidableEq Pid]

def asDispatch (node : Pid) :
    Message Pid EventType Event Ref → Option (EventType × Event)
  | .cast (.dispatch other eventType event) =>
      if other = node then some (eventType, event) else none
  | _ => none

def dispatches (node : Pid) (mailbox : List (Message Pid EventType Event Ref)) :
    List (EventType × Event) :=
  mailbox.filterMap (asDispatch node)

def Action.dispatched (node : Pid) :
    Action Pid EventType Event Ref → List (EventType × Event)
  | .cast request =>
      dispatches node ([.cast request] : List (Message _ _ _ Ref))
  | _ => []

end Dispatches

theorem filterMap_downs {Item : Type}
    {choose : Message Pid EventType Event Ref → Option Item}
    (blind : ∀ ref pid, choose (.info (.down ref pid)) = none)
    (entries : List (Sigma fun _ : Ref => Pid)) (pid : Pid) :
    (entries.map fun entry =>
      (.info (.down entry.1 pid) : Message Pid EventType Event Ref)).filterMap
        choose = [] := by
  rw [List.filterMap_map]
  exact List.filterMap_eq_nil_iff.mpr fun entry _ => blind entry.1 pid

theorem filterMap_exit [DecidableEq Pid] {Item : Type}
    {choose : Message Pid EventType Event Ref → Option Item}
    (blind : ∀ ref pid, choose (.info (.down ref pid)) = none)
    (before : System Pid EventType Event Ref) (pid : Pid) :
    (before.exit pid).mailbox.filterMap choose =
      before.mailbox.filterMap choose := by
  simp only [System.exit, List.filterMap_append]
  rw [filterMap_downs blind, List.append_nil]

def Reported (before : System Pid EventType Event Ref) : Prop :=
  ∀ ref pid, (ref, pid) ∈ downs before.mailbox → pid ∈ before.dead

theorem Reported.enqueue {before : System Pid EventType Event Ref}
    (reported : Reported before) {message : Message Pid EventType Event Ref}
    (isClient : asDown message = none) :
    Reported { before with mailbox := before.mailbox ++ [message] } := by
  intro ref pid member
  rw [downs_append] at member
  rcases List.mem_append.mp member with old | new
  · exact reported ref pid old
  · rw [downs, List.filterMap_cons_none isClient] at new
    cases new

section Effects

variable [DecidableEq Ref] {Item : Type}
  {choose : Message Pid EventType Event Ref → Option Item}

theorem filterMap_flush
    (blind : ∀ ref pid, choose (.info (.down ref pid)) = none)
    (ref : Ref) (mailbox : List (Message Pid EventType Event Ref)) :
    (flush ref mailbox).filterMap choose = mailbox.filterMap choose := by
  induction mailbox with
  | nil => rfl
  | cons message rest induction =>
      rw [flush, List.filter_cons]
      split
      · rw [List.filterMap_cons, List.filterMap_cons, ← induction]
        rfl
      · rename_i dropped
        cases isDown : asDown message with
        | none => simp [isDown] at dropped
        | some down =>
            rw [asDown_eq_some] at isDown
            subst isDown
            rw [List.filterMap_cons_none (blind down.1 down.2)]
            exact induction

variable [DecidableEq Pid]

theorem registry_foldl_apply (before : System Pid EventType Event Ref)
    (effects : List (Effect Pid EventType Event Ref)) :
    (effects.foldl System.apply before).registry = before.registry := by
  induction effects generalizing before with
  | nil => rfl
  | cons effect rest induction =>
      refine (induction (before.apply effect)).trans ?_
      cases effect with
      | monitor pid ref =>
          simp only [System.apply]
          split <;> rfl
      | demonitor ref => rfl
      | send pid eventType event => rfl

theorem filterMap_foldl_apply
    (blind : ∀ ref pid, choose (.info (.down ref pid)) = none)
    (before : System Pid EventType Event Ref)
    (effects : List (Effect Pid EventType Event Ref)) :
    (effects.foldl System.apply before).mailbox.filterMap choose =
      before.mailbox.filterMap choose := by
  induction effects generalizing before with
  | nil => rfl
  | cons effect rest induction =>
      refine (induction (before.apply effect)).trans ?_
      cases effect with
      | monitor pid ref =>
          simp only [System.apply]
          split
          · rw [List.filterMap_append, List.filterMap_cons_none (blind ref pid)]
            exact List.append_nil _
          · rfl
      | demonitor ref => exact filterMap_flush blind ref before.mailbox
      | send pid eventType event => rfl

theorem Reported.apply {before : System Pid EventType Event Ref}
    (reported : Reported before) (effect : Effect Pid EventType Event Ref) :
    Reported (before.apply effect) := by
  intro ref pid member
  cases effect with
  | monitor watched own =>
      simp only [System.apply] at member ⊢
      split at member
      · rename_i ended
        rw [if_pos ended]
        rw [downs_append] at member
        rcases List.mem_append.mp member with old | new
        · exact reported ref pid old
        · cases List.mem_singleton.mp new
          exact ended
      · rename_i living
        rw [if_neg living]
        exact reported ref pid member
  | demonitor own =>
      simp only [System.apply, downs_flush] at member
      exact reported ref pid (List.mem_filter.mp member).1
  | send target eventType event => exact reported ref pid member

theorem Reported.foldl_apply {before : System Pid EventType Event Ref}
    (reported : Reported before)
    (effects : List (Effect Pid EventType Event Ref)) :
    Reported (effects.foldl System.apply before) := by
  induction effects generalizing before with
  | nil => exact reported
  | cons effect rest induction => exact induction (reported.apply effect)

theorem Reported.exit {before : System Pid EventType Event Ref}
    (reported : Reported before) (pid : Pid) : Reported (before.exit pid) := by
  intro ref other member
  rcases (downs_exit before pid).mp member with old | ⟨rfl, -⟩
  · exact List.mem_cons_of_mem _ (reported ref other old)
  · exact List.mem_cons_self

end Effects

variable [DecidableEq Pid] [DecidableEq EventType]

/-- The process lives, the registry has it on its list, and no message on the
way to the registry strikes it off. -/
structure Subscribed (before : System Pid EventType Event Ref) (node : Pid)
    (eventType : EventType) (pid : Pid) : Prop where
  alive : pid ∉ before.dead
  listed : ∃ ref, (pid, ref) ∈ before.registry.entriesAt (node, eventType)
  kept : .unregister node eventType pid ∉ requests before.mailbox
  nodeKept : .cleanupNode node ∉ requests before.mailbox

structure Stays (node : Pid) (eventType : EventType) (pid : Pid)
    (action : Action Pid EventType Event Ref) : Prop where
  subscribed : action ≠ .call (.unregister node eventType pid)
  running : action ≠ .call (.cleanupNode node)
  alive : action ≠ .exit pid

theorem Subscribed.mem {before : System Pid EventType Event Ref}
    {node pid : Pid} {eventType : EventType}
    (subscribed : Subscribed before node eventType pid) :
    pid ∈ (before.registry.entriesAt (node, eventType)).map Prod.fst := by
  obtain ⟨ref, stored⟩ := subscribed.listed
  exact List.mem_map_of_mem stored

theorem Subscribed.enqueue {before : System Pid EventType Event Ref}
    {node pid : Pid} {eventType : EventType}
    (subscribed : Subscribed before node eventType pid)
    {message : Message Pid EventType Event Ref}
    (kept : message ≠ .call (.unregister node eventType pid))
    (nodeKept : message ≠ .call (.cleanupNode node)) :
    Subscribed { before with mailbox := before.mailbox ++ [message] } node
      eventType pid where
  alive := subscribed.alive
  listed := subscribed.listed
  kept := by
    rw [requests, List.filterMap_append, List.mem_append]
    rintro (old | new)
    · exact subscribed.kept old
    · cases message with
      | call request =>
          obtain rfl := List.mem_singleton.mp new
          exact kept rfl
      | cast request => cases new
      | info signal => cases new
  nodeKept := by
    rw [requests, List.filterMap_append, List.mem_append]
    rintro (old | new)
    · exact subscribed.nodeKept old
    · cases message with
      | call request =>
          obtain rfl := List.mem_singleton.mp new
          exact nodeKept rfl
      | cast request => cases new
      | info signal => cases new

variable [DecidableEq Ref]

/-- The message that an action has the registry handle, with its effects. -/
def System.handling (before : System Pid EventType Event Ref) :
    Action Pid EventType Event Ref →
      Option (Message Pid EventType Event Ref ×
        List (Effect Pid EventType Event Ref))
  | .handle ref =>
      match before.mailbox with
      | [] => none
      | message :: _ =>
          match handle ref message before.registry with
          | .ok (_, _, effects) => some (message, effects)
          | .error _ => some (message, [])
  | _ => none

theorem Tracked.handle_cases {before after : System Pid EventType Event Ref}
    {ref : Ref} {output : Except Exception Reply} (tracked : Tracked before)
    (taken : system.step before (.handle ref) = some (after, output)) :
    ∃ message rest reply registry effects,
      before.mailbox = message :: rest ∧
        before.handling (.handle ref) = some (message, effects) ∧
        Transition ref before.registry message reply registry effects ∧
        after = effects.foldl System.apply
          { before with registry := registry, mailbox := rest } := by
  cases waiting : before.mailbox with
  | nil => simp [system, waiting] at taken
  | cons message rest =>
      by_cases fresh : ref ∈ before.issued
      · simp [system, waiting, fresh] at taken
      · obtain ⟨reply, registry, effects, handled⟩ :=
          tracked.handle_isOk waiting ref
        simp only [system, waiting, if_neg fresh, handled] at taken
        cases taken
        refine ⟨message, rest, reply, registry, effects, rfl, ?_,
          Transition.of_handle handled, rfl⟩
        simp only [System.handling, waiting, handled]

theorem Reported.preserved {before after : System Pid EventType Event Ref}
    {action : Action Pid EventType Event Ref}
    {output : Except Exception Reply} (tracked : Tracked before)
    (reported : Reported before)
    (taken : system.step before action = some (after, output)) :
    Reported after := by
  cases action with
  | call request =>
      cases taken
      exact reported.enqueue rfl
  | cast request =>
      cases taken
      exact reported.enqueue rfl
  | unexpected =>
      cases taken
      exact reported.enqueue rfl
  | exit pid =>
      simp only [system] at taken
      split at taken
      · contradiction
      · cases taken
        exact reported.exit pid
  | handle ref =>
      obtain ⟨message, rest, reply, registry, effects, waiting, -, -, rfl⟩ :=
        tracked.handle_cases taken
      apply Reported.foldl_apply
      intro other pid member
      apply reported other pid
      rw [waiting, mem_downs]
      exact List.mem_cons_of_mem _ (mem_downs.mp member)

theorem Reported.of_run
    {trace : List (Action Pid EventType Event Ref × Except Exception Reply)}
    {reached : System Pid EventType Event Ref}
    (run : Machine.Run system trace reached) : Reported reached := by
  refine run.invariant (fun _ state => Reported state) ?_ ?_
  · intro ref pid member
    cases member
  · intro trace before action after output earlier reported taken
    exact reported.preserved (.of_run earlier) taken

theorem Transition.listed {ref : Ref} {state next : State Pid EventType Ref}
    {message : Message Pid EventType Event Ref} {reply : Reply}
    {effects : List (Effect Pid EventType Event Ref)}
    (wellFormed : WellFormed state)
    (transition : Transition ref state message reply next effects)
    {node pid : Pid} {eventType : EventType}
    (listed : ∃ own, (pid, own) ∈ state.entriesAt (node, eventType))
    (kept : message ≠ .call (.unregister node eventType pid))
    (nodeKept : message ≠ .call (.cleanupNode node))
    (alive : ∀ own, message ≠ .info (.down own pid)) :
    ∃ own, (pid, own) ∈ next.entriesAt (node, eventType) := by
  obtain ⟨own, stored⟩ := listed
  cases transition with
  | registered absent => exact ⟨own, (mem_entriesAt_add ..).mpr (.inl stored)⟩
  | unregistered =>
      refine ⟨own, (mem_entriesAt_remove wellFormed ..).mpr ⟨stored, ?_⟩⟩
      rintro ⟨rfl, rfl, rfl⟩
      exact kept rfl
  | cleaned =>
      refine ⟨own, (mem_entriesAt_removeNode ..).mpr ⟨stored, ?_⟩⟩
      rintro rfl
      exact nodeKept rfl
  | removedDead =>
      refine ⟨own, (mem_entriesAt_remove wellFormed ..).mpr ⟨stored, ?_⟩⟩
      rintro ⟨-, -, rfl⟩
      exact alive _ rfl
  | _ => exact ⟨own, stored⟩

theorem Subscribed.handle {before after : System Pid EventType Event Ref}
    {node pid : Pid} {eventType : EventType} {ref : Ref}
    {output : Except Exception Reply} (tracked : Tracked before)
    (reported : Reported before)
    (subscribed : Subscribed before node eventType pid)
    (taken : system.step before (.handle ref) = some (after, output)) :
    Subscribed after node eventType pid := by
  have dead := (standing_handle tracked taken node).2
  obtain ⟨message, rest, reply, registry, effects, waiting, -, transition,
    rfl⟩ := tracked.handle_cases taken
  have first : message ∈ before.mailbox := by
    rw [waiting]
    exact List.mem_cons_self
  have waits : requests (effects.foldl System.apply
      { before with registry := registry, mailbox := rest }).mailbox ⊆
        requests before.mailbox := by
    rw [requests, filterMap_foldl_apply (fun _ _ => rfl), waiting]
    exact List.filterMap_subset asRequest (List.subset_cons_self message rest)
  have asked : ∀ request, message = .call request →
      request ∈ requests before.mailbox := by
    rintro request rfl
    exact List.mem_filterMap.mpr ⟨_, first, rfl⟩
  refine ⟨?_, ?_, fun old => subscribed.kept (waits old),
    fun old => subscribed.nodeKept (waits old)⟩
  · rw [dead]
    exact subscribed.alive
  · rw [registry_foldl_apply]
    apply transition.listed tracked.wellFormed subscribed.listed
    · intro same
      exact subscribed.kept (asked _ same)
    · intro same
      exact subscribed.nodeKept (asked _ same)
    · rintro own rfl
      exact subscribed.alive (reported own pid (mem_downs.mpr first))

theorem Subscribed.preserved {before after : System Pid EventType Event Ref}
    {node pid : Pid} {eventType : EventType}
    {action : Action Pid EventType Event Ref}
    {output : Except Exception Reply} (tracked : Tracked before)
    (reported : Reported before)
    (subscribed : Subscribed before node eventType pid)
    (stays : Stays node eventType pid action)
    (taken : system.step before action = some (after, output)) :
    Subscribed after node eventType pid := by
  cases action with
  | call request =>
      cases taken
      apply subscribed.enqueue
      · intro same
        cases same
        exact stays.subscribed rfl
      · intro same
        cases same
        exact stays.running rfl
  | cast request =>
      cases taken
      exact subscribed.enqueue nofun nofun
  | unexpected =>
      cases taken
      exact subscribed.enqueue nofun nofun
  | exit other =>
      simp only [system] at taken
      split at taken
      · contradiction
      · cases taken
        have waits : requests (before.exit other).mailbox =
            requests before.mailbox := filterMap_exit (fun _ _ => rfl) ..
        refine ⟨?_, subscribed.listed, ?_, ?_⟩
        · intro ended
          rcases List.mem_cons.mp ended with rfl | old
          · exact stays.alive rfl
          · exact subscribed.alive old
        · rw [waits]
          exact subscribed.kept
        · rw [waits]
          exact subscribed.nodeKept
  | handle ref => exact subscribed.handle tracked reported taken

theorem dispatches_step {before after : System Pid EventType Event Ref}
    {action : Action Pid EventType Event Ref}
    {output : Except Exception Reply} (tracked : Tracked before) (node : Pid)
    (taken : system.step before action = some (after, output)) :
    dispatches node before.mailbox ++ action.dispatched node =
      dispatches node ((before.handling action).toList.map Prod.fst) ++
        dispatches node after.mailbox := by
  cases action with
  | call request =>
      cases taken
      simp [dispatches, System.handling, Action.dispatched, asDispatch]
  | cast request =>
      cases taken
      simp [dispatches, System.handling, Action.dispatched]
  | unexpected =>
      cases taken
      simp [dispatches, System.handling, Action.dispatched, asDispatch]
  | exit pid =>
      simp only [system] at taken
      split at taken
      · contradiction
      · cases taken
        refine (List.append_nil _).trans ?_
        exact (filterMap_exit (fun _ _ => rfl) ..).symm
  | handle ref =>
      obtain ⟨message, rest, reply, registry, effects, waiting, handling, -,
        rfl⟩ := tracked.handle_cases taken
      rw [handling, waiting]
      refine (List.append_nil _).trans ?_
      rw [dispatches, dispatches, dispatches,
        filterMap_foldl_apply (fun _ _ => rfl), ← List.filterMap_append]
      rfl

theorem sentTo_of_handling {before after : System Pid EventType Event Ref}
    {action : Action Pid EventType Event Ref}
    {output : Except Exception Reply} (tracked : Tracked before)
    (taken : system.step before action = some (after, output)) {node : Pid}
    {eventType : EventType} {event : Event}
    {effects : List (Effect Pid EventType Event Ref)}
    (handling : before.handling action =
      some (.cast (.dispatch node eventType event), effects)) (pid : Pid) :
    sentTo pid effects =
      if pid ∈ (before.registry.entriesAt (node, eventType)).map Prod.fst then
        [(eventType, event)]
      else [] := by
  cases action with
  | handle ref =>
      obtain ⟨message, rest, reply, registry, others, -, same, transition, -⟩ :=
        tracked.handle_cases taken
      rw [handling] at same
      cases same
      cases transition with
      | dispatched => exact sentTo_map_send (tracked.wellFormed.distinct _) ..
  | _ => cases handling

end ExLibp2p.Node.HandlerRegistry
