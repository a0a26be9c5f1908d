import ExLibp2p.Node.HandlerRegistry.Invariant
import Mathlib.Data.List.Nodup

namespace ExLibp2p.Node.HandlerRegistry

open ExLibp2p.Data

variable {Pid EventType Event Ref : Type}

/-! The registry process with its mailbox, the processes that have died and the
monitors that are active. -/

structure System (Pid EventType Event Ref : Type) where
  registry : State Pid EventType Ref
  mailbox : List (Message Pid EventType Event Ref)
  dead : List Pid
  active : Dict Ref Pid
  issued : List Ref

/-- A step of the system: a client message arrives, a process dies, or the
registry handles the first message of its mailbox. The reference is the one
that `Process.monitor/1` returns if it is called. -/
inductive Action (Pid EventType Event Ref : Type)
  | call (request : Call Pid EventType)
  | cast (request : Cast Pid EventType Event)
  | unexpected
  | exit (pid : Pid)
  | handle (ref : Ref)
  deriving DecidableEq

def asDown : Message Pid EventType Event Ref → Option (Ref × Pid)
  | .info (.down ref pid) => some (ref, pid)
  | _ => none

/-- The `:DOWN` messages of a mailbox. -/
def downs (mailbox : List (Message Pid EventType Event Ref)) :
    List (Ref × Pid) :=
  mailbox.filterMap asDown

theorem asDown_eq_some {message : Message Pid EventType Event Ref}
    {ref : Ref} {pid : Pid} :
    asDown message = some (ref, pid) ↔ message = .info (.down ref pid) := by
  unfold asDown
  split <;> simp_all

theorem mem_downs {mailbox : List (Message Pid EventType Event Ref)}
    {ref : Ref} {pid : Pid} :
    (ref, pid) ∈ downs mailbox ↔ .info (.down ref pid) ∈ mailbox := by
  simp [downs, asDown_eq_some]

@[simp] theorem downs_append
    (first second : List (Message Pid EventType Event Ref)) :
    downs (first ++ second) = downs first ++ downs second :=
  List.filterMap_append

variable [DecidableEq Ref]

/-- The `:flush` option of `Process.demonitor/2`. -/
def flush (ref : Ref) (mailbox : List (Message Pid EventType Event Ref)) :
    List (Message Pid EventType Event Ref) :=
  mailbox.filter fun message => (asDown message).all fun down => down.1 ≠ ref

theorem downs_flush (ref : Ref)
    (mailbox : List (Message Pid EventType Event Ref)) :
    downs (flush ref mailbox) =
      (downs mailbox).filter fun down => decide (down.1 ≠ ref) := by
  induction mailbox with
  | nil => rfl
  | cons message rest induction =>
      unfold downs flush at induction ⊢
      cases isDown : asDown message with
      | none =>
          simp only [List.filter_cons, isDown, Option.all_none, if_true,
            List.filterMap_cons, induction]
      | some down =>
          simp only [List.filter_cons, isDown, Option.all_some,
            List.filterMap_cons]
          split
          · rw [List.filterMap_cons, isDown]
            exact congrArg (down :: ·) induction
          · exact induction

variable [DecidableEq Pid]

namespace System

def apply (system : System Pid EventType Event Ref) :
    Effect Pid EventType Event Ref → System Pid EventType Event Ref
  | .monitor pid ref =>
      if pid ∈ system.dead then
        { system with
          mailbox := system.mailbox ++ [.info (.down ref pid)]
          issued := ref :: system.issued }
      else
        { system with
          active := system.active.insert ref pid
          issued := ref :: system.issued }
  | .demonitor ref =>
      { system with
        mailbox := flush ref system.mailbox
        active := system.active.erase ref }
  | .send _ _ _ => system

def exit (system : System Pid EventType Event Ref) (pid : Pid) :
    System Pid EventType Event Ref :=
  let watching := system.active.entries.filter fun entry => entry.2 = pid
  { system with
    mailbox := system.mailbox ++
      watching.map fun entry => .info (.down entry.1 pid)
    dead := pid :: system.dead
    active := Dict.retain (fun _ watched => watched ≠ pid) system.active }

end System

theorem foldl_apply_demonitor (before : System Pid EventType Event Ref)
    (refs : List Ref) :
    let after := (refs.map Effect.demonitor).foldl System.apply before
    after.registry = before.registry ∧ after.dead = before.dead ∧
      after.issued = before.issued ∧
      (∀ ref, after.active.lookup ref =
        if ref ∈ refs then none else before.active.lookup ref) ∧
      downs after.mailbox =
        (downs before.mailbox).filter fun down => decide (down.1 ∉ refs) := by
  induction refs generalizing before with
  | nil => simp
  | cons head tail induction =>
      obtain ⟨registry, dead, issued, active, mailbox⟩ :=
        induction (before.apply (.demonitor head))
      refine ⟨registry, dead, issued, ?_, ?_⟩
      · intro ref
        refine (active ref).trans ?_
        simp only [System.apply, Dict.lookup_erase_ite, List.mem_cons]
        grind
      · refine mailbox.trans ?_
        simp only [System.apply, downs_flush, List.filter_filter,
          List.mem_cons, not_or]
        congr
        funext down
        grind

theorem foldl_apply_send (before : System Pid EventType Event Ref)
    (entries : List (Pid × Ref)) (eventType : EventType) (event : Event) :
    (entries.map fun (pid, _) => Effect.send pid eventType event).foldl
      System.apply before = before := by
  induction entries with
  | nil => rfl
  | cons entry rest induction => exact induction

theorem downs_exit (before : System Pid EventType Event Ref) (pid : Pid)
    {ref : Ref} {other : Pid} :
    (ref, other) ∈ downs (before.exit pid).mailbox ↔
      (ref, other) ∈ downs before.mailbox ∨
        (other = pid ∧ before.active.lookup ref = some pid) := by
  simp only [System.exit, downs_append, List.mem_append]
  apply or_congr_right
  rw [mem_downs, List.mem_map]
  constructor
  · intro found
    obtain ⟨⟨watchedRef, watchedPid⟩, member, equal⟩ := found
    rw [List.mem_filter, decide_eq_true_eq] at member
    cases equal
    obtain ⟨stored, rfl⟩ := member
    exact ⟨rfl, Dict.mem_entries_iff.mp stored⟩
  · intro found
    obtain ⟨rfl, stored⟩ := found
    exact ⟨⟨ref, other⟩, List.mem_filter.mpr
      ⟨Dict.mem_entries_iff.mpr stored, decide_eq_true rfl⟩, rfl⟩

variable [DecidableEq EventType]

def system : Machine (System Pid EventType Event Ref)
    (Action Pid EventType Event Ref) (Except Exception Reply) where
  init :=
    { registry := State.init, mailbox := [], dead := [], active := ∅
      issued := [] }
  step := fun before action =>
    match action with
    | .call request =>
        some ({ before with mailbox := before.mailbox ++ [.call request] },
          .ok .noreply)
    | .cast request =>
        some ({ before with mailbox := before.mailbox ++ [.cast request] },
          .ok .noreply)
    | .unexpected =>
        some ({ before with
            mailbox := before.mailbox ++ [.info .unexpected] },
          .ok .noreply)
    | .exit pid =>
        if pid ∈ before.dead then none
        else some (before.exit pid, .ok .noreply)
    | .handle ref =>
        match before.mailbox with
        | [] => none
        | message :: rest =>
            if ref ∈ before.issued then none
            else
              match handle ref message before.registry with
              | .ok (reply, registry, effects) =>
                  some (effects.foldl System.apply
                    { before with registry := registry, mailbox := rest },
                    .ok reply)
              | .error exception =>
                  some ({ before with
                      registry := State.init, mailbox := [], active := ∅ },
                    .error exception)

/-! Every monitor of the registry is either active on a live process or has its
`:DOWN` in the mailbox, and nothing else is active or queued. -/

structure Tracked (before : System Pid EventType Event Ref) : Prop where
  wellFormed : WellFormed before.registry
  watched : ∀ {ref pid node eventType},
    before.registry.monitors.lookup ref = some (pid, node, eventType) →
      (pid ∉ before.dead ∧ before.active.lookup ref = some pid) ∨
        (ref, pid) ∈ downs before.mailbox
  queued : ∀ {ref pid}, (ref, pid) ∈ downs before.mailbox →
    ∃ node eventType,
      before.registry.monitors.lookup ref = some (pid, node, eventType)
  live : ∀ {ref pid}, before.active.lookup ref = some pid →
    pid ∉ before.dead ∧ (∃ node eventType,
      before.registry.monitors.lookup ref = some (pid, node, eventType)) ∧
      ∀ other, (ref, other) ∉ downs before.mailbox
  once : ((downs before.mailbox).map Prod.fst).Nodup
  issued : ∀ {ref}, (before.registry.monitors.lookup ref).isSome →
    ref ∈ before.issued

theorem Tracked.init :
    Tracked (system : Machine (System Pid EventType Event Ref) _ _).init where
  wellFormed := WellFormed.init
  watched := by
    intro ref pid node eventType found
    simp [system, State.init] at found
  queued := by
    intro ref pid member
    simp [system, downs] at member
  live := by
    intro ref pid found
    simp [system] at found
  once := List.nodup_nil
  issued := by
    intro ref found
    simp [system, State.init] at found

theorem Tracked.mailbox {before : System Pid EventType Event Ref}
    (tracked : Tracked before)
    {mailbox : List (Message Pid EventType Event Ref)}
    (same : downs mailbox = downs before.mailbox) :
    Tracked { before with mailbox := mailbox } where
  wellFormed := tracked.wellFormed
  watched := by
    intro ref pid node eventType found
    rw [same]
    exact tracked.watched found
  queued := by
    intro ref pid member
    rw [same] at member
    exact tracked.queued member
  live := by
    intro ref pid found
    rw [same]
    exact tracked.live found
  once := by
    rw [same]
    exact tracked.once
  issued := tracked.issued

theorem Tracked.enqueue {before : System Pid EventType Event Ref}
    (tracked : Tracked before) {message : Message Pid EventType Event Ref}
    (isClient : asDown message = none) :
    Tracked { before with mailbox := before.mailbox ++ [message] } := by
  apply tracked.mailbox
  rw [downs_append]
  simp [downs, isClient]

theorem Tracked.forget {before after : System Pid EventType Event Ref}
    (tracked : Tracked before) (refs : List Ref)
    (wellFormed : WellFormed after.registry)
    (monitors : ∀ ref, after.registry.monitors.lookup ref =
      if ref ∈ refs then none else before.registry.monitors.lookup ref)
    (active : ∀ ref, after.active.lookup ref =
      if ref ∈ refs then none else before.active.lookup ref)
    (mailbox : downs after.mailbox =
      (downs before.mailbox).filter fun down => decide (down.1 ∉ refs))
    (dead : after.dead = before.dead) (issued : after.issued = before.issued) :
    Tracked after where
  wellFormed := wellFormed
  watched := by
    intro ref pid node eventType found
    rw [monitors] at found
    split at found
    · contradiction
    · rename_i kept
      rw [dead, active, if_neg kept, mailbox]
      rcases tracked.watched found with isLive | isQueued
      · exact .inl isLive
      · exact .inr (List.mem_filter.mpr ⟨isQueued, decide_eq_true kept⟩)
  queued := by
    intro ref pid member
    rw [mailbox, List.mem_filter, decide_eq_true_eq] at member
    rw [monitors, if_neg member.2]
    exact tracked.queued member.1
  live := by
    intro ref pid found
    rw [active] at found
    split at found
    · contradiction
    · rename_i kept
      obtain ⟨alive, monitored, unqueued⟩ := tracked.live found
      rw [dead, monitors, if_neg kept, mailbox]
      refine ⟨alive, monitored, ?_⟩
      intro other member
      exact unqueued other (List.mem_filter.mp member).1
  once := by
    rw [mailbox]
    exact tracked.once.sublist (List.filter_sublist.map Prod.fst)
  issued := by
    intro ref found
    rw [monitors] at found
    split at found
    · contradiction
    · rw [issued]
      exact tracked.issued found

theorem Tracked.exit {before : System Pid EventType Event Ref}
    (tracked : Tracked before) (pid : Pid) : Tracked (before.exit pid) where
  wellFormed := tracked.wellFormed
  watched := by
    intro ref owner node eventType found
    rw [downs_exit]
    rcases tracked.watched found with ⟨alive, active⟩ | isQueued
    · cases Decidable.em (owner = pid) with
      | inl same =>
          subst same
          exact .inr (.inr ⟨rfl, active⟩)
      | inr different =>
          refine .inl ⟨?_, ?_⟩
          · simpa [System.exit, different] using alive
          · simp [System.exit, Dict.lookup_retain, active, different]
    · exact .inr (.inl isQueued)
  queued := by
    intro ref owner member
    rw [downs_exit] at member
    rcases member with isQueued | ⟨rfl, active⟩
    · exact tracked.queued isQueued
    · exact (tracked.live active).2.1
  live := by
    intro ref owner found
    simp only [System.exit, Dict.lookup_retain, Option.filter_eq_some_iff,
      decide_eq_true_eq] at found
    obtain ⟨active, different⟩ := found
    obtain ⟨alive, monitored, unqueued⟩ := tracked.live active
    refine ⟨?_, monitored, ?_⟩
    · simpa [System.exit, different] using alive
    · intro other member
      rw [downs_exit] at member
      rcases member with isQueued | ⟨-, same⟩
      · exact unqueued other isQueued
      · rw [active] at same
        exact different (Option.some.inj same)
  once := by
    have watching : downs ((before.active.entries.filter fun entry =>
        decide (entry.2 = pid)).map fun entry =>
          (.info (.down entry.1 pid) : Message Pid EventType Event Ref)) =
        (before.active.entries.filter fun entry =>
          decide (entry.2 = pid)).map fun entry => (entry.1, pid) := by
      simp [downs, List.filterMap_map, Function.comp_def, asDown]
    simp only [System.exit, downs_append, watching, List.map_append,
      List.map_map]
    rw [List.nodup_append]
    refine ⟨tracked.once, ?_, ?_⟩
    · exact before.active.keys_nodup.sublist
        (List.filter_sublist.map Sigma.fst)
    · intro ref isQueued other isWatching same
      subst same
      obtain ⟨⟨_, owner⟩, member, rfl⟩ := List.mem_map.mp isQueued
      obtain ⟨⟨watchedRef, watchedPid⟩, stored, rfl⟩ :=
        List.mem_map.mp isWatching
      have active := Dict.mem_entries_iff.mp (List.mem_filter.mp stored).1
      exact (tracked.live active).2.2 owner member
  issued := tracked.issued

theorem Tracked.unmonitored {before : System Pid EventType Event Ref}
    (tracked : Tracked before) {ref : Ref} (fresh : ref ∉ before.issued) :
    before.registry.monitors.lookup ref = none := by
  cases found : before.registry.monitors.lookup ref with
  | none => rfl
  | some owner =>
      have monitored : (before.registry.monitors.lookup ref).isSome := by
        rw [found]
        rfl
      exact absurd (tracked.issued monitored) fresh

theorem Tracked.unqueued {before : System Pid EventType Event Ref}
    (tracked : Tracked before) {ref : Ref} (fresh : ref ∉ before.issued)
    (pid : Pid) : (ref, pid) ∉ downs before.mailbox := by
  intro member
  obtain ⟨node, eventType, found⟩ := tracked.queued member
  rw [tracked.unmonitored fresh] at found
  contradiction

theorem Tracked.queued_ne {before : System Pid EventType Event Ref}
    (tracked : Tracked before) {ref other : Ref} {pid : Pid}
    (fresh : ref ∉ before.issued)
    (isQueued : (other, pid) ∈ downs before.mailbox) : other ≠ ref := by
  intro same
  subst same
  exact tracked.unqueued fresh pid isQueued

theorem Tracked.issued_add {before : System Pid EventType Event Ref}
    (tracked : Tracked before) {node : Pid} {eventType : EventType} {pid : Pid}
    {ref other : Ref}
    (found : ((before.registry.add node eventType pid ref).monitors.lookup
      other).isSome) : other ∈ ref :: before.issued := by
  rw [State.add, Dict.lookup_insert_ite] at found
  split at found
  · rename_i same
    exact List.mem_cons.mpr (.inl same)
  · exact List.mem_cons_of_mem ref (tracked.issued found)

theorem Tracked.add_alive {before : System Pid EventType Event Ref}
    (tracked : Tracked before) {node : Pid} {eventType : EventType} {pid : Pid}
    {ref : Ref} (fresh : ref ∉ before.issued)
    (absent : ∀ other,
      (pid, other) ∉ before.registry.entriesAt (node, eventType))
    (alive : pid ∉ before.dead) :
    Tracked { before with
      registry := before.registry.add node eventType pid ref
      active := before.active.insert ref pid
      issued := ref :: before.issued } where
  wellFormed := tracked.wellFormed.add (tracked.unmonitored fresh) absent
  watched := by
    intro other owner otherNode otherType found
    rw [State.add, Dict.lookup_insert_ite] at found
    rw [Dict.lookup_insert_ite]
    split at found
    · rename_i same
      cases found
      exact .inl ⟨alive, if_pos same⟩
    · rename_i different
      rw [if_neg different]
      exact tracked.watched found
  queued := by
    intro other owner member
    rw [State.add, Dict.lookup_insert_ite,
      if_neg (tracked.queued_ne fresh member)]
    exact tracked.queued member
  live := by
    intro other owner found
    rw [State.add, Dict.lookup_insert_ite]
    rw [Dict.lookup_insert_ite] at found
    split at found
    · rename_i same
      cases found
      subst same
      exact ⟨alive, ⟨node, eventType, if_pos rfl⟩, tracked.unqueued fresh⟩
    · rename_i different
      rw [if_neg different]
      exact tracked.live found
  once := tracked.once
  issued := tracked.issued_add

theorem Tracked.add_dead {before : System Pid EventType Event Ref}
    (tracked : Tracked before) {node : Pid} {eventType : EventType} {pid : Pid}
    {ref : Ref} (fresh : ref ∉ before.issued)
    (absent : ∀ other,
      (pid, other) ∉ before.registry.entriesAt (node, eventType)) :
    Tracked { before with
      registry := before.registry.add node eventType pid ref
      mailbox := before.mailbox ++ [.info (.down ref pid)]
      issued := ref :: before.issued } where
  wellFormed := tracked.wellFormed.add (tracked.unmonitored fresh) absent
  watched := by
    intro other owner otherNode otherType found
    rw [State.add, Dict.lookup_insert_ite] at found
    rw [downs_append, List.mem_append]
    split at found
    · rename_i same
      cases found
      subst same
      exact .inr (.inr (List.mem_singleton_self _))
    · rcases tracked.watched found with isLive | isQueued
      · exact .inl isLive
      · exact .inr (.inl isQueued)
  queued := by
    intro other owner member
    rw [State.add, Dict.lookup_insert_ite]
    rw [downs_append, List.mem_append] at member
    rcases member with isQueued | isNew
    · rw [if_neg (tracked.queued_ne fresh isQueued)]
      exact tracked.queued isQueued
    · cases List.mem_singleton.mp isNew
      exact ⟨node, eventType, if_pos rfl⟩
  live := by
    intro other owner found
    obtain ⟨alive, ⟨otherNode, otherType, monitored⟩, unqueued⟩ :=
      tracked.live found
    have different : other ≠ ref := by
      intro same
      subst same
      rw [tracked.unmonitored fresh] at monitored
      contradiction
    refine ⟨alive, ⟨otherNode, otherType, ?_⟩, ?_⟩
    · rw [State.add, Dict.lookup_insert_ite, if_neg different]
      exact monitored
    · intro watched member
      rw [downs_append, List.mem_append] at member
      rcases member with isQueued | isNew
      · exact unqueued watched isQueued
      · cases List.mem_singleton.mp isNew
        exact different rfl
  once := by
    rw [downs_append, List.map_append, List.nodup_append]
    refine ⟨tracked.once, List.nodup_singleton ref, ?_⟩
    intro other isQueued watched isNew
    cases List.mem_singleton.mp isNew
    obtain ⟨⟨_, owner⟩, member, rfl⟩ := List.mem_map.mp isQueued
    exact tracked.queued_ne fresh member
  issued := tracked.issued_add

theorem Tracked.add {before : System Pid EventType Event Ref}
    (tracked : Tracked before) {node : Pid} {eventType : EventType} {pid : Pid}
    {ref : Ref} (fresh : ref ∉ before.issued)
    (absent : ∀ other,
      (pid, other) ∉ before.registry.entriesAt (node, eventType)) :
    Tracked (System.apply
      { before with registry := before.registry.add node eventType pid ref }
      (.monitor pid ref)) := by
  simp only [System.apply]
  split
  · exact tracked.add_dead fresh absent
  · rename_i alive
    exact tracked.add_alive fresh absent alive

theorem Tracked.remove {before after : System Pid EventType Event Ref}
    (tracked : Tracked before) {node : Pid} {eventType : EventType} {pid : Pid}
    {ref : Ref} (stored : (pid, ref) ∈ before.registry.entriesAt (node, eventType))
    (registry : after.registry =
      before.registry.remove node eventType pid ref)
    (active : ∀ other, after.active.lookup other =
      if other = ref then none else before.active.lookup other)
    (mailbox : downs after.mailbox =
      (downs before.mailbox).filter fun down => decide (down.1 ≠ ref))
    (dead : after.dead = before.dead) (issued : after.issued = before.issued) :
    Tracked after := by
  apply tracked.forget [ref] _ _ _ _ dead issued
  · rw [registry]
    exact tracked.wellFormed.remove stored
  · intro other
    rw [registry, State.remove, Dict.lookup_erase_ite]
    simp
  · simpa using active
  · simpa using mailbox

theorem Tracked.handle_call_or_cast
    {before : System Pid EventType Event Ref} (tracked : Tracked before)
    {message : Message Pid EventType Event Ref}
    (isClient : asDown message = none) {ref : Ref}
    (fresh : ref ∉ before.issued) {reply : Reply}
    {registry : State Pid EventType Ref}
    {effects : List (Effect Pid EventType Event Ref)}
    (transition : Transition ref before.registry message reply registry
      effects) :
    Tracked (effects.foldl System.apply { before with registry := registry })
    := by
  cases transition with
  | registered absent => exact tracked.add fresh absent
  | unregistered stored =>
      refine tracked.remove stored ?_ ?_ ?_ ?_ ?_
      · rfl
      · intro other
        exact Dict.lookup_erase_ite ..
      · exact downs_flush ..
      · rfl
      · rfl
  | @cleaned node =>
      obtain ⟨sameRegistry, dead, issued, active, mailbox⟩ :=
        foldl_apply_demonitor
          { before with registry := before.registry.removeNode node }
          (nodeKeysAndRefs before.registry node).2
      apply tracked.forget _ _ _ active mailbox dead issued
      · rw [sameRegistry]
        exact tracked.wellFormed.removeNode node
      · intro other
        rw [sameRegistry]
        exact Dict.lookup_drop ..
  | dispatched =>
      rw [foldl_apply_send]
      exact tracked
  | removedDead => cases isClient
  | alreadyRegistered => exact tracked
  | notRegistered => exact tracked
  | counted => exact tracked
  | synced => exact tracked
  | unknownCall => exact tracked
  | unknownCast => exact tracked
  | staleDown => exact tracked
  | unexpected => exact tracked

/-- A queued `:DOWN` is the only one of its reference, and handling it removes
the registration that the reference was created for. -/
theorem Tracked.handle_down {before : System Pid EventType Event Ref}
    (tracked : Tracked before) {down : Ref} {pid : Pid}
    {rest : List (Message Pid EventType Event Ref)}
    (first : before.mailbox = .info (.down down pid) :: rest) {ref : Ref}
    {reply : Reply} {registry : State Pid EventType Ref}
    {effects : List (Effect Pid EventType Event Ref)}
    (transition : Transition ref before.registry (.info (.down down pid))
      reply registry effects) :
    Tracked (effects.foldl System.apply
      { before with registry := registry, mailbox := rest }) := by
  have split : downs before.mailbox = (down, pid) :: downs rest := by
    rw [first]
    rfl
  have isQueued : (down, pid) ∈ downs before.mailbox := by
    rw [split]
    exact List.mem_cons_self
  have once := tracked.once
  rw [split, List.map_cons, List.nodup_cons] at once
  cases transition with
  | removedDead monitored =>
      have stored := (tracked.wellFormed.inverse _ _ _ _).mpr monitored
      refine tracked.remove stored ?_ ?_ ?_ ?_ ?_
      · rfl
      · intro other
        split
        · rename_i same
          subst same
          cases active : before.active.lookup other with
          | none => exact active
          | some watched =>
              exact absurd isQueued ((tracked.live active).2.2 pid)
        · rfl
      · rw [split, List.filter_cons]
        simp only [ne_eq, not_true_eq_false, decide_false, Bool.false_eq_true,
          if_false]
        refine (List.filter_eq_self.mpr ?_).symm
        intro other member
        rw [decide_eq_true_eq]
        intro same
        exact once.1 (List.mem_map.mpr ⟨other, member, same⟩)
      · rfl
      · rfl
  | staleDown stale =>
      obtain ⟨node, eventType, found⟩ := tracked.queued isQueued
      rw [stale] at found
      contradiction

theorem Tracked.queued_pid {before : System Pid EventType Event Ref}
    (tracked : Tracked before) {ref : Ref} {deadPid pid node : Pid}
    {eventType : EventType}
    (isQueued : .info (.down ref deadPid) ∈ before.mailbox)
    (found : before.registry.monitors.lookup ref =
      some (pid, node, eventType)) : pid = deadPid := by
  obtain ⟨otherNode, otherType, owner⟩ := tracked.queued (mem_downs.mpr isQueued)
  rw [found] at owner
  cases owner
  rfl

theorem Tracked.handle_isOk {before : System Pid EventType Event Ref}
    (tracked : Tracked before) {message : Message Pid EventType Event Ref}
    {rest : List (Message Pid EventType Event Ref)}
    (waiting : before.mailbox = message :: rest) (ref : Ref) :
    ∃ reply registry effects,
      handle ref message before.registry = .ok (reply, registry, effects) := by
  refine HandlerRegistry.handle_isOk ref before.registry message ?_
  intro other deadPid isDown pid node eventType found
  apply tracked.queued_pid _ found
  rw [waiting, isDown]
  exact List.mem_cons_self

theorem Tracked.handle {before after : System Pid EventType Event Ref}
    {message : Message Pid EventType Event Ref}
    {rest : List (Message Pid EventType Event Ref)} {ref : Ref}
    {output : Except Exception Reply} (tracked : Tracked before)
    (waiting : before.mailbox = message :: rest) (fresh : ref ∉ before.issued)
    (taken : system.step before (.handle ref) = some (after, output)) :
    Tracked after := by
  obtain ⟨reply, registry, effects, handled⟩ := tracked.handle_isOk waiting ref
  simp only [system, waiting, if_neg fresh, handled] at taken
  cases taken
  have transition := Transition.of_handle handled
  cases isDown : asDown message with
  | none =>
      have popped : downs rest = downs before.mailbox := by
        simp [waiting, downs, isDown]
      exact (tracked.mailbox popped).handle_call_or_cast isDown fresh transition
  | some down =>
      obtain ⟨other, pid⟩ := down
      rw [asDown_eq_some] at isDown
      subst isDown
      exact tracked.handle_down waiting transition

theorem Tracked.preserved {before after : System Pid EventType Event Ref}
    {action : Action Pid EventType Event Ref} {output : Except Exception Reply}
    (tracked : Tracked before)
    (taken : system.step before action = some (after, output)) :
    Tracked after := by
  cases action with
  | call request =>
      cases taken
      exact tracked.enqueue rfl
  | cast request =>
      cases taken
      exact tracked.enqueue rfl
  | unexpected =>
      cases taken
      exact tracked.enqueue rfl
  | exit pid =>
      simp only [system] at taken
      split at taken
      · contradiction
      · cases taken
        exact tracked.exit pid
  | handle ref =>
      cases waiting : before.mailbox with
      | nil => simp [system, waiting] at taken
      | cons message rest =>
          by_cases fresh : ref ∈ before.issued
          · simp [system, waiting, fresh] at taken
          · exact tracked.handle waiting fresh taken

theorem Tracked.of_run
    {trace : List (Action Pid EventType Event Ref × Except Exception Reply)}
    {reached : System Pid EventType Event Ref}
    (run : Machine.Run system trace reached) : Tracked reached :=
  run.invariant (fun _ state => Tracked state) Tracked.init
    fun _ tracked taken => tracked.preserved taken

/-- No subscription of a dead process is leaked and no queued `:DOWN` is stale,
for every interleaving of client messages, deaths and handled messages. -/
theorem subscriptions_tracked
    {trace : List (Action Pid EventType Event Ref × Except Exception Reply)}
    {reached : System Pid EventType Event Ref}
    (run : Machine.Run system trace reached) :
    (∀ node eventType pid ref,
      (pid, ref) ∈ reached.registry.entriesAt (node, eventType) →
        (pid ∉ reached.dead ∧ reached.active.lookup ref = some pid) ∨
          .info (.down ref pid) ∈ reached.mailbox) ∧
      (∀ ref pid, .info (.down ref pid) ∈ reached.mailbox →
        (reached.registry.monitors.lookup ref).isSome) ∧
      (reached.mailbox = [] → ∀ node eventType pid ref,
        (pid, ref) ∈ reached.registry.entriesAt (node, eventType) →
          pid ∉ reached.dead) := by
  have tracked := Tracked.of_run run
  have watched : ∀ node eventType pid ref,
      (pid, ref) ∈ reached.registry.entriesAt (node, eventType) →
        (pid ∉ reached.dead ∧ reached.active.lookup ref = some pid) ∨
          .info (.down ref pid) ∈ reached.mailbox := by
    intro node eventType pid ref stored
    rw [← mem_downs]
    exact tracked.watched ((tracked.wellFormed.inverse _ _ _ _).mp stored)
  refine ⟨watched, ?_, ?_⟩
  · intro ref pid member
    obtain ⟨node, eventType, found⟩ := tracked.queued (mem_downs.mpr member)
    rw [found]
    rfl
  · intro drained node eventType pid ref stored
    rcases watched node eventType pid ref stored with isLive | isQueued
    · exact isLive.1
    · rw [drained] at isQueued
      contradiction

/-- Process `1` dies while registered, is unregistered and registered again while
its `:DOWN` is queued, and process `2` is registered after its death. -/
def races : List (Action Nat Nat Nat Nat) :=
  [.call (.register 0 7 1), .handle 10, .exit 1, .exit 2,
    .call (.unregister 0 7 1), .call (.register 0 7 1),
    .call (.register 0 7 2), .handle 11, .handle 11, .handle 11, .handle 12,
    .handle 13, .handle 13]

theorem subscriptions_tracked_races :
    ∃ trace reached, Machine.Run system trace reached ∧
      trace.map Prod.fst = races ∧ reached.mailbox = [] ∧
      reached.dead = [2, 1] ∧
      ∀ node eventType pid ref,
        (pid, ref) ∈ reached.registry.entriesAt (node, eventType) →
          pid ∉ reached.dead := by
  obtain ⟨trace, reached, executed, run, inputs⟩ :=
    Machine.exists_run_of_start (by decide : (system.start races).isSome)
  have final : (system.start races).map
      (fun result => (result.2.mailbox, result.2.dead)) =
        some ([], [2, 1]) := by
    decide
  rw [executed] at final
  simp only [Option.map_some, Option.some.injEq, Prod.mk.injEq] at final
  exact ⟨trace, reached, run, inputs, final.1, final.2,
    (subscriptions_tracked run).2.2 final.1⟩

end ExLibp2p.Node.HandlerRegistry
