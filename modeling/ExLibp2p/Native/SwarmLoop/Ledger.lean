import ExLibp2p.Data.Label
import ExLibp2p.Native.SwarmLoop.Pending
import Mathlib.Data.List.Nodup

namespace ExLibp2p.Native.SwarmLoop

open ExLibp2p.Data
open ExLibp2p.Erlang
open ExLibp2p.Native.Policy

/-- The first `count` identifiers in the order in which they are issued. -/
def channelIds (count : Nat) : List String :=
  (List.range count).map fun index => channelId (index + 1)

theorem mem_channelIds {count : Nat} {id : String} :
    id ∈ channelIds count ↔
      ∃ number, 1 ≤ number ∧ number ≤ count ∧ id = channelId number :=
  mem_labels

theorem channelIds_nodup (count : Nat) : (channelIds count).Nodup :=
  labels_nodup "ch-" count

theorem channelIds_succ (count : Nat) :
    channelIds (count + 1) = channelIds count ++ [channelId (count + 1)] :=
  labels_succ "ch-" count

section Histories

variable (trace : History) (input : Turn) (effects : List Effect)

@[simp] theorem issued_snoc :
    issued (trace ++ [(input, effects)]) = issued trace ++ stored effects := by
  simp [issued]

@[simp] theorem answeredIn_snoc :
    answeredIn (trace ++ [(input, effects)]) =
      answeredIn trace ++ answered effects := by
  simp [answeredIn]

@[simp] theorem evictedIn_snoc :
    evictedIn (trace ++ [(input, effects)]) =
      evictedIn trace ++ evicted effects := by
  simp [evictedIn]

@[simp] theorem requests_snoc :
    requests (trace ++ [(input, effects)]) =
      requests trace + input.channel.toList.length := by
  cases channel : input.channel with
  | none => simp [requests, channel]
  | some channel => simp [requests, channel]

end Histories

section Announcements

variable (id : String) (channel : ResponseChannel) (locals : Locals)
  (message : Term)

@[simp] theorem stored_issue :
    stored (.store id channel :: announce locals message) =
      [(id, channel)] := by
  unfold announce
  cases locals.eventHandler with
  | none => rfl
  | some pid => rfl

@[simp] theorem answered_issue :
    answered (.store id channel :: announce locals message) = [] := by
  unfold announce
  cases locals.eventHandler with
  | none => rfl
  | some pid => rfl

@[simp] theorem evicted_issue :
    evicted (.store id channel :: announce locals message) = [] := by
  unfold announce
  cases locals.eventHandler with
  | none => rfl
  | some pid => rfl

end Announcements

theorem mem_evicted_evict {locals : Locals} {now : Instant} {id : String} :
    id ∈ evicted (evict locals now).2 ↔
      ∃ entry, locals.pendingResponses.lookup id = some entry ∧
        keeps now entry = false := by
  simp only [evicted, evict, List.filterMap_map, List.mem_filterMap,
    List.mem_filter]
  constructor
  · intro found
    obtain ⟨⟨key, entry⟩, ⟨member, stale⟩, same⟩ := found
    cases same
    exact ⟨entry, Dict.mem_entries_iff.mp member, by simpa using stale⟩
  · intro found
    obtain ⟨entry, lookup, stale⟩ := found
    exact ⟨⟨id, entry⟩, ⟨Dict.mem_entries_iff.mpr lookup, by simp [stale]⟩, rfl⟩

@[simp] theorem stored_evict (locals : Locals) (now : Instant) :
    stored (evict locals now).2 = [] := by
  simp [stored, evict, List.filterMap_map]

@[simp] theorem answered_evict (locals : Locals) (now : Instant) :
    answered (evict locals now).2 = [] := by
  simp [answered, evict, List.filterMap_map]

theorem step_movement {settings : Settings} {state next : State} {input : Turn}
    {effects : List Effect}
    (taken : (swarmLoop settings).step state input = some (next, effects)) :
    (∀ channel ∈ input.channel, channel ∉ state.channels) ∧
      next.channels = input.channel.toList ++ state.channels ∧
      Movement state.locals input next.locals effects := by
  simp only [swarmLoop] at taken
  split at taken
  · contradiction
  · rename_i admitted
    have fresh : ∀ channel ∈ input.channel, channel ∉ state.channels := by
      intro channel carried known
      exact admitted (.inr ⟨channel, carried, known⟩)
    cases moved : turn settings state.locals input with
    | some result =>
        obtain ⟨locals, performed⟩ := result
        rw [moved] at taken
        cases taken
        exact ⟨fresh, rfl, .of_turn moved⟩
    | none =>
        rw [moved] at taken
        cases taken
        refine ⟨fresh, rfl, .other ?_ rfl rfl .nil⟩
        cases input with
        | tick now => cases moved
        | command command answers => rfl
        | event event now answers => cases moved

structure Issues (trace : History) (state : State) : Prop where
  counter : state.locals.channelCounter = (issued trace).length
  bounded : (issued trace).length ≤ requests trace
  ids : (issued trace).map Prod.fst = channelIds (issued trace).length
  owners : ((issued trace).map Prod.snd).Nodup
  known : ∀ pair ∈ issued trace, pair.2 ∈ state.channels

theorem Issues.keep {trace : History} {state next : State} {input : Turn}
    {effects : List Effect} (issues : Issues trace state)
    (channels : next.channels = input.channel.toList ++ state.channels)
    (counter : next.locals.channelCounter = state.locals.channelCounter)
    (noneStored : stored effects = []) :
    Issues (trace ++ [(input, effects)]) next := by
  have same : issued (trace ++ [(input, effects)]) = issued trace := by
    rw [issued_snoc, noneStored, List.append_nil]
  refine ⟨?_, ?_, ?_, ?_, ?_⟩
  · rw [counter, same]
    exact issues.counter
  · rw [same, requests_snoc]
    exact Nat.le_add_right_of_le issues.bounded
  · rw [same]
    exact issues.ids
  · rw [same]
    exact issues.owners
  · rw [same, channels]
    intro pair member
    exact List.mem_append_right _ (issues.known pair member)

theorem Issues.issue {trace : History} {state next : State} {input : Turn}
    {effects : List Effect} {channel : ResponseChannel}
    (issues : Issues trace state) (carried : input.channel = some channel)
    (fresh : channel ∉ state.channels)
    (channels : next.channels = input.channel.toList ++ state.channels)
    (counter : next.locals.channelCounter = state.locals.channelCounter + 1)
    (isStored : stored effects =
      [(channelId (state.locals.channelCounter + 1), channel)]) :
    Issues (trace ++ [(input, effects)]) next := by
  have grown : issued (trace ++ [(input, effects)]) =
      issued trace ++ [(channelId ((issued trace).length + 1), channel)] := by
    rw [issued_snoc, isStored, issues.counter]
  refine ⟨?_, ?_, ?_, ?_, ?_⟩
  · rw [counter, grown, List.length_append, issues.counter]
    rfl
  · rw [grown, requests_snoc, carried, List.length_append]
    exact Nat.add_le_add_right issues.bounded 1
  · rw [grown, List.map_append, issues.ids, List.length_append]
    exact (channelIds_succ _).symm
  · rw [grown, List.map_append, List.map_singleton, ← List.concat_eq_append]
    apply List.Nodup.concat _ issues.owners
    intro isOwner
    obtain ⟨pair, isIssued, same⟩ := List.mem_map.mp isOwner
    apply fresh
    rw [← show pair.2 = channel from same]
    exact issues.known pair isIssued
  · rw [grown, channels, carried]
    intro pair member
    rcases List.mem_append.mp member with earlier | new
    · exact List.mem_cons_of_mem _ (issues.known pair earlier)
    · rw [List.mem_singleton.mp new]
      exact List.mem_cons_self

/-- Two requests never share an identifier. -/
theorem Issues.channel_unique {trace : History} {state : State}
    (issues : Issues trace state) {id : String}
    {first second : ResponseChannel} (isFirst : (id, first) ∈ issued trace)
    (isSecond : (id, second) ∈ issued trace) : first = second := by
  have distinct : ((issued trace).map Prod.fst).Nodup := by
    rw [issues.ids]
    exact channelIds_nodup _
  have same := List.inj_on_of_nodup_map distinct isFirst isSecond rfl
  exact congrArg Prod.snd same

theorem Issues.id_unique {trace : History} {state : State}
    (issues : Issues trace state) {first second : String}
    {channel : ResponseChannel} (isFirst : (first, channel) ∈ issued trace)
    (isSecond : (second, channel) ∈ issued trace) : first = second := by
  have same := List.inj_on_of_nodup_map issues.owners isFirst isSecond rfl
  exact congrArg Prod.fst same

theorem Issues.next_unissued {trace : History} {state : State}
    (issues : Issues trace state) :
    channelId (state.locals.channelCounter + 1) ∉
      (issued trace).map Prod.fst := by
  rw [issues.ids, issues.counter]
  exact next_notMem_labels "ch-" _

/-- The invariant of the runs: what is pending has been issued and neither
answered nor evicted. -/
structure Ledger (trace : History) (state : State) : Prop where
  issues : Issues trace state
  answeredKnown : ∀ channel ∈ answeredIn trace, channel ∈ state.channels
  answeredOnce : (answeredIn trace).Nodup
  evictedKnown : ∀ id ∈ evictedIn trace, id ∈ (issued trace).map Prod.fst
  held : ∀ id channel created,
    state.locals.pendingResponses.lookup id = some (channel, created) →
      (id, channel) ∈ issued trace ∧ channel ∉ answeredIn trace ∧
        id ∉ evictedIn trace
  capped : state.locals.pendingResponses.size ≤ maxPendingResponses

theorem Ledger.init (settings : Settings) :
    Ledger [] (swarmLoop settings).init where
  issues := ⟨rfl, Nat.le_refl 0, rfl, List.nodup_nil, by simp [issued]⟩
  answeredKnown := by simp [answeredIn]
  answeredOnce := List.nodup_nil
  evictedKnown := by simp [evictedIn]
  held := by
    intro id channel created found
    cases found
  capped := Nat.zero_le _

section Turns

variable {trace : History} {state next : State} {input : Turn}
  {effects : List Effect}

theorem Ledger.idle (ledger : Ledger trace state)
    (channels : next.channels = input.channel.toList ++ state.channels)
    (pending : next.locals.pendingResponses = state.locals.pendingResponses)
    (counter : next.locals.channelCounter = state.locals.channelCounter)
    (noneStored : stored effects = []) (noneAnswered : answered effects = [])
    (noneEvicted : evicted effects = []) :
    Ledger (trace ++ [(input, effects)]) next where
  issues := ledger.issues.keep channels counter noneStored
  answeredKnown := by
    rw [answeredIn_snoc, noneAnswered, List.append_nil, channels]
    intro channel member
    exact List.mem_append_right _ (ledger.answeredKnown channel member)
  answeredOnce := by
    rw [answeredIn_snoc, noneAnswered, List.append_nil]
    exact ledger.answeredOnce
  evictedKnown := by
    rw [evictedIn_snoc, issued_snoc, noneEvicted, noneStored, List.append_nil,
      List.append_nil]
    exact ledger.evictedKnown
  held := by
    rw [pending, issued_snoc, answeredIn_snoc, evictedIn_snoc, noneStored,
      noneAnswered, noneEvicted]
    simpa using ledger.held
  capped := by
    rw [pending]
    exact ledger.capped

theorem Ledger.evicting {now : Instant} (ledger : Ledger trace state)
    (channels : next.channels = state.channels)
    (locals : next.locals = (evict state.locals now).1) :
    Ledger (trace ++ [(.tick now, (evict state.locals now).2)]) next where
  issues := by
    refine ledger.issues.keep channels ?_ (stored_evict _ _)
    rw [locals]
    rfl
  answeredKnown := by
    rw [answeredIn_snoc, answered_evict, List.append_nil, channels]
    exact ledger.answeredKnown
  answeredOnce := by
    rw [answeredIn_snoc, answered_evict, List.append_nil]
    exact ledger.answeredOnce
  evictedKnown := by
    rw [evictedIn_snoc, issued_snoc, stored_evict, List.append_nil]
    intro id member
    rcases List.mem_append.mp member with earlier | now
    · exact ledger.evictedKnown id earlier
    · obtain ⟨⟨channel, created⟩, found, -⟩ := mem_evicted_evict.mp now
      exact List.mem_map_of_mem (ledger.held id channel created found).1
  held := by
    rw [issued_snoc, answeredIn_snoc, evictedIn_snoc, stored_evict,
      answered_evict, List.append_nil, List.append_nil, locals]
    intro id channel created found
    rw [evict, Dict.lookup_retain, Option.filter_eq_some_iff] at found
    obtain ⟨before, young⟩ := found
    obtain ⟨isIssued, unanswered, unevicted⟩ :=
      ledger.held id channel created before
    refine ⟨isIssued, unanswered, ?_⟩
    intro member
    rcases List.mem_append.mp member with earlier | now
    · exact unevicted earlier
    · obtain ⟨entry, same, stale⟩ := mem_evicted_evict.mp now
      rw [before] at same
      cases same
      rw [young] at stale
      contradiction
  capped := by
    rw [locals]
    exact (Dict.size_retain_le _ _).trans ledger.capped

theorem Ledger.answering {id : String} {channel : ResponseChannel}
    {created : Instant} {data : Bytes} (ledger : Ledger trace state)
    (found : state.locals.pendingResponses.lookup id = some (channel, created))
    (channels : next.channels = input.channel.toList ++ state.channels)
    (locals : next.locals = { state.locals with
      pendingResponses := state.locals.pendingResponses.erase id }) :
    Ledger (trace ++ [(input, [.sendResponse channel data])]) next := by
  obtain ⟨isIssued, unanswered, unevicted⟩ :=
    ledger.held id channel created found
  refine ⟨?_, ?_, ?_, ?_, ?_, ?_⟩
  · refine ledger.issues.keep channels ?_ rfl
    rw [locals]
  · rw [answeredIn_snoc, channels]
    intro other member
    apply List.mem_append_right
    rcases List.mem_append.mp member with earlier | new
    · exact ledger.answeredKnown other earlier
    · rw [List.mem_singleton.mp new]
      exact ledger.issues.known _ isIssued
  · rw [answeredIn_snoc]
    change (answeredIn trace ++ [channel]).Nodup
    rw [← List.concat_eq_append]
    exact List.Nodup.concat unanswered ledger.answeredOnce
  · rw [evictedIn_snoc, issued_snoc]
    simpa [stored, evicted] using ledger.evictedKnown
  · rw [issued_snoc, answeredIn_snoc, evictedIn_snoc, locals]
    intro other otherChannel otherCreated otherFound
    rw [Dict.lookup_erase_ite] at otherFound
    split at otherFound
    · contradiction
    · rename_i different
      obtain ⟨otherIssued, otherUnanswered, otherUnevicted⟩ :=
        ledger.held other otherChannel otherCreated otherFound
      refine ⟨List.mem_append_left _ otherIssued, ?_, ?_⟩
      · intro member
        rcases List.mem_append.mp member with earlier | new
        · exact otherUnanswered earlier
        · rw [List.mem_singleton.mp new] at otherIssued
          exact different (ledger.issues.id_unique otherIssued isIssued)
      · simpa [evicted] using otherUnevicted
  · rw [locals]
    exact (Dict.size_erase_le _ _).trans ledger.capped

theorem Ledger.accepting {channel : ResponseChannel} {now : Instant}
    {message : Term} (ledger : Ledger trace state)
    (carried : input.channel = some channel)
    (fresh : channel ∉ state.channels)
    (few : requests trace + 1 < 2 ^ 64)
    (room : state.locals.pendingResponses.size < maxPendingResponses)
    (channels : next.channels = input.channel.toList ++ state.channels)
    (locals : next.locals = { state.locals with
      channelCounter := (state.locals.channelCounter + 1) % 2 ^ 64
      pendingResponses := state.locals.pendingResponses.insert
        (nextId state.locals) (channel, now) }) :
    Ledger (trace ++ [(input, .store (nextId state.locals) channel ::
      announce state.locals message)]) next := by
  have counter : (state.locals.channelCounter + 1) % 2 ^ 64 =
      state.locals.channelCounter + 1 := by
    apply Nat.mod_eq_of_lt
    have bounded := ledger.issues.bounded
    rw [ledger.issues.counter]
    omega
  have id : nextId state.locals =
      channelId (state.locals.channelCounter + 1) := by
    rw [nextId, counter]
  have isStored := stored_issue (nextId state.locals) channel state.locals
    message
  rw [id] at isStored
  have noneAnswered := answered_issue (nextId state.locals) channel
    state.locals message
  have noneEvicted := evicted_issue (nextId state.locals) channel
    state.locals message
  refine ⟨?_, ?_, ?_, ?_, ?_, ?_⟩
  · refine ledger.issues.issue carried fresh channels ?_ ?_
    · rw [locals, counter]
    · rw [id]
      exact isStored
  · rw [answeredIn_snoc, noneAnswered, List.append_nil, channels]
    intro other member
    exact List.mem_append_right _ (ledger.answeredKnown other member)
  · rw [answeredIn_snoc, noneAnswered, List.append_nil]
    exact ledger.answeredOnce
  · rw [evictedIn_snoc, noneEvicted, List.append_nil, issued_snoc,
      List.map_append]
    intro other member
    exact List.mem_append_left _ (ledger.evictedKnown other member)
  · rw [issued_snoc, answeredIn_snoc, noneAnswered, evictedIn_snoc,
      noneEvicted, List.append_nil, List.append_nil, locals, id, isStored]
    intro other otherChannel otherCreated otherFound
    rw [Dict.lookup_insert_ite] at otherFound
    split at otherFound
    · rename_i same
      cases otherFound
      subst same
      refine ⟨List.mem_append_right _ List.mem_cons_self, ?_, ?_⟩
      · intro earlier
        exact fresh (ledger.answeredKnown channel earlier)
      · intro earlier
        exact ledger.issues.next_unissued (ledger.evictedKnown _ earlier)
    · obtain ⟨otherIssued, rest⟩ :=
        ledger.held other otherChannel otherCreated otherFound
      exact ⟨List.mem_append_left _ otherIssued, rest⟩
  · rw [locals]
    exact (Dict.size_insert_le _ _ _).trans room

end Turns

theorem Ledger.preserved {settings : Settings} {trace : History}
    {state next : State} {input : Turn} {effects : List Effect}
    (ledger : Ledger trace state)
    (few : requests (trace ++ [(input, effects)]) < 2 ^ 64)
    (taken : (swarmLoop settings).step state input = some (next, effects)) :
    Ledger (trace ++ [(input, effects)]) next := by
  obtain ⟨fresh, channels, movement⟩ := step_movement taken
  rw [requests_snoc] at few
  generalize moved : next.locals = locals at movement
  cases movement with
  | evicted now =>
      exact ledger.evicting channels moved
  | answered found =>
      exact ledger.answering found channels moved
  | unknown missing =>
      exact ledger.idle channels (by rw [moved]) (by rw [moved]) rfl rfl rfl
  | accepted room =>
      exact ledger.accepting rfl (fresh _ rfl) few room channels moved
  | refused =>
      exact ledger.idle channels (by rw [moved]) (by rw [moved]) rfl rfl rfl
  | other noRequest pending counter quiet =>
      rw [← moved] at pending counter
      exact ledger.idle channels pending counter quiet.stored quiet.answered
        quiet.evicted

theorem Ledger.of_run {settings : Settings} {trace : History} {state : State}
    (run : Machine.Run (swarmLoop settings) trace state)
    (few : requests trace < 2 ^ 64) : Ledger trace state := by
  refine run.invariant
    (fun trace state => requests trace < 2 ^ 64 → Ledger trace state) ?_ ?_ few
  · intro _
    exact Ledger.init settings
  · intro trace state input next output earlier ledger taken few
    have fewer : requests trace < 2 ^ 64 := by
      rw [requests_snoc] at few
      exact Nat.lt_of_le_of_lt (Nat.le_add_right _ _) few
    exact (ledger fewer).preserved few taken

end ExLibp2p.Native.SwarmLoop
