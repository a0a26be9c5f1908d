import ExLibp2p.Native.RoutingTable.History
import Mathlib.Data.List.Nodup

namespace ExLibp2p.Native.RoutingTable

open ExLibp2p.Data
open ExLibp2p.Native.DhtState
open ExLibp2p.Native.SwarmLoop
  (Settings Answers Effect importedPairs importRoutingTable
    importRoutingTable_eq)

/-! A turn that takes an import, seen from its caller and from all others. -/

theorem adds_importRoutingTable (settings : Settings)
    (entries : List RoutingEntry) (caller : ReplyTo) :
    (importRoutingTable settings entries caller).filterMap asAddAddress =
      if settings.kademlia then importedPairs settings entries else [] := by
  rw [importRoutingTable_eq]
  split
  · simp [List.filterMap_map, Function.comp_def, asAddAddress]
  · rfl

theorem reply_importRoutingTable (settings : Settings)
    (entries : List RoutingEntry) (caller : ReplyTo) :
    finishImport ((importRoutingTable settings entries caller).findSome?
      (importReply caller)) =
      if settings.kademlia then .ok (importedPairs settings entries).length
      else .error .dhtNotEnabled := by
  rw [importRoutingTable_eq]
  split
  · have noReply : ∀ pairs : List (PeerId × Multiaddr),
        (pairs.map fun pair => Effect.addAddress pair.1 pair.2).findSome?
          (importReply caller) = none := by
      intro pairs
      rw [List.findSome?_eq_none_iff]
      intro effect member
      obtain ⟨pair, -, rfl⟩ := List.mem_map.mp member
      rfl
    rw [List.findSome?_append, noReply]
    simp [importReply, finishImport]
  · simp [importReply, finishImport]

theorem dropped_eq_nil {waiting : List (List RoutingEntry × ReplyTo)}
    {caller : ReplyTo} (gone : ∀ entries, (entries, caller) ∉ waiting) :
    (waiting.filterMap fun entry =>
      if entry.2 = caller then some (Except.error NifError.nodeStopped)
      else none) = ([] : List (Except NifError Nat)) := by
  rw [List.filterMap_eq_nil_iff]
  intro ⟨entries, other⟩ member
  apply if_neg
  intro same
  cases same
  exact gone entries member

theorem dropped_eq_singleton {waiting : List (List RoutingEntry × ReplyTo)}
    {entries : List RoutingEntry} {caller : ReplyTo}
    (once : (waiting.map Prod.snd).Nodup)
    (queued : (entries, caller) ∈ waiting) :
    (waiting.filterMap fun entry =>
      if entry.2 = caller then some (Except.error NifError.nodeStopped)
      else none) = ([.error .nodeStopped] : List (Except NifError Nat)) := by
  induction waiting with
  | nil => contradiction
  | cons first rest induction =>
      rw [List.map_cons, List.nodup_cons] at once
      rw [List.filterMap_cons]
      rcases List.mem_cons.mp queued with rfl | later
      · have gone : ∀ others, (others, caller) ∉ rest := by
          intro others member
          exact once.1 (List.mem_map.mpr ⟨_, member, rfl⟩)
        simp only [if_true, dropped_eq_nil gone]
      · have different : first.2 ≠ caller := by
          intro same
          exact once.1 (same ▸ List.mem_map.mpr ⟨_, later, rfl⟩)
        simp only [if_neg different]
        exact induction once.2 later

inductive Phase (settings : Settings) (data : Bytes) (caller : ReplyTo)
    (waiting : List (List RoutingEntry × ReplyTo)) :
    List (PeerId × Multiaddr) → List (Except NifError Nat) → Prop
  | waits {entries : List RoutingEntry} (decoded : decode data = .ok entries)
      (queued : (entries, caller) ∈ waiting) :
      Phase settings data caller waiting [] []
  | failed (error : NifError) (gone : ∀ entries, (entries, caller) ∉ waiting) :
      Phase settings data caller waiting [] [.error error]
  | restored {entries : List RoutingEntry}
      (decoded : decode data = .ok entries)
      (gone : ∀ entries, (entries, caller) ∉ waiting) :
      Phase settings data caller waiting (importedPairs settings entries)
        [.ok (importedPairs settings entries).length]

structure Ledger (settings : Settings) (trace : History) (node : Node) :
    Prop where
  issued : ∀ entries caller, (entries, caller) ∈ imports node.queue →
    caller < node.callers
  once : ((imports node.queue).map Prod.snd).Nodup
  unused : ∀ caller, node.callers ≤ caller →
    adds caller trace = [] ∧ results caller trace = []
  phases : ∀ data caller returned,
    (.kadImportRoutingTable data, .called caller returned) ∈ trace →
      caller < node.callers ∧ Phase settings data caller (imports node.queue)
        (adds caller trace) (results caller trace)

theorem Ledger.init (settings : Settings) :
    Ledger settings [] (RoutingTable.node settings).init where
  issued := by
    intro entries caller queued
    contradiction
  once := List.nodup_nil
  unused := by
    intro caller _
    exact ⟨rfl, rfl⟩
  phases := by
    intro data caller returned member
    contradiction

theorem Phase.keep {settings : Settings} {data : Bytes} {caller : ReplyTo}
    {waiting next : List (List RoutingEntry × ReplyTo)}
    {done : List (PeerId × Multiaddr)} {returned : List (Except NifError Nat)}
    (phase : Phase settings data caller waiting done returned)
    (kept : ∀ entries, (entries, caller) ∈ next ↔ (entries, caller) ∈ waiting) :
    Phase settings data caller next done returned := by
  cases phase with
  | waits decoded queued => exact .waits decoded ((kept _).mpr queued)
  | failed error gone =>
      refine .failed error ?_
      intro entries queued
      exact gone entries ((kept entries).mp queued)
  | restored decoded gone =>
      refine .restored decoded ?_
      intro entries queued
      exact gone entries ((kept entries).mp queued)

section

variable {settings : Settings} {trace : History} {before next : Node}
  {action : Action} {output : Output}

theorem resultsOf_called_ne {caller other : ReplyTo}
    (different : caller ≠ other) (returned : Option Returned) :
    resultsOf caller (.called other returned) = [] := by
  cases returned with
  | none => rfl
  | some value =>
      cases value with
      | exported result => rfl
      | imported result =>
          simp [resultsOf, asImported, different.symm]

theorem Ledger.gone (ledger : Ledger settings trace before)
    (entries : List RoutingEntry) :
    (entries, before.callers) ∉ imports before.queue := by
  intro queued
  exact Nat.lt_irrefl _ (ledger.issued entries before.callers queued)

theorem Ledger.called (ledger : Ledger settings trace before) {data : Bytes}
    {returned : Option Returned}
    (callers : next.callers = before.callers + 1)
    (kept : ∀ entries caller, caller ≠ before.callers →
      ((entries, caller) ∈ imports next.queue ↔
        (entries, caller) ∈ imports before.queue))
    (once : ((imports next.queue).map Prod.snd).Nodup)
    (new : Phase settings data before.callers (imports next.queue) []
      (resultsOf before.callers (.called before.callers returned))) :
    Ledger settings (trace ++ [(.kadImportRoutingTable data,
      .called before.callers returned)]) next where
  issued := by
    intro entries caller queued
    rw [callers]
    by_cases same : caller = before.callers
    · rw [same]
      exact Nat.lt_succ_self _
    · exact Nat.lt_succ_of_lt
        (ledger.issued entries caller ((kept entries caller same).mp queued))
  once := once
  unused := by
    intro caller unused
    rw [callers] at unused
    obtain ⟨noAdds, noResults⟩ :=
      ledger.unused caller (Nat.le_of_succ_le unused)
    rw [adds_snoc, results_snoc, noAdds, noResults,
      resultsOf_called_ne (Nat.ne_of_gt unused)]
    exact ⟨rfl, rfl⟩
  phases := by
    intro asked caller earlier member
    rw [callers]
    rcases List.mem_append.mp member with old | isNew
    · obtain ⟨issued, phase⟩ := ledger.phases asked caller earlier old
      have different : caller ≠ before.callers := Nat.ne_of_lt issued
      refine ⟨Nat.lt_succ_of_lt issued, ?_⟩
      rw [adds_snoc, results_snoc, resultsOf_called_ne different]
      simp only [addsOf, List.append_nil]
      exact phase.keep fun entries => kept entries caller different
    · cases List.mem_singleton.mp isNew
      obtain ⟨noAdds, noResults⟩ := ledger.unused before.callers (Nat.le_refl _)
      refine ⟨Nat.lt_succ_self _, ?_⟩
      rw [adds_snoc, results_snoc, noAdds, noResults]
      exact new

theorem Ledger.refused (ledger : Ledger settings trace before) {data : Bytes}
    (error : NifError)
    (waiting : imports next.queue = imports before.queue)
    (callers : next.callers = before.callers + 1) :
    Ledger settings (trace ++ [(.kadImportRoutingTable data,
      .called before.callers (some (.imported (.error error))))]) next := by
  refine ledger.called callers ?_ ?_ ?_
  · intro entries caller _
    rw [waiting]
  · rw [waiting]
    exact ledger.once
  · simp only [waiting, resultsOf, asImported, if_true, Option.toList_some]
    exact .failed error ledger.gone

theorem Ledger.queued (ledger : Ledger settings trace before) {data : Bytes}
    {entries : List RoutingEntry} (decoded : decode data = .ok entries)
    (waiting : imports next.queue =
      imports before.queue ++ [(entries, before.callers)])
    (callers : next.callers = before.callers + 1) :
    Ledger settings (trace ++ [(.kadImportRoutingTable data,
      .called before.callers none)]) next := by
  refine ledger.called callers ?_ ?_ ?_
  · intro others caller different
    rw [waiting, List.mem_append, List.mem_singleton, Prod.mk.injEq]
    exact or_iff_left fun same => different same.2
  · rw [waiting, List.map_append, List.nodup_append]
    refine ⟨ledger.once, List.nodup_singleton _, ?_⟩
    intro caller old other new same
    cases List.mem_singleton.mp new
    obtain ⟨⟨others, _⟩, queued, rfl⟩ := List.mem_map.mp old
    cases same
    exact ledger.gone others queued
  · rw [waiting]
    exact .waits decoded
      (List.mem_append_right _ (List.mem_singleton_self _))

theorem mem_of_other {data : Bytes} {caller : ReplyTo}
    {returned : Option Returned}
    (other : ∀ data, action ≠ .kadImportRoutingTable data)
    (member : (.kadImportRoutingTable data, .called caller returned) ∈
      trace ++ [(action, output)]) :
    (.kadImportRoutingTable data, .called caller returned) ∈ trace := by
  rcases List.mem_append.mp member with old | new
  · exact old
  · have same := congrArg Prod.fst (List.mem_singleton.mp new)
    exact absurd same.symm (other data)

theorem Ledger.silent (ledger : Ledger settings trace before)
    (other : ∀ data, action ≠ .kadImportRoutingTable data)
    (waiting : imports next.queue = imports before.queue)
    (callers : before.callers ≤ next.callers)
    (quiet : ∀ caller,
      addsOf caller output = [] ∧ resultsOf caller output = []) :
    Ledger settings (trace ++ [(action, output)]) next where
  issued := by
    intro entries caller queued
    rw [waiting] at queued
    exact Nat.lt_of_lt_of_le (ledger.issued entries caller queued) callers
  once := by
    rw [waiting]
    exact ledger.once
  unused := by
    intro caller unused
    obtain ⟨noAdds, noResults⟩ :=
      ledger.unused caller (Nat.le_trans callers unused)
    rw [adds_snoc, results_snoc, noAdds, noResults, (quiet caller).1,
      (quiet caller).2]
    exact ⟨rfl, rfl⟩
  phases := by
    intro data caller returned member
    obtain ⟨issued, phase⟩ := ledger.phases _ _ _ (mem_of_other other member)
    refine ⟨Nat.lt_of_lt_of_le issued callers, ?_⟩
    rw [adds_snoc, results_snoc, (quiet caller).1, (quiet caller).2,
      List.append_nil, List.append_nil, waiting]
    exact phase

theorem Ledger.performed (ledger : Ledger settings trace before)
    {entries : List RoutingEntry} {performer : ReplyTo}
    (other : ∀ data, action ≠ .kadImportRoutingTable data)
    (waiting : imports before.queue =
      (entries, performer) :: imports next.queue)
    (callers : next.callers = before.callers)
    (performs : ∀ caller, addsOf caller output =
      if performer = caller then
        (if settings.kademlia then importedPairs settings entries else [])
      else [])
    (returns : ∀ caller, resultsOf caller output =
      if performer = caller then
        [if settings.kademlia then
          .ok (importedPairs settings entries).length
        else .error .dhtNotEnabled]
      else []) :
    Ledger settings (trace ++ [(action, output)]) next := by
  have queued : (entries, performer) ∈ imports before.queue := by
    rw [waiting]
    exact List.mem_cons_self
  have once := ledger.once
  rw [waiting, List.map_cons, List.nodup_cons] at once
  have gone : ∀ others, (others, performer) ∉ imports next.queue := by
    intro others member
    exact once.1 (List.mem_map.mpr ⟨_, member, rfl⟩)
  refine ⟨?_, once.2, ?_, ?_⟩
  · intro others caller later
    rw [callers]
    apply ledger.issued others caller
    rw [waiting]
    exact List.mem_cons_of_mem _ later
  · intro caller unused
    rw [callers] at unused
    obtain ⟨noAdds, noResults⟩ := ledger.unused caller unused
    have different : performer ≠ caller :=
      Nat.ne_of_lt (Nat.lt_of_lt_of_le (ledger.issued _ _ queued) unused)
    rw [adds_snoc, results_snoc, noAdds, noResults, performs, returns,
      if_neg different, if_neg different]
    exact ⟨rfl, rfl⟩
  · intro data caller returned member
    obtain ⟨issued, phase⟩ := ledger.phases _ _ _ (mem_of_other other member)
    rw [callers, adds_snoc, results_snoc, performs, returns]
    refine ⟨issued, ?_⟩
    by_cases same : performer = caller
    · subst same
      generalize adds performer trace = done at phase ⊢
      generalize results performer trace = returned at phase ⊢
      cases phase with
      | failed error unqueued => exact absurd queued (unqueued entries)
      | restored decoded unqueued => exact absurd queued (unqueued entries)
      | waits decoded stored =>
          rw [waiting] at stored
          rcases List.mem_cons.mp stored with first | later
          · cases first
            simp only [if_true, List.nil_append]
            split
            · exact .restored decoded gone
            · exact .failed .dhtNotEnabled gone
          · exact absurd later (gone _)
    · rw [if_neg same, if_neg same, List.append_nil, List.append_nil]
      apply phase.keep
      intro others
      rw [waiting, List.mem_cons, Prod.mk.injEq]
      exact (or_iff_right fun both => same both.2.symm).symm

theorem Ledger.stopped (ledger : Ledger settings trace before)
    (other : ∀ data, action ≠ .kadImportRoutingTable data)
    (waiting : imports next.queue = [])
    (callers : next.callers = before.callers)
    (dropped : ∀ caller, addsOf caller output = [] ∧
      resultsOf caller output = (imports before.queue).filterMap fun entry =>
        if entry.2 = caller then some (.error .nodeStopped) else none) :
    Ledger settings (trace ++ [(action, output)]) next := by
  refine ⟨?_, ?_, ?_, ?_⟩
  · intro entries caller queued
    rw [waiting] at queued
    contradiction
  · rw [waiting]
    exact List.nodup_nil
  · intro caller unused
    rw [callers] at unused
    obtain ⟨noAdds, noResults⟩ := ledger.unused caller unused
    have gone : ∀ entries, (entries, caller) ∉ imports before.queue := by
      intro entries queued
      exact Nat.not_lt_of_le unused (ledger.issued entries caller queued)
    rw [adds_snoc, results_snoc, noAdds, noResults, (dropped caller).1,
      (dropped caller).2, dropped_eq_nil gone]
    exact ⟨rfl, rfl⟩
  · intro data caller returned member
    obtain ⟨issued, phase⟩ := ledger.phases _ _ _ (mem_of_other other member)
    rw [callers, adds_snoc, results_snoc, (dropped caller).1,
      (dropped caller).2, List.append_nil, waiting]
    refine ⟨issued, ?_⟩
    generalize adds caller trace = done at phase ⊢
    generalize results caller trace = returned at phase ⊢
    cases phase with
    | waits decoded queued =>
        rw [dropped_eq_singleton ledger.once queued]
        exact .failed .nodeStopped (by simp)
    | failed error gone =>
        rw [dropped_eq_nil gone, List.append_nil]
        exact .failed error (by simp)
    | restored decoded gone =>
        rw [dropped_eq_nil gone, List.append_nil]
        exact .restored decoded (by simp)

theorem Ledger.preserved (ledger : Ledger settings trace before)
    (taken : (node settings).step before action = some (next, output)) :
    Ledger settings (trace ++ [(action, output)]) next := by
  cases Moves.of_step taken with
  | refused error waiting callers => exact ledger.refused error waiting callers
  | queued decoded waiting callers =>
      exact ledger.queued decoded waiting callers
  | silent other waiting callers quiet =>
      exact ledger.silent other waiting callers quiet
  | stopped other waiting callers dropped =>
      exact ledger.stopped other waiting callers dropped
  | @performed _ entries performer other waiting callers =>
      refine ledger.performed other waiting callers ?_ ?_
      · intro caller
        simp only [addsOf, adds_importRoutingTable]
      · intro caller
        simp only [resultsOf, asImported, reply_importRoutingTable,
          List.filterMap_cons, List.filterMap_nil]
        by_cases same : performer = caller
        · simp [same]
        · simp [same]

theorem Ledger.of_run (run : Machine.Run (node settings) trace next) :
    Ledger settings trace next :=
  run.invariant (fun trace state => Ledger settings trace state)
    (Ledger.init settings) fun _ ledger taken => ledger.preserved taken

/-- An import that returns an error has added nothing, and one that returns has
added the pairs of the decoded snapshot that parse, in their order. -/
theorem import_all_or_nothing {reached : Node} {data : Bytes}
    {caller : ReplyTo} {returned : Option Returned}
    (run : Machine.Run (node settings) trace reached)
    (called : (.kadImportRoutingTable data, .called caller returned) ∈
      trace) :
    (results caller trace).length ≤ 1 ∧
    (∀ error, .error error ∈ results caller trace → adds caller trace = []) ∧
    ∀ count, .ok count ∈ results caller trace →
      ∃ entries, decode data = .ok entries ∧
        adds caller trace =
          (storedPairs entries).filterMap (parsePair settings) ∧
        count = (adds caller trace).length := by
  have phase := ((Ledger.of_run run).phases data caller returned called).2
  generalize adds caller trace = done at phase ⊢
  generalize results caller trace = result at phase ⊢
  cases phase with
  | waits decoded queued => simp
  | failed error gone => simp
  | @restored entries decoded gone =>
      refine ⟨Nat.le_refl 1, ?_, ?_⟩
      · intro error member
        cases List.mem_singleton.mp member
      · intro count member
        cases List.mem_singleton.mp member
        exact ⟨entries, decoded, importedPairs_eq settings entries, rfl⟩

end

def neighbour : PeerId where
  multihash := { code := Multihash.identity, digest := [8, 1, 18, 0] }
  accepted := .inr ⟨rfl, by decide⟩

def loopback : Multiaddr where
  toVec := [4, 127, 0, 0, 1, 6, 15, 161]
  toString := "/ip4/127.0.0.1/tcp/4001"

def homeSettings : Settings where
  mdnsAutoDial := false
  kademlia := true
  rendezvousClient := false
  peerIdFromBytes := fun bytes =>
    if bytes = [0, 4, 8, 1, 18, 0] then some neighbour else none
  multiaddrTryFrom := fun bytes =>
    if bytes = loopback.toVec then some loopback else none
  namespaceNew := fun _ => true

def noAnswers : Answers where
  connectedPeers := []
  listeners := []
  meshPeers := fun _ => []
  allPeers := []
  peerScore := fun _ => none
  kbuckets := []
  sendRequest := fun _ _ => "OutboundRequestId(1)"
  allocates := fun _ => true

/-- A snapshot with a truncated address and a truncated identifier in it. -/
def damaged : List RoutingEntry :=
  [⟨[0, 4, 8, 1, 18, 0], [[4, 127], loopback.toVec]⟩,
    ⟨[0, 9], [loopback.toVec]⟩]

/-- The snapshot is imported, a file that is none is refused, and the node stops
before it gets to a second import. -/
def restarts : List Action :=
  [.kadImportRoutingTable (encode damaged),
    .kadImportRoutingTable [0x4C, 0x32, 0x44, 0x55, 1],
    .receive noAnswers, .send .shutdown,
    .kadImportRoutingTable (encode damaged), .receive noAnswers]

theorem import_all_or_nothing_restarts :
    ∃ trace reached returned, Machine.Run (node homeSettings) trace reached ∧
      trace.map Prod.fst = restarts ∧
      (.kadImportRoutingTable (encode damaged), .called 0 returned) ∈ trace ∧
      .ok 1 ∈ results 0 trace ∧ adds 0 trace = [(neighbour, loopback)] ∧
      .error .nodeStopped ∈ results 2 trace ∧
      ∃ entries, decode (encode damaged) = .ok entries ∧
        adds 0 trace =
          (storedPairs entries).filterMap (parsePair homeSettings) := by
  obtain ⟨trace, reached, executed, run, inputs⟩ :=
    Machine.exists_run_of_start
      (by decide : ((node homeSettings).start restarts).isSome)
  have final : ((node homeSettings).start restarts).map (fun result =>
      (results 0 result.1, adds 0 result.1, results 2 result.1)) =
        some ([.ok 1], [(neighbour, loopback)], [.error .nodeStopped]) := by
    decide
  have first : ((node homeSettings).start restarts).map (fun result =>
      result.1.head?) =
        some (some (.kadImportRoutingTable (encode damaged),
          .called 0 none)) := rfl
  rw [executed] at final first
  simp only [Option.map_some, Option.some.injEq, Prod.mk.injEq] at final first
  obtain ⟨returned, added, stopped⟩ := final
  have called := List.mem_of_mem_head? (Option.mem_def.mpr first)
  have succeeded : .ok 1 ∈ results 0 trace := by
    rw [returned]
    exact List.mem_singleton_self _
  have failed : .error .nodeStopped ∈ results 2 trace := by
    rw [stopped]
    exact List.mem_singleton_self _
  obtain ⟨entries, decoded, performed, -⟩ :=
    (import_all_or_nothing run called).2.2 1 succeeded
  exact ⟨trace, reached, none, run, inputs, called, succeeded, added, failed,
    entries, decoded, performed⟩

end ExLibp2p.Native.RoutingTable
