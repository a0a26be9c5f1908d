import ExLibp2p.Data.Exposition
import ExLibp2p.Data.Grouping
import ExLibp2p.Telemetry.Counters
import Mathlib.Data.List.Lex
import Mathlib.Data.List.Sort
import Mathlib.Data.Set.List
import Mathlib.Data.String.Basic

namespace ExLibp2p.Telemetry.Counters

open ExLibp2p.Data

/-! The snapshot as text. Atoms and lists of atoms stand in the order of
terms. -/

structure Entry where
  event : Event
  result : ResultTag
  count : Nat

/-- The entries that the patterns of the renderer match and that it can
print. -/
def entry? : (Sigma fun _ : Key => Value) → Option Entry
  | ⟨.counter event result, .integer count⟩ => some { event, result, count }
  | _ => none

def metricNameFor (event : Event) : String :=
  String.intercalate "_" event

def renderMetricFamily (event : Event) (entries : List Entry) : List String :=
  let metricName := metricNameFor event
  let header :=
    ["# HELP ", metricName, "_total Number of [", String.intercalate ", " event,
      "] events fired, partitioned by result.\n",
      "# TYPE ", metricName, "_total counter\n"]
  let sorted := entries.insertionSort fun first second =>
    first.result.atom ≤ second.result.atom
  let body := sorted.flatMap fun entry =>
    [metricName, "_total\x7bresult=\"", entry.result.atom, "\"\x7d ",
      toString entry.count, "\n"]
  header ++ body ++ ["\n"]

/-- A `none` is an exception. -/
def doRenderPrometheus (snapshot : Dict Key Value) : Option String :=
  if snapshot.size = 0 then
    some "# ExLibp2p telemetry counters (no events recorded yet)\n"
  else
    (snapshot.entries.mapM entry?).map fun entries =>
      let groups := (groupBy Entry.event entries).entries
      let sorted := groups.insertionSort fun first second =>
        first.1 ≤ second.1
      String.join (sorted.flatMap fun group =>
        renderMetricFamily group.1 group.2)

structure Family where
  event : Event
  samples : List (ResultTag × Nat)

def helpText (event : Event) : String :=
  "HELP " ++ metricNameFor event ++ "_total Number of [" ++
    String.intercalate ", " event ++ "] events fired, partitioned by result."

def typeText (event : Event) : String :=
  "TYPE " ++ metricNameFor event ++ "_total counter"

def sampleOf (event : Event) (result : ResultTag) (count : Nat) : Sample where
  name := metricNameFor event ++ "_total"
  label := "result"
  value := result.atom
  count := count

namespace Family

def header (family : Family) : List Line :=
  [.comment (helpText family.event), .comment (typeText family.event)]

def body (family : Family) : List Line :=
  family.samples.map fun sample =>
    .sample (sampleOf family.event sample.1 sample.2)

def lines (family : Family) : List Line :=
  family.header ++ family.body ++ [.blank]

end Family

/-- One family for every event that occurs, under a name of its own, and in it
one sample for every tag. -/
structure Exposes (counts : Dict Key Value) (families : List Family)
    (text : String) : Prop where
  layout : text = document (families.flatMap Family.lines)
  occurring : ∀ event, event ∈ families.map Family.event ↔
    ∃ result count,
      counts.lookup (.counter event result) = some (.integer count)
  names : (families.map fun family => metricNameFor family.event).Nodup
  tags : ∀ family ∈ families, (family.samples.map Prod.fst).Nodup
  exact : ∀ family ∈ families, ∀ result count,
    (result, count) ∈ family.samples ↔
      counts.lookup (.counter family.event result) = some (.integer count)

def Catalogued (counts : Dict Key Value) : Prop :=
  ∀ key value, counts.lookup key = some value →
    ∃ event ∈ eventNames, ∃ result count,
      key = .counter event result ∧ value = .integer count

theorem Catalogued.event {counts : Dict Key Value} {event : Event}
    {result : ResultTag} {value : Value} (catalogued : Catalogued counts)
    (found : counts.lookup (.counter event result) = some value) :
    event ∈ eventNames := by
  obtain ⟨_, member, _, _, same, -⟩ := catalogued _ value found
  cases same
  exact member

def Entry.binding (entry : Entry) : Sigma fun _ : Key => Value :=
  ⟨.counter entry.event entry.result, .integer entry.count⟩

theorem binding_injective : Function.Injective Entry.binding := by
  intro first second same
  cases first
  cases second
  cases same
  rfl

theorem mapM_binding (entries : List Entry) :
    (entries.map Entry.binding).mapM entry? = some entries := by
  induction entries with
  | nil => rfl
  | cons entry entries induction =>
      rw [List.map_cons, List.mapM_cons, induction]
      rfl

theorem exists_entries {counts : Dict Key Value}
    (catalogued : Catalogued counts) :
    ∃ entries : List Entry, counts.entries = entries.map Entry.binding := by
  have inRange : counts.entries ∈ Set.range (List.map Entry.binding) := by
    rw [Set.range_list_map]
    intro binding member
    obtain ⟨event, -, result, count, isKey, isValue⟩ :=
      catalogued binding.1 binding.2 (Dict.mem_entries_iff.mp member)
    exact ⟨{ event, result, count }, by
      rw [Entry.binding, ← isKey, ← isValue]⟩
  obtain ⟨entries, same⟩ := inRange
  exact ⟨entries, same.symm⟩

def familyOf (group : Sigma fun _ : Event => List Entry) : Family where
  event := group.1
  samples := (group.2.insertionSort fun first second =>
    first.result.atom ≤ second.result.atom).map fun entry =>
      (entry.result, entry.count)

theorem document_body (event : Event) (entries : List Entry) :
    String.join (entries.flatMap fun entry =>
      [metricNameFor event, "_total\x7bresult=\"", entry.result.atom, "\"\x7d ",
        toString entry.count, "\n"]) =
      document (entries.map fun entry =>
        .sample (sampleOf event entry.result entry.count)) := by
  induction entries with
  | nil => rfl
  | cons entry entries induction =>
      rw [List.flatMap_cons, String.join_append, induction, List.map_cons,
        document_cons]
      congr 1
      simp [Line.text, Sample.text, sampleOf, String.append_assoc]

theorem join_renderMetricFamily
    (group : Sigma fun _ : Event => List Entry) :
    String.join (renderMetricFamily group.1 group.2) =
      document (familyOf group).lines := by
  have header : String.join
      ["# HELP ", metricNameFor group.1, "_total Number of [",
        String.intercalate ", " group.1,
        "] events fired, partitioned by result.\n",
        "# TYPE ", metricNameFor group.1, "_total counter\n"] =
      document (familyOf group).header := by
    have marked (word rest : String) :
        "# " ++ (word ++ rest) = "# " ++ word ++ rest :=
      String.append_assoc.symm
    simp only [String.join_cons, String.join_nil, String.append_empty,
      Family.header, familyOf, document_cons, Line.text, helpText, typeText,
      String.append_assoc, String.reduceAppend]
    rw [marked "HELP ", marked "TYPE "]
    rfl
  rw [renderMetricFamily, String.join_append, String.join_append, header,
    document_body, Family.lines, document_append, document_append,
    Family.body, familyOf, List.map_map]
  rfl

def sortedGroups (entries : List Entry) :
    List (Sigma fun _ : Event => List Entry) :=
  (groupBy Entry.event entries).entries.insertionSort fun first second =>
    first.1 ≤ second.1

def familiesOf (entries : List Entry) : List Family :=
  (sortedGroups entries).map familyOf

theorem join_families (groups : List (Sigma fun _ : Event => List Entry)) :
    String.join (groups.flatMap fun group =>
      renderMetricFamily group.1 group.2) =
      document ((groups.map familyOf).flatMap Family.lines) := by
  induction groups with
  | nil => rfl
  | cons group groups induction =>
      rw [List.flatMap_cons, String.join_append, induction,
        join_renderMetricFamily, List.map_cons, List.flatMap_cons,
        document_append]

theorem doRenderPrometheus_eq {counts : Dict Key Value} {entries : List Entry}
    (nonempty : counts.size ≠ 0)
    (same : counts.entries = entries.map Entry.binding) :
    doRenderPrometheus counts =
      some (document ((familiesOf entries).flatMap Family.lines)) := by
  rw [doRenderPrometheus, if_neg nonempty, same, mapM_binding, Option.map_some,
    familiesOf, ← join_families]
  rfl

section Families

variable {counts : Dict Key Value} {entries : List Entry}

theorem mem_entries (same : counts.entries = entries.map Entry.binding)
    (entry : Entry) :
    entry ∈ entries ↔ counts.lookup (.counter entry.event entry.result) =
      some (.integer entry.count) := by
  rw [← Dict.mem_entries_iff, same]
  exact (List.mem_map_of_injective binding_injective).symm

theorem entries_pairwise (same : counts.entries = entries.map Entry.binding) :
    entries.Pairwise fun first second =>
      first.event = second.event → first.result ≠ second.result := by
  have distinct := counts.nodupKeys
  rw [same, List.NodupKeys, List.keys, List.map_map, List.Nodup,
    List.pairwise_map] at distinct
  apply distinct.imp
  intro first second different sameEvent sameResult
  apply different
  simp [Entry.binding, sameEvent, sameResult]

theorem mem_sortedGroups {group : Sigma fun _ : Event => List Entry} :
    group ∈ sortedGroups entries ↔ group.2 ≠ [] ∧
      group.2 = entries.filter (Entry.event · = group.1) := by
  rw [sortedGroups, List.mem_insertionSort]
  exact Dict.mem_entries_iff.trans lookup_groupBy_eq_some

theorem mem_samples {group : Sigma fun _ : Event => List Entry}
    (member : group ∈ sortedGroups entries) (result : ResultTag)
    (count : Nat) :
    (result, count) ∈ (familyOf group).samples ↔
      { event := group.1, result, count } ∈ entries := by
  obtain ⟨-, members⟩ := mem_sortedGroups.mp member
  rw [familyOf, List.mem_map]
  constructor
  · intro found
    obtain ⟨entry, sorted, rest⟩ := found
    rw [List.mem_insertionSort, members, List.mem_filter] at sorted
    obtain ⟨inside, isEvent⟩ := sorted
    obtain ⟨rfl, rfl⟩ := Prod.mk.inj rest
    rw [← of_decide_eq_true isEvent]
    exact inside
  · intro inside
    refine ⟨{ event := group.1, result, count }, ?_, rfl⟩
    rw [List.mem_insertionSort, members, List.mem_filter]
    exact ⟨inside, decide_eq_true rfl⟩

theorem tags_nodup (same : counts.entries = entries.map Entry.binding)
    {group : Sigma fun _ : Event => List Entry}
    (member : group ∈ sortedGroups entries) :
    ((familyOf group).samples.map Prod.fst).Nodup := by
  obtain ⟨-, members⟩ := mem_sortedGroups.mp member
  have sorted : ((familyOf group).samples.map Prod.fst).Perm
      (group.2.map Entry.result) := by
    rw [familyOf, List.map_map]
    exact (List.perm_insertionSort _ _).map _
  rw [sorted.nodup_iff, members, List.Nodup, List.pairwise_map,
    List.pairwise_filter]
  apply (entries_pairwise same).imp
  intro first second different isFirst isSecond
  apply different
  rw [of_decide_eq_true isFirst, of_decide_eq_true isSecond]

theorem groups_nodup (entries : List Entry) :
    ((familiesOf entries).map Family.event).Nodup := by
  have sorted : ((familiesOf entries).map Family.event).Perm
      (groupBy Entry.event entries).keys := by
    rw [familiesOf, List.map_map]
    exact (List.perm_insertionSort _ _).map _
  rw [sorted.nodup_iff]
  exact (groupBy Entry.event entries).keys_nodup

theorem mem_events (event : Event) :
    event ∈ (familiesOf entries).map Family.event ↔
      ∃ entry ∈ entries, entry.event = event := by
  rw [familiesOf, List.map_map, List.mem_map]
  constructor
  · rintro ⟨group, member, rfl⟩
    obtain ⟨full, members⟩ := mem_sortedGroups.mp member
    obtain ⟨entry, inside⟩ := List.exists_mem_of_ne_nil _ full
    rw [members, List.mem_filter] at inside
    exact ⟨entry, inside.1, of_decide_eq_true inside.2⟩
  · rintro ⟨entry, inside, rfl⟩
    refine ⟨⟨entry.event, entries.filter (Entry.event · = entry.event)⟩, ?_,
      rfl⟩
    rw [mem_sortedGroups]
    refine ⟨?_, rfl⟩
    apply List.ne_nil_of_mem
    exact List.mem_filter.mpr ⟨inside, decide_eq_true rfl⟩

end Families

theorem metricNames_nodup : (eventNames.map metricNameFor).Nodup := by
  decide

theorem metricName_injective {first second : Event}
    (isFirst : first ∈ eventNames) (isSecond : second ∈ eventNames)
    (same : metricNameFor first = metricNameFor second) : first = second :=
  List.inj_on_of_nodup_map metricNames_nodup isFirst isSecond same

theorem exposes_of_catalogued {counts : Dict Key Value}
    (nonempty : counts.size ≠ 0) (catalogued : Catalogued counts) :
    ∃ families text, doRenderPrometheus counts = some text ∧
      Exposes counts families text := by
  obtain ⟨entries, same⟩ := exists_entries catalogued
  have occurring : ∀ event, event ∈ (familiesOf entries).map Family.event ↔
      ∃ result count,
        counts.lookup (.counter event result) = some (.integer count) := by
    intro event
    rw [mem_events]
    constructor
    · rintro ⟨entry, inside, rfl⟩
      exact ⟨entry.result, entry.count, (mem_entries same entry).mp inside⟩
    · rintro ⟨result, count, found⟩
      exact ⟨{ event, result, count }, (mem_entries same _).mpr found, rfl⟩
  refine ⟨familiesOf entries, _, doRenderPrometheus_eq nonempty same, ?_⟩
  refine
    { layout := rfl
      occurring := occurring
      names := ?_
      tags := ?_
      exact := ?_ }
  · have inCatalog : ∀ event ∈ (familiesOf entries).map Family.event,
        event ∈ eventNames := by
      intro event member
      obtain ⟨result, count, found⟩ := (occurring event).mp member
      exact catalogued.event found
    have names := (groups_nodup entries).map_on fun first isFirst second
      isSecond => metricName_injective (inCatalog first isFirst)
        (inCatalog second isSecond)
    rw [List.map_map] at names
    exact names
  · intro family member
    obtain ⟨group, inside, rfl⟩ := List.mem_map.mp member
    exact tags_nodup same inside
  · intro family member result count
    obtain ⟨group, inside, rfl⟩ := List.mem_map.mp member
    exact (mem_samples inside result count).trans (mem_entries same _)

def sampleFor (event : Event) (result : ResultTag) (sample : Sample) : Bool :=
  sample.name = metricNameFor event ++ "_total" ∧ sample.value = result.atom

/-- The counters that a scraper who knows the catalog reads. -/
def recover (text : String) : Key → Option Value
  | .handlerId => none
  | .counter event result =>
      if event ∈ eventNames then
        ((readSamples text).find? (sampleFor event result)).map fun sample =>
          .integer sample.count
      else
        none

theorem atoms_plain : ∀ event ∈ eventNames, ∀ atom ∈ event,
    Avoids ['{', '\n'] atom := by
  decide

theorem tag_plain (result : ResultTag) :
    Avoids ['"', '\n'] result.atom := by
  cases result with
  | ok => decide
  | error => decide
  | unknown => decide

theorem lines_plain {family : Family} (inCatalog : family.event ∈ eventNames) :
    ∀ line ∈ family.lines, line.Plain := by
  have atoms := atoms_plain family.event inCatalog
  have name : Avoids ['{', '\n'] (metricNameFor family.event) :=
    avoids_intercalate (by decide) atoms
  have list : Avoids ['{', '\n'] (String.intercalate ", " family.event) :=
    avoids_intercalate (by decide) atoms
  have help : (Line.comment (helpText family.event)).Plain := by
    apply avoids_append _ (by decide)
    apply avoids_append _ list
    apply avoids_append _ (by decide)
    exact avoids_append (by decide) name
  have type : (Line.comment (typeText family.event)).Plain := by
    apply avoids_append _ (by decide)
    exact avoids_append (by decide) name
  intro line member
  rw [Family.lines, List.mem_append, List.mem_append] at member
  rcases member with (header | body) | blank
  · rcases List.mem_pair.mp header with rfl | rfl
    · exact help
    · exact type
  · obtain ⟨sample, -, rfl⟩ := List.mem_map.mp body
    exact
      { name := avoids_append name (by decide)
        label := (by decide : Avoids ['=', '\n'] "result")
        value := tag_plain sample.1 }
  · rw [List.mem_singleton] at blank
    subst blank
    trivial

theorem atom_injective {first second : ResultTag}
    (same : first.atom = second.atom) : first = second := by
  revert same
  cases first <;> cases second <;> decide

section Recovery

variable {counts : Dict Key Value} {families : List Family} {text : String}

theorem sampleFor_sampleOf {event other : Event} {result tag : ResultTag}
    {count : Nat} (isEvent : event ∈ eventNames)
    (isOther : other ∈ eventNames) :
    sampleFor event result (sampleOf other tag count) = true ↔
      other = event ∧ tag = result := by
  rw [sampleFor, decide_eq_true_iff]
  constructor
  · intro found
    obtain ⟨sameName, sameTag⟩ := found
    exact ⟨metricName_injective isOther isEvent
      ((String.append_left_inj _).mp sameName), atom_injective sameTag⟩
  · rintro ⟨rfl, rfl⟩
    exact ⟨rfl, rfl⟩

theorem Exposes.plain (exposes : Exposes counts families text)
    (catalogued : Catalogued counts) :
    ∀ line ∈ families.flatMap Family.lines, line.Plain := by
  intro line member
  obtain ⟨family, inside, member⟩ := List.mem_flatMap.mp member
  obtain ⟨result, count, found⟩ := (exposes.occurring family.event).mp
    (List.mem_map_of_mem inside)
  exact lines_plain (catalogued.event found) line member

theorem sample?_mem_lines {family : Family} {sample : Sample} :
    (∃ line ∈ family.lines, line.sample? = some sample) ↔
      ∃ entry ∈ family.samples,
        sample = sampleOf family.event entry.1 entry.2 := by
  constructor
  · rintro ⟨line, member, isSample⟩
    rw [Family.lines, List.mem_append, List.mem_append] at member
    rcases member with (header | body) | blank
    · rcases List.mem_pair.mp header with rfl | rfl
      · cases isSample
      · cases isSample
    · obtain ⟨entry, inside, rfl⟩ := List.mem_map.mp body
      cases isSample
      exact ⟨entry, inside, rfl⟩
    · rw [List.mem_singleton] at blank
      subst blank
      cases isSample
  · rintro ⟨entry, inside, rfl⟩
    refine ⟨.sample (sampleOf family.event entry.1 entry.2), ?_, rfl⟩
    rw [Family.lines, List.mem_append, List.mem_append]
    exact .inl (.inr (List.mem_map.mpr ⟨entry, inside, rfl⟩))

theorem Exposes.mem_readSamples (exposes : Exposes counts families text)
    (catalogued : Catalogued counts) {sample : Sample} :
    sample ∈ readSamples text ↔ ∃ event result count,
      counts.lookup (.counter event result) = some (.integer count) ∧
        sample = sampleOf event result count := by
  rw [exposes.layout, readSamples_document (exposes.plain catalogued),
    List.mem_filterMap]
  constructor
  · rintro ⟨line, member, isSample⟩
    obtain ⟨family, inside, member⟩ := List.mem_flatMap.mp member
    obtain ⟨⟨result, count⟩, isEntry, rfl⟩ :=
      sample?_mem_lines.mp ⟨line, member, isSample⟩
    exact ⟨family.event, result, count,
      (exposes.exact family inside result count).mp isEntry, rfl⟩
  · rintro ⟨event, result, count, found, rfl⟩
    obtain ⟨family, inside, rfl⟩ := List.mem_map.mp
      ((exposes.occurring event).mpr ⟨result, count, found⟩)
    obtain ⟨line, member, isSample⟩ := sample?_mem_lines.mpr ⟨(result, count),
      (exposes.exact family inside result count).mpr found, rfl⟩
    exact ⟨line, List.mem_flatMap.mpr ⟨family, inside, member⟩, isSample⟩

theorem Exposes.find_eq (exposes : Exposes counts families text)
    (catalogued : Catalogued counts) {event : Event}
    (isEvent : event ∈ eventNames) (result : ResultTag) :
    (((readSamples text).find? (sampleFor event result)).map fun sample =>
        Value.integer sample.count) =
      counts.lookup (.counter event result) := by
  cases first : (readSamples text).find? (sampleFor event result) with
  | none =>
      cases found : counts.lookup (.counter event result) with
      | none => rfl
      | some value =>
          obtain ⟨_, -, _, count, same, rfl⟩ := catalogued _ value found
          cases same
          have member := (exposes.mem_readSamples catalogued).mpr
            ⟨event, result, count, found, rfl⟩
          have none := List.find?_eq_none.mp first _ member
          exact absurd
            ((sampleFor_sampleOf isEvent isEvent).mpr ⟨rfl, rfl⟩) none
  | some sample =>
      obtain ⟨other, tag, count, found, rfl⟩ :=
        (exposes.mem_readSamples catalogued).mp
          (List.mem_of_find?_eq_some first)
      obtain ⟨rfl, rfl⟩ := (sampleFor_sampleOf isEvent
        (catalogued.event found)).mp (List.find?_some first)
      exact found.symm

/-- The snapshot can be read back from the text. -/
theorem Exposes.recover_eq (exposes : Exposes counts families text)
    (catalogued : Catalogued counts) :
    recover text = fun key => counts.lookup key := by
  funext key
  cases found : counts.lookup key with
  | none =>
      cases key with
      | handlerId => rfl
      | counter event result =>
          rw [recover]
          split
          · rename_i isEvent
            rw [exposes.find_eq catalogued isEvent, found]
          · rfl
  | some value =>
      obtain ⟨event, isEvent, result, count, rfl, rfl⟩ :=
        catalogued key value found
      rw [recover, if_pos isEvent, exposes.find_eq catalogued isEvent, found]

theorem exists_recoverable (catalogued : Catalogued counts) :
    ∃ text, doRenderPrometheus counts = some text ∧
      recover text = fun key => counts.lookup key := by
  by_cases empty : counts.size = 0
  · refine ⟨_, if_pos empty, ?_⟩
    funext key
    have absent : counts.lookup key = none := by
      rw [AList.lookup_eq_none, AList.mem_keys,
        List.eq_nil_of_length_eq_zero
          ((Dict.size_eq_length_keys counts).symm.trans empty)]
      exact List.not_mem_nil
    have none : readSamples
        "# ExLibp2p telemetry counters (no events recorded yet)\n" = [] := rfl
    rw [absent]
    cases key with
    | handlerId => rfl
    | counter event result =>
        rw [recover, none]
        exact ite_self _
  · obtain ⟨families, text, rendered, exposes⟩ :=
      exposes_of_catalogued empty catalogued
    exact ⟨text, rendered, exposes.recover_eq catalogued⟩

end Recovery

end ExLibp2p.Telemetry.Counters
