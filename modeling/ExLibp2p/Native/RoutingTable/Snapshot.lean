import ExLibp2p.Native.DhtState.RoundTrip
import ExLibp2p.Native.RoutingTable.Import

namespace ExLibp2p.Native.RoutingTable

open ExLibp2p.Data
open ExLibp2p.Native.DhtState
open ExLibp2p.Native.Policy
open ExLibp2p.Native.SwarmLoop
  (Settings Answers Effect swarmLoop swarmLoop_step_eq_some exportRoutingTable
    importedPairs importRoutingTable)

/-! A routing table by its k-buckets, from the node that exports it to the node
that imports it. -/

abbrev Table := List (List (PeerId × List Multiaddr))

def tableEntries (table : Table) : List RoutingEntry :=
  table.flatten.map fun row =>
    { peerId := row.1.toBytes, addresses := row.2.map Multiaddr.toVec }

def tablePairs (table : Table) : List (PeerId × Multiaddr) :=
  table.flatten.flatMap fun row => row.2.map fun addr => (row.1, addr)

def pairBytes (pair : PeerId × Multiaddr) : Bytes × Bytes :=
  (pair.1.toBytes, pair.2.toVec)

theorem exportRoutingTable_eq {settings : Settings} {answers : Answers}
    {entries : List RoutingEntry}
    (exported : exportRoutingTable settings answers = .ok entries) :
    entries = tableEntries answers.kbuckets := by
  simp only [exportRoutingTable] at exported
  split at exported
  · cases exported
    rw [tableEntries, List.flatten_eq_flatMap, List.map_flatMap]
    rfl
  · contradiction

theorem storedPairs_tableEntries (table : Table) :
    storedPairs (tableEntries table) = (tablePairs table).map pairBytes := by
  rw [storedPairs, tableEntries, tablePairs, List.flatMap_map,
    List.map_flatMap]
  congr
  funext row
  simp [pairBytes, Function.comp_def]

/-- What a call of `kad_export_routing_table` returned, in any run of a node
that had the table in the turn that answered the call. -/
def Snapshot (table : Table) (bytes : Bytes) : Prop :=
  ∃ settings trace before answers next taken effects returned caller,
    Machine.Run (node settings) trace before ∧
    (node settings).step before (.receive answers) =
      some (next, .turned taken effects returned) ∧
    answers.kbuckets = table ∧
    (caller, .exported (.ok bytes)) ∈ returned

theorem finish_exported {allocates : Nat → Bool} {effects : List Effect}
    {command : Command} {caller : ReplyTo} {bytes : Bytes}
    (returned : (caller, .exported (.ok bytes)) ∈
      finish allocates effects command) :
    command = .dhtExportRoutingTable caller ∧ ∃ entries,
      effects.findSome? (exportReply caller) = some (.ok entries) ∧
        bytes = encode entries := by
  cases command with
  | dhtExportRoutingTable reply =>
      simp only [finish, List.mem_singleton, Prod.mk.injEq,
        Returned.exported.injEq] at returned
      obtain ⟨rfl, result⟩ := returned
      refine ⟨rfl, ?_⟩
      cases received : effects.findSome? (exportReply caller) with
      | none =>
          rw [received] at result
          cases result
      | some reply =>
          cases reply with
          | error disabled =>
              rw [received] at result
              cases result
          | ok entries =>
              rw [received, finishExport] at result
              split at result
              · cases result
                exact ⟨entries, rfl, rfl⟩
              · cases result
  | dhtImportRoutingTable entries reply =>
      simp [finish] at returned
  | _ => cases returned

theorem Snapshot.eq_encode {table : Table} {bytes : Bytes}
    (snapshot : Snapshot table bytes) :
    bytes = encode (tableEntries table) := by
  obtain ⟨settings, trace, before, answers, next, taken, effects, returned,
    caller, -, stepped, rfl, member⟩ := snapshot
  simp only [node] at stepped
  cases queue : before.queue with
  | nil => simp [queue] at stepped
  | cons command rest =>
      simp only [queue, Option.map_eq_some_iff] at stepped
      obtain ⟨⟨loop, produced⟩, turned, equal⟩ := stepped
      rcases swarmLoop_step_eq_some turned with
        ⟨running, locals, -, answered⟩ | ⟨exited, rfl, -⟩
      · simp only [Node.continues, running, Bool.false_eq_true, if_false]
          at equal
        cases equal
        rw [Option.toList_some, List.flatMap_singleton] at member
        obtain ⟨rfl, entries, replied, rfl⟩ := finish_exported member
        cases answered
        simp only [SwarmLoop.request, List.findSome?_cons, exportReply, if_true,
          Option.some.injEq] at replied
        rw [exportRoutingTable_eq replied]
      · -- a loop that ends has sent no reply
        simp only [Node.continues, exited, if_true] at equal
        cases equal
        obtain ⟨command, -, finished⟩ := List.mem_flatMap.mp member
        obtain ⟨-, entries, replied, -⟩ := finish_exported finished
        cases replied

theorem snapshot_encode {settings : Settings} (enabled : settings.kademlia = true)
    (answers : Answers) (allocated : ∀ size, answers.allocates size = true) :
    Snapshot answers.kbuckets (encode (tableEntries answers.kbuckets)) := by
  have entries : exportRoutingTable settings answers =
      .ok (tableEntries answers.kbuckets) := by
    have exported : ∃ found, exportRoutingTable settings answers = .ok found := by
      rw [exportRoutingTable, if_pos enabled]
      exact ⟨_, rfl⟩
    obtain ⟨found, equal⟩ := exported
    rw [equal, exportRoutingTable_eq equal]
  have run : Machine.Run (node settings)
      ([] ++ [(.kadExportRoutingTable, .called 0 none)])
      { loop := (swarmLoop settings).init
        queue := [.dhtExportRoutingTable 0], callers := 1 } :=
    Machine.Run.nil.snoc rfl
  refine ⟨settings, _, _, answers, _, _, _, _, 0, run, rfl, rfl, ?_⟩
  have finished : finishExport answers.allocates
      ([Effect.reply 0 (.exported (exportRoutingTable settings answers))].findSome?
        (exportReply 0)) = .ok (encode (tableEntries answers.kbuckets)) := by
    simp [exportReply, entries, finishExport, allocated]
  rw [← finished]
  exact List.mem_singleton_self _

structure Fresh (node : Node) : Prop where
  running : node.loop.exited = false
  handled : node.queue = []

theorem Fresh.init (settings : Settings) :
    Fresh (RoutingTable.node settings).init where
  running := rfl
  handled := rfl

theorem exec_import_of_error {settings : Settings} {fresh : Node}
    (isFresh : Fresh fresh) {data : Bytes} {error : DhtStateError}
    (rejected : decode data = .error error) (answers : Answers) :
    (node settings).exec fresh
      [.kadImportRoutingTable data, .receive answers] = none := by
  simp [Machine.exec, node, Node.kadImportRoutingTable, rejected,
    isFresh.handled]

def importHistory (settings : Settings) (data : Bytes)
    (entries : List RoutingEntry) (caller : ReplyTo) (answers : Answers) :
    History :=
  [(.kadImportRoutingTable data, .called caller none),
    (.receive answers,
      .turned (some (.dhtImportRoutingTable entries caller))
        (importRoutingTable settings entries caller)
        [(caller, .imported (finishImport
          ((importRoutingTable settings entries caller).findSome?
            (importReply caller))))])]

theorem exec_import_of_ok (settings : Settings) {fresh : Node}
    (isFresh : Fresh fresh) {data : Bytes} {entries : List RoutingEntry}
    (decoded : decode data = .ok entries) (answers : Answers) :
    ∃ last, (node settings).exec fresh
      [.kadImportRoutingTable data, .receive answers] =
        some (importHistory settings data entries fresh.callers answers,
          last) := by
  obtain ⟨⟨locals, exited, channels⟩, queue, callers⟩ := fresh
  obtain ⟨running, handled⟩ := isFresh
  cases running
  cases handled
  simp only [Machine.exec, node, Node.kadImportRoutingTable, decoded]
  exact ⟨_, rfl⟩

theorem observed_importHistory {settings : Settings}
    (enabled : settings.kademlia = true) (data : Bytes)
    (entries : List RoutingEntry) (caller : ReplyTo) (answers : Answers) :
    results caller (importHistory settings data entries caller answers) =
        [.ok (importedPairs settings entries).length] ∧
      adds caller (importHistory settings data entries caller answers) =
        importedPairs settings entries := by
  simp [importHistory, results, resultsOf, asImported, adds, addsOf,
    reply_importRoutingTable, adds_importRoutingTable, enabled]

/-- How many of the pairs a routing table accepts, where `accepts` is what
`add_address` reports of a pair after earlier calls. -/
def acceptedCount
    (accepts : List (PeerId × Multiaddr) → PeerId × Multiaddr → Bool)
    (earlier : List (PeerId × Multiaddr)) : List (PeerId × Multiaddr) → Nat
  | [] => 0
  | pair :: rest =>
      (if accepts earlier pair then 1 else 0) +
        acceptedCount accepts (earlier ++ [pair]) rest

theorem acceptedCount_le
    (accepts : List (PeerId × Multiaddr) → PeerId × Multiaddr → Bool)
    (earlier pairs : List (PeerId × Multiaddr)) :
    acceptedCount accepts earlier pairs ≤ pairs.length := by
  induction pairs generalizing earlier with
  | nil => exact Nat.le_refl 0
  | cons pair rest induction =>
      have bound := induction (earlier ++ [pair])
      rw [acceptedCount, List.length_cons]
      split <;> omega

theorem length_eq_acceptedCount
    (accepts : List (PeerId × Multiaddr) → PeerId × Multiaddr → Bool)
    (earlier pairs : List (PeerId × Multiaddr)) :
    pairs.length = acceptedCount accepts earlier pairs ↔
      ∀ first pair rest, pairs = first ++ pair :: rest →
        accepts (earlier ++ first) pair = true := by
  induction pairs generalizing earlier with
  | nil => simp [acceptedCount]
  | cons head tail induction =>
      have bound := acceptedCount_le accepts (earlier ++ [head]) tail
      rw [acceptedCount, List.length_cons]
      constructor
      · intro equal first pair rest split
        have accepted : accepts earlier head = true := by
          by_contra rejected
          rw [if_neg rejected] at equal
          omega
        rw [if_pos accepted] at equal
        have tailAccepted := (induction (earlier ++ [head])).mp (by omega)
        cases first with
        | nil =>
            cases split
            rw [List.append_nil]
            exact accepted
        | cons other first =>
            cases split
            have result := tailAccepted first pair rest rfl
            rwa [List.append_assoc] at result
      · intro all
        have accepted : accepts earlier head = true := by
          simpa using all [] head tail rfl
        have tailCount := (induction (earlier ++ [head])).mpr (by
          intro first pair rest split
          rw [List.append_assoc]
          exact all (head :: first) pair rest (by rw [split]; rfl))
        rw [if_pos accepted, ← tailCount]
        omega

/-- The import of a snapshot of the table into a fresh node is accepted, adds
the pairs of the table in their order, and returns how many were accepted. -/
def Restores (settings : Settings)
    (accepts : List (PeerId × Multiaddr) → PeerId × Multiaddr → Bool)
    (table : Table) (bytes : Bytes) : Prop :=
  ∀ fresh answers, Fresh fresh → ∃ count trace last,
    (node settings).exec fresh
      [.kadImportRoutingTable bytes, .receive answers] = some (trace, last) ∧
    results fresh.callers trace = [.ok count] ∧
    adds fresh.callers trace = tablePairs table ∧
    count = acceptedCount accepts [] (adds fresh.callers trace)

theorem restores_iff {settings : Settings} (enabled : settings.kademlia = true)
    (accepts : List (PeerId × Multiaddr) → PeerId × Multiaddr → Bool)
    (table : Table) (bytes : Bytes) :
    Restores settings accepts table bytes ↔
      ∃ entries, decode bytes = .ok entries ∧
        importedPairs settings entries = tablePairs table ∧
        (tablePairs table).length =
          acceptedCount accepts [] (tablePairs table) := by
  constructor
  · intro restores
    have isFresh := Fresh.init settings
    obtain ⟨count, trace, last, executed, returned, added, counted⟩ :=
      restores (node settings).init noAnswers isFresh
    cases decoded : decode bytes with
    | error error =>
        rw [exec_import_of_error isFresh decoded] at executed
        contradiction
    | ok entries =>
        obtain ⟨final, performed⟩ :=
          exec_import_of_ok settings isFresh decoded noAnswers
        rw [performed] at executed
        cases executed
        obtain ⟨result, pairs⟩ := observed_importHistory enabled bytes entries
          (node settings).init.callers noAnswers
        rw [pairs] at added counted
        rw [result, List.singleton_inj, Except.ok.injEq] at returned
        rw [added] at counted returned
        exact ⟨entries, rfl, added, returned.trans counted⟩
  · intro found fresh answers isFresh
    obtain ⟨entries, decoded, pairs, counted⟩ := found
    obtain ⟨last, performed⟩ :=
      exec_import_of_ok settings isFresh decoded answers
    obtain ⟨result, added⟩ :=
      observed_importHistory enabled bytes entries fresh.callers answers
    rw [pairs] at result added
    refine ⟨_, _, last, performed, result, added, ?_⟩
    rw [added]
    exact counted

structure Held (table : Table) : Prop where
  digest : ∀ row ∈ table.flatten, row.1.multihash.digest.length ≤ 64
  distinct : (table.flatten.map Prod.fst).Nodup
  apart : ∀ row ∈ table.flatten, ∀ other ∈ table.flatten, ∀ addr ∈ row.2,
    addr.toVec ≠ other.1.toBytes

structure Lawful (settings : Settings) (table : Table) : Prop where
  peerId : ∀ row ∈ table.flatten,
    settings.peerIdFromBytes row.1.toBytes = some row.1
  addr : ∀ row ∈ table.flatten, ∀ addr ∈ row.2,
    settings.multiaddrTryFrom addr.toVec = some addr

/-- The length of the snapshot, as the encoder estimates it. -/
def snapshotSize (table : Table) : Nat :=
  9 + (table.flatten.map fun row => 2 + row.1.toBytes.length + 2 +
    (row.2.map fun addr => 2 + addr.toVec.length).sum).sum

structure Restorable
    (accepts : List (PeerId × Multiaddr) → PeerId × Multiaddr → Bool)
    (table : Table) : Prop where
  counts : ∀ row ∈ table.flatten, row.2.length < 2 ^ 16
  lengths : ∀ row ∈ table.flatten, ∀ addr ∈ row.2, addr.toVec.length < 2 ^ 16
  small : snapshotSize table ≤ maxDhtExportBytes
  accepted : ∀ first pair rest, tablePairs table = first ++ pair :: rest →
    accepts first pair = true

theorem length_encode_tableEntries (table : Table) :
    (encode (tableEntries table)).length = snapshotSize table := by
  have addresses : ∀ addrs : List Multiaddr,
      ((addrs.map Multiaddr.toVec).flatMap encodeAddress).length =
        (addrs.map fun addr => 2 + addr.toVec.length).sum := by
    intro addrs
    simp [List.length_flatMap, encodeAddress, Function.comp_def]
  rw [encode_eq, snapshotSize, List.length_append, List.length_append,
    length_beBytes, tableEntries, List.length_flatMap, List.map_map]
  have rows : ∀ row : PeerId × List Multiaddr,
      (encodeEntry { peerId := row.1.toBytes
                     addresses := row.2.map Multiaddr.toVec }).length =
        2 + row.1.toBytes.length + 2 +
          (row.2.map fun addr => 2 + addr.toVec.length).sum := by
    intro row
    simp only [encodeEntry, List.length_append, length_beBytes, addresses]
  simp only [Function.comp_def, rows, headerPhrase, List.length_cons,
    List.length_nil]
  omega

theorem length_toBytes_lt {peerId : PeerId}
    (digest : peerId.multihash.digest.length ≤ 64) :
    peerId.toBytes.length < 2 ^ 16 := by
  have code : peerId.multihash.code < 128 := by
    rcases peerId.accepted with sha | ⟨identity, -⟩
    · rw [sha]
      decide
    · rw [identity]
      decide
  have size : peerId.multihash.digest.length < 128 := by omega
  rw [PeerId.toBytes, Multihash.toBytes, uvarint_of_lt code, uvarint_of_lt size]
  simp only [List.length_append, List.length_cons, List.length_nil]
  omega

theorem mem_tableEntries {table : Table} {entry : RoutingEntry} :
    entry ∈ tableEntries table ↔ ∃ row ∈ table.flatten,
      entry = { peerId := row.1.toBytes
                addresses := row.2.map Multiaddr.toVec } := by
  rw [tableEntries, List.mem_map]
  constructor
  · intro found
    obtain ⟨row, member, rfl⟩ := found
    exact ⟨row, member, rfl⟩
  · intro found
    obtain ⟨row, member, rfl⟩ := found
    exact ⟨row, member, rfl⟩

theorem importedPairs_tableEntries {settings : Settings} {table : Table}
    (lawful : Lawful settings table) :
    importedPairs settings (tableEntries table) = tablePairs table := by
  rw [importedPairs, tableEntries, tablePairs, List.flatMap_map]
  refine List.flatMap_congr ?_
  intro row member
  simp only [lawful.peerId row member]
  congr
  rw [List.filterMap_map]
  refine (List.filterMap_congr ?_).trans List.filterMap_some
  intro addr listed
  exact lawful.addr row member addr listed

theorem Restorable.restores
    {accepts : List (PeerId × Multiaddr) → PeerId × Multiaddr → Bool}
    {table : Table} (restorable : Restorable accepts table)
    (held : Held table) {settings : Settings}
    (enabled : settings.kademlia = true) (lawful : Lawful settings table) :
    Restores settings accepts table (encode (tableEntries table)) := by
  have fit : ∀ entry ∈ tableEntries table, Fits entry := by
    intro entry member
    obtain ⟨row, listed, rfl⟩ := mem_tableEntries.mp member
    refine ⟨length_toBytes_lt (held.digest row listed), ?_, ?_⟩
    · rw [List.length_map]
      exact restorable.counts row listed
    · intro address isAddress
      obtain ⟨addr, stored, rfl⟩ := List.mem_map.mp isAddress
      exact restorable.lengths row listed addr stored
  have small : (encode (tableEntries table)).length ≤ maxDhtExportBytes := by
    rw [length_encode_tableEntries]
    exact restorable.small
  rw [restores_iff enabled]
  refine ⟨tableEntries table, (decode_encode_eq_ok _).mpr ⟨fit, small⟩,
    importedPairs_tableEntries lawful, ?_⟩
  rw [length_eq_acceptedCount]
  intro first pair rest split
  exact restorable.accepted first pair rest split

end ExLibp2p.Native.RoutingTable
