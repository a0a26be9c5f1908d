import ExLibp2p.Native.RoutingTable.Snapshot
import ExLibp2p.Native.RoutingTable.Truncation
import Mathlib.Data.Finset.Card

namespace ExLibp2p.Native.RoutingTable

open ExLibp2p.Data
open ExLibp2p.Native.DhtState
open ExLibp2p.Native.Policy
open ExLibp2p.Native.SwarmLoop (Settings importedPairs)

/-! For the converse, parsers that take every other byte string for an
identifier or an address from outside the table, so that nothing is
skipped. -/

def eager (settings : Settings) (table : Table) (stranger : PeerId)
    (elsewhere : Multiaddr) : Settings :=
  { settings with
    kademlia := true
    peerIdFromBytes := fun bytes =>
      if bytes ∈ table.flatten.map fun row => row.1.toBytes then
        settings.peerIdFromBytes bytes
      else
        some stranger
    multiaddrTryFrom := fun bytes =>
      if bytes ∈ (table.flatten.flatMap Prod.snd).map Multiaddr.toVec then
        settings.multiaddrTryFrom bytes
      else
        some elsewhere }

theorem exists_notMem {Element : Type} [DecidableEq Element]
    (family : Nat → Element) (elements : List Element)
    (distinct : ∀ first ≤ elements.length, ∀ second ≤ elements.length,
      family first = family second → first = second) :
    ∃ index, family index ∉ elements := by
  have injective : Set.InjOn family (Finset.range (elements.length + 1)) := by
    intro first firstBound second secondBound same
    rw [Finset.mem_coe, Finset.mem_range, Nat.lt_succ_iff] at firstBound
    rw [Finset.mem_coe, Finset.mem_range, Nat.lt_succ_iff] at secondBound
    exact distinct first firstBound second secondBound same
  have more : elements.toFinset.card <
      ((Finset.range (elements.length + 1)).image family).card := by
    rw [Finset.card_image_of_injOn injective, Finset.card_range]
    exact Nat.lt_succ_of_le (List.toFinset_card_le elements)
  obtain ⟨element, member, absent⟩ :=
    Finset.exists_mem_notMem_of_card_lt_card more
  obtain ⟨index, -, rfl⟩ := Finset.mem_image.mp member
  exact ⟨index, fun listed => absent (List.mem_toFinset.mpr listed)⟩

theorem exists_stranger {table : Table}
    (few : table.flatten.length < 2 ^ 32) :
    ∃ stranger : PeerId, stranger ∉ table.flatten.map Prod.fst := by
  let family : Nat → PeerId := fun index =>
    { multihash := { code := Multihash.sha256, digest := beBytes 32 index }
      accepted := .inl rfl }
  obtain ⟨index, absent⟩ := exists_notMem family
    (table.flatten.map Prod.fst) (by
      intro first firstBound second secondBound same
      rw [List.length_map] at firstBound secondBound
      have digests : beBytes 32 first = beBytes 32 second :=
        congrArg (fun peerId => peerId.multihash.digest) same
      have values := congrArg beValue digests
      rw [beValue_beBytes, beValue_beBytes] at values
      omega)
  exact ⟨family index, absent⟩

theorem exists_elsewhere (table : Table) :
    ∃ elsewhere : Multiaddr, elsewhere ∉ table.flatten.flatMap Prod.snd := by
  let family : Nat → Multiaddr := fun index =>
    { toVec := (List.replicate index [0xA2, 0x02]).flatten
      toString := String.join (List.replicate index "/p2p-circuit") }
  obtain ⟨index, absent⟩ := exists_notMem family
    (table.flatten.flatMap Prod.snd) (by
      intro first _ second _ same
      have lengths : (family first).toVec.length =
          (family second).toVec.length := by
        rw [same]
      simp [family] at lengths
      omega)
  exact ⟨family index, absent⟩

theorem eq_map_of_filterMap {Raw Parsed : Type} {parse : Raw → Option Parsed}
    {print : Parsed → Raw} {raws : List Raw} {parsed : List Parsed}
    (parses : ∀ raw, ∃ value, parse raw = some value ∧
      (value ∈ parsed → raw = print value))
    (equal : raws.filterMap parse = parsed) : raws = parsed.map print := by
  have eachPrinted : ∀ part : List Raw, part.filterMap parse ⊆ parsed →
      part = (part.filterMap parse).map print := by
    intro part included
    induction part with
    | nil => rfl
    | cons raw rest induction =>
        obtain ⟨value, found, printed⟩ := parses raw
        rw [List.filterMap_cons, found] at included ⊢
        obtain ⟨member, later⟩ := List.cons_subset.mp included
        rw [List.map_cons, ← printed member, ← induction later]
  have whole := eachPrinted raws (by rw [equal]; exact List.Subset.refl _)
  rw [equal] at whole
  exact whole

section

variable {settings : Settings} {table : Table} {stranger : PeerId}
  {elsewhere : Multiaddr}

theorem lawful_eager (lawful : Lawful settings table) :
    Lawful (eager settings table stranger elsewhere) table where
  peerId := by
    intro row member
    have listed : row.1.toBytes ∈
        table.flatten.map fun row => row.1.toBytes :=
      List.mem_map.mpr ⟨row, member, rfl⟩
    simp only [eager, if_pos listed]
    exact lawful.peerId row member
  addr := by
    intro row member addr stored
    have listed : addr.toVec ∈
        (table.flatten.flatMap Prod.snd).map Multiaddr.toVec :=
      List.mem_map.mpr ⟨addr, List.mem_flatMap.mpr ⟨row, member, stored⟩, rfl⟩
    simp only [eager, if_pos listed]
    exact lawful.addr row member addr stored

theorem peerId_of_eager (elsewhere : Multiaddr)
    (lawful : Lawful settings table)
    (unknown : stranger ∉ table.flatten.map Prod.fst) (bytes : Bytes) :
    ∃ peerId, (eager settings table stranger elsewhere).peerIdFromBytes bytes =
      some peerId ∧
      (peerId ∈ table.flatten.map Prod.fst → bytes = peerId.toBytes) := by
  simp only [eager]
  split
  · rename_i listed
    obtain ⟨row, member, rfl⟩ := List.mem_map.mp listed
    exact ⟨row.1, lawful.peerId row member, fun _ => rfl⟩
  · exact ⟨stranger, rfl, fun known => absurd known unknown⟩

theorem addr_of_eager (stranger : PeerId) (lawful : Lawful settings table)
    (unknown : elsewhere ∉ table.flatten.flatMap Prod.snd) (bytes : Bytes) :
    ∃ addr, (eager settings table stranger elsewhere).multiaddrTryFrom bytes =
      some addr ∧
      (addr ∈ table.flatten.flatMap Prod.snd → bytes = addr.toVec) := by
  simp only [eager]
  split
  · rename_i listed
    obtain ⟨addr, stored, rfl⟩ := List.mem_map.mp listed
    obtain ⟨row, member, isAddr⟩ := List.mem_flatMap.mp stored
    exact ⟨addr, lawful.addr row member addr isAddr, fun _ => rfl⟩
  · exact ⟨elsewhere, rfl, fun known => absurd known unknown⟩

theorem storedPairs_of_eager (lawful : Lawful settings table)
    (newPeer : stranger ∉ table.flatten.map Prod.fst)
    (newAddr : elsewhere ∉ table.flatten.flatMap Prod.snd)
    {entries : List RoutingEntry}
    (pairs : importedPairs (eager settings table stranger elsewhere) entries =
      tablePairs table) :
    storedPairs entries = storedPairs (tableEntries table) := by
  rw [storedPairs_tableEntries]
  rw [importedPairs_eq] at pairs
  refine eq_map_of_filterMap ?_ pairs
  intro ⟨idBytes, addrBytes⟩
  obtain ⟨peerId, parsedId, idPrinted⟩ :=
    peerId_of_eager elsewhere lawful newPeer idBytes
  obtain ⟨addr, parsedAddr, addrPrinted⟩ :=
    addr_of_eager stranger lawful newAddr addrBytes
  refine ⟨(peerId, addr), by simp [parsePair, parsedId, parsedAddr], ?_⟩
  intro member
  obtain ⟨row, listed, stored⟩ := List.mem_flatMap.mp member
  obtain ⟨other, isAddr, same⟩ := List.mem_map.mp stored
  cases same
  rw [pairBytes, ← idPrinted (List.mem_map.mpr ⟨row, listed, rfl⟩),
    ← addrPrinted (List.mem_flatMap.mpr ⟨row, listed, isAddr⟩)]

theorem entries_of_encode {entries decoded : List RoutingEntry} {rest : Bytes}
    (whole : encode entries = encode decoded ++ rest) :
    decoded.flatMap encodeEntry ++ rest = entries.flatMap encodeEntry := by
  rw [encode_eq, encode_eq, List.append_assoc, List.append_assoc] at whole
  have counted := List.append_cancel_left whole
  exact (List.append_inj counted (by simp)).2.symm

theorem plain_of_held (held : Held table)
    (lengths : ∀ row ∈ table.flatten, ∀ addr ∈ row.2,
      addr.toVec.length < 2 ^ 16) :
    ∀ entry ∈ tableEntries table, Plain entry := by
  intro entry member
  obtain ⟨row, listed, rfl⟩ := mem_tableEntries.mp member
  refine ⟨length_toBytes_lt (held.digest row listed), ?_, ?_⟩
  · have positive := length_uvarint_pos row.1.multihash.code
    rw [← List.length_pos_iff]
    simp only [PeerId.toBytes, Multihash.toBytes, List.length_append]
    omega
  · intro address isAddress
    obtain ⟨addr, stored, rfl⟩ := List.mem_map.mp isAddress
    exact lengths row listed addr stored

theorem peerIds_nodup (held : Held table) (lawful : Lawful settings table) :
    ((tableEntries table).map RoutingEntry.peerId).Nodup := by
  have mapped : (tableEntries table).map RoutingEntry.peerId =
      (table.flatten.map Prod.fst).map PeerId.toBytes := by
    rw [tableEntries, List.map_map, List.map_map]
    rfl
  rw [mapped]
  refine held.distinct.map_on ?_
  intro first firstListed second secondListed same
  obtain ⟨firstRow, firstMember, rfl⟩ := List.mem_map.mp firstListed
  obtain ⟨secondRow, secondMember, rfl⟩ := List.mem_map.mp secondListed
  have firstParsed := lawful.peerId firstRow firstMember
  rw [same, lawful.peerId secondRow secondMember] at firstParsed
  exact (Option.some.inj firstParsed).symm

theorem addresses_apart (held : Held table) :
    ∀ entry ∈ tableEntries table, ∀ other ∈ tableEntries table,
      ∀ address ∈ entry.addresses, address ≠ other.peerId := by
  intro entry member other otherMember address isAddress
  obtain ⟨row, listed, rfl⟩ := mem_tableEntries.mp member
  obtain ⟨otherRow, otherListed, rfl⟩ := mem_tableEntries.mp otherMember
  obtain ⟨addr, stored, rfl⟩ := List.mem_map.mp isAddress
  exact held.apart row listed otherRow otherListed addr stored

/-- Every snapshot of the table is restored into a routing table that accepts
what it accepts, whatever the parsers make of other byte strings. -/
def RoundTrips
    (accepts : List (PeerId × Multiaddr) → PeerId × Multiaddr → Bool)
    (table : Table) : Prop :=
  ∀ bytes, Snapshot table bytes → ∀ settings : Settings,
    settings.kademlia = true → Lawful settings table →
      Restores settings accepts table bytes

theorem lengths_of_storedPairs {entries : List RoutingEntry}
    (fit : ∀ entry ∈ entries, Fits entry)
    (same : storedPairs entries = storedPairs (tableEntries table)) :
    ∀ row ∈ table.flatten, ∀ addr ∈ row.2, addr.toVec.length < 2 ^ 16 := by
  intro row listed addr stored
  have member : (row.1.toBytes, addr.toVec) ∈ storedPairs entries := by
    rw [same, storedPairs_tableEntries]
    refine List.mem_map.mpr ⟨(row.1, addr), ?_, rfl⟩
    exact List.mem_flatMap.mpr
      ⟨row, listed, List.mem_map.mpr ⟨addr, stored, rfl⟩⟩
  obtain ⟨entry, isEntry, inEntry⟩ := List.mem_flatMap.mp member
  obtain ⟨address, isAddress, equal⟩ := List.mem_map.mp inEntry
  obtain rfl : address = addr.toVec := congrArg Prod.snd equal
  exact (fit entry isEntry).2.2 addr.toVec isAddress

theorem restorable_of_roundTrips
    {accepts : List (PeerId × Multiaddr) → PeerId × Multiaddr → Bool}
    (held : Held table) (lawful : Lawful settings table)
    (roundTrips : RoundTrips accepts table) : Restorable accepts table := by
  have snapshot : Snapshot table (encode (tableEntries table)) :=
    snapshot_encode
      (rfl : { settings with kademlia := true }.kademlia = true)
      { noAnswers with kbuckets := table } (fun _ => rfl)
  have restored : ∀ importer : Settings, importer.kademlia = true →
      Lawful importer table → ∃ entries,
        decode (encode (tableEntries table)) = .ok entries ∧
        importedPairs importer entries = tablePairs table ∧
        (tablePairs table).length =
          acceptedCount accepts [] (tablePairs table) := by
    intro importer enabled importerLawful
    exact (restores_iff enabled accepts table _).mp
      (roundTrips _ snapshot importer enabled importerLawful)
  obtain ⟨_, accepted, -, counted⟩ :=
    restored { settings with kademlia := true } rfl ⟨lawful.1, lawful.2⟩
  have small := (decode_eq_ok.mp accepted).1
  have few : table.flatten.length < 2 ^ 32 := by
    have bound := length_lt_of_encode_le small
    rwa [tableEntries, List.length_map] at bound
  obtain ⟨stranger, newPeer⟩ := exists_stranger few
  obtain ⟨elsewhere, newAddr⟩ := exists_elsewhere table
  obtain ⟨entries, decoded, pairs, -⟩ := restored
    (eager settings table stranger elsewhere) rfl (lawful_eager lawful)
  have same := storedPairs_of_eager lawful newPeer newAddr pairs
  obtain ⟨-, sentence, rest, isFile, whole⟩ := decode_eq_ok.mp decoded
  obtain ⟨⟨-, fit⟩, rfl⟩ := (filePhrase_iff _ _).mp isFile
  have lengths := lengths_of_storedPairs fit same
  have counts := counts_fit fit (plain_of_held held lengths)
    (peerIds_nodup held lawful) (addresses_apart held)
    (entries_of_encode whole) same
  refine ⟨?_, lengths, ?_, ?_⟩
  · intro row listed
    have bound := counts _ (mem_tableEntries.mpr ⟨row, listed, rfl⟩)
    rwa [List.length_map] at bound
  · rw [← length_encode_tableEntries]
    exact small
  · intro first pair remaining split
    exact (length_eq_acceptedCount accepts [] _).mp counted first pair remaining
      split

/-- A routing table is restored exactly when no count or length in it is too
large for its field, the snapshot is within the size cap, and the new routing
table accepts every pair: a pair that it rejects is counted all the same. -/
theorem roundTrips_iff_restorable (held : Held table)
    (lawful : Lawful settings table)
    (accepts : List (PeerId × Multiaddr) → PeerId × Multiaddr → Bool) :
    RoundTrips accepts table ↔ Restorable accepts table := by
  constructor
  · exact restorable_of_roundTrips held lawful
  · intro restorable bytes snapshot importer enabled importerLawful
    rw [snapshot.eq_encode]
    exact restorable.restores held enabled importerLawful

end

theorem toBytes_neighbour : neighbour.toBytes = [0, 4, 8, 1, 18, 0] := by
  simp [PeerId.toBytes, Multihash.toBytes, neighbour, Multihash.identity,
    uvarint_of_lt]

def homeTable : Table := [[(neighbour, [loopback])]]

theorem held_homeTable : Held homeTable where
  digest := by simp [homeTable, neighbour]
  distinct := by simp [homeTable]
  apart := by simp [homeTable, toBytes_neighbour, loopback]

theorem lawful_homeTable : Lawful homeSettings homeTable where
  peerId := by simp [homeTable, homeSettings, toBytes_neighbour]
  addr := by simp [homeTable, homeSettings]

theorem roundTrips_homeTable :
    Held homeTable ∧ Lawful homeSettings homeTable ∧
      RoundTrips (fun _ _ => true) homeTable := by
  refine ⟨held_homeTable, lawful_homeTable,
    (roundTrips_iff_restorable held_homeTable lawful_homeTable _).mpr
      ⟨?_, ?_, ?_, ?_⟩⟩
  · simp [homeTable]
  · simp [homeTable, loopback]
  · simp [snapshotSize, homeTable, loopback, toBytes_neighbour,
      maxDhtExportBytes]
  · intro first pair rest split
    rfl

/-- A node that imports the snapshot of another one in which it is listed
itself: `add_address` rejects the pair, and the import still returns one. -/
theorem rejected_not_roundTrips : ¬ RoundTrips (fun _ _ => false) homeTable := by
  intro roundTrips
  have restorable :=
    restorable_of_roundTrips held_homeTable lawful_homeTable roundTrips
  have accepted := restorable.accepted [] (neighbour, loopback) [] rfl
  contradiction

end ExLibp2p.Native.RoutingTable
