import ExLibp2p.Data.Fields
import ExLibp2p.Native.DhtState.RoundTrip

namespace ExLibp2p.Native.DhtState

open ExLibp2p.Data
open ExLibp2p.Native.Policy

def addressFields (address : Bytes) : List Bytes :=
  [beBytes 2 (asU16 address.length), address]

def entryFields (entry : RoutingEntry) : List Bytes :=
  [beBytes 2 (asU16 entry.peerId.length), entry.peerId,
    beBytes 2 (asU16 entry.addresses.length)] ++
    entry.addresses.flatMap addressFields

def fileFields (entries : List RoutingEntry) : List Bytes :=
  [magic, [version], beBytes 4 (asU32 entries.length)] ++
    entries.flatMap entryFields

theorem flatten_flatMap {Value : Type} {fields : Value → List Bytes}
    {text : Value → Bytes} (same : ∀ value, (fields value).flatten = text value)
    (values : List Value) :
    (values.flatMap fields).flatten = values.flatMap text := by
  rw [List.flatten_eq_flatMap, List.flatMap_assoc]
  apply List.flatMap_congr
  intro value _
  exact List.flatMap_id.trans (same value)

theorem flatten_addressFields (address : Bytes) :
    (addressFields address).flatten = encodeAddress address := by
  simp [addressFields, encodeAddress]

theorem flatten_entryFields (entry : RoutingEntry) :
    (entryFields entry).flatten = encodeEntry entry := by
  rw [entryFields, List.flatten_append, flatten_flatMap flatten_addressFields]
  simp [encodeEntry]

theorem flatten_fileFields (entries : List RoutingEntry) :
    (fileFields entries).flatten = encode entries := by
  rw [fileFields, List.flatten_append, flatten_flatMap flatten_entryFields]
  simp [encode]

theorem readVec_consumes (bytes : Bytes) :
    Consumes .truncated (readVec bytes.length) [bytes] bytes where
  whole := by
    intro before later
    rw [readVec_run, if_neg (by simp)]
    simp [Cursor.rest]
  cut := by
    intro before part offset need starts found
    rw [firstCut] at found
    split at found
    · rename_i short
      cases found
      rw [readVec_run, if_pos (by simpa using short)]
      rfl
    · cases found

theorem readNumber_consumes {width value : Nat} (bound : value < 256 ^ width) :
    Consumes DhtStateError.truncated (do return beValue (← readArray width))
      [beBytes width value] value := by
  have read := readVec_consumes (beBytes width value)
  rw [length_beBytes] at read
  rw [← List.append_nil [beBytes width value]]
  refine read.bind ?_
  rw [beValue_beBytes, Nat.mod_eq_of_lt bound]
  exact .pure value

theorem readU16_consumes {value : Nat} (bound : value < 2 ^ 16) :
    Consumes .truncated readU16 [beBytes 2 (asU16 value)] value := by
  rw [show asU16 value = value from Nat.mod_eq_of_lt bound]
  exact readNumber_consumes bound

theorem readU32_consumes {value : Nat} (bound : value < 2 ^ 32) :
    Consumes .truncated readU32 [beBytes 4 (asU32 value)] value := by
  rw [show asU32 value = value from Nat.mod_eq_of_lt bound]
  exact readNumber_consumes bound

theorem readAddress_consumes {address : Bytes}
    (bound : address.length < 2 ^ 16) :
    Consumes .truncated readAddress (addressFields address) address :=
  (readU16_consumes bound).bind (readVec_consumes address)

theorem readEntry_consumes {entry : RoutingEntry} (fits : Fits entry) :
    Consumes .truncated readEntry (entryFields entry) entry := by
  obtain ⟨idBound, countBound, bounds⟩ := fits
  have addresses : Consumes .truncated
      (readMany readAddress entry.addresses.length [])
      (entry.addresses.flatMap addressFields) ([] ++ entry.addresses) := by
    apply Consumes.readMany
    intro address member
    exact readAddress_consumes (bounds address member)
  refine (readU16_consumes idBound).bind
    ((readVec_consumes entry.peerId).bind
      ((readU16_consumes countBound).bind ?_))
  rw [← List.append_nil (entry.addresses.flatMap addressFields)]
  exact addresses.bind (.pure entry)

theorem readMagic_consumes : Consumes .truncated readMagic [magic] () :=
  (readVec_consumes magic).expect DhtStateError.badMagic

theorem readVersion_consumes :
    Consumes .truncated readVersion [[version]] () := by
  have read : Consumes .truncated readU8 [[version]] version :=
    (readVec_consumes [version]).bind (.pure version)
  exact read.expect DhtStateError.unsupportedVersion

theorem readFile_consumes {entries : List RoutingEntry}
    (count : entries.length < 2 ^ 32) (fits : ∀ entry ∈ entries, Fits entry) :
    Consumes .truncated readFile (fileFields entries) entries :=
  readMagic_consumes.bind
    (readVersion_consumes.bind
      ((readU32_consumes count).bind
        (.readMany (fun entry member => readEntry_consumes (fits entry member))
          [])))

/-- A snapshot that lost its end is refused, with the position of the first
field that is not whole. -/
theorem truncation_detected {entries : List RoutingEntry}
    (count : entries.length < 2 ^ 32)
    (fits : ∀ entry ∈ entries,
      entry.peerId.length < 2 ^ 16 ∧ entry.addresses.length < 2 ^ 16 ∧
        ∀ address ∈ entry.addresses, address.length < 2 ^ 16)
    {part : Bytes} (starts : part <+: encode entries)
    (proper : part ≠ encode entries)
    (small : part.length ≤ maxDhtExportBytes) :
    ∃ offset need,
      (fileFields entries).flatten = encode entries ∧
      firstCut (fileFields entries) part.length = some (offset, need) ∧
      offset ≤ part.length ∧ part.length < offset + need ∧
      decode part = .error (.truncated offset need) := by
  have fields := flatten_fileFields entries
  rw [← fields] at starts proper
  have shorter : part.length < (fileFields entries).flatten.length := by
    apply Nat.lt_of_le_of_ne starts.length_le
    intro same
    exact proper (starts.eq_of_length same)
  obtain ⟨offset, need, found⟩ := exists_firstCut shorter
  obtain ⟨inside, outside⟩ := firstCut_bounds found
  refine ⟨offset, need, fields, found, inside, outside, ?_⟩
  have read := (readFile_consumes count fits).cut [] part offset need starts found
  rw [decode_eq, if_neg (Nat.not_lt.mpr small)]
  change (Prod.fst <$> readFile.run (Cursor.new part)) = _
  rw [List.nil_append, List.length_nil, Nat.zero_add] at read
  rw [show Cursor.new part = ⟨part, 0⟩ from rfl, read]
  rfl

/-- One peer with two addresses, cut inside the length of the second. -/
theorem truncation_detected_address :
    ∃ offset need,
      firstCut (fileFields [⟨[1, 2], [[7], [8, 9]]⟩]) 19 = some (offset, need) ∧
        decode ((encode [⟨[1, 2], [[7], [8, 9]]⟩]).take 19) =
          .error (.truncated offset need) := by
  obtain ⟨offset, need, -, found, -, -, refused⟩ := @truncation_detected
    [⟨[1, 2], [[7], [8, 9]]⟩] (by decide) (by decide) _
    (List.take_prefix 19 _) (by decide) (by decide)
  exact ⟨offset, need, found, refused⟩

end ExLibp2p.Native.DhtState
