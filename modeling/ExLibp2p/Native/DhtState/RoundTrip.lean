import ExLibp2p.Native.DhtState.Grammar

namespace ExLibp2p.Native.DhtState

open ExLibp2p.Data
open ExLibp2p.Native.Policy

/-! The encoder writes sentences, as long as no cast loses bits. -/

def Fits (entry : RoutingEntry) : Prop :=
  entry.peerId.length < 2 ^ 16 ∧ entry.addresses.length < 2 ^ 16 ∧
    ∀ address ∈ entry.addresses, address.length < 2 ^ 16

/-- A length or a count that its cast changes. -/
def Truncated (entries : List RoutingEntry) : Prop :=
  asU32 entries.length ≠ entries.length ∨
    ∃ entry ∈ entries,
      asU16 entry.peerId.length ≠ entry.peerId.length ∨
      asU16 entry.addresses.length ≠ entry.addresses.length ∨
      ∃ address ∈ entry.addresses, asU16 address.length ≠ address.length

theorem numberPhrase_iff (width : Nat) (phrase : Bytes) (value : Nat) :
    NumberPhrase width phrase value ↔
      value < 256 ^ width ∧ beBytes width value = phrase := by
  constructor
  · intro number
    obtain ⟨rfl, rfl⟩ := number
    exact ⟨beValue_lt phrase, beBytes_beValue phrase⟩
  · intro both
    obtain ⟨bound, rfl⟩ := both
    refine ⟨length_beBytes width value, ?_⟩
    rw [beValue_beBytes, Nat.mod_eq_of_lt bound]

theorem numberPhrase_two_iff (phrase : Bytes) (value : Nat) :
    NumberPhrase 2 phrase value ↔
      value < 2 ^ 16 ∧ beBytes 2 (asU16 value) = phrase := by
  rw [numberPhrase_iff]
  apply and_congr_right
  intro bound
  have kept : asU16 value = value := Nat.mod_eq_of_lt bound
  rw [kept]

theorem numberPhrase_four_iff (phrase : Bytes) (value : Nat) :
    NumberPhrase 4 phrase value ↔
      value < 2 ^ 32 ∧ beBytes 4 (asU32 value) = phrase := by
  rw [numberPhrase_iff]
  apply and_congr_right
  intro bound
  have kept : asU32 value = value := Nat.mod_eq_of_lt bound
  rw [kept]

theorem addrPhrase_iff (phrase address : Bytes) :
    AddrPhrase phrase address ↔
      address.length < 2 ^ 16 ∧ encodeAddress address = phrase := by
  constructor
  · intro isAddress
    cases isAddress with
    | mk number =>
        obtain ⟨bound, rfl⟩ := (numberPhrase_two_iff _ _).mp number
        exact ⟨bound, rfl⟩
  · intro both
    obtain ⟨bound, rfl⟩ := both
    exact .mk ((numberPhrase_two_iff _ _).mpr ⟨bound, rfl⟩)

theorem entryPhrase_iff (phrase : Bytes) (entry : RoutingEntry) :
    EntryPhrase phrase entry ↔ Fits entry ∧ encodeEntry entry = phrase := by
  constructor
  · intro isEntry
    cases isEntry with
    | mk number count addrs =>
        obtain ⟨idBound, rfl⟩ := (numberPhrase_two_iff _ _).mp number
        obtain ⟨countBound, rfl⟩ := (numberPhrase_two_iff _ _).mp count
        obtain ⟨bounds, rfl⟩ := (Repeated.iff_flatMap addrPhrase_iff _ _).mp
          addrs
        refine ⟨⟨idBound, countBound, bounds⟩, ?_⟩
        simp only [encodeEntry, List.append_assoc]
  · intro both
    obtain ⟨⟨idBound, countBound, bounds⟩, rfl⟩ := both
    simp only [encodeEntry, List.append_assoc]
    exact .mk ((numberPhrase_two_iff _ _).mpr ⟨idBound, rfl⟩)
      ((numberPhrase_two_iff _ _).mpr ⟨countBound, rfl⟩)
      ((Repeated.iff_flatMap addrPhrase_iff _ _).mpr ⟨bounds, rfl⟩)

theorem encode_eq (entries : List RoutingEntry) :
    encode entries =
      headerPhrase ++
        (beBytes 4 (asU32 entries.length) ++ entries.flatMap encodeEntry) := by
  simp only [encode, List.append_assoc]
  rfl

theorem filePhrase_iff (phrase : Bytes) (entries : List RoutingEntry) :
    FilePhrase phrase entries ↔
      (entries.length < 2 ^ 32 ∧ ∀ entry ∈ entries, Fits entry) ∧
        encode entries = phrase := by
  rw [encode_eq]
  constructor
  · intro isFile
    cases isFile with
    | mk count phrases =>
        obtain ⟨bound, rfl⟩ := (numberPhrase_four_iff _ _).mp count
        obtain ⟨fit, rfl⟩ := (Repeated.iff_flatMap entryPhrase_iff _ _).mp
          phrases
        exact ⟨⟨bound, fit⟩, rfl⟩
  · intro both
    obtain ⟨⟨bound, fit⟩, rfl⟩ := both
    exact .mk ((numberPhrase_four_iff _ _).mpr ⟨bound, rfl⟩)
      ((Repeated.iff_flatMap entryPhrase_iff _ _).mpr ⟨fit, rfl⟩)

theorem length_encodeEntry (entry : RoutingEntry) :
    4 ≤ (encodeEntry entry).length := by
  simp only [encodeEntry, List.length_append, length_beBytes]
  omega

theorem length_flatMap_encodeEntry (entries : List RoutingEntry) :
    4 * entries.length ≤ (entries.flatMap encodeEntry).length := by
  induction entries with
  | nil => exact Nat.zero_le _
  | cons entry entries induction =>
      have head := length_encodeEntry entry
      rw [List.flatMap_cons, List.length_append, List.length_cons]
      omega

theorem length_lt_of_encode_le {entries : List RoutingEntry}
    (small : (encode entries).length ≤ maxDhtExportBytes) :
    entries.length < 2 ^ 32 := by
  have body := length_flatMap_encodeEntry entries
  rw [encode_eq, List.length_append, List.length_append] at small
  unfold maxDhtExportBytes at small
  omega

theorem decode_encode_eq_ok (entries : List RoutingEntry) :
    decode (encode entries) = .ok entries ↔
      (∀ entry ∈ entries, Fits entry) ∧
        (encode entries).length ≤ maxDhtExportBytes := by
  rw [decode_eq_ok]
  constructor
  · intro found
    obtain ⟨small, sentence, rest, isFile, -⟩ := found
    obtain ⟨⟨-, fit⟩, -⟩ := (filePhrase_iff _ _).mp isFile
    exact ⟨fit, small⟩
  · intro both
    obtain ⟨fit, small⟩ := both
    refine ⟨small, encode entries, [], ?_, (List.append_nil _).symm⟩
    exact (filePhrase_iff _ _).mpr ⟨⟨length_lt_of_encode_le small, fit⟩, rfl⟩

theorem lt_of_asU16 {value : Nat} (same : asU16 value = value) :
    value < 2 ^ 16 := by
  rw [← same]
  exact Nat.mod_lt value (Nat.two_pow_pos 16)

theorem fits_of_not_truncated {entries : List RoutingEntry}
    (untouched : ¬ Truncated entries) : ∀ entry ∈ entries, Fits entry := by
  intro entry member
  simp only [Truncated, not_or, not_exists, not_and, not_not] at untouched
  obtain ⟨peerId, count, addresses⟩ := untouched.2 entry member
  exact ⟨lt_of_asU16 peerId, lt_of_asU16 count,
    fun address isAddress => lt_of_asU16 (addresses address isAddress)⟩

/-- A snapshot is read back as it was written exactly when every length and
count fits its field and the file is within the size cap. Else a cast has
truncated a length, or the cap rejects the file. -/
theorem decode_encode_iff (entries : List RoutingEntry) :
    (decode (encode entries) = .ok entries ↔
      (∀ entry ∈ entries,
        entry.peerId.length < 2 ^ 16 ∧ entry.addresses.length < 2 ^ 16 ∧
          ∀ address ∈ entry.addresses, address.length < 2 ^ 16) ∧
        (encode entries).length ≤ maxDhtExportBytes) ∧
    (decode (encode entries) ≠ .ok entries →
      Truncated entries ∨
        decode (encode entries) =
          .error (.inputTooLarge (encode entries).length
            maxDhtExportBytes)) := by
  refine ⟨decode_encode_eq_ok entries, ?_⟩
  intro different
  by_cases truncated : Truncated entries
  · exact .inl truncated
  · right
    have fit := fits_of_not_truncated truncated
    have large : ¬ (encode entries).length ≤ maxDhtExportBytes := by
      intro small
      exact different ((decode_encode_eq_ok entries).mpr ⟨fit, small⟩)
    rw [decode_eq, if_pos (Nat.lt_of_not_le large)]

/-- A sentence within the size cap that at least one more byte follows. -/
def HasTrailingBytes (data : Bytes) : Prop :=
  data.length ≤ maxDhtExportBytes ∧
    ∃ sentence entries byte rest,
      FilePhrase sentence entries ∧ data = sentence ++ byte :: rest

/-- What the documented grammar asks of the decoder at one input. -/
def AcceptsGrammar (data : Bytes) : Prop :=
  (∀ entries, decode data = .ok entries ↔
    data.length ≤ maxDhtExportBytes ∧ FilePhrase data entries) ∧
  ∀ entries, decode data = .ok entries → encode entries = data

theorem filePhrase_of_decode {data : Bytes} {entries : List RoutingEntry}
    (exact : ¬ HasTrailingBytes data) (accepted : decode data = .ok entries) :
    FilePhrase data entries := by
  obtain ⟨small, sentence, rest, isFile, whole⟩ := decode_eq_ok.mp accepted
  cases rest with
  | nil =>
      rw [List.append_nil] at whole
      rw [whole]
      exact isFile
  | cons byte rest =>
      exact (exact ⟨small, sentence, entries, byte, rest, isFile, whole⟩).elim

theorem acceptsGrammar_iff (data : Bytes) :
    AcceptsGrammar data ↔ ¬ HasTrailingBytes data := by
  constructor
  · intro accepts trailing
    obtain ⟨small, sentence, entries, byte, rest, isFile, whole⟩ := trailing
    have accepted : decode data = .ok entries :=
      decode_eq_ok.mpr ⟨small, sentence, byte :: rest, isFile, whole⟩
    have written := ((filePhrase_iff _ _).mp isFile).2
    have same : sentence = data := by
      rw [← written]
      exact accepts.2 entries accepted
    have lengths := congrArg List.length (same.trans whole)
    simp at lengths
  · intro exact
    refine ⟨?_, ?_⟩
    · intro entries
      constructor
      · intro accepted
        exact ⟨(decode_eq_ok.mp accepted).1,
          filePhrase_of_decode exact accepted⟩
      · intro both
        exact decode_eq_ok.mpr
          ⟨both.1, data, [], both.2, (List.append_nil data).symm⟩
    · intro entries accepted
      exact ((filePhrase_iff _ _).mp (filePhrase_of_decode exact accepted)).2

theorem not_acceptsGrammar_trailing_byte :
    ¬ AcceptsGrammar (encode [] ++ [0]) := by
  intro accepts
  have accepted : decode (encode [] ++ [0]) = .ok [] := by decide
  have same := accepts.2 [] accepted
  revert same
  decide

end ExLibp2p.Native.DhtState
