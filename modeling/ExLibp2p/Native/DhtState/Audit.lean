import ExLibp2p.Data.Audited
import ExLibp2p.Native.DhtState.RoundTrip
import Mathlib.Algebra.Ring.Nat

namespace ExLibp2p.Native.DhtState

open ExLibp2p.Data
open ExLibp2p.Native.Policy

namespace Audit

/-! The decoder once more, with an account of its capacities, rounds, bounds
checks and slices. -/

def readVec (count : Nat) : Audited DhtStateError Bytes :=
  .take .truncated count

def readArray (width : Nat) : Audited DhtStateError Bytes :=
  readVec width

def readU8 : Audited DhtStateError UInt8 := do
  return (← readArray 1).headD 0

def readU16 : Audited DhtStateError Nat := do
  return beValue (← readArray 2)

def readU32 : Audited DhtStateError Nat := do
  return beValue (← readArray 4)

def readAddress : Audited DhtStateError Bytes := do
  let addressLength ← readU16
  readVec addressLength

def readEntry : Audited DhtStateError RoutingEntry := do
  let peerIdLength ← readU16
  let peerId ← readVec peerIdLength
  let addressCount ← readU16
  Audited.note (.reserve (min addressCount 64))
  let addresses ← Audited.readMany readAddress addressCount []
  return { peerId, addresses }

def readMagic : Audited DhtStateError Unit := do
  let found ← readArray 4
  if found ≠ magic then
    Audited.fail (.badMagic found)

def readVersion : Audited DhtStateError Unit := do
  let found ← readU8
  if found ≠ version then
    Audited.fail (.unsupportedVersion found)

def readFile : Audited DhtStateError (List RoutingEntry) := do
  readMagic
  readVersion
  let count ← readU32
  Audited.note (.reserve (min count 1024))
  Audited.readMany readEntry count []

def decode (data : Bytes) :
    Except DhtStateError (List RoutingEntry) × List Event :=
  if data.length > maxDhtExportBytes then
    (.error (.inputTooLarge data.length maxDhtExportBytes), [])
  else
    let (result, events) := readFile (Cursor.new data)
    (result.map Prod.fst, events)

theorem readVec_erases (count : Nat) :
    (readVec count).Erases (DhtState.readVec count) := by
  intro cursor
  rw [readVec_run, readVec, Audited.take]
  split
  · rfl
  · rfl

theorem readU8_erases : readU8.Erases DhtState.readU8 :=
  (readVec_erases 1).bind fun _ => .pure _

theorem readU16_erases : readU16.Erases DhtState.readU16 :=
  (readVec_erases 2).bind fun _ => .pure _

theorem readU32_erases : readU32.Erases DhtState.readU32 :=
  (readVec_erases 4).bind fun _ => .pure _

theorem readAddress_erases : readAddress.Erases DhtState.readAddress :=
  readU16_erases.bind readVec_erases

theorem readEntry_erases : readEntry.Erases DhtState.readEntry := by
  refine readU16_erases.bind fun peerIdLength => ?_
  refine (readVec_erases peerIdLength).bind fun peerId => ?_
  refine readU16_erases.bind fun addressCount => ?_
  refine .note _ ?_
  exact (readAddress_erases.readMany addressCount []).bind fun _ => .pure _

theorem readMagic_erases : readMagic.Erases DhtState.readMagic :=
  (readVec_erases 4).expect magic .badMagic

theorem readVersion_erases : readVersion.Erases DhtState.readVersion :=
  readU8_erases.expect version .unsupportedVersion

theorem readFile_erases : readFile.Erases DhtState.readFile := by
  refine readMagic_erases.bind fun _ => ?_
  refine readVersion_erases.bind fun _ => ?_
  refine readU32_erases.bind fun count => ?_
  refine .note _ ?_
  exact readEntry_erases.readMany count []

theorem decode_erases (data : Bytes) :
    (decode data).1 = DhtState.decode data := by
  rw [decode_eq, decode]
  split
  · rfl
  · change (readFile (Cursor.new data)).1.map Prod.fst = _
    rw [readFile_erases]
    rfl

def Harmless (error : DhtStateError) : Prop :=
  ∀ got max, error ≠ .inputTooLarge got max

abbrev Bounded {Value : Type} :=
  @Audited.Bounded DhtStateError Value 2 (2 ^ 16 - 1) 1024 Harmless

theorem readVec_bounded {count : Nat} (narrow : count ≤ 2 ^ 16 - 1) :
    Bounded 0 count (fun bytes => bytes.length = count) (readVec count) := by
  apply Audited.Bounded.take narrow
  intro offset need got max impossible
  cases impossible

theorem readNumber_bounded {width : Nat} (narrow : width ≤ 2 ^ 16 - 1) :
    Bounded 0 width (fun value => value < 256 ^ width)
      (do return beValue (← readArray width)) := by
  have value : ∀ bytes : Bytes, bytes.length = width →
      Bounded 0 0 (fun value => value < 256 ^ width)
        (return beValue bytes) := by
    intro bytes length
    rw [← length]
    exact .pure (beValue_lt bytes)
  exact (readVec_bounded narrow).bind value (Nat.le_refl _) (Nat.zero_le _)

theorem readU16_bounded :
    Bounded 0 2 (fun value => value ≤ 2 ^ 16 - 1) readU16 := by
  refine (readNumber_bounded (by decide)).weaken (Nat.le_refl _)
    (Nat.le_refl _) ?_
  intro value small
  omega

theorem skipVec_bounded {count : Nat} (narrow : count ≤ 2 ^ 16 - 1) :
    Bounded 0 0 (fun _ => True) (readVec count) :=
  (readVec_bounded narrow).weaken (Nat.le_refl _) (Nat.zero_le _)
    fun _ _ => trivial

theorem readAddress_bounded : Bounded 0 2 (fun _ => True) readAddress :=
  readU16_bounded.bind (fun _ narrow => skipVec_bounded narrow) (Nat.le_refl _)
    (Nat.zero_le _)

theorem readAddresses_bounded (peerId : Bytes) :
    Bounded 0 2 (fun _ => True) (do
      let addressCount ← readU16
      Audited.note (.reserve (min addressCount 64))
      let addresses ← Audited.readMany readAddress addressCount []
      return { peerId, addresses : RoutingEntry }) := by
  have finish : ∀ addresses : List Bytes, True →
      Bounded 0 0 (fun _ => True) (return { peerId, addresses : RoutingEntry }) :=
    fun _ _ => .pure trivial
  have loop : ∀ addressCount : Nat, Bounded 2 0 (fun _ => True) (do
      Audited.note (.reserve (min addressCount 64))
      let addresses ← Audited.readMany readAddress addressCount []
      return { peerId, addresses : RoutingEntry }) := by
    intro addressCount
    have small : min addressCount 64 ≤ 1024 :=
      Nat.le_trans (Nat.min_le_right _ _) (by decide)
    exact .reserve small ((readAddress_bounded.readMany addressCount []).bind
      finish (Nat.le_refl _) (Nat.zero_le _))
  exact readU16_bounded.bind (fun addressCount _ => loop addressCount)
    (Nat.zero_le _) (Nat.le_refl _)

theorem readEntry_bounded : Bounded 0 2 (fun _ => True) readEntry := by
  have body : ∀ count ≤ 2 ^ 16 - 1, Bounded 0 2 (fun _ => True) (do
      let peerId ← readVec count
      let addressCount ← readU16
      Audited.note (.reserve (min addressCount 64))
      let addresses ← Audited.readMany readAddress addressCount []
      return { peerId, addresses : RoutingEntry }) := by
    intro count narrow
    exact (skipVec_bounded narrow).bind
      (fun peerId _ => readAddresses_bounded peerId) (Nat.le_refl _)
      (Nat.zero_le _)
  exact (readU16_bounded.bind body (Nat.le_refl _) (Nat.zero_le _)).weaken
    (Nat.le_refl _) (by decide) fun _ _ => trivial

theorem expect_bounded {Value : Type} [DecidableEq Value]
    {reader : Audited DhtStateError Value} {gain : Nat} {post : Value → Prop}
    (bounded : Bounded 0 gain post reader) (expected : Value)
    {error : Value → DhtStateError} (harmless : ∀ value, Harmless (error value)) :
    Bounded 0 gain (fun _ => True) (do
      let found ← reader
      if found ≠ expected then
        Audited.fail (error found)) := by
  have checked : ∀ found, post found → Bounded 0 0 (fun _ => True)
      (if found ≠ expected then Audited.fail (error found) else pure ()) := by
    intro found _
    split
    · exact .fail (harmless found)
    · exact .pure trivial
  exact bounded.bind checked (Nat.le_refl _) (Nat.zero_le _)

theorem readMagic_bounded : Bounded 0 4 (fun _ => True) readMagic := by
  apply expect_bounded (readVec_bounded (by decide)) magic
  intro value got max impossible
  cases impossible

theorem readU8_bounded : Bounded 0 1 (fun _ => True) readU8 := by
  have value : ∀ bytes : Bytes, bytes.length = 1 →
      Bounded 0 0 (fun _ => True) (return bytes.headD 0) :=
    fun _ _ => .pure trivial
  exact (readVec_bounded (by decide)).bind value (Nat.le_refl _) (Nat.zero_le _)

theorem readVersion_bounded : Bounded 0 1 (fun _ => True) readVersion := by
  apply expect_bounded readU8_bounded version
  intro value got max impossible
  cases impossible

theorem readFile_bounded : Bounded 0 9 (fun _ => True) readFile := by
  have loop : ∀ count : Nat, Bounded 2 0 (fun _ => True) (do
      Audited.note (.reserve (min count 1024))
      Audited.readMany readEntry count []) := by
    intro count
    exact .reserve (Nat.min_le_right _ _) (readEntry_bounded.readMany count [])
  have entries : Bounded 0 4 (fun _ => True) (do
      let count ← readU32
      Audited.note (.reserve (min count 1024))
      Audited.readMany readEntry count []) :=
    (readNumber_bounded (by decide)).bind (fun count _ => loop count)
      (Nat.le_refl _) (by decide)
  have tail : Bounded 0 5 (fun _ => True) (do
      readVersion
      let count ← readU32
      Audited.note (.reserve (min count 1024))
      Audited.readMany readEntry count []) :=
    readVersion_bounded.bind (fun _ _ => entries) (Nat.le_refl _)
      (Nat.zero_le _)
  exact readMagic_bounded.bind (fun _ _ => tail) (Nat.le_refl _) (Nat.zero_le _)

def InBounds (length : Nat) : Event → Prop
  | .reserve capacity => capacity ≤ 1024
  | .round => True
  | .check offset need => offset ≤ length ∧ offset + need < 2 ^ 32
  | .slice start stop => start ≤ stop ∧ stop ≤ length

theorem inBounds_of_sound {length : Nat} (small : length ≤ maxDhtExportBytes)
    {event : Event} (sound : Audited.Sound (2 ^ 16 - 1) 1024 length event) :
    InBounds length event := by
  cases event with
  | reserve capacity =>
      exact sound
  | round =>
      trivial
  | check offset need =>
      obtain ⟨inside, narrow⟩ := sound
      unfold maxDhtExportBytes at small
      exact ⟨inside, by omega⟩
  | slice start stop =>
      exact sound

theorem decode_inBounds (data : Bytes) :
    ∀ event ∈ (decode data).2, InBounds data.length event := by
  intro event member
  rw [decode] at member
  split at member
  · cases member
  · rename_i small
    have account := readFile_bounded (Cursor.new data) (Nat.zero_le _)
    apply inBounds_of_sound (Nat.le_of_not_lt small)
    cases ran : readFile (Cursor.new data) with
    | mk result events =>
        rw [ran] at member account
        cases account with
        | ok sound => exact sound event member
        | error sound => exact sound event member

theorem rounds_decode (data : Bytes) :
    rounds (decode data).2 ≤ data.length := by
  rw [decode]
  split
  · exact Nat.zero_le _
  · have account := readFile_bounded (Cursor.new data) (Nat.zero_le _)
    cases ran : readFile (Cursor.new data) with
    | mk result events =>
        change rounds events ≤ data.length
        rw [ran] at account
        cases account with
        | ok _ _ bound paid =>
            simp only [Cursor.new] at bound paid
            omega
        | error _ _ owed =>
            simp only [Cursor.new] at owed
            omega

theorem decode_inputTooLarge (data : Bytes) :
    (∃ got max, DhtState.decode data = .error (.inputTooLarge got max)) ↔
      data.length > maxDhtExportBytes := by
  rw [← decode_erases, decode]
  split
  · rename_i large
    exact iff_of_true ⟨_, _, rfl⟩ large
  · rename_i small
    refine iff_of_false ?_ small
    intro found
    obtain ⟨got, max, failed⟩ := found
    have account := readFile_bounded (Cursor.new data) (Nat.zero_le _)
    cases ran : readFile (Cursor.new data) with
    | mk result events =>
        rw [ran] at failed account
        cases account with
        | ok => cases failed
        | error _ harmless =>
            cases failed
            exact harmless got max rfl

end Audit

def addressSize (address : Bytes) : Nat :=
  2 + address.length

def entrySize (entry : RoutingEntry) : Nat :=
  4 + entry.peerId.length + (entry.addresses.map addressSize).sum

def tableSize (entries : List RoutingEntry) : Nat :=
  9 + (entries.map entrySize).sum

theorem length_encodeAddress (address : Bytes) :
    (encodeAddress address).length = addressSize address := by
  simp [encodeAddress, addressSize]

theorem length_encodeEntry_eq (entry : RoutingEntry) :
    (encodeEntry entry).length = entrySize entry := by
  have addresses : (entry.addresses.flatMap encodeAddress).length =
      (entry.addresses.map addressSize).sum := by
    simp only [List.length_flatMap, length_encodeAddress]
  simp only [encodeEntry, entrySize, List.length_append, length_beBytes,
    addresses]
  omega

theorem length_encode (entries : List RoutingEntry) :
    (encode entries).length = tableSize entries := by
  simp only [encode, tableSize, List.length_append, length_beBytes,
    List.length_flatMap, length_encodeEntry_eq]
  rfl

theorem tableSize_le {data : Bytes} {entries : List RoutingEntry}
    (decoded : decode data = .ok entries) : tableSize entries ≤ data.length := by
  obtain ⟨-, sentence, rest, phrase, rfl⟩ := decode_eq_ok.mp decoded
  obtain ⟨-, rfl⟩ := (filePhrase_iff sentence entries).mp phrase
  rw [List.length_append, length_encode]
  exact Nat.le_add_right _ _

theorem decode_contained (data : Bytes) :
    (Audit.decode data).1 = decode data ∧
      rounds (Audit.decode data).2 ≤ data.length ∧
      (∀ event ∈ (Audit.decode data).2, Audit.InBounds data.length event) ∧
      ((∃ got max, decode data = .error (.inputTooLarge got max)) ↔
        data.length > maxDhtExportBytes) ∧
      ∀ entries, decode data = .ok entries →
        tableSize entries ≤ data.length :=
  ⟨Audit.decode_erases data, Audit.rounds_decode data,
    Audit.decode_inBounds data, Audit.decode_inputTooLarge data,
    fun _ decoded => tableSize_le decoded⟩

end ExLibp2p.Native.DhtState
