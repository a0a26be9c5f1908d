import ExLibp2p.Native.DhtState

namespace ExLibp2p.Native.DhtState

open ExLibp2p.Data
open ExLibp2p.Native.Policy

/-! The v1 grammar, as the header comment of `dht_state.rs` documents it. Each
phrase stands beside the value it denotes. -/

def headerPhrase : Bytes := [0x4C, 0x32, 0x44, 0x54, 0x01]

/-- Big-endian `u16` and `u32`, by their width in bytes. -/
def NumberPhrase (width : Nat) (phrase : Bytes) (value : Nat) : Prop :=
  phrase.length = width ∧ beValue phrase = value

inductive AddrPhrase : Bytes → Bytes → Prop
  | mk {addrLen address : Bytes}
      (length : NumberPhrase 2 addrLen address.length) :
      AddrPhrase (addrLen ++ address) address

inductive EntryPhrase : Bytes → RoutingEntry → Prop
  | mk {peerIdLen peerId addrCount body : Bytes} {addresses : List Bytes}
      (length : NumberPhrase 2 peerIdLen peerId.length)
      (count : NumberPhrase 2 addrCount addresses.length)
      (addrs : Repeated AddrPhrase body addresses) :
      EntryPhrase (peerIdLen ++ (peerId ++ (addrCount ++ body)))
        { peerId, addresses }

inductive FilePhrase : Bytes → List RoutingEntry → Prop
  | mk {entryCount body : Bytes} {entries : List RoutingEntry}
      (count : NumberPhrase 4 entryCount entries.length)
      (phrases : Repeated EntryPhrase body entries) :
      FilePhrase (headerPhrase ++ (entryCount ++ body)) entries

theorem readVec_run (count : Nat) (cursor : Cursor) :
    (readVec count).run cursor =
      if cursor.offset + count > cursor.buf.length then
        .error (.truncated cursor.offset count)
      else
        .ok (cursor.rest.take count,
          { cursor with offset := cursor.offset + count }) := by
  by_cases overrun : cursor.offset + count > cursor.buf.length
  · rw [if_pos overrun]
    simp only [readVec, StateT.run_bind, StateT.run_get, pure_bind, overrun]
    rfl
  · rw [if_neg overrun]
    simp only [readVec, StateT.run_bind, StateT.run_get, pure_bind, overrun]
    rfl

theorem readVec_recognises (count : Nat) :
    Recognises (readVec count)
      (fun phrase value => value.length = count ∧ phrase = value) := by
  intro cursor valid value next
  rw [readVec_run]
  constructor
  · intro equation
    split at equation
    · cases equation
    · rename_i enough
      cases equation
      have length : (cursor.rest.take count).length = count := by
        simp [Cursor.rest]
        omega
      refine ⟨cursor.rest.take count, ⟨length, rfl⟩, ?_, by rw [length]⟩
      simp only [Cursor.rest, ← List.drop_drop, List.take_append_drop]
  · intro found
    obtain ⟨phrase, ⟨rfl, rfl⟩, split, rfl⟩ := found
    have bound := Cursor.length_of_rest valid split
    rw [if_neg (by omega), split, List.take_left]

theorem readNumber_recognises (width : Nat) :
    Recognises (do return beValue (← readArray width))
      (NumberPhrase width) := by
  refine ((readVec_recognises width).bind fun bytes =>
    Recognises.pure (beValue bytes)).congr ?_
  intro phrase value
  constructor
  · intro found
    obtain ⟨bytes, front, back, ⟨length, rfl⟩, ⟨rfl, rfl⟩, rfl⟩ := found
    rw [List.append_nil]
    exact ⟨length, rfl⟩
  · intro number
    obtain ⟨length, rfl⟩ := number
    exact ⟨phrase, phrase, [], ⟨length, rfl⟩, ⟨rfl, rfl⟩, by simp⟩

theorem readU16_recognises : Recognises readU16 (NumberPhrase 2) :=
  readNumber_recognises 2

theorem readU32_recognises : Recognises readU32 (NumberPhrase 4) :=
  readNumber_recognises 4

theorem readAddress_recognises : Recognises readAddress AddrPhrase := by
  refine (readU16_recognises.bind readVec_recognises).congr ?_
  intro phrase address
  constructor
  · intro found
    obtain ⟨count, addrLen, bytes, number, ⟨rfl, rfl⟩, rfl⟩ := found
    exact .mk number
  · intro isAddress
    cases isAddress with
    | mk number => exact ⟨_, _, _, number, ⟨rfl, rfl⟩, rfl⟩

theorem readEntry_recognises : Recognises readEntry EntryPhrase := by
  refine (readU16_recognises.bind fun peerIdLength =>
    (readVec_recognises peerIdLength).bind fun peerId =>
      readU16_recognises.bind fun addressCount =>
        (readAddress_recognises.readMany addressCount []).bind fun addresses =>
          Recognises.pure (RoutingEntry.mk peerId addresses)).congr ?_
  intro phrase entry
  constructor
  · intro found
    obtain ⟨_, peerIdLen, _, length, ⟨peerId, _, _, ⟨rfl, rfl⟩, ⟨_, addrCount,
      _, count, ⟨_, body, _, ⟨addresses, rfl, addrs, rfl⟩, ⟨rfl, rfl⟩, rfl⟩,
      rfl⟩, rfl⟩, rfl⟩ := found
    rw [List.append_nil]
    exact .mk length count addrs
  · intro isEntry
    cases isEntry with
    | mk length count addrs =>
        exact ⟨_, _, _, length, ⟨_, _, _, ⟨rfl, rfl⟩, ⟨_, _, _, count,
          ⟨_, _, [], ⟨_, rfl, addrs, rfl⟩, ⟨rfl, rfl⟩, by simp⟩, rfl⟩, rfl⟩,
          rfl⟩

theorem readMagic_recognises :
    Recognises readMagic (fun phrase _ => phrase = magic) := by
  refine ((readVec_recognises 4).expect magic .badMagic).congr ?_
  intro phrase _
  exact and_iff_right rfl

theorem readU8_recognises :
    Recognises readU8 (fun phrase value => phrase = [value]) := by
  refine ((readVec_recognises 1).bind fun bytes =>
    Recognises.pure (bytes.headD 0)).congr ?_
  intro phrase value
  constructor
  · intro found
    obtain ⟨bytes, front, back, ⟨length, rfl⟩, ⟨rfl, rfl⟩, rfl⟩ := found
    obtain ⟨byte, rfl⟩ := List.length_eq_one_iff.mp length
    rfl
  · intro single
    subst single
    exact ⟨[value], [value], [], ⟨rfl, rfl⟩, ⟨rfl, rfl⟩, rfl⟩

theorem readVersion_recognises :
    Recognises readVersion (fun phrase _ => phrase = [version]) :=
  readU8_recognises.expect version .unsupportedVersion

theorem readFile_recognises : Recognises readFile FilePhrase := by
  refine (readMagic_recognises.bind fun _ =>
    readVersion_recognises.bind fun _ =>
      readU32_recognises.bind fun count =>
        readEntry_recognises.readMany count []).congr ?_
  intro phrase entries
  constructor
  · intro found
    obtain ⟨_, _, _, rfl, ⟨_, _, _, rfl, ⟨_, entryCount, body, count,
      ⟨entries, rfl, phrases, rfl⟩, rfl⟩, rfl⟩, rfl⟩ := found
    exact .mk count phrases
  · intro isFile
    cases isFile with
    | mk count phrases =>
        exact ⟨(), magic, _, rfl, ⟨(), [version], _, rfl, ⟨_, _, _, count,
          ⟨_, rfl, phrases, rfl⟩, rfl⟩, rfl⟩, rfl⟩

theorem decode_eq (data : Bytes) :
    decode data =
      if data.length > maxDhtExportBytes then
        .error (.inputTooLarge data.length maxDhtExportBytes)
      else
        readFile.run' (Cursor.new data) := by
  by_cases large : data.length > maxDhtExportBytes
  · rw [if_pos large]
    simp only [decode, large]
    rfl
  · rw [if_neg large]
    simp only [decode, large]
    rfl

theorem decode_eq_ok {data : Bytes} {entries : List RoutingEntry} :
    decode data = .ok entries ↔
      data.length ≤ maxDhtExportBytes ∧ ∃ sentence rest,
        FilePhrase sentence entries ∧ data = sentence ++ rest := by
  rw [decode_eq]
  split
  · constructor
    · intro impossible
      cases impossible
    · intro found
      omega
  · rename_i small
    rw [readFile_recognises.run'_new]
    exact (and_iff_right (Nat.le_of_not_lt small)).symm

end ExLibp2p.Native.DhtState
