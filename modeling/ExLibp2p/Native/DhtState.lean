import ExLibp2p.Data.Cursor
import ExLibp2p.Native.Policy

namespace ExLibp2p.Native.DhtState

open ExLibp2p.Data
open ExLibp2p.Native.Policy

/-! The routing-table snapshot of `dht_state.rs`. -/

-- b"L2DT"
def magic : Bytes := [0x4C, 0x32, 0x44, 0x54]

def version : UInt8 := 1

structure RoutingEntry where
  peerId : Bytes
  addresses : List Bytes
  deriving DecidableEq

inductive DhtStateError
  | inputTooLarge (got max : Nat)
  | truncated (offset need : Nat)
  | badMagic (got : Bytes)
  | unsupportedVersion (version : UInt8)
  deriving DecidableEq

/-! The casts `as u16` and `as u32` keep the low bits. -/

def asU16 (value : Nat) : Nat := value % 2 ^ 16

def asU32 (value : Nat) : Nat := value % 2 ^ 32

def encodeAddress (address : Bytes) : Bytes :=
  beBytes 2 (asU16 address.length) ++ address

def encodeEntry (entry : RoutingEntry) : Bytes :=
  beBytes 2 (asU16 entry.peerId.length) ++ entry.peerId ++
    beBytes 2 (asU16 entry.addresses.length) ++
      entry.addresses.flatMap encodeAddress

def encode (entries : List RoutingEntry) : Bytes :=
  magic ++ [version] ++ beBytes 4 (asU32 entries.length) ++
    entries.flatMap encodeEntry

def readVec (count : Nat) : Reader DhtStateError Bytes := do
  let cursor ← get
  if cursor.offset + count > cursor.buf.length then
    throw (.truncated cursor.offset count)
  set { cursor with offset := cursor.offset + count }
  return (cursor.buf.drop cursor.offset).take count

def readArray (width : Nat) : Reader DhtStateError Bytes :=
  readVec width

def readU8 : Reader DhtStateError UInt8 := do
  return (← readArray 1).headD 0

def readU16 : Reader DhtStateError Nat := do
  return beValue (← readArray 2)

def readU32 : Reader DhtStateError Nat := do
  return beValue (← readArray 4)

def readAddress : Reader DhtStateError Bytes := do
  let addressLength ← readU16
  readVec addressLength

def readEntry : Reader DhtStateError RoutingEntry := do
  let peerIdLength ← readU16
  let peerId ← readVec peerIdLength
  let addressCount ← readU16
  let addresses ← readMany readAddress addressCount []
  return { peerId, addresses }

def readMagic : Reader DhtStateError Unit := do
  let found ← readArray 4
  if found ≠ magic then
    throw (.badMagic found)

def readVersion : Reader DhtStateError Unit := do
  let found ← readU8
  if found ≠ version then
    throw (.unsupportedVersion found)

def readFile : Reader DhtStateError (List RoutingEntry) := do
  readMagic
  readVersion
  let count ← readU32
  readMany readEntry count []

def decode (data : Bytes) : Except DhtStateError (List RoutingEntry) := do
  if data.length > maxDhtExportBytes then
    throw (.inputTooLarge data.length maxDhtExportBytes)
  readFile.run' (Cursor.new data)

example : decode (encode [⟨[1, 2], [[3], []]⟩, ⟨[], []⟩]) =
    .ok [⟨[1, 2], [[3], []]⟩, ⟨[], []⟩] := by
  decide

example : decode [0x4C, 0x32, 0x44, 0x54, 1, 0, 0, 0, 1, 0] =
    .error (.truncated 9 2) := by
  decide

end ExLibp2p.Native.DhtState
