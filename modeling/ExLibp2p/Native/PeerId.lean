import ExLibp2p.Data.Base58

namespace ExLibp2p.Native

open ExLibp2p.Data

/-! What the node holds of libp2p's identifiers and addresses. -/

structure Multihash where
  code : Nat
  digest : Bytes
  deriving DecidableEq

namespace Multihash

def sha256 : Nat := 0x12

def identity : Nat := 0x00

def maxInlineKeyLength : Nat := 42

def toBytes (multihash : Multihash) : Bytes :=
  uvarint multihash.code ++
    (uvarint multihash.digest.length ++ multihash.digest)

end Multihash

structure PeerId where
  multihash : Multihash
  accepted : multihash.code = Multihash.sha256 ∨
    (multihash.code = Multihash.identity ∧
      multihash.digest.length ≤ Multihash.maxInlineKeyLength)
  deriving DecidableEq

namespace PeerId

def toBytes (peerId : PeerId) : Bytes :=
  peerId.multihash.toBytes

def toBase58 (peerId : PeerId) : Bytes :=
  base58 peerId.toBytes

end PeerId

/-- An address, by the two forms in which the code reads it. -/
structure Multiaddr where
  toVec : Bytes
  toString : String
  deriving DecidableEq

end ExLibp2p.Native
