import ExLibp2p.Native.Nif

namespace ExLibp2p.Native

open ExLibp2p.Data
open ExLibp2p.Erlang

/-! The two functions of `lib.rs` on keypairs, and the identity that a node
starts with. -/

/-- The keypairs of libp2p. -/
structure Identity (Key : Type) where
  toProtobufEncoding : Key → Except String Bytes
  fromProtobufEncoding : Bytes → Except String Key
  encodePublic : Key → Bytes
  peerId : Key → Bytes

-- `MAX_KEYPAIR_BYTES`
def maxKeypairBytes : Nat := 4096

namespace Identity

variable {Key : Type} (identity : Identity Key)

/-- `generate_keypair`, by the key that is drawn. -/
def generateKeypair (key : Key) : Term :=
  match identity.toProtobufEncoding key with
  | .ok bytes =>
      .tuple [.atom "ok", .binary (identity.encodePublic key),
        .binary (identity.peerId key), .binary bytes]
  | .error _ =>
      .tuple [.atom "error", .binary [], .binary [], .binary []]

def keypairFromProtobuf (bytes : Bytes) : Term :=
  if maxKeypairBytes < bytes.length then
    .error (NifError.inputTooLarge bytes.length maxKeypairBytes).encode
  else
    match identity.fromProtobufEncoding bytes with
    | .ok key =>
        .tuple [.atom "ok", .binary (identity.encodePublic key),
          .binary (identity.peerId key)]
    | .error message => .error (NifError.invalidKeypair message).encode

/-- The identifier in `start_node_inner`, where a key is drawn only if no
keypair is configured. -/
def localPeerId (keypairBytes : Option Bytes) (drawn : Key) :
    Except String Bytes :=
  match keypairBytes with
  | some bytes =>
      match identity.fromProtobufEncoding bytes with
      | .ok key => .ok (identity.peerId key)
      | .error message => .error ("invalid keypair: " ++ message)
  | none => .ok (identity.peerId drawn)

/-- Keypairs are read back from their encoding, which is short. -/
structure Lawful : Prop where
  decoded : ∀ {key bytes}, identity.toProtobufEncoding key = .ok bytes →
    identity.fromProtobufEncoding bytes = .ok key
  short : ∀ {key bytes}, identity.toProtobufEncoding key = .ok bytes →
    bytes.length ≤ maxKeypairBytes

end Identity

end ExLibp2p.Native
