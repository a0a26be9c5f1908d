import ExLibp2p.Native.Identity

namespace ExLibp2p

open ExLibp2p.Data
open ExLibp2p.Erlang
open ExLibp2p.Native (Identity maxKeypairBytes)

/-! The keypairs of `keypair.ex`. -/

structure Keypair where
  publicKey : Term
  peerId : Term
  protobufBytes : Term

namespace Keypair

section Functions

variable {Key : Type} (identity : Identity Key)

def generate (key : Key) : Except Exception (Except Term Keypair) :=
  match identity.generateKeypair key with
  | .tuple [.atom "ok", publicKey, peerId, protobufBytes] =>
      .ok (.ok { publicKey, peerId, protobufBytes })
  | .tuple [.atom "error", reason] => .ok (.error reason)
  | other => .error (.caseClauseError other)

def toProtobuf (keypair : Keypair) : Except Term Bytes :=
  match keypair.protobufBytes with
  | .binary bytes => .ok bytes
  | _ => .error (.atom "no_protobuf_data")

def fromProtobuf (bytes : Bytes) : Except Exception (Except Term Keypair) :=
  match identity.keypairFromProtobuf bytes with
  | .tuple [.atom "ok", publicKey, peerId] =>
      .ok (.ok { publicKey, peerId, protobufBytes := .binary bytes })
  | .tuple [.atom "error", _] => .ok (.error (.atom "invalid_keypair"))
  | other => .error (.caseClauseError other)

/-- The bytes that `save/2` hands to the storage. -/
def save (keypair : Keypair) : Except Exception Bytes :=
  match keypair.protobufBytes with
  | .binary bytes => .ok bytes
  | _ => .error (.functionClauseError "save/2" keypair.protobufBytes)

/-- `load/1`, by what the storage has read. -/
def load : Except Term Bytes → Except Exception (Except Term Keypair)
  | .ok bytes => fromProtobuf identity bytes
  | .error (.atom "enoent") => .ok (.error (.atom "file_not_found"))
  | .error reason => .ok (.error reason)

end Functions

section Valid

variable {Key : Type} {identity : Identity Key} {keypair : Keypair}

structure Valid (identity : Identity Key) (keypair : Keypair) (bytes : Bytes)
    (key : Key) : Prop where
  held : keypair.protobufBytes = .binary bytes
  decodes : identity.fromProtobufEncoding bytes = .ok key
  short : bytes.length ≤ maxKeypairBytes
  publicKey : keypair.publicKey = .binary (identity.encodePublic key)
  peerId : keypair.peerId = .binary (identity.peerId key)

theorem Valid.fromProtobuf {bytes : Bytes} {key : Key}
    (valid : Valid identity keypair bytes key) :
    fromProtobuf identity bytes = .ok (.ok keypair) := by
  obtain ⟨publicKey, peerId, protobufBytes⟩ := keypair
  obtain ⟨held, decodes, short, isPublicKey, isPeerId⟩ := valid
  cases held
  cases isPublicKey
  cases isPeerId
  rw [Keypair.fromProtobuf, Identity.keypairFromProtobuf,
    if_neg (Nat.not_lt.mpr short), decodes]
  rfl

theorem valid_of_fromProtobuf {bytes : Bytes}
    (returned : fromProtobuf identity bytes = .ok (.ok keypair)) :
    ∃ key, Valid identity keypair bytes key := by
  rw [Keypair.fromProtobuf, Identity.keypairFromProtobuf] at returned
  split_ifs at returned with large
  · cases returned
  · cases decodes : identity.fromProtobufEncoding bytes with
    | error message =>
        rw [decodes] at returned
        cases returned
    | ok key =>
        rw [decodes] at returned
        cases returned
        exact ⟨key, rfl, decodes, Nat.not_lt.mp large, rfl, rfl⟩

theorem valid_of_generate (lawful : identity.Lawful) {key : Key}
    (returned : generate identity key = .ok (.ok keypair)) :
    ∃ bytes, Valid identity keypair bytes key := by
  rw [generate, Identity.generateKeypair] at returned
  cases encoded : identity.toProtobufEncoding key with
  | error message =>
      rw [encoded] at returned
      cases returned
  | ok bytes =>
      rw [encoded] at returned
      cases returned
      exact ⟨bytes, rfl, lawful.decoded encoded, lawful.short encoded, rfl,
        rfl⟩

theorem valid_of_load {read : Except Term Bytes}
    (returned : load identity read = .ok (.ok keypair)) :
    ∃ bytes key, Valid identity keypair bytes key := by
  unfold load at returned
  split at returned
  · rename_i bytes
    obtain ⟨key, valid⟩ := valid_of_fromProtobuf returned
    exact ⟨bytes, key, valid⟩
  · cases returned
  · cases returned

theorem Valid.save {bytes : Bytes} {key : Key}
    (valid : Valid identity keypair bytes key) : save keypair = .ok bytes := by
  rw [Keypair.save, valid.held]

theorem Valid.toProtobuf {bytes : Bytes} {key : Key}
    (valid : Valid identity keypair bytes key) :
    toProtobuf keypair = .ok bytes := by
  rw [Keypair.toProtobuf, valid.held]

theorem Valid.localPeerId {bytes : Bytes} {key : Key}
    (valid : Valid identity keypair bytes key) (drawn : Key) :
    (identity.localPeerId (some bytes) drawn).map Term.binary =
      .ok keypair.peerId := by
  rw [Identity.localPeerId, valid.decodes, valid.peerId]
  rfl

end Valid

end Keypair

end ExLibp2p
