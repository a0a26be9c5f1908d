import ExLibp2p.Erlang.Term

namespace ExLibp2p

open ExLibp2p.Data
open ExLibp2p.Erlang

/-! The validated peer identifiers of `peer_id.ex`. -/

namespace PeerId

def minLength : Nat := 40

def base58Chars : Bytes :=
  utf8 "123456789ABCDEFGHJKLMNPQRSTUVWXYZabcdefghijkmnopqrstuvwxyz"

def base58? : Bytes → Bool
  | [] => true
  | char :: rest => char ∈ base58Chars && base58? rest

end PeerId

structure PeerId where
  id : Bytes
  long : PeerId.minLength ≤ id.length
  base58 : PeerId.base58? id = true
  deriving DecidableEq

inductive PeerIdError
  | invalidPeerId
  deriving DecidableEq

namespace PeerId

def new : Term → Except PeerIdError PeerId
  | .binary raw =>
      if long : minLength ≤ raw.length then
        if base58 : base58? raw = true then
          .ok { id := raw, long, base58 }
        else
          .error .invalidPeerId
      else
        .error .invalidPeerId
  | _ => .error .invalidPeerId

def new! (raw : Term) : Except Exception PeerId :=
  match new raw with
  | .ok peerId => .ok peerId
  | .error .invalidPeerId => .error (.argumentError "invalid peer ID: " raw)

theorem base58?_eq_true {raw : Bytes} :
    base58? raw = true ↔ ∀ char ∈ raw, char ∈ base58Chars := by
  induction raw with
  | nil => simp [base58?]
  | cons char rest induction => simp [base58?, induction]

theorem new_eq_ok {raw : Bytes} :
    (∃ peerId, new (.binary raw) = .ok peerId) ↔
      minLength ≤ raw.length ∧ ∀ char ∈ raw, char ∈ base58Chars := by
  rw [← base58?_eq_true]
  constructor
  · intro found
    obtain ⟨peerId, accepted⟩ := found
    rw [new] at accepted
    split at accepted
    · rename_i long
      split at accepted
      · rename_i base58
        exact ⟨long, base58⟩
      · cases accepted
    · cases accepted
  · intro both
    obtain ⟨long, base58⟩ := both
    refine ⟨{ id := raw, long, base58 }, ?_⟩
    rw [new, dif_pos long, dif_pos base58]

theorem new!_of_new {raw : Term} {peerId : PeerId}
    (accepted : new raw = .ok peerId) : new! raw = .ok peerId := by
  rw [new!, accepted]

end PeerId

end ExLibp2p
