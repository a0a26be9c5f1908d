import ExLibp2p.Native.PeerId
import ExLibp2p.PeerId

namespace ExLibp2p.Node

open ExLibp2p.Data
open ExLibp2p.Erlang
open ExLibp2p.Native

def Accepted (peer : Native.PeerId) : Prop :=
  ∃ peerId, PeerId.new (.binary peer.toBase58) = .ok peerId

theorem accepted_iff (peer : Native.PeerId) :
    Accepted peer ↔ 39 < peer.toBase58.length := by
  rw [Accepted, PeerId.new_eq_ok]
  exact and_iff_left fun char member => mem_base58 member

theorem length_base58_sha256 (digest : Bytes) :
    39 < (base58 (Multihash.toBytes ⟨Multihash.sha256, digest⟩)).length ↔
      28 ≤ digest.length := by
  have code : uvarint Multihash.sha256 = [18] := uvarint_of_lt (by decide)
  simp only [Multihash.toBytes, code, List.singleton_append]
  constructor
  · contrapose!
    intro short
    have size : uvarint digest.length = [UInt8.ofNat digest.length] :=
      uvarint_of_lt (by omega)
    have length : (uvarint digest.length ++ digest).length ≤ 28 := by
      rw [size, List.singleton_append, List.length_cons]
      omega
    have small := beValue_cons_lt 19 28
      (show (18 : UInt8).toNat < 19 by decide) length
    exact length_base58_le 0 39 (by simp) (small.trans (by decide))
  · intro long
    have size := length_uvarint_pos digest.length
    have length : 29 ≤ (uvarint digest.length ++ digest).length := by
      rw [List.length_append]
      omega
    have large := le_beValue_cons 18 29
      (show 18 ≤ (18 : UInt8).toNat by decide) length
    exact length_base58_gt (Nat.le_trans (by decide) large)

theorem length_base58_identity (digest : Bytes)
    (inline : digest.length ≤ Multihash.maxInlineKeyLength) :
    39 < (base58 (Multihash.toBytes ⟨Multihash.identity, digest⟩)).length ↔
      28 ≤ digest.length := by
  have bound : digest.length ≤ 42 := inline
  have code : uvarint Multihash.identity = [0] := uvarint_of_lt (by decide)
  have size : uvarint digest.length = [UInt8.ofNat digest.length] :=
    uvarint_of_lt (by omega)
  have first : (UInt8.ofNat digest.length).toNat = digest.length := by
    simp
    omega
  have value : beValue (0 :: UInt8.ofNat digest.length :: digest) =
      beValue (UInt8.ofNat digest.length :: digest) := by
    rw [beValue]
    simp
  simp only [Multihash.toBytes, code, size, List.singleton_append]
  constructor
  · contrapose!
    intro short
    by_cases empty : digest.length = 0
    · obtain rfl := List.length_eq_zero_iff.mp empty
      decide
    · have nonzero : (UInt8.ofNat digest.length == 0) = false := by
        rw [beq_eq_false_iff_ne]
        intro zero
        rw [zero] at first
        exact empty first.symm
      have small : beValue (UInt8.ofNat digest.length :: digest) <
          28 * 256 ^ 27 :=
        beValue_cons_lt 28 27 (by omega) (by omega)
      rw [← value] at small
      refine length_base58_le 1 38 ?_ (small.trans (by decide))
      rw [List.takeWhile_cons_of_pos (by decide),
        List.takeWhile_cons_of_neg (by rw [nonzero]; decide)]
      decide
  · intro long
    have large : 28 * 256 ^ 28 ≤
        beValue (UInt8.ofNat digest.length :: digest) :=
      le_beValue_cons 28 28 (by omega) long
    rw [← value] at large
    exact length_base58_gt (Nat.le_trans (by decide) large)

theorem accepted_iff_digest (peer : Native.PeerId) :
    Accepted peer ↔ 28 ≤ peer.multihash.digest.length := by
  rw [accepted_iff, Native.PeerId.toBase58, Native.PeerId.toBytes]
  cases peer with
  | mk multihash accepted =>
      cases multihash with
      | mk code digest =>
          rcases accepted with isSha256 | ⟨isIdentity, inline⟩
          · cases isSha256
            exact length_base58_sha256 digest
          · cases isIdentity
            exact length_base58_identity digest inline

end ExLibp2p.Node
