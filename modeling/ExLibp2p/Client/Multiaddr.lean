import ExLibp2p.Data.Segments
import ExLibp2p.PeerId
import Mathlib.Data.List.Induction

namespace ExLibp2p.Client

open ExLibp2p.Data
open ExLibp2p.Erlang

/-! The addresses of `multiaddr.ex`. -/

structure Multiaddr where
  address : Bytes
  deriving DecidableEq

inductive MultiaddrError
  | invalidMultiaddr
  deriving DecidableEq

namespace Multiaddr

/-- `"/"` -/
def slash : UInt8 := 47

def knownProtocols : List Bytes :=
  ["ip4", "ip6", "tcp", "udp", "quic", "quic-v1", "dns", "dns4", "dns6",
    "dnsaddr", "ws", "wss", "p2p", "p2p-circuit", "webtransport",
    "webrtc-direct", "certhash"].map utf8

def hasKnownProtocol? : List Bytes → Bool
  | [] => false
  | parts => (everyOther parts).any knownProtocols.contains

/-- `String.split("/", trim: true)` -/
def parts (raw : Bytes) : List Bytes :=
  segments slash raw

def new : Term → Except MultiaddrError Multiaddr
  | .binary (first :: rest) =>
      if first = slash then
        if hasKnownProtocol? (parts (first :: rest)) then
          .ok { address := first :: rest }
        else
          .error .invalidMultiaddr
      else
        .error .invalidMultiaddr
  | _ => .error .invalidMultiaddr

def p2p : Bytes :=
  utf8 "p2p"

/-- `address <> "/p2p/" <> peer_id` -/
def withP2p (multiaddr : Multiaddr) (peerId : PeerId) : Multiaddr where
  address := multiaddr.address ++ slash :: (p2p ++ slash :: peerId.id)

section Accepted

variable {multiaddr : Multiaddr} {peerId : PeerId}

theorem hasKnownProtocol?_eq_true {pieces : List Bytes} :
    hasKnownProtocol? pieces = true ↔
      ∃ protocol ∈ everyOther pieces, protocol ∈ knownProtocols := by
  cases pieces with
  | nil => simp [hasKnownProtocol?, everyOther]
  | cons piece rest => simp [hasKnownProtocol?]

theorem new_eq_ok {raw : Term} :
    new raw = .ok multiaddr ↔
      raw = .binary multiaddr.address ∧
        multiaddr.address.head? = some slash ∧
        ∃ place protocol, (parts multiaddr.address)[2 * place]? =
          some protocol ∧ protocol ∈ knownProtocols := by
  have known : hasKnownProtocol? (parts multiaddr.address) = true ↔
      ∃ place protocol, (parts multiaddr.address)[2 * place]? =
        some protocol ∧ protocol ∈ knownProtocols := by
    rw [hasKnownProtocol?_eq_true]
    constructor
    · intro found
      obtain ⟨protocol, listed, isKnown⟩ := found
      obtain ⟨place, at_place⟩ := mem_everyOther.mp listed
      exact ⟨place, protocol, at_place, isKnown⟩
    · intro found
      obtain ⟨place, protocol, at_place, isKnown⟩ := found
      exact ⟨protocol, mem_everyOther.mpr ⟨place, at_place⟩, isKnown⟩
  rw [← known]
  constructor
  · intro accepted
    unfold new at accepted
    split at accepted
    · split at accepted
      · rename_i isSlash
        split at accepted
        · rename_i hasKnown
          cases accepted
          exact ⟨rfl, congrArg some isSlash, hasKnown⟩
        · cases accepted
      · cases accepted
    · cases accepted
  · intro all
    obtain ⟨rfl, starts, hasKnown⟩ := all
    obtain ⟨address⟩ := multiaddr
    cases address with
    | nil => cases starts
    | cons first rest =>
        rw [new, if_pos (Option.some.inj starts), if_pos hasKnown]

theorem id_unseparated (peerId : PeerId) : slash ∉ peerId.id := by
  intro member
  have base58 := PeerId.base58?_eq_true.mp peerId.base58 slash member
  exact absurd base58 (by decide)

theorem id_ne_nil (peerId : PeerId) : peerId.id ≠ [] := by
  intro empty
  have long := peerId.long
  rw [empty, PeerId.minLength] at long
  contradiction

theorem parts_withP2p (multiaddr : Multiaddr) (peerId : PeerId) :
    parts (multiaddr.withP2p peerId).address =
      parts multiaddr.address ++ [p2p, peerId.id] := by
  have protocol : segments slash p2p = [p2p] :=
    segments_of_notMem (by decide) (by decide)
  have identifier : segments slash peerId.id = [peerId.id] :=
    segments_of_notMem (id_ne_nil peerId) (id_unseparated peerId)
  rw [parts, withP2p, segments_append_cons, segments_append_cons, protocol,
    identifier]
  rfl

/-- An identifier has no separator, so the last one shows where the address
was extended. -/
theorem withP2p_injective {first second : Multiaddr} {one other : PeerId}
    (same : first.withP2p one = second.withP2p other) :
    first = second ∧ one = other := by
  have pieces := congrArg (fun multiaddr => parts multiaddr.address) same
  simp only [parts_withP2p] at pieces
  have identifiers := congrArg List.getLast? pieces
  simp only [List.getLast?_append, List.getLast?_cons_cons,
    List.getLast?_singleton, Option.some_or, Option.some.injEq] at identifiers
  have samePeer : one = other := by
    obtain ⟨id, long, base58⟩ := one
    obtain ⟨otherId, otherLong, otherBase58⟩ := other
    cases identifiers
    rfl
  subst samePeer
  have addresses := congrArg Multiaddr.address same
  refine ⟨?_, rfl⟩
  obtain ⟨address⟩ := first
  obtain ⟨otherAddress⟩ := second
  exact congrArg Multiaddr.mk (List.append_cancel_right addresses)

theorem new_withP2p {raw : Term} (accepted : new raw = .ok multiaddr)
    (peerId : PeerId) :
    new (.binary (multiaddr.withP2p peerId).address) =
      .ok (multiaddr.withP2p peerId) := by
  obtain ⟨-, starts, place, protocol, at_place, known⟩ := new_eq_ok.mp accepted
  obtain ⟨bound, -⟩ := List.getElem?_eq_some_iff.mp at_place
  refine new_eq_ok.mpr ⟨rfl, ?_, place, protocol, ?_, known⟩
  · rw [withP2p, List.head?_append, starts]
    rfl
  · rw [parts_withP2p, List.getElem?_append_left bound]
    exact at_place

def through (multiaddr : Multiaddr) (peers : List PeerId) : Multiaddr :=
  peers.foldl withP2p multiaddr

theorem new_through {raw : Term} (accepted : new raw = .ok multiaddr)
    (peers : List PeerId) :
    new (.binary (multiaddr.through peers).address) =
      .ok (multiaddr.through peers) := by
  induction peers generalizing multiaddr raw with
  | nil => exact (new_eq_ok.mp accepted).1 ▸ accepted
  | cons peerId rest induction => exact induction (new_withP2p accepted peerId)

theorem parts_through (multiaddr : Multiaddr) (peers : List PeerId) :
    parts (multiaddr.through peers).address =
      parts multiaddr.address ++ peers.flatMap fun peerId =>
        [p2p, peerId.id] := by
  induction peers generalizing multiaddr with
  | nil => simp [through]
  | cons peerId rest induction =>
      calc
        parts (multiaddr.through (peerId :: rest)).address
            = parts ((multiaddr.withP2p peerId).through rest).address := rfl
        _ = _ := by
          rw [induction, parts_withP2p, List.append_assoc]
          rfl

theorem through_injective {first second : List PeerId}
    (same : multiaddr.through first = multiaddr.through second) :
    first = second := by
  induction first using List.reverseRecOn generalizing second with
  | nil =>
      have lengths := congrArg (fun built => (parts built.address).length) same
      simp only [parts_through, List.length_append, List.length_flatMap]
        at lengths
      cases second with
      | nil => rfl
      | cons peerId rest =>
          simp at lengths
  | append_singleton first peerId induction =>
      cases second using List.reverseRecOn with
      | nil =>
          have lengths :=
            congrArg (fun built => (parts built.address).length) same
          simp [parts_through] at lengths
      | append_singleton second other =>
          rw [through, List.foldl_concat, through, List.foldl_concat] at same
          obtain ⟨earlier, rfl⟩ := withP2p_injective same
          rw [induction earlier]

/-- From an accepted address, every way through further peers builds an address
that is accepted as it is, is no other way's, and names the peers in their
order behind the components of the first. -/
theorem through_accepted {raw : Term} (accepted : new raw = .ok multiaddr)
    (peers : List PeerId) :
    new (.binary (multiaddr.through peers).address) =
        .ok (multiaddr.through peers) ∧
      parts (multiaddr.through peers).address =
        parts multiaddr.address ++ (peers.flatMap fun peerId =>
          [p2p, peerId.id]) ∧
      ∀ others, multiaddr.through peers = multiaddr.through others →
        peers = others :=
  ⟨new_through accepted peers, parts_through multiaddr peers,
    fun _ => through_injective⟩

end Accepted

/-- A relayed address, by way of one peer to another. -/
theorem through_accepted_relayed :
    ∃ relay target : PeerId, relay ≠ target ∧
      ∃ multiaddr, new (.text "/ip4/127.0.0.1/tcp/4001") = .ok multiaddr ∧
        new (.binary (multiaddr.through [relay, target]).address) =
          .ok (multiaddr.through [relay, target]) := by
  refine ⟨⟨utf8 "12D3KooWDpJ7As7BWAwRMfu1VU2WCqNjvq387JEYKDBj4kx6nXTN",
      by decide, by decide⟩,
    ⟨utf8 "12D3KooWRPmBBCBTuGh1cnUuFVr35GYnm4bRXYsSB94TXJLAg4mA",
      by decide, by decide⟩, by decide, ⟨utf8 "/ip4/127.0.0.1/tcp/4001"⟩,
    by decide, ?_⟩
  exact (through_accepted
    (by decide : new (.text "/ip4/127.0.0.1/tcp/4001") =
      .ok ⟨utf8 "/ip4/127.0.0.1/tcp/4001"⟩) _).1

end Multiaddr

end ExLibp2p.Client
