import ExLibp2p.Node.Agreement

namespace ExLibp2p.Node

open ExLibp2p.Data
open ExLibp2p.Erlang
open ExLibp2p.Native
open ExLibp2p.Native.Events

/-! Peer identities on their way from the native side to the node. -/

/-- The messages that the native side sends to the node, each beside the
peers it mentions. -/
inductive Sent (allocates : Nat → Bool) : Term → List Native.PeerId → Prop
  | swarmEvent (event : SwarmEvent) :
      Sent allocates (handleSwarmEvent allocates event) (peersOf event)
  | peersDiscovered {peers : List (Native.PeerId × Multiaddr)} {message : Term}
      (sent : sendPeersDiscovered peers = some message) :
      Sent allocates message (peers.map Prod.fst)
  | inboundRequest (peer : Native.PeerId) (requestId channelId : String)
      (data : Bytes) :
      Sent allocates (sendInboundRequest allocates peer requestId channelId data)
        [peer]
  | outboundResponse (peer : Native.PeerId) (requestId : String)
      (data : Bytes) :
      Sent allocates (sendOutboundResponse allocates peer requestId data) [peer]

theorem Sent.exists_path {allocates : Nat → Bool} {message : Term}
    {peers : List Native.PeerId} (sent : Sent allocates message peers) :
    ∃ path : Path, path.message allocates = some message ∧
      path.peers = peers := by
  cases sent with
  | swarmEvent event => exact ⟨.swarmEvent event, rfl, rfl⟩
  | peersDiscovered sent => exact ⟨.peersDiscovered _, sent, rfl⟩
  | inboundRequest peer requestId channelId data =>
      exact ⟨.inboundRequest peer requestId channelId data, rfl, rfl⟩
  | outboundResponse peer requestId data =>
      exact ⟨.outboundResponse peer requestId data, rfl, rfl⟩

/-- The node survives every message about a peer that it accepts. -/
theorem raised_of_sent {allocates : Nat → Bool} {message : Term}
    {peers : List Native.PeerId} {peer : Native.PeerId}
    (sent : Sent allocates message peers) (same : ∀ other ∈ peers, other = peer)
    (accepted : Accepted peer) : (handleInfo message).raised = none := by
  obtain ⟨peerId, named⟩ := accepted
  obtain ⟨path, message, rfl⟩ := sent.exists_path
  have allNamed : Named (fun _ => peerId) path.peers :=
    fun other member => same other member ▸ named
  rw [handleInfo_of_agrees (agrees_of_message message allNamed)]

/-- What the crossing of one identity asks: its text is accepted, and no
message about it makes the node raise. -/
def Crosses (peer : Native.PeerId) : Prop :=
  (∃ peerId, PeerId.new (.binary peer.toBase58) = .ok peerId) ∧
    ∀ allocates message peers, Sent allocates message peers →
      (∀ other ∈ peers, other = peer) → (handleInfo message).raised = none

theorem crosses_iff_digest (peer : Native.PeerId) :
    Crosses peer ↔ 28 ≤ peer.multihash.digest.length := by
  rw [← accepted_iff_digest]
  constructor
  · intro crosses
    exact crosses.1
  · intro accepted
    refine ⟨accepted, ?_⟩
    intro allocates message peers sent same
    exact raised_of_sent sent same accepted

def emptyIdentity : Native.PeerId where
  multihash := { code := Multihash.identity, digest := [] }
  accepted := .inr ⟨rfl, by decide⟩

/-- The two-character text of an empty digest is refused, and a failed dial
to it takes the node down. -/
theorem emptyIdentity_not_crosses :
    ¬ Crosses emptyIdentity ∧
      (handleInfo (handleSwarmEvent (fun _ => true)
        (.outgoingConnectionError (some emptyIdentity) "NoAddresses"))).raised =
          some (.argumentError "invalid peer ID: " (.text "11")) := by
  have bytes : emptyIdentity.toBytes = [0, 0] := by
    change uvarint 0 ++ (uvarint 0 ++ []) = [0, 0]
    rw [uvarint_of_lt (by decide)]
    decide
  have text : emptyIdentity.toBase58 = utf8 "11" := by
    rw [Native.PeerId.toBase58, bytes]
    decide
  refine ⟨?_, ?_⟩
  · intro crosses
    have long := (accepted_iff emptyIdentity).mp crosses.1
    rw [text] at long
    revert long
    decide
  · have encoded : encodePeer emptyIdentity = .text "11" := by
      rw [encodePeer, text]
      rfl
    change (handleInfo (libp2pEvent [.atom "dial_failure",
      encodePeer emptyIdentity, .text "NoAddresses"])).raised = _
    rw [encoded]
    rfl

end ExLibp2p.Node
