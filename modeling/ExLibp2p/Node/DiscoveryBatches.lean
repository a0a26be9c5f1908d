import ExLibp2p.Node.Agreement

namespace ExLibp2p.Node

open ExLibp2p.Data
open ExLibp2p.Erlang
open ExLibp2p.Native
open ExLibp2p.Native.Events

/-! The three encoders of discovered peers, each with the steps that the source
takes: what it collects first, and where it asks for the length. A text is
held as its bytes. -/

/-- `(atoms::peer_discovered(), peer_id, addrs)` -/
def peerTuple (peerId : Bytes) (addrs : List String) : Term :=
  .tuple [.atom "peer_discovered", .binary peerId, .list (addrs.map .text)]

/-- The mDNS arm of `handle_swarm_event`. -/
def mdnsArm (peers : List (Native.PeerId × Multiaddr)) : Term :=
  let peerList := peers.map fun (peerId, addr) =>
    (peerId.toBase58, [addr.toString])
  if peerList.isEmpty then
    libp2pNoop
  else if peerList.length = 1 then
    let (peerId, addrs) := peerList.headD ([], [])
    .tuple [.atom "libp2p_event", peerTuple peerId addrs]
  else
    let encodedPeers := peerList.map fun (pid, addrs) => peerTuple pid addrs
    libp2pEvent [.atom "peers_discovered", .list encodedPeers]

/-- `send_peers_discovered`, which sends nothing for an empty list. -/
def peersDiscoveredMessage (peers : List (Native.PeerId × Multiaddr)) :
    Option Term :=
  if peers.isEmpty then
    none
  else
    let peersOwned := peers.map fun (peer, addr) =>
      (peer.toBase58, [addr.toString])
    if peersOwned.length = 1 then
      let (peerId, addrs) := peersOwned.headD ([], [])
      some (.tuple [.atom "libp2p_event", peerTuple peerId addrs])
    else
      let encoded := peersOwned.map fun (peer, addrs) => peerTuple peer addrs
      some (libp2pEvent [.atom "peers_discovered", .list encoded])

/-- The rendezvous arm, which encodes the registrations before it counts
them. -/
def rendezvousArm (registrations : List (Native.PeerId × List Multiaddr)) :
    Term :=
  let encodedPeers := registrations.map fun (peerId, addresses) =>
    peerTuple peerId.toBase58 (addresses.map Multiaddr.toString)
  match encodedPeers.length with
  | 0 => libp2pNoop
  | 1 => .tuple [.atom "libp2p_event", encodedPeers.headD (.atom "nil")]
  | _ => libp2pEvent [.atom "peers_discovered", .list encodedPeers]

theorem mdnsArm_eq (allocates : Nat → Bool)
    (peers : List (Native.PeerId × Multiaddr)) :
    mdnsArm peers = handleSwarmEvent allocates (.mdnsDiscovered peers) := by
  cases peers with
  | nil => rfl
  | cons peer rest =>
      cases rest with
      | nil => rfl
      | cons second others =>
          simp [mdnsArm, handleSwarmEvent, discovered, peerTuple,
            peerDiscovered, encodePeer, Function.comp_def]

theorem peersDiscoveredMessage_eq
    (peers : List (Native.PeerId × Multiaddr)) :
    peersDiscoveredMessage peers = sendPeersDiscovered peers := by
  cases peers with
  | nil => rfl
  | cons peer rest =>
      cases rest with
      | nil => rfl
      | cons second others =>
          simp [peersDiscoveredMessage, sendPeersDiscovered, discovered,
            peerTuple, peerDiscovered, encodePeer, Function.comp_def]

theorem rendezvousArm_eq (allocates : Nat → Bool)
    (registrations : List (Native.PeerId × List Multiaddr)) :
    rendezvousArm registrations =
      handleSwarmEvent allocates (.rendezvousDiscovered registrations) := by
  cases registrations with
  | nil => rfl
  | cons registration rest =>
      cases rest with
      | nil =>
          simp [rendezvousArm, handleSwarmEvent, discovered, peerTuple,
            peerDiscovered, encodePeer, libp2pEvent, Function.comp_def]
      | cons second others =>
          simp [rendezvousArm, handleSwarmEvent, discovered, peerTuple,
            peerDiscovered, encodePeer, Function.comp_def]

def received : Option Term → Handled
  | some message => handleInfo message
  | none => { dispatched := [], raised := none }

/-- One event for each element, in the order of the list and with its own peer
and addresses, and nothing else. -/
def oneForEach (name : Native.PeerId → PeerId)
    (peers : List (Native.PeerId × List Multiaddr)) : Handled where
  dispatched := peers.map fun (peerId, addrs) =>
    (.peerDiscovered, .peerDiscovered (name peerId)
      (.list (addrs.map fun addr => .text addr.toString)))
  raised := none

/-- What mDNS reports, as registrations with one address each. -/
def asRegistrations (peers : List (Native.PeerId × Multiaddr)) :
    List (Native.PeerId × List Multiaddr) :=
  peers.map fun (peerId, addr) => (peerId, [addr])

theorem received_of_path {name : Native.PeerId → PeerId} (path : Path)
    (allocates : Nat → Bool) (named : Named name path.peers) {message : Term}
    (sent : path.message allocates = some message) :
    received (some message) =
      { dispatched := path.events name (encodeBinary allocates)
        raised := none } :=
  handleInfo_of_agrees (agrees_of_message sent named)

/-- Subscribers cannot tell the encoders apart, nor a batch from the events it
stands for. -/
theorem discoveries_uniform {name : Native.PeerId → PeerId}
    (peers : List (Native.PeerId × Multiaddr))
    (namedPeers : Named name (peers.map Prod.fst))
    (registrations : List (Native.PeerId × List Multiaddr))
    (namedRegistrations : Named name (registrations.map Prod.fst)) :
    received (peersDiscoveredMessage peers) =
        oneForEach name (asRegistrations peers) ∧
      received (some (mdnsArm peers)) =
        oneForEach name (asRegistrations peers) ∧
      received (some (rendezvousArm (asRegistrations peers))) =
        oneForEach name (asRegistrations peers) ∧
      received (some (rendezvousArm registrations)) =
        oneForEach name registrations := by
  have rendezvous : ∀ registrations,
      Named name (registrations.map Prod.fst) →
        received (some (rendezvousArm registrations)) =
          oneForEach name registrations := by
    intro registrations named
    rw [rendezvousArm_eq fun _ => true]
    exact received_of_path (.swarmEvent (.rendezvousDiscovered registrations)) _
      named rfl
  refine ⟨?_, ?_, rendezvous _ ?_, rendezvous _ namedRegistrations⟩
  · rw [peersDiscoveredMessage_eq]
    cases peers with
    | nil => rfl
    | cons peer rest =>
        exact received_of_path (.peersDiscovered (peer :: rest)) (fun _ => true)
          namedPeers rfl
  · rw [mdnsArm_eq fun _ => true]
    exact received_of_path (.swarmEvent (.mdnsDiscovered peers)) _ namedPeers rfl
  · rw [asRegistrations, List.map_map]
    exact namedPeers

def neighbours : List (Native.PeerId × Multiaddr) :=
  [(gossiper, ⟨[4, 10, 0, 0, 1, 6, 15, 161], "/ip4/10.0.0.1/tcp/4001"⟩),
    (gossiper, ⟨[4, 10, 0, 0, 2, 6, 15, 161], "/ip4/10.0.0.2/tcp/4001"⟩)]

theorem discoveries_uniform_neighbours :
    ∃ peerId, PeerId.new (.binary gossiper.toBase58) = .ok peerId ∧
      received (peersDiscoveredMessage neighbours) =
        { dispatched :=
            [(.peerDiscovered, .peerDiscovered peerId
                (.list [.text "/ip4/10.0.0.1/tcp/4001"])),
              (.peerDiscovered, .peerDiscovered peerId
                (.list [.text "/ip4/10.0.0.2/tcp/4001"]))]
          raised := none } ∧
      received (some (mdnsArm neighbours)) =
        received (peersDiscoveredMessage neighbours) := by
  obtain ⟨peerId, accepted⟩ : Accepted gossiper :=
    (accepted_iff_digest gossiper).mpr (by decide)
  have named : Named (fun _ => peerId) (neighbours.map Prod.fst) := by
    intro peer member
    simp only [neighbours, List.map_cons, List.map_nil, List.mem_cons,
      List.not_mem_nil, or_false, or_self] at member
    subst member
    exact accepted
  obtain ⟨sent, arm, -, -⟩ := discoveries_uniform neighbours named
    (asRegistrations neighbours) named
  exact ⟨peerId, accepted, sent, arm.trans sent.symm⟩

end ExLibp2p.Node
