import ExLibp2p.Native.Events
import ExLibp2p.Node.Dispatch
import ExLibp2p.Node.Names

namespace ExLibp2p.Node

open ExLibp2p.Data
open ExLibp2p.Erlang
open ExLibp2p.Native
open ExLibp2p.Native.Events

/-! The tuples that `events.rs` builds against the clauses that take them
apart. What an event means to the subscribers is stated on its own, field by
field, and both sides are compared with it. -/

def peersOf : SwarmEvent → List Native.PeerId
  | .connectionEstablished peerId _ _ => [peerId]
  | .connectionClosed peerId _ _ => [peerId]
  | .outgoingConnectionError peerId _ => peerId.toList
  | .gossipsubMessage _ _ source _ => source.toList
  | .mdnsDiscovered peers => peers.map Prod.fst
  | .outboundQueryProgressed _ (.foundProviders providers) => providers
  | .outboundFailure peer _ _ => [peer]
  | .inboundFailure peer _ _ => [peer]
  | .dcutr remotePeerId _ => [remotePeerId]
  | .reservationReqAccepted relayPeerId => [relayPeerId]
  | .rendezvousDiscovered registrations => registrations.map Prod.fst
  | _ => []

/-- The ways on which the native side sends to the node. -/
inductive Path
  | swarmEvent (event : SwarmEvent)
  | peersDiscovered (peers : List (Native.PeerId × Multiaddr))
  | inboundRequest (peer : Native.PeerId) (requestId channelId : String)
      (data : Bytes)
  | outboundResponse (peer : Native.PeerId) (requestId : String) (data : Bytes)

namespace Path

def message (allocates : Nat → Bool) : Path → Option Term
  | .swarmEvent event => some (handleSwarmEvent allocates event)
  | .peersDiscovered peers => sendPeersDiscovered peers
  | .inboundRequest peer requestId channelId data =>
      some (sendInboundRequest allocates peer requestId channelId data)
  | .outboundResponse peer requestId data =>
      some (sendOutboundResponse allocates peer requestId data)

def peers : Path → List Native.PeerId
  | .swarmEvent event => peersOf event
  | .peersDiscovered peers => peers.map Prod.fst
  | .inboundRequest peer _ _ _ => [peer]
  | .outboundResponse peer _ _ => [peer]

end Path

section Meaning

variable (name : Native.PeerId → PeerId) (binary : Bytes → Term)

def discoveries (peers : List (Native.PeerId × List Multiaddr)) :
    List (EventType × Event) :=
  peers.map fun peer =>
    (.peerDiscovered, .peerDiscovered (name peer.1)
      (.list (peer.2.map fun addr => .text addr.toString)))

def failure (peer : Option Native.PeerId) (error : String) :
    List (EventType × Event) :=
  [(.dialFailure, .dialFailure (peer.map name) (.text error))]

def queryResults (id : String) (result : Term) : List (EventType × Event) :=
  [(.dhtQueryResult, .dhtQueryResult (.text id) result)]

def eventsOfQuery (id : String) : QueryResult → List (EventType × Event)
  | .foundRecord key value =>
      queryResults id (.tuple [.atom "found_record", binary key, binary value])
  | .getRecordError => queryResults id (.atom "not_found")
  | .putRecordOk key =>
      queryResults id (.tuple [.atom "put_record_ok", .text key])
  | .foundProviders providers =>
      queryResults id (.tuple [.atom "found_providers",
        .list (providers.map fun provider => .binary provider.toBase58)])
  | .bootstrapOk numRemaining =>
      queryResults id (.tuple [.atom "bootstrap_ok",
        .integer numRemaining.toNat])
  | .finishedWithNoAdditionalRecord => []
  | .other => []

def eventsOf : SwarmEvent → List (EventType × Event)
  | .connectionEstablished peerId numEstablished isDialer =>
      [(.connectionEstablished, .connectionEstablished (name peerId)
        (.integer numEstablished.toNat)
        (.atom (if isDialer then "dialer" else "listener")))]
  | .connectionClosed peerId numEstablished cause =>
      [(.connectionClosed, .connectionClosed (name peerId)
        (.integer numEstablished.toNat) (.text (cause.getD "unknown")))]
  | .newListenAddr address listenerId =>
      [(.newListenAddr,
        .newListenAddr (.text address.toString) (.text listenerId))]
  | .externalAddrConfirmed address =>
      [(.externalAddrConfirmed, .externalAddrConfirmed (.text address.toString))]
  | .outgoingConnectionError peerId error => failure name peerId error
  | .gossipsubMessage topic data source messageId =>
      [(.gossipsubMessage, .gossipsubMessage (.text topic) (binary data)
        (source.map name) (.text messageId))]
  | .mdnsDiscovered peers =>
      discoveries name (peers.map fun peer => (peer.1, [peer.2]))
  | .mdnsExpired => []
  | .outboundQueryProgressed id result => eventsOfQuery binary id result
  | .requestReceived _ _ _ _ => []
  | .responseReceived _ _ _ => []
  | .outboundFailure peer requestId error =>
      failure name (some peer)
        ("rpc outbound failure " ++ requestId ++ ": " ++ error)
  | .inboundFailure peer requestId error =>
      failure name (some peer)
        ("rpc inbound failure " ++ requestId ++ ": " ++ error)
  | .natStatusChanged new =>
      [(.natStatusChanged,
        match new with
        | .natPublic address =>
            .natStatusChanged (.atom "public") (.text address.toString)
        | .natPrivate => .natStatusChanged (.atom "private") (.atom "nil")
        | .natUnknown => .natStatusChanged (.atom "unknown") (.atom "nil"))]
  | .dcutr remotePeerId result =>
      [(.holePunchOutcome, .holePunchOutcome (name remotePeerId)
        (match result with
        | .ok () => .atom "success"
        | .error error => .tuple [.atom "failure", .text error]))]
  | .reservationReqAccepted relayPeerId =>
      [(.relayReservationAccepted,
        .relayReservationAccepted (name relayPeerId) (.text ""))]
  | .newExternalAddr address =>
      [(.externalAddrConfirmed, .externalAddrConfirmed (.text address.toString))]
  | .rendezvousDiscovered registrations => discoveries name registrations
  | .other => []

def Path.events : Path → List (EventType × Event)
  | .swarmEvent event => eventsOf name binary event
  | .peersDiscovered peers =>
      discoveries name (peers.map fun peer => (peer.1, [peer.2]))
  | .inboundRequest peer requestId channelId data =>
      [(.inboundRequest, .inboundRequest (.text requestId) (.text channelId)
        (name peer) (binary data))]
  | .outboundResponse peer requestId data =>
      [(.outboundResponse, .outboundResponse (.text requestId) (name peer)
        (binary data))]

end Meaning

def Reads (rawEvent : Term) (event : EventType × Event) : Prop :=
  Event.fromRaw rawEvent = .ok (.ok event.2) ∧ eventTypeFor event.2 = event.1

inductive Decodes : Term → List (EventType × Event) → Prop
  | single {rawEvent : Term} {event : EventType × Event}
      (reads : Reads rawEvent event) : Decodes rawEvent [event]
  | batch {rawEvents : List Term} {events : List (EventType × Event)}
      (read : List.Forall₂ Reads rawEvents events) :
      Decodes (.tuple [.atom "peers_discovered", .list rawEvents]) events

theorem dispatchEvent_of_reads {rawEvent : Term} {event : EventType × Event}
    (reads : Reads rawEvent event) :
    dispatchEvent rawEvent = { dispatched := [event], raised := none } := by
  obtain ⟨type, struct⟩ := event
  obtain ⟨parses, typed⟩ := reads
  simp only at parses typed
  rw [dispatchEvent, parses, ← typed]

theorem dispatchEach_of_reads {rawEvents : List Term}
    {events : List (EventType × Event)}
    (read : List.Forall₂ Reads rawEvents events) :
    dispatchEach (.list rawEvents) = { dispatched := events, raised := none } := by
  induction read with
  | nil => rfl
  | cons reads later induction =>
      rw [Term.list, dispatchEach, dispatchEvent_of_reads reads, induction]
      rfl

theorem handleInfo_of_decodes {rawEvent : Term}
    {events : List (EventType × Event)} (decodes : Decodes rawEvent events) :
    handleInfo (.tuple [.atom "libp2p_event", rawEvent]) =
      { dispatched := events, raised := none } := by
  cases decodes with
  | single reads =>
      unfold handleInfo
      split
      · rename_i same
        cases same
        cases reads.1
      · rename_i same
        cases same
        exact dispatchEvent_of_reads reads
      · rename_i different
        exact absurd rfl (different rawEvent)
  | batch read =>
      change (if (Term.list _).isList then dispatchEach _ else _) = _
      rw [isList_list, if_pos rfl]
      exact dispatchEach_of_reads read

section Encoders

variable {name : Native.PeerId → PeerId}

def Named (name : Native.PeerId → PeerId) (peers : List Native.PeerId) : Prop :=
  ∀ peer ∈ peers, PeerId.new (.binary peer.toBase58) = .ok (name peer)

theorem reads_of_named {rawEvent : Term} {peer : Native.PeerId} {type : EventType}
    (event : PeerId → Event) (named : Named name [peer])
    (parses : Event.fromRaw rawEvent =
      (do return .ok (event (← PeerId.new! (encodePeer peer)))))
    (typed : eventTypeFor (event (name peer)) = type) :
    Reads rawEvent (type, event (name peer)) := by
  refine ⟨?_, typed⟩
  rw [parses, encodePeer,
    PeerId.new!_of_new (named peer (List.mem_singleton.mpr rfl))]
  rfl

/-- The message of a path: nothing to be told, or an event that decodes to
what the path means. -/
inductive Agrees (events : List (EventType × Event)) : Term → Prop
  | noop (empty : events = []) : Agrees events libp2pNoop
  | event {rawEvent : Term} (decodes : Decodes rawEvent events) :
      Agrees events (.tuple [.atom "libp2p_event", rawEvent])

theorem handleInfo_of_agrees {events : List (EventType × Event)} {message : Term}
    (agrees : Agrees events message) :
    handleInfo message = { dispatched := events, raised := none } := by
  cases agrees with
  | noop empty =>
      subst empty
      rfl
  | event decodes => exact handleInfo_of_decodes decodes

theorem agrees_discovered {peers : List (Native.PeerId × List Multiaddr)}
    (named : Named name (peers.map Prod.fst)) :
    Agrees (discoveries name peers) (discovered peers) := by
  have reads : ∀ peer ∈ peers,
      Reads (.tuple (peerDiscovered peer.1 peer.2)) (.peerDiscovered,
        .peerDiscovered (name peer.1)
          (.list (peer.2.map fun addr => .text addr.toString))) := by
    intro peer member
    apply reads_of_named (fun peerId => .peerDiscovered peerId _) _ rfl rfl
    intro other same
    obtain rfl := List.mem_singleton.mp same
    exact named _ (List.mem_map_of_mem member)
  unfold discovered
  split
  · rename_i peer addrs
    exact .event (.single (reads (peer, addrs) List.mem_cons_self))
  · refine .event (.batch ?_)
    rw [discoveries, List.forall₂_map_left_iff, List.forall₂_map_right_iff,
      List.forall₂_same]
    exact reads

theorem agrees_dialFailure {peer : Option Native.PeerId} (error : String)
    (named : Named name peer.toList) :
    Agrees (failure name peer error) (dialFailure peer error) := by
  cases peer with
  | none => exact .event (.single ⟨rfl, rfl⟩)
  | some peer =>
      exact .event (.single (reads_of_named
        (fun peerId => .dialFailure (some peerId) _) named rfl rfl))

theorem agrees_kadEvent (allocates : Nat → Bool) (id : String)
    (result : QueryResult) :
    Agrees (eventsOfQuery (encodeBinary allocates) id result)
      (encodeKadEvent allocates id result) := by
  cases result with
  | finishedWithNoAdditionalRecord => exact .noop rfl
  | other => exact .noop rfl
  | _ => exact .event (.single ⟨rfl, rfl⟩)

theorem agrees_swarmEvent (allocates : Nat → Bool) (event : SwarmEvent)
    (named : Named name (peersOf event)) :
    Agrees (eventsOf name (encodeBinary allocates) event)
      (handleSwarmEvent allocates event) := by
  cases event with
  | connectionEstablished peerId numEstablished isDialer =>
      exact .event (.single (reads_of_named
        (fun id => .connectionEstablished id _ _) named rfl rfl))
  | connectionClosed peerId numEstablished cause =>
      exact .event (.single (reads_of_named
        (fun id => .connectionClosed id _ _) named rfl rfl))
  | outgoingConnectionError peerId error => exact agrees_dialFailure error named
  | gossipsubMessage topic data source messageId =>
      cases source with
      | none => exact .event (.single ⟨rfl, rfl⟩)
      | some peer =>
          exact .event (.single (reads_of_named
            (fun id => .gossipsubMessage _ _ (some id) _) named rfl rfl))
  | mdnsDiscovered peers =>
      cases peers with
      | nil => exact .noop rfl
      | cons peer rest =>
          apply agrees_discovered
          rw [List.map_map]
          exact named
  | outboundQueryProgressed id result => exact agrees_kadEvent allocates id result
  | outboundFailure peer requestId error => exact agrees_dialFailure _ named
  | inboundFailure peer requestId error => exact agrees_dialFailure _ named
  | natStatusChanged new =>
      cases new with
      | _ => exact .event (.single ⟨rfl, rfl⟩)
  | dcutr remotePeerId result =>
      cases result with
      | _ =>
          exact .event (.single (reads_of_named
            (fun id => .holePunchOutcome id _) named rfl rfl))
  | reservationReqAccepted relayPeerId =>
      exact .event (.single (reads_of_named
        (fun id => .relayReservationAccepted id _) named rfl rfl))
  | rendezvousDiscovered registrations =>
      cases registrations with
      | nil => exact .noop rfl
      | cons registration rest => exact agrees_discovered named
  | newListenAddr address listenerId => exact .event (.single ⟨rfl, rfl⟩)
  | externalAddrConfirmed address => exact .event (.single ⟨rfl, rfl⟩)
  | newExternalAddr address => exact .event (.single ⟨rfl, rfl⟩)
  | mdnsExpired => exact .noop rfl
  | requestReceived peer requestId request channel => exact .noop rfl
  | responseReceived peer requestId response => exact .noop rfl
  | other => exact .noop rfl

theorem agrees_of_message {allocates : Nat → Bool} {path : Path} {message : Term}
    (sent : path.message allocates = some message)
    (named : Named name path.peers) :
    Agrees (path.events name (encodeBinary allocates)) message := by
  cases path with
  | swarmEvent event =>
      cases sent
      exact agrees_swarmEvent allocates event named
  | peersDiscovered peers =>
      cases peers with
      | nil => cases sent
      | cons peer rest =>
          cases sent
          apply agrees_discovered
          rw [List.map_map]
          exact named
  | inboundRequest peer requestId channelId data =>
      cases sent
      exact .event (.single (reads_of_named
        (fun id => .inboundRequest _ _ id _) named rfl rfl))
  | outboundResponse peer requestId data =>
      cases sent
      exact .event (.single (reads_of_named
        (fun id => .outboundResponse _ id _) named rfl rfl))

/-- Every message of the native side about peers that the node accepts comes
to the structs that it means, each under its own type, and to nothing else. -/
theorem events_agree {allocates : Nat → Bool}
    (allocated : ∀ size, allocates size = true) (path : Path)
    (named : Named name path.peers) :
    (path.message allocates = none → path.events name .binary = []) ∧
      ∀ message, path.message allocates = some message →
        Agrees (path.events name .binary) message ∧
          handleInfo message =
            { dispatched := path.events name .binary, raised := none } := by
  have binaries : encodeBinary allocates = .binary := by
    funext data
    rw [encodeBinary, if_pos (allocated data.length)]
  constructor
  · intro silent
    cases path with
    | peersDiscovered peers =>
        cases peers with
        | nil => rfl
        | cons peer rest => cases silent
    | _ => cases silent
  · intro message sent
    have agrees := agrees_of_message sent named
    rw [binaries] at agrees
    exact ⟨agrees, handleInfo_of_agrees agrees⟩

end Encoders

def gossiper : Native.PeerId where
  multihash := { code := Multihash.sha256, digest := List.replicate 32 9 }
  accepted := .inl rfl

theorem events_agree_gossip :
    ∃ peerId, PeerId.new (.binary gossiper.toBase58) = .ok peerId ∧
      handleInfo (handleSwarmEvent (fun _ => true)
          (.gossipsubMessage "room" [104, 105] (some gossiper) "m-1")) =
        { dispatched := [(.gossipsubMessage,
            .gossipsubMessage (.text "room") (.binary [104, 105]) (some peerId)
              (.text "m-1"))]
          raised := none } := by
  obtain ⟨peerId, accepted⟩ : Accepted gossiper :=
    (accepted_iff_digest gossiper).mpr (by decide)
  have named : Named (fun _ => peerId) [gossiper] := by
    intro peer member
    obtain rfl := List.mem_singleton.mp member
    exact accepted
  have agreed := events_agree (fun _ => rfl)
    (.swarmEvent (.gossipsubMessage "room" [104, 105] (some gossiper) "m-1"))
    named
  exact ⟨peerId, accepted, (agreed.2 _ rfl).2⟩

end ExLibp2p.Node
