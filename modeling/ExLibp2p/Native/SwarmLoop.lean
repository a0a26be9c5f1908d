import ExLibp2p.Data.Dict
import ExLibp2p.Data.Machine
import ExLibp2p.Native.Command
import ExLibp2p.Native.Events
import ExLibp2p.Native.Policy

namespace ExLibp2p.Native.SwarmLoop

open ExLibp2p.Data
open ExLibp2p.Erlang
open ExLibp2p.Native.DhtState
open ExLibp2p.Native.Policy

/-! The event loop of `node.rs`. One turn is one branch of `tokio::select!`.
The swarm is outside: what it answers is part of the turn, and what the loop
asks of it is an effect. Log lines are left out. -/

/-- Nanoseconds of the monotonic clock. -/
abbrev Instant := Nat

def responseTtl : Nat := 60 * 10 ^ 9

/-- What is fixed when the loop is spawned: its flag, the optional behaviours
and the parsers of libp2p. -/
structure Settings where
  mdnsAutoDial : Bool
  kademlia : Bool
  rendezvousClient : Bool
  peerIdFromBytes : Bytes → Option PeerId
  multiaddrTryFrom : Bytes → Option Multiaddr
  namespaceNew : String → Bool

structure Answers where
  connectedPeers : List PeerId
  listeners : List Multiaddr
  meshPeers : String → List PeerId
  allPeers : List PeerId
  peerScore : PeerId → Option UInt64
  kbuckets : List (List (PeerId × List Multiaddr))
  sendRequest : PeerId → Bytes → String
  allocates : Nat → Bool

inductive Turn
  | tick (now : Instant)
  | command (command : Option Command) (answers : Answers)
  | event (event : SwarmEvent) (now : Instant) (answers : Answers)

inductive Effect
  | dial (addr : Multiaddr)
  | dialPeer (peerId : PeerId)
  | listenOn (addr : Multiaddr)
  | publish (topic : String) (data : Bytes)
  | subscribe (topic : String)
  | unsubscribe (topic : String)
  | putRecord (key value : Bytes)
  | getRecord (key : Bytes)
  | getClosestPeers (peerId : PeerId)
  | startProviding (key : Bytes)
  | getProviders (key : Bytes)
  | bootstrap
  | addAddress (peerId : PeerId) (addr : Multiaddr)
  | sendRequest (peerId : PeerId) (data : Bytes)
  | sendResponse (channel : ResponseChannel) (data : Bytes)
  | rendezvousRegister (ns : String) (ttl : UInt64) (peer : PeerId)
  | rendezvousDiscover (ns : Option String) (peer : PeerId)
  | rendezvousUnregister (ns : String) (peer : PeerId)
  | reply (caller : ReplyTo) (value : Reply)
  | send (pid : LocalPid) (message : Term)
  | store (channelId : String) (channel : ResponseChannel)
  | evict (channelId : String)
  | dropRequest (channel : ResponseChannel)

/-- The locals of `swarm_loop`. -/
structure Locals where
  eventHandler : Option LocalPid
  pendingResponses : Dict String (ResponseChannel × Instant)
  channelCounter : Nat

def Locals.init : Locals where
  eventHandler := none
  pendingResponses := ∅
  channelCounter := 0

def keeps (now : Instant) (entry : ResponseChannel × Instant) : Bool :=
  now - entry.2 < responseTtl

def evict (locals : Locals) (now : Instant) : Locals × List Effect :=
  ({ locals with
      pendingResponses :=
        locals.pendingResponses.retain fun _ entry => keeps now entry },
    (locals.pendingResponses.entries.filter fun entry =>
      !keeps now entry.2).map fun entry => .evict entry.1)

section Commands

variable (settings : Settings)

def whenKademlia (effects : List Effect) : List Effect :=
  if settings.kademlia then effects else []

def exportRoutingTable (answers : Answers) : Except Unit (List RoutingEntry) :=
  if settings.kademlia then
    .ok (answers.kbuckets.flatMap fun bucket =>
      bucket.map fun entry =>
        { peerId := entry.1.toBytes
          addresses := entry.2.map Multiaddr.toVec })
  else
    .error ()

/-- The inner loop of an import, over the calls made so far and `count`. -/
def importAddress (peerId : PeerId) (progress : List Effect × Nat)
    (addrBytes : Bytes) : List Effect × Nat :=
  match settings.multiaddrTryFrom addrBytes with
  | none => progress
  | some addr => (progress.1 ++ [.addAddress peerId addr], progress.2 + 1)

def importEntry (progress : List Effect × Nat) (entry : RoutingEntry) :
    List Effect × Nat :=
  match settings.peerIdFromBytes entry.peerId with
  | none => progress
  | some peerId =>
      entry.addresses.foldl (importAddress settings peerId) progress

def importRoutingTable (entries : List RoutingEntry) (reply : ReplyTo) :
    List Effect :=
  if settings.kademlia then
    let (calls, count) := entries.foldl (importEntry settings) ([], 0)
    calls ++ [.reply reply (.imported (.ok count))]
  else
    [.reply reply (.imported (.error ()))]

def sendResponse (locals : Locals) (channelId : String) (data : Bytes) :
    Locals × List Effect :=
  match locals.pendingResponses.lookup channelId with
  | some (channel, _) =>
      ({ locals with
          pendingResponses := locals.pendingResponses.erase channelId },
        [.sendResponse channel data])
  | none => (locals, [])

/-- The commands that neither end the loop nor change its locals. -/
def request (answers : Answers) : Command → List Effect
  | .dial addr => [.dial addr]
  | .publish topic data => [.publish topic data]
  | .subscribe topic => [.subscribe topic]
  | .unsubscribe topic => [.unsubscribe topic]
  | .gossipsubMeshPeers topic reply =>
      [.reply reply (.peers (answers.meshPeers topic))]
  | .gossipsubAllPeers reply => [.reply reply (.peers answers.allPeers)]
  | .gossipsubPeerScore peerId reply =>
      [.reply reply (.score (answers.peerScore peerId))]
  | .connectedPeers reply => [.reply reply (.peers answers.connectedPeers)]
  | .listeningAddrs reply => [.reply reply (.addrs answers.listeners)]
  | .bandwidthStats reply => [.reply reply (.bandwidth 0 0)]
  | .dhtPut key value => whenKademlia settings [.putRecord key value]
  | .dhtGet key => whenKademlia settings [.getRecord key]
  | .dhtFindPeer peerId => whenKademlia settings [.getClosestPeers peerId]
  | .dhtProvide key => whenKademlia settings [.startProviding key]
  | .dhtFindProviders key => whenKademlia settings [.getProviders key]
  | .dhtBootstrap => whenKademlia settings [.bootstrap]
  | .dhtExportRoutingTable reply =>
      [.reply reply (.exported (exportRoutingTable settings answers))]
  | .dhtImportRoutingTable entries reply =>
      importRoutingTable settings entries reply
  | .rpcSendRequest peerId data reply =>
      [.sendRequest peerId data,
        .reply reply (.requestId (answers.sendRequest peerId data))]
  | .listenViaRelay relayAddr => [.listenOn relayAddr]
  | .rendezvousRegister ns ttl rendezvousPeer =>
      if settings.rendezvousClient && settings.namespaceNew ns then
        [.rendezvousRegister ns ttl rendezvousPeer]
      else
        []
  | .rendezvousDiscover ns rendezvousPeer =>
      if settings.rendezvousClient then
        -- an invalid namespace becomes a discovery without one
        [.rendezvousDiscover
          (if settings.namespaceNew ns then some ns else none) rendezvousPeer]
      else
        []
  | .rendezvousUnregister ns rendezvousPeer =>
      if settings.rendezvousClient && settings.namespaceNew ns then
        [.rendezvousUnregister ns rendezvousPeer]
      else
        []
  | .registerEventHandler _ => []
  | .rpcSendResponse _ _ => []
  | .shutdown => []

/-- One received command; `none` stands for the end of the loop. -/
def handleCommand (locals : Locals) (answers : Answers) :
    Option Command → Option (Locals × List Effect)
  | none => none
  | some .shutdown => none
  | some (.registerEventHandler pid) =>
      some ({ locals with eventHandler := some pid }, [])
  | some (.rpcSendResponse channelId data) =>
      some (sendResponse locals channelId data)
  | some command => some (locals, request settings answers command)

end Commands

def announce (locals : Locals) (message : Term) : List Effect :=
  (locals.eventHandler.map fun pid => Effect.send pid message).toList

def channelId (counter : Nat) : String :=
  "ch-" ++ toString counter

def receiveRequest (locals : Locals) (now : Instant) (answers : Answers)
    (peer : PeerId) (requestId : String) (request : Bytes)
    (channel : ResponseChannel) : Locals × List Effect :=
  if locals.pendingResponses.size ≥ maxPendingResponses then
    (locals, [.dropRequest channel])
  else
    let channelCounter := (locals.channelCounter + 1) % 2 ^ 64
    let id := channelId channelCounter
    ({ locals with
        channelCounter
        pendingResponses := locals.pendingResponses.insert id (channel, now) },
      .store id channel ::
        announce locals (Events.sendInboundRequest answers.allocates peer
          requestId id request))

def discoverPeers (settings : Settings) (locals : Locals) (answers : Answers)
    (peers : List (PeerId × Multiaddr)) : List Effect :=
  (peers.flatMap fun pair =>
    whenKademlia settings [.addAddress pair.1 pair.2] ++
      (if settings.mdnsAutoDial && !decide (pair.1 ∈ answers.connectedPeers)
        then [.dialPeer pair.1] else [])) ++
    ((Events.sendPeersDiscovered peers).map (announce locals)).getD []

def handleEvent (settings : Settings) (locals : Locals) (now : Instant)
    (answers : Answers) : SwarmEvent → Locals × List Effect
  | .requestReceived peer requestId request channel =>
      receiveRequest locals now answers peer requestId request channel
  | .responseReceived peer requestId response =>
      (locals, announce locals
        (Events.sendOutboundResponse answers.allocates peer requestId response))
  | .mdnsDiscovered peers =>
      (locals, discoverPeers settings locals answers peers)
  | .mdnsExpired => (locals, [])
  | event =>
      (locals, announce locals
        (Events.handleSwarmEvent answers.allocates event))

def turn (settings : Settings) (locals : Locals) :
    Turn → Option (Locals × List Effect)
  | .tick now => some (evict locals now)
  | .command command answers => handleCommand settings locals answers command
  | .event event now answers =>
      some (handleEvent settings locals now answers event)

/-- The loop together with the channels that libp2p has made so far. A request
always comes with a new one. -/
structure State where
  locals : Locals
  exited : Bool
  channels : List ResponseChannel

def Turn.channel : Turn → Option ResponseChannel
  | .event (.requestReceived _ _ _ channel) _ _ => some channel
  | _ => none

def swarmLoop (settings : Settings) : Machine State Turn (List Effect) where
  init := { locals := Locals.init, exited := false, channels := [] }
  step := fun state next =>
    if state.exited ∨ ∃ channel ∈ next.channel, channel ∈ state.channels then
      none
    else
      let channels := next.channel.toList ++ state.channels
      match turn settings state.locals next with
      | some (locals, effects) => some ({ state with locals, channels }, effects)
      | none => some ({ state with exited := true, channels }, [])

/-- The pairs that an import adds: it skips invalid identifiers with all
their addresses, and invalid addresses alone. -/
def importedPairs (settings : Settings) (entries : List RoutingEntry) :
    List (PeerId × Multiaddr) :=
  entries.flatMap fun entry =>
    match settings.peerIdFromBytes entry.peerId with
    | none => []
    | some peerId =>
        (entry.addresses.filterMap settings.multiaddrTryFrom).map fun addr =>
          (peerId, addr)

def added (progress : List Effect × Nat) (pairs : List (PeerId × Multiaddr)) :
    List Effect × Nat :=
  (progress.1 ++ pairs.map fun pair => .addAddress pair.1 pair.2,
    progress.2 + pairs.length)

theorem added_nil (progress : List Effect × Nat) :
    added progress [] = progress := by
  simp [added]

theorem added_append (progress : List Effect × Nat)
    (first second : List (PeerId × Multiaddr)) :
    added (added progress first) second = added progress (first ++ second) := by
  simp [added, Nat.add_assoc]

theorem foldl_importAddress (settings : Settings) (peerId : PeerId)
    (addresses : List Bytes) (progress : List Effect × Nat) :
    addresses.foldl (importAddress settings peerId) progress =
      added progress ((addresses.filterMap settings.multiaddrTryFrom).map
        fun addr => (peerId, addr)) := by
  induction addresses generalizing progress with
  | nil => exact (added_nil progress).symm
  | cons addrBytes addresses induction =>
      rw [List.foldl_cons, List.filterMap_cons, induction, importAddress]
      cases settings.multiaddrTryFrom addrBytes with
      | none => rfl
      | some addr => exact added_append progress [(peerId, addr)] _

theorem importEntry_eq (settings : Settings) (entry : RoutingEntry)
    (progress : List Effect × Nat) :
    importEntry settings progress entry =
      added progress (importedPairs settings [entry]) := by
  rw [importedPairs, List.flatMap_singleton, importEntry]
  cases settings.peerIdFromBytes entry.peerId with
  | none => exact (added_nil progress).symm
  | some peerId => exact foldl_importAddress settings peerId _ progress

theorem foldl_importEntry (settings : Settings) (entries : List RoutingEntry)
    (progress : List Effect × Nat) :
    entries.foldl (importEntry settings) progress =
      added progress (importedPairs settings entries) := by
  induction entries generalizing progress with
  | nil => exact (added_nil progress).symm
  | cons entry entries induction =>
      have split : importedPairs settings (entry :: entries) =
          importedPairs settings [entry] ++ importedPairs settings entries := by
        simp [importedPairs]
      rw [List.foldl_cons, induction, importEntry_eq, added_append, split]

theorem importRoutingTable_eq (settings : Settings)
    (entries : List RoutingEntry) (reply : ReplyTo) :
    importRoutingTable settings entries reply =
      if settings.kademlia then
        (importedPairs settings entries).map
            (fun pair => .addAddress pair.1 pair.2) ++
          [.reply reply
            (.imported (.ok (importedPairs settings entries).length))]
      else
        [.reply reply (.imported (.error ()))] := by
  rw [importRoutingTable, foldl_importEntry]
  simp only [added, List.nil_append, Nat.zero_add]

end ExLibp2p.Native.SwarmLoop
