import ExLibp2p.Data.Label
import ExLibp2p.Data.SeenCache
import ExLibp2p.Data.SipHash
import ExLibp2p.Native.PeerId

namespace ExLibp2p.Native.Gossipsub

open ExLibp2p.Data

/-! GossipSub with the identifiers that `start_node_inner` configures. The
behaviour and its duplicate cache are libp2p's: a message is turned away if the
cache holds its identifier, and taken otherwise. -/

structure Message where
  source : Option PeerId
  data : Bytes
  sequenceNumber : Option UInt64
  topic : String
  deriving DecidableEq

abbrev MessageId := String

/-- The closure `message_id_fn`. The standard library leaves open what
`DefaultHasher` computes. -/
def messageIdFn (hash : Bytes → UInt64) (message : Message) : MessageId :=
  toString (hash message.data).toNat

inductive Way
  | publish
  | receive

abbrev DuplicateCache := SeenCache Way MessageId

structure Behaviour where
  messageIdFn : Message → MessageId
  localPeerId : PeerId
  duplicateCache : DuplicateCache

def gossipsubBehaviour (hash : Bytes → UInt64) (localPeerId : PeerId)
    (duplicateCache : DuplicateCache) : Behaviour where
  messageIdFn := messageIdFn hash
  localPeerId := localPeerId
  duplicateCache := duplicateCache

/-- A `Command::Publish`, which the behaviour signs and numbers, or a message
of a peer. -/
inductive Traffic
  | publish (topic : String) (data : Bytes) (sequenceNumber : UInt64)
  | receive (message : Message)
  deriving DecidableEq

def Traffic.way : Traffic → Way
  | .publish _ _ _ => .publish
  | .receive _ => .receive

def Traffic.topic : Traffic → String
  | .publish topic _ _ => topic
  | .receive message => message.topic

def Traffic.data : Traffic → Bytes
  | .publish _ data _ => data
  | .receive message => message.data

abbrev History := List (Nat × Traffic)

namespace Behaviour

variable (behaviour : Behaviour)

def messageOf : Traffic → Message
  | .publish topic data sequenceNumber =>
      { source := some behaviour.localPeerId
        data
        sequenceNumber := some sequenceNumber
        topic }
  | .receive message => message

def idOf (traffic : Traffic) : MessageId :=
  behaviour.messageIdFn (behaviour.messageOf traffic)

def offer (entry : Nat × Traffic) : Offer Way MessageId where
  way := entry.2.way
  time := entry.1
  key := behaviour.idOf entry.2

def accepts (history : History) (now : Nat) (traffic : Traffic) : Bool :=
  !behaviour.duplicateCache (history.map behaviour.offer)
    (behaviour.offer (now, traffic))

end Behaviour

def onTopic (topic : String) (history : History) : History :=
  history.filter fun entry => entry.2.topic = topic

/-- No topic has a say in what is accepted on another one. -/
def TopicsIndependent (behaviour : Behaviour) : Prop :=
  ∀ topic first second, onTopic topic first = onTopic topic second →
    ∀ now data sequenceNumber,
      behaviour.accepts first now (.publish topic data sequenceNumber) =
        behaviour.accepts second now (.publish topic data sequenceNumber)

def related (hash : Bytes → UInt64) (topic : String) (data : Bytes)
    (history : History) : History :=
  history.filter fun entry =>
    entry.2.topic = topic ∨ hash entry.2.data = hash data

/-- Topics share what has the same content, and nothing else, as far as the
cache keeps its keys apart. -/
structure ContentShared (hash : Bytes → UInt64) (duplicateCacheTime : Nat)
    (behaviour : Behaviour) : Prop where
  alike : behaviour.duplicateCache.PerKey → ∀ topic data first second,
    related hash topic data first = related hash topic data second →
      ∀ now sequenceNumber,
        behaviour.accepts first now (.publish topic data sequenceNumber) =
          behaviour.accepts second now (.publish topic data sequenceNumber)
  fresh : ∀ topic data history,
    (∀ entry ∈ history, hash entry.2.data ≠ hash data) →
      ∀ now sequenceNumber,
        behaviour.accepts history now (.publish topic data sequenceNumber) =
          true
  dropped : ∀ earlier taken traffic later,
    behaviour.accepts earlier taken traffic = true →
    (∀ entry ∈ later, entry.1 < taken + duplicateCacheTime) →
      ∀ now, now < taken + duplicateCacheTime →
        ∀ topic data sequenceNumber, hash traffic.data = hash data →
          behaviour.accepts (earlier ++ (taken, traffic) :: later) now
            (.publish topic data sequenceNumber) = false

section Contents

variable {hash : Bytes → UInt64} {localPeerId : PeerId}
  {duplicateCache : DuplicateCache} {behaviour : Behaviour}

/-- Neither the topic nor the sender counts. -/
theorem idOf_eq_iff {first second : Traffic}
    (own : behaviour = gossipsubBehaviour hash localPeerId duplicateCache) :
    behaviour.idOf first = behaviour.idOf second ↔
      hash first.data = hash second.data := by
  have byData : ∀ traffic, behaviour.idOf traffic =
      toString (hash traffic.data).toNat := by
    intro traffic
    subst own
    cases traffic with
    | publish topic data sequenceNumber => rfl
    | receive message => rfl
  rw [byData, byData]
  constructor
  · intro same
    exact UInt64.toNat_inj.mp (append_toString_injective "" (congrArg _ same))
  · intro same
    rw [same]

theorem offers_filter_related
    (own : behaviour = gossipsubBehaviour hash localPeerId duplicateCache)
    (topic : String) (traffic : Traffic) (history : History) :
    (history.map behaviour.offer).filter
        (fun entry => entry.key = behaviour.idOf traffic) =
      ((related hash topic traffic.data history).map behaviour.offer).filter
        (fun entry => entry.key = behaviour.idOf traffic) := by
  rw [related, List.filter_map, List.filter_map, List.filter_filter]
  congr 1
  apply List.filter_congr
  intro entry member
  by_cases same : hash entry.2.data = hash traffic.data
  · simp [same]
  · have different : (behaviour.offer entry).key ≠ behaviour.idOf traffic := by
      rw [Behaviour.offer, Ne, idOf_eq_iff own]
      exact same
    simp [different]

theorem accepts_related
    (own : behaviour = gossipsubBehaviour hash localPeerId duplicateCache)
    (perKey : behaviour.duplicateCache.PerKey) (topic : String)
    (traffic : Traffic) (history : History) (now : Nat) :
    behaviour.accepts history now traffic =
      behaviour.accepts (related hash topic traffic.data history) now
        traffic := by
  rw [Behaviour.accepts, Behaviour.accepts,
    perKey (history.map behaviour.offer),
    perKey ((related hash topic traffic.data history).map behaviour.offer)]
  exact congrArg (fun offers =>
      !behaviour.duplicateCache offers (behaviour.offer (now, traffic)))
    (offers_filter_related own topic traffic history)

theorem accepts_of_fresh
    (own : behaviour = gossipsubBehaviour hash localPeerId duplicateCache)
    (onlyOffered : behaviour.duplicateCache.OnlyOffered) {history : History}
    {traffic : Traffic}
    (absent : ∀ entry ∈ history, hash entry.2.data ≠ hash traffic.data)
    (now : Nat) : behaviour.accepts history now traffic = true := by
  cases held : behaviour.duplicateCache (history.map behaviour.offer)
      (behaviour.offer (now, traffic)) with
  | false => rw [Behaviour.accepts, held]; rfl
  | true =>
      obtain ⟨offer, offered, same⟩ := onlyOffered _ _ held
      obtain ⟨entry, member, rfl⟩ := List.mem_map.mp offered
      exact (absent entry member ((idOf_eq_iff own).mp same)).elim

theorem drops_of_accepted {duplicateCacheTime : Nat}
    (own : behaviour = gossipsubBehaviour hash localPeerId duplicateCache)
    (retains : behaviour.duplicateCache.Retains duplicateCacheTime)
    {earlier later : History} {taken now : Nat} {traffic other : Traffic}
    (accepted : behaviour.accepts earlier taken traffic = true)
    (soon : ∀ entry ∈ later, entry.1 < taken + duplicateCacheTime)
    (early : now < taken + duplicateCacheTime)
    (same : hash traffic.data = hash other.data) :
    behaviour.accepts (earlier ++ (taken, traffic) :: later) now other =
      false := by
  have free : behaviour.duplicateCache (earlier.map behaviour.offer)
      (behaviour.offer (taken, traffic)) = false := by
    simpa [Behaviour.accepts] using accepted
  have sameKey : (behaviour.offer (now, other)).key =
      (behaviour.offer (taken, traffic)).key :=
    ((idOf_eq_iff own).mpr same).symm
  have held := retains _ _ (later.map behaviour.offer) _ free sameKey
    (List.forall_mem_map.mpr soon) early
  rw [Behaviour.accepts, List.map_append, List.map_cons, held]
  rfl

/-- What is accepted on a topic depends on that topic and on messages with the
same content, which count on every topic. -/
theorem content_shared (hash : Bytes → UInt64) (localPeerId : PeerId)
    (duplicateCache : DuplicateCache) (duplicateCacheTime : Nat)
    (retains : duplicateCache.Retains duplicateCacheTime)
    (onlyOffered : duplicateCache.OnlyOffered) :
    ContentShared hash duplicateCacheTime
      (gossipsubBehaviour hash localPeerId duplicateCache) where
  alike := by
    intro perKey topic data first second agree now sequenceNumber
    rw [accepts_related rfl perKey topic _ first,
      accepts_related rfl perKey topic _ second]
    exact congrArg (Behaviour.accepts _ · now _) agree
  fresh := by
    intro topic data history absent now sequenceNumber
    exact accepts_of_fresh rfl onlyOffered absent now
  dropped := by
    intro earlier taken traffic later accepted soon now early topic data
      sequenceNumber same
    exact drops_of_accepted rfl retains accepted soon early same

end Contents

/-- `DefaultHasher` over a vector, which writes its length first. -/
def defaultHasher (data : Bytes) : UInt64 :=
  SipHash.hash ((beBytes 8 data.length).reverse ++ data)

def publisher : PeerId where
  multihash := { code := Multihash.sha256, digest := List.replicate 32 11 }
  accepted := .inl rfl

def minute : Nat := 60 * 10 ^ 9

/-- A cache that lets go of each key after a minute. -/
theorem content_shared_lapsing :
    ContentShared defaultHasher minute
        (gossipsubBehaviour defaultHasher publisher
          (SeenCache.lapsing minute)) ∧
      SeenCache.PerKey (SeenCache.lapsing minute : DuplicateCache) :=
  ⟨content_shared defaultHasher publisher (SeenCache.lapsing minute) minute
      SeenCache.lapsing_retains SeenCache.lapsing_onlyOffered,
    SeenCache.lapsing_perKey⟩

/-- A payload that was sent on another topic is dropped on this one. -/
theorem sameData_not_independent :
    (gossipsubBehaviour defaultHasher publisher
        (SeenCache.lapsing minute)).accepts
          [(0, .publish "chat" [112, 105, 110, 103] 1)] 1
          (.publish "news" [112, 105, 110, 103] 2) = false ∧
      ¬ TopicsIndependent (gossipsubBehaviour defaultHasher publisher
        (SeenCache.lapsing minute)) := by
  have dropped : (gossipsubBehaviour defaultHasher publisher
      (SeenCache.lapsing minute)).accepts
        [(0, .publish "chat" [112, 105, 110, 103] 1)] 1
        (.publish "news" [112, 105, 110, 103] 2) = false := by decide
  refine ⟨dropped, ?_⟩
  intro independent
  have same := independent "news" [(0, .publish "chat" [112, 105, 110, 103] 1)]
    [] rfl 1 [112, 105, 110, 103] 2
  rw [dropped] at same
  cases same

end ExLibp2p.Native.Gossipsub
