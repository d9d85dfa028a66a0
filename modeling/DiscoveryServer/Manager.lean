import DiscoveryServer.Database
import DiscoveryServer.LateJoiner
import DiscoveryServer.Library.Loop
import DiscoveryServer.Library.OrdMap
import Mathlib.Data.List.TakeWhile

/-!
# The manager

`DiscoveryServerManager`: the participants it runs by role, what each of them
has created (`entityMap`), the endpoints by GUID, the discovery database, the
scheduled events and the snapshots taken. Fast DDS objects are handles; a null
pointer is `none`, and reading `m[k]` of a `std::map` leaves an entry behind.

The methods that call Fast DDS act on a `World`: the manager together with the
calls made so far.
-/

namespace DiscoveryServer

open Library

/-! ## Fast DDS objects -/

/-- A `DomainParticipant`: the object, its `guid()` and `get_qos().name()`. -/
structure DomainParticipant where
  id : Nat
  guid : Guid
  name : String
deriving DecidableEq

/-- A `Subscriber` or a `Publisher`, and the participant it belongs to. -/
structure PubSub where
  kind : ReaderWriter
  participant : DomainParticipant
deriving DecidableEq

/-- A `Topic`, with `get_name()` and `get_type_name()`. -/
structure Topic where
  name : String
  typeName : String
deriving DecidableEq

/-- A `DataReader` or `DataWriter`. Its participant is the one of the
`Subscriber` or `Publisher` it was created on. -/
structure Endpoint where
  id : Nat
  kind : ReaderWriter
  guid : Guid
  participant : DomainParticipant
deriving DecidableEq

/-- The calls the manager makes on Fast DDS objects. -/
inductive DdsCall where
  | createParticipant (p : DomainParticipant)
  | registerType (p : DomainParticipant)
  | createTopic (p : DomainParticipant) (name typeName : String) (profileName : Option String)
      (result : Option Topic)
  | createEndpoint (pubsub : PubSub) (topic : Option Topic) (profileName : String)
      (result : Option Endpoint)
  /-- A getter called on an endpoint. -/
  | useEndpoint (e : Endpoint)
  | deleteEndpoint (e : Endpoint)
  /-- `set_listener(nullptr)`. -/
  | clearListener (p : DomainParticipant)
  | deleteContainedEntities (p : DomainParticipant)
  | deleteParticipant (p : DomainParticipant)
deriving DecidableEq

/-! ## The manager's data -/

/-- `ParticipantCreatedEntityInfo`; `registeredTopics` is only ever read through
`operator []`, for which an absent topic is a null one. -/
structure ParticipantCreatedEntityInfo where
  participant : Option DomainParticipant := none
  publisher : Option PubSub := none
  publisherTopic : Option Topic := none
  subscriber : Option PubSub := none
  subscriberTopic : Option Topic := none
  registeredTopics : String → Option Topic := fun _ => none

structure DiscoveryServerManager where
  servers : OrdMap Guid DomainParticipant
  clients : OrdMap Guid DomainParticipant
  simples : OrdMap Guid DomainParticipant
  entityMap : OrdMap Guid ParticipantCreatedEntityInfo
  dataReaders : OrdMap Guid Endpoint
  dataWriters : OrdMap Guid Endpoint
  state : DiscoveryItemDatabase
  events : List LateJoinerData
  snapshots : List Snapshot
  noCallbacks : Bool
  autoShutdown : Bool
  correctlyCreated : Bool
  validate : Bool
  snapshotsOutputFile : String
  lastPDPCallback : TimePoint
  lastEDPCallback : TimePoint

/-- The manager, the calls it has made, the latest first, and what it has written into
the environment file; `nextId` tells the next object apart. -/
structure World where
  manager : DiscoveryServerManager
  nextId : Nat
  calls : List DdsCall
  environmentFile : Option (String × String) := none

namespace ParticipantCreatedEntityInfo

/-- `info.subscriber` or `info.publisher`. -/
def pubSub (info : ParticipantCreatedEntityInfo) : ReaderWriter → Option PubSub
  | .dataReader => info.subscriber
  | .dataWriter => info.publisher

/-- `info.subscriberTopic = t` or `info.publisherTopic = t`. -/
def setTopic (info : ParticipantCreatedEntityInfo) (kind : ReaderWriter) (t : Topic) :
    ParticipantCreatedEntityInfo :=
  match kind with
  | .dataReader => { info with subscriberTopic := some t }
  | .dataWriter => { info with publisherTopic := some t }

end ParticipantCreatedEntityInfo

namespace DiscoveryServerManager

/-- The manager as the constructor's member initializers leave it. -/
def initial (steadyClock now now' : TimePoint) : DiscoveryServerManager where
  servers := ∅
  clients := ∅
  simples := ∅
  entityMap := ∅
  dataReaders := ∅
  dataWriters := ∅
  state := .init steadyClock now now'
  events := []
  snapshots := []
  noCallbacks := false
  autoShutdown := true
  correctlyCreated := false
  validate := false
  snapshotsOutputFile := ""
  lastPDPCallback := steadyClock
  lastEDPCallback := steadyClock

/-- `default_topic_description`. -/
def defaultTopicDescription : Topic := ⟨"HelloWorldTopic", "HelloWorld"⟩

/-! ## Participants -/

def addServer (m : DiscoveryServerManager) (s : DomainParticipant) : DiscoveryServerManager :=
  { m with servers := m.servers.set s.guid s }

def addClient (m : DiscoveryServerManager) (c : DomainParticipant) : DiscoveryServerManager :=
  { m with clients := m.clients.set c.guid c }

def addSimple (m : DiscoveryServerManager) (s : DomainParticipant) : DiscoveryServerManager :=
  { m with simples := m.simples.set s.guid s }

/-- The participants of a role. -/
def participants (m : DiscoveryServerManager) : ParticipantRole → OrdMap Guid DomainParticipant
  | .server => m.servers
  | .client => m.clients
  | .simple => m.simples

/-- The participant filed under a GUID: first in clients. -/
def filed (m : DiscoveryServerManager) (id : Guid) : Option DomainParticipant :=
  match m.clients.get? id with
  | some p => some p
  | none =>
    match m.servers.get? id with
    | some p => some p
    | none => m.simples.get? id

/-- `getParticipant`: the entity map comes before the roles, and an entry without
a participant hides them. -/
def getParticipant (m : DiscoveryServerManager) (id : Guid) : Option DomainParticipant :=
  match m.entityMap.get? id with
  | some info => info.participant
  | none => m.filed id

/-- Erase the participant from the first map that files it. -/
def unfile (m : DiscoveryServerManager) (id : Guid) : DiscoveryServerManager :=
  match m.clients.get? id with
  | some _ => { m with clients := m.clients.erase id }
  | none =>
    match m.servers.get? id with
    | some _ => { m with servers := m.servers.erase id }
    | none => { m with simples := m.simples.erase id }

/-- The endpoints of the participants with another prefix. -/
def purge (id : Guid) (endpoints : OrdMap Guid Endpoint) : OrdMap Guid Endpoint :=
  endpoints.filter fun it => ¬ id.guidPrefix = it.1.guidPrefix

/-- `removeParticipant`: update database. -/
def removeDatabase (m : DiscoveryServerManager) (id : Guid) : DiscoveryServerManager :=
  { m with state := (m.state.removeSpokesman id).1 }

/-- `removeParticipant` from there: remove any related datareaders/writers, and
the participant itself. -/
def removeEntities (m : DiscoveryServerManager) (id : Guid) :
    DiscoveryServerManager × Option DomainParticipant :=
  let m := { m with dataWriters := purge id m.dataWriters }
  let m := { m with dataReaders := purge id m.dataReaders }
  (m.unfile id, m.filed id)

/-- `removeParticipant`. -/
def removeParticipant (m : DiscoveryServerManager) (id : Guid) :
    DiscoveryServerManager × Option DomainParticipant :=
  (m.removeDatabase id).removeEntities id

/-! ## Endpoints -/

/-- `data_readers` or `data_writers`. -/
def endpoints (m : DiscoveryServerManager) : ReaderWriter → OrdMap Guid Endpoint
  | .dataReader => m.dataReaders
  | .dataWriter => m.dataWriters

def setEndpoints (m : DiscoveryServerManager) (kind : ReaderWriter)
    (endpoints : OrdMap Guid Endpoint) : DiscoveryServerManager :=
  match kind with
  | .dataReader => { m with dataReaders := endpoints }
  | .dataWriter => { m with dataWriters := endpoints }

def addEndpoint (kind : ReaderWriter) (m : DiscoveryServerManager) (e : Option Endpoint) :
    DiscoveryServerManager :=
  match e with
  | none => m
  | some e => m.setEndpoints kind ((m.endpoints kind).set e.guid e)

def addDataReader := addEndpoint .dataReader

def addDataWriter := addEndpoint .dataWriter

def removeEndpoint (kind : ReaderWriter) (m : DiscoveryServerManager) (id : Guid) :
    DiscoveryServerManager × Option Endpoint :=
  match (m.endpoints kind).get? id with
  | none => (m, none)
  | some e => (m.setEndpoints kind ((m.endpoints kind).erase id), some e)

def removeSubscriber := removeEndpoint .dataReader

def removePublisher := removeEndpoint .dataWriter

/-! ## What participants have created -/

/-- The entry under a GUID, one without anything where there is none. -/
def info (m : DiscoveryServerManager) (id : Guid) : ParticipantCreatedEntityInfo :=
  (m.entityMap.get? id).getD {}

/-- The manager after `entity_map[id]` has been read. -/
def readInfo (m : DiscoveryServerManager) (id : Guid) : DiscoveryServerManager :=
  { m with entityMap := m.entityMap.touch id {} }

/-- `entity_map[guid] = info`. -/
def setParticipantInfo (m : DiscoveryServerManager) (guid : Guid)
    (info : ParticipantCreatedEntityInfo) : DiscoveryServerManager :=
  { m with entityMap := m.entityMap.set guid info }

def getPubSubEntityFromParticipantGuid (kind : ReaderWriter) (m : DiscoveryServerManager)
    (id : Guid) : DiscoveryServerManager × Option PubSub :=
  (m.readInfo id, (m.info id).pubSub kind)

def setParticipantTopic (m : DiscoveryServerManager) (p : Option DomainParticipant)
    (t : Option Topic) : DiscoveryServerManager :=
  match p, t with
  | some p, some t =>
    match m.entityMap.get? p.guid with
    | none => m
    | some info => m.setParticipantInfo p.guid
      { info with registeredTopics := Function.update info.registeredTopics t.name (some t) }
  | _, _ => m

def getParticipantTopicByName (m : DiscoveryServerManager) (p : Option DomainParticipant)
    (name : String) : Option Topic :=
  match p with
  | none => none
  | some p =>
    match m.entityMap.get? p.guid with
    | none => none
    | some info => info.registeredTopics name

def setDomainEntityTopic (m : DiscoveryServerManager) (entity : Option Endpoint)
    (t : Option Topic) : DiscoveryServerManager :=
  match entity, t with
  | some entity, some t =>
    m.setParticipantInfo entity.participant.guid
      ((m.info entity.participant.guid).setTopic entity.kind t)
  | _, _ => m

/-! ## Snapshots -/

/-- `std::mismatch` of participants and databases by GUID. -/
def mismatch : List Guid → List ParticipantDiscoveryDatabase →
    List Guid × List ParticipantDiscoveryDatabase
  | p :: ps, d :: ds => if p = d.endpointGuid then mismatch ps ds else (p :: ps, d :: ds)
  | ps, ds => (ps, ds)

theorem mismatch_length_le (ps : List Guid) (ds : List ParticipantDiscoveryDatabase) :
    (mismatch ps ds).1.length ≤ ps.length := by
  fun_induction mismatch ps ds with
  | case1 ps d ds ih => exact ih.trans (Nat.le_succ _)
  | case2 => exact le_rfl
  | case3 => exact le_rfl

/-- The databases from the one `emplace_hint` returns an iterator to. -/
def fromDatabase (shot : Snapshot) (id : Guid) : List ParticipantDiscoveryDatabase :=
  shot.databases.toList.dropWhile fun d => d.endpointGuid ≠ id

/-- A pass of the loop over the participants from `res.first` on. -/
def isolatedPass : List Guid × Snapshot → (List Guid × Snapshot) ⊕ Snapshot
  | ([], shot) => .inr shot
  | (id :: ids, shot) =>
    -- the participant hasn't any discovery info in this snapshot
    let shot := { shot with databases := shot.databases.insert ⟨id, "", ∅⟩ }
    .inl ((mismatch (id :: ids) (fromDatabase shot id)).1, shot)

/-- The iterator `emplace_hint` returns stands at the GUID it was given. -/
theorem fromDatabase_insert (shot : Snapshot) (d : ParticipantDiscoveryDatabase) :
    ∃ it ds, fromDatabase { shot with databases := shot.databases.insert d } d.endpointGuid =
      it :: ds ∧ it.endpointGuid = d.endpointGuid := by
  have hsome : ((shot.databases.insert d).find? d.endpointGuid).isSome := by
    rw [OrdSet.find?_insert, key_database, if_pos rfl]
    rfl
  obtain ⟨it, hit⟩ := Option.isSome_iff_exists.mp hsome
  have hkey : it.endpointGuid = d.endpointGuid := OrdSet.find?_key hit
  unfold fromDatabase
  cases hl : (shot.databases.insert d).toList.dropWhile
      fun x => x.endpointGuid ≠ d.endpointGuid with
  | nil =>
    rw [List.dropWhile_eq_nil_iff] at hl
    exact absurd hkey (by simpa using hl it (OrdSet.find?_mem hit))
  | cons x ds =>
    refine ⟨x, ds, rfl, ?_⟩
    have hhead := List.head?_dropWhile_not (fun x => x.endpointGuid ≠ d.endpointGuid)
      (shot.databases.insert d).toList
    rw [hl] at hhead
    simpa using hhead

/-- The loop of `takeSnapshot`: every participant without a database gets one. -/
def addIsolated : Loop (List Guid × Snapshot) Snapshot where
  body := isolatedPass
  measure := fun s => s.1.length
  decreases := by
    rintro ⟨ids, shot⟩ s' h
    cases ids with
    | nil => cases h
    | cons id ids =>
      obtain ⟨it, ds, hds, hkey⟩ := fromDatabase_insert shot ⟨id, "", ∅⟩
      dsimp only at hds hkey
      cases h
      dsimp only
      rw [hds, mismatch, if_pos hkey.symm]
      exact Nat.lt_succ_of_le (mismatch_length_le ids ds)

/-- `takeSnapshot` at a time `tp`. -/
def takeSnapshot (m : DiscoveryServerManager) (tp : TimePoint) (desc : String)
    (someone showLiveliness : Bool) : DiscoveryServerManager × Snapshot :=
  let shot := { m.state.image with
    time := tp
    lastPDPCallback := m.lastPDPCallback
    lastEDPCallback := m.lastEDPCallback
    des := desc
    ifSomeone := someone
    showLiveliness := showLiveliness }
  -- add any simple, client or server isolated information
  let temp := (m.servers.insertAll m.clients.toList).insertAll m.simples.toList
  let shot := addIsolated.run ((mismatch temp.keys shot.databases.toList).1, shot)
  ({ m with snapshots := m.snapshots ++ [shot] }, shot)

/-! ## Events -/

/-- A write through a pointer to an event. -/
def modifyEvent (m : DiscoveryServerManager) (ptr : EventPtr)
    (f : LateJoinerData → LateJoinerData) : DiscoveryServerManager :=
  { m with events := m.events.modify ptr f }

/-- `p->SetGuid(id)` where `p` may be null. -/
def setGuid (m : DiscoveryServerManager) (p : Option EventPtr) (id : Guid) :
    DiscoveryServerManager :=
  match p with
  | none => m
  | some ptr => m.modifyEvent ptr (LateJoinerData.setGuid id)

end DiscoveryServerManager

end DiscoveryServer
