import DiscoveryServer.DiscoveryItem

/-!
# The discovery database

`DiscoveryItemDatabase` of `DiscoveryItem.cpp`: the image of what every
spokesman has discovered, and the operations the discovery callbacks perform on
it. Each holds `database_mutex` for its whole body, so each is one atomic step.

An operation looks a database up in the image (creating it where the source
does), works on that database, and writes it back through the reference it
holds. The part that works on the database is a function of
`ParticipantDiscoveryDatabase`. `now` is the reading of `steady_clock::now()` a
default constructor argument takes.
-/

namespace DiscoveryServer

open Library

namespace ParticipantDiscoveryDatabase

/-- The item `emplace_hint(it, ptid)` constructs from its default arguments. -/
def defaultItem (now : TimePoint) (ptid : Guid) : ParticipantDiscoveryItem where
  endpointGuid := ptid
  isServer := false
  isAlive := true
  participantName := ""
  discoveredTimestamp := now
  datawriters := ∅
  datareaders := ∅

@[simp] theorem defaultItem_endpointGuid (now : TimePoint) (ptid : Guid) :
    (defaultItem now ptid).endpointGuid = ptid := rfl

/-- `AddParticipant` inside the spokesman's database. The emplaced item takes
the clock for its timestamp; only a revived zombie takes the caller's. -/
def addParticipant (database : ParticipantDiscoveryDatabase) (now : TimePoint) (ptid : Guid)
    (name : String) (discoveredTimestamp : TimePoint) (server : Bool) :
    ParticipantDiscoveryDatabase :=
  match database.items.locate ptid with
  | none =>
    -- add participant: `emplace_hint(it, ptid, name, server)`, which is alive
    { database with
      items := database.items.insert
        { defaultItem now ptid with participantName := name, isServer := server } }
  | some it =>
    -- already there, assert liveliness
    if it.isAlive then database
    else
      { database with
        items := database.items.update
          { it with
            participantName := name
            isAlive := true
            isServer := server
            discoveredTimestamp := discoveredTimestamp } }

/-- `RemoveParticipant(spokesman, ptid)` inside the spokesman's database. -/
def removeParticipant (database : ParticipantDiscoveryDatabase) (ptid : Guid) :
    ParticipantDiscoveryDatabase × Bool :=
  match database.items.locate ptid with
  | none => (database, false)
  | some it =>
    if 0 < it.countEndpoints then
      -- participant death acknowledged but not its owned endpoints
      ({ database with items := database.items.update { it with isAlive := false } }, true)
    else ({ database with items := database.items.erase ptid }, true)

/-- The item `AddEndPoint` files an endpoint of `ptid` under, stored in the
database. The source asks `it == end() || ptid == spokesman` and not
`*it != ptid`: an absent participant below a known one gets the known one. -/
def endPointOwner (database : ParticipantDiscoveryDatabase) (now : TimePoint)
    (spokesman ptid : Guid) : OrdSet Guid ParticipantDiscoveryItem × ParticipantDiscoveryItem :=
  let zombie :=
    -- participant is not there, add a zombie participant
    let items := database.items.insert (defaultItem now ptid)
    let it := { database.items.emplaced (defaultItem now ptid) with isAlive := ptid = spokesman }
    (items.update it, it)
  match database.items.lowerBound ptid with
  | none => zombie
  | some it => if ptid = spokesman then zombie else (database.items, it)

/-- `AddEndPoint` inside the spokesman's database. -/
def addEndPoint {ε : Type} [Keyed Guid ε] (m : EndPointContainer ε)
    (database : ParticipantDiscoveryDatabase) (now : TimePoint) (spokesman ptid id : Guid)
    (typename topicname : String) (discoveredTimestamp : TimePoint) :
    ParticipantDiscoveryDatabase :=
  let (items, it) := database.endPointOwner now spokesman ptid
  let cont := m.get it
  match cont.locate id with
  | none =>
    let sit := m.construct id typename topicname discoveredTimestamp
    { database with items := items.update (m.set it (cont.insert sit)) }
  | some _ => { database with items := items }

/-- `RemoveEndPoint` inside the spokesman's database. -/
def removeEndPoint {ε : Type} [Keyed Guid ε] (m : EndPointContainer ε)
    (database : ParticipantDiscoveryDatabase) (ptid id : Guid) :
    ParticipantDiscoveryDatabase × Bool :=
  match database.items.locate ptid with
  | none => (database, false)
  | some it =>
    match (m.get it).locate id with
    | none => (database, false)
    | some _ =>
      let it := m.set it ((m.get it).erase id)
      if it.countEndpoints = 0 && !it.isAlive then
        -- remove participant if zombie
        ({ database with items := database.items.erase ptid }, true)
      else ({ database with items := database.items.update it }, true)

/-- `UpdateSubLiveliness` inside the database of the reader's own participant. -/
def updateSubLiveliness (database : ParticipantDiscoveryDatabase) (subs : Guid)
    (aliveCount notAliveCount : Int) : ParticipantDiscoveryDatabase :=
  match database.items.locate subs.participant with
  | none => database
  | some it =>
    match it.datareaders.locate subs with
    | none => database
    | some sub =>
      let sub := { sub with aliveCount := aliveCount, notAliveCount := notAliveCount }
      { database with
        items := database.items.update { it with datareaders := it.datareaders.update sub } }

end ParticipantDiscoveryDatabase

namespace Snapshot

/-- `access_snapshot`: the database of a spokesman, emplaced when missing. -/
def accessSnapshot (shot : Snapshot) (id : Guid) (name : String) :
    Snapshot × ParticipantDiscoveryDatabase :=
  match shot.databases.locate id with
  | none =>
    let p : ParticipantDiscoveryDatabase := ⟨id, name, ∅⟩
    ({ shot with databases := shot.databases.insert p }, p)
  | some p => (shot, p)

/-- `operator []`, which emplaces a nameless database when there is none. -/
def subscript (shot : Snapshot) (id : Guid) : Snapshot × ParticipantDiscoveryDatabase :=
  shot.accessSnapshot id ""

/-- `operator [] const`. -/
def subscript? (shot : Snapshot) (id : Guid) : Option ParticipantDiscoveryDatabase :=
  shot.databases.locate id

/-- The image once a database of it has been changed through a reference. -/
def store (shot : Snapshot) (database : ParticipantDiscoveryDatabase) : Snapshot :=
  { shot with databases := shot.databases.update database }

end Snapshot

/-- `DiscoveryItemDatabase`. -/
structure DiscoveryItemDatabase where
  image : Snapshot
deriving DecidableEq

namespace DiscoveryItemDatabase

def addParticipant (db : DiscoveryItemDatabase) (now : TimePoint) (spokesman : Guid)
    (srcName : String) (ptid : Guid) (name : String) (discoveredTimestamp : TimePoint)
    (server : Bool) : DiscoveryItemDatabase × Bool :=
  let (image, database) := db.image.accessSnapshot spokesman srcName
  (⟨image.store (database.addParticipant now ptid name discoveredTimestamp server)⟩, true)

/-- `RemoveParticipant(deceased)`: the spokesman's whole database goes. -/
def removeSpokesman (db : DiscoveryItemDatabase) (deceased : Guid) :
    DiscoveryItemDatabase × Bool :=
  (⟨{ db.image with databases := db.image.databases.erase deceased }⟩,
    (db.image.databases.find? deceased).isSome)

/-- `RemoveParticipant(spokesman, ptid)`. -/
def removeParticipant (db : DiscoveryItemDatabase) (spokesman ptid : Guid) :
    DiscoveryItemDatabase × Bool :=
  let (image, database) := db.image.subscript spokesman
  let (database, found) := database.removeParticipant ptid
  (⟨image.store database⟩, found)

def addEndPoint {ε : Type} [Keyed Guid ε] (m : EndPointContainer ε) (db : DiscoveryItemDatabase)
    (now : TimePoint) (spokesman : Guid) (srcName : String) (ptid id : Guid)
    (typename topicname : String) (discoveredTimestamp : TimePoint) :
    DiscoveryItemDatabase × Bool :=
  let (image, database) := db.image.accessSnapshot spokesman srcName
  (⟨image.store
    (database.addEndPoint m now spokesman ptid id typename topicname discoveredTimestamp)⟩, true)

def removeEndPoint {ε : Type} [Keyed Guid ε] (m : EndPointContainer ε)
    (db : DiscoveryItemDatabase) (spokesman ptid id : Guid) : DiscoveryItemDatabase × Bool :=
  match db.image.databases.find? spokesman with
  | none => (db, false)
  | some _ =>
    let (image, database) := db.image.subscript spokesman
    let (database, found) := database.removeEndPoint m ptid id
    (⟨image.store database⟩, found)

def addDataReader (db : DiscoveryItemDatabase) (now : TimePoint) (spokesman : Guid)
    (srcName : String) (ptid sid : Guid) (typename topicname : String)
    (discoveredTimestamp : TimePoint) : DiscoveryItemDatabase × Bool :=
  db.addEndPoint getDataReaders now spokesman srcName ptid sid typename topicname
    discoveredTimestamp

def removeDataReader (db : DiscoveryItemDatabase) (spokesman ptid sid : Guid) :
    DiscoveryItemDatabase × Bool :=
  db.removeEndPoint getDataReaders spokesman ptid sid

def addDataWriter (db : DiscoveryItemDatabase) (now : TimePoint) (spokesman : Guid)
    (srcName : String) (ptid pid : Guid) (typename topicname : String)
    (discoveredTimestamp : TimePoint) : DiscoveryItemDatabase × Bool :=
  db.addEndPoint getDataWriters now spokesman srcName ptid pid typename topicname
    discoveredTimestamp

def removeDataWriter (db : DiscoveryItemDatabase) (spokesman ptid pid : Guid) :
    DiscoveryItemDatabase × Bool :=
  db.removeEndPoint getDataWriters spokesman ptid pid

def updateSubLiveliness (db : DiscoveryItemDatabase) (subs : Guid)
    (aliveCount notAliveCount : Int) : DiscoveryItemDatabase :=
  match db.image.databases.find? subs.participant with
  | none => db
  | some _ =>
    let (image, database) := db.image.subscript subs.participant
    ⟨image.store (database.updateSubLiveliness subs aliveCount notAliveCount)⟩

end DiscoveryItemDatabase

/-! ## Histories -/

/-- A call of one of the public operations, with its arguments. -/
inductive Operation where
  | addParticipant (spokesman : Guid) (srcName : String) (ptid : Guid) (name : String)
      (discoveredTimestamp : TimePoint) (server : Bool)
  | removeSpokesman (deceased : Guid)
  | removeParticipant (spokesman ptid : Guid)
  | addDataReader (spokesman : Guid) (srcName : String) (ptid sid : Guid)
      (typename topicname : String) (discoveredTimestamp : TimePoint)
  | addDataWriter (spokesman : Guid) (srcName : String) (ptid pid : Guid)
      (typename topicname : String) (discoveredTimestamp : TimePoint)
  | removeDataReader (spokesman ptid sid : Guid)
  | removeDataWriter (spokesman ptid pid : Guid)
  | updateSubLiveliness (subs : Guid) (aliveCount notAliveCount : Int)
deriving DecidableEq

/-- A call together with the clock reading taken inside it. -/
structure Call where
  now : TimePoint
  op : Operation
deriving DecidableEq

namespace DiscoveryItemDatabase

/-- The database after one call. -/
def step (db : DiscoveryItemDatabase) (c : Call) : DiscoveryItemDatabase :=
  match c.op with
  | .addParticipant s src p name tp server => (db.addParticipant c.now s src p name tp server).1
  | .removeSpokesman s => (db.removeSpokesman s).1
  | .removeParticipant s p => (db.removeParticipant s p).1
  | .addDataReader s src p e type topic tp => (db.addDataReader c.now s src p e type topic tp).1
  | .addDataWriter s src p e type topic tp => (db.addDataWriter c.now s src p e type topic tp).1
  | .removeDataReader s p e => (db.removeDataReader s p e).1
  | .removeDataWriter s p e => (db.removeDataWriter s p e).1
  | .updateSubLiveliness r a n => db.updateSubLiveliness r a n

/-- The constructor: an image without databases, `now` and `now'` being its two
clock readings and `steadyClock` the static `Snapshot::_steady_clock`. -/
def init (steadyClock now now' : TimePoint) : DiscoveryItemDatabase where
  image :=
    { databases := ∅
      processStartup := steadyClock
      time := now
      lastPDPCallback := now'
      lastEDPCallback := steadyClock
      ifSomeone := true
      showLiveliness := false
      des := "" }

end DiscoveryItemDatabase

end DiscoveryServer
