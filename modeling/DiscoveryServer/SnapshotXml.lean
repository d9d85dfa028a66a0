import DiscoveryServer.Database
import DiscoveryServer.Library.Xml

/-!
# Snapshots as XML

`Snapshot::to_xml` and `Snapshot::from_xml`, one function for each level of the
tree: snapshot, database, participant item, endpoint. A reader returns `none`
where the source builds a string from a null pointer.

How numbers and GUIDs turn into text is not code of this program, so it is a
parameter (`TextFormat`). The two static clock readings a process starts with
are another (`ProcessClock`): a file is written by one process and read by
another.
-/

namespace DiscoveryServer

open Library

/-- The conversions of attribute values and the stream operators of GUIDs. -/
structure TextFormat where
  xml : XMLUtil
  prefixToStr : GuidPrefix → String
  strToPrefix : String → GuidPrefix
  entityIdToStr : EntityId → String
  strToEntityId : String → EntityId

/-- Attribute values survive (of 64 bits at most, see `XMLUtil.Lossless`), and `operator >>`
inverts `operator <<`. -/
structure TextFormat.Lossless (f : TextFormat) : Prop where
  xml : f.xml.Lossless
  guidPrefix : ∀ p, f.strToPrefix (f.prefixToStr p) = p
  entityId : ∀ e, f.strToEntityId (f.entityIdToStr e) = e

/-- `Snapshot::_system_clock` and `Snapshot::_steady_clock` of a process. -/
structure ProcessClock where
  system : Int
  steady : TimePoint

/-- `duration_cast<milliseconds>` of a duration in nanoseconds. -/
def toMilliseconds (d : Int) : Int := d.tdiv 1000000

/-- A duration of so many milliseconds, in nanoseconds. -/
def milliseconds (n : Int) : Int := n * 1000000

@[simp] theorem toMilliseconds_milliseconds (n : Int) : toMilliseconds (milliseconds n) = n :=
  Int.mul_tdiv_cancel n (by decide)

/-- `getSystemTime`, since the epoch. -/
def ProcessClock.getSystemTime (clock : ProcessClock) (tp : TimePoint) : Int :=
  clock.system + (tp - clock.steady)

/-- `Snapshot sh;`. -/
def Snapshot.default (clock : ProcessClock) : Snapshot where
  databases := ∅
  processStartup := clock.steady
  time := clock.steady
  lastPDPCallback := clock.steady
  lastEDPCallback := clock.steady
  ifSomeone := true
  showLiveliness := false
  des := ""

/-! ## to_xml -/

section ToXml

variable (f : TextFormat)

def setGuid (e : XMLElement) (id : Guid) : XMLElement :=
  (e.setAttribute "guid_prefix" (f.prefixToStr id.guidPrefix)).setAttribute "guid_entity"
    (f.entityIdToStr id.entityId)

/-- A duration, recorded in ms. -/
def setDuration (e : XMLElement) (name : String) (d : Int) : XMLElement :=
  e.setAttribute name (f.xml.int64ToStr (toMilliseconds d))

/-- The element of a reader in the database of `owner`. -/
def writeDataReader (shot : Snapshot) (owner : Guid) (sub : DataReaderDiscoveryItem) : XMLElement :=
  let pSub := XMLElement.new "subscriber"
  let pSub := pSub.setAttribute "type" sub.typeName
  let pSub := pSub.setAttribute "topic" sub.topicName
  let pSub := setGuid f pSub sub.endpointGuid
  let pSub := setDuration f pSub "discovered_timestamp"
    (sub.discoveredTimestamp - shot.processStartup)
  -- only makes sense to show liveliness on this participant endpoints
  if shot.showLiveliness && sub.endpointGuid.guidPrefix = owner.guidPrefix then
    let pSub := pSub.setAttribute "alive_count" (f.xml.intToStr sub.aliveCount)
    pSub.setAttribute "not_alive_count" (f.xml.intToStr sub.notAliveCount)
  else pSub

def writeDataWriter (shot : Snapshot) (pub : DataWriterDiscoveryItem) : XMLElement :=
  let pPub := XMLElement.new "publisher"
  let pPub := pPub.setAttribute "type" pub.typeName
  let pPub := pPub.setAttribute "topic" pub.topicName
  let pPub := setGuid f pPub pub.endpointGuid
  setDuration f pPub "discovered_timestamp" (pub.discoveredTimestamp - shot.processStartup)

def writeParticipantItem (shot : Snapshot) (owner : Guid) (item : ParticipantDiscoveryItem) :
    XMLElement :=
  let pPtdi := XMLElement.new "ptdi"
  let pPtdi := setGuid f pPtdi item.endpointGuid
  let pPtdi := pPtdi.setAttribute "server" (f.xml.boolToStr item.isServer)
  let pPtdi := pPtdi.setAttribute "alive" (f.xml.boolToStr item.isAlive)
  let pPtdi := pPtdi.setAttribute "name" item.participantName
  let pPtdi := setDuration f pPtdi "discovered_timestamp"
    (item.discoveredTimestamp - shot.processStartup)
  let pPtdi := pPtdi.insertEndChildren
    (item.datareaders.toList.map (writeDataReader f shot owner))
  pPtdi.insertEndChildren (item.datawriters.toList.map (writeDataWriter f shot))

def writeDatabase (shot : Snapshot) (database : ParticipantDiscoveryDatabase) : XMLElement :=
  let pPtdb := XMLElement.new "ptdb"
  let pPtdb := setGuid f pPtdb database.endpointGuid
  let pPtdb := pPtdb.setAttribute "name" database.participantName
  pPtdb.insertEndChildren
    (database.items.toList.map (writeParticipantItem f shot database.endpointGuid))

/-- `to_xml`. -/
def Snapshot.toXml (clock : ProcessClock) (shot : Snapshot) (pRoot : XMLElement) : XMLElement :=
  let pRoot := setDuration f pRoot "timestamp" (clock.getSystemTime shot.time)
  let pRoot := setDuration f pRoot "process_time" (shot.time - shot.processStartup)
  let pRoot := setDuration f pRoot "last_pdp_callback_time"
    (shot.lastPDPCallback - shot.processStartup)
  let pRoot := setDuration f pRoot "last_edp_callback_time"
    (shot.lastEDPCallback - shot.processStartup)
  let pRoot := pRoot.setAttribute "someone" (f.xml.boolToStr shot.ifSomeone)
  let pRoot := pRoot.insertEndChild ((XMLElement.new "description").setText shot.des)
  pRoot.insertEndChildren (shot.databases.toList.map (writeDatabase f shot))

end ToXml

/-! ## from_xml -/

section FromXml

/-- A loop that reads an element, inserts the result into a set and collects
whether liveliness info was seen. -/
def insertEach {κ α : Type} [LinearOrder κ] [Keyed κ α] (read : XMLElement → Option (α × Bool)) :
    List XMLElement → OrdSet κ α × Bool → Option (OrdSet κ α × Bool)
  | [], acc => some acc
  | e :: rest, (set, seen) => do
    let (a, s) ← read e
    insertEach read rest (set.insert a, seen || s)

variable (f : TextFormat)

def readGuid (e : XMLElement) : Option Guid := do
  let guidPrefix ← e.attributeValue "guid_prefix"
  let entityId ← e.attributeValue "guid_entity"
  some ⟨f.strToPrefix guidPrefix, f.strToEntityId entityId⟩

/-- A duration recorded in ms. -/
def readDuration (e : XMLElement) (name : String) : Int :=
  milliseconds (e.int64Attribute f.xml name)

/-- A reader, and whether it sets `show_liveliness_`. The second count is only
queried when there is no first. -/
def readDataReader (startup : TimePoint) (pSub : XMLElement) :
    Option (DataReaderDiscoveryItem × Bool) := do
  let guid ← readGuid f pSub
  let type ← pSub.attributeValue "type"
  let topic ← pSub.attributeValue "topic"
  let discovered := startup + readDuration f pSub "discovered_timestamp"
  let (err, alive) := pSub.queryIntAttribute f.xml "alive_count" 0
  if err ≠ .noAttribute then some (⟨guid, type, topic, discovered, alive, 0⟩, true)
  else
    let (err, notAlive) := pSub.queryIntAttribute f.xml "not_alive_count" 0
    some (⟨guid, type, topic, discovered, alive, notAlive⟩, err ≠ .noAttribute)

def readDataWriter (startup : TimePoint) (pPub : XMLElement) :
    Option (DataWriterDiscoveryItem × Bool) := do
  let guid ← readGuid f pPub
  let type ← pPub.attributeValue "type"
  let topic ← pPub.attributeValue "topic"
  some (⟨guid, type, topic, startup + readDuration f pPub "discovered_timestamp"⟩, false)

def readParticipantItem (startup : TimePoint) (pPtdi : XMLElement) :
    Option (ParticipantDiscoveryItem × Bool) := do
  let guid ← readGuid f pPtdi
  let name ← pPtdi.attributeValue "name"
  let server := pPtdi.boolAttribute f.xml "server" false
  let discovered := startup + readDuration f pPtdi "discovered_timestamp"
  let (_, alive) := pPtdi.queryBoolAttribute f.xml "alive" true
  let (subs, seen) ← insertEach (readDataReader f startup) (pPtdi.childElements "subscriber")
    (∅, false)
  let (pubs, seen) ← insertEach (readDataWriter f startup) (pPtdi.childElements "publisher")
    (∅, seen)
  some (⟨guid, server, alive, name, discovered, pubs, subs⟩, seen)

/-- The constructor call passes the GUID alone: the name is not read. -/
def readDatabase (startup : TimePoint) (pPtdb : XMLElement) :
    Option (ParticipantDiscoveryDatabase × Bool) := do
  let guid ← readGuid f pPtdb
  let (items, seen) ← insertEach (readParticipantItem f startup) (pPtdb.childElements "ptdi")
    (∅, false)
  some (⟨guid, "", items⟩, seen)

/-- `from_xml`. -/
def Snapshot.fromXml (clock : ProcessClock) (sh : Snapshot) : Option XMLElement → Option Snapshot
  | none => some sh
  | some pRoot => do
    -- recreate the time_point from the timestamp, counted from the epoch
    let time := readDuration f pRoot "timestamp" - clock.system + clock.steady
    -- the original process startup time for this snapshot
    let startup := time - readDuration f pRoot "process_time"
    let des ← match pRoot.firstChildElement "description" with
      | none => some sh.des
      | some pDescription => pDescription.getText
    let (databases, seen) ← insertEach (readDatabase f startup) (pRoot.childElements "ptdb")
      (sh.databases, sh.showLiveliness)
    some
      { databases := databases
        processStartup := startup
        time := time
        lastPDPCallback := startup + readDuration f pRoot "last_pdp_callback_time"
        lastEDPCallback := startup + readDuration f pRoot "last_edp_callback_time"
        ifSomeone := pRoot.boolAttribute f.xml "someone" true
        showLiveliness := seen
        des := des }

end FromXml

end DiscoveryServer
