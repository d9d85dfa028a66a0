import DiscoveryServer.Guid

/-!
# Discovery items

The records of `DiscoveryItem.h`: data writers and readers, the participant
item that owns them, the database of everything one participant (the
*spokesman*) has discovered, and the snapshot that holds one database for each
spokesman. Sets are ordered by GUID.

`AddEndPoint` and `RemoveEndPoint` are templates over the container they work
on; `EndPointContainer` is that template parameter, with the facts that make it
a container of the item carried as fields.
-/

namespace DiscoveryServer

open Library

/-- `std::chrono::steady_clock::time_point`, in nanoseconds. -/
abbrev TimePoint := Int

/-- Publisher specific info. -/
structure DataWriterDiscoveryItem where
  endpointGuid : Guid
  typeName : String
  topicName : String
  discoveredTimestamp : TimePoint
deriving DecidableEq

/-- Subscriber specific info. -/
structure DataReaderDiscoveryItem where
  endpointGuid : Guid
  typeName : String
  topicName : String
  discoveredTimestamp : TimePoint
  aliveCount : Int
  notAliveCount : Int
deriving DecidableEq

instance : Keyed Guid DataWriterDiscoveryItem := ⟨(·.endpointGuid)⟩

instance : Keyed Guid DataReaderDiscoveryItem := ⟨(·.endpointGuid)⟩

/-- Participant discovery info. `isAlive` is false for a zombie: its death was
reported, the death of its endpoints was not. -/
structure ParticipantDiscoveryItem where
  endpointGuid : Guid
  isServer : Bool
  isAlive : Bool
  participantName : String
  discoveredTimestamp : TimePoint
  datawriters : OrdSet Guid DataWriterDiscoveryItem
  datareaders : OrdSet Guid DataReaderDiscoveryItem
deriving DecidableEq

instance : Keyed Guid ParticipantDiscoveryItem := ⟨(·.endpointGuid)⟩

/-- All discovery info associated with a participant. -/
structure ParticipantDiscoveryDatabase where
  endpointGuid : Guid
  participantName : String
  items : OrdSet Guid ParticipantDiscoveryItem
deriving DecidableEq

instance : Keyed Guid ParticipantDiscoveryDatabase := ⟨(·.endpointGuid)⟩

/-- Discovery info associated with all participants. -/
structure Snapshot where
  databases : OrdSet Guid ParticipantDiscoveryDatabase
  processStartup : TimePoint
  time : TimePoint
  lastPDPCallback : TimePoint
  lastEDPCallback : TimePoint
  ifSomeone : Bool
  showLiveliness : Bool
  des : String
deriving DecidableEq

@[simp] theorem key_dataWriter (d : DataWriterDiscoveryItem) : key d = d.endpointGuid := rfl

@[simp] theorem key_dataReader (d : DataReaderDiscoveryItem) : key d = d.endpointGuid := rfl

@[simp] theorem key_participantItem (it : ParticipantDiscoveryItem) :
    key it = it.endpointGuid := rfl

@[simp] theorem key_database (d : ParticipantDiscoveryDatabase) : key d = d.endpointGuid := rfl

/-! ## Comparisons -/

/-- What the comparison of two endpoints reads. -/
structure EndPointInfo where
  guid : Guid
  typeName : String
  topicName : String
deriving DecidableEq

/-- `DataWriterDiscoveryItem::operator ==`. -/
def DataWriterDiscoveryItem.equal (d p : DataWriterDiscoveryItem) : Bool :=
  d.endpointGuid = p.endpointGuid && d.typeName = p.typeName && d.topicName = p.topicName

/-- `DataReaderDiscoveryItem::operator ==`. -/
def DataReaderDiscoveryItem.equal (d p : DataReaderDiscoveryItem) : Bool :=
  d.endpointGuid = p.endpointGuid && d.typeName = p.typeName && d.topicName = p.topicName

def DataWriterDiscoveryItem.info (d : DataWriterDiscoveryItem) : EndPointInfo :=
  ⟨d.endpointGuid, d.typeName, d.topicName⟩

def DataReaderDiscoveryItem.info (d : DataReaderDiscoveryItem) : EndPointInfo :=
  ⟨d.endpointGuid, d.typeName, d.topicName⟩

theorem DataWriterDiscoveryItem.equal_iff (d p : DataWriterDiscoveryItem) :
    d.equal p = true ↔ d.info = p.info := by
  simp only [equal, info, Bool.and_eq_true, decide_eq_true_eq, EndPointInfo.mk.injEq, and_assoc]

theorem DataReaderDiscoveryItem.equal_iff (d p : DataReaderDiscoveryItem) :
    d.equal p = true ↔ d.info = p.info := by
  simp only [equal, info, Bool.and_eq_true, decide_eq_true_eq, EndPointInfo.mk.injEq, and_assoc]

namespace ParticipantDiscoveryItem

/-- What the comparison of two participant items reads. -/
structure Info where
  guid : Guid
  writers : List EndPointInfo
  readers : List EndPointInfo
deriving DecidableEq

def info (it : ParticipantDiscoveryItem) : Info :=
  ⟨it.endpointGuid, it.datawriters.toList.map (·.info), it.datareaders.toList.map (·.info)⟩

/-- `ParticipantDiscoveryItem::operator !=`. -/
def notEqual (it p : ParticipantDiscoveryItem) : Bool :=
  it.endpointGuid ≠ p.endpointGuid ||
    !it.datawriters.equalBy DataWriterDiscoveryItem.equal p.datawriters ||
    !it.datareaders.equalBy DataReaderDiscoveryItem.equal p.datareaders

theorem notEqual_iff (it p : ParticipantDiscoveryItem) :
    it.notEqual p = true ↔ it.info ≠ p.info := by
  rw [← not_iff_not, Bool.not_eq_true, ne_eq, not_not]
  simp only [notEqual, Bool.or_eq_false_iff, Bool.not_eq_false', decide_eq_false_iff_not, not_not,
    ne_eq, OrdSet.equalBy_iff DataWriterDiscoveryItem.equal_iff,
    OrdSet.equalBy_iff DataReaderDiscoveryItem.equal_iff, info, Info.mk.injEq, and_assoc]

/-- `CountEndpoints`. -/
def countEndpoints (it : ParticipantDiscoveryItem) : Nat :=
  it.datawriters.size + it.datareaders.size

end ParticipantDiscoveryItem

/-! ## The container an endpoint operation works on -/

/-- Which of its two sets an item files an endpoint in. -/
inductive EndPointKind where
  | dataReader
  | dataWriter
deriving DecidableEq

/-- The GUIDs filed in one of the two sets of an item. -/
def ParticipantDiscoveryItem.endPointGuids (it : ParticipantDiscoveryItem) :
    EndPointKind → List Guid
  | .dataReader => it.datareaders.keys
  | .dataWriter => it.datawriters.keys

theorem ParticipantDiscoveryItem.countEndpoints_eq (it : ParticipantDiscoveryItem) :
    it.countEndpoints =
      (it.endPointGuids .dataWriter).length + (it.endPointGuids .dataReader).length := by
  simp only [countEndpoints, endPointGuids, OrdSet.keys, OrdSet.size, List.length_map]

theorem ParticipantDiscoveryItem.countEndpoints_pos {it : ParticipantDiscoveryItem}
    {k : EndPointKind} {e : Guid} (h : e ∈ it.endPointGuids k) : 0 < it.countEndpoints := by
  have hpos := List.length_pos_of_mem h
  rw [it.countEndpoints_eq]
  cases k <;> omega

/-- The member function pointer `T& (ParticipantDiscoveryItem::*m)() const` of the
endpoint templates, with the constructor of `T::value_type`. -/
structure EndPointContainer (ε : Type) [Keyed Guid ε] where
  kind : EndPointKind
  get : ParticipantDiscoveryItem → OrdSet Guid ε
  set : ParticipantDiscoveryItem → OrdSet Guid ε → ParticipantDiscoveryItem
  construct : Guid → String → String → TimePoint → ε
  key_construct : ∀ id type topic tp, key (construct id type topic tp) = id
  keys_get : ∀ it, (get it).keys = it.endPointGuids kind
  endPointGuids_set : ∀ it c k,
    (set it c).endPointGuids k = if k = kind then c.keys else it.endPointGuids k
  endpointGuid_set : ∀ it c, (set it c).endpointGuid = it.endpointGuid
  isAlive_set : ∀ it c, (set it c).isAlive = it.isAlive
  get_stamp : ∀ it tp, get { it with discoveredTimestamp := tp } = get it
  set_stamp : ∀ it tp c, set { it with discoveredTimestamp := tp } c =
    { set it c with discoveredTimestamp := tp }

/-- `&ParticipantDiscoveryItem::getDataReaders`. -/
def getDataReaders : EndPointContainer DataReaderDiscoveryItem where
  kind := .dataReader
  get it := it.datareaders
  set it c := { it with datareaders := c }
  construct id type topic tp := ⟨id, type, topic, tp, 0, 0⟩
  key_construct _ _ _ _ := rfl
  keys_get _ := rfl
  endPointGuids_set _ _ k := by cases k <;> rfl
  endpointGuid_set _ _ := rfl
  isAlive_set _ _ := rfl
  get_stamp _ _ := rfl
  set_stamp _ _ _ := rfl

/-- `&ParticipantDiscoveryItem::getDataWriters`. -/
def getDataWriters : EndPointContainer DataWriterDiscoveryItem where
  kind := .dataWriter
  get it := it.datawriters
  set it c := { it with datawriters := c }
  construct id type topic tp := ⟨id, type, topic, tp⟩
  key_construct _ _ _ _ := rfl
  keys_get _ := rfl
  endPointGuids_set _ _ k := by cases k <;> rfl
  endpointGuid_set _ _ := rfl
  isAlive_set _ _ := rfl
  get_stamp _ _ := rfl
  set_stamp _ _ _ := rfl

end DiscoveryServer
