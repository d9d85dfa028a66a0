import DiscoveryServer.DiscoveryItem

/-!
# Scheduled events

The classes of `LateJoiner.h`: what the configuration asks for at given times.
Events are objects that point at each other, so the manager keeps them in one
list and a pointer is a position in it (`EventPtr`). A creation writes the GUID
it has obtained into the destruction it points at (`setGuid`).
-/

namespace DiscoveryServer

/-- The values `ReaderWriter` takes as a template parameter. -/
inductive ReaderWriter where
  | dataReader
  | dataWriter
deriving DecidableEq, Repr

/-- Where `participant_creation_function` files a new participant. -/
inductive ParticipantRole where
  | server
  | client
  | simple
deriving DecidableEq, Repr

/-- A pointer to an event. -/
abbrev EventPtr := Nat

inductive DiscoveryProtocol where
  | none
  | simple
  | external
  | client
  | server
  | backup
  | superClient
deriving DecidableEq, Repr

/-- `Locator_t`. -/
structure Locator where
  kind : Int
  port : BitVec 32
  address : BitVec 128
deriving DecidableEq

/-- A pointer to a transport descriptor. -/
abbrev TransportPtr := Nat

/-- Of the QoS of a participant, what the configuration file is asked for. -/
structure DomainParticipantQos where
  name : String
  /-- `wire_protocol().prefix`, zero when the framework provides one. -/
  guidPrefix : GuidPrefix := 0
  discoveryProtocol : DiscoveryProtocol := .simple
  metatrafficMulticastLocatorList : List Locator := []
  metatrafficUnicastLocatorList : List Locator := []
  useBuiltinTransports : Bool := true
  userTransports : List TransportPtr := []
deriving DecidableEq

structure DelayedParticipantCreation where
  time : TimePoint
  qos : DomainParticipantQos
  participantCreationFunction : ParticipantRole
  removalEvent : Option EventPtr
  participantGuid : Guid := .unknown
deriving DecidableEq

structure DelayedParticipantDestruction where
  time : TimePoint
  participantId : Guid
deriving DecidableEq

structure DelayedEndpointCreation where
  time : TimePoint
  kind : ReaderWriter
  topicName : String
  typeName : String
  topicProfileName : String
  endpointProfileName : String
  participantGuid : Guid
  linkedDestructionEvent : Option EventPtr
  /-- The creation of the participant the endpoint belongs to. -/
  ownerEvent : Option EventPtr
deriving DecidableEq

structure DelayedEndpointDestruction where
  time : TimePoint
  kind : ReaderWriter
  endpointGuid : Guid := .unknown
deriving DecidableEq

structure DelayedSnapshot where
  time : TimePoint
  description : String
  ifSomeone : Bool
  showLiveliness : Bool
deriving DecidableEq

structure DelayedEnvironmentModification where
  time : TimePoint
  attributes : String × String
deriving DecidableEq

/-- An event, by its class. -/
inductive LateJoinerData where
  | participantCreation (event : DelayedParticipantCreation)
  | participantDestruction (event : DelayedParticipantDestruction)
  | endpointCreation (event : DelayedEndpointCreation)
  | endpointDestruction (event : DelayedEndpointDestruction)
  | snapshot (event : DelayedSnapshot)
  | environmentModification (event : DelayedEnvironmentModification)
deriving DecidableEq

/-- The last known GUID stays when the new one is no GUID. -/
def DelayedParticipantDestruction.setGuid (event : DelayedParticipantDestruction) (id : Guid) :
    DelayedParticipantDestruction :=
  if id ≠ Guid.unknown then { event with participantId := id } else event

/-- An endpoint destruction only knows its linked object GUID after its creation. -/
def DelayedEndpointDestruction.setGuid (event : DelayedEndpointDestruction) (id : Guid) :
    DelayedEndpointDestruction :=
  if event.endpointGuid = Guid.unknown then { event with endpointGuid := id } else event

namespace LateJoinerData

/-- `executionTime`. -/
def executionTime : LateJoinerData → TimePoint
  | participantCreation event => event.time
  | participantDestruction event => event.time
  | endpointCreation event => event.time
  | endpointDestruction event => event.time
  | snapshot event => event.time
  | environmentModification event => event.time

/-- `SetGuid` of the event a creation points at. -/
def setGuid (id : Guid) : LateJoinerData → LateJoinerData
  | participantDestruction event => participantDestruction (event.setGuid id)
  | endpointDestruction event => endpointDestruction (event.setGuid id)
  | event => event

/-- `participant_guid` of a participant creation. -/
def participantGuid? : LateJoinerData → Option Guid
  | participantCreation event => some event.participantGuid
  | _ => none

end LateJoinerData

/-- An arrangement of the events `std::sort` may leave: each event once, in
non-decreasing order of time. Nothing is said about events at the same time. -/
structure Arrangement (events : List LateJoinerData) where
  order : List EventPtr
  perm : order.Perm (List.range events.length)
  sorted : order.Pairwise fun i j =>
    ∀ e ∈ events[i]?, ∀ f ∈ events[j]?, e.executionTime ≤ f.executionTime

/-- The arrangement that keeps events of the same time in their order. -/
def Arrangement.stable (events : List LateJoinerData) : Arrangement events :=
  let time := fun i : EventPtr => (events[i]?.map LateJoinerData.executionTime).getD 0
  let before := fun i j => decide (time i ≤ time j)
  { order := (List.range events.length).mergeSort before
    perm := List.mergeSort_perm _ _
    sorted := by
      have hsorted : (List.mergeSort (List.range events.length) before).Pairwise
          fun i j => before i j := List.pairwise_mergeSort
        (fun i j k hij hjk => by
          simp only [before, decide_eq_true_eq] at hij hjk ⊢
          exact le_trans hij hjk)
        (fun i j => by
          simp only [before, Bool.or_eq_true, decide_eq_true_eq]
          exact le_total _ _)
        (List.range events.length)
      refine hsorted.imp fun {i j} hij e he f hf => ?_
      have hi : time i = e.executionTime := by simp only [time, Option.mem_def.mp he]; rfl
      have hj : time j = f.executionTime := by simp only [time, Option.mem_def.mp hf]; rfl
      rw [← hi, ← hj]
      simpa [before] using hij }

end DiscoveryServer
