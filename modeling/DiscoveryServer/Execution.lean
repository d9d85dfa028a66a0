import DiscoveryServer.Library.Run
import DiscoveryServer.Manager

/-!
# Executing events

What the events do to the manager and which calls they make on Fast DDS. The
answers of Fast DDS to the calls of one event are a `Reply`; an event that calls
a method of a null object has no next world.
-/

namespace DiscoveryServer

open Library

/-- What Fast DDS answers while an event executes, and the clock reading taken. -/
structure Reply where
  /-- The GUID of the participant `create_participant` returns. -/
  participant : Option Guid
  publisher : Bool := true
  subscriber : Bool := true
  topic : Bool := true
  /-- The entity id of the endpoint that is created. -/
  endpoint : Option EntityId := none
  now : TimePoint := 0
deriving DecidableEq

/-- The method `participant_creation_function` points at. -/
def ParticipantRole.creationFunction : ParticipantRole → DiscoveryServerManager →
    DomainParticipant → DiscoveryServerManager
  | .server => DiscoveryServerManager.addServer
  | .client => DiscoveryServerManager.addClient
  | .simple => DiscoveryServerManager.addSimple

namespace LateJoinerDataTraits

def addEndpointFunction : ReaderWriter → DiscoveryServerManager → Option Endpoint →
    DiscoveryServerManager
  | .dataReader => DiscoveryServerManager.addDataReader
  | .dataWriter => DiscoveryServerManager.addDataWriter

def retrieveEndpointFunction : ReaderWriter → DiscoveryServerManager → Guid →
    DiscoveryServerManager × Option Endpoint
  | .dataReader => DiscoveryServerManager.removeSubscriber
  | .dataWriter => DiscoveryServerManager.removePublisher

end LateJoinerDataTraits

namespace World

/-- The world after a call. -/
def call (w : World) (c : DdsCall) : World := { w with calls := c :: w.calls }

/-- The world with a manager that has made no call. -/
def withManager (w : World) (m : DiscoveryServerManager) : World := { w with manager := m }

/-- `create_participant` returning a participant. -/
def createParticipant (w : World) (guid : Guid) (qos : DomainParticipantQos) :
    World × DomainParticipant :=
  let p : DomainParticipant := ⟨w.nextId, guid, qos.name⟩
  ({ w.call (.createParticipant p) with nextId := w.nextId + 1 }, p)

/-- `deleteParticipant`. -/
def deleteParticipant (w : World) (participant : Option DomainParticipant) : World :=
  match participant with
  | none => w
  | some p =>
    let w := w.call (.clearListener p)
    let w := w.withManager { w.manager with entityMap := w.manager.entityMap.erase p.guid }
    let w := w.call (.deleteContainedEntities p)
    w.call (.deleteParticipant p)

/-- `deleteDataReader` and `deleteDataWriter`. -/
def deleteEndpoint (kind : ReaderWriter) (w : World) (e : Option Endpoint) : World :=
  match e with
  | none => w
  | some e =>
    -- `dr->get_subscriber()->get_participant()->guid()`
    let w := w.call (.useEndpoint e)
    let sub := (w.manager.info e.participant.guid).pubSub kind
    let w := w.withManager (w.manager.readInfo e.participant.guid)
    match sub with
    | none => w
    | some _ => w.call (.deleteEndpoint e)

def deleteDataReader := deleteEndpoint .dataReader

def deleteDataWriter := deleteEndpoint .dataWriter

/-- The topic of a participant, created with the given profile when the
participant has none of that name. -/
def participantTopic (w : World) (part : DomainParticipant) (name typeName : String)
    (profileName : Option String) (reply : Reply) : World × Option Topic :=
  match w.manager.getParticipantTopicByName (some part) name with
  | some topic => (w, some topic)
  | none =>
    let topic := if reply.topic then some (Topic.mk name typeName) else none
    let w := w.call (.createTopic part name typeName profileName topic)
    (w.withManager (w.manager.setParticipantTopic (some part) topic), topic)

/-- `createEndpoint` on a publisher or subscriber. -/
def createEndpoint (w : World) (kind : ReaderWriter) (pubsub : PubSub) (topic : Option Topic)
    (profileName : String) (reply : Reply) : World × Option Endpoint :=
  let endpoint := reply.endpoint.map fun entityId =>
    Endpoint.mk w.nextId kind ⟨pubsub.participant.guid.guidPrefix, entityId⟩ pubsub.participant
  ({ w.call (.createEndpoint pubsub topic profileName endpoint) with nextId := w.nextId + 1 },
    endpoint)

end World

/-! ## The events -/

namespace LateJoinerDataTraits

def removeEndpointFunction : ReaderWriter → World → Option Endpoint → World
  | .dataReader => World.deleteDataReader
  | .dataWriter => World.deleteDataWriter

end LateJoinerDataTraits

/-- `DelayedParticipantCreation::operator ()` of the event at `this`. -/
def DelayedParticipantCreation.execute (this : EventPtr) (event : DelayedParticipantCreation)
    (reply : Reply) (w : World) : Option World :=
  match reply.participant with
  | none => none -- `p->create_publisher` on the null pointer
  | some guid =>
    let (w, p) := w.createParticipant guid event.qos
    let info : ParticipantCreatedEntityInfo :=
      { participant := some p
        publisher := if reply.publisher then some ⟨.dataWriter, p⟩ else none
        subscriber := if reply.subscriber then some ⟨.dataReader, p⟩ else none }
    let m := event.participantCreationFunction.creationFunction w.manager p
    let m := m.modifyEvent this fun _ =>
      .participantCreation { event with participantGuid := p.guid }
    -- update the associated DelayedParticipantDestruction
    let m := m.setGuid event.removalEvent p.guid
    some (w.withManager (m.setParticipantInfo p.guid info))

/-- `DelayedParticipantDestruction::operator ()`. -/
def DelayedParticipantDestruction.execute (event : DelayedParticipantDestruction) (w : World) :
    World :=
  let (m, p) := w.manager.removeParticipant event.participantId
  (w.withManager m).deleteParticipant p

/-- The participant an endpoint is created for; the owner is asked for after
`entity_map` has been read for the publisher or subscriber. -/
def DelayedEndpointCreation.part (event : DelayedEndpointCreation) (m : DiscoveryServerManager) :
    Option DomainParticipant :=
  match m.getParticipant event.participantGuid with
  | some part => some part
  | none =>
    match event.ownerEvent with
    | none => none
    | some owner =>
      (m.events[owner]?.bind LateJoinerData.participantGuid?).bind
        (m.readInfo event.participantGuid).getParticipant

/-- The topic part of `DelayedEndpointCreation::operator ()`. -/
def DelayedEndpointCreation.topic (event : DelayedEndpointCreation) (reply : Reply) (w : World)
    (part : DomainParticipant) : World × Option Topic :=
  -- if the topic is not defined, use builtin default topic (HelloWorld)
  if event.typeName = "UNDEF" then
    w.participantTopic part DiscoveryServerManager.defaultTopicDescription.name
      DiscoveryServerManager.defaultTopicDescription.typeName none reply
  else
    w.participantTopic part event.topicName event.typeName (some event.topicProfileName) reply

/-- `DelayedEndpointCreation::operator ()`. -/
def DelayedEndpointCreation.execute (event : DelayedEndpointCreation) (reply : Reply)
    (w : World) : Option World :=
  let (m, pubsub) :=
    w.manager.getPubSubEntityFromParticipantGuid event.kind event.participantGuid
  match event.part w.manager with
  | none => some (w.withManager m) -- invalid participant
  | some part =>
    let w := (w.withManager m).call (.registerType part)
    let (w, topic) := event.topic reply w part
    match pubsub with
    | none => none -- `create_datareader` or `create_datawriter` on the null pointer
    | some pubsub =>
      let (w, endpoint) :=
        w.createEndpoint event.kind pubsub topic event.endpointProfileName reply
      let m := w.manager.setDomainEntityTopic endpoint topic
      match endpoint with
      | none => some (w.withManager m)
      | some endpoint =>
        -- update the associated destruction if exists
        let m := m.setGuid event.linkedDestructionEvent endpoint.guid
        some (w.withManager (LateJoinerDataTraits.addEndpointFunction event.kind m (some endpoint)))

/-- `DelayedEndpointDestruction::operator ()`. -/
def DelayedEndpointDestruction.execute (event : DelayedEndpointDestruction) (w : World) : World :=
  let (m, endpoint) :=
    LateJoinerDataTraits.retrieveEndpointFunction event.kind w.manager event.endpointGuid
  match endpoint with
  | none => w.withManager m
  | some e =>
    let w := (w.withManager m).call (.useEndpoint e) -- `endpoint->guid()`
    LateJoinerDataTraits.removeEndpointFunction event.kind w (some e)

/-- `DelayedSnapshot::operator ()`. -/
def DelayedSnapshot.execute (event : DelayedSnapshot) (reply : Reply) (w : World) : World :=
  w.withManager
    (w.manager.takeSnapshot reply.now event.description event.ifSomeone event.showLiveliness).1

/-- `DelayedEnvironmentModification::operator ()`, which is only scheduled where there is
an environment file. -/
def DelayedEnvironmentModification.execute (event : DelayedEnvironmentModification) (w : World) :
    World :=
  { w with environmentFile := some event.attributes }

namespace World

/-- An event is executed and Fast DDS answers `step.2`. -/
def execute (w : World) (step : EventPtr × Reply) : Option World :=
  match w.manager.events[step.1]? with
  | none => none -- no event
  | some (.participantCreation event) => event.execute step.1 step.2 w
  | some (.participantDestruction event) => some (event.execute w)
  | some (.endpointCreation event) => event.execute step.2 w
  | some (.endpointDestruction event) => some (event.execute w)
  | some (.snapshot event) => some (event.execute step.2 w)
  | some (.environmentModification event) => some (event.execute w)

/-- The events executed one after the other. -/
def executeAll (w : World) (steps : List (EventPtr × Reply)) : Option World :=
  run? execute w steps

/-- `runEvents`: the world afterwards and what is printed. -/
def runEvents (w : World) (sort : Arrangement w.manager.events) (reply : EventPtr → Reply) :
    Option (World × List String) :=
  match w.executeAll (sort.order.map fun ptr => (ptr, reply ptr)) with
  | none => none
  | some w =>
    -- wait for user shutdown
    if w.manager.autoShutdown then some (w, [])
    else some (w, ["\n### Discovery Server is running, press any key to quit ###"])

/-- `runEvents` executes the events. -/
theorem runEvents_fst (w : World) (sort : Arrangement w.manager.events)
    (reply : EventPtr → Reply) : (w.runEvents sort reply).map Prod.fst =
      w.executeAll (sort.order.map fun ptr => (ptr, reply ptr)) := by
  unfold runEvents
  cases w.executeAll (sort.order.map fun ptr => (ptr, reply ptr)) with
  | none => rfl
  | some w' =>
    dsimp only
    cases w'.manager.autoShutdown <;> rfl

/-- Terminal clean-up of the participants of one role. -/
def cleanUp (w : World) (participants : OrdMap Guid DomainParticipant) : World :=
  participants.values.foldl
    (fun w p => ((w.call (.clearListener p)).call (.deleteContainedEntities p)).call
      (.deleteParticipant p)) w

/-- `onTerminate`. -/
def onTerminate (w : World) : World :=
  if w.manager.noCallbacks then w -- already terminated
  else
    let w := w.withManager { w.manager with noCallbacks := true }
    -- clients first, and simple participants could become clients: before servers
    let w := w.cleanUp w.manager.clients
    let w := w.cleanUp w.manager.simples
    let w := w.cleanUp w.manager.servers
    w.withManager { w.manager with
      entityMap := ∅
      dataReaders := ∅
      dataWriters := ∅
      events := [] }

end World

end DiscoveryServer
