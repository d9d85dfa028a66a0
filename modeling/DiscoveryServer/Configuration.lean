import DiscoveryServer.Execution
import DiscoveryServer.ListeningPort
import DiscoveryServer.SnapshotXml

/-!
# Configuration files

The part of the constructor that reads a configuration: the profiles, the two passes
over the servers, clients, simples, snapshots and environment changes. An element
that is to be created when the program starts is created by its loader, every other
one becomes an event.

The loaders build strings from attributes and texts, which is undefined for a null
pointer, call methods of Fast DDS objects and convert numbers, which may throw: a
`Fault` ends the program. What is not code of this program is an `Environment`.
-/

namespace DiscoveryServer

open Library

/-- What ends a constructor that does not finish. -/
inductive Fault where
  /-- A `std::string` is built from a null pointer. -/
  | nullString
  /-- A method of a null object is called. -/
  | nullObject
  /-- `stol` throws. -/
  | exception
deriving DecidableEq

/-- `name` and `type_name` of a topic profile. -/
structure TopicDescriptionItem where
  name : String := "UNDEF"
  typeName : String := "UNDEF"
deriving DecidableEq

/-- What the constructor relies on besides the file. -/
structure Environment where
  format : TextFormat
  /-- `load_XML_profiles_string` accepts a `profiles` element. -/
  profilesParsed : XMLElement → Bool
  /-- `get_participant_qos_from_profile`, after these `profiles` elements. -/
  participantQos : List XMLElement → String → Option DomainParticipantQos
  /-- `DomainParticipantQos()`. -/
  defaultQos : DomainParticipantQos
  /-- The transport descriptors of the profiles. -/
  descriptors : List TransportDescriptor
  /-- The octets `set_WAN_address` reads from a text. -/
  readWan : String → WanAddress
  /-- `operator >>` of a prefix that has a value: the new value, and whether the
  stream is good then. -/
  readPrefix : String → GuidPrefix → GuidPrefix × Bool
  /-- The variable `FASTDDS_ENVIRONMENT_FILE` is set. -/
  environmentFile : Bool
  /-- What Fast DDS answers to an event that is executed at once. -/
  reply : World → LateJoinerData → Reply
  /-- What an `int` holds that is read from a blank attribute. -/
  uninitialised : XMLElement → String → Int

/-- The manager while it is being constructed. -/
structure Loading where
  world : World
  /-- The `profiles` elements loaded. -/
  profiles : List XMLElement
  topicDescriptionProfilesMap : String → Option TopicDescriptionItem
  /-- Multicast and unicast metatraffic locators. -/
  serverLocators : OrdMap Guid (List Locator × List Locator)
  /-- The transport descriptors there are. -/
  descriptors : List TransportDescriptor
  enablePrefixValidation : Bool
  sharedMemoryOff : Bool
  /-- What `LOG_ERROR` has been given, the latest first. -/
  errors : List String

namespace Loading

def manager (l : Loading) : DiscoveryServerManager := l.world.manager

/-- `getTime`. -/
def getTime (l : Loading) : TimePoint := l.manager.state.image.time

def withManager (l : Loading) (m : DiscoveryServerManager) : Loading :=
  { l with world := l.world.withManager m }

/-- `LOG_ERROR`. -/
def logError (l : Loading) (message : String) : Loading :=
  { l with errors := message :: l.errors }

/-- `events.push_back`. -/
def pushBack (l : Loading) (event : LateJoinerData) : Loading :=
  l.withManager { l.manager with events := l.manager.events ++ [event] }

/-- Without shared memory a UDP transport is all there is by default. -/
def disableSharedMemory (l : Loading) (qos : DomainParticipantQos) :
    Loading × DomainParticipantQos :=
  if l.sharedMemoryOff then
    ({ l with descriptors := l.descriptors ++ [.udpv4] },
      { qos with
        useBuiltinTransports := false
        userTransports := qos.userTransports ++ [l.descriptors.length] })
  else (l, qos)

end Loading

/-- The name of the element takes precedence over the one of the profile. -/
def DomainParticipantQos.setName (qos : DomainParticipantQos) (name : Option String) :
    DomainParticipantQos :=
  { qos with name := name.getD qos.name }

/-! ## Topic profiles -/

/-- A pass of `fill_topic_description_profile` over the children of a topic element;
an empty `name` or `dataType` breaks it off. -/
def fillTopicDescription : List XMLElement → TopicDescriptionItem → Bool → List String →
    TopicDescriptionItem × Bool × List String
  | [], topicDescription, ret, errors => (topicDescription, ret, errors)
  | aux0 :: rest, topicDescription, ret, errors =>
    if aux0.name = "name" then
      match aux0.getText with
      | some text => fillTopicDescription rest { topicDescription with name := text } ret errors
      | none => (topicDescription, false, "<name> GetText XML_ERROR" :: errors)
    else if aux0.name = "dataType" then
      match aux0.getText with
      | some text => fillTopicDescription rest { topicDescription with typeName := text } ret errors
      | none => (topicDescription, false, "<dataType> GetText XML_ERROR" :: errors)
    else
      fillTopicDescription rest topicDescription false
        (("Invalid element found into 'topicDescriptionType'. Name: " ++ aux0.name) :: errors)

/-- The loop over the topic profiles. A profile is entered before it is filled, and
the first one in error ends the loop. -/
def Loading.loadTopics (l : Loading) : List XMLElement → Loading
  | [] => l
  | topicProfile :: rest =>
    match topicProfile.attributeValue "profile_name" with
    | none => l.loadTopics rest
    | some topicProfileName =>
      match l.topicDescriptionProfilesMap topicProfileName with
      | some _ => l.loadTopics rest
      | none =>
        let (topicDesc, ret, errors) := fillTopicDescription topicProfile.children {} true l.errors
        let l := { l with
          topicDescriptionProfilesMap :=
            Function.update l.topicDescriptionProfilesMap topicProfileName (some topicDesc)
          errors := errors }
        if ret then l.loadTopics rest
        else l.logError "Error parsing topic profiles"

namespace Environment

variable (env : Environment)

/-- The `profiles` element. -/
def loadProfiles (l : Loading) (profiles : XMLElement) : Loading :=
  let l := { l with profiles := l.profiles ++ [profiles] }
  let l := if env.profilesParsed profiles then l else l.logError "Error parsing profiles!"
  l.loadTopics (profiles.childElements "topic")

/-! ## Participants -/

/-- `std::chrono::seconds` of an `int` read from an attribute. -/
def seconds (e : XMLElement) (name : String) : Option Int :=
  (e.attributeValue name).map fun s =>
    (extractInt s).getD (env.uninitialised e name) * 1000000000

/-- `creation_time` and `removal_time` of a participant. -/
def times (l : Loading) (e : XMLElement) : TimePoint × TimePoint :=
  (l.getTime + (env.seconds e "creation_time").getD 0,
    l.getTime + (env.seconds e "removal_time").getD 0)

/-- `event(*this)` of a participant creation that is on the stack, and its
`participant_guid` then. -/
def createNow (l : Loading) (event : DelayedParticipantCreation) :
    Except Fault (Loading × Guid) :=
  let reply := env.reply l.world (.participantCreation event)
  match event.execute l.manager.events.length reply l.world with
  | none => .error .nullObject
  | some w => .ok ({ l with world := w }, reply.participant.getD event.participantGuid)

/-! ## Publishers and subscribers -/

/-- The topic description of an endpoint, the default one where there is none. -/
def topicDescription (l : Loading) (topicName : Option String) : Loading × TopicDescriptionItem :=
  match topicName with
  | none => (l, {})
  | some topicName =>
    match l.topicDescriptionProfilesMap topicName with
    | some item => (l, item)
    | none =>
      (l.logError ("Topic " ++ topicName ++ " not found in the topic description profiles"), {})

/-- The creation time of an endpoint: its own, or the one of the participant and
1 ns, to prevent creation before the participant. -/
def endpointCreationTime (l : Loading) (e : XMLElement) (creationEvent : Option EventPtr) :
    TimePoint :=
  match env.seconds e "creation_time" with
  | some s => l.getTime + s
  | none =>
    match creationEvent.bind fun ptr => l.manager.events[ptr]? with
    | some event => event.executionTime + 1
    | none => l.getTime

/-- `loadPublisher` and `loadSubscriber` as far as the creation event. No caller
passes a participant destruction event. -/
def endpointEvent (kind : ReaderWriter) (l : Loading) (partGuid : Guid) (e : XMLElement)
    (creationEvent : Option EventPtr) : Except Fault (Loading × DelayedEndpointCreation) :=
  let creationTime := env.endpointCreationTime l e creationEvent
  let removalTime := l.getTime + (env.seconds e "removal_time").getD 0
  let topicName := e.attributeValue "topic"
  let (l, topicDescription) := topicDescription l topicName
  -- the destruction event needs the endpoint GUID that the creation provides
  let (l, pDE) :=
    if removalTime ≠ l.getTime then
      (l.pushBack (.endpointDestruction { time := removalTime, kind := kind }),
        some l.manager.events.length)
    else (l, none)
  match topicName with
  | none => .error .nullString
  | some topicName =>
    .ok (l,
      { time := creationTime
        kind := kind
        topicName := topicDescription.name
        typeName := topicDescription.typeName
        topicProfileName := topicName
        endpointProfileName := (e.attributeValue "profile_name").getD ""
        participantGuid := partGuid
        linkedDestructionEvent := pDE
        ownerEvent := creationEvent })

def loadEndpoint (kind : ReaderWriter) (l : Loading) (partGuid : Guid) (e : XMLElement)
    (creationEvent : Option EventPtr) : Except Fault Loading := do
  let (l, event) ← env.endpointEvent kind l partGuid e creationEvent
  if event.time = l.getTime then
    match event.execute (env.reply l.world (.endpointCreation event)) l.world with
    | none => .error .nullObject
    | some w => return { l with world := w }
  else
    -- late joiner
    return l.pushBack (.endpointCreation event)

def loadPublisher := env.loadEndpoint .dataWriter

def loadSubscriber := env.loadEndpoint .dataReader

/-- The endpoints of a participant, once it is created. -/
def loadEndpoints (l : Loading) (guid : Guid) (participant : XMLElement)
    (creationEvent : Option EventPtr) : Except Fault Loading := do
  let l ← (participant.childElements "publisher").foldlM
    (fun l pub => env.loadPublisher l guid pub creationEvent) l
  (participant.childElements "subscriber").foldlM
    (fun l sub => env.loadSubscriber l guid sub creationEvent) l

/-! ## Servers -/

/-- The QoS of a server: its profile, with the name and the prefix of the element. -/
def serverQos (l : Loading) (server : XMLElement) : Loading × Option DomainParticipantQos :=
  match server.attributeValue "profile_name" with
  | none => (l.logError "profile_name is a mandatory attribute of server tag", none)
  | some profileName =>
    -- may be empty on purpose
    if profileName = "" then (l, none)
    else
      match env.participantQos l.profiles profileName with
      | none =>
        (l.logError ("DiscoveryServerManager::loadServer couldn't load profile " ++ profileName),
          none)
      | some qos =>
        let qos := qos.setName (server.attributeValue "name")
        match server.attributeValue "prefix" with
        | none => (l, some qos)
        | some cprefix =>
          let (value, good) := env.readPrefix cprefix qos.guidPrefix
          if !good ∧ value = 0 then
            (l.logError "Servers cannot have a framework provided prefix", none)
          else (l, some { qos with guidPrefix := value })

/-- The QoS a server is created with, unless its prefix is in use. The locators of
`MapServerInfo` take precedence over the ones of the profile. -/
def acceptServer (l : Loading) (server : XMLElement) : Loading × Option DomainParticipantQos :=
  match env.serverQos l server with
  | (l, none) => (l, none)
  | (l, some qos) =>
    let guid := Guid.ofPrefix qos.guidPrefix
    if l.enablePrefixValidation ∧ (l.manager.servers.get? guid).isSome then
      (l.logError ("DiscoveryServerManager detected two servers sharing the same prefix " ++
        env.format.prefixToStr qos.guidPrefix), none)
    else
      let lists := (l.serverLocators.get? guid).getD ([], [])
      let l := { l with serverLocators := l.serverLocators.touch guid ([], []) }
      let qos :=
        if lists.1 ≠ [] ∨ lists.2 ≠ [] then
          { qos with
            metatrafficMulticastLocatorList := lists.1
            metatrafficUnicastLocatorList := lists.2 }
        else qos
      let (l, qos) := l.disableSharedMemory qos
      (l, some qos)

/-- A server is created at once, or becomes a late joiner. -/
def createServer (l : Loading) (event : DelayedParticipantCreation) : Except Fault Loading :=
  if event.time = l.getTime then Prod.fst <$> env.createNow l event
  else .ok (l.pushBack (.participantCreation event))

/-- The creation and the destruction of an accepted server. -/
def scheduleServer (l : Loading) (server : XMLElement) (qos : DomainParticipantQos) :
    Except Fault Loading := do
  let (creationTime, removalTime) := env.times l server
  let l ← env.createServer l ⟨creationTime, qos, .server, none, .unknown⟩
  if removalTime ≠ l.getTime then
    -- early leaver
    return l.pushBack (.participantDestruction ⟨removalTime, .ofPrefix qos.guidPrefix⟩)
  else return l

def loadServer (l : Loading) (server : XMLElement) : Except Fault Loading :=
  match env.acceptServer l server with
  | (l, none) => .ok l
  | (l, some qos) => do
    let l ← env.scheduleServer l server qos
    env.loadEndpoints l (.ofPrefix qos.guidPrefix) server none

/-! ## Clients and simples -/

/-- The destruction and the creation of an accepted client or simple participant,
the GUID its endpoints are loaded with and the creation event, if there is one. -/
def scheduleParticipant (role : ParticipantRole) (l : Loading) (e : XMLElement)
    (qos : DomainParticipantQos) : Except Fault (Loading × Guid × Option EventPtr) := do
  let (creationTime, removalTime) := env.times l e
  let guid := Guid.ofPrefix qos.guidPrefix
  let (l, destructionEvent) :=
    if removalTime ≠ l.getTime then
      -- early leaver
      (l.pushBack (.participantDestruction ⟨removalTime, guid⟩), some l.manager.events.length)
    else (l, none)
  let event : DelayedParticipantCreation := ⟨creationTime, qos, role, destructionEvent, .unknown⟩
  if creationTime = l.getTime then
    let (l, guid) ← env.createNow l event
    return (l, guid, none)
  else
    -- late joiner
    return (l.pushBack (.participantCreation event), guid, some l.manager.events.length)

/-- The listening port of a client, which makes sense on TCP only. -/
def listen (l : Loading) (client : XMLElement) (qos : DomainParticipantQos) :
    Except Fault (Loading × Option DomainParticipantQos) :=
  match client.attributeValue "listening_port" with
  | none => .ok (l, some qos)
  | some lp =>
    match Ipv4RegularExpression.regexMatch lp with
    | none => .ok (l.logError ("invalid listening port for server (" ++ qos.name ++ ")"), none)
    | some (address, digits) =>
      match stol digits with
      | none => .error .exception
      | some listeningPort =>
        let (descriptors, transports) :=
          listeningTransport env.readWan l.descriptors qos.userTransports address
            (.ofNat 16 listeningPort)
        .ok ({ l with descriptors := descriptors }, some { qos with userTransports := transports })

/-- The QoS a client is created with. Its profile is mandatory, for clients must
reference servers. -/
def acceptClient (l : Loading) (client : XMLElement) :
    Except Fault (Loading × Option DomainParticipantQos) :=
  match client.attributeValue "profile_name" with
  | none => .ok (l.logError "profile_name is a mandatory attribute of client tag", none)
  | some profileName =>
    match env.participantQos l.profiles profileName with
    | none =>
      .ok (l.logError ("DiscoveryServerManager::loadClient couldn't load profile " ++ profileName),
        none)
    | some qos =>
      if qos.discoveryProtocol ≠ .client ∧ qos.discoveryProtocol ≠ .superClient then
        .ok (l.logError ("DiscoveryServerManager::loadClient try to create a client with an " ++
          "incompatible profile: " ++ profileName), none)
      else
        match env.listen l client (qos.setName (client.attributeValue "name")) with
        | .error fault => .error fault
        | .ok (l, none) => .ok (l, none)
        | .ok (l, some qos) =>
          let (l, qos) := l.disableSharedMemory qos
          .ok (l, some qos)

def loadClient (l : Loading) (client : XMLElement) : Except Fault Loading := do
  match ← env.acceptClient l client with
  | (l, none) => return l
  | (l, some qos) =>
    let (l, guid, creationEvent) ← env.scheduleParticipant .client l client qos
    env.loadEndpoints l guid client creationEvent

/-- The QoS a simple participant is created with. Its profile is not mandatory. -/
def acceptSimple (l : Loading) (simple : XMLElement) : Loading × Option DomainParticipantQos :=
  let name := simple.attributeValue "name"
  match simple.attributeValue "profile_name" with
  | none => (l, some (env.defaultQos.setName name))
  | some profileName =>
    match env.participantQos l.profiles profileName with
    | none =>
      (l.logError ("DiscoveryServerManager::loadSimple couldn't load profile " ++ profileName),
        none)
    | some qos =>
      if qos.discoveryProtocol ≠ .simple then
        (l.logError ("DiscoveryServerManager::loadSimple try to create a simple participant " ++
          "with an incompatible profile: " ++ profileName), none)
      else (l, some (qos.setName name))

def loadSimple (l : Loading) (simple : XMLElement) : Except Fault Loading :=
  match env.acceptSimple l simple with
  | (l, none) => .ok l
  | (l, some qos) => do
    let (l, guid, creationEvent) ← env.scheduleParticipant .simple l simple qos
    env.loadEndpoints l guid simple creationEvent

/-! ## Snapshots, changes and locators -/

def loadSnapshot (l : Loading) (snapshot : XMLElement) : Except Fault Loading :=
  match env.seconds snapshot "time" with
  | none => .ok (l.logError "time is a mandatory attribute of snapshot tag")
  | some s =>
    -- fail if nobody is found?
    let someone := snapshot.boolAttribute env.format.xml "someone" true
    let showLiveliness := snapshot.boolAttribute env.format.xml "show_liveliness" false
    match snapshot.getText with
    | none => .error .nullString
    | some description =>
      .ok (l.pushBack (.snapshot ⟨l.getTime + s, description, someone, showLiveliness⟩))

/-- `key` and `value` are strings of the event. -/
def loadEnvironmentChange (l : Loading) (change : XMLElement) : Except Fault Loading :=
  match env.seconds change "time" with
  | none => .ok (l.logError "time is a mandatory attribute of change tag")
  | some s =>
    match change.attributeValue "key" with
    | none => .ok (l.logError "key is a mandatory attribute of change tag")
    | some key =>
      match change.getText with
      | none => .error .nullString
      | some value => .ok (l.pushBack (.environmentModification ⟨l.getTime + s, key, value⟩))

/-- `MapServerInfo`. -/
def mapServerInfo (l : Loading) (server : XMLElement) : Except Fault Loading :=
  match server.attributeValue "profile_name" with
  | none => .error .nullString
  | some profileName =>
    -- it doesn't log as error because may be empty on purpose
    if profileName = "" then .ok l
    else
      match env.participantQos l.profiles profileName with
      | none =>
        .ok (l.logError ("DiscoveryServerManager::loadServer couldn't load profile " ++
          profileName))
      | some qos =>
        let value :=
          match server.attributeValue "prefix" with
          | some cprefix => (env.readPrefix cprefix 0).1
          | none => qos.guidPrefix
        -- guidless server, locators must be set directly from the XML
        if value = 0 then .ok l
        else
          .ok { l with
            serverLocators := l.serverLocators.set (.ofPrefix value)
              (qos.metatrafficMulticastLocatorList, qos.metatrafficUnicastLocatorList) }

end Environment

end DiscoveryServer
