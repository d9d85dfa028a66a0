import DiscoveryServer.Lifecycle

/-!
# Topics that are used again

A participant keeps its topics by name (`registeredTopics`), and an endpoint takes the
one under the name it asks for, whoever had it created. A topic name is unique on a
participant, so the type name is the one of the first endpoint that has asked for the
topic (`endpoint_topic`); it is the type name asked for where the endpoints that share a
topic name agree on the type.
-/

namespace DiscoveryServer

open Library

/-! ## Requests -/

/-- The topic an endpoint asks for: without a type the default one. -/
def DelayedEndpointCreation.request (event : DelayedEndpointCreation) : Topic :=
  if event.typeName = "UNDEF" then DiscoveryServerManager.defaultTopicDescription
  else ⟨event.topicName, event.typeName⟩

/-- The first request for a name that Fast DDS has a topic for. -/
def firstRequest (steps : List (DelayedEndpointCreation × Reply)) (name : String) :
    Option Topic :=
  (steps.find? fun step => step.1.request.name = name && step.2.topic).map fun step =>
    step.1.request

/-- The topics of a participant, with the one asked for if it is a new name. -/
def enter (topics : String → Option Topic) (request : Topic) (created : Bool) :
    String → Option Topic := fun name =>
  (topics name).or (if request.name = name ∧ created then some request else none)

theorem firstRequest_snoc (steps : List (DelayedEndpointCreation × Reply))
    (event : DelayedEndpointCreation) (reply : Reply) :
    firstRequest (steps ++ [(event, reply)]) =
      enter (firstRequest steps) event.request reply.topic := by
  funext name
  unfold firstRequest enter
  rw [List.find?_append, Option.map_or]
  by_cases hname : event.request.name = name ∧ reply.topic = true
  · simp [hname]
  · by_cases heq : event.request.name = name
    · have hreply : reply.topic = false := Bool.eq_false_of_not_eq_true fun h => hname ⟨heq, h⟩
      simp [hreply]
    · simp [heq]

/-! ## The entry of a participant -/

namespace DiscoveryServerManager

variable {m : DiscoveryServerManager} {g : Guid} {topics : String → Option Topic}

/-- The topics of the participant with a GUID. -/
def topicsOf (m : DiscoveryServerManager) (g : Guid) : Option (String → Option Topic) :=
  (m.entityMap.get? g).map fun info => info.registeredTopics

theorem topicsOf_readInfo (id : Guid) (h : m.topicsOf g = some topics) :
    (m.readInfo id).topicsOf g = some topics := by
  unfold topicsOf readInfo at *
  obtain ⟨info, hinfo, htopics⟩ := Option.map_eq_some_iff.mp h
  rw [OrdMap.get?_touch, hinfo]
  split_ifs with hid
  · rw [← hid, hinfo]
    exact congrArg some htopics
  · exact congrArg some htopics

theorem topicsOf_setDomainEntityTopic (e : Option Endpoint) (t : Option Topic)
    (h : m.topicsOf g = some topics) :
    (m.setDomainEntityTopic e t).topicsOf g = some topics := by
  cases e with
  | none => exact h
  | some e =>
    cases t with
    | none => exact h
    | some t =>
      obtain ⟨info, hinfo, htopics⟩ := Option.map_eq_some_iff.mp h
      unfold topicsOf setDomainEntityTopic setParticipantInfo
      dsimp only
      rw [OrdMap.get?_set]
      split_ifs with hg
      · rw [← hg] at *
        unfold DiscoveryServerManager.info
        rw [hinfo]
        cases e.kind <;> exact congrArg some htopics
      · rw [hinfo]
        exact congrArg some htopics

theorem topicsOf_setGuid (p : Option EventPtr) (id : Guid) :
    (m.setGuid p id).topicsOf g = m.topicsOf g := by
  cases p <;> rfl

theorem topicsOf_addEndpointFunction (kind : ReaderWriter) (e : Endpoint) :
    (LateJoinerDataTraits.addEndpointFunction kind m (some e)).topicsOf g = m.topicsOf g := by
  cases kind <;> rfl

theorem getParticipantTopicByName_eq {part : DomainParticipant} (name : String)
    (h : m.topicsOf part.guid = some topics) :
    m.getParticipantTopicByName (some part) name = topics name := by
  obtain ⟨info, hinfo, rfl⟩ := Option.map_eq_some_iff.mp h
  unfold getParticipantTopicByName
  dsimp only
  rw [hinfo]

theorem topicsOf_setParticipantTopic {part : DomainParticipant} (t : Topic)
    (h : m.topicsOf part.guid = some topics) :
    (m.setParticipantTopic (some part) (some t)).topicsOf part.guid =
      some (Function.update topics t.name (some t)) := by
  obtain ⟨info, hinfo, rfl⟩ := Option.map_eq_some_iff.mp h
  unfold setParticipantTopic topicsOf
  dsimp only
  rw [hinfo]
  dsimp only [setParticipantInfo]
  rw [OrdMap.get?_set, if_pos rfl]
  rfl

end DiscoveryServerManager

open DiscoveryServerManager (topicsOf_readInfo topicsOf_setDomainEntityTopic topicsOf_setGuid
  topicsOf_addEndpointFunction getParticipantTopicByName_eq topicsOf_setParticipantTopic)

namespace World

variable {w w' : World} {part : DomainParticipant} {topics : String → Option Topic}

/-- The topic a participant has afterwards under the name asked for. -/
theorem participantTopic_spec (name typeName : String) (profileName : Option String)
    (reply : Reply) (h : w.manager.topicsOf part.guid = some topics) :
    (w.participantTopic part name typeName profileName reply).2 =
        enter topics ⟨name, typeName⟩ reply.topic name ∧
      (w.participantTopic part name typeName profileName reply).1.manager.topicsOf part.guid =
        some (enter topics ⟨name, typeName⟩ reply.topic) := by
  unfold participantTopic
  rw [getParticipantTopicByName_eq name h]
  cases hknown : topics name with
  | some t =>
    refine ⟨by simp [enter, hknown], h.trans (congrArg some (funext fun other => ?_))⟩
    unfold enter
    by_cases hother : name = other
    · rw [← hother, hknown]
      rfl
    · simp [hother]
  | none =>
    cases hreply : reply.topic with
    | false =>
      refine ⟨by simp [enter, hknown], h.trans (congrArg some (funext fun other => ?_))⟩
      simp [enter]
    | true =>
      refine ⟨by simp [enter, hknown], ?_⟩
      show (w.manager.setParticipantTopic (some part) (some ⟨name, typeName⟩)).topicsOf _ = _
      rw [topicsOf_setParticipantTopic ⟨name, typeName⟩ h]
      refine congrArg some (funext fun other => ?_)
      unfold enter
      by_cases hother : other = name
      · subst hother
        rw [Function.update_self, hknown]
        simp
      · rw [Function.update_of_ne hother]
        simp [Ne.symm hother]

theorem topic_spec (event : DelayedEndpointCreation) (reply : Reply)
    (h : w.manager.topicsOf part.guid = some topics) :
    (event.topic reply w part).2 = enter topics event.request reply.topic event.request.name ∧
      (event.topic reply w part).1.manager.topicsOf part.guid =
        some (enter topics event.request reply.topic) := by
  unfold DelayedEndpointCreation.topic DelayedEndpointCreation.request
  split_ifs
  · exact participantTopic_spec _ _ none reply h
  · exact participantTopic_spec _ _ _ reply h

/-- **One creation**: the topic of the endpoint and the topics there are then. -/
theorem endpointCreation_topic {event : DelayedEndpointCreation} {reply : Reply}
    (hpart : event.part w.manager = some part)
    (hrun : event.execute reply w = some w')
    (h : w.manager.topicsOf part.guid = some topics) :
    (∃ pubsub endpoint, w'.calls.head? = some (.createEndpoint pubsub
        (enter topics event.request reply.topic event.request.name) event.endpointProfileName
        endpoint)) ∧
      w'.manager.topicsOf part.guid = some (enter topics event.request reply.topic) := by
  obtain ⟨hnone, _⟩ | ⟨part', pubsub, hpart', _, wType, wTopic, topic, rfl, htopic, wEnd,
    endpoint, hend, rfl⟩ := endpointCreation_cases hrun
  · rw [hnone] at hpart
    cases hpart
  · rw [hpart'] at hpart
    cases hpart
    have hread : ((w.withManager (w.manager.readInfo event.participantGuid)).call
        (.registerType part)).manager.topicsOf part.guid = some topics :=
      topicsOf_readInfo _ h
    obtain ⟨htaken, hentered⟩ := topic_spec event reply hread
    rw [htopic] at htaken hentered
    dsimp only at htaken hentered
    have hsame : wEnd.manager = wTopic.manager := by
      cases hend
      rfl
    constructor
    · refine ⟨pubsub, endpoint, ?_⟩
      cases hend
      rw [← htaken]
      rfl
    · rw [← hsame] at hentered
      cases endpoint with
      | none => exact topicsOf_setDomainEntityTopic none topic hentered
      | some e =>
        show (LateJoinerDataTraits.addEndpointFunction _ _ _).topicsOf _ = _
        rw [topicsOf_addEndpointFunction, topicsOf_setGuid]
        exact topicsOf_setDomainEntityTopic (some e) topic hentered

/-! ## Runs on one participant -/

/-- An endpoint creation event on a participant. -/
def createOn (part : DomainParticipant) (w : World) (step : DelayedEndpointCreation × Reply) :
    Option World :=
  if step.1.part w.manager = some part then step.1.execute step.2 w else none

/-- **A run** on a participant without topics leaves it with the first topic of each
name. -/
theorem topicsOf_run {steps : List (DelayedEndpointCreation × Reply)}
    (hnew : w.manager.topicsOf part.guid = some fun _ => none)
    (hrun : run? (createOn part) w steps = some w') :
    w'.manager.topicsOf part.guid = some (firstRequest steps) := by
  induction steps using List.reverseRecOn generalizing w' with
  | nil =>
    cases hrun
    exact hnew
  | append_singleton steps step ih =>
    rw [run?_append] at hrun
    obtain ⟨w₁, hbefore, hstep⟩ := Option.bind_eq_some_iff.mp hrun
    obtain ⟨w₂, hstep, hend⟩ := Option.bind_eq_some_iff.mp hstep
    cases hend
    unfold createOn at hstep
    split_ifs at hstep with hpart
    rw [(endpointCreation_topic hpart hstep (ih hbefore)).2, firstRequest_snoc]

/-- Where all requests for a name are the same, the first one is. -/
theorem firstRequest_of_agree {steps : List (DelayedEndpointCreation × Reply)} {t request : Topic}
    (hfirst : firstRequest steps t.name = some t)
    (hagree : ∀ step ∈ steps, step.1.request.name = t.name → step.1.request = request) :
    t = request := by
  obtain ⟨step, hfind, rfl⟩ := Option.map_eq_some_iff.mp hfirst
  have hname : step.1.request.name = step.1.request.name ∧ step.2.topic = true := by
    simpa using List.find?_some hfind
  exact hagree step (List.mem_of_find?_eq_some hfind) hname.1

theorem firstRequest_name {steps : List (DelayedEndpointCreation × Reply)} {name : String}
    {t : Topic} (h : firstRequest steps name = some t) : t.name = name := by
  obtain ⟨step, hfind, rfl⟩ := Option.map_eq_some_iff.mp h
  have hname : step.1.request.name = name ∧ step.2.topic = true := by
    simpa using List.find?_some hfind
  exact hname.1

/-- What an endpoint creation on a participant calls: `create_datareader` or
`create_datawriter` with a topic. -/
structure CreatesOn (part : DomainParticipant) (w : World)
    (step : DelayedEndpointCreation × Reply) (topic : Option Topic) : Prop where
  creates : ∃ w' pubsub endpoint, createOn part w step = some w' ∧
    w'.calls.head? = some (.createEndpoint pubsub topic step.1.endpointProfileName endpoint)

/-- The participant a creation event has created has no topics yet. -/
theorem participantCreation_topics {this : EventPtr} {event : DelayedParticipantCreation}
    {reply : Reply} (h : event.execute this reply w = some w') :
    ∃ p, w'.calls.head? = some (.createParticipant p) ∧
      w'.manager.topicsOf p.guid = some fun _ => none := by
  unfold DelayedParticipantCreation.execute at h
  cases hreply : reply.participant with
  | none =>
    rw [hreply] at h
    cases h
  | some guid =>
    rw [hreply] at h
    cases h
    refine ⟨⟨w.nextId, guid, event.qos.name⟩, rfl, ?_⟩
    unfold DiscoveryServerManager.topicsOf
    show ((DiscoveryServerManager.setParticipantInfo _ guid _).entityMap.get? guid).map _ = _
    unfold DiscoveryServerManager.setParticipantInfo
    dsimp only
    rw [OrdMap.get?_set, if_pos rfl]
    rfl

/-- **Topic reuse**: an endpoint of a participant is created on the topic of the first
endpoint creation that has asked for its name. It has the name the event asks for, and
the type as well where the creations so far that ask for the name ask for one type. -/
theorem endpoint_topic {this : EventPtr} {creation : DelayedParticipantCreation}
    {answer : Reply} {w₀ : World} (hcreation : creation.execute this answer w₀ = some w)
    (hpart : w.calls.head? = some (.createParticipant part))
    {before after : List (DelayedEndpointCreation × Reply)} {event : DelayedEndpointCreation}
    {reply : Reply} (hrun : run? (createOn part) w (before ++ (event, reply) :: after) = some w') :
    ∃ w₁ topic, run? (createOn part) w before = some w₁ ∧
      CreatesOn part w₁ (event, reply) topic ∧
      topic = firstRequest (before ++ [(event, reply)]) event.request.name ∧
      ∀ t ∈ topic, t.name = event.request.name ∧
        ((∀ step ∈ before, step.1.request.name = event.request.name →
          step.1.request = event.request) → t = event.request) := by
  obtain ⟨p, hp, hnew⟩ := participantCreation_topics hcreation
  rw [hpart] at hp
  cases hp
  rw [run?_append] at hrun
  obtain ⟨w₁, hbefore, hrest⟩ := Option.bind_eq_some_iff.mp hrun
  obtain ⟨w₂, hstep, _⟩ := Option.bind_eq_some_iff.mp hrest
  have hon : event.part w₁.manager = some part ∧ event.execute reply w₁ = some w₂ := by
    unfold createOn at hstep
    split_ifs at hstep with hon
    exact ⟨hon, hstep⟩
  obtain ⟨⟨pubsub, endpoint, hcall⟩, _⟩ :=
    endpointCreation_topic hon.1 hon.2 (topicsOf_run hnew hbefore)
  rw [← firstRequest_snoc] at hcall
  refine ⟨w₁, _, hbefore, ⟨⟨w₂, pubsub, endpoint, hstep, hcall⟩⟩, rfl, fun t ht => ?_⟩
  have hname := firstRequest_name ht
  refine ⟨hname, fun hagree => ?_⟩
  rw [← hname] at ht hagree
  refine firstRequest_of_agree ht fun step hmem hstepName => ?_
  cases List.mem_append.mp hmem with
  | inl hold => exact hagree step hold hstepName
  | inr hlast =>
    rw [List.mem_singleton.mp hlast]

/-- The creation of a client with a prefix. -/
def topicClient : DelayedParticipantCreation :=
  { time := 0, qos := { name := "client", guidPrefix := 1, discoveryProtocol := .client },
    participantCreationFunction := .client, removalEvent := none }

/-- A data writer on topic `Square` of some type. -/
def topicWriter (typeName : String) : DelayedEndpointCreation :=
  { time := 1, kind := .dataWriter, topicName := "Square", typeName := typeName,
    topicProfileName := typeName, endpointProfileName := "", participantGuid := .ofPrefix 1,
    linkedDestructionEvent := none, ownerEvent := none }

/-- Fast DDS creates the endpoint. -/
def topicReply : Reply := { participant := none, endpoint := some 3 }

/-- The world with the client. -/
def topicWorld : World :=
  (topicClient.execute 0 { participant := some (.ofPrefix 1) } (start (.initial 0 0 0))).getD
    (start (.initial 0 0 0))

/-- Two data writers of different types on topics of one name get the same topic. -/
theorem type_not_asked_for : ¬ ∀ (this : EventPtr) (creation : DelayedParticipantCreation)
    (answer : Reply) (w₀ w w₁ : World) (part : DomainParticipant)
    (before : List (DelayedEndpointCreation × Reply)) (event : DelayedEndpointCreation)
    (reply : Reply) (t : Topic), creation.execute this answer w₀ = some w →
      w.calls.head? = some (.createParticipant part) →
      run? (createOn part) w before = some w₁ → CreatesOn part w₁ (event, reply) (some t) →
      t = event.request := by
  intro h
  have htype := h 0 topicClient { participant := some (.ofPrefix 1) } (start (.initial 0 0 0))
    topicWorld _ ⟨0, .ofPrefix 1, "client"⟩ [(topicWriter "Rgb", topicReply)] (topicWriter "Cmyk")
    topicReply ⟨"Square", "Rgb"⟩ rfl rfl rfl ⟨⟨_, _, _, rfl, rfl⟩⟩
  exact absurd htype (by decide)

theorem endpoint_topic_sample : ∃ w₁ topic,
    run? (createOn ⟨0, .ofPrefix 1, "client"⟩) topicWorld [(topicWriter "Rgb", topicReply)] =
        some w₁ ∧
      CreatesOn ⟨0, .ofPrefix 1, "client"⟩ w₁ (topicWriter "Rgb", topicReply) topic ∧
      topic = firstRequest ([(topicWriter "Rgb", topicReply)] ++
        [(topicWriter "Rgb", topicReply)]) "Square" ∧
      ∀ t ∈ topic, t.name = "Square" ∧
        ((∀ step ∈ [(topicWriter "Rgb", topicReply)], step.1.request.name = "Square" →
          step.1.request = (topicWriter "Rgb").request) → t = (topicWriter "Rgb").request) :=
  endpoint_topic
    (show topicClient.execute 0 { participant := some (.ofPrefix 1) } (start (.initial 0 0 0)) =
      some topicWorld from rfl) rfl
    (show run? _ _ ([(topicWriter "Rgb", topicReply)] ++ (topicWriter "Rgb", topicReply) :: []) =
      some _ from rfl)

end World

end DiscoveryServer
