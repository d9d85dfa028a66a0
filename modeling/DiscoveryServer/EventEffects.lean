import DiscoveryServer.Lifecycle

/-!
# What events leave alone

Executing an event writes GUIDs into events and changes nothing else about them, so
what the schedule says is fixed once it is made (`schedule_execute`); the GUID of a
participant creation is written by that event alone (`guidOf_execute`). The creation of
an endpoint changes neither who is filed nor who is known.
-/

namespace DiscoveryServer

open Library

namespace LateJoinerData

/-- The event without the GUIDs written into it. -/
def forgetGuid : LateJoinerData → LateJoinerData
  | participantCreation event => participantCreation { event with participantGuid := .unknown }
  | participantDestruction event => participantDestruction { event with participantId := .unknown }
  | endpointDestruction event => endpointDestruction { event with endpointGuid := .unknown }
  | event => event

theorem forgetGuid_setGuid (id : Guid) (event : LateJoinerData) :
    (event.setGuid id).forgetGuid = event.forgetGuid := by
  cases event with
  | participantDestruction event =>
    simp only [setGuid, DelayedParticipantDestruction.setGuid]
    split_ifs <;> rfl
  | endpointDestruction event =>
    simp only [setGuid, DelayedEndpointDestruction.setGuid]
    split_ifs <;> rfl
  | participantCreation event => rfl
  | endpointCreation event => rfl
  | snapshot event => rfl
  | environmentModification event => rfl

theorem participantGuid?_setGuid (id : Guid) (event : LateJoinerData) :
    (event.setGuid id).participantGuid? = event.participantGuid? := by
  cases event <;> rfl

theorem executionTime_forgetGuid (event : LateJoinerData) :
    event.forgetGuid.executionTime = event.executionTime := by
  cases event <;> rfl

theorem eq_of_forgetGuid_eq_participantCreation {event : LateJoinerData}
    {creation : DelayedParticipantCreation} (h : event.forgetGuid = participantCreation creation) :
    ∃ guid, event = participantCreation { creation with participantGuid := guid } := by
  cases event with
  | participantCreation event =>
    cases h
    exact ⟨event.participantGuid, rfl⟩
  | _ => cases h

end LateJoinerData

namespace DiscoveryServerManager

/-- What the schedule says, whatever has been executed of it. -/
def schedule (m : DiscoveryServerManager) : List LateJoinerData :=
  m.events.map LateJoinerData.forgetGuid

theorem schedule_getElem?_eq_some {m : DiscoveryServerManager} {ptr : EventPtr}
    {event : LateJoinerData} : m.schedule[ptr]? = some event ↔
      ∃ e, m.events[ptr]? = some e ∧ e.forgetGuid = event := by
  unfold schedule
  rw [List.getElem?_map, Option.map_eq_some_iff]

/-- `participant_guid` of the participant creation at a position. -/
def guidOf (m : DiscoveryServerManager) (ptr : EventPtr) : Option Guid :=
  m.events[ptr]?.bind LateJoinerData.participantGuid?

theorem schedule_modifyEvent (m : DiscoveryServerManager) (ptr : EventPtr)
    {f : LateJoinerData → LateJoinerData}
    (hf : ∀ e ∈ m.events[ptr]?, (f e).forgetGuid = e.forgetGuid) :
    (m.modifyEvent ptr f).schedule = m.schedule := by
  unfold schedule modifyEvent
  refine List.ext_getElem? fun i => ?_
  simp only [List.getElem?_map, List.getElem?_modify]
  by_cases hi : ptr = i
  · subst hi
    cases h : m.events[ptr]? with
    | none => simp
    | some e => simp [hf e h]
  · simp [hi]

theorem schedule_setGuid (m : DiscoveryServerManager) (p : Option EventPtr) (id : Guid) :
    (m.setGuid p id).schedule = m.schedule := by
  cases p with
  | none => rfl
  | some ptr => exact m.schedule_modifyEvent ptr fun e _ => e.forgetGuid_setGuid id

theorem guidOf_modifyEvent (m : DiscoveryServerManager) (ptr : EventPtr)
    (f : LateJoinerData → LateJoinerData) (i : EventPtr) :
    (m.modifyEvent ptr f).guidOf i =
      if ptr = i then m.events[ptr]?.bind fun e => (f e).participantGuid? else m.guidOf i := by
  unfold guidOf modifyEvent
  simp only [List.getElem?_modify]
  by_cases hi : ptr = i
  · subst hi
    rw [if_pos rfl]
    cases m.events[ptr]? <;> simp
  · simp [hi]

theorem guidOf_setGuid (m : DiscoveryServerManager) (p : Option EventPtr) (id : Guid)
    (i : EventPtr) : (m.setGuid p id).guidOf i = m.guidOf i := by
  cases p with
  | none => rfl
  | some ptr =>
    show (m.modifyEvent ptr (LateJoinerData.setGuid id)).guidOf i = m.guidOf i
    rw [guidOf_modifyEvent]
    by_cases hi : ptr = i
    · subst hi
      rw [if_pos rfl]
      unfold guidOf
      cases m.events[ptr]? with
      | none => rfl
      | some e => exact e.participantGuid?_setGuid id
    · rw [if_neg hi]

end DiscoveryServerManager

namespace World

variable {w w' : World}

/-! ## The creation of an endpoint -/

theorem manager_setParticipantTopic (m : DiscoveryServerManager) (p : Option DomainParticipant)
    (t : Option Topic) :
    ∃ entityMap, m.setParticipantTopic p t = { m with entityMap := entityMap } := by
  unfold DiscoveryServerManager.setParticipantTopic
  cases p with
  | none => exact ⟨_, rfl⟩
  | some p =>
    cases t with
    | none => exact ⟨_, rfl⟩
    | some t =>
      dsimp only
      cases m.entityMap.get? p.guid with
      | none => exact ⟨_, rfl⟩
      | some info => exact ⟨_, rfl⟩

theorem manager_participantTopic (w : World) (part : DomainParticipant) (name typeName : String)
    (profileName : Option String) (reply : Reply) :
    ∃ entityMap, (w.participantTopic part name typeName profileName reply).1.manager =
      { w.manager with entityMap := entityMap } := by
  unfold participantTopic
  cases w.manager.getParticipantTopicByName (some part) name with
  | some topic => exact ⟨_, rfl⟩
  | none => exact manager_setParticipantTopic w.manager _ _

theorem manager_topic (w : World) (event : DelayedEndpointCreation) (part : DomainParticipant)
    (reply : Reply) : ∃ entityMap,
      (event.topic reply w part).1.manager = { w.manager with entityMap := entityMap } := by
  unfold DelayedEndpointCreation.topic
  split_ifs
  · exact w.manager_participantTopic ..
  · exact w.manager_participantTopic ..

theorem manager_setDomainEntityTopic (m : DiscoveryServerManager) (e : Option Endpoint)
    (t : Option Topic) :
    ∃ entityMap, m.setDomainEntityTopic e t = { m with entityMap := entityMap } := by
  cases e <;> cases t <;> exact ⟨_, rfl⟩

/-- The creation of an endpoint changes the endpoints, the entries of participants and
the GUID of the event it is linked to. -/
theorem endpointCreation_frame {event : DelayedEndpointCreation} {reply : Reply}
    (h : event.execute reply w = some w') :
    ∃ entityMap dataReaders dataWriters link guid,
      (link = none ∨ link = event.linkedDestructionEvent) ∧ w'.manager = { w.manager with
        entityMap := entityMap
        dataReaders := dataReaders
        dataWriters := dataWriters
        events := (w.manager.setGuid link guid).events } := by
  rcases endpointCreation_cases h with ⟨_, rfl⟩ | ⟨part, pubsub, _, _, wType, wTopic, topic,
    rfl, htopic, wEnd, endpoint, hend, rfl⟩
  · exact ⟨_, _, _, none, .unknown, .inl rfl, rfl⟩
  · obtain ⟨topicMap, htopicMap⟩ := manager_topic
      ((w.withManager (w.manager.readInfo event.participantGuid)).call (.registerType part))
      event part reply
    rw [htopic] at htopicMap
    have hsame : wEnd.manager = wTopic.manager := by
      cases hend
      rfl
    cases endpoint with
    | none => exact ⟨topicMap, _, _, none, .unknown, .inl rfl, hsame.trans htopicMap⟩
    | some e =>
      obtain ⟨entityMap, hentityMap⟩ := manager_setDomainEntityTopic wEnd.manager (some e) topic
      dsimp only
      rw [hentityMap, hsame, htopicMap]
      cases hlink : event.linkedDestructionEvent <;> cases hkind : event.kind <;>
        exact ⟨entityMap, _, _, event.linkedDestructionEvent, e.guid, .inr hlink,
          by rw [hlink]; rfl⟩

theorem holdings_participantTopic (w : World) (part : DomainParticipant) (name typeName : String)
    (profileName : Option String) (reply : Reply) :
    (w.participantTopic part name typeName profileName reply).1.manager.holdings =
      w.manager.holdings := by
  unfold participantTopic
  cases w.manager.getParticipantTopicByName (some part) name with
  | some topic => rfl
  | none => exact DiscoveryServerManager.holdings_setParticipantTopic _ _ _

/-- The creation of an endpoint stores at most the endpoint. -/
theorem holdings_endpointCreation {event : DelayedEndpointCreation} {reply : Reply}
    (h : event.execute reply w = some w') :
    w'.manager.holdings.filed = w.manager.holdings.filed ∧
      w'.manager.holdings.participant = w.manager.holdings.participant ∧
      w'.manager.holdings.pubSub = w.manager.holdings.pubSub := by
  rcases endpointCreation_cases h with ⟨_, rfl⟩ | ⟨part, pubsub, _, _, wType, wTopic, topic,
    rfl, htopic, wEnd, endpoint, hend, rfl⟩
  · show (w.manager.readInfo _).holdings.filed = _ ∧
      (w.manager.readInfo _).holdings.participant = _ ∧
        (w.manager.readInfo _).holdings.pubSub = _
    rw [DiscoveryServerManager.holdings_readInfo]
    exact ⟨rfl, rfl, rfl⟩
  · have hsame : wEnd.manager = wTopic.manager := by
      cases hend
      rfl
    have hholdings : wTopic.manager.holdings = w.manager.holdings := by
      have hfst : _ = wTopic := congrArg Prod.fst htopic
      rw [← hfst]
      unfold DelayedEndpointCreation.topic
      split_ifs
      · exact (holdings_participantTopic ..).trans (DiscoveryServerManager.holdings_readInfo _ _)
      · exact (holdings_participantTopic ..).trans (DiscoveryServerManager.holdings_readInfo _ _)
    rw [← hholdings, ← hsame]
    cases endpoint with
    | none =>
      show (wEnd.manager.setDomainEntityTopic none topic).holdings.filed = _ ∧
        (wEnd.manager.setDomainEntityTopic none topic).holdings.participant = _ ∧
        (wEnd.manager.setDomainEntityTopic none topic).holdings.pubSub = _
      rw [DiscoveryServerManager.holdings_setDomainEntityTopic]
      exact ⟨rfl, rfl, rfl⟩
    | some e =>
      have hend : (wEnd.withManager (LateJoinerDataTraits.addEndpointFunction event.kind
          ((wEnd.manager.setDomainEntityTopic (some e) topic).setGuid
            event.linkedDestructionEvent e.guid) (some e))).manager.holdings =
          wEnd.manager.holdings.keepEndpoint event.kind e := by
        show (LateJoinerDataTraits.addEndpointFunction _ _ _).holdings = _
        rw [addEndpointFunction_eq, DiscoveryServerManager.holdings_addEndpoint,
          DiscoveryServerManager.holdings_setGuid,
          DiscoveryServerManager.holdings_setDomainEntityTopic]
      dsimp only
      rw [hend]
      exact ⟨rfl, rfl, rfl⟩

/-! ## The schedule -/

theorem events_unfile (m : DiscoveryServerManager) (id : Guid) :
    (m.unfile id).events = m.events := by
  unfold DiscoveryServerManager.unfile
  cases m.clients.get? id with
  | some c => rfl
  | none => cases m.servers.get? id <;> rfl

theorem events_participantDestruction (w : World) (event : DelayedParticipantDestruction) :
    (event.execute w).manager.events = w.manager.events := by
  have hremove : (w.manager.removeParticipant event.participantId).1.events = w.manager.events :=
    events_unfile _ _
  show ((w.withManager (w.manager.removeParticipant event.participantId).1).deleteParticipant
    (w.manager.filed event.participantId)).manager.events = _
  cases w.manager.filed event.participantId with
  | none => exact hremove
  | some p => exact hremove

/-- The destruction of an endpoint changes the endpoints and the entries of
participants. -/
theorem endpointDestruction_frame (w : World) (event : DelayedEndpointDestruction) :
    ∃ entityMap dataReaders dataWriters, (event.execute w).manager = { w.manager with
      entityMap := entityMap
      dataReaders := dataReaders
      dataWriters := dataWriters } := by
  unfold DelayedEndpointDestruction.execute
  rw [retrieveEndpointFunction_eq, removeEndpointFunction_eq]
  have hremove : ∃ dataReaders dataWriters, (DiscoveryServerManager.removeEndpoint event.kind
      w.manager event.endpointGuid).1 = { w.manager with
        dataReaders := dataReaders
        dataWriters := dataWriters } := by
    unfold DiscoveryServerManager.removeEndpoint
    cases (w.manager.endpoints event.kind).get? event.endpointGuid with
    | none => exact ⟨_, _, rfl⟩
    | some e => cases event.kind <;> exact ⟨_, _, rfl⟩
  cases hend : DiscoveryServerManager.removeEndpoint event.kind w.manager event.endpointGuid with
  | mk m endpoint =>
    rw [hend] at hremove
    obtain ⟨dataReaders, dataWriters, rfl⟩ := hremove
    cases endpoint with
    | none => exact ⟨_, _, _, rfl⟩
    | some e =>
      dsimp only
      unfold deleteEndpoint
      dsimp only
      split
      · exact ⟨_, _, _, rfl⟩
      · exact ⟨_, _, _, rfl⟩

/-- The destruction of an endpoint drops at most the endpoint. -/
theorem holdings_endpointDestruction (w : World) (event : DelayedEndpointDestruction) :
    (event.execute w).manager.holdings.filed = w.manager.holdings.filed ∧
      (event.execute w).manager.holdings.participant = w.manager.holdings.participant ∧
      (event.execute w).manager.holdings.pubSub = w.manager.holdings.pubSub := by
  have hdrop := DiscoveryServerManager.holdings_removeEndpoint event.kind w.manager
    event.endpointGuid
  unfold DelayedEndpointDestruction.execute
  rw [retrieveEndpointFunction_eq, removeEndpointFunction_eq]
  cases hremove : DiscoveryServerManager.removeEndpoint event.kind w.manager
      event.endpointGuid with
  | mk m endpoint =>
    rw [hremove] at hdrop
    have hdrop : m.holdings = w.manager.holdings.dropEndpoint event.kind event.endpointGuid := hdrop
    cases endpoint with
    | none =>
      show m.holdings.filed = _ ∧ m.holdings.participant = _ ∧ m.holdings.pubSub = _
      rw [hdrop]
      exact ⟨rfl, rfl, rfl⟩
    | some e =>
      have hread : (deleteEndpoint event.kind ((w.withManager m).call (.useEndpoint e))
          (some e)).manager.holdings = m.holdings := by
        unfold deleteEndpoint
        dsimp only
        split
        · exact DiscoveryServerManager.holdings_readInfo m e.participant.guid
        · exact DiscoveryServerManager.holdings_readInfo m e.participant.guid
      dsimp only
      rw [hread, hdrop]
      exact ⟨rfl, rfl, rfl⟩

theorem events_endpointDestruction (w : World) (event : DelayedEndpointDestruction) :
    (event.execute w).manager.events = w.manager.events := by
  obtain ⟨_, _, _, hmanager⟩ := endpointDestruction_frame w event
  rw [hmanager]

/-- **The schedule stays as it is.** Executing an event only writes GUIDs into
events. -/
theorem schedule_execute {step : EventPtr × Reply} (h : w.execute step = some w') :
    w'.manager.schedule = w.manager.schedule := by
  have hsame : ∀ {m m' : DiscoveryServerManager}, m'.events = m.events →
      m'.schedule = m.schedule := fun heq => congrArg (List.map _) heq
  cases executed h with
  | participantCreation event hevent h =>
    obtain ⟨guid, p, _, _, _, _, _, hevents, _⟩ := participantCreation_spec h
    refine (hsame hevents).trans ((DiscoveryServerManager.schedule_setGuid _ _ _).trans ?_)
    refine DiscoveryServerManager.schedule_modifyEvent _ _ fun e he => ?_
    rw [hevent] at he
    cases he
    rfl
  | participantDestruction event hevent => exact hsame (events_participantDestruction w event)
  | endpointCreation event hevent h =>
    obtain ⟨_, _, _, link, guid, _, hmanager⟩ := endpointCreation_frame h
    rw [hmanager]
    exact DiscoveryServerManager.schedule_setGuid w.manager link guid
  | endpointDestruction event hevent => exact hsame (events_endpointDestruction w event)
  | snapshot event hevent => rfl
  | environmentModification event hevent => rfl

/-- A participant creation gets its GUID when it is executed, from nobody else. -/
theorem guidOf_execute {step : EventPtr × Reply} (h : w.execute step = some w') (i : EventPtr) :
    w'.manager.guidOf i =
      if step.1 = i ∧ (w.manager.guidOf i).isSome then step.2.participant
      else w.manager.guidOf i := by
  have hsame : ∀ {m m' : DiscoveryServerManager}, m'.events = m.events →
      m'.guidOf i = m.guidOf i := fun heq => by
    unfold DiscoveryServerManager.guidOf
    rw [heq]
  have hother : ∀ {event : LateJoinerData}, w.manager.events[step.1]? = some event →
      event.participantGuid? = none → w'.manager.guidOf i = w.manager.guidOf i →
        w'.manager.guidOf i = if step.1 = i ∧ (w.manager.guidOf i).isSome then step.2.participant
          else w.manager.guidOf i := by
    intro event hevent hnone hkeep
    rw [hkeep, if_neg]
    rintro ⟨rfl, hsome⟩
    unfold DiscoveryServerManager.guidOf at hsome
    rw [hevent, Option.bind_some, hnone] at hsome
    cases hsome
  cases executed h with
  | participantCreation event hevent h =>
    obtain ⟨guid, p, hguid, _, _, _, _, hevents, _⟩ := participantCreation_spec h
    rw [hsame hevents, DiscoveryServerManager.guidOf_setGuid,
      DiscoveryServerManager.guidOf_modifyEvent]
    by_cases hi : step.1 = i
    · subst hi
      have hsome : (w.manager.guidOf step.1).isSome := by
        unfold DiscoveryServerManager.guidOf
        rw [hevent]
        rfl
      rw [if_pos rfl, if_pos ⟨rfl, hsome⟩, hevent, hguid]
      rfl
    · rw [if_neg hi, if_neg fun h => hi h.1]
  | participantDestruction event hevent =>
    exact hother hevent rfl (hsame (events_participantDestruction w event))
  | endpointCreation event hevent h =>
    obtain ⟨_, _, _, link, guid, _, hmanager⟩ := endpointCreation_frame h
    refine hother hevent rfl ?_
    rw [hmanager]
    exact DiscoveryServerManager.guidOf_setGuid w.manager link guid i
  | endpointDestruction event hevent =>
    exact hother hevent rfl (hsame (events_endpointDestruction w event))
  | snapshot event hevent => exact hother hevent rfl rfl
  | environmentModification event hevent => exact hother hevent rfl rfl

theorem schedule_executeAll {steps : List (EventPtr × Reply)} (h : w.executeAll steps = some w') :
    w'.manager.schedule = w.manager.schedule := by
  refine run?_relation (fun w w' => w'.manager.schedule = w.manager.schedule) ?_ ?_ h
  · intro w
    rfl
  · intro w step v u hstep hrest
    exact hrest.trans (schedule_execute hstep)

/-- The GUID of a scheduled participant creation is that of the participant it has got,
once it has been executed. -/
theorem guidOf_executeAll {reply : EventPtr → Reply} {done : List EventPtr} {i : EventPtr}
    {event : DelayedParticipantCreation}
    (hevent : w.manager.schedule[i]? = some (.participantCreation event))
    (h : w.executeAll (done.map fun ptr => (ptr, reply ptr)) = some w') :
    w'.manager.guidOf i = if i ∈ done then (reply i).participant else w.manager.guidOf i := by
  induction done generalizing w with
  | nil =>
    cases h
    rfl
  | cons ptr rest ih =>
    obtain ⟨v, hv, hrest⟩ := Option.bind_eq_some_iff.mp h
    have hsome : (w.manager.guidOf i).isSome := by
      obtain ⟨e, he, hforget⟩ := DiscoveryServerManager.schedule_getElem?_eq_some.mp hevent
      obtain ⟨guid, rfl⟩ := LateJoinerData.eq_of_forgetGuid_eq_participantCreation hforget
      unfold DiscoveryServerManager.guidOf
      rw [he]
      rfl
    rw [ih (by rw [schedule_execute hv]; exact hevent) hrest, guidOf_execute hv i]
    by_cases hi : i ∈ rest
    · rw [if_pos hi, if_pos (List.mem_cons_of_mem ptr hi)]
    · rw [if_neg hi]
      by_cases hptr : ptr = i
      · subst hptr
        rw [if_pos ⟨rfl, hsome⟩, if_pos List.mem_cons_self]
      · rw [if_neg fun hc => hptr hc.1, if_neg]
        intro hmem
        rcases List.mem_cons.mp hmem with heq | hmem
        · exact hptr heq.symm
        · exact hi hmem

end World

end DiscoveryServer
