import DiscoveryServer.Account

/-!
# The life of participants and endpoints

Every event keeps the account (`accounted_execute`), so every run does. What the
account says about the calls then says that no endpoint is deleted twice or after
its participant, and terminal clean-up closes the account (`entityLifecycle`).
-/

namespace DiscoveryServer

open Library

/-! ## Events -/

/-- The subscriber or publisher a new participant gets. -/
def Reply.pubSub (reply : Reply) (p : DomainParticipant) : ReaderWriter → Option PubSub
  | .dataReader => if reply.subscriber then some ⟨.dataReader, p⟩ else none
  | .dataWriter => if reply.publisher then some ⟨.dataWriter, p⟩ else none

namespace World

variable {w w' : World}

/-- The account of a world. -/
def Accounted (w : World) : Prop :=
  DiscoveryServer.Accounted w.manager.holdings w.nextId w.calls

theorem accounted_withManager {m : DiscoveryServerManager} {h : Holdings} (hm : m.holdings = h)
    (acc : DiscoveryServer.Accounted h w.nextId w.calls) : (w.withManager m).Accounted := by
  show DiscoveryServer.Accounted m.holdings w.nextId w.calls
  rw [hm]
  exact acc

/-- The participants that are found are live. -/
theorem Accounted.live_of_participant (acc : w.Accounted) {g : Guid} {p : DomainParticipant}
    (h : w.manager.holdings.participant g = some p) : p ∈ participantCalls.live w.calls := by
  obtain ⟨r, hr⟩ := (acc.participant_iff g p).mp h
  exact (acc.filed_live r g p hr).2

theorem Accounted.live_of_getParticipant (acc : w.Accounted) {g : Guid} {p : DomainParticipant}
    (h : w.manager.getParticipant g = some p) : p ∈ participantCalls.live w.calls := by
  unfold DiscoveryServerManager.getParticipant at h
  cases hinfo : w.manager.entityMap.get? g with
  | none =>
    rw [hinfo] at h
    obtain ⟨r, hr⟩ := DiscoveryServerManager.filed_eq_some h
    exact (acc.filed_live r g p hr).2
  | some i =>
    rw [hinfo] at h
    refine acc.live_of_participant (g := g) ?_
    show (w.manager.info g).participant = some p
    unfold DiscoveryServerManager.info
    rw [hinfo]
    exact h

/-- What the creation of a participant does, when it is not cut short. -/
theorem participantCreation_spec {this : EventPtr} {event : DelayedParticipantCreation}
    {reply : Reply} (h : event.execute this reply w = some w') :
    ∃ guid p, reply.participant = some guid ∧ p = ⟨w.nextId, guid, event.qos.name⟩ ∧
      w'.calls = .createParticipant p :: w.calls ∧ w'.nextId = w.nextId + 1 ∧
      w'.manager.holdings =
        w.manager.holdings.file event.participantCreationFunction p (reply.pubSub p) ∧
      w'.manager.events = ((w.manager.modifyEvent this fun _ =>
        .participantCreation { event with participantGuid := guid }).setGuid
          event.removalEvent guid).events ∧
      w'.manager.state = w.manager.state := by
  unfold DelayedParticipantCreation.execute at h
  cases hguid : reply.participant with
  | none =>
    rw [hguid] at h
    cases h
  | some guid =>
    rw [hguid] at h
    cases h
    refine ⟨guid, ⟨w.nextId, guid, event.qos.name⟩, rfl, rfl, rfl, rfl, ?_, ?_, ?_⟩
    · show (DiscoveryServerManager.setParticipantInfo _ _ _).holdings = _
      rw [DiscoveryServerManager.holdings_setParticipantInfo,
        DiscoveryServerManager.holdings_setGuid, DiscoveryServerManager.holdings_modifyEvent,
        DiscoveryServerManager.holdings_creationFunction]
      refine Holdings.ext rfl rfl ?_ rfl
      funext k g
      cases k <;> rfl
    · show (DiscoveryServerManager.setGuid _ _ _).events = _
      cases event.removalEvent <;> cases event.participantCreationFunction <;> rfl
    · show (DiscoveryServerManager.setGuid _ _ _).state = _
      cases event.removalEvent <;> cases event.participantCreationFunction <;> rfl

theorem accounted_participantCreation {this : EventPtr} {event : DelayedParticipantCreation}
    {reply : Reply} (acc : w.Accounted) (h : event.execute this reply w = some w')
    (hdistinct : DistinctPrefixes w'.calls) : w'.Accounted := by
  obtain ⟨guid, p, _, rfl, hcalls, hid, hholdings, _, _⟩ := participantCreation_spec h
  rw [hcalls] at hdistinct
  have hpubSub : ∀ k s, reply.pubSub ⟨w.nextId, guid, event.qos.name⟩ k = some s →
      s.participant = ⟨w.nextId, guid, event.qos.name⟩ := by
    intro k s hs
    cases k with
    | dataReader =>
      obtain ⟨_, hs⟩ := Option.ite_none_right_eq_some.mp hs
      exact (congrArg PubSub.participant (Option.some.inj hs)).symm
    | dataWriter =>
      obtain ⟨_, hs⟩ := Option.ite_none_right_eq_some.mp hs
      exact (congrArg PubSub.participant (Option.some.inj hs)).symm
  show DiscoveryServer.Accounted w'.manager.holdings w'.nextId w'.calls
  rw [hholdings, hid, hcalls]
  exact DiscoveryServer.Accounted.file acc event.participantCreationFunction rfl hdistinct _ hpubSub

theorem accounted_participantDestruction (acc : w.Accounted)
    (event : DelayedParticipantDestruction) : (event.execute w).Accounted := by
  let id := event.participantId
  have hone := fun r r' p p' => acc.one_role r r' id p p'
  have hremove := DiscoveryServerManager.holdings_removeParticipant w.manager id hone
  show ((w.withManager (w.manager.removeParticipant id).1).deleteParticipant
    (w.manager.filed id)).Accounted
  cases hfiled : w.manager.filed id with
  | none =>
    -- nobody to delete: at most endpoints have gone
    have hfew : (w.manager.removeParticipant id).1.holdings = { w.manager.holdings with
        endpoint := (w.manager.holdings.forget id).endpoint } := by
      rw [hremove]
      refine Holdings.ext ?_ rfl rfl rfl
      funext r g
      show (if g = id then none else w.manager.holdings.filed r g) = _
      split_ifs with hg
      · rw [hg, DiscoveryServerManager.filed_eq_none hfiled r]
      · rfl
    refine accounted_withManager hfew (DiscoveryServer.Accounted.of_endpoint_le acc ?_)
    intro k g e he
    by_cases hg : id.guidPrefix = g.guidPrefix
    · exact absurd ((if_pos hg).symm.trans he) nofun
    · exact (if_neg hg).symm.trans he
  | some p =>
    obtain ⟨r, hr⟩ := DiscoveryServerManager.filed_eq_some hfiled
    have hguid := (acc.filed_live r id p hr).1
    refine cast (congrArg (fun h => DiscoveryServer.Accounted h _ _) ?_)
      (DiscoveryServer.Accounted.forget acc hr)
    show _ = DiscoveryServerManager.holdings { (w.manager.removeParticipant id).1 with
      entityMap := (w.manager.removeParticipant id).1.entityMap.erase p.guid }
    rw [DiscoveryServerManager.holdings_eraseInfo, hremove, hguid]
    rfl

theorem accounted_registerType (acc : w.Accounted) {part : DomainParticipant}
    (hpart : part ∈ participantCalls.live w.calls) : (w.call (.registerType part)).Accounted :=
  DiscoveryServer.Accounted.useParticipant acc hpart (.registerType part)

theorem accounted_participantTopic (acc : w.Accounted) {part : DomainParticipant}
    (hpart : part ∈ participantCalls.live w.calls) (name typeName : String)
    (profileName : Option String) (reply : Reply) :
    (w.participantTopic part name typeName profileName reply).1.Accounted ∧
      (w.participantTopic part name typeName profileName reply).1.manager.holdings =
        w.manager.holdings := by
  unfold participantTopic
  cases w.manager.getParticipantTopicByName (some part) name with
  | some topic => exact ⟨acc, rfl⟩
  | none =>
    dsimp only
    refine ⟨accounted_withManager (DiscoveryServerManager.holdings_setParticipantTopic _ _ _) ?_,
      DiscoveryServerManager.holdings_setParticipantTopic _ _ _⟩
    exact DiscoveryServer.Accounted.useParticipant acc hpart (.createTopic ..)

theorem accounted_topic (acc : w.Accounted) (event : DelayedEndpointCreation)
    {part : DomainParticipant} (hpart : part ∈ participantCalls.live w.calls) (reply : Reply) :
    (event.topic reply w part).1.Accounted ∧
      (event.topic reply w part).1.manager.holdings = w.manager.holdings := by
  unfold DelayedEndpointCreation.topic
  split_ifs
  · exact accounted_participantTopic acc hpart _ _ _ reply
  · exact accounted_participantTopic acc hpart _ _ _ reply

theorem live_of_part (acc : w.Accounted) {event : DelayedEndpointCreation}
    {part : DomainParticipant} (h : event.part w.manager = some part) :
    part ∈ participantCalls.live w.calls := by
  unfold DelayedEndpointCreation.part at h
  cases hdirect : w.manager.getParticipant event.participantGuid with
  | some p =>
    rw [hdirect] at h
    cases h
    exact acc.live_of_getParticipant hdirect
  | none =>
    rw [hdirect] at h
    cases howner : event.ownerEvent with
    | none =>
      rw [howner] at h
      cases h
    | some owner =>
      rw [howner] at h
      obtain ⟨g, _, hg⟩ := Option.bind_eq_some_iff.mp h
      have accRead : (w.withManager (w.manager.readInfo event.participantGuid)).Accounted :=
        accounted_withManager (DiscoveryServerManager.holdings_readInfo _ _) acc
      exact accRead.live_of_getParticipant hg

theorem accounted_createEndpoint_none (acc : w.Accounted) {pubsub : PubSub}
    (hpub : pubsub.participant ∈ participantCalls.live w.calls) (kind : ReaderWriter)
    (topic : Option Topic) (profileName : String) {reply : Reply} (hreply : reply.endpoint = none) :
    (w.createEndpoint kind pubsub topic profileName reply).1.Accounted := by
  have accCall : (w.call (.createEndpoint pubsub topic profileName none)).Accounted :=
    DiscoveryServer.Accounted.useParticipant acc hpub (.createEndpoint ..)
  unfold createEndpoint
  rw [hreply]
  exact { accCall with marked := fun c hc => (accCall.marked c hc).mono (Nat.le_succ _) }

/-- The events that create an endpoint: what they get as far as. -/
theorem endpointCreation_cases {event : DelayedEndpointCreation} {reply : Reply}
    (h : event.execute reply w = some w') :
    (event.part w.manager = none ∧
        w' = w.withManager (w.manager.readInfo event.participantGuid)) ∨
      ∃ part pubsub, event.part w.manager = some part ∧
        (w.manager.info event.participantGuid).pubSub event.kind = some pubsub ∧
        ∃ wType wTopic topic,
          wType = (w.withManager (w.manager.readInfo event.participantGuid)).call
            (.registerType part) ∧
          event.topic reply wType part = (wTopic, topic) ∧
          ∃ wEnd endpoint, wTopic.createEndpoint event.kind pubsub topic
              event.endpointProfileName reply = (wEnd, endpoint) ∧
            w' = wEnd.withManager (match endpoint with
              | none => wEnd.manager.setDomainEntityTopic none topic
              | some e => LateJoinerDataTraits.addEndpointFunction event.kind
                  ((wEnd.manager.setDomainEntityTopic (some e) topic).setGuid
                    event.linkedDestructionEvent e.guid) (some e)) := by
  unfold DelayedEndpointCreation.execute at h
  dsimp only [DiscoveryServerManager.getPubSubEntityFromParticipantGuid] at h
  cases hpart : event.part w.manager with
  | none =>
    rw [hpart] at h
    cases h
    exact .inl ⟨rfl, rfl⟩
  | some part =>
    rw [hpart] at h
    dsimp only at h
    cases hpub : (w.manager.info event.participantGuid).pubSub event.kind with
    | none =>
      rw [hpub] at h
      cases h
    | some pubsub =>
      rw [hpub] at h
      dsimp only at h
      refine .inr ⟨part, pubsub, rfl, rfl, _, _, _, rfl, rfl, _, _, rfl, ?_⟩
      cases hreply : reply.endpoint with
      | none =>
        simp only [createEndpoint, hreply, Option.map_none] at h ⊢
        exact (Option.some.inj h).symm
      | some entityId =>
        simp only [createEndpoint, hreply, Option.map_some] at h ⊢
        exact (Option.some.inj h).symm

theorem addEndpointFunction_eq (k : ReaderWriter) :
    LateJoinerDataTraits.addEndpointFunction k = DiscoveryServerManager.addEndpoint k := by
  cases k <;> rfl

theorem accounted_endpointCreation {event : DelayedEndpointCreation} {reply : Reply}
    (acc : w.Accounted) (h : event.execute reply w = some w') : w'.Accounted := by
  have accRead : (w.withManager (w.manager.readInfo event.participantGuid)).Accounted :=
    accounted_withManager (DiscoveryServerManager.holdings_readInfo _ _) acc
  rcases endpointCreation_cases h with ⟨_, rfl⟩ | ⟨part, pubsub, hpart, hpub, wType, wTopic, topic,
    rfl, htopic, wEnd, endpoint, hend, rfl⟩
  · exact accRead
  · have hlive : part ∈ participantCalls.live w.calls := live_of_part acc hpart
    have accType := accounted_registerType accRead hlive
    have hlive' := (participantCalls.mem_live_cons (c := .registerType part)).mpr
      (.inr ⟨hlive, by simp [participantCalls]⟩)
    obtain ⟨accTopic, hholdings⟩ := accounted_topic accType event hlive' reply
    rw [htopic] at accTopic hholdings
    -- the publisher or subscriber belongs to a live participant
    have hsame : wTopic.manager.holdings = w.manager.holdings :=
      hholdings.trans (DiscoveryServerManager.holdings_readInfo _ _)
    have hpubSub : wTopic.manager.holdings.pubSub event.kind event.participantGuid =
        some pubsub := by
      rw [hsame]
      exact hpub
    have howner : pubsub.participant ∈ participantCalls.live wTopic.calls :=
      accTopic.live_of_participant (accTopic.pubSub_participant _ _ _ hpubSub)
    cases hreply : reply.endpoint with
    | none =>
      have accEnd := accounted_createEndpoint_none accTopic howner event.kind topic
        event.endpointProfileName hreply
      rw [hend] at accEnd
      unfold createEndpoint at hend
      rw [hreply] at hend
      cases hend
      refine accounted_withManager ?_ accEnd
      exact DiscoveryServerManager.holdings_setDomainEntityTopic _ _ _
    | some entityId =>
      unfold createEndpoint at hend
      rw [hreply] at hend
      cases hend
      dsimp only
      have accEnd := DiscoveryServer.Accounted.keepEndpoint accTopic (k := event.kind) howner topic
        event.endpointProfileName
        (e := ⟨wTopic.nextId, event.kind, ⟨pubsub.participant.guid.guidPrefix, entityId⟩,
          pubsub.participant⟩) rfl rfl rfl rfl
      refine cast (congrArg (fun h => DiscoveryServer.Accounted h _ _) ?_) accEnd
      show _ = (LateJoinerDataTraits.addEndpointFunction _ _ _).holdings
      rw [addEndpointFunction_eq, DiscoveryServerManager.holdings_addEndpoint,
        DiscoveryServerManager.holdings_setGuid,
        DiscoveryServerManager.holdings_setDomainEntityTopic]
      rfl

theorem retrieveEndpointFunction_eq (k : ReaderWriter) :
    LateJoinerDataTraits.retrieveEndpointFunction k = DiscoveryServerManager.removeEndpoint k := by
  cases k <;> rfl

theorem removeEndpointFunction_eq (k : ReaderWriter) :
    LateJoinerDataTraits.removeEndpointFunction k = deleteEndpoint k := by
  cases k <;> rfl

theorem Accounted.useEndpoint (acc : w.Accounted) {e : Endpoint}
    (he : e ∈ endpointCalls.live w.calls) : (w.call (.useEndpoint e)).Accounted := by
  refine DiscoveryServer.Accounted.call acc trivial rfl rfl (fun p => ?_) (fun e => ?_)
    (fun p hp => ?_) ?_
  · simp [participantCalls]
  · simp [endpointCalls]
  · exact absurd hp (by simp [participantCalls])
  · rintro e' (hc | hc)
    · cases hc
      exact he
    · cases hc

theorem accounted_deleteEndpoint (acc : w.Accounted) (k : ReaderWriter) {e : Endpoint}
    (he : e ∈ endpointCalls.live w.calls) (hout : ∀ k g, w.manager.holdings.endpoint k g ≠ some e) :
    (deleteEndpoint k w (some e)).Accounted := by
  have accUse := acc.useEndpoint he
  have hlive : e ∈ endpointCalls.live (.useEndpoint e :: w.calls) :=
    endpointCalls.mem_live_cons.mpr (.inr ⟨he, by simp [endpointCalls]⟩)
  have accRead : ((w.call (.useEndpoint e)).withManager
      (w.manager.readInfo e.participant.guid)).Accounted :=
    accounted_withManager (DiscoveryServerManager.holdings_readInfo _ _) accUse
  unfold deleteEndpoint
  dsimp only
  cases ((w.call (.useEndpoint e)).manager.info e.participant.guid).pubSub k with
  | none => exact accRead
  | some sub => exact DiscoveryServer.Accounted.deleteEndpoint accRead hlive fun k g => hout k g

theorem accounted_endpointDestruction (acc : w.Accounted) (event : DelayedEndpointDestruction) :
    (event.execute w).Accounted := by
  unfold DelayedEndpointDestruction.execute
  rw [retrieveEndpointFunction_eq, removeEndpointFunction_eq]
  have hdrop := DiscoveryServerManager.holdings_removeEndpoint event.kind w.manager
    event.endpointGuid
  have hfound := DiscoveryServerManager.removeEndpoint_snd event.kind w.manager event.endpointGuid
  have accDrop : (w.withManager (DiscoveryServerManager.removeEndpoint event.kind w.manager
      event.endpointGuid).1).Accounted :=
    accounted_withManager hdrop (DiscoveryServer.Accounted.dropEndpoint acc _ _)
  cases hremove : DiscoveryServerManager.removeEndpoint event.kind w.manager event.endpointGuid with
  | mk m endpoint =>
    rw [hremove] at hdrop hfound accDrop
    cases endpoint with
    | none => exact accDrop
    | some e =>
      obtain ⟨hguid, hkind, hlive⟩ := acc.endpoint_live _ _ e hfound.symm
      refine accounted_deleteEndpoint (accDrop.useEndpoint hlive) event.kind
        (endpointCalls.mem_live_cons.mpr (.inr ⟨hlive, by simp [endpointCalls]⟩)) ?_
      -- it was stored under its own kind and GUID only
      intro k g hk
      have hk : (w.manager.holdings.dropEndpoint event.kind event.endpointGuid).endpoint k g =
          some e := hdrop ▸ hk
      by_cases hkg : k = event.kind ∧ g = event.endpointGuid
      · have hnone : none = some e := (if_pos hkg).symm.trans hk
        cases hnone
      · obtain ⟨hguid', hkind', _⟩ := acc.endpoint_live k g e ((if_neg hkg).symm.trans hk)
        exact hkg ⟨hkind'.symm.trans hkind, hguid'.symm.trans hguid⟩

/-- What the execution of an event was, by the kind of the event. -/
inductive Executed (w : World) (step : EventPtr × Reply) : World → Prop
  | participantCreation {w' : World} (event : DelayedParticipantCreation)
      (hevent : w.manager.events[step.1]? = some (.participantCreation event))
      (h : event.execute step.1 step.2 w = some w') : Executed w step w'
  | participantDestruction (event : DelayedParticipantDestruction)
      (hevent : w.manager.events[step.1]? = some (.participantDestruction event)) :
      Executed w step (event.execute w)
  | endpointCreation {w' : World} (event : DelayedEndpointCreation)
      (hevent : w.manager.events[step.1]? = some (.endpointCreation event))
      (h : event.execute step.2 w = some w') : Executed w step w'
  | endpointDestruction (event : DelayedEndpointDestruction)
      (hevent : w.manager.events[step.1]? = some (.endpointDestruction event)) :
      Executed w step (event.execute w)
  | snapshot (event : DelayedSnapshot)
      (hevent : w.manager.events[step.1]? = some (.snapshot event)) :
      Executed w step (event.execute step.2 w)
  | environmentModification (event : DelayedEnvironmentModification)
      (hevent : w.manager.events[step.1]? = some (.environmentModification event)) :
      Executed w step (event.execute w)

theorem executed {step : EventPtr × Reply} (h : w.execute step = some w') :
    w.Executed step w' := by
  unfold execute at h
  cases hevent : w.manager.events[step.1]? with
  | none =>
    rw [hevent] at h
    cases h
  | some event =>
    rw [hevent] at h
    cases event with
    | participantCreation event => exact .participantCreation event hevent h
    | participantDestruction event =>
      cases h
      exact .participantDestruction event hevent
    | endpointCreation event => exact .endpointCreation event hevent h
    | endpointDestruction event =>
      cases h
      exact .endpointDestruction event hevent
    | snapshot event =>
      cases h
      exact .snapshot event hevent
    | environmentModification event =>
      cases h
      exact .environmentModification event hevent

/-- **One event.** -/
theorem accounted_execute {step : EventPtr × Reply} (acc : w.Accounted)
    (h : w.execute step = some w') (hdistinct : DistinctPrefixes w'.calls) : w'.Accounted := by
  cases executed h with
  | participantCreation event hevent h => exact accounted_participantCreation acc h hdistinct
  | participantDestruction event hevent => exact accounted_participantDestruction acc event
  | endpointCreation event hevent h => exact accounted_endpointCreation acc h
  | endpointDestruction event hevent => exact accounted_endpointDestruction acc event
  | snapshot event hevent =>
    exact accounted_withManager (DiscoveryServerManager.holdings_takeSnapshot _ _ _ _ _) acc
  | environmentModification event hevent => exact acc

/-- The creation of an endpoint is cut short only where a method of a null publisher
or subscriber is called. -/
theorem endpointCreation_eq_none {event : DelayedEndpointCreation} {reply : Reply}
    (h : event.execute reply w = none) : (event.part w.manager).isSome ∧
      (w.manager.info event.participantGuid).pubSub event.kind = none := by
  unfold DelayedEndpointCreation.execute at h
  dsimp only [DiscoveryServerManager.getPubSubEntityFromParticipantGuid] at h
  cases hpart : event.part w.manager with
  | none =>
    rw [hpart] at h
    cases h
  | some part =>
    refine ⟨rfl, ?_⟩
    rw [hpart] at h
    dsimp only at h
    cases hpub : (w.manager.info event.participantGuid).pubSub event.kind with
    | none => rfl
    | some pubsub =>
      rw [hpub] at h
      dsimp only at h
      cases hreply : reply.endpoint with
      | none =>
        simp only [createEndpoint, hreply, Option.map_none] at h
        cases h
      | some entityId =>
        simp only [createEndpoint, hreply, Option.map_some] at h
        cases h

/-- An event is cut short only where the source calls a null object. -/
theorem execute_eq_none {step : EventPtr × Reply} {event : LateJoinerData}
    (hevent : w.manager.events[step.1]? = some event) (h : w.execute step = none) :
    (∃ creation, event = .participantCreation creation ∧ step.2.participant = none) ∨
      ∃ creation, event = .endpointCreation creation ∧ (creation.part w.manager).isSome ∧
        (w.manager.info creation.participantGuid).pubSub creation.kind = none := by
  unfold execute at h
  rw [hevent] at h
  cases event with
  | participantCreation event =>
    refine .inl ⟨event, rfl, ?_⟩
    by_contra hsome
    obtain ⟨guid, hguid⟩ := Option.ne_none_iff_exists'.mp hsome
    simp only [DelayedParticipantCreation.execute, hguid] at h
    cases h
  | endpointCreation event => exact .inr ⟨event, rfl, endpointCreation_eq_none h⟩
  | participantDestruction event => cases h
  | endpointDestruction event => cases h
  | snapshot event => cases h
  | environmentModification event => cases h

/-! ## Runs -/

/-- What events do not take back: the calls made, and that nothing has terminated. -/
structure Later (w w' : World) : Prop where
  calls : w.calls <:+ w'.calls
  noCallbacks : w'.manager.noCallbacks = w.manager.noCallbacks

namespace Later

theorem refl (w : World) : Later w w := ⟨List.suffix_rfl, rfl⟩

theorem trans {u : World} (h : Later w w') (h' : Later w' u) : Later w u :=
  ⟨h.calls.trans h'.calls, h'.noCallbacks.trans h.noCallbacks⟩

theorem call (w : World) (c : DdsCall) : Later w (w.call c) := ⟨List.suffix_cons c _, rfl⟩

theorem withManager (w : World) {m : DiscoveryServerManager}
    (h : m.noCallbacks = w.manager.noCallbacks) : Later w (w.withManager m) :=
  ⟨List.suffix_rfl, h⟩

end Later

theorem noCallbacks_setParticipantTopic (m : DiscoveryServerManager)
    (p : Option DomainParticipant) (t : Option Topic) :
    (m.setParticipantTopic p t).noCallbacks = m.noCallbacks := by
  unfold DiscoveryServerManager.setParticipantTopic
  cases p with
  | none => rfl
  | some p =>
    cases t with
    | none => rfl
    | some t =>
      dsimp only
      cases m.entityMap.get? p.guid <;> rfl

theorem noCallbacks_setDomainEntityTopic (m : DiscoveryServerManager) (e : Option Endpoint)
    (t : Option Topic) : (m.setDomainEntityTopic e t).noCallbacks = m.noCallbacks := by
  cases e <;> cases t <;> rfl

theorem noCallbacks_setGuid (m : DiscoveryServerManager) (p : Option EventPtr) (id : Guid) :
    (m.setGuid p id).noCallbacks = m.noCallbacks := by
  cases p <;> rfl

theorem noCallbacks_setEndpoints (m : DiscoveryServerManager) (k : ReaderWriter)
    (es : OrdMap Guid Endpoint) : (m.setEndpoints k es).noCallbacks = m.noCallbacks := by
  cases k <;> rfl

theorem noCallbacks_removeEndpoint (k : ReaderWriter) (m : DiscoveryServerManager) (id : Guid) :
    (DiscoveryServerManager.removeEndpoint k m id).1.noCallbacks = m.noCallbacks := by
  unfold DiscoveryServerManager.removeEndpoint
  cases (m.endpoints k).get? id with
  | none => rfl
  | some e => exact noCallbacks_setEndpoints m k _

theorem noCallbacks_unfile (m : DiscoveryServerManager) (id : Guid) :
    (m.unfile id).noCallbacks = m.noCallbacks := by
  unfold DiscoveryServerManager.unfile
  cases m.clients.get? id with
  | some c => rfl
  | none => cases m.servers.get? id <;> rfl

theorem later_participantTopic (part : DomainParticipant) (name typeName : String)
    (profileName : Option String) (reply : Reply) :
    Later w (w.participantTopic part name typeName profileName reply).1 := by
  unfold participantTopic
  cases w.manager.getParticipantTopicByName (some part) name with
  | some topic => exact .refl w
  | none =>
    exact (Later.call w _).trans (.withManager _ (noCallbacks_setParticipantTopic _ _ _))

theorem later_topic (event : DelayedEndpointCreation) (reply : Reply) (part : DomainParticipant) :
    Later w (event.topic reply w part).1 := by
  unfold DelayedEndpointCreation.topic
  split_ifs
  · exact later_participantTopic part _ _ _ reply
  · exact later_participantTopic part _ _ _ reply

theorem later_endpointCreation {event : DelayedEndpointCreation} {reply : Reply}
    (h : event.execute reply w = some w') : Later w w' := by
  have hread : Later w (w.withManager (w.manager.readInfo event.participantGuid)) :=
    .withManager w rfl
  rcases endpointCreation_cases h with ⟨_, rfl⟩ | ⟨part, pubsub, _, _, wType, wTopic, topic,
    rfl, htopic, wEnd, endpoint, hend, rfl⟩
  · exact hread
  · have hw : Later w wTopic := by
      refine (hread.trans (.call _ (.registerType part))).trans ?_
      have hfst : _ = wTopic := congrArg Prod.fst htopic
      rw [← hfst]
      exact later_topic event reply part
    have hcall : Later wTopic wEnd := by
      cases hend
      exact ⟨List.suffix_cons _ _, rfl⟩
    refine (hw.trans hcall).trans (.withManager wEnd ?_)
    cases endpoint with
    | none => exact noCallbacks_setDomainEntityTopic _ _ _
    | some e =>
      dsimp only
      rw [addEndpointFunction_eq]
      refine (noCallbacks_setEndpoints _ _ _).trans ?_
      rw [noCallbacks_setGuid, noCallbacks_setDomainEntityTopic]

theorem later_deleteParticipant (p : Option DomainParticipant) :
    Later w (w.deleteParticipant p) := by
  cases p with
  | none => exact .refl w
  | some p => exact ⟨List.suffix_append (Accounted.deletion p) _, rfl⟩

theorem later_deleteEndpoint (k : ReaderWriter) (e : Option Endpoint) :
    Later w (deleteEndpoint k w e) := by
  cases e with
  | none => exact .refl w
  | some e =>
    unfold deleteEndpoint
    dsimp only
    have huse : Later w ((w.call (.useEndpoint e)).withManager
        (w.manager.readInfo e.participant.guid)) :=
      (Later.call w _).trans (.withManager _ rfl)
    cases ((w.call (.useEndpoint e)).manager.info e.participant.guid).pubSub k with
    | none => exact huse
    | some sub => exact huse.trans (.call _ _)

theorem later_execute {step : EventPtr × Reply} (h : w.execute step = some w') : Later w w' := by
  cases executed h with
  | participantCreation event hevent h =>
    unfold DelayedParticipantCreation.execute at h
    cases hguid : step.2.participant with
    | none =>
      rw [hguid] at h
      cases h
    | some guid =>
      rw [hguid] at h
      cases h
      refine ⟨List.suffix_cons _ _, ?_⟩
      refine (noCallbacks_setGuid _ _ _).trans ?_
      cases event.participantCreationFunction <;> rfl
  | participantDestruction event hevent =>
    have hremove : Later w (w.withManager (w.manager.removeParticipant event.participantId).1) :=
      .withManager w (noCallbacks_unfile _ _)
    exact hremove.trans (later_deleteParticipant _)
  | endpointCreation event hevent h => exact later_endpointCreation h
  | endpointDestruction event hevent =>
    unfold DelayedEndpointDestruction.execute
    rw [retrieveEndpointFunction_eq, removeEndpointFunction_eq]
    have hremove : Later w (w.withManager (DiscoveryServerManager.removeEndpoint event.kind
        w.manager event.endpointGuid).1) := .withManager w (noCallbacks_removeEndpoint _ _ _)
    cases hend : DiscoveryServerManager.removeEndpoint event.kind w.manager
        event.endpointGuid with
    | mk m endpoint =>
      rw [hend] at hremove
      cases endpoint with
      | none => exact hremove
      | some e => exact (hremove.trans (.call _ _)).trans (later_deleteEndpoint _ _)
  | snapshot event hevent => exact .withManager w rfl
  | environmentModification event hevent => exact ⟨List.suffix_rfl, rfl⟩

theorem later_executeAll {steps : List (EventPtr × Reply)} (h : w.executeAll steps = some w') :
    Later w w' :=
  run?_relation Later Later.refl (fun _ _ _ _ hstep hrest => (later_execute hstep).trans hrest) h

/-- The manager before any participant is created, the calls still to be made. -/
def start (m : DiscoveryServerManager) : World where
  manager := { m with
    servers := ∅
    clients := ∅
    simples := ∅
    entityMap := ∅
    dataReaders := ∅
    dataWriters := ∅
    noCallbacks := false }
  nextId := 0
  calls := []

theorem accounted_start (m : DiscoveryServerManager) : (start m).Accounted := by
  have hfiled : ∀ r g p, (start m).manager.holdings.filed r g ≠ some p := by
    intro r g p
    cases r <;> exact nofun
  have hpubSub : ∀ k g s, (start m).manager.holdings.pubSub k g ≠ some s := by
    intro k g s
    cases k <;> exact nofun
  have hendpoint : ∀ k g e, (start m).manager.holdings.endpoint k g ≠ some e := by
    intro k g e
    cases k <;> exact nofun
  refine ⟨trivial, trivial, nofun, fun r g p h => absurd h (hfiled r g p),
    fun r _ g p _ h => absurd h (hfiled r g p), nofun, fun g p => ⟨nofun, ?_⟩,
    fun k g s h => absurd h (hpubSub k g s), fun k g e h => absurd h (hendpoint k g e)⟩
  rintro ⟨r, hr⟩
  exact absurd hr (hfiled r g p)

/-- **Every run.** -/
theorem accounted_executeAll {steps : List (EventPtr × Reply)} (acc : w.Accounted)
    (h : w.executeAll steps = some w') (hdistinct : DistinctPrefixes w'.calls) : w'.Accounted := by
  have hrun : DistinctPrefixes w'.calls → w.Accounted → w'.Accounted := by
    refine (run?_relation (fun w w' => Later w w' ∧
      (DistinctPrefixes w'.calls → w.Accounted → w'.Accounted)) ?_ ?_ h).2
    · intro w
      exact ⟨.refl w, fun _ acc => acc⟩
    · intro w step v u hstep ⟨hlater, hrest⟩
      refine ⟨(later_execute hstep).trans hlater, fun hdistinct acc => hrest hdistinct ?_⟩
      exact accounted_execute acc hstep (distinctPrefixes_of_suffix hlater.calls hdistinct)
  exact hrun hdistinct acc

/-! ## Terminal clean-up -/

/-- Some live participants are gone, and nothing else has happened. -/
structure Cleaned (w w' : World) (gone : DomainParticipant → Prop) : Prop where
  manager : w'.manager = w.manager
  nextId : w'.nextId = w.nextId
  calls : w.calls <:+ w'.calls
  participants_sound : participantCalls.Sound w'.calls
  endpoints_sound : endpointCalls.Sound w'.calls
  marked : ∀ c ∈ w'.calls, Marked w'.nextId c
  live_iff : ∀ q, q ∈ participantCalls.live w'.calls ↔
    q ∈ participantCalls.live w.calls ∧ ¬ gone q

theorem Cleaned.trans {u : World} {gone gone' : DomainParticipant → Prop} (h : Cleaned w w' gone)
    (h' : Cleaned w' u gone') : Cleaned w u fun p => gone p ∨ gone' p where
  manager := h'.manager.trans h.manager
  nextId := h'.nextId.trans h.nextId
  calls := h.calls.trans h'.calls
  participants_sound := h'.participants_sound
  endpoints_sound := h'.endpoints_sound
  marked := h'.marked
  live_iff q := by rw [h'.live_iff, h.live_iff, not_or, and_assoc]

/-- The participants of one role, each once and all of them live. -/
theorem cleaned_cleanUp {ps : OrdMap Guid DomainParticipant}
    (hguid : ∀ g p, ps.get? g = some p → p.guid = g)
    (hlive : ∀ p ∈ ps.values, p ∈ participantCalls.live w.calls)
    (hsound : participantCalls.Sound w.calls) (hsound' : endpointCalls.Sound w.calls)
    (hmarked : ∀ c ∈ w.calls, Marked w.nextId c) : Cleaned w (w.cleanUp ps) (· ∈ ps.values) := by
  have hnodup : ps.values.Nodup := OrdMap.nodup_values (f := DomainParticipant.guid) hguid
  unfold cleanUp
  generalize ps.values = l at hnodup hlive
  induction l generalizing w with
  | nil => exact ⟨rfl, rfl, List.suffix_rfl, hsound, hsound', hmarked, fun q => by simp⟩
  | cons p l ih =>
    obtain ⟨hp, hnodup⟩ := List.nodup_cons.mp hnodup
    have hmem : ∀ q, q ∈ participantCalls.live (Accounted.deletion p ++ w.calls) ↔
        q ∈ participantCalls.live w.calls ∧ q ≠ p := Accounted.mem_live_deletion p
    have hfirst : Cleaned w { w with calls := Accounted.deletion p ++ w.calls } (· = p) :=
      ⟨rfl, rfl, List.suffix_append _ _,
        Accounted.sound_deletion (hlive p List.mem_cons_self) hsound,
        Accounted.sound_endpoints_deletion p hsound', Accounted.marked_deletion p hmarked, hmem⟩
    have hrest := ih hfirst.participants_sound hfirst.endpoints_sound hfirst.marked hnodup
      fun q hq => (hmem q).mpr ⟨hlive q (List.mem_cons_of_mem p hq), fun h => hp (h ▸ hq)⟩
    have hall := hfirst.trans hrest
    refine { hall with live_iff := fun q => ?_ }
    rw [List.mem_cons]
    exact hall.live_iff q

/-- **Termination.** All participants are gone. -/
theorem cleaned_onTerminate (acc : w.Accounted) (hrunning : w.manager.noCallbacks = false) :
    ∃ w', w.onTerminate.calls = w'.calls ∧
      Cleaned w w' fun p => p ∈ participantCalls.live w.calls := by
  have hguid : ∀ r g p, (w.manager.participants r).get? g = some p → p.guid = g :=
    fun r g p h => (acc.filed_live r g p h).1
  have hvalues : ∀ r p, p ∈ (w.manager.participants r).values →
      (w.manager.participants r).get? p.guid = some p := by
    intro r p hp
    obtain ⟨g, hg⟩ := OrdMap.mem_values.mp hp
    rw [hguid r g p hg]
    exact hg
  have hlive : ∀ r p, p ∈ (w.manager.participants r).values →
      p ∈ participantCalls.live w.calls :=
    fun r p hp => (acc.filed_live r _ p (hvalues r p hp)).2
  -- a participant cleaned up under one role is not met under another
  have hapart : ∀ r r' p, r ≠ r' → p ∈ (w.manager.participants r).values →
      p ∉ (w.manager.participants r').values :=
    fun r r' p hne hp hp' => hne (acc.one_role r r' p.guid p p (hvalues r p hp) (hvalues r' p hp'))
  let w₀ := w.withManager { w.manager with noCallbacks := true }
  let w₁ := w₀.cleanUp w.manager.clients
  let w₂ := w₁.cleanUp w.manager.simples
  let w₃ := w₂.cleanUp w.manager.servers
  have h₁ : Cleaned w₀ w₁ (· ∈ w.manager.clients.values) :=
    cleaned_cleanUp (w := w₀) (hguid .client) (hlive .client) acc.participants_sound
      acc.endpoints_sound acc.marked
  have h₂ : Cleaned w₁ w₂ (· ∈ w.manager.simples.values) :=
    cleaned_cleanUp (w := w₁) (hguid .simple)
      (fun p hp =>
        (h₁.live_iff p).mpr ⟨hlive .simple p hp, hapart .simple .client p (by decide) hp⟩)
      h₁.participants_sound h₁.endpoints_sound h₁.marked
  have h₃ : Cleaned w₂ w₃ (· ∈ w.manager.servers.values) :=
    cleaned_cleanUp (w := w₂) (hguid .server)
      (fun p hp => (h₂.live_iff p).mpr ⟨(h₁.live_iff p).mpr
        ⟨hlive .server p hp, hapart .server .client p (by decide) hp⟩,
          hapart .server .simple p (by decide) hp⟩)
      h₂.participants_sound h₂.endpoints_sound h₂.marked
  have hall := (h₁.trans h₂).trans h₃
  refine ⟨{ w₃ with manager := w.manager }, ?_,
    { hall with manager := rfl, live_iff := fun q => ?_ }⟩
  · have hm₁ : w₁.manager = w₀.manager := h₁.manager
    have hm₂ : w₂.manager = w₀.manager := h₂.manager.trans hm₁
    show (if w.manager.noCallbacks then w else _).calls = w₃.calls
    rw [if_neg (by rw [hrunning]; exact Bool.false_ne_true)]
    show ((w₁.cleanUp w₁.manager.simples).cleanUp
      (w₁.cleanUp w₁.manager.simples).manager.servers).calls = w₃.calls
    rw [hm₁]
    show (w₂.cleanUp w₂.manager.servers).calls = w₃.calls
    rw [hm₂]
    rfl
  · refine (hall.live_iff q).trans (and_congr_right fun hq => not_congr ⟨fun _ => hq, fun _ => ?_⟩)
    obtain ⟨r, hr⟩ := acc.live_filed q hq
    have hmem : q ∈ (w.manager.participants r).values := OrdMap.mem_values.mpr ⟨q.guid, hr⟩
    cases r with
    | server => exact .inr hmem
    | client => exact .inl (.inl hmem)
    | simple => exact .inl (.inr hmem)

end World

/-! ## The claim on the calls -/

/-- In an orderly log nothing is done to an endpoint that has been deleted, or
whose participant has. -/
theorem endpoint_untouched {n : Nat} {calls : List DdsCall}
    (hparticipants : participantCalls.Sound calls) (hendpoints : endpointCalls.Sound calls)
    (hmarked : ∀ c ∈ calls, Marked n c) {later earlier : List DdsCall} {c : DdsCall} {e : Endpoint}
    (hcalls : calls = later ++ c :: earlier) (huses : endpointCalls.uses c e) :
    .deleteEndpoint e ∉ earlier ∧ .deleteParticipant e.participant ∉ earlier := by
  subst hcalls
  induction later with
  | cons d later ih =>
    exact ih hparticipants.2.2 hendpoints.2.2 fun d hd => hmarked d (List.mem_cons_of_mem _ hd)
  | nil =>
    have hlive := hendpoints.2.1 e huses
    have howner := (owner_of_live hparticipants.2.2
      (fun d hd => hmarked d (List.mem_cons_of_mem c hd)) hlive).1
    exact ⟨endpointCalls.not_mem_of_live hendpoints.2.2 hlive (.inr rfl) (by simp [endpointCalls]),
      participantCalls.not_mem_of_live hparticipants.2.2 howner rfl (by simp [participantCalls])⟩

/-- A created participant that is no longer live has been deleted once. -/
theorem count_deleteParticipant {calls : List DdsCall} (hsound : participantCalls.Sound calls)
    {p : DomainParticipant} (hcreated : .createParticipant p ∈ calls)
    (hdead : p ∉ participantCalls.live calls) : calls.count (.deleteParticipant p) = 1 := by
  have haccount := participantCalls.count_closes (fun c q hc => by
      have hc : c = .deleteParticipant q := by simpa [participantCalls] using hc
      rw [hc]
      rfl) (fun c q hc => by
      cases c with
      | createParticipant _ => rfl
      | _ => cases hc) hsound p
  rw [if_neg hdead] at haccount
  have honce := participantCalls.count_opens_le_one hsound p
  have hpos : 0 < calls.countP fun c => participantCalls.opens c = some p :=
    List.countP_pos_iff.mpr ⟨_, hcreated, by simp [participantCalls]⟩
  have hcount : calls.count (.deleteParticipant p) =
      calls.countP fun c => participantCalls.closes c p := by
    rw [List.count_eq_countP]
    refine List.countP_congr fun c _ => ?_
    simp [participantCalls]
  omega

/-- **The life of the entities.** In every run, between events every stored
endpoint has the prefix of a registered participant; after termination every
participant created has been deleted exactly once; and no call has ever been made
on an endpoint already deleted, or of a participant already deleted. -/
theorem entityLifecycle (m : DiscoveryServerManager) (steps : List (EventPtr × Reply)) (w : World)
    (hrun : (World.start m).executeAll steps = some w) (hdistinct : DistinctPrefixes w.calls) :
    (∀ done rest between, steps = done ++ rest →
      (World.start m).executeAll done = some between →
      ∀ k g e, (between.manager.endpoints k).get? g = some e →
        ∃ r p, (between.manager.participants r).get? p.guid = some p ∧
          p.guid.guidPrefix = g.guidPrefix) ∧
    (∀ p, .createParticipant p ∈ w.calls →
      w.onTerminate.calls.count (.deleteParticipant p) = 1) ∧
    (∀ later c earlier e, w.onTerminate.calls = later ++ c :: earlier →
      c = .useEndpoint e ∨ c = .deleteEndpoint e →
        .deleteEndpoint e ∉ earlier ∧ .deleteParticipant e.participant ∉ earlier) := by
  have acc := World.accounted_executeAll (World.accounted_start m) hrun hdistinct
  have hrunning := (World.later_executeAll hrun).noCallbacks
  obtain ⟨w', hcalls, hclean⟩ := World.cleaned_onTerminate acc hrunning
  rw [hcalls]
  refine ⟨?_, ?_, ?_⟩
  · rintro done rest between rfl hdone k g e he
    have hrest : between.executeAll rest = some w := by
      unfold World.executeAll at hrun hdone ⊢
      rw [run?_append, hdone] at hrun
      exact hrun
    have accBetween := World.accounted_executeAll (World.accounted_start m) hdone
      (distinctPrefixes_of_suffix (World.later_executeAll hrest).calls hdistinct)
    obtain ⟨hguid, _, hlive⟩ := accBetween.endpoint_live k g e he
    obtain ⟨howner, hpre⟩ := Accounted.owner accBetween hlive
    obtain ⟨r, hr⟩ := accBetween.live_filed _ howner
    exact ⟨r, e.participant, hr, by rw [← hpre, hguid]⟩
  · intro p hp
    refine count_deleteParticipant hclean.participants_sound (hclean.calls.mem hp) ?_
    rw [hclean.live_iff]
    exact fun h => h.2 h.1
  · intro later c earlier e hsplit huses
    exact endpoint_untouched hclean.participants_sound hclean.endpoints_sound hclean.marked hsplit
      huses

/-- A server and a client with a reader, which is destroyed; then the client goes
and the server is left to termination. -/
def sampleEvents : List LateJoinerData :=
  [.participantCreation ⟨0, { name := "server" }, .server, none, .unknown⟩,
    .participantCreation ⟨0, { name := "client" }, .client, some 4, .unknown⟩,
    .endpointCreation ⟨1, .dataReader, "", "UNDEF", "", "", .ofPrefix 2, some 3, some 1⟩,
    .endpointDestruction ⟨2, .dataReader, .unknown⟩,
    .participantDestruction ⟨3, .unknown⟩]

def sampleManager : DiscoveryServerManager :=
  { DiscoveryServerManager.initial 0 0 0 with events := sampleEvents }

def sampleSteps : List (EventPtr × Reply) :=
  [(0, { participant := some (.ofPrefix 1) }), (1, { participant := some (.ofPrefix 2) }),
    (2, { participant := none, endpoint := some 0x107 }), (3, { participant := none }),
    (4, { participant := none })]

theorem entityLifecycle_sample :
    ∃ w, (World.start sampleManager).executeAll sampleSteps = some w ∧
      .createParticipant ⟨0, .ofPrefix 1, "server"⟩ ∈ w.calls ∧
      .createParticipant ⟨1, .ofPrefix 2, "client"⟩ ∈ w.calls ∧
      ∀ p, .createParticipant p ∈ w.calls →
        w.onTerminate.calls.count (.deleteParticipant p) = 1 := by
  have hdistinct : ∀ w ∈ (World.start sampleManager).executeAll sampleSteps,
      DistinctPrefixes w.calls := by decide
  have hcreated : ∀ w ∈ (World.start sampleManager).executeAll sampleSteps,
      .createParticipant ⟨0, .ofPrefix 1, "server"⟩ ∈ w.calls ∧
        .createParticipant ⟨1, .ofPrefix 2, "client"⟩ ∈ w.calls := by decide
  obtain ⟨w, hrun⟩ : ∃ w, (World.start sampleManager).executeAll sampleSteps = some w :=
    Option.isSome_iff_exists.mp (by decide)
  obtain ⟨hserver, hclient⟩ := hcreated w hrun
  exact ⟨w, hrun, hserver, hclient,
    (entityLifecycle sampleManager sampleSteps w hrun (hdistinct w hrun)).2.1⟩

end DiscoveryServer
