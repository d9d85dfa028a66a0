import DiscoveryServer.LoadSteps

/-!
# Links between events

A creation event points at the destruction event that gets the GUID of what is created.
Nothing else changes a destruction event (`events_executeAll`), and a loader only adds
events whose links stay among the events it adds itself (`Appends`), so the links of
one element never reach the events of another.
-/

namespace DiscoveryServer

open Library

namespace LateJoinerData

/-- The destruction event a creation points at. -/
def link? : LateJoinerData → Option EventPtr
  | participantCreation event => event.removalEvent
  | endpointCreation event => event.linkedDestructionEvent
  | _ => none

theorem link?_forgetGuid (event : LateJoinerData) : event.forgetGuid.link? = event.link? := by
  cases event <;> rfl

end LateJoinerData

namespace DiscoveryServerManager

theorem events_setGuid (m : DiscoveryServerManager) (p : Option EventPtr) (id : Guid)
    (d : EventPtr) : (m.setGuid p id).events[d]? =
      if p = some d then m.events[d]?.map (LateJoinerData.setGuid id) else m.events[d]? := by
  cases p with
  | none => rw [if_neg nofun]; rfl
  | some ptr =>
    show (m.events.modify ptr (LateJoinerData.setGuid id))[d]? = _
    rw [List.getElem?_modify]
    by_cases hd : ptr = d
    · rw [if_pos (congrArg some hd)]
      simp [hd]
    · rw [if_neg fun h => hd (Option.some.inj h)]
      simp [hd]

/-- The last event gets a GUID. -/
theorem events_setGuid_last {m : DiscoveryServerManager} {events : List LateJoinerData}
    {event : LateJoinerData} (h : m.events = events ++ [event]) (id : Guid) :
    (m.setGuid (some events.length) id).events = events ++ [event.setGuid id] := by
  refine List.ext_getElem? fun d => ?_
  rw [events_setGuid, h]
  rcases lt_trichotomy d events.length with hlt | rfl | hgt
  · rw [if_neg fun h => hlt.ne' (Option.some.inj h), List.getElem?_append_left hlt,
      List.getElem?_append_left hlt]
  · rw [if_pos rfl, List.getElem?_concat_length, List.getElem?_concat_length]
    rfl
  · rw [if_neg fun h => hgt.ne (Option.some.inj h), List.getElem?_eq_none, List.getElem?_eq_none]
    · rw [List.length_append]
      exact hgt
    · rw [List.length_append]
      exact hgt

end DiscoveryServerManager

/-! ## What executing events does to a removal -/

namespace World

variable {w w' : World} {d : EventPtr} {removal : DelayedParticipantDestruction}

/-- An event that is not linked to a removal leaves it alone. -/
theorem events_execute {step : EventPtr × Reply} (h : w.execute step = some w')
    (hd : w.manager.events[d]? = some (.participantDestruction removal))
    (hlink : ∀ e, w.manager.events[step.1]? = some e → e.link? ≠ some d) :
    w'.manager.events[d]? = some (.participantDestruction removal) := by
  have hset : ∀ {link : Option EventPtr} {guid : Guid}, link ≠ some d →
      (w.manager.setGuid link guid).events[d]? = some (.participantDestruction removal) := by
    intro link guid hne
    rw [DiscoveryServerManager.events_setGuid, if_neg hne]
    exact hd
  cases executed h with
  | participantCreation event hevent h =>
    obtain ⟨guid, p, _, _, _, _, _, hevents, _⟩ := participantCreation_spec h
    have hne : step.1 ≠ d := by
      rintro rfl
      cases hevent.symm.trans hd
    have hunlinked : event.removalEvent ≠ some d := hlink _ hevent
    rw [hevents, DiscoveryServerManager.events_setGuid, if_neg hunlinked]
    show (w.manager.events.modify step.1 _)[d]? = _
    rw [List.getElem?_modify_ne _ _ hne]
    exact hd
  | participantDestruction event hevent =>
    rw [events_participantDestruction]
    exact hd
  | endpointCreation event hevent h =>
    obtain ⟨_, _, _, link, guid, hlinked, hmanager⟩ := endpointCreation_frame h
    rw [hmanager]
    refine hset ?_
    rcases hlinked with rfl | rfl
    · exact nofun
    · exact hlink _ hevent
  | endpointDestruction event hevent =>
    rw [events_endpointDestruction]
    exact hd
  | snapshot event hevent => exact hd
  | environmentModification event hevent => exact hd

/-- The creation that is linked to a removal hands its GUID over. -/
theorem events_execute_linked {step : EventPtr × Reply} (h : w.execute step = some w')
    (hd : w.manager.events[d]? = some (.participantDestruction removal))
    {creation : DelayedParticipantCreation}
    (hevent : w.manager.events[step.1]? = some (.participantCreation creation))
    (hlink : creation.removalEvent = some d) : ∃ guid, step.2.participant = some guid ∧
      w'.manager.events[d]? = some (.participantDestruction (removal.setGuid guid)) := by
  unfold execute at h
  rw [hevent] at h
  obtain ⟨guid, p, hguid, _, _, _, _, hevents, _⟩ := participantCreation_spec h
  refine ⟨guid, hguid, ?_⟩
  have hne : step.1 ≠ d := by
    rintro rfl
    cases hevent.symm.trans hd
  rw [hevents, DiscoveryServerManager.events_setGuid, if_pos hlink]
  show (w.manager.events.modify step.1 _)[d]?.map _ = _
  rw [List.getElem?_modify_ne _ _ hne, hd]
  rfl

/-- **Only what is linked to a removal changes it.** -/
theorem events_executeAll {steps : List (EventPtr × Reply)} (h : w.executeAll steps = some w')
    (hd : w.manager.events[d]? = some (.participantDestruction removal))
    (hlink : ∀ step ∈ steps, ∀ e, w.manager.schedule[step.1]? = some e → e.link? ≠ some d) :
    w'.manager.events[d]? = some (.participantDestruction removal) := by
  induction steps generalizing w with
  | nil =>
    cases h
    exact hd
  | cons step rest ih =>
    obtain ⟨v, hv, hrest⟩ := Option.bind_eq_some_iff.mp h
    have hstep : v.manager.events[d]? = some (.participantDestruction removal) := by
      refine events_execute hv hd fun e he => ?_
      rw [← e.link?_forgetGuid]
      exact hlink step List.mem_cons_self _
        (DiscoveryServerManager.schedule_getElem?_eq_some.mpr ⟨e, he, rfl⟩)
    refine ih hrest hstep fun next hnext => ?_
    rw [schedule_execute hv]
    exact hlink next (List.mem_cons_of_mem step hnext)

end World

/-! ## What the loaders add -/

/-- Events are added whose links stay among those that are added. -/
def Appends (events events' : List LateJoinerData) : Prop :=
  ∃ added, events' = events ++ added ∧
    ∀ e ∈ added, ∀ j, e.link? = some j → events.length ≤ j ∧ j < events'.length

namespace Appends

variable {events events₁ events' : List LateJoinerData} {k j : EventPtr} {e : LateJoinerData}

theorem refl (events : List LateJoinerData) : Appends events events :=
  ⟨[], (List.append_nil events).symm, fun _ he => absurd he List.not_mem_nil⟩

theorem of_eq (h : events' = events) : Appends events events' := h ▸ refl events

theorem length_le (h : Appends events events') : events.length ≤ events'.length := by
  obtain ⟨added, rfl, _⟩ := h
  rw [List.length_append]
  exact Nat.le_add_right _ _

theorem trans (h : Appends events events₁) (h' : Appends events₁ events') :
    Appends events events' := by
  have hlength := h.length_le
  have hlength' := h'.length_le
  obtain ⟨added, rfl, hlinks⟩ := h
  obtain ⟨added', rfl, hlinks'⟩ := h'
  refine ⟨added ++ added', List.append_assoc _ _ _, fun e he j hj => ?_⟩
  rcases List.mem_append.mp he with he | he
  · obtain ⟨hle, hlt⟩ := hlinks e he j hj
    exact ⟨hle, lt_of_lt_of_le hlt hlength'⟩
  · obtain ⟨hle, hlt⟩ := hlinks' e he j hj
    exact ⟨hlength.trans hle, hlt⟩

/-- Events that are linked to nothing. -/
theorem unlinked {added : List LateJoinerData} (h : ∀ e ∈ added, e.link? = none) :
    Appends events (events ++ added) := by
  refine ⟨added, rfl, fun e he j hj => ?_⟩
  rw [h e he] at hj
  cases hj

theorem single (h : e.link? = none) : Appends events (events ++ [e]) :=
  unlinked fun _ he => List.mem_singleton.mp he ▸ h

/-- A destruction, and a creation that may be linked to it. -/
theorem pair {e' : LateJoinerData} (h : e.link? = none)
    (h' : ∀ j, e'.link? = some j → j = events.length) :
    Appends events (events ++ [e] ++ [e']) := by
  refine ⟨[e, e'], by rw [List.append_assoc]; rfl, fun f hf j hj => ?_⟩
  rcases List.mem_pair.mp hf with rfl | rfl
  · rw [h] at hj
    cases hj
  · rw [h' j hj, List.length_append, List.length_append]
    exact ⟨le_rfl, Nat.lt_add_right 1 (Nat.lt_add_one _)⟩

theorem getElem? (h : Appends events events') (he : events[k]? = some e) :
    events'[k]? = some e := by
  obtain ⟨added, rfl, _⟩ := h
  rw [List.getElem?_append_left (List.getElem?_eq_some_iff.mp he).1]
  exact he

theorem getElem?_of_lt (h : Appends events events') (hk : k < events.length) :
    events'[k]? = events[k]? := by
  obtain ⟨added, rfl, _⟩ := h
  exact List.getElem?_append_left hk

theorem link_of_le (h : Appends events events') (hk : events.length ≤ k)
    (he : events'[k]? = some e) (hj : e.link? = some j) :
    events.length ≤ j ∧ j < events'.length := by
  obtain ⟨added, rfl, hlinks⟩ := h
  rw [List.getElem?_append_right hk] at he
  exact hlinks e (List.mem_of_getElem? he) j hj

end Appends

namespace Environment

variable {env : Environment} {l l' : Loading} {e : XMLElement}

theorem appends_of_core (h : l'.core = l.core) : Appends l.manager.events l'.manager.events :=
  .of_eq (congrArg (fun c : World × Bool => c.1.manager.events) h)

/-- The destruction of an endpoint is what its creation is linked to. -/
theorem endpointEvent_linked {kind : ReaderWriter} {guid : Guid}
    {creationEvent : Option EventPtr} {event : DelayedEndpointCreation}
    (h : env.endpointEvent kind l guid e creationEvent = .ok (l', event)) :
    (l'.manager.events = l.manager.events ∧ event.linkedDestructionEvent = none) ∨
      ∃ removal, l'.manager.events = l.manager.events ++ [.endpointDestruction removal] ∧
        event.linkedDestructionEvent = some l.manager.events.length := by
  unfold endpointEvent at h
  have hcore := (noted_topicDescription l (e.attributeValue "topic")).core
  cases htopic : e.attributeValue "topic" with
  | none =>
    rw [htopic] at h
    cases h
  | some topic =>
    rw [htopic] at h hcore
    have hevents : (topicDescription l (some topic)).1.manager.events = l.manager.events :=
      congrArg (fun c : World × Bool => c.1.manager.events) hcore
    dsimp only at h
    split_ifs at h
    · cases h
      refine .inr ⟨{ time := l.getTime + (env.seconds e "removal_time").getD 0, kind := kind },
        ?_, congrArg (fun events => some (List.length events)) hevents⟩
      show (topicDescription l (some topic)).1.manager.events ++ _ = _
      rw [hevents]
    · cases h
      exact .inl ⟨hevents, rfl⟩

theorem loadEndpoint_appends {kind : ReaderWriter} {guid : Guid}
    {creationEvent : Option EventPtr}
    (h : env.loadEndpoint kind l guid e creationEvent = .ok l') :
    Appends l.manager.events l'.manager.events := by
  unfold loadEndpoint at h
  obtain ⟨⟨l₁, event⟩, hevent, h⟩ := bind_eq_ok.mp h
  have hlinked := endpointEvent_linked hevent
  dsimp only at h
  split_ifs at h
  · cases hrun : event.execute (env.reply l₁.world (.endpointCreation event)) l₁.world with
    | none =>
      rw [hrun] at h
      cases h
    | some w =>
      rw [hrun] at h
      cases h
      obtain ⟨_, _, _, link, id, hlink, hmanager⟩ := World.endpointCreation_frame hrun
      have hevents : w.manager.events = (l₁.manager.setGuid link id).events := by
        rw [hmanager]
        rfl
      show Appends l.manager.events w.manager.events
      rw [hevents]
      rcases hlinked with ⟨hsame, hnone⟩ | ⟨removal, hadded, hsome⟩
      · have hlink : link = none := by
          rcases hlink with rfl | rfl
          · rfl
          · exact hnone
        rw [hlink]
        exact .of_eq hsame
      · rcases hlink with rfl | rfl
        · show Appends _ l₁.manager.events
          rw [hadded]
          exact .single rfl
        · rw [hsome, DiscoveryServerManager.events_setGuid_last hadded]
          exact .single rfl
  · cases h
    show Appends l.manager.events (l₁.manager.events ++ [.endpointCreation event])
    rcases hlinked with ⟨hsame, hnone⟩ | ⟨removal, hadded, hsome⟩
    · rw [hsame]
      exact .single hnone
    · rw [hadded]
      refine .pair rfl fun j hj => ?_
      exact Option.some.inj (hj.symm.trans hsome)

/-- The GUID of the participant and the events, after a creation that is executed at
once. -/
theorem createNow_events {event : DelayedParticipantCreation} {guid : Guid}
    (h : env.createNow l event = .ok (l', guid)) :
    l'.manager.events = (l.manager.setGuid event.removalEvent guid).events := by
  obtain ⟨hreply, w, hrun, rfl⟩ := createNow_spec h
  obtain ⟨g, p, hguid, _, _, _, _, hevents, _⟩ := World.participantCreation_spec hrun
  cases hreply.symm.trans hguid
  show w.manager.events = _
  rw [hevents]
  refine congrArg (fun m : DiscoveryServerManager => (m.setGuid event.removalEvent guid).events) ?_
  have hsame : l.world.manager.events.modify l.manager.events.length
      (fun _ => .participantCreation { event with participantGuid := guid }) =
        l.world.manager.events := List.modify_eq_self le_rfl
  unfold DiscoveryServerManager.modifyEvent
  rw [hsame]
  rfl

/-- The removal of a participant, if there is one, with the GUID it holds. -/
def removalEvents (env : Environment) (l : Loading) (e : XMLElement) (guid : Guid) :
    List LateJoinerData :=
  if (env.times l e).2 ≠ l.getTime then [.participantDestruction ⟨(env.times l e).2, guid⟩] else []

/-- A server and its removal are not linked. -/
theorem scheduleServer_events {qos : DomainParticipantQos}
    (h : env.scheduleServer l e qos = .ok l') :
    l'.manager.events = l.manager.events ++
      (if (env.times l e).1 = l.getTime then [] else
        [.participantCreation ⟨(env.times l e).1, qos, .server, none, .unknown⟩]) ++
      env.removalEvents l e (.ofPrefix qos.guidPrefix) := by
  unfold scheduleServer at h
  dsimp only at h
  obtain ⟨l₁, hcreate, h⟩ := bind_eq_ok.mp h
  have hfirst : l₁.getTime = l.getTime ∧ l₁.manager.events = l.manager.events ++
      (if (env.times l e).1 = l.getTime then [] else
        [.participantCreation ⟨(env.times l e).1, qos, .server, none, .unknown⟩]) := by
    unfold createServer at hcreate
    dsimp only at hcreate
    split_ifs at hcreate ⊢ with hnow
    · cases hrun : env.createNow l ⟨(env.times l e).1, qos, .server, none, .unknown⟩ with
      | error fault =>
        rw [hrun] at hcreate
        cases hcreate
      | ok result =>
        obtain ⟨l₂, guid⟩ := result
        rw [hrun] at hcreate
        cases hcreate
        rw [List.append_nil]
        refine ⟨?_, createNow_events hrun⟩
        show l₂.world.manager.state.image.time = l.world.manager.state.image.time
        rw [(createNow_loads hrun).steps.state]
    · cases hcreate
      exact ⟨rfl, rfl⟩
  obtain ⟨htime, hevents⟩ := hfirst
  rw [htime] at h
  unfold removalEvents
  rw [← hevents]
  split_ifs at h ⊢ with hremoval
  · cases h
    rfl
  · cases h
    exact (List.append_nil _).symm

/-- A client or simple participant and its removal are linked: the removal gets the
GUID when the participant is created. -/
theorem scheduleParticipant_events {role : ParticipantRole} {qos : DomainParticipantQos}
    {guid : Guid} {creationEvent : Option EventPtr}
    (h : env.scheduleParticipant role l e qos = .ok (l', guid, creationEvent)) :
    l'.manager.events = if (env.times l e).1 = l.getTime then
        l.manager.events ++ (env.removalEvents l e (.ofPrefix qos.guidPrefix)).map
          (LateJoinerData.setGuid guid)
      else
        l.manager.events ++ env.removalEvents l e (.ofPrefix qos.guidPrefix) ++
          [.participantCreation ⟨(env.times l e).1, qos, role,
            if (env.times l e).2 ≠ l.getTime then some l.manager.events.length else none,
            .unknown⟩] := by
  unfold scheduleParticipant at h
  unfold removalEvents
  dsimp only at h
  by_cases hremoval : (env.times l e).2 ≠ l.getTime
  · have hadded : (l.pushBack (.participantDestruction
        ⟨(env.times l e).2, .ofPrefix qos.guidPrefix⟩)).manager.events = l.manager.events ++
          [.participantDestruction ⟨(env.times l e).2, .ofPrefix qos.guidPrefix⟩] := rfl
    have htime : (l.pushBack (.participantDestruction
        ⟨(env.times l e).2, .ofPrefix qos.guidPrefix⟩)).getTime = l.getTime := rfl
    rw [if_pos hremoval] at h
    dsimp only at h
    rw [htime] at h
    rw [if_pos hremoval, if_pos hremoval]
    split_ifs at h ⊢ with hnow
    · obtain ⟨⟨l₁, g⟩, hcreate, h⟩ := bind_eq_ok.mp h
      cases h
      rw [createNow_events hcreate]
      exact DiscoveryServerManager.events_setGuid_last hadded _
    · cases h
      rfl
  · rw [if_neg hremoval] at h
    dsimp only at h
    rw [if_neg hremoval, if_neg hremoval]
    split_ifs at h ⊢ with hnow
    · obtain ⟨⟨l₁, g⟩, hcreate, h⟩ := bind_eq_ok.mp h
      cases h
      rw [createNow_events hcreate]
      exact (List.append_nil _).symm
    · cases h
      rw [List.append_nil]
      rfl

theorem removalEvents_unlinked (env : Environment) (l : Loading) (e : XMLElement) (guid : Guid) :
    ∀ removal ∈ env.removalEvents l e guid, removal.link? = none := by
  intro removal hremoval
  unfold removalEvents at hremoval
  split_ifs at hremoval
  · rw [List.mem_singleton.mp hremoval]
    rfl
  · cases hremoval

theorem scheduleServer_appends {qos : DomainParticipantQos}
    (h : env.scheduleServer l e qos = .ok l') :
    Appends l.manager.events l'.manager.events := by
  rw [scheduleServer_events h]
  refine Appends.trans ?_ (.unlinked (env.removalEvents_unlinked l e _))
  refine .unlinked fun creation hcreation => ?_
  split_ifs at hcreation
  · cases hcreation
  · rw [List.mem_singleton.mp hcreation]
    rfl

theorem scheduleParticipant_appends {role : ParticipantRole} {qos : DomainParticipantQos}
    {guid : Guid} {creationEvent : Option EventPtr}
    (h : env.scheduleParticipant role l e qos = .ok (l', guid, creationEvent)) :
    Appends l.manager.events l'.manager.events := by
  rw [scheduleParticipant_events h]
  split_ifs with hnow hremoval
  · refine .unlinked fun removal hremoval => ?_
    obtain ⟨removal, hmem, rfl⟩ := List.mem_map.mp hremoval
    rw [← LateJoinerData.link?_forgetGuid, LateJoinerData.forgetGuid_setGuid,
      LateJoinerData.link?_forgetGuid]
    exact env.removalEvents_unlinked l e _ removal hmem
  · unfold removalEvents
    rw [if_pos hremoval]
    exact .pair rfl fun j hj => (Option.some.inj hj).symm
  · unfold removalEvents
    rw [if_neg hremoval, List.append_nil]
    exact .single rfl

theorem loadSnapshotsFile_appends (l : Loading) (e : XMLElement) :
    Appends l.manager.events (loadSnapshotsFile l e).manager.events := by
  unfold loadSnapshotsFile
  cases e.attributeValue "file" <;> exact .refl _

/-- **The constructor appends events.** -/
theorem appends_rule (env : Environment) :
    LoaderRule env fun l l' => Appends l.manager.events l'.manager.events where
  core := appends_of_core
  trans := .trans
  scheduleServer := scheduleServer_appends
  scheduleParticipant := scheduleParticipant_appends
  endpoint := loadEndpoint_appends
  file := loadSnapshotsFile_appends
  snapshot _ _ := .single rfl
  change _ _ := .single rfl

end Environment

end DiscoveryServer
