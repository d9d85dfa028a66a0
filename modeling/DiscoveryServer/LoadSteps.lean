import DiscoveryServer.EventEffects
import DiscoveryServer.LoaderRules
import Mathlib.Logic.Relation

/-!
# What loading does to the world

A loader changes the manager in four ways only: it schedules an event, changes a
setting, or executes the creation of a participant or of an endpoint that is due at
once (`LoadStep`). Every result about the manager a configuration leaves behind is an
induction over such steps (`Loads.rule` says that they are all a loader does).
-/

namespace DiscoveryServer

open Library

/-- A participant creation that has not been executed. -/
def LateJoinerData.Fresh (event : LateJoinerData) : Prop :=
  ∀ g ∈ event.participantGuid?, g = Guid.unknown

/-- `events.push_back`. -/
def World.pushBack (w : World) (event : LateJoinerData) : World :=
  w.withManager { w.manager with events := w.manager.events ++ [event] }

/-- One step of a loader. -/
inductive LoadStep (env : Environment) : World → World → Prop
  | pushBack (w : World) {event : LateJoinerData} (h : event.Fresh) :
    LoadStep env w (w.pushBack event)
  | settings (w : World) (autoShutdown validate : Bool) (file : String) :
    LoadStep env w (w.withManager { w.manager with
      autoShutdown := autoShutdown, validate := validate, snapshotsOutputFile := file })
  | participant {w w' : World} {event : DelayedParticipantCreation}
    (h : event.execute w.manager.events.length (env.reply w (.participantCreation event)) w =
      some w') : LoadStep env w w'
  | endpoint {w w' : World} {event : DelayedEndpointCreation}
    (h : event.execute (env.reply w (.endpointCreation event)) w = some w') : LoadStep env w w'

/-- The steps of a loader. -/
abbrev LoadSteps (env : Environment) : World → World → Prop := Relation.ReflTransGen (LoadStep env)

/-- What a loader does: its steps, with the validation of prefixes as it was. -/
structure Loads (env : Environment) (l l' : Loading) : Prop where
  steps : LoadSteps env l.world l'.world
  validation : l'.enablePrefixValidation = l.enablePrefixValidation

namespace Loads

variable {env : Environment} {l l₁ l₂ : Loading}

theorem of_core (h : l₁.core = l.core) : Loads env l l₁ where
  steps := by
    rw [show l₁.world = l.world from congrArg Prod.fst h]
  validation := congrArg Prod.snd h

theorem refl (l : Loading) : Loads env l l := of_core rfl

theorem trans (h : Loads env l l₁) (h' : Loads env l₁ l₂) : Loads env l l₂ where
  steps := h.steps.trans h'.steps
  validation := h'.validation.trans h.validation

theorem pushBack (l : Loading) {event : LateJoinerData} (h : event.Fresh) :
    Loads env l (l.pushBack event) where
  steps := .single (.pushBack l.world h)
  validation := rfl

end Loads

namespace Environment

variable {env : Environment} {l l' : Loading} {e : XMLElement}

/-! ## The loaders -/

/-- `event(*this)` of a participant creation. -/
theorem createNow_spec {event : DelayedParticipantCreation} {guid : Guid}
    (h : env.createNow l event = .ok (l', guid)) :
    (env.reply l.world (.participantCreation event)).participant = some guid ∧
      ∃ w, event.execute l.manager.events.length (env.reply l.world (.participantCreation event))
        l.world = some w ∧ l' = { l with world := w } := by
  unfold createNow at h
  dsimp only at h
  cases hrun : event.execute l.manager.events.length
      (env.reply l.world (.participantCreation event)) l.world with
  | none =>
    rw [hrun] at h
    cases h
  | some w =>
    rw [hrun] at h
    cases hguid : (env.reply l.world (.participantCreation event)).participant with
    | none =>
      unfold DelayedParticipantCreation.execute at hrun
      rw [hguid] at hrun
      cases hrun
    | some g =>
      rw [hguid] at h
      cases h
      exact ⟨rfl, w, rfl, rfl⟩

/-- What is scheduled before the creation of an endpoint: nothing, or its
destruction. -/
def Scheduled (kind : ReaderWriter) (l l' : Loading) : Prop :=
  l'.core = l.core ∨ ∃ time,
    l'.core = (l.pushBack (.endpointDestruction { time := time, kind := kind })).core

theorem endpointEvent_spec {kind : ReaderWriter} {guid : Guid} {creationEvent : Option EventPtr}
    {event : DelayedEndpointCreation}
    (h : env.endpointEvent kind l guid e creationEvent = .ok (l', event)) :
    Scheduled kind l l' ∧ event.time = env.endpointCreationTime l e creationEvent ∧
      event.kind = kind ∧ event.participantGuid = guid ∧ event.ownerEvent = creationEvent := by
  unfold endpointEvent at h
  have hcore := (noted_topicDescription l (e.attributeValue "topic")).core
  cases htopic : e.attributeValue "topic" with
  | none =>
    rw [htopic] at h
    cases h
  | some topic =>
    rw [htopic] at h hcore
    obtain ⟨hworld, hvalidation⟩ := Prod.ext_iff.mp hcore
    dsimp only at h
    split_ifs at h with hremoval
    · cases h
      refine ⟨.inr ⟨l.getTime + (env.seconds e "removal_time").getD 0, Prod.ext ?_ ?_⟩,
        rfl, rfl, rfl, rfl⟩
      · have hworld : (topicDescription l (some topic)).1.world = l.world := hworld
        show (topicDescription l (some topic)).1.world.pushBack _ = l.world.pushBack _
        rw [hworld]
      · exact hvalidation
    · cases h
      exact ⟨.inl hcore, rfl, rfl, rfl, rfl⟩

theorem Scheduled.loads {kind : ReaderWriter} (h : Scheduled kind l l') : Loads env l l' := by
  rcases h with h | ⟨time, h⟩
  · exact .of_core h
  · have hpush : Loads env l (l.pushBack (.endpointDestruction { time := time, kind := kind })) :=
      .pushBack l nofun
    exact hpush.trans (.of_core h)

theorem Scheduled.holdings {kind : ReaderWriter} (h : Scheduled kind l l') :
    l'.manager.holdings = l.manager.holdings := by
  rcases h with h | ⟨time, h⟩
  · exact congrArg (fun core => core.1.manager.holdings) h
  · exact congrArg (fun core => core.1.manager.holdings) h

/-- The creation event of an endpoint is executed at once or scheduled. -/
theorem loadEndpoint_spec {kind : ReaderWriter} {guid : Guid} {creationEvent : Option EventPtr}
    (h : env.loadEndpoint kind l guid e creationEvent = .ok l') :
    ∃ l₁ event, env.endpointEvent kind l guid e creationEvent = .ok (l₁, event) ∧
      (LoadStep env l₁.world l'.world ∧
        l'.enablePrefixValidation = l₁.enablePrefixValidation) ∧
      (event.time ≠ l₁.getTime → l' = l₁.pushBack (.endpointCreation event)) ∧
      (event.time = l₁.getTime →
        event.execute (env.reply l₁.world (.endpointCreation event)) l₁.world = some l'.world) := by
  unfold loadEndpoint at h
  obtain ⟨⟨l₁, event⟩, hevent, h⟩ := bind_eq_ok.mp h
  refine ⟨l₁, event, hevent, ?_⟩
  dsimp only at h
  split_ifs at h with hnow
  · cases hrun : event.execute (env.reply l₁.world (.endpointCreation event)) l₁.world with
    | none =>
      rw [hrun] at h
      cases h
    | some w =>
      rw [hrun] at h
      cases h
      exact ⟨⟨.endpoint hrun, rfl⟩, fun hlate => absurd hnow hlate, fun _ => rfl⟩
  · cases h
    exact ⟨⟨.pushBack _ nofun, rfl⟩, fun _ => rfl, fun hnow' => absurd hnow' hnow⟩

theorem loadEndpoint_loads {kind : ReaderWriter} {guid : Guid} {creationEvent : Option EventPtr}
    (h : env.loadEndpoint kind l guid e creationEvent = .ok l') : Loads env l l' := by
  obtain ⟨l₁, event, hevent, ⟨hstep, hvalidation⟩, _⟩ := loadEndpoint_spec h
  exact (endpointEvent_spec hevent).1.loads.trans ⟨.single hstep, hvalidation⟩

/-- Loading an endpoint changes neither who is known nor what they have. -/
theorem loadEndpoint_holdings {kind : ReaderWriter} {guid : Guid} {creationEvent : Option EventPtr}
    (h : env.loadEndpoint kind l guid e creationEvent = .ok l') :
    l'.manager.holdings.participant = l.manager.holdings.participant ∧
      l'.manager.holdings.pubSub = l.manager.holdings.pubSub := by
  obtain ⟨l₁, event, hevent, _, hlate, hnow⟩ := loadEndpoint_spec h
  rw [← (endpointEvent_spec hevent).1.holdings]
  by_cases htime : event.time = l₁.getTime
  · exact (World.holdings_endpointCreation (hnow htime)).2
  · rw [hlate htime]
    exact ⟨rfl, rfl⟩

theorem createNow_loads {event : DelayedParticipantCreation} {guid : Guid}
    (h : env.createNow l event = .ok (l', guid)) : Loads env l l' := by
  obtain ⟨_, w, hrun, rfl⟩ := createNow_spec h
  exact ⟨.single (.participant hrun), rfl⟩

theorem createServer_loads {event : DelayedParticipantCreation}
    (hfresh : event.participantGuid = .unknown) (h : env.createServer l event = .ok l') :
    Loads env l l' := by
  unfold createServer at h
  split_ifs at h with hnow
  · cases hrun : env.createNow l event with
    | error fault =>
      rw [hrun] at h
      cases h
    | ok result =>
      rw [hrun] at h
      cases h
      exact createNow_loads hrun
  · cases h
    refine .pushBack l ?_
    rintro _ ⟨⟩
    exact hfresh

theorem scheduleServer_loads {qos : DomainParticipantQos}
    (h : env.scheduleServer l e qos = .ok l') : Loads env l l' := by
  unfold scheduleServer at h
  obtain ⟨l₁, hcreate, h⟩ := bind_eq_ok.mp h
  refine (createServer_loads rfl hcreate).trans ?_
  split_ifs at h with hremoval
  · cases h
    exact .pushBack _ nofun
  · cases h
    exact .refl _

theorem scheduleParticipant_loads {role : ParticipantRole} {qos : DomainParticipantQos}
    {guid : Guid} {creationEvent : Option EventPtr}
    (h : env.scheduleParticipant role l e qos = .ok (l', guid, creationEvent)) :
    Loads env l l' := by
  unfold scheduleParticipant at h
  dsimp only at h
  generalize hdestruction : (if (env.times l e).2 ≠ l.getTime then
      (l.pushBack (.participantDestruction ⟨(env.times l e).2, .ofPrefix qos.guidPrefix⟩),
        some l.manager.events.length) else (l, none)) = scheduled at h
  have hfirst : Loads env l scheduled.1 := by
    rw [← hdestruction]
    split_ifs
    · exact .pushBack l nofun
    · exact .refl l
  refine hfirst.trans ?_
  split_ifs at h with hnow
  · obtain ⟨⟨l₂, g⟩, hcreate, h⟩ := bind_eq_ok.mp h
    cases h
    exact createNow_loads hcreate
  · cases h
    refine .pushBack scheduled.1 ?_
    rintro _ ⟨⟩
    rfl

theorem loadSnapshotsFile_loads (l : Loading) (e : XMLElement) :
    Loads env l (loadSnapshotsFile l e) := by
  unfold loadSnapshotsFile
  cases e.attributeValue "file" with
  | none => exact .refl l
  | some file => exact ⟨.single (.settings l.world l.manager.autoShutdown false file), rfl⟩

end Environment

/-- **Loading is its steps.** -/
theorem Loads.rule (env : Environment) : LoaderRule env (Loads env) where
  core := .of_core
  trans := .trans
  scheduleServer := Environment.scheduleServer_loads
  scheduleParticipant := Environment.scheduleParticipant_loads
  endpoint := Environment.loadEndpoint_loads
  file := Environment.loadSnapshotsFile_loads
  snapshot l _ := .pushBack l nofun
  change l _ := .pushBack l nofun

namespace Environment

variable {env : Environment} {l l' : Loading}

theorem initial_step (env : Environment) (sharedMemoryOff : Bool) (root : XMLElement) (w : World) :
    LoadStep env w (env.initial sharedMemoryOff root w).world :=
  .settings w _ true w.manager.snapshotsOutputFile

/-- Wherever the constructor gets to, it has got there by loading. -/
theorem reaches_steps {sharedMemoryOff : Bool} {root : XMLElement} {w : World}
    {items : List ConfigItem} {item : ConfigItem}
    (h : Reaches env.loadItem (env.initial sharedMemoryOff root w) items item l) :
    LoadSteps env w l.world :=
  .head (initial_step env sharedMemoryOff root w) ((Loads.rule env).reaches h).steps

theorem loadConfig_steps {sharedMemoryOff : Bool} {doc : XMLDocument} {root : XMLElement}
    {w : World} (h : Leaves (env.loadConfig sharedMemoryOff doc root w) l) :
    LoadSteps env w l.world := by
  rw [loadConfig_eq] at h
  exact .head (initial_step env sharedMemoryOff root w) ((Loads.rule env).leaves h).steps

end Environment

/-! ## What the steps keep -/

/-- The creation of a participant that is not scheduled. -/
theorem World.schedule_unscheduled {w w' : World} {event : DelayedParticipantCreation}
    {reply : Reply} (h : event.execute w.manager.events.length reply w = some w') :
    w'.manager.schedule = w.manager.schedule := by
  obtain ⟨guid, p, _, _, _, _, _, hevents, _⟩ := World.participantCreation_spec h
  refine (congrArg (List.map LateJoinerData.forgetGuid) hevents).trans ?_
  refine (DiscoveryServerManager.schedule_setGuid _ _ _).trans ?_
  refine DiscoveryServerManager.schedule_modifyEvent _ _ fun e he => ?_
  rw [List.getElem?_eq_none le_rfl] at he
  cases he

namespace LoadStep

variable {env : Environment} {w w' : World}

/-- The database is not touched, so the program does not get any later. -/
theorem state (h : LoadStep env w w') : w'.manager.state = w.manager.state := by
  cases h with
  | pushBack hfresh => rfl
  | settings autoShutdown validate file => rfl
  | participant hrun =>
    obtain ⟨_, _, _, _, _, _, _, _, hstate⟩ := World.participantCreation_spec hrun
    exact hstate
  | endpoint hrun =>
    obtain ⟨_, _, _, _, _, _, hmanager⟩ := World.endpointCreation_frame hrun
    rw [hmanager]

/-- Events are only added. -/
theorem schedule (h : LoadStep env w w') : w.manager.schedule <+: w'.manager.schedule := by
  cases h with
  | @pushBack event hfresh =>
    show _ <+: (w.manager.events ++ [event]).map LateJoinerData.forgetGuid
    rw [List.map_append]
    exact List.prefix_append _ _
  | settings autoShutdown validate file => exact List.prefix_rfl
  | participant hrun =>
    exact (World.schedule_unscheduled hrun).symm ▸ List.prefix_rfl
  | endpoint hrun =>
    obtain ⟨_, _, _, link, guid, _, hmanager⟩ := World.endpointCreation_frame hrun
    have hschedule : w'.manager.schedule = w.manager.schedule := by
      rw [hmanager]
      exact DiscoveryServerManager.schedule_setGuid w.manager link guid
    exact hschedule.symm ▸ List.prefix_rfl

theorem calls (h : LoadStep env w w') : w.calls <:+ w'.calls := by
  cases h with
  | pushBack hfresh => exact List.suffix_rfl
  | settings autoShutdown validate file => exact List.suffix_rfl
  | participant hrun =>
    obtain ⟨_, _, _, _, hcalls, _⟩ := World.participantCreation_spec hrun
    rw [hcalls]
    exact List.suffix_cons _ _
  | endpoint hrun => exact (World.later_endpointCreation hrun).calls

theorem accounted (h : LoadStep env w w') (hdistinct : DistinctPrefixes w'.calls)
    (acc : w.Accounted) : w'.Accounted := by
  cases h with
  | pushBack hfresh => exact acc
  | settings autoShutdown validate file => exact acc
  | participant hrun => exact World.accounted_participantCreation acc hrun hdistinct
  | endpoint hrun => exact World.accounted_endpointCreation acc hrun

end LoadStep

namespace LoadSteps

variable {env : Environment} {w w' : World}

theorem state (h : LoadSteps env w w') : w'.manager.state = w.manager.state := by
  induction h with
  | refl => rfl
  | tail _ hstep ih => exact hstep.state.trans ih

theorem schedule (h : LoadSteps env w w') : w.manager.schedule <+: w'.manager.schedule := by
  induction h with
  | refl => exact List.prefix_rfl
  | tail _ hstep ih => exact ih.trans hstep.schedule

theorem calls (h : LoadSteps env w w') : w.calls <:+ w'.calls := by
  induction h with
  | refl => exact List.suffix_rfl
  | tail _ hstep ih => exact ih.trans hstep.calls

/-- An event that is scheduled stays where it is. -/
theorem schedule_getElem? (h : LoadSteps env w w') {i : EventPtr} {event : LateJoinerData}
    (hevent : w.manager.schedule[i]? = some event) :
    w'.manager.schedule[i]? = some event := by
  obtain ⟨later, hlater⟩ := h.schedule
  rw [← hlater, List.getElem?_append_left (List.getElem?_eq_some_iff.mp hevent).1]
  exact hevent

/-- **The account of what the constructor does at once.** -/
theorem accounted (h : LoadSteps env w w') (hdistinct : DistinctPrefixes w'.calls)
    (acc : w.Accounted) : w'.Accounted := by
  induction h with
  | refl => exact acc
  | tail _ hstep ih =>
    exact hstep.accounted hdistinct (ih (distinctPrefixes_of_suffix hstep.calls hdistinct))

end LoadSteps

end DiscoveryServer
