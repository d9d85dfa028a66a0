import DiscoveryServer.LoadSteps

/-!
# Participants of a configuration

What the three participant loaders have in common: they accept an element, create its
participant or schedule the creation, and load its endpoints (`Prepared`). An
`AcceptedParticipant` is a server, client or simple element that the constructor gets to
and that its loader accepts; a `LoadedParticipant` is one in a constructor that ends,
with the manager it ends with. Its participant is created by the loader, or by the one
creation event the loader schedules (`created_iff`).
-/

namespace DiscoveryServer

open Library

/-- The item of a participant. -/
def ConfigItem.participant : ParticipantRole → XMLElement → ConfigItem
  | .server => server
  | .client => client
  | .simple => simple

/-- The event is no participant creation. -/
def LateJoinerData.CreatesNobody (event : LateJoinerData) : Prop :=
  event.participantGuid? = none

/-- The destruction a loader schedules creates nobody. -/
theorem LateJoinerData.createsNobody_destruction (destruction : DelayedParticipantDestruction) :
    ∀ event ∈ [participantDestruction destruction], event.CreatesNobody := by
  intro event hevent
  rw [List.mem_singleton.mp hevent]
  rfl

theorem DiscoveryServerManager.schedule_pushBack (l : Loading) (event : LateJoinerData) :
    (l.pushBack event).manager.schedule = l.manager.schedule ++ [event.forgetGuid] :=
  List.map_append

namespace Environment

/-- A participant loader accepts an element with a QoS in the state `accepted`; its
endpoints are loaded from `prepared` on, with a GUID and the creation event. -/
def Prepared (env : Environment) (e : XMLElement) (start accepted : Loading)
    (qos : DomainParticipantQos) (prepared : Loading) (guid : Guid)
    (creationEvent : Option EventPtr) : ParticipantRole → Prop
  | .server => env.acceptServer start e = (accepted, some qos) ∧
    env.scheduleServer accepted e qos = .ok prepared ∧ guid = .ofPrefix qos.guidPrefix ∧
      creationEvent = none
  | .client => env.acceptClient start e = .ok (accepted, some qos) ∧
    env.scheduleParticipant .client accepted e qos = .ok (prepared, guid, creationEvent)
  | .simple => env.acceptSimple start e = (accepted, some qos) ∧
    env.scheduleParticipant .simple accepted e qos = .ok (prepared, guid, creationEvent)

/-- The creation is scheduled: it is the one creation among the new events, and the
loader passes it on, except for a server. -/
def Later (env : Environment) (role : ParticipantRole) (l : Loading) (e : XMLElement)
    (qos : DomainParticipantQos) (l' : Loading) (guid : Guid) (creationEvent : Option EventPtr) :
    Prop :=
  ∃ before removalEvent after,
    l'.manager.schedule = l.manager.schedule ++ before ++
      .participantCreation ⟨(env.times l e).1, qos, role, removalEvent, .unknown⟩ :: after ∧
    (∀ event ∈ before, event.CreatesNobody) ∧ (∀ event ∈ after, event.CreatesNobody) ∧
    l'.world.calls = l.world.calls ∧ guid = .ofPrefix qos.guidPrefix ∧
    creationEvent = if role = .server then none
      else some (l.manager.schedule.length + before.length)

/-- The participant is created at once and filed, and its GUID is passed on, except for
a server. -/
def Now (env : Environment) (role : ParticipantRole) (l : Loading) (qos : DomainParticipantQos)
    (l' : Loading) (guid : Guid) (creationEvent : Option EventPtr) : Prop :=
  ∃ w event p after,
    event.qos = qos ∧ (env.reply w (.participantCreation event)).participant = some p.guid ∧
    l'.world.calls = .createParticipant p :: l.world.calls ∧
    l'.manager.holdings = l.manager.holdings.file role p
      ((env.reply w (.participantCreation event)).pubSub p) ∧
    l'.manager.schedule = l.manager.schedule ++ after ∧ (∀ event ∈ after, event.CreatesNobody) ∧
    guid = (if role = .server then .ofPrefix qos.guidPrefix else p.guid) ∧ creationEvent = none

variable {env : Environment} {e : XMLElement} {l l' : Loading} {qos : DomainParticipantQos}
  {role : ParticipantRole} {guid : Guid} {creationEvent : Option EventPtr}

theorem createNow_now {event : DelayedParticipantCreation}
    (h : env.createNow l event = .ok (l', guid)) :
    ∃ p, (env.reply l.world (.participantCreation event)).participant = some p.guid ∧
      guid = p.guid ∧ l'.world.calls = .createParticipant p :: l.world.calls ∧
      l'.manager.holdings = l.manager.holdings.file event.participantCreationFunction p
        ((env.reply l.world (.participantCreation event)).pubSub p) ∧
      l'.manager.schedule = l.manager.schedule := by
  obtain ⟨hreply, w, hrun, rfl⟩ := createNow_spec h
  obtain ⟨g, p, hguid, rfl, hcalls, _, hholdings, _⟩ := World.participantCreation_spec hrun
  exact ⟨_, hguid, Option.some.inj (hreply.symm.trans hguid), hcalls, hholdings,
    World.schedule_unscheduled hrun⟩

theorem scheduleServer_later (hlate : (env.times l e).1 ≠ l.getTime)
    (h : env.scheduleServer l e qos = .ok l') :
    env.Later .server l e qos l' (.ofPrefix qos.guidPrefix) none := by
  unfold scheduleServer createServer at h
  dsimp only at h
  rw [if_neg hlate] at h
  obtain ⟨l₁, hl₁, h⟩ := bind_eq_ok.mp h
  cases hl₁
  refine ⟨[], none, ?_⟩
  rw [List.append_nil]
  split_ifs at h with hremoval
  · cases h
    refine ⟨[.participantDestruction ⟨(env.times l e).2, .unknown⟩], ?_, List.forall_mem_nil _, ?_,
      rfl, rfl, rfl⟩
    · rw [DiscoveryServerManager.schedule_pushBack, DiscoveryServerManager.schedule_pushBack,
        List.append_assoc]
      rfl
    · exact LateJoinerData.createsNobody_destruction _
  · cases h
    exact ⟨[], DiscoveryServerManager.schedule_pushBack l _, List.forall_mem_nil _,
      List.forall_mem_nil _, rfl, rfl, rfl⟩

theorem scheduleServer_now (hnow : (env.times l e).1 = l.getTime)
    (h : env.scheduleServer l e qos = .ok l') :
    env.Now .server l qos l' (.ofPrefix qos.guidPrefix) none := by
  unfold scheduleServer createServer at h
  dsimp only at h
  rw [if_pos hnow] at h
  obtain ⟨l₁, hl₁, h⟩ := bind_eq_ok.mp h
  cases hrun : env.createNow l ⟨(env.times l e).1, qos, .server, none, .unknown⟩ with
  | error fault =>
    rw [hrun] at hl₁
    cases hl₁
  | ok result =>
    rw [hrun] at hl₁
    cases hl₁
    obtain ⟨p, hreply, _, hcalls, hholdings, hschedule⟩ := createNow_now hrun
    refine ⟨l.world, ⟨(env.times l e).1, qos, .server, none, .unknown⟩, p, ?_⟩
    split_ifs at h with hremoval
    · cases h
      refine ⟨[.participantDestruction ⟨(env.times l e).2, .unknown⟩], rfl, hreply, hcalls,
        hholdings, ?_, ?_, rfl, rfl⟩
      · rw [DiscoveryServerManager.schedule_pushBack, hschedule]
        rfl
      · exact LateJoinerData.createsNobody_destruction _
    · cases h
      refine ⟨[], rfl, hreply, hcalls, hholdings, ?_, List.forall_mem_nil _, rfl, rfl⟩
      rw [List.append_nil]
      exact hschedule

/-- The destruction of a client or simple participant, which comes first. -/
theorem scheduleParticipant_spec (hrole : role ≠ .server)
    (h : env.scheduleParticipant role l e qos = .ok (l', guid, creationEvent)) :
    if (env.times l e).1 = l.getTime then env.Now role l qos l' guid creationEvent
    else env.Later role l e qos l' guid creationEvent := by
  unfold scheduleParticipant at h
  dsimp only at h
  generalize hdestruction : (if (env.times l e).2 ≠ l.getTime then
      (l.pushBack (.participantDestruction ⟨(env.times l e).2, .ofPrefix qos.guidPrefix⟩),
        some l.manager.events.length) else (l, none)) = scheduled at h
  have hfirst : ∃ before, scheduled.1.manager.schedule = l.manager.schedule ++ before ∧
      (∀ event ∈ before, event.CreatesNobody) ∧ scheduled.1.world.calls = l.world.calls ∧
      scheduled.1.manager.holdings = l.manager.holdings ∧ scheduled.1.getTime = l.getTime := by
    rw [← hdestruction]
    split_ifs with hremoval
    · exact ⟨_, DiscoveryServerManager.schedule_pushBack l _,
        LateJoinerData.createsNobody_destruction _, rfl, rfl, rfl⟩
    · exact ⟨[], (List.append_nil _).symm, List.forall_mem_nil _, rfl, rfl, rfl⟩
  obtain ⟨before, hschedule, hbefore, hcalls, hholdings, htime⟩ := hfirst
  rw [htime] at h
  split_ifs at h ⊢ with hnow
  · obtain ⟨⟨l₂, g⟩, hcreate, h⟩ := bind_eq_ok.mp h
    cases h
    obtain ⟨p, hreply, hguid, hcalls', hholdings', hschedule'⟩ := createNow_now hcreate
    refine ⟨_, _, p, before, rfl, hreply, ?_, ?_, ?_, hbefore, ?_, rfl⟩
    · rw [hcalls', hcalls]
    · rw [hholdings', hholdings]
    · rw [hschedule', hschedule]
    · rw [if_neg hrole, hguid]
  · cases h
    refine ⟨before, scheduled.2, [], ?_, hbefore, List.forall_mem_nil _, hcalls, rfl, ?_⟩
    · rw [DiscoveryServerManager.schedule_pushBack, hschedule]
      rfl
    · rw [if_neg hrole]
      have hlength : scheduled.1.manager.events.length =
          scheduled.1.manager.schedule.length := (List.length_map _).symm
      rw [hlength, hschedule, List.length_append]

variable {start accepted prepared : Loading}

/-- **A participant is created at once, or its creation is scheduled.** -/
theorem Prepared.spec (h : env.Prepared e start accepted qos prepared guid creationEvent role) :
    if (env.times accepted e).1 = accepted.getTime then
      env.Now role accepted qos prepared guid creationEvent
    else env.Later role accepted e qos prepared guid creationEvent := by
  cases role with
  | server =>
    obtain ⟨_, hschedule, rfl, rfl⟩ := h
    split_ifs with hnow
    · exact scheduleServer_now hnow hschedule
    · exact scheduleServer_later hnow hschedule
  | client => exact scheduleParticipant_spec nofun h.2
  | simple => exact scheduleParticipant_spec nofun h.2

theorem Prepared.core_accepted
    (h : env.Prepared e start accepted qos prepared guid creationEvent role) :
    accepted.core = start.core := by
  cases role with
  | server =>
    have hcore := core_acceptServer env start e
    rw [h.1] at hcore
    exact hcore
  | client => exact core_acceptClient h.1
  | simple =>
    have hcore := core_acceptSimple env start e
    rw [h.1] at hcore
    exact hcore

theorem Prepared.steps (h : env.Prepared e start accepted qos prepared guid creationEvent role) :
    LoadSteps env accepted.world prepared.world := by
  cases role with
  | server => exact (scheduleServer_loads h.2.1).steps
  | client => exact (scheduleParticipant_loads h.2).steps
  | simple => exact (scheduleParticipant_loads h.2).steps

/-- What is left of the loader are the endpoints. -/
theorem Prepared.loadItem_eq
    (h : env.Prepared e start accepted qos prepared guid creationEvent role) :
    env.loadItem start (.participant role e) =
      Stop.lift (env.loadEndpoints prepared guid e creationEvent) := by
  cases role with
  | server =>
    obtain ⟨haccept, hschedule, rfl, rfl⟩ := h
    show Stop.lift (env.loadServer start e) = _
    unfold loadServer
    rw [haccept]
    dsimp only
    rw [hschedule]
    rfl
  | client =>
    obtain ⟨haccept, hschedule⟩ := h
    show Stop.lift (env.loadClient start e) = _
    unfold loadClient
    rw [haccept]
    show Stop.lift (env.scheduleParticipant .client accepted e qos >>= _) = _
    rw [hschedule]
    rfl
  | simple =>
    obtain ⟨haccept, hschedule⟩ := h
    show Stop.lift (env.loadSimple start e) = _
    unfold loadSimple
    rw [haccept]
    dsimp only
    rw [hschedule]
    rfl

/-- The endpoints are loaded, and then the constructor goes on to its end. -/
theorem Prepared.loads {items : List ConfigItem} {loaded : Loading}
    (h : env.Prepared e start accepted qos prepared guid creationEvent role)
    (hreaches : Reaches env.loadItem l items (.participant role e) start)
    (hleaves : Leaves (items.foldlM env.loadItem l) loaded) : ∃ result rest,
      env.loadEndpoints prepared guid e creationEvent = .ok result ∧
        Leaves (List.foldlM env.loadItem result rest) loaded := by
  obtain ⟨rest, heq⟩ := hreaches.foldlM_eq
  rw [heq, h.loadItem_eq] at hleaves
  cases hload : env.loadEndpoints prepared guid e creationEvent with
  | ok result =>
    rw [hload] at hleaves
    exact ⟨result, rest, rfl, hleaves⟩
  | error fault =>
    rw [hload] at hleaves
    rcases hleaves with hleft | hleft <;> cases hleft

end Environment

/-! ## A participant of a configuration -/

/-- An element that the constructor gets to, and whose loader accepts it. -/
structure AcceptedParticipant (env : Environment) (sharedMemoryOff : Bool) (doc : XMLDocument)
    (root : XMLElement) (w : World) where
  role : ParticipantRole
  element : XMLElement
  start : Loading
  accepted : Loading
  qos : DomainParticipantQos
  prepared : Loading
  guid : Guid
  creationEvent : Option EventPtr
  reaches : Reaches env.loadItem (env.initial sharedMemoryOff root w) (ConfigItem.ofDocument doc)
    (.participant role element) start
  prepares : env.Prepared element start accepted qos prepared guid creationEvent role

/-- Among new events of which one has a property, that is where it stands. -/
theorem eq_of_only {P : LateJoinerData → Prop} {old before after : List LateJoinerData}
    {c event : LateJoinerData} {i : EventPtr} (hbefore : ∀ event ∈ before, ¬ P event)
    (hafter : ∀ event ∈ after, ¬ P event) (hi : old.length ≤ i)
    (h : (old ++ before ++ c :: after)[i]? = some event) (hevent : P event) :
    i = old.length + before.length := by
  rw [List.append_assoc, List.getElem?_append_right hi] at h
  rcases lt_trichotomy (i - old.length) before.length with hlt | heq | hgt
  · rw [List.getElem?_append_left hlt] at h
    exact absurd hevent (hbefore _ (List.mem_of_getElem? h))
  · exact (Nat.sub_eq_iff_eq_add' hi).mp heq
  · rw [List.getElem?_append_right hgt.le] at h
    obtain ⟨k, hk⟩ : ∃ k, i - old.length - before.length = k + 1 :=
      Nat.exists_eq_add_one.mpr (Nat.sub_pos_of_lt hgt)
    rw [hk, List.getElem?_cons_succ] at h
    exact absurd hevent (hafter _ (List.mem_of_getElem? h))

namespace AcceptedParticipant

variable {env : Environment} {sharedMemoryOff : Bool} {doc : XMLDocument} {root : XMLElement}
  {w₀ : World} (x : AcceptedParticipant env sharedMemoryOff doc root w₀)

/-- When the program starts. -/
def startTime : TimePoint := x.accepted.getTime

def creationTime : TimePoint := (env.times x.accepted x.element).1

def removalTime : TimePoint := (env.times x.accepted x.element).2

/-- The position is that of the creation event of the participant. -/
def IsCreation (i : EventPtr) : Prop :=
  x.accepted.manager.schedule.length ≤ i ∧
    ∃ event, x.prepared.manager.schedule[i]? = some (.participantCreation event)

/-- The loader has created the participant itself. -/
def CreatedAtOnce (p : DomainParticipant) : Prop :=
  x.prepared.world.calls = .createParticipant p :: x.accepted.world.calls

theorem steps_accepted : LoadSteps env w₀ x.accepted.world :=
  (Environment.reaches_steps x.reaches).trans (Loads.of_core x.prepares.core_accepted).steps

theorem steps_prepared : LoadSteps env w₀ x.prepared.world :=
  x.steps_accepted.trans x.prepares.steps

theorem spec : if x.creationTime = x.startTime then
      env.Now x.role x.accepted x.qos x.prepared x.guid x.creationEvent
    else env.Later x.role x.accepted x.element x.qos x.prepared x.guid x.creationEvent :=
  x.prepares.spec

/-- The creation event of a late participant, and what its loader makes of it. -/
theorem creation_spec (hlate : x.creationTime ≠ x.startTime) : ∃ i removalEvent,
    (∀ k, x.IsCreation k ↔ k = i) ∧
    x.prepared.manager.schedule[i]? =
      some (.participantCreation ⟨x.creationTime, x.qos, x.role, removalEvent, .unknown⟩) ∧
    x.prepared.world.calls = x.accepted.world.calls ∧ x.guid = .ofPrefix x.qos.guidPrefix ∧
    x.creationEvent = if x.role = .server then none else some i := by
  have hspec := x.spec
  rw [if_neg hlate] at hspec
  obtain ⟨before, removalEvent, after, hschedule, hbefore, hafter, hcalls, hguid, hevent⟩ := hspec
  have hcreation : x.prepared.manager.schedule[x.accepted.manager.schedule.length +
      before.length]? =
        some (.participantCreation ⟨x.creationTime, x.qos, x.role, removalEvent, .unknown⟩) := by
    rw [hschedule, ← List.length_append, List.getElem?_append_right le_rfl, Nat.sub_self]
    rfl
  refine ⟨_, removalEvent, fun k => ⟨?_, ?_⟩, hcreation, hcalls, hguid, hevent⟩
  · rintro ⟨hk, event, hk'⟩
    rw [hschedule] at hk'
    refine eq_of_only (P := fun event => ¬ event.CreatesNobody)
      (fun e he hnot => hnot (hbefore e he)) (fun e he hnot => hnot (hafter e he)) hk hk' nofun
  · rintro rfl
    exact ⟨Nat.le_add_right _ _, _, hcreation⟩

theorem not_createdAtOnce (hlate : x.creationTime ≠ x.startTime) (p : DomainParticipant) :
    ¬ x.CreatedAtOnce p := by
  obtain ⟨_, _, _, _, hcalls, _⟩ := x.creation_spec hlate
  intro hp
  exact absurd (hp.symm.trans hcalls) (List.cons_ne_self _ _)

end AcceptedParticipant

/-- An accepted participant, in a constructor that ends with the manager of `loaded`. -/
structure LoadedParticipant (env : Environment) (sharedMemoryOff : Bool) (doc : XMLDocument)
    (root : XMLElement) (w : World) extends AcceptedParticipant env sharedMemoryOff doc root w where
  loaded : Loading
  leaves : Leaves (env.loadConfig sharedMemoryOff doc root w) loaded

namespace LoadedParticipant

variable {env : Environment} {sharedMemoryOff : Bool} {doc : XMLDocument} {root : XMLElement}
  {w₀ : World} (x : LoadedParticipant env sharedMemoryOff doc root w₀)

/-- `runEvents` up to some event. -/
def run (reply : EventPtr → Reply) (done : List EventPtr) : Option World :=
  x.loaded.world.executeAll (done.map fun ptr => (ptr, reply ptr))

/-- The participant has been created when the events `done` have been executed: by the
loader or by one of the events. -/
def Created (reply : EventPtr → Reply) (done : List EventPtr) (p : DomainParticipant) : Prop :=
  x.CreatedAtOnce p ∨
    ∃ i before after w w', x.IsCreation i ∧ done = before ++ i :: after ∧
      x.run reply before = some w ∧ w.execute (i, reply i) = some w' ∧
        w'.calls = .createParticipant p :: w.calls

/-! ## The way through the constructor -/

theorem loads : ∃ result rest,
    env.loadEndpoints x.prepared x.guid x.element x.creationEvent = .ok result ∧
      Leaves (List.foldlM env.loadItem result rest) x.loaded :=
  x.prepares.loads x.reaches (Environment.loadConfig_eq env .. ▸ x.leaves)

/-- What the constructor does once the participant is prepared. -/
theorem steps_loaded : LoadSteps env x.prepared.world x.loaded.world := by
  obtain ⟨result, rest, hload, hleaves⟩ := x.loads
  exact ((Loads.rule _).servers.endpoints hload).steps.trans ((Loads.rule _).leaves hleaves).steps

/-! ## The run -/

theorem schedule_run {reply : EventPtr → Reply} {done : List EventPtr} {w : World}
    (hrun : x.run reply done = some w) : w.manager.schedule = x.loaded.manager.schedule :=
  World.schedule_executeAll hrun

/-- A run up to an event can be stopped before any other. -/
theorem run_split {reply : EventPtr → Reply} {before after : List EventPtr} {i : EventPtr}
    {w : World} (hrun : x.run reply (before ++ i :: after) = some w) :
    ∃ v v', x.run reply before = some v ∧ v.execute (i, reply i) = some v' ∧
      v'.executeAll (after.map fun ptr => (ptr, reply ptr)) = some w := by
  unfold run World.executeAll at hrun
  rw [List.map_append, run?_append] at hrun
  obtain ⟨v, hv, hrest⟩ := Option.bind_eq_some_iff.mp hrun
  obtain ⟨v', hv', hafter⟩ := Option.bind_eq_some_iff.mp hrest
  exact ⟨v, v', hv, hv', hafter⟩

/-- The execution of the creation event of the participant. -/
theorem execute_creation {reply : EventPtr → Reply} {before : List EventPtr} {i : EventPtr}
    {creation : DelayedParticipantCreation} {v v' : World}
    (hevent : x.loaded.manager.schedule[i]? = some (.participantCreation creation))
    (hrun : x.run reply before = some v) (hexecute : v.execute (i, reply i) = some v') :
    ∃ p, (reply i).participant = some p.guid ∧ v'.calls = .createParticipant p :: v.calls := by
  rw [← x.schedule_run hrun] at hevent
  obtain ⟨e, he, hforget⟩ := DiscoveryServerManager.schedule_getElem?_eq_some.mp hevent
  obtain ⟨guid, rfl⟩ := LateJoinerData.eq_of_forgetGuid_eq_participantCreation hforget
  unfold World.execute at hexecute
  rw [he] at hexecute
  obtain ⟨g, p, hguid, rfl, hcalls, _⟩ := World.participantCreation_spec hexecute
  exact ⟨_, hguid, hcalls⟩

/-- A participant that is created late is created by its creation event. -/
theorem created_iff (hlate : x.creationTime ≠ x.startTime) {i : EventPtr}
    (hcreation : ∀ k, x.IsCreation k ↔ k = i) {reply : EventPtr → Reply} {done : List EventPtr}
    {p : DomainParticipant} : x.Created reply done p ↔
      ∃ before after w w', done = before ++ i :: after ∧ x.run reply before = some w ∧
        w.execute (i, reply i) = some w' ∧ w'.calls = .createParticipant p :: w.calls := by
  constructor
  · rintro (h | ⟨k, before, after, w, w', hk, hdone, hrun, hexecute, hp⟩)
    · exact absurd h (x.not_createdAtOnce hlate p)
    · rw [(hcreation k).mp hk] at hdone hexecute
      exact ⟨before, after, w, w', hdone, hrun, hexecute, hp⟩
  · rintro ⟨before, after, w, w', hdone, hrun, hexecute, hp⟩
    exact .inr ⟨i, before, after, w, w', (hcreation i).mpr rfl, hdone, hrun, hexecute, hp⟩

/-- Once the creation event has been executed there is a participant. -/
theorem created_of_mem (hlate : x.creationTime ≠ x.startTime) {i : EventPtr}
    (hcreation : ∀ k, x.IsCreation k ↔ k = i) {creation : DelayedParticipantCreation}
    (hevent : x.loaded.manager.schedule[i]? = some (.participantCreation creation))
    {reply : EventPtr → Reply} {done : List EventPtr} {w : World} (hmem : i ∈ done)
    (hrun : x.run reply done = some w) :
    ∃ p, (reply i).participant = some p.guid ∧ x.Created reply done p := by
  obtain ⟨before, after, rfl⟩ := List.append_of_mem hmem
  obtain ⟨v, v', hv, hv', _⟩ := x.run_split hrun
  obtain ⟨p, hreply, hcalls⟩ := x.execute_creation hevent hv hv'
  exact ⟨p, hreply,
    (x.created_iff hlate hcreation).mpr ⟨before, after, v, v', rfl, hv, hv', hcalls⟩⟩

/-- A participant that is created when the program starts is created by the loader. -/
theorem created_now (hnow : x.creationTime = x.startTime) : ∃ p,
    x.prepared.world.calls = .createParticipant p :: x.accepted.world.calls ∧
      (x.role ≠ .server → x.guid = p.guid) ∧ x.creationEvent = none ∧
      (∃ w event, event.qos = x.qos ∧
        (env.reply w (.participantCreation event)).participant = some p.guid) ∧
      ∀ reply done q, x.Created reply done q ↔ q = p := by
  have hspec := x.spec
  rw [if_pos hnow] at hspec
  obtain ⟨w, event, p, after, hqos, hreply, hcalls, _, hschedule, hafter, hguid, hcreation⟩ :=
    hspec
  refine ⟨p, hcalls, fun hrole => ?_, hcreation, ⟨w, event, hqos, hreply⟩, fun reply done q => ?_⟩
  · rw [hguid, if_neg hrole]
  · constructor
    · rintro (hq | ⟨i, _, _, _, _, ⟨hi, event, hevent⟩, _⟩)
      · exact DdsCall.createParticipant.inj (List.cons.inj (hq.symm.trans hcalls)).1
      · rw [hschedule, List.getElem?_append_right hi] at hevent
        cases hafter _ (List.mem_of_getElem? hevent)
    · rintro rfl
      exact .inl hcalls

/-- An event is executed once, so an element has one participant. -/
theorem created_unique {reply : EventPtr → Reply} {done : List EventPtr} (hdone : done.Nodup)
    {p q : DomainParticipant} (hp : x.Created reply done p) (hq : x.Created reply done q) :
    p = q := by
  by_cases hnow : x.creationTime = x.startTime
  · obtain ⟨_, _, _, _, _, hcreated⟩ := x.created_now hnow
    rw [(hcreated _ _ p).mp hp, (hcreated _ _ q).mp hq]
  obtain ⟨i, _, hcreation, _⟩ := x.creation_spec hnow
  obtain ⟨before, after, w, w', rfl, hrun, hexecute, hcalls⟩ :=
    (x.created_iff hnow hcreation).mp hp
  obtain ⟨before', after', v, v', hsplit, hrun', hexecute', hcalls'⟩ :=
    (x.created_iff hnow hcreation).mp hq
  obtain ⟨_, hright, hapart⟩ := List.nodup_append.mp hdone
  have hbefore : i ∉ before := fun hi => hapart i hi i List.mem_cons_self rfl
  have hafter : i ∉ after := (List.nodup_cons.mp hright).1
  obtain ⟨rfl, _, _⟩ := (List.append_cons_inj_of_notMem hbefore hafter).mp hsplit
  cases hrun.symm.trans hrun'
  cases hexecute.symm.trans hexecute'
  exact (DdsCall.createParticipant.inj (List.cons.inj (hcalls.symm.trans hcalls')).1)

/-- Whoever has been created is among the calls. -/
theorem mem_calls {reply : EventPtr → Reply} {done : List EventPtr} {p : DomainParticipant}
    {w : World} (hcreated : x.Created reply done p) (hrun : x.run reply done = some w) :
    .createParticipant p ∈ w.calls := by
  rcases hcreated with hnow | ⟨i, before, after, v, v', _, rfl, hbefore, hexecute, hcalls⟩
  · refine (x.steps_loaded.calls.trans (World.later_executeAll hrun).calls).mem ?_
    rw [hnow]
    exact List.mem_cons_self
  · obtain ⟨u, u', hu, hu', hrest⟩ := x.run_split hrun
    cases hbefore.symm.trans hu
    cases hexecute.symm.trans hu'
    refine (World.later_executeAll hrest).calls.mem ?_
    rw [hcalls]
    exact List.mem_cons_self

end LoadedParticipant

end DiscoveryServer
