import DiscoveryServer.EndpointEvents
import DiscoveryServer.Totality

/-!
# Endpoints of late participants

An endpoint without a creation time of its own follows its participant: the loaders of
clients and simple participants pass their creation event on, so the endpoint is
scheduled 1 ns later and finds the participant through the event. The loader of servers
passes nothing on: the endpoints of a late server are attempted while the
configuration is loaded. `endpoint_follows_iff` says exactly when an endpoint follows.
-/

namespace DiscoveryServer

open Library

/-! ## Whom an endpoint finds -/

namespace DiscoveryServerManager

variable {m : DiscoveryServerManager}

/-- Reading the entry of a GUID leaves the other GUIDs alone. -/
theorem getParticipant_readInfo_ne {id g : Guid} (hne : g ≠ id) :
    (m.readInfo id).getParticipant g = m.getParticipant g := by
  have hmap : (m.readInfo id).entityMap.get? g = m.entityMap.get? g := by
    unfold readInfo
    dsimp only
    rw [OrdMap.get?_touch, if_neg hne]
  unfold getParticipant
  rw [hmap]
  rfl

/-- A GUID under which nobody is found gets an entry without a participant. -/
theorem getParticipant_readInfo_self {g : Guid} (h : m.getParticipant g = none) :
    (m.readInfo g).getParticipant g = none := by
  have hmap : (m.readInfo g).entityMap.get? g = some ((m.entityMap.get? g).getD {}) := by
    unfold readInfo
    dsimp only
    rw [OrdMap.get?_touch, if_pos rfl]
  unfold getParticipant at h ⊢
  rw [hmap]
  cases hinfo : m.entityMap.get? g with
  | none => rfl
  | some info =>
    rw [hinfo] at h
    exact h

end DiscoveryServerManager

/-- **Whom an endpoint finds.** An endpoint that holds the GUID of a participant, or the
unknown prefix and the creation event of that participant, finds the participant if it
is the one recorded under its GUID. -/
theorem World.Recorded.part_eq_some_iff {w : World} (hrec : w.Recorded)
    (hprefixes : ProvidesPrefixes w.calls) {p : DomainParticipant}
    (hcall : .createParticipant p ∈ w.calls) {event : DelayedEndpointCreation}
    (hguid : event.participantGuid = p.guid ∨ (event.participantGuid.guidPrefix = 0 ∧
      ∃ i, event.ownerEvent = some i ∧ w.manager.guidOf i = some p.guid)) :
    event.part w.manager = some p ↔ w.manager.Records p := by
  rw [← DiscoveryServerManager.getParticipant_eq_some_iff]
  unfold DelayedEndpointCreation.part
  rcases hguid with hguid | ⟨hzero, i, howner, hguid⟩
  · rw [hguid]
    cases hdirect : w.manager.getParticipant p.guid with
    | some q => rfl
    | none =>
      -- the second lookup finds the participant under no other GUID, and there is nobody
      refine iff_of_false (fun hpart => ?_) nofun
      cases howner : event.ownerEvent with
      | none =>
        rw [howner] at hpart
        cases hpart
      | some i =>
        rw [howner] at hpart
        obtain ⟨g, _, hfound⟩ := Option.bind_eq_some_iff.mp hpart
        have hrecRead : (w.manager.readInfo p.guid).holdings.Recorded w.calls :=
          (DiscoveryServerManager.holdings_readInfo _ _).symm ▸ hrec
        obtain ⟨rfl, _⟩ := DiscoveryServerManager.of_getParticipant hrecRead hfound
        rw [DiscoveryServerManager.getParticipant_readInfo_self hdirect] at hfound
        cases hfound
  · have hne : p.guid ≠ event.participantGuid := by
      intro heq
      rw [← heq] at hzero
      exact hprefixes _ hcall p rfl hzero
    rw [hrec.getParticipant_unknown hprefixes hzero, howner]
    show (w.manager.guidOf i).bind _ = some p ↔ _
    rw [hguid]
    show (w.manager.readInfo event.participantGuid).getParticipant p.guid = some p ↔ _
    rw [DiscoveryServerManager.getParticipant_readInfo_ne hne]

/-! ## What becomes of an endpoint -/

namespace ParticipantEndpoint

variable {env : Environment} {sharedMemoryOff : Bool} {doc : XMLDocument} {root : XMLElement}
  {w₀ : World} (x : ParticipantEndpoint env sharedMemoryOff doc root w₀)

/-- The element, and those that are loaded before it, name their topics. -/
def Named : Prop :=
  ∀ c ∈ x.before ++ [(x.kind, x.child)], (c.2.attributeValue "topic").isSome

/-- The endpoint follows its participant: its loader makes a creation event of it, and at
the moment that event is executed, while the configuration is loaded or later, the
participant of the element has been created and is what the event resolves to. -/
def Follows (reply : EventPtr → Reply) : Prop :=
  ∃ met scheduled event, ∃ schedules : x.Schedules met scheduled event,
    (event.time = scheduled.getTime →
      ∃ p, x.CreatedAtOnce p ∧ event.part scheduled.manager = some p) ∧
    ∀ loaded (leaves : Leaves (env.loadConfig sharedMemoryOff doc root w₀) loaded) sort done w,
      (x.inConstructor schedules leaves).Attempt sort reply done w → ProvidesPrefixes w.calls →
        ∃ p, (x.inConstructor schedules leaves).Created reply done p ∧
          event.part w.manager = some p

/-- When the creation event of the endpoint is executed, a participant that has been
created for the element is the one recorded under its GUID. -/
def StaysRecorded (reply : EventPtr → Reply) : Prop :=
  ∀ met scheduled event (schedules : x.Schedules met scheduled event) loaded
    (leaves : Leaves (env.loadConfig sharedMemoryOff doc root w₀) loaded) sort done w,
    (x.inConstructor schedules leaves).Attempt sort reply done w → ProvidesPrefixes w.calls →
      ∀ p, (x.inConstructor schedules leaves).Created reply done p → w.manager.Records p

/-- A creation event is made of the endpoints whose loaders get as far. -/
theorem exists_schedules_iff (hcreates : env.Creates) (hequipped : Equipped x.prepared.world) :
    (∃ met scheduled event, x.Schedules met scheduled event) ↔ x.Named := by
  have hbefore : (∃ met, x.before.foldlM
      (fun l c => env.loadEndpoint c.1 l x.guid c.2 x.creationEvent) x.prepared = .ok met) ↔
        ∀ c ∈ x.before, (c.2.attributeValue "topic").isSome :=
    Environment.foldlM_loadEndpoint_isOk_iff hcreates hequipped x.before
  unfold Named
  rw [List.forall_mem_append, List.forall_mem_singleton, ← hbefore]
  constructor
  · rintro ⟨met, scheduled, event, hmeets, hcreatesEvent⟩
    exact ⟨⟨met, hmeets⟩, Environment.endpointEvent_isOk_iff.mp ⟨_, hcreatesEvent⟩⟩
  · rintro ⟨⟨met, hmeets⟩, htopic⟩
    obtain ⟨⟨scheduled, event⟩, hcreatesEvent⟩ := Environment.endpointEvent_isOk_iff.mpr htopic
    exact ⟨met, scheduled, event, hmeets, hcreatesEvent⟩

end ParticipantEndpoint

namespace LoadedEndpoint

variable {env : Environment} {sharedMemoryOff : Bool} {doc : XMLDocument} {root : XMLElement}
  {w₀ : World} (x : LoadedEndpoint env sharedMemoryOff doc root w₀)

/-- A creation event that is scheduled after the one of the participant comes after
it. -/
theorem mem_of_turn {sort : Arrangement x.loaded.manager.events} {done : List EventPtr}
    {i : EventPtr} {event : DelayedParticipantCreation}
    (hevent : x.loaded.manager.schedule[i]? = some (.participantCreation event))
    (htime : event.time < x.event.time) (hlate : x.event.time ≠ x.scheduled.getTime)
    (hturn : x.Turn sort done) : i ∈ done := by
  unfold Turn at hturn
  rw [if_neg hlate] at hturn
  obtain ⟨after, horder⟩ := hturn
  obtain ⟨e, he, hforget⟩ := DiscoveryServerManager.schedule_getElem?_eq_some.mp hevent
  obtain ⟨f, hf, hforget'⟩ :=
    DiscoveryServerManager.schedule_getElem?_eq_some.mp (x.schedule_ptr hlate)
  refine sort.mem_before he hf ?_ horder
  rw [← e.executionTime_forgetGuid, ← f.executionTime_forgetGuid, hforget, hforget']
  exact htime

/-- The endpoint of a late client or simple participant is attempted when there is a
participant, and resolves it if it is the one recorded. -/
theorem attempt_late (hlate : x.startTime < x.creationTime) (hrole : x.role ≠ .server)
    (hown : x.child.attributeValue "creation_time" = none) (hrec : w₀.Recorded)
    {sort : Arrangement x.loaded.manager.events} {reply : EventPtr → Reply}
    (hkeeps : ∀ i, x.IsCreation i → (reply i).KeepsPrefix x.qos) {done : List EventPtr} {w : World}
    (hattempt : x.Attempt sort reply done w) (hprefixes : ProvidesPrefixes w.calls) :
    ∃ p, x.Created reply done p ∧ (x.event.part w.manager = some p ↔ w.manager.Records p) := by
  obtain ⟨i, removalEvent, hcreation, hprepared, _, hguid, hevent⟩ := x.creation_spec hlate.ne'
  rw [if_neg hrole] at hevent
  have hafter : x.creationTime < x.event.time := by
    rw [(x.schedules.time hown).2 i _ hevent hprepared]
    exact lt_add_one x.creationTime
  have hscheduled : x.event.time ≠ x.scheduled.getTime := by
    rw [x.schedules.startTime_scheduled]
    exact (hlate.trans hafter).ne'
  have hloaded : x.loaded.manager.schedule[i]? = some (.participantCreation
      ⟨x.creationTime, x.qos, x.role, removalEvent, .unknown⟩) :=
    x.steps_loaded.schedule_getElem? hprepared
  have hmem : i ∈ done := x.mem_of_turn hloaded hafter hscheduled hattempt.1
  have hrecorded : w.Recorded := x.recorded_attempt hattempt hrec
  obtain ⟨hturn, hrun⟩ := hattempt
  rw [if_neg hscheduled] at hrun
  -- the participant that is created, and the GUID its creation event holds
  obtain ⟨p, hreply, hp⟩ := x.created_of_mem hlate.ne' hcreation hloaded hmem hrun
  have hguidOf : w.manager.guidOf i = some p.guid := by
    rw [World.guidOf_executeAll hloaded hrun, if_pos hmem]
    exact hreply
  refine ⟨p, hp, hrecorded.part_eq_some_iff hprefixes (x.mem_calls hp hrun) ?_⟩
  rw [x.schedules.participantGuid, x.schedules.ownerEvent, hguid, hevent]
  by_cases hzero : x.qos.guidPrefix = 0
  · exact .inr ⟨hzero, i, rfl, hguidOf⟩
  · refine .inl ?_
    exact (hkeeps i ((hcreation i).mpr rfl) hzero p.guid hreply).symm

end LoadedEndpoint

/-- **When an endpoint follows its participant.** An endpoint without a creation time
whose participant is created later than the start follows the participant exactly if it
and the endpoints before it name their topics, it is not the endpoint of a server, and
the participant is still the one recorded under its GUID when the creation event of the
endpoint is executed. -/
theorem endpoint_follows_iff {env : Environment} {sharedMemoryOff : Bool} {doc : XMLDocument}
    {root : XMLElement} {steadyClock now now' : TimePoint}
    (x : ParticipantEndpoint env sharedMemoryOff doc root (.initial steadyClock now now'))
    (hlate : x.startTime < x.creationTime) (hown : x.child.attributeValue "creation_time" = none)
    (hcreates : env.Creates) {reply : EventPtr → Reply}
    (hkeeps : ∀ i, x.IsCreation i → (reply i).KeepsPrefix x.qos) :
    x.Follows reply ↔ x.Named ∧ x.role ≠ .server ∧ x.StaysRecorded reply := by
  have hrec := World.recorded_initial steadyClock now now'
  have hequipped : Equipped x.prepared.world :=
    (Equipped.initial steadyClock now now').steps hcreates x.steps_prepared
  have hnamed := x.exists_schedules_iff hcreates hequipped
  constructor
  · rintro ⟨met, scheduled, event, schedules, hatOnce, hlater⟩
    have hrole : x.role ≠ .server := by
      intro hrole
      obtain ⟨_, _, _, _, _, _, hevent⟩ := x.creation_spec hlate.ne'
      rw [if_pos hrole] at hevent
      -- the endpoint is attempted before any event is run
      have hnow : event.time = scheduled.getTime :=
        ((schedules.time hown).1 hevent).trans schedules.startTime_scheduled.symm
      obtain ⟨p, hp, _⟩ := hatOnce hnow
      exact x.not_createdAtOnce hlate.ne' p hp
    refine ⟨hnamed.mp ⟨met, scheduled, event, schedules⟩, hrole, ?_⟩
    intro met' scheduled' event' schedules' loaded leaves sort done w hattempt hprefixes p hp
    obtain ⟨rfl, rfl, rfl⟩ := schedules.unique schedules'
    let y := x.inConstructor schedules leaves
    have hnodup : done.Nodup := y.nodup_of_turn hattempt.1
    obtain ⟨q, hq, hpart⟩ := hlater loaded leaves sort done w hattempt hprefixes
    obtain ⟨q', hq', hfinds⟩ := y.attempt_late hlate hrole hown hrec hkeeps hattempt hprefixes
    rw [y.created_unique hnodup hp hq']
    rw [y.created_unique hnodup hq hq'] at hpart
    exact hfinds.mp hpart
  · rintro ⟨hnames, hrole, hstays⟩
    obtain ⟨met, scheduled, event, schedules⟩ := hnamed.mpr hnames
    refine ⟨met, scheduled, event, schedules, fun hnow => ?_, ?_⟩
    · -- the endpoint is scheduled later than its participant
      obtain ⟨i, _, _, hprepared, _, _, hevent⟩ := x.creation_spec hlate.ne'
      rw [if_neg hrole] at hevent
      rw [(schedules.time hown).2 i _ hevent hprepared, schedules.startTime_scheduled] at hnow
      exact absurd hnow (hlate.trans (lt_add_one x.creationTime)).ne'
    · intro loaded leaves sort done w hattempt hprefixes
      obtain ⟨p, hp, hfinds⟩ := (x.inConstructor schedules leaves).attempt_late hlate hrole hown
        hrec hkeeps hattempt hprefixes
      exact ⟨p, hp, hfinds.mpr
        (hstays met scheduled event schedules loaded leaves sort done w hattempt hprefixes p hp)⟩

/-- A client that is created after 1 s and has a publisher. -/
def lateClient : XMLElement :=
  ⟨"client", [("profile_name", "client"), ("creation_time", "1")], none,
    [⟨"publisher", [("topic", "topic1")], none, []⟩]⟩

def lateClientConfig : XMLDocument where
  elements := [⟨"DS", [], none, [⟨"clients", [], none, [lateClient]⟩]⟩]

theorem endpoint_follows_iff_sample :
    ∃ (x : ParticipantEndpoint sampleEnvironment false lateClientConfig (.new "DS")
        (.initial 0 0 0))
      (reply : EventPtr → Reply), x.startTime < x.creationTime ∧ x.Follows reply := by
  refine ⟨{
    role := .client
    element := lateClient
    start := _
    accepted := _
    qos := _
    prepared := _
    guid := _
    creationEvent := _
    before := []
    kind := .dataWriter
    child := _
    after := []
    reaches := ⟨[.noServers], [], rfl, rfl⟩
    prepares := ⟨rfl, rfl⟩
    isChild := rfl }, fun _ => { participant := some (.ofPrefix 7) }, by decide, ?_⟩
  refine (endpoint_follows_iff _ (by decide) rfl sampleEnvironment_creates ?_).mpr
    ⟨?_, nofun, ?_⟩
  · intro i _ hgiven
    exact absurd rfl hgiven
  · intro c hc
    rw [List.mem_singleton.mp hc]
    rfl
  · intro met scheduled event schedules loaded leaves sort done w hattempt _ p hp
    obtain ⟨rfl, rfl, rfl⟩ := ParticipantEndpoint.Schedules.unique ⟨rfl, rfl⟩ schedules
    rcases leaves with hloaded | hloaded
    · cases hloaded
      obtain ⟨⟨after, horder⟩, hrun⟩ := hattempt
      have horder : sort.order = done ++ 1 :: after := horder
      -- of the two events that are executed the endpoint comes second
      have hmem : 0 ∈ done := sort.mem_before rfl rfl (by decide) horder
      have hdone : done = [0] := by
        have hpos : 0 < done.length := List.length_pos_of_mem hmem
        have hlength := sort.perm.length_eq
        rw [horder, List.length_append] at hlength
        have hlength : done.length + (after.length + 1) = 2 := hlength
        have hone : done.length = 1 := by omega
        obtain ⟨d, rfl⟩ := List.length_eq_one_iff.mp hone
        rw [List.mem_singleton.mp hmem]
      subst hdone
      have hcall := LoadedParticipant.mem_calls _ hp hrun
      cases hrun
      have hcall : DdsCall.createParticipant p ∈ [.createParticipant ⟨0, .ofPrefix 7, "client"⟩] :=
        hcall
      cases List.mem_singleton.mp hcall
      rfl
    · cases hloaded

/-- A server that is created after 1 s and has a publisher. -/
def lateServer : XMLElement :=
  ⟨"server", [("profile_name", "server"), ("creation_time", "1")], none,
    [⟨"publisher", [("topic", "topic1")], none, []⟩]⟩

def lateServerConfig : XMLDocument where
  elements := [⟨"DS", [], none, [⟨"servers", [], none, [lateServer]⟩]⟩]

/-- The publisher of a late server is attempted while the configuration is loaded. -/
theorem late_endpoint_does_not_follow : ¬ ∀ (env : Environment) (sharedMemoryOff : Bool)
    (doc : XMLDocument) (root : XMLElement) (steadyClock now now' : TimePoint)
    (x : ParticipantEndpoint env sharedMemoryOff doc root (.initial steadyClock now now'))
    (reply : EventPtr → Reply), x.startTime < x.creationTime →
      x.child.attributeValue "creation_time" = none → env.Creates →
        (∀ i, x.IsCreation i → (reply i).KeepsPrefix x.qos) → x.Follows reply := by
  intro h
  have hserver := h sampleEnvironment false lateServerConfig (.new "DS") 0 0 0 {
    role := .server
    element := lateServer
    start := _
    accepted := _
    qos := _
    prepared := _
    guid := _
    creationEvent := none
    before := []
    kind := .dataWriter
    child := _
    after := []
    reaches := ⟨[.locators lateServer], [], rfl, rfl⟩
    prepares := ⟨rfl, rfl, rfl, rfl⟩
    isChild := rfl } (fun _ => { participant := some (.ofPrefix 1) }) (by decide) rfl
    sampleEnvironment_creates ?_
  · obtain ⟨met, scheduled, event, schedules, hatOnce, _⟩ := hserver
    obtain ⟨rfl, rfl, rfl⟩ := ParticipantEndpoint.Schedules.unique ⟨rfl, rfl⟩ schedules
    obtain ⟨p, hp, _⟩ := hatOnce rfl
    exact AcceptedParticipant.not_createdAtOnce _ (by decide) p hp
  · rintro i _ _ guid ⟨⟩
    rfl

end DiscoveryServer
