import DiscoveryServer.LoadedParticipants
import DiscoveryServer.Records

/-!
# Endpoints and their participant

A `ParticipantEndpoint` is a publisher or subscriber element of an accepted participant.
What becomes of it: its loader may make a creation event of it (`Schedules`), and that
event is executed at once or in its turn among the events (`Attempt`), when the
participant may have been created or not.
-/

namespace DiscoveryServer

open Library

/-- A publisher or subscriber element of an accepted participant, with the elements
that are loaded before it and after it. -/
structure ParticipantEndpoint (env : Environment) (sharedMemoryOff : Bool) (doc : XMLDocument)
    (root : XMLElement) (w : World) extends
    AcceptedParticipant env sharedMemoryOff doc root w where
  before : List (ReaderWriter × XMLElement)
  kind : ReaderWriter
  child : XMLElement
  after : List (ReaderWriter × XMLElement)
  isChild : Environment.endpointElements element = before ++ (kind, child) :: after

namespace ParticipantEndpoint

variable {env : Environment} {sharedMemoryOff : Bool} {doc : XMLDocument} {root : XMLElement}
  {w₀ : World} (x : ParticipantEndpoint env sharedMemoryOff doc root w₀)

/-- The loader gets to the element in the state `met`, and makes of it a creation event in
the state `scheduled`. -/
structure Schedules (met scheduled : Loading) (event : DelayedEndpointCreation) : Prop where
  meets : x.before.foldlM (fun l c => env.loadEndpoint c.1 l x.guid c.2 x.creationEvent)
    x.prepared = .ok met
  createsEvent : env.endpointEvent x.kind met x.guid x.child x.creationEvent =
    .ok (scheduled, event)

namespace Schedules

variable {x} {met scheduled : Loading} {event : DelayedEndpointCreation}
  (h : x.Schedules met scheduled event)

include h

theorem unique {met' scheduled' : Loading} {event' : DelayedEndpointCreation}
    (h' : x.Schedules met' scheduled' event') :
    met' = met ∧ scheduled' = scheduled ∧ event' = event := by
  cases h.meets.symm.trans h'.meets
  cases h.createsEvent.symm.trans h'.createsEvent
  exact ⟨rfl, rfl, rfl⟩

theorem steps_met : LoadSteps env x.prepared.world met.world :=
  ((Loads.rule _).servers.children h.meets).steps

theorem steps_scheduled : LoadSteps env x.prepared.world scheduled.world :=
  h.steps_met.trans (Environment.endpointEvent_spec h.createsEvent).1.loads.steps

/-- The endpoints that are loaded before change neither who is known nor what they
have. -/
theorem holdings :
    scheduled.manager.holdings.participant = x.prepared.manager.holdings.participant ∧
    scheduled.manager.holdings.pubSub = x.prepared.manager.holdings.pubSub := by
  rw [(Environment.endpointEvent_spec h.createsEvent).1.holdings]
  refine foldlM_relation (R := fun l l' : Loading =>
    l'.manager.holdings.participant = l.manager.holdings.participant ∧
      l'.manager.holdings.pubSub = l.manager.holdings.pubSub) (fun _ => ⟨rfl, rfl⟩)
    (fun _ _ _ _ hload hrest => ?_) h.meets
  obtain ⟨hparticipant, hpubSub⟩ := Environment.loadEndpoint_holdings hload
  exact ⟨hrest.1.trans hparticipant, hrest.2.trans hpubSub⟩

theorem startTime_met : met.getTime = x.startTime := by
  show met.world.manager.state.image.time = x.accepted.world.manager.state.image.time
  rw [h.steps_met.state, x.prepares.steps.state]

theorem startTime_scheduled : scheduled.getTime = x.startTime := by
  show scheduled.world.manager.state.image.time = x.accepted.world.manager.state.image.time
  rw [h.steps_scheduled.state, x.prepares.steps.state]

theorem participantGuid : event.participantGuid = x.guid :=
  (Environment.endpointEvent_spec h.createsEvent).2.2.2.1

theorem ownerEvent : event.ownerEvent = x.creationEvent :=
  (Environment.endpointEvent_spec h.createsEvent).2.2.2.2

/-- The time an endpoint without a creation time gets. -/
theorem time (hown : x.child.attributeValue "creation_time" = none) :
    (x.creationEvent = none → event.time = x.startTime) ∧
      ∀ i creation, x.creationEvent = some i →
        x.prepared.manager.schedule[i]? = some (.participantCreation creation) →
          event.time = creation.time + 1 := by
  obtain ⟨_, htime, _⟩ := Environment.endpointEvent_spec h.createsEvent
  have hseconds : env.seconds x.child "creation_time" = none := by
    unfold Environment.seconds
    rw [hown]
    rfl
  unfold Environment.endpointCreationTime at htime
  rw [hseconds] at htime
  refine ⟨fun hnone => ?_, fun i creation hsome hcreation => ?_⟩
  · rw [hnone] at htime
    exact htime.trans h.startTime_met
  · have hmet := h.steps_met.schedule_getElem? hcreation
    obtain ⟨e, he, hforget⟩ := DiscoveryServerManager.schedule_getElem?_eq_some.mp hmet
    rw [hsome] at htime
    have hbind : (some i : Option EventPtr).bind (fun ptr => met.manager.events[ptr]?) =
      some e := he
    rw [hbind] at htime
    have htime : event.time = e.executionTime + 1 := htime
    rw [htime, ← e.executionTime_forgetGuid, hforget]
    rfl

end Schedules

end ParticipantEndpoint

/-- An endpoint with its creation event, in a constructor that ends with the manager of
`loaded`. -/
structure LoadedEndpoint (env : Environment) (sharedMemoryOff : Bool) (doc : XMLDocument)
    (root : XMLElement) (w : World) extends
    ParticipantEndpoint env sharedMemoryOff doc root w,
    LoadedParticipant env sharedMemoryOff doc root w where
  met : Loading
  scheduled : Loading
  event : DelayedEndpointCreation
  schedules : toParticipantEndpoint.Schedules met scheduled event

/-- The endpoint in a constructor that ends. -/
def ParticipantEndpoint.inConstructor {env : Environment} {sharedMemoryOff : Bool}
    {doc : XMLDocument} {root : XMLElement} {w₀ : World}
    (x : ParticipantEndpoint env sharedMemoryOff doc root w₀) {met scheduled : Loading}
    {event : DelayedEndpointCreation} (schedules : x.Schedules met scheduled event)
    {loaded : Loading} (leaves : Leaves (env.loadConfig sharedMemoryOff doc root w₀) loaded) :
    LoadedEndpoint env sharedMemoryOff doc root w₀ where
  toParticipantEndpoint := x
  loaded := loaded
  leaves := leaves
  met := met
  scheduled := scheduled
  event := event
  schedules := schedules

namespace LoadedEndpoint

variable {env : Environment} {sharedMemoryOff : Bool} {doc : XMLDocument} {root : XMLElement}
  {w₀ : World} (x : LoadedEndpoint env sharedMemoryOff doc root w₀)

/-- Where the creation event of the endpoint is scheduled. -/
def ptr : EventPtr := x.scheduled.manager.events.length

/-- It is the turn of the creation event of the endpoint: at once, or when the events
`done` have been executed. -/
def Turn (sort : Arrangement x.loaded.manager.events) (done : List EventPtr) : Prop :=
  if x.event.time = x.scheduled.getTime then done = []
  else ∃ after, sort.order = done ++ x.ptr :: after

/-- The creation event of the endpoint is executed in the world `w`. -/
def Attempt (sort : Arrangement x.loaded.manager.events) (reply : EventPtr → Reply)
    (done : List EventPtr) (w : World) : Prop :=
  x.Turn sort done ∧
    if x.event.time = x.scheduled.getTime then w = x.scheduled.world else x.run reply done = some w

/-! ## The way through the constructor -/

/-- What the constructor does after the creation event. -/
theorem steps_rest : ∃ next, LoadStep env x.scheduled.world next.world ∧
    (x.event.time ≠ x.scheduled.getTime →
      next = x.scheduled.pushBack (.endpointCreation x.event)) ∧
    LoadSteps env next.world x.loaded.world := by
  obtain ⟨result, rest, hload, hleaves⟩ := x.loads
  rw [Environment.loadEndpoints_eq, x.isChild, List.foldlM_append, x.schedules.meets, ok_bind,
    List.foldlM_cons] at hload
  obtain ⟨next, hnext, hchildren⟩ := bind_eq_ok.mp hload
  obtain ⟨l₁, event, hevent, ⟨hstep, _⟩, hlate, _⟩ := Environment.loadEndpoint_spec hnext
  cases x.schedules.createsEvent.symm.trans hevent
  refine ⟨next, hstep, hlate, .trans ?_ ((Loads.rule _).leaves hleaves).steps⟩
  exact ((Loads.rule _).servers.children hchildren).steps

theorem steps_after : LoadSteps env x.scheduled.world x.loaded.world := by
  obtain ⟨next, hstep, _, hrest⟩ := x.steps_rest
  exact .head hstep hrest

/-- A creation event that is not due is scheduled. -/
theorem schedule_ptr (hlate : x.event.time ≠ x.scheduled.getTime) :
    x.loaded.manager.schedule[x.ptr]? = some (.endpointCreation x.event) := by
  obtain ⟨next, _, hpush, hrest⟩ := x.steps_rest
  rw [hpush hlate] at hrest
  refine hrest.schedule_getElem? ?_
  have hlength : x.ptr = x.scheduled.manager.schedule.length := (List.length_map _).symm
  show (x.scheduled.pushBack _).manager.schedule[x.ptr]? = _
  rw [DiscoveryServerManager.schedule_pushBack, hlength, List.getElem?_concat_length]
  rfl

/-! ## The run -/

/-- Each event gets its turn once. -/
theorem nodup_of_turn {sort : Arrangement x.loaded.manager.events} {done : List EventPtr}
    (hturn : x.Turn sort done) : done.Nodup := by
  unfold Turn at hturn
  split_ifs at hturn with hnow
  · rw [hturn]
    exact List.nodup_nil
  · obtain ⟨rest, horder⟩ := hturn
    have hall : sort.order.Nodup := sort.perm.nodup_iff.mpr List.nodup_range
    rw [horder] at hall
    exact (List.nodup_append.mp hall).1

/-- The maps at an attempt. -/
theorem recorded_attempt {sort : Arrangement x.loaded.manager.events} {reply : EventPtr → Reply}
    {done : List EventPtr} {w : World} (hattempt : x.Attempt sort reply done w)
    (hrec : w₀.Recorded) : w.Recorded := by
  have hscheduled : LoadSteps env w₀ x.scheduled.world :=
    x.steps_prepared.trans x.schedules.steps_scheduled
  obtain ⟨_, hw⟩ := hattempt
  split_ifs at hw with hnow
  · subst hw
    exact World.recorded_loadSteps hrec hscheduled
  · exact World.recorded_executeAll
      (World.recorded_loadSteps hrec (hscheduled.trans x.steps_after)) hw

end LoadedEndpoint

/-- Of two events at different times the earlier one comes first. -/
theorem Arrangement.mem_before {events : List LateJoinerData} (sort : Arrangement events)
    {i j : EventPtr} {e f : LateJoinerData} (hi : events[i]? = some e) (hj : events[j]? = some f)
    (hlt : e.executionTime < f.executionTime) {before after : List EventPtr}
    (horder : sort.order = before ++ j :: after) : i ∈ before := by
  have hmem : i ∈ sort.order := by
    rw [sort.perm.mem_iff, List.mem_range]
    exact (List.getElem?_eq_some_iff.mp hi).1
  have hsorted := sort.sorted
  rw [horder] at hmem hsorted
  rcases List.mem_append.mp hmem with hmem | hmem
  · exact hmem
  · rcases List.mem_cons.mp hmem with rfl | hmem
    · cases hi.symm.trans hj
      exact absurd hlt (lt_irrefl _)
    · have htail := (List.pairwise_append.mp hsorted).2.1
      have hle := List.rel_of_pairwise_cons htail hmem f hj e hi
      exact absurd hlt (not_lt.mpr hle)

/-! ## What Fast DDS answers -/

/-- An explicit prefix is kept. -/
def Reply.KeepsPrefix (reply : Reply) (qos : DomainParticipantQos) : Prop :=
  qos.guidPrefix ≠ 0 → ∀ guid ∈ reply.participant, guid = .ofPrefix qos.guidPrefix

theorem sampleEnvironment_keepsPrefix (w : World) (event : DelayedParticipantCreation) :
    (sampleEnvironment.reply w (.participantCreation event)).KeepsPrefix event.qos := by
  intro hne guid hguid
  have hreply : (sampleEnvironment.reply w (.participantCreation event)).participant =
      some (.ofPrefix event.qos.guidPrefix) := if_neg hne
  rw [hreply] at hguid
  exact (Option.some.inj hguid).symm

/-- No participant has the unknown prefix. -/
def ProvidesPrefixes (calls : List DdsCall) : Prop :=
  ∀ c ∈ calls, ∀ p ∈ participantCalls.opens c, p.guid.guidPrefix ≠ 0

instance (calls : List DdsCall) : Decidable (ProvidesPrefixes calls) :=
  inferInstanceAs (Decidable (∀ c ∈ calls, ∀ p ∈ participantCalls.opens c, p.guid.guidPrefix ≠ 0))

/-- Nobody is found under the unknown prefix. -/
theorem World.Recorded.getParticipant_unknown {w : World} (hrec : w.Recorded)
    (hprefixes : ProvidesPrefixes w.calls) {g : Guid} (hg : g.guidPrefix = 0) :
    w.manager.getParticipant g = none := by
  rw [Option.eq_none_iff_forall_ne_some]
  intro p hp
  obtain ⟨rfl, hcall⟩ := DiscoveryServerManager.of_getParticipant hrec hp
  exact hprefixes _ hcall p rfl hg

end DiscoveryServer
