import DiscoveryServer.PubSubLookup

/-!
# Participants that are not created

`DelayedParticipantCreation::operator ()` has a branch for a participant that has
not been created, which logs an error. It stands after `create_publisher` and
`create_subscriber` have been called on the participant, so it is never taken:
`create_participant` returning null ends the run (`execute_of_failing`), and so does
an endpoint creation that finds its participant and no publisher or subscriber. A run
executes all its events, failures contained, exactly when it gets to neither
(`contained_iff`).
-/

namespace DiscoveryServer

open Library

namespace World

variable {w w' : World}

/-- The step executes a participant creation and `create_participant` returns null. -/
def Failing (w : World) (step : EventPtr × Reply) : Prop :=
  step.2.participant = none ∧
    ∃ event, w.manager.events[step.1]? = some (.participantCreation event)

/-- The step executes an endpoint creation that finds its participant and no publisher
or subscriber to call. -/
def OnNullPubSub (w : World) (step : EventPtr × Reply) : Prop :=
  ∃ event, w.manager.events[step.1]? = some (.endpointCreation event) ∧
    (event.part w.manager).isSome ∧ event.pubSub w.manager = none

/-- The steps before some step have been executed, in the world `w'`. -/
def Gets (w : World) (steps : List (EventPtr × Reply)) (w' : World) (step : EventPtr × Reply) :
    Prop :=
  ∃ before after, steps = before ++ step :: after ∧ w.executeAll before = some w'

/-- The failure is contained: the maps are as they were, and whatever is executed
afterwards does what it does without the failing event. -/
structure ContainsFailure (w w' : World) : Prop where
  servers : w'.manager.servers = w.manager.servers
  clients : w'.manager.clients = w.manager.clients
  simples : w'.manager.simples = w.manager.simples
  entityMap : w'.manager.entityMap = w.manager.entityMap
  rest : ∀ steps, (w'.executeAll steps).map World.manager = (w.executeAll steps).map World.manager

/-- Failed participant creations are contained in a run: every event is executed,
none calling a member of a null object, and each failing creation is contained. -/
structure Contained (w : World) (steps : List (EventPtr × Reply)) : Prop where
  executes : ∀ w' step, w.Gets steps w' step → (w'.execute step).isSome
  contains : ∀ w' step, w.Gets steps w' step → w'.Failing step →
    ∃ w'', w'.execute step = some w'' ∧ w'.ContainsFailure w''

/-- **A failing creation ends the run.** -/
theorem execute_of_failing {step : EventPtr × Reply} (h : w.Failing step) :
    w.execute step = none := by
  obtain ⟨hnull, event, hevent⟩ := h
  unfold execute
  rw [hevent]
  show event.execute step.1 step.2 w = none
  unfold DelayedParticipantCreation.execute
  rw [hnull]

/-- **A null publisher or subscriber ends the run.** -/
theorem execute_of_onNullPubSub {step : EventPtr × Reply} (h : w.OnNullPubSub step) :
    w.execute step = none := by
  obtain ⟨event, hevent, hpart, hnull⟩ := h
  obtain ⟨part, hpart⟩ := Option.isSome_iff_exists.mp hpart
  unfold execute
  rw [hevent]
  show event.execute step.2 w = none
  unfold DelayedEndpointCreation.execute
  unfold DelayedEndpointCreation.pubSub at hnull
  dsimp only
  rw [hpart, hnull]

/-- Nothing else calls a member of a null object. -/
theorem execute_isSome_iff {step : EventPtr × Reply} (hthere : (w.manager.events[step.1]?).isSome) :
    (w.execute step).isSome ↔ ¬ w.Failing step ∧ ¬ w.OnNullPubSub step := by
  obtain ⟨event, hevent⟩ := Option.isSome_iff_exists.mp hthere
  constructor
  · intro hsome
    constructor
    · intro hfailing
      rw [execute_of_failing hfailing] at hsome
      cases hsome
    · intro hnull
      rw [execute_of_onNullPubSub hnull] at hsome
      cases hsome
  · rintro ⟨hfailing, hpubSub⟩
    cases hexecute : w.execute step with
    | some w' => rfl
    | none =>
      exfalso
      rcases execute_eq_none hevent hexecute with
        ⟨creation, rfl, hnull⟩ | ⟨creation, rfl, hpart, hnull⟩
      · exact hfailing ⟨hnull, creation, hevent⟩
      · exact hpubSub ⟨creation, hevent, hpart, hnull⟩

/-- Events are not taken off the list. -/
theorem length_events_executeAll {steps : List (EventPtr × Reply)}
    (h : w.executeAll steps = some w') : w'.manager.events.length = w.manager.events.length := by
  have hschedule := congrArg List.length (schedule_executeAll h)
  unfold DiscoveryServerManager.schedule at hschedule
  rw [List.length_map, List.length_map] at hschedule
  exact hschedule

/-- What `runEvents` executes. -/
def runSteps (w : World) (sort : Arrangement w.manager.events) (reply : EventPtr → Reply) :
    List (EventPtr × Reply) :=
  sort.order.map fun ptr => (ptr, reply ptr)

/-- `runEvents` gets to events only. -/
theorem isSome_of_gets {sort : Arrangement w.manager.events} {reply : EventPtr → Reply}
    {step : EventPtr × Reply} (h : w.Gets (w.runSteps sort reply) w' step) :
    (w'.manager.events[step.1]?).isSome := by
  obtain ⟨before, after, hsteps, hrun⟩ := h
  have hmem : step ∈ w.runSteps sort reply := by
    rw [hsteps]
    exact List.mem_append_right before List.mem_cons_self
  obtain ⟨ptr, hptr, rfl⟩ := List.mem_map.mp hmem
  rw [sort.perm.mem_iff, List.mem_range, ← length_events_executeAll hrun] at hptr
  rw [List.getElem?_eq_getElem hptr]
  rfl

/-- **When failed creations are contained**: when the run gets to none, and to no
endpoint creation on a null publisher or subscriber. -/
theorem contained_iff (w : World) (sort : Arrangement w.manager.events)
    (reply : EventPtr → Reply) :
    w.Contained (w.runSteps sort reply) ↔
      ∀ w' step, w.Gets (w.runSteps sort reply) w' step →
        ¬ w'.Failing step ∧ ¬ w'.OnNullPubSub step := by
  constructor
  · intro hcontained w' step hgets
    exact (execute_isSome_iff (isSome_of_gets hgets)).mp (hcontained.executes w' step hgets)
  · intro hnone
    exact
      { executes := fun w' step hgets =>
          (execute_isSome_iff (isSome_of_gets hgets)).mpr (hnone w' step hgets)
        contains := fun w' step hgets hfailing => absurd hfailing (hnone w' step hgets).1 }

/-- A run with a failing creation anywhere in it does not get to its end. -/
theorem runEvents_of_failing {sort : Arrangement w.manager.events} {reply : EventPtr → Reply}
    {ptr : EventPtr} {event : DelayedParticipantCreation}
    (hevent : w.manager.events[ptr]? = some (.participantCreation event))
    (hnull : (reply ptr).participant = none) : w.runEvents sort reply = none := by
  have hmem : ptr ∈ sort.order := by
    rw [sort.perm.mem_iff, List.mem_range]
    exact (List.getElem?_eq_some_iff.mp hevent).1
  obtain ⟨before, after, horder⟩ := List.append_of_mem hmem
  have hrun : w.executeAll (sort.order.map fun ptr => (ptr, reply ptr)) = none := by
    unfold executeAll
    rw [horder, List.map_append, run?_append]
    cases hbefore : run? execute w (before.map fun ptr => (ptr, reply ptr)) with
    | none => rfl
    | some w' =>
      have hschedule : w'.manager.schedule[ptr]? =
          some (.participantCreation { event with participantGuid := .unknown }) := by
        rw [schedule_executeAll hbefore]
        exact DiscoveryServerManager.schedule_getElem?_eq_some.mpr ⟨_, hevent, rfl⟩
      obtain ⟨e, he, hforget⟩ := DiscoveryServerManager.schedule_getElem?_eq_some.mp hschedule
      obtain ⟨guid, rfl⟩ := LateJoinerData.eq_of_forgetGuid_eq_participantCreation hforget
      have hfailing : w'.Failing (ptr, reply ptr) := ⟨hnull, _, he⟩
      show run? execute w' ((ptr, reply ptr) :: _) = none
      rw [run?, execute_of_failing hfailing]
      rfl
  unfold runEvents
  rw [hrun]

end World

/-- One client is to be created, and `create_participant` returns null. -/
theorem failed_creation_not_contained : ¬ ∀ (w : World) (sort : Arrangement w.manager.events)
    (reply : EventPtr → Reply), w.Contained (w.runSteps sort reply) := by
  intro h
  let w := (World.initial 0 0 0).pushBack (.participantCreation guidlessCreation)
  have hcontained := h w ⟨[0], .refl _, List.pairwise_singleton _ _⟩ fun _ =>
    { participant := none }
  have hfailing : w.Failing (0, { participant := none }) := ⟨rfl, guidlessCreation, rfl⟩
  obtain ⟨w', hexecute, _⟩ := hcontained.contains w (0, { participant := none })
    ⟨[], [], rfl, rfl⟩ hfailing
  cases hexecute

end DiscoveryServer
