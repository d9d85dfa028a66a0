import DiscoveryServer.Records

/-!
# The publisher or subscriber an endpoint is created on

`DelayedEndpointCreation::operator ()` makes two lookups: the publisher or
subscriber under the GUID the event was loaded with, and the participant under
that GUID or else under the one its owner event has obtained. The second has a
fallback and the first has not, so the two agree exactly where the fallback is
not needed (`onOwnPubSub_iff`).
-/

namespace DiscoveryServer

open Library

namespace World

variable {w : World}

/-- The world is reached: a configuration has been loaded, and events executed,
whatever Fast DDS answered. -/
def Reached (w : World) : Prop :=
  ∃ (env : Environment) (steadyClock now now' : TimePoint) (start : World)
    (steps : List (EventPtr × Reply)),
    LoadSteps env (.initial steadyClock now now') start ∧ start.executeAll steps = some w

theorem Reached.recorded (h : w.Reached) : w.Recorded := by
  obtain ⟨env, steadyClock, now, now', start, steps, hload, hrun⟩ := h
  exact recorded_executeAll
    (recorded_loadSteps (recorded_initial steadyClock now now') hload) hrun

end World

/-! ## The two lookups -/

namespace DelayedEndpointCreation

variable {event : DelayedEndpointCreation} {m : DiscoveryServerManager}

/-- The `DomainEntity` that `operator ()` hands to `createEndpoint`. -/
def pubSub (event : DelayedEndpointCreation) (m : DiscoveryServerManager) : Option PubSub :=
  (m.getPubSubEntityFromParticipantGuid event.kind event.participantGuid).2

/-- Whenever the event resolves a participant, the publisher or subscriber handed
over is not null and the one recorded for that participant. -/
def OnOwnPubSub (event : DelayedEndpointCreation) (m : DiscoveryServerManager) : Prop :=
  ∀ part, event.part m = some part →
    ∃ pubsub, event.pubSub m = some pubsub ∧ (m.info part.guid).pubSub event.kind = some pubsub

/-- The participant is found under the GUID of the event. -/
theorem pubSub_of_direct {calls : List DdsCall} (hrec : m.holdings.Recorded calls)
    {p : DomainParticipant}
    (h : m.getParticipant event.participantGuid = some p) :
    event.part m = some p ∧ event.pubSub m = (m.info p.guid).pubSub event.kind := by
  constructor
  · unfold part
    rw [h]
  · rw [(DiscoveryServerManager.of_getParticipant hrec h).1]
    rfl

/-- **When the two lookups agree**: the participant is found without the owner
event, and Fast DDS has given it a publisher or subscriber. -/
theorem onOwnPubSub_iff {w : World} (hw : w.Reached) (event : DelayedEndpointCreation) :
    event.OnOwnPubSub w.manager ↔ ∀ part, event.part w.manager = some part →
      (w.manager.getParticipant event.participantGuid).isSome ∧
        ((w.manager.info part.guid).pubSub event.kind).isSome := by
  have hrec := hw.recorded
  refine forall₂_congr fun part hpart => ?_
  cases hdirect : w.manager.getParticipant event.participantGuid with
  | none =>
    -- found through the owner: the other lookup has no such fallback
    have hnull : event.pubSub w.manager = none :=
      DiscoveryServerManager.pubSub_of_getParticipant_none hrec hdirect event.kind
    rw [hnull]
    constructor
    · rintro ⟨pubsub, hsome, _⟩
      cases hsome
    · rintro ⟨hfound, _⟩
      cases hfound
  | some p =>
    obtain ⟨hp, hpubSub⟩ := pubSub_of_direct hrec hdirect
    cases hpart.symm.trans hp
    rw [hpubSub]
    constructor
    · rintro ⟨pubsub, hsome, _⟩
      exact ⟨rfl, hsome ▸ rfl⟩
    · rintro ⟨_, hsome⟩
      obtain ⟨pubsub, hpubsub⟩ := Option.isSome_iff_exists.mp hsome
      exact ⟨pubsub, hpubsub, hpubsub⟩

end DelayedEndpointCreation

/-- The creation of a client without a prefix of its own. -/
def guidlessCreation : DelayedParticipantCreation where
  time := 1
  qos := { name := "client" }
  participantCreationFunction := .client
  removalEvent := none

/-- A publisher of a client, loaded when the client had the GUID `g`. -/
def clientPublisher (g : Guid) : DelayedEndpointCreation where
  time := 2
  kind := .dataWriter
  topicName := ""
  typeName := "UNDEF"
  topicProfileName := ""
  endpointProfileName := ""
  participantGuid := g
  linkedDestructionEvent := none
  ownerEvent := some 0

/-- The program with that creation scheduled, when Fast DDS makes up a prefix. -/
def guidlessRun : Option World :=
  ((World.initial 0 0 0).pushBack (.participantCreation guidlessCreation)).executeAll
    [(0, { participant := some (.ofPrefix 7) })]

theorem guidlessRun_reached {w : World} (h : guidlessRun = some w) : w.Reached := by
  refine ⟨sampleEnvironment, 0, 0, 0, _, _, .single (.pushBack _ ?_), h⟩
  rintro g ⟨⟩
  rfl

theorem onOwnPubSub_iff_sample : ∃ w : World, guidlessRun = some w ∧
    ((clientPublisher (.ofPrefix 7)).OnOwnPubSub w.manager ↔
      ∀ part, (clientPublisher (.ofPrefix 7)).part w.manager = some part →
        (w.manager.getParticipant (.ofPrefix 7)).isSome ∧
          ((w.manager.info part.guid).pubSub .dataWriter).isSome) :=
  ⟨_, rfl, DelayedEndpointCreation.onOwnPubSub_iff (guidlessRun_reached rfl)
    (clientPublisher (.ofPrefix 7))⟩

/-- The publisher of a late client without a prefix is created on a null pointer. -/
theorem late_publisher_on_null : ¬ ∀ w : World, w.Reached → ∀ event : DelayedEndpointCreation,
    event.OnOwnPubSub w.manager := by
  intro h
  obtain ⟨pubsub, hsome, _⟩ := h _ (guidlessRun_reached rfl) (clientPublisher (.ofPrefix 0))
    ⟨0, .ofPrefix 7, "client"⟩ rfl
  cases hsome

end DiscoveryServer
