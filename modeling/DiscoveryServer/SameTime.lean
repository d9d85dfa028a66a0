import DiscoveryServer.LateEndpoints
import DiscoveryServer.Library.Exchange
import Mathlib.Data.List.Permutation
import Mathlib.Data.Prod.Lex

/-!
# Events at the same time

`std::sort` is not stable: events at the same time may be left in any order
(`Arrangement.exists_ranked`), so an endpoint whose creation time is that of its
participant may be attempted first. Only what is created when the program starts, by
the loaders themselves, is created in the right order, and the run is the same for every
arrangement where neighbours at the same time may be exchanged (`same_time_iff`).
-/

namespace DiscoveryServer

open Library

/-- Whatever the ranking, the events at the same time may be left in its order. -/
theorem Arrangement.exists_ranked (events : List LateJoinerData) (rank : EventPtr → Nat) :
    ∃ sort : Arrangement events, sort.order.Pairwise fun i j =>
      ∀ e ∈ events[i]?, ∀ f ∈ events[j]?, e.executionTime = f.executionTime → rank i ≤ rank j := by
  let time := fun i : EventPtr => (events[i]?.map LateJoinerData.executionTime).getD 0
  let key := fun i : EventPtr => toLex (time i, rank i)
  have htime : ∀ {i : EventPtr} {e : LateJoinerData}, e ∈ events[i]? →
      time i = e.executionTime := by
    intro i e he
    show (events[i]?.map LateJoinerData.executionTime).getD 0 = e.executionTime
    rw [Option.mem_def.mp he]
    rfl
  have hsorted : ((List.range events.length).mergeSort fun i j => decide (key i ≤ key j)).Pairwise
      fun i j => key i ≤ key j := by
    refine (List.pairwise_mergeSort ?_ ?_ (List.range events.length)).imp fun {i j} hij => ?_
    · intro i j k hij hjk
      rw [decide_eq_true_eq] at hij hjk ⊢
      exact hij.trans hjk
    · intro i j
      rw [Bool.or_eq_true, decide_eq_true_eq, decide_eq_true_eq]
      exact le_total (key i) (key j)
    · exact decide_eq_true_eq.mp hij
  refine ⟨⟨_, List.mergeSort_perm _ _, hsorted.imp fun {i j} hij e he f hf => ?_⟩,
    hsorted.imp fun {i j} hij e he f hf heq => ?_⟩
  · rw [← htime he, ← htime hf]
    exact Prod.Lex.monotone_fst _ _ hij
  · rcases Prod.Lex.le_iff.mp hij with hlt | ⟨_, hle⟩
    · have hlt : time i < time j := hlt
      rw [htime he, htime hf, heq] at hlt
      exact absurd hlt (lt_irrefl _)
    · exact hle

/-- The run over the events in some order. -/
theorem World.executeAll_map (w : World) (reply : EventPtr → Reply) (order : List EventPtr) :
    w.executeAll (order.map fun ptr => (ptr, reply ptr)) =
      run? (fun w ptr => w.execute (ptr, reply ptr)) w order :=
  run?_map World.execute (fun ptr => (ptr, reply ptr)) w order

/-! ## The creation of an endpoint -/

/-- The event creates an endpoint on the publisher or subscriber of the participant, and
the manager stores it. -/
def DelayedEndpointCreation.CreatesFor (event : DelayedEndpointCreation) (reply : Reply)
    (w : World) (p : DomainParticipant) : Prop :=
  ∃ w' e topic calls, event.execute reply w = some w' ∧ e.participant = p ∧
    w'.calls = .createEndpoint ⟨event.kind, p⟩ topic event.endpointProfileName (some e) ::
      (calls ++ w.calls) ∧
    w'.manager.holdings.endpoint event.kind e.guid = some e

namespace World

variable {w : World} {event : DelayedEndpointCreation} {reply : Reply} {p : DomainParticipant}

/-- Nothing is created for nobody. -/
theorem not_createsFor (hpart : event.part w.manager = none) : ¬ event.CreatesFor reply w p := by
  rintro ⟨w', e, topic, calls, hexecute, _, hcalls, _⟩
  rcases endpointCreation_cases hexecute with ⟨_, rfl⟩ | ⟨part, _, hsome, _⟩
  · have hlength := congrArg List.length hcalls
    have hlength : w.calls.length = (calls ++ w.calls).length + 1 := hlength
    rw [List.length_append] at hlength
    omega
  · cases hpart.symm.trans hsome

/-- **The creation of an endpoint** whose participant is found and has what it takes. -/
theorem createsFor_of_part (hpart : event.part w.manager = some p)
    (hpubSub : (w.manager.info event.participantGuid).pubSub event.kind = some ⟨event.kind, p⟩)
    (hreply : reply.endpoint.isSome) : event.CreatesFor reply w p := by
  obtain ⟨entityId, hentityId⟩ := Option.isSome_iff_exists.mp hreply
  cases hexecute : event.execute reply w with
  | none => cases hpubSub.symm.trans (endpointCreation_eq_none hexecute).2
  | some w' =>
    rcases endpointCreation_cases hexecute with ⟨hnone, _⟩ | ⟨part, pubsub, hsome, hpubsub, wType,
      wTopic, topic, rfl, htopic, wEnd, endpoint, hend, rfl⟩
    · cases hpart.symm.trans hnone
    · cases hpart.symm.trans hsome
      cases hpubSub.symm.trans hpubsub
      have hcalls : w.calls <:+ wTopic.calls := by
        have hlater : Later ((w.withManager (w.manager.readInfo event.participantGuid)).call
          (.registerType p)) _ := later_topic event reply p
        rw [htopic] at hlater
        exact (List.suffix_cons _ _).trans hlater.calls
      obtain ⟨calls, hcalls⟩ := hcalls
      unfold createEndpoint at hend
      rw [hentityId] at hend
      cases hend
      refine ⟨_, ⟨wTopic.nextId, event.kind, ⟨p.guid.guidPrefix, entityId⟩, p⟩, topic, calls,
        hexecute, rfl, ?_, ?_⟩
      · rw [hcalls]
        rfl
      · show (LateJoinerDataTraits.addEndpointFunction _ _ _).holdings.endpoint _ _ = _
        rw [addEndpointFunction_eq, DiscoveryServerManager.holdings_addEndpoint]
        exact if_pos ⟨rfl, rfl⟩

end World

/-- Fast DDS creates the endpoints it is asked for. -/
def Environment.CreatesEndpoints (env : Environment) : Prop :=
  ∀ w event, (env.reply w (.endpointCreation event)).endpoint.isSome

namespace LoadedEndpoint

variable {env : Environment} {sharedMemoryOff : Bool} {doc : XMLDocument} {root : XMLElement}
  {w₀ : World} (x : LoadedEndpoint env sharedMemoryOff doc root w₀)

/-- The creation of the participant comes before what is executed after the events
`done`: the loader has made it, or one of the events is its creation event. -/
def Precedes (done : List EventPtr) : Prop :=
  (∃ p, x.CreatedAtOnce p) ∨ ∃ i ∈ done, x.IsCreation i

/-- For every arrangement of the events, the creation of the participant comes before the
one of the endpoint. -/
def InOrder : Prop := ∀ sort done, x.Turn sort done → x.Precedes done

/-- What Fast DDS answers when the creation event of the endpoint is executed: to the
loader, or in `runEvents`. -/
def answer (reply : EventPtr → Reply) : Reply :=
  if x.event.time = x.scheduled.getTime then
    env.reply x.scheduled.world (.endpointCreation x.event)
  else reply x.ptr

/-- Whenever the endpoint is attempted it is created for the participant of its element, as
long as Fast DDS keeps its promises. -/
def IsCreated : Prop :=
  ∀ sort reply done w, x.Attempt sort reply done w →
    (∀ i, x.IsCreation i → (reply i).KeepsPrefix x.qos) → ProvidesPrefixes w.calls →
      (x.answer reply).endpoint.isSome →
        ∃ p, x.Created reply done p ∧ x.event.CreatesFor (x.answer reply) w p

/-- What `runEvents` ends with is the same for every arrangement of the events. -/
def Independent (reply : EventPtr → Reply) : Prop :=
  ∀ sort sort', x.loaded.world.runEvents sort reply = x.loaded.world.runEvents sort' reply

/-- Two events at the same time that follow one another, and that the events `after`
follow, have the same effect either way round, wherever a run gets to them. -/
def ExchangeableBefore (reply : EventPtr → Reply) (after : List EventPtr) : Prop :=
  ∀ (sort : Arrangement x.loaded.manager.events) before i j w,
    sort.order = before ++ i :: j :: after →
      (∀ e ∈ x.loaded.manager.events[i]?, ∀ f ∈ x.loaded.manager.events[j]?,
        e.executionTime = f.executionTime) → x.run reply before = some w →
          w.executeAll [(i, reply i), (j, reply j)] = w.executeAll [(j, reply j), (i, reply i)]

/-- **Events at the same time are not kept in order.** Some arrangement has the
endpoint before its participant. -/
theorem exists_turn_not_precedes (hsame : x.event.time = x.creationTime)
    (hlate : x.creationTime ≠ x.startTime) : ∃ sort done, x.Turn sort done ∧ ¬ x.Precedes done := by
  obtain ⟨i, removalEvent, hcreation, hprepared, _⟩ := x.creation_spec hlate
  have hscheduled : x.event.time ≠ x.scheduled.getTime := by
    rw [hsame, x.schedules.startTime_scheduled]
    exact hlate
  have hi := x.steps_loaded.schedule_getElem? hprepared
  have hj := x.schedule_ptr hscheduled
  obtain ⟨e, he, hforget⟩ := DiscoveryServerManager.schedule_getElem?_eq_some.mp hi
  obtain ⟨f, hf, hforget'⟩ := DiscoveryServerManager.schedule_getElem?_eq_some.mp hj
  have htime : e.executionTime = f.executionTime := by
    rw [← e.executionTime_forgetGuid, ← f.executionTime_forgetGuid, hforget, hforget']
    exact hsame.symm
  have hne : i ≠ x.ptr := by
    intro heq
    rw [heq] at hi
    cases hi.symm.trans hj
  -- the endpoint is ranked before everything else
  obtain ⟨sort, hranked⟩ := Arrangement.exists_ranked x.loaded.manager.events
    fun k => if k = x.ptr then 0 else 1
  have hmem : x.ptr ∈ sort.order := by
    rw [sort.perm.mem_iff, List.mem_range]
    exact (List.getElem?_eq_some_iff.mp hf).1
  obtain ⟨done, after, horder⟩ := List.append_of_mem hmem
  refine ⟨sort, done, ?_, ?_⟩
  · unfold Turn
    rw [if_neg hscheduled]
    exact ⟨after, horder⟩
  · rintro (⟨p, hp⟩ | ⟨k, hk, hcreates⟩)
    · exact x.not_createdAtOnce hlate p hp
    · rw [(hcreation k).mp hcreates] at hk
      rw [horder] at hranked
      have hbefore := (List.pairwise_append.mp hranked).2.2 i hk x.ptr List.mem_cons_self
      have hle := hbefore e he f hf htime
      rw [if_neg hne, if_pos rfl] at hle
      exact absurd hle (by decide)

/-- **Where neighbours may be exchanged the arrangement does not matter.** -/
theorem independent_of_exchangeable {reply : EventPtr → Reply}
    (h : ∀ after, x.ExchangeableBefore reply after) : x.Independent reply := by
  intro sort sort'
  have hexchanges : Exchanges (fun w ptr => World.execute w (ptr, reply ptr))
      (fun i j => ∀ e ∈ x.loaded.manager.events[i]?, ∀ f ∈ x.loaded.manager.events[j]?,
        e.executionTime ≤ f.executionTime) x.loaded.world sort.order := by
    intro before i j after hperm hsorted hij w hrun
    have hle := List.rel_of_pairwise_cons (List.pairwise_append.mp hsorted).2.1 List.mem_cons_self
    have hpair := h after ⟨_, hperm.trans sort.perm, hsorted⟩ before i j w rfl
      (fun e he f hf => le_antisymm (hle e he f hf) (hij f hf e he))
      ((World.executeAll_map _ reply before).trans hrun)
    exact (World.executeAll_map w reply [i, j]).symm.trans
      (hpair.trans (World.executeAll_map w reply [j, i]))
  have hrun := run?_perm (sort.perm.trans sort'.perm.symm) sort.sorted sort'.sorted hexchanges
  rw [← World.executeAll_map, ← World.executeAll_map] at hrun
  unfold World.runEvents
  rw [hrun]

/-- At the end of a run, where no event follows, it takes that. -/
theorem exchangeable_of_independent {reply : EventPtr → Reply} (h : x.Independent reply) :
    x.ExchangeableBefore reply [] := by
  intro sort before i j w horder hsame hrun
  have hperm := sort.perm
  have hsorted := sort.sorted
  rw [horder] at hperm hsorted
  let sort' : Arrangement x.loaded.manager.events :=
    { order := before ++ [j, i]
      perm := ((List.Perm.swap i j []).append_left before).trans hperm
      sorted := pairwise_swap hsorted fun f hf e he => (hsame e he f hf).ge }
  have hend : ∀ k l, x.loaded.world.executeAll
      ((before ++ [k, l]).map fun ptr => (ptr, reply ptr)) =
        w.executeAll [(k, reply k), (l, reply l)] := by
    intro k l
    have hrun : x.loaded.world.executeAll (before.map fun ptr => (ptr, reply ptr)) = some w := hrun
    unfold World.executeAll at hrun ⊢
    rw [List.map_append, run?_append, hrun]
    rfl
  have hall := (World.runEvents_fst x.loaded.world sort reply).symm.trans
    ((congrArg (Option.map Prod.fst) (h sort sort')).trans
      (World.runEvents_fst x.loaded.world sort' reply))
  rw [horder, hend i j] at hall
  exact hall.trans (hend j i)

/-! ## At the start -/

variable {x}

/-- What is created when the program starts is created by the loaders. -/
theorem attempt_at_start {sort : Arrangement x.loaded.manager.events} {reply : EventPtr → Reply}
    {done : List EventPtr} {w : World} (hnow : x.event.time = x.startTime) :
    x.Attempt sort reply done w ↔ done = [] ∧ w = x.scheduled.world := by
  have hnow : x.event.time = x.scheduled.getTime := hnow.trans x.schedules.startTime_scheduled.symm
  unfold Attempt Turn
  rw [if_pos hnow, if_pos hnow]

theorem answer_at_start {reply : EventPtr → Reply} (hnow : x.event.time = x.startTime) :
    x.answer reply = env.reply x.scheduled.world (.endpointCreation x.event) := by
  have hnow : x.event.time = x.scheduled.getTime := hnow.trans x.schedules.startTime_scheduled.symm
  exact if_pos hnow

/-- The participant the loader has created is found with its publisher and subscriber. -/
theorem found_at_start (hnow : x.creationTime = x.startTime) (hcreates : env.Creates)
    (hkeeps : ∀ w event, (env.reply w (.participantCreation event)).KeepsPrefix event.qos)
    (hgiven : x.role = .server → x.qos.guidPrefix ≠ 0) :
    ∃ p, x.CreatedAtOnce p ∧ x.event.part x.scheduled.manager = some p ∧
      ∀ k, (x.scheduled.manager.info x.event.participantGuid).pubSub k = some ⟨k, p⟩ := by
  have hspec := x.spec
  rw [if_pos hnow] at hspec
  obtain ⟨w, event, p, _, hqos, hreply, hcalls, hholdings, _, _, hguid, _⟩ := hspec
  have hown : x.event.participantGuid = p.guid := by
    rw [x.schedules.participantGuid, hguid]
    split_ifs with hrole
    · have hkept := hkeeps w event
      rw [Reply.KeepsPrefix, hqos] at hkept
      exact (hkept (hgiven hrole) p.guid hreply).symm
    · rfl
  obtain ⟨hparticipant, hpubSub⟩ := x.schedules.holdings
  rw [hholdings] at hparticipant hpubSub
  refine ⟨p, hcalls, ?_, fun k => ?_⟩
  · have hfound : x.scheduled.manager.getParticipant p.guid = some p := by
      refine DiscoveryServerManager.getParticipant_of_participant ?_
      rw [hparticipant]
      exact if_pos rfl
    unfold DelayedEndpointCreation.part
    rw [hown, hfound]
  · have hfiled : x.scheduled.manager.holdings.pubSub k p.guid =
        (env.reply w (.participantCreation event)).pubSub p k := by
      rw [hpubSub]
      exact if_pos rfl
    rw [hown]
    refine hfiled.trans ?_
    cases k with
    | dataReader => exact if_pos (hcreates.subscriber w event)
    | dataWriter => exact if_pos (hcreates.publisher w event)

/-- An endpoint that is loaded with the unknown prefix and without a creation event
finds nobody. -/
theorem part_eq_none {w : World} (hrec : w.Recorded) (hprefixes : ProvidesPrefixes w.calls)
    (hguid : x.guid.guidPrefix = 0) (howner : x.creationEvent = none) :
    x.event.part w.manager = none := by
  unfold DelayedEndpointCreation.part
  rw [x.schedules.participantGuid, x.schedules.ownerEvent, howner,
    hrec.getParticipant_unknown hprefixes hguid]

end LoadedEndpoint

/-- A snapshot and an environment change may be exchanged. -/
theorem World.exchange_snapshot {w : World} {i j : EventPtr} {shot : DelayedSnapshot}
    {change : DelayedEnvironmentModification} (hi : w.manager.events[i]? = some (.snapshot shot))
    (hj : w.manager.events[j]? = some (.environmentModification change)) (reply reply' : Reply) :
    w.executeAll [(i, reply), (j, reply')] = w.executeAll [(j, reply'), (i, reply)] := by
  have hshot : ∀ w' : World, w'.manager.events = w.manager.events →
      w'.execute (i, reply) = some (shot.execute reply w') := by
    intro w' hevents
    unfold execute
    rw [hevents, hi]
  have hchange : ∀ w' : World, w'.manager.events = w.manager.events →
      w'.execute (j, reply') = some (change.execute w') := by
    intro w' hevents
    unfold execute
    rw [hevents, hj]
  show (w.execute (i, reply)).bind _ = (w.execute (j, reply')).bind _
  rw [hshot w rfl, hchange w rfl]
  show ((shot.execute reply w).execute (j, reply')).bind _ =
    ((change.execute w).execute (i, reply)).bind _
  rw [hchange (shot.execute reply w) rfl, hshot (change.execute w) rfl]
  rfl

/-- A client that is there from the start, and its publisher. -/
def earlyClient : XMLElement :=
  ⟨"client", [("profile_name", "client")], none,
    [⟨"publisher", [("topic", "topic1"), ("creation_time", "0")], none, []⟩]⟩

/-- After 1 s a snapshot is taken and the environment file is written. -/
def earlyConfig : XMLDocument where
  elements := [⟨"DS", [], none, [⟨"clients", [], none, [earlyClient]⟩,
    ⟨"snapshots", [], none, [⟨"snapshot", [("time", "1")], some "all", []⟩]⟩,
    ⟨"environment", [], none, [⟨"change", [("time", "1"), ("key", "DOMAIN")], some "1", []⟩]⟩]⟩]

/-- What is scheduled then: both events at the same time. -/
def earlyEvents : List LateJoinerData :=
  [.snapshot ⟨1000000000, "all", true, false⟩,
    .environmentModification ⟨1000000000, "DOMAIN", "1"⟩]

theorem exists_earlyEndpoint :
    ∃ x : LoadedEndpoint sampleEnvironment false earlyConfig (.new "DS") (.initial 0 0 0),
      (x.child.attributeValue "creation_time").isSome ∧ x.event.time = x.creationTime ∧
      x.creationTime = x.startTime ∧ x.role ≠ .server ∧ ProvidesPrefixes x.loaded.world.calls ∧
      x.loaded.manager.events = earlyEvents := by
  refine ⟨{
    role := .client
    element := earlyClient
    start := _
    accepted := _
    qos := _
    prepared := _
    guid := _
    creationEvent := _
    before := []
    kind := .dataWriter
    child := _
    after := []
    met := _
    scheduled := _
    event := _
    loaded := _
    reaches := ⟨[.noServers], _, rfl, rfl⟩
    prepares := ⟨rfl, rfl⟩
    isChild := rfl
    schedules := ⟨rfl, rfl⟩
    leaves := .inl rfl }, rfl, rfl, rfl, nofun, by decide, rfl⟩

/-- A server that is created after 1 s, and so is its publisher. -/
def sameTimeServer : XMLElement :=
  ⟨"server", [("profile_name", "server"), ("creation_time", "1")], none,
    [⟨"publisher", [("topic", "topic1"), ("creation_time", "1")], none, []⟩]⟩

def sameTimeConfig : XMLDocument where
  elements := [⟨"DS", [], none, [⟨"servers", [], none, [sameTimeServer]⟩]⟩]

/-- Its publisher is created or not, depending on the arrangement of the two events. -/
theorem exists_sameTimeEndpoint :
    ∃ x : LoadedEndpoint sampleEnvironment false sameTimeConfig (.new "DS") (.initial 0 0 0),
      (x.child.attributeValue "creation_time").isSome ∧ x.event.time = x.creationTime ∧
      x.creationTime ≠ x.startTime ∧ x.loaded.world.calls = [] ∧
      ∃ sort sort' reply, x.loaded.world.runEvents sort reply ≠
        x.loaded.world.runEvents sort' reply := by
  refine ⟨{
    role := .server
    element := sameTimeServer
    start := _
    accepted := _
    qos := _
    prepared := _
    guid := _
    creationEvent := none
    before := []
    kind := .dataWriter
    child := _
    after := []
    met := _
    scheduled := _
    event := _
    loaded := _
    reaches := ⟨[.locators sameTimeServer], [], rfl, rfl⟩
    prepares := ⟨rfl, rfl, rfl, rfl⟩
    isChild := rfl
    schedules := ⟨rfl, rfl⟩
    leaves := .inl rfl }, rfl, rfl, by decide, rfl, ⟨[0, 1], .refl _, by decide⟩,
    ⟨[1, 0], .swap 0 1 [], by decide⟩,
    fun _ => { participant := some (.ofPrefix 1), endpoint := some 1 }, fun heq => ?_⟩
  have hwriters := congrArg (fun result : Option (World × List String) =>
    result.map fun r => r.1.manager.dataWriters.keys) heq
  exact absurd hwriters (by decide)

end DiscoveryServer
