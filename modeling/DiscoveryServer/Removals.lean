import DiscoveryServer.EventLinks
import DiscoveryServer.LateEndpoints

/-!
# Removals of participants

The removal event of a client or simple participant is linked to the creation and gets
the GUID the participant is created with. The one of a server is not: it holds the GUID
of the configuration, which is nobody's where Fast DDS provides the prefix.
`removesOwn_iff` says when a removal event deletes the participant of its element.
-/

namespace DiscoveryServer

open Library

namespace World

variable {w w' : World} {p : DomainParticipant}

/-- A participant is deleted from one world to the next. -/
def Deletes (w w' : World) (p : DomainParticipant) : Prop :=
  ∃ calls, w'.calls = calls ++ w.calls ∧ .deleteParticipant p ∈ calls

/-- A destruction deletes whoever is filed under its GUID. -/
theorem deletes_participantDestruction (w : World) (event : DelayedParticipantDestruction)
    (p : DomainParticipant) :
    w.Deletes (event.execute w) p ↔ w.manager.filed event.participantId = some p := by
  have hcalls : (event.execute w).calls = ((w.withManager (w.manager.removeParticipant
      event.participantId).1).deleteParticipant (w.manager.filed event.participantId)).calls := rfl
  unfold Deletes
  rw [hcalls]
  cases w.manager.filed event.participantId with
  | none =>
    refine iff_of_false ?_ nofun
    rintro ⟨calls, hsame, hmem⟩
    have hnil : calls = [] := List.self_eq_append_left.mp hsame
    rw [hnil] at hmem
    cases hmem
  | some q =>
    have hadded : ∀ calls, DdsCall.deleteParticipant q :: .deleteContainedEntities q ::
        .clearListener q :: w.calls = calls ++ w.calls ↔ calls = [.deleteParticipant q,
          .deleteContainedEntities q, .clearListener q] := by
      intro calls
      constructor
      · intro h
        exact (@List.append_cancel_right _ [_, _, _] _ _ h).symm
      · rintro rfl
        rfl
    constructor
    · rintro ⟨calls, hsame, hmem⟩
      rw [(hadded calls).mp hsame] at hmem
      rcases List.mem_cons.mp hmem with heq | hmem
      · rw [DdsCall.deleteParticipant.inj heq]
      · simp at hmem
    · rintro ⟨⟩
      exact ⟨_, (hadded _).mpr rfl, List.mem_cons_self⟩

end World

/-- The event is a participant destruction. -/
def LateJoinerData.RemovesSomebody (event : LateJoinerData) : Prop :=
  ∃ removal, event = .participantDestruction removal

namespace LoadedParticipant

variable {env : Environment} {sharedMemoryOff : Bool} {doc : XMLDocument} {root : XMLElement}
  {w₀ : World} (x : LoadedParticipant env sharedMemoryOff doc root w₀)

/-- The position is that of the removal event of the participant. -/
def IsRemoval (d : EventPtr) : Prop :=
  x.accepted.manager.events.length ≤ d ∧
    ∃ event, x.prepared.manager.events[d]? = some event ∧ event.RemovesSomebody

/-! ## What the loader schedules -/

/-- The GUID the removal event holds when the loader is through: that of the
configuration, unless the participant is created at once and linked to it. -/
def loadedGuid : Guid :=
  if x.role ≠ .server ∧ x.creationTime = x.startTime then
    (DelayedParticipantDestruction.setGuid ⟨x.removalTime, .ofPrefix x.qos.guidPrefix⟩
      x.guid).participantId
  else .ofPrefix x.qos.guidPrefix

/-- The creation event of a client or simple participant, which is linked to the
removal event. -/
def linkedCreation : List LateJoinerData :=
  if x.role ≠ .server ∧ x.creationTime ≠ x.startTime then
    [.participantCreation ⟨x.creationTime, x.qos, x.role,
      if x.removalTime ≠ x.startTime then some x.accepted.manager.events.length else none,
      .unknown⟩]
  else []

/-- What is scheduled for a server: the creation, and a removal nothing is linked to. -/
theorem prepared_server (hrole : x.role = .server) :
    x.prepared.manager.events = x.accepted.manager.events ++
      (if x.creationTime = x.startTime then [] else
        [.participantCreation ⟨x.creationTime, x.qos, .server, none, .unknown⟩]) ++
      (if x.removalTime ≠ x.startTime then [.participantDestruction ⟨x.removalTime, x.loadedGuid⟩]
        else []) ++ x.linkedCreation := by
  have hprepares := x.prepares
  rw [hrole] at hprepares
  have hguid : x.loadedGuid = .ofPrefix x.qos.guidPrefix := if_neg fun h => h.1 hrole
  have hnone : x.linkedCreation = [] := if_neg fun h => h.1 hrole
  rw [hguid, hnone, List.append_nil]
  exact Environment.scheduleServer_events hprepares.2.1

/-- What is scheduled for any other participant: the removal, and the creation that is
linked to it. -/
theorem prepared_linked (hrole : x.role ≠ .server) :
    x.prepared.manager.events = x.accepted.manager.events ++
      (if x.removalTime ≠ x.startTime then [.participantDestruction ⟨x.removalTime, x.loadedGuid⟩]
        else []) ++ x.linkedCreation := by
  have hprepares := x.prepares
  have hschedule : ∃ creationEvent, env.scheduleParticipant x.role x.accepted x.element x.qos =
      .ok (x.prepared, x.guid, creationEvent) := by
    cases hcase : x.role with
    | server => exact absurd hcase hrole
    | client =>
      rw [hcase] at hprepares
      exact ⟨_, hprepares.2⟩
    | simple =>
      rw [hcase] at hprepares
      exact ⟨_, hprepares.2⟩
  obtain ⟨creationEvent, hschedule⟩ := hschedule
  have hevents : x.prepared.manager.events = if x.creationTime = x.startTime then
        x.accepted.manager.events ++ (if x.removalTime ≠ x.startTime then
          [.participantDestruction ⟨x.removalTime, .ofPrefix x.qos.guidPrefix⟩] else []).map
            (LateJoinerData.setGuid x.guid)
      else
        x.accepted.manager.events ++ (if x.removalTime ≠ x.startTime then
          [.participantDestruction ⟨x.removalTime, .ofPrefix x.qos.guidPrefix⟩] else []) ++
          [.participantCreation ⟨x.creationTime, x.qos, x.role,
            if x.removalTime ≠ x.startTime then some x.accepted.manager.events.length else none,
            .unknown⟩] :=
    Environment.scheduleParticipant_events hschedule
  rw [hevents]
  by_cases hnow : x.creationTime = x.startTime
  · -- created at once: the loader hands the GUID over
    have hguid : x.loadedGuid = (DelayedParticipantDestruction.setGuid
        ⟨x.removalTime, .ofPrefix x.qos.guidPrefix⟩ x.guid).participantId := if_pos ⟨hrole, hnow⟩
    have hnone : x.linkedCreation = [] := if_neg fun h => h.2 hnow
    have hsame : ∀ removal : DelayedParticipantDestruction,
        removal.setGuid x.guid = ⟨removal.time, (removal.setGuid x.guid).participantId⟩ := by
      intro removal
      unfold DelayedParticipantDestruction.setGuid
      split_ifs <;> rfl
    rw [if_pos hnow, hguid, hnone, List.append_nil]
    split_ifs
    · show _ ++ [LateJoinerData.participantDestruction _] = _
      rw [hsame]
    · rfl
  · have hguid : x.loadedGuid = .ofPrefix x.qos.guidPrefix := if_neg fun h => hnow h.2
    have hsome : x.linkedCreation = [.participantCreation ⟨x.creationTime, x.qos, x.role,
        if x.removalTime ≠ x.startTime then some x.accepted.manager.events.length else none,
        .unknown⟩] := if_pos ⟨hrole, hnow⟩
    rw [if_neg hnow, hguid, hsome]

/-- What is scheduled for a participant: the creation of a server comes before its
removal, any other one after it. -/
theorem prepared_events : ∃ before,
    x.prepared.manager.events = x.accepted.manager.events ++ before ++
      (if x.removalTime ≠ x.startTime then [.participantDestruction ⟨x.removalTime, x.loadedGuid⟩]
        else []) ++ x.linkedCreation ∧
    (∀ e ∈ before, ¬ e.RemovesSomebody ∧ e.link? = none) ∧ (x.role ≠ .server → before = []) := by
  by_cases hrole : x.role = .server
  · refine ⟨_, x.prepared_server hrole, fun e he => ?_, fun h => absurd hrole h⟩
    split_ifs at he
    · cases he
    · rw [List.mem_singleton.mp he]
      exact ⟨nofun, rfl⟩
  · refine ⟨[], ?_, List.forall_mem_nil _, fun _ => rfl⟩
    rw [List.append_nil]
    exact x.prepared_linked hrole

theorem mem_linkedCreation {e : LateJoinerData} (he : e ∈ x.linkedCreation) :
    x.role ≠ .server ∧ x.creationTime ≠ x.startTime ∧
      e = .participantCreation ⟨x.creationTime, x.qos, x.role,
        if x.removalTime ≠ x.startTime then some x.accepted.manager.events.length else none,
        .unknown⟩ := by
  unfold linkedCreation at he
  by_cases hlinked : x.role ≠ .server ∧ x.creationTime ≠ x.startTime
  · rw [if_pos hlinked] at he
    exact ⟨hlinked.1, hlinked.2, List.mem_singleton.mp he⟩
  · rw [if_neg hlinked] at he
    cases he

theorem not_removesSomebody_linkedCreation {e : LateJoinerData} (he : e ∈ x.linkedCreation) :
    ¬ e.RemovesSomebody := by
  obtain ⟨_, _, rfl⟩ := x.mem_linkedCreation he
  exact nofun

/-- No removal is scheduled at the time the program starts. -/
theorem not_isRemoval (hnow : x.removalTime = x.startTime) (d : EventPtr) : ¬ x.IsRemoval d := by
  obtain ⟨before, hevents, hbefore, _⟩ := x.prepared_events
  rintro ⟨hd, event, hevent, hremoves⟩
  rw [hevents, if_neg (not_not.mpr hnow), List.append_nil, List.append_assoc,
    List.getElem?_append_right hd] at hevent
  rcases List.mem_append.mp (List.mem_of_getElem? hevent) with he | he
  · exact (hbefore event he).1 hremoves
  · exact x.not_removesSomebody_linkedCreation he hremoves

/-- The removal event, and what is linked to it among the events of the loader. -/
theorem removal_spec (hremoval : x.removalTime ≠ x.startTime) : ∃ d,
    (∀ k, x.IsRemoval k ↔ k = d) ∧
    x.prepared.manager.events[d]? = some (.participantDestruction ⟨x.removalTime, x.loadedGuid⟩) ∧
    (x.role ≠ .server → d = x.accepted.manager.events.length) ∧
    ∀ k e, x.accepted.manager.events.length ≤ k → x.prepared.manager.events[k]? = some e →
      e.link? = some d → x.IsCreation k ∧ e ∈ x.linkedCreation := by
  obtain ⟨before, hevents, hbefore, hrole⟩ := x.prepared_events
  rw [if_pos hremoval, List.append_assoc _ [_] x.linkedCreation, List.singleton_append] at hevents
  have hd : x.prepared.manager.events[x.accepted.manager.events.length + before.length]? =
      some (.participantDestruction ⟨x.removalTime, x.loadedGuid⟩) := by
    rw [hevents, ← List.length_append, List.getElem?_append_right le_rfl, Nat.sub_self]
    rfl
  refine ⟨_, fun k => ⟨?_, ?_⟩, hd, fun hr => ?_, fun k e hk he hlink => ?_⟩
  · rintro ⟨hk, event, hevent, hremoves⟩
    rw [hevents] at hevent
    exact eq_of_only (fun e he => (hbefore e he).1)
      (fun e he => x.not_removesSomebody_linkedCreation he) hk hevent hremoves
  · rintro rfl
    exact ⟨Nat.le_add_right _ _, _, hd, _, rfl⟩
  · rw [hrole hr]
    rfl
  · have hmem : e ∈ before ++ .participantDestruction ⟨x.removalTime, x.loadedGuid⟩ ::
        x.linkedCreation := by
      rw [hevents, List.append_assoc, List.getElem?_append_right hk] at he
      exact List.mem_of_getElem? he
    have hlinked : e ∈ x.linkedCreation := by
      rcases List.mem_append.mp hmem with hmem | hmem
      · cases (hbefore e hmem).2.symm.trans hlink
      · rcases List.mem_cons.mp hmem with rfl | hmem
        · cases hlink
        · exact hmem
    have hcreation : x.prepared.manager.schedule[k]? = some e.forgetGuid :=
      DiscoveryServerManager.schedule_getElem?_eq_some.mpr ⟨e, he, rfl⟩
    obtain ⟨_, _, heq⟩ := x.mem_linkedCreation hlinked
    rw [heq] at hcreation
    refine ⟨⟨?_, _, hcreation⟩, hlinked⟩
    unfold DiscoveryServerManager.schedule
    rw [List.length_map]
    exact hk

theorem appends_accepted (hempty : w₀.manager.events = []) :
    Appends [] x.accepted.manager.events := by
  have hstart := (Environment.appends_rule _).reaches x.reaches
  have hinitial : (env.initial sharedMemoryOff root w₀).manager.events = [] := hempty
  rw [hinitial] at hstart
  exact hstart.trans (Environment.appends_of_core x.prepares.core_accepted)

theorem appends_prepared : Appends x.accepted.manager.events x.prepared.manager.events := by
  have hprepares := x.prepares
  cases hrole : x.role with
  | server =>
    rw [hrole] at hprepares
    exact Environment.scheduleServer_appends hprepares.2.1
  | client =>
    rw [hrole] at hprepares
    exact Environment.scheduleParticipant_appends hprepares.2
  | simple =>
    rw [hrole] at hprepares
    exact Environment.scheduleParticipant_appends hprepares.2

theorem appends_loaded : Appends x.prepared.manager.events x.loaded.manager.events := by
  obtain ⟨result, rest, hload, hleaves⟩ := x.loads
  exact ((Environment.appends_rule _).servers.endpoints hload).trans
    ((Environment.appends_rule _).leaves hleaves)

theorem removalTime_ne {d : EventPtr} (hd : x.IsRemoval d) : x.removalTime ≠ x.startTime :=
  fun hnow => x.not_isRemoval hnow d hd

/-- **Nothing but the creation of the participant is linked to its removal.** -/
theorem linked_spec (hempty : w₀.manager.events = []) {d k : EventPtr} {e : LateJoinerData}
    (hd : x.IsRemoval d) (he : x.loaded.manager.schedule[k]? = some e)
    (hlink : e.link? = some d) :
    x.IsCreation k ∧ x.role ≠ .server ∧ x.creationTime ≠ x.startTime := by
  obtain ⟨e', he', rfl⟩ := DiscoveryServerManager.schedule_getElem?_eq_some.mp he
  rw [LateJoinerData.link?_forgetGuid] at hlink
  obtain ⟨d', hisRemoval, hd', _, hlinked⟩ := x.removal_spec (x.removalTime_ne hd)
  cases (hisRemoval d).mp hd
  have hinside : d < x.prepared.manager.events.length := (List.getElem?_eq_some_iff.mp hd').1
  by_cases hk : k < x.prepared.manager.events.length
  · rw [x.appends_loaded.getElem?_of_lt hk] at he'
    by_cases hk' : k < x.accepted.manager.events.length
    · -- an event of an earlier element
      rw [x.appends_prepared.getElem?_of_lt hk'] at he'
      have hlt := ((x.appends_accepted hempty).link_of_le (Nat.zero_le k) he' hlink).2
      exact absurd hlt (not_lt.mpr hd.1)
    · obtain ⟨hcreation, hmem⟩ := hlinked k e' (not_lt.mp hk') he' hlink
      obtain ⟨hrole, hlate, _⟩ := x.mem_linkedCreation hmem
      exact ⟨hcreation, hrole, hlate⟩
  · -- an event of an endpoint or of a later element
    have hle := (x.appends_loaded.link_of_le (not_lt.mp hk) he' hlink).1
    exact absurd hinside (not_lt.mpr hle)

/-- The creation event of a client or simple participant is linked to its removal. -/
theorem linkedCreation_spec {d : EventPtr} (hd : x.IsRemoval d) (hrole : x.role ≠ .server)
    (hlate : x.creationTime ≠ x.startTime) : ∃ i, (∀ k, x.IsCreation k ↔ k = i) ∧
      x.loaded.manager.schedule[i]? =
        some (.participantCreation ⟨x.creationTime, x.qos, x.role, some d, .unknown⟩) := by
  have hremoval := x.removalTime_ne hd
  obtain ⟨d', hisRemoval, _, hfirst, _⟩ := x.removal_spec hremoval
  cases (hisRemoval d).mp hd
  have hevents := x.prepared_linked hrole
  obtain ⟨i, _, hcreation, _⟩ := x.creation_spec hlate
  have hsome : x.linkedCreation = [.participantCreation ⟨x.creationTime, x.qos, x.role, some d,
      .unknown⟩] := by
    unfold linkedCreation
    rw [if_pos ⟨hrole, hlate⟩, if_pos hremoval, hfirst hrole]
  rw [if_pos hremoval, hsome] at hevents
  have hevent : x.prepared.manager.schedule[x.accepted.manager.events.length + 1]? =
      some (.participantCreation ⟨x.creationTime, x.qos, x.role, some d, .unknown⟩) := by
    refine DiscoveryServerManager.schedule_getElem?_eq_some.mpr
      ⟨.participantCreation ⟨x.creationTime, x.qos, x.role, some d, .unknown⟩, ?_, rfl⟩
    have hlength : (x.accepted.manager.events ++
        [LateJoinerData.participantDestruction ⟨x.removalTime, x.loadedGuid⟩]).length =
          x.accepted.manager.events.length + 1 := List.length_append
    rw [hevents, ← hlength]
    exact List.getElem?_concat_length
  have hi : x.accepted.manager.events.length + 1 = i := by
    refine (hcreation _).mp ⟨?_, _, hevent⟩
    unfold DiscoveryServerManager.schedule
    rw [List.length_map]
    exact Nat.le_add_right _ 1
  rw [hi] at hevent
  exact ⟨i, hcreation, x.steps_loaded.schedule_getElem? hevent⟩

/-! ## The GUID of the removal event -/

theorem setGuid_eq {removal : DelayedParticipantDestruction} {guid : Guid}
    (h : guid ≠ .unknown) : removal.setGuid guid = ⟨removal.time, guid⟩ :=
  if_pos h

/-- Without the creation event nothing changes the removal event. -/
theorem removal_run (hempty : w₀.manager.events = []) {d : EventPtr} (hd : x.IsRemoval d)
    {done : List EventPtr}
    (hcreation : ∀ i ∈ done, x.IsCreation i → x.role ≠ .server → x.creationTime = x.startTime)
    {reply : EventPtr → Reply} {v w : World} {removal : DelayedParticipantDestruction}
    (hv : v.manager.schedule = x.loaded.manager.schedule)
    (hremoval : v.manager.events[d]? = some (.participantDestruction removal))
    (hrun : v.executeAll (done.map fun ptr => (ptr, reply ptr)) = some w) :
    w.manager.events[d]? = some (.participantDestruction removal) := by
  refine World.events_executeAll hrun hremoval fun step hstep e he hlink => ?_
  obtain ⟨i, hi, rfl⟩ := List.mem_map.mp hstep
  rw [hv] at he
  obtain ⟨hcreates, hrole, hlate⟩ := x.linked_spec hempty hd he hlink
  exact hlate (hcreation i hi hcreates hrole)

/-- The creation event of a participant that is no server hands its GUID over to the
removal event. -/
theorem removal_event_handed (hempty : w₀.manager.events = []) {d : EventPtr}
    (hd : x.IsRemoval d) (hrole : x.role ≠ .server) (hnow : x.creationTime ≠ x.startTime)
    {reply : EventPtr → Reply} {done : List EventPtr} (hdone : done.Nodup) {w : World}
    (hrun : x.run reply done = some w) {p : DomainParticipant}
    (hcreated : x.Created reply done p) (hguid : p.guid ≠ .unknown) :
    w.manager.events[d]? = some (.participantDestruction ⟨x.removalTime, p.guid⟩) := by
  obtain ⟨d', hisRemoval, hd', _⟩ := x.removal_spec (x.removalTime_ne hd)
  cases (hisRemoval d).mp hd
  have hloaded := x.appends_loaded.getElem? hd'
  obtain ⟨i, hcreation, hevent⟩ := x.linkedCreation_spec hd hrole hnow
  obtain ⟨before, after, v, v', rfl, hbefore, hexecute, hcalls⟩ :=
    (x.created_iff hnow hcreation).mp hcreated
  obtain ⟨_, hright, hapart⟩ := List.nodup_append.mp hdone
  have hi : i ∉ before := fun hi => hapart i hi i List.mem_cons_self rfl
  have hi' : i ∉ after := (List.nodup_cons.mp hright).1
  have hothers : ∀ {done : List EventPtr}, i ∉ done → ∀ k ∈ done, x.IsCreation k →
      x.role ≠ .server → x.creationTime = x.startTime := by
    intro done hnot k hk hcreates
    rw [(hcreation k).mp hcreates] at hk
    exact absurd hk hnot
  obtain ⟨u, u', hu, hu', hrest⟩ := x.run_split hrun
  cases hbefore.symm.trans hu
  cases hexecute.symm.trans hu'
  have hheld := x.removal_run hempty hd (hothers hi) rfl hloaded hbefore
  obtain ⟨q, hreply, hcalls'⟩ := x.execute_creation hevent hbefore hexecute
  have hsame : p = q :=
    DdsCall.createParticipant.inj (List.cons.inj (hcalls.symm.trans hcalls')).1
  have hschedule := x.schedule_run hbefore
  rw [← hschedule] at hevent
  obtain ⟨e, he, hforget⟩ := DiscoveryServerManager.schedule_getElem?_eq_some.mp hevent
  obtain ⟨guid, rfl⟩ := LateJoinerData.eq_of_forgetGuid_eq_participantCreation hforget
  obtain ⟨guid', hguid', hset⟩ := World.events_execute_linked hexecute hheld he rfl
  cases hreply.symm.trans hguid'
  rw [← hsame, setGuid_eq hguid] at hset
  exact x.removal_run hempty hd (hothers hi') ((World.schedule_execute hexecute).trans hschedule)
    hset hrest

/-- **The GUID of the removal event**, once the participant is created. -/
theorem removal_event (hempty : w₀.manager.events = []) {d : EventPtr} (hd : x.IsRemoval d)
    {reply : EventPtr → Reply} {done : List EventPtr} (hdone : done.Nodup) {w : World}
    (hrun : x.run reply done = some w) {p : DomainParticipant}
    (hcreated : x.Created reply done p) (hguid : p.guid ≠ .unknown) :
    w.manager.events[d]? = some (.participantDestruction ⟨x.removalTime,
      if x.role = .server then .ofPrefix x.qos.guidPrefix else p.guid⟩) := by
  obtain ⟨d', hisRemoval, hd', hfirst, _⟩ := x.removal_spec (x.removalTime_ne hd)
  cases (hisRemoval d).mp hd
  have hloaded := x.appends_loaded.getElem? hd'
  by_cases hrole : x.role = .server
  · have hheld : x.loadedGuid = .ofPrefix x.qos.guidPrefix := if_neg fun h => h.1 hrole
    rw [if_pos hrole, ← hheld]
    exact x.removal_run hempty hd (fun _ _ _ h => absurd hrole h) rfl hloaded hrun
  rw [if_neg hrole]
  by_cases hnow : x.creationTime = x.startTime
  · -- created at once, and linked while the loader ran
    obtain ⟨q, hcalls, hown, _, _, honly⟩ := x.created_now hnow
    cases (honly reply done p).mp hcreated
    have hheld : x.loadedGuid = p.guid := by
      unfold loadedGuid
      rw [if_pos ⟨hrole, hnow⟩, hown hrole, setGuid_eq hguid]
    rw [← hheld]
    exact x.removal_run hempty hd (fun _ _ _ _ => hnow) rfl hloaded hrun
  · exact x.removal_event_handed hempty hd hrole hnow hdone hrun hcreated hguid

/-! ## The execution of the removal event -/

/-- When its removal event is executed, the participant that has been created for the
element is deleted, and nobody else. -/
def RemovesOwn (sort : Arrangement x.loaded.manager.events) (reply : EventPtr → Reply) : Prop :=
  ∃ d before after w w' p, x.IsRemoval d ∧ sort.order = before ++ d :: after ∧
    x.run reply before = some w ∧ w.execute (d, reply d) = some w' ∧ x.Created reply before p ∧
      ∀ q, w.Deletes w' q ↔ q = p

/-- When it is the turn of the removal event, the participant is the first one filed
under its GUID. -/
def StaysFiled (sort : Arrangement x.loaded.manager.events) (reply : EventPtr → Reply) : Prop :=
  ∀ d before after w p, x.IsRemoval d → sort.order = before ++ d :: after →
    x.run reply before = some w → x.Created reply before p → w.manager.FiledFirst p

/-- An explicit prefix is the one of the participant. -/
theorem guid_of_given (hgiven : x.qos.guidPrefix ≠ 0)
    (hkeeps : ∀ w event, (env.reply w (.participantCreation event)).KeepsPrefix event.qos)
    {reply : EventPtr → Reply} (hkeeps' : ∀ i, x.IsCreation i → (reply i).KeepsPrefix x.qos)
    {done : List EventPtr} {p : DomainParticipant} (hcreated : x.Created reply done p) :
    p.guid = .ofPrefix x.qos.guidPrefix := by
  by_cases hnow : x.creationTime = x.startTime
  · obtain ⟨q, _, _, _, ⟨w, event, hqos, hreply⟩, honly⟩ := x.created_now hnow
    cases (honly reply done p).mp hcreated
    have hkept := hkeeps w event
    rw [Reply.KeepsPrefix, hqos] at hkept
    exact hkept hgiven p.guid hreply
  · obtain ⟨i, removalEvent, hcreation, hprepared, _⟩ := x.creation_spec hnow
    obtain ⟨before, after, v, v', rfl, hbefore, hexecute, hcalls⟩ :=
      (x.created_iff hnow hcreation).mp hcreated
    have hevent := x.steps_loaded.schedule_getElem? hprepared
    obtain ⟨q, hreply, hcalls'⟩ := x.execute_creation hevent hbefore hexecute
    cases (List.cons.inj (hcalls.symm.trans hcalls')).1
    exact hkeeps' i ((hcreation i).mpr rfl) hgiven p.guid hreply

/-- The creation comes before a later removal. -/
theorem exists_created (hlater : x.creationTime < x.removalTime)
    (sort : Arrangement x.loaded.manager.events) {reply : EventPtr → Reply} {d : EventPtr}
    (hd : x.IsRemoval d) {before after : List EventPtr}
    (horder : sort.order = before ++ d :: after) {w : World} (hrun : x.run reply before = some w) :
    ∃ p, x.Created reply before p := by
  by_cases hnow : x.creationTime = x.startTime
  · obtain ⟨p, hcalls, _⟩ := x.created_now hnow
    exact ⟨p, .inl hcalls⟩
  · obtain ⟨i, removalEvent, hcreation, hprepared, _⟩ := x.creation_spec hnow
    have hevent := x.steps_loaded.schedule_getElem? hprepared
    obtain ⟨e, he, hforget⟩ := DiscoveryServerManager.schedule_getElem?_eq_some.mp hevent
    obtain ⟨d', hisRemoval, hd', _⟩ := x.removal_spec (x.removalTime_ne hd)
    cases (hisRemoval d).mp hd
    have hmem : i ∈ before := by
      refine sort.mem_before he (x.appends_loaded.getElem? hd') ?_ horder
      rw [← e.executionTime_forgetGuid, hforget]
      exact hlater
    obtain ⟨p, _, hp⟩ := x.created_of_mem hnow hcreation hevent hmem hrun
    exact ⟨p, hp⟩

theorem deletes_iff {w w' : World} {d : EventPtr} {reply : Reply}
    {removal : DelayedParticipantDestruction}
    (hevent : w.manager.events[d]? = some (.participantDestruction removal))
    (hexecute : w.execute (d, reply) = some w') (q : DomainParticipant) :
    w.Deletes w' q ↔ w.manager.filed removal.participantId = some q := by
  unfold World.execute at hexecute
  rw [hevent] at hexecute
  cases hexecute
  exact w.deletes_participantDestruction removal q

/-- When it is an event's turn: what has been executed, and the maps until then. -/
theorem before_turn {steadyClock now now' : TimePoint}
    (x : LoadedParticipant env sharedMemoryOff doc root (.initial steadyClock now now'))
    (sort : Arrangement x.loaded.manager.events) {reply : EventPtr → Reply} {u : World}
    (hrun : x.run reply sort.order = some u) {d : EventPtr} {before after : List EventPtr}
    {w : World} (horder : sort.order = before ++ d :: after)
    (hbefore : x.run reply before = some w) :
    before.Nodup ∧ w.calls <:+ u.calls ∧ w.Recorded := by
  have hnodup : sort.order.Nodup := sort.perm.nodup_iff.mpr List.nodup_range
  rw [horder] at hrun hnodup
  obtain ⟨v, v', hv, hv', hrest⟩ := x.run_split hrun
  cases hbefore.symm.trans hv
  refine ⟨(List.nodup_append.mp hnodup).1,
    (World.later_execute hv').calls.trans (World.later_executeAll hrest).calls, ?_⟩
  exact World.recorded_executeAll (World.recorded_loadSteps
    (World.recorded_initial steadyClock now now') (x.steps_prepared.trans x.steps_loaded)) hbefore

end LoadedParticipant

/-- **When a removal event removes its own participant.** The removal is later than the
creation, and all the events are executed: the removal event deletes exactly the
participant of its element if and only if it is not at the time the program starts, the
element is no server without a prefix, and the participant is still the first one filed
under its GUID. -/
theorem removesOwn_iff {env : Environment} {sharedMemoryOff : Bool} {doc : XMLDocument}
    {root : XMLElement} {steadyClock now now' : TimePoint}
    (x : LoadedParticipant env sharedMemoryOff doc root (.initial steadyClock now now'))
    (hlater : x.creationTime < x.removalTime) (sort : Arrangement x.loaded.manager.events)
    {reply : EventPtr → Reply} {u : World} (hrun : x.run reply sort.order = some u)
    (hkeeps : ∀ w event, (env.reply w (.participantCreation event)).KeepsPrefix event.qos)
    (hkeeps' : ∀ i, x.IsCreation i → (reply i).KeepsPrefix x.qos)
    (hprefixes : ProvidesPrefixes u.calls) :
    x.RemovesOwn sort reply ↔ x.removalTime ≠ x.startTime ∧
      (x.role = .server → x.qos.guidPrefix ≠ 0) ∧ x.StaysFiled sort reply := by
  have hnodup : sort.order.Nodup := sort.perm.nodup_iff.mpr List.nodup_range
  have hturn : ∀ {d before after w}, sort.order = before ++ d :: after →
      x.run reply before = some w → before.Nodup ∧ w.calls <:+ u.calls ∧ w.Recorded :=
    x.before_turn sort hrun
  have hevent : ∀ {d before after w p}, x.IsRemoval d → sort.order = before ++ d :: after →
      x.run reply before = some w → x.Created reply before p →
        w.manager.events[d]? = some (.participantDestruction ⟨x.removalTime,
          if x.role = .server then .ofPrefix x.qos.guidPrefix else p.guid⟩) := by
    intro d before after w p hd horder hbefore hp
    obtain ⟨hdone, hcalls, _⟩ := hturn horder hbefore
    refine x.removal_event rfl hd hdone hbefore hp ?_
    intro hunknown
    refine hprefixes _ (hcalls.mem (x.mem_calls hp hbefore)) p rfl ?_
    rw [hunknown]
    rfl
  constructor
  · rintro ⟨d, before, after, w, w', p, hd, horder, hbefore, hexecute, hp, honly⟩
    obtain ⟨hdone, hcalls, hrec⟩ := hturn horder hbefore
    have hfiled := (LoadedParticipant.deletes_iff (hevent hd horder hbefore hp) hexecute p).mp
      ((honly p).mpr rfl)
    obtain ⟨r, hr⟩ := DiscoveryServerManager.filed_eq_some hfiled
    obtain ⟨hguid, _⟩ := hrec.filed r _ p hr
    refine ⟨x.removalTime_ne hd, fun hrole hzero => ?_, ?_⟩
    · -- nobody has the unknown prefix
      refine hprefixes _ (hcalls.mem (x.mem_calls hp hbefore)) p rfl ?_
      rw [hguid, if_pos hrole]
      exact hzero
    · intro d' before' after' v q hd' horder' hbefore' hq
      obtain ⟨_, hisRemoval, _⟩ := x.removal_spec (x.removalTime_ne hd)
      cases ((hisRemoval d').mp hd').trans ((hisRemoval d).mp hd).symm
      have hsplit := horder.symm.trans horder'
      rw [horder] at hnodup
      obtain ⟨_, hright, hapart⟩ := List.nodup_append.mp hnodup
      have hnot : d ∉ before := fun hmem => hapart d hmem d List.mem_cons_self rfl
      have hnot' : d ∉ after := (List.nodup_cons.mp hright).1
      obtain ⟨rfl, _, _⟩ := (List.append_cons_inj_of_notMem hnot hnot').mp hsplit
      cases hbefore.symm.trans hbefore'
      rw [x.created_unique hdone hq hp, ← DiscoveryServerManager.filed_eq_some_iff, hguid]
      exact hfiled
  · rintro ⟨hremoval, hgiven, hstays⟩
    obtain ⟨d, hisRemoval, hprepared, _⟩ := x.removal_spec hremoval
    have hd : x.IsRemoval d := (hisRemoval d).mpr rfl
    have hmem : d ∈ sort.order := by
      rw [sort.perm.mem_iff, List.mem_range]
      exact (List.getElem?_eq_some_iff.mp (x.appends_loaded.getElem? hprepared)).1
    obtain ⟨before, after, horder⟩ := List.append_of_mem hmem
    rw [horder] at hrun
    obtain ⟨w, w', hbefore, hexecute, _⟩ := x.run_split hrun
    rw [← horder] at hrun
    obtain ⟨p, hp⟩ := x.exists_created hlater sort hd horder hbefore
    have hfiled : w.manager.filed p.guid = some p :=
      DiscoveryServerManager.filed_eq_some_iff.mpr (hstays d before after w p hd horder hbefore hp)
    refine ⟨d, before, after, w, w', p, hd, horder, hbefore, hexecute, hp, fun q => ?_⟩
    have hown : (if x.role = .server then Guid.ofPrefix x.qos.guidPrefix else p.guid) = p.guid := by
      split_ifs with hrole
      · exact (x.guid_of_given (hgiven hrole) hkeeps hkeeps' hp).symm
      · rfl
    rw [LoadedParticipant.deletes_iff (hevent hd horder hbefore hp) hexecute q, hown, hfiled,
      Option.some_inj]
    exact eq_comm

/-- A client that is there from 1 s to 2 s. -/
def passingClient : XMLElement :=
  ⟨"client", [("profile_name", "client"), ("creation_time", "1"), ("removal_time", "2")], none, []⟩

def passingClientConfig : XMLDocument where
  elements := [⟨"DS", [], none, [⟨"clients", [], none, [passingClient]⟩]⟩]

theorem removesOwn_iff_sample :
    ∃ (x : LoadedParticipant sampleEnvironment false passingClientConfig (.new "DS")
        (.initial 0 0 0)) (sort : Arrangement x.loaded.manager.events)
      (reply : EventPtr → Reply), x.creationTime < x.removalTime ∧ x.RemovesOwn sort reply := by
  refine ⟨{
    role := .client
    element := passingClient
    start := _
    accepted := _
    qos := _
    prepared := _
    guid := _
    creationEvent := _
    loaded := _
    reaches := ⟨[.noServers], [], rfl, rfl⟩
    prepares := ⟨rfl, rfl⟩
    leaves := .inl rfl }, ⟨[1, 0], .swap 0 1 [], by decide⟩,
    fun _ => { participant := some (.ofPrefix 7) }, by decide, ?_⟩
  refine (removesOwn_iff _ (by decide) ⟨[1, 0], .swap 0 1 [], by decide⟩ rfl
    sampleEnvironment_keepsPrefix ?_ (by decide)).mpr ⟨by decide, nofun, ?_⟩
  · intro i _ hgiven
    exact absurd rfl hgiven
  · intro d before after w p hd horder hbefore hp
    obtain ⟨k, honly, _⟩ := LoadedParticipant.removal_spec _ (LoadedParticipant.removalTime_ne _ hd)
    have hfirst : k = 0 := ((honly 0).mp ⟨le_rfl, _, rfl, _, rfl⟩).symm
    cases ((honly d).mp hd).trans hfirst
    have hdone : before = [1] := by
      rcases before with _ | ⟨i, _ | ⟨j, before⟩⟩
      · cases horder
      · cases horder
        rfl
      · have hlength := congrArg List.length horder
        simp at hlength
    subst hdone
    have hcall := LoadedParticipant.mem_calls _ hp hbefore
    cases hbefore
    have hcall : DdsCall.createParticipant p ∈ [.createParticipant ⟨0, .ofPrefix 7, "client"⟩] :=
      hcall
    cases List.mem_singleton.mp hcall
    exact ⟨.client, rfl, fun r' hr' => absurd hr' (Nat.not_lt_zero _)⟩

/-- Servers whose profile has no prefix. -/
def guidlessEnvironment : Environment where
  __ := sampleEnvironment
  participantQos _ profileName :=
    if profileName = "server" then some { name := "server", discoveryProtocol := .server } else none

/-- A server that is removed after 1 s. -/
def passingServer : XMLElement :=
  ⟨"server", [("profile_name", "server"), ("removal_time", "1")], none, []⟩

def passingServerConfig : XMLDocument where
  elements := [⟨"DS", [], none, [⟨"servers", [], none, [passingServer]⟩]⟩]

/-- The removal event of a server without a prefix finds nobody. -/
theorem guidless_server_not_removed : ¬ ∀ (env : Environment) (sharedMemoryOff : Bool)
    (doc : XMLDocument) (root : XMLElement) (steadyClock now now' : TimePoint)
    (x : LoadedParticipant env sharedMemoryOff doc root (.initial steadyClock now now'))
    (sort : Arrangement x.loaded.manager.events) (reply : EventPtr → Reply) (u : World),
      x.creationTime < x.removalTime → x.run reply sort.order = some u →
        (∀ w event, (env.reply w (.participantCreation event)).KeepsPrefix event.qos) →
          (∀ i, x.IsCreation i → (reply i).KeepsPrefix x.qos) → ProvidesPrefixes u.calls →
            x.RemovesOwn sort reply := by
  intro h
  obtain ⟨d, before, after, w, w', p, _, horder, hbefore, hexecute, _, honly⟩ :=
    h guidlessEnvironment false passingServerConfig (.new "DS") 0 0 0 {
      role := .server
      element := passingServer
      start := _
      accepted := _
      qos := _
      prepared := _
      guid := _
      creationEvent := none
      loaded := _
      reaches := ⟨[.locators passingServer], [], rfl, rfl⟩
      prepares := ⟨rfl, rfl, rfl, rfl⟩
      leaves := .inl rfl } ⟨[0], .refl _, List.pairwise_singleton _ _⟩
      (fun _ => { participant := none }) _ (by decide) rfl sampleEnvironment_keepsPrefix
      (fun _ _ _ _ hguid => nomatch hguid) (by decide)
  have hnil : before = [] := by
    cases before with
    | nil => rfl
    | cons k before => cases before <;> cases horder
  subst hnil
  cases horder
  cases hbefore
  cases hexecute
  have hfiled := (World.deletes_participantDestruction _ _ p).mp ((honly p).mpr rfl)
  cases hfiled

end DiscoveryServer
