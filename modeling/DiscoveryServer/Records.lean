import DiscoveryServer.LoadSteps

/-!
# Whom the maps hold

The maps of the manager are filed by GUID along every run, whatever Fast DDS answers:
whoever is found under a GUID has that GUID and has been created, and whoever has a
publisher or subscriber there is known (`Recorded`). Two participants may have one
GUID, and then a lookup finds one of them: `FiledFirst` and `Records` say when it finds
a given one.
-/

namespace DiscoveryServer

open Library

/-- Participants that have been created are filed under their own GUIDs, and only a
known participant has a publisher or subscriber. -/
structure Holdings.Recorded (h : Holdings) (calls : List DdsCall) : Prop where
  filed : ∀ r g p, h.filed r g = some p → p.guid = g ∧ .createParticipant p ∈ calls
  participant : ∀ g p, h.participant g = some p → p.guid = g ∧ .createParticipant p ∈ calls
  pubSub_known : ∀ k g, h.participant g = none → h.pubSub k g = none

namespace Holdings.Recorded

variable {h h' : Holdings} {calls calls' : List DdsCall}

theorem file (hrec : h.Recorded calls) (r : ParticipantRole) (p : DomainParticipant)
    (pubSub : ReaderWriter → Option PubSub) :
    (h.file r p pubSub).Recorded (.createParticipant p :: calls) where
  filed r' g q hq := by
    simp only [Holdings.file] at hq
    split_ifs at hq with hg
    · cases hq
      exact ⟨hg.2.symm, List.mem_cons_self⟩
    · obtain ⟨hguid, hcall⟩ := hrec.filed r' g q hq
      exact ⟨hguid, List.mem_cons_of_mem _ hcall⟩
  participant g q hq := by
    simp only [Holdings.file] at hq
    split_ifs at hq with hg
    · cases hq
      exact ⟨hg.symm, List.mem_cons_self⟩
    · obtain ⟨hguid, hcall⟩ := hrec.participant g q hq
      exact ⟨hguid, List.mem_cons_of_mem _ hcall⟩
  pubSub_known k g hnone := by
    simp only [Holdings.file] at hnone ⊢
    split_ifs at hnone with hg
    rw [if_neg hg]
    exact hrec.pubSub_known k g hnone

/-- Fewer participants filed, and the entries of some of them gone. -/
theorem drop (hrec : h.Recorded calls) (hcalls : calls <:+ calls')
    (hfiled : ∀ r g p, h'.filed r g = some p → h.filed r g = some p) (gone : Guid → Prop)
    (hgone : ∀ g, gone g → h'.participant g = none ∧ ∀ k, h'.pubSub k g = none)
    (hkept : ∀ g, ¬ gone g →
      h'.participant g = h.participant g ∧ ∀ k, h'.pubSub k g = h.pubSub k g) :
    h'.Recorded calls' where
  filed r g p hp := by
    obtain ⟨hguid, hcall⟩ := hrec.filed r g p (hfiled r g p hp)
    exact ⟨hguid, hcalls.mem hcall⟩
  participant g p hp := by
    by_cases hg : gone g
    · rw [(hgone g hg).1] at hp
      cases hp
    · rw [(hkept g hg).1] at hp
      obtain ⟨hguid, hcall⟩ := hrec.participant g p hp
      exact ⟨hguid, hcalls.mem hcall⟩
  pubSub_known k g hnone := by
    by_cases hg : gone g
    · exact (hgone g hg).2 k
    · rw [(hkept g hg).1] at hnone
      rw [(hkept g hg).2 k]
      exact hrec.pubSub_known k g hnone

/-- The endpoints do not matter. -/
theorem congr (hrec : h.Recorded calls) (hcalls : calls <:+ calls') (hfiled : h'.filed = h.filed)
    (hparticipant : h'.participant = h.participant) (hpubSub : h'.pubSub = h.pubSub) :
    h'.Recorded calls' := by
  refine hrec.drop hcalls (fun r g p hp => ?_) (fun _ => False) (fun g hg => hg.elim)
    fun g _ => ⟨congrFun hparticipant g, fun k => congrFun (congrFun hpubSub k) g⟩
  rw [← hfiled]
  exact hp

end Holdings.Recorded

/-! ## What a lookup finds -/

/-- The order in which the maps of the roles are searched. -/
def ParticipantRole.place : ParticipantRole → Nat
  | .client => 0
  | .server => 1
  | .simple => 2

namespace DiscoveryServerManager

variable {m : DiscoveryServerManager} {calls : List DdsCall}

/-- The participant is in the map of a role under its GUID, and no map that is searched
before has anybody there. -/
def FiledFirst (m : DiscoveryServerManager) (p : DomainParticipant) : Prop :=
  ∃ r, (m.participants r).get? p.guid = some p ∧
    ∀ r' : ParticipantRole, r'.place < r.place → (m.participants r').get? p.guid = none

/-- The participant is the one recorded under its GUID: in `entity_map` or, when that
has no entry there, in the maps of the roles. -/
def Records (m : DiscoveryServerManager) (p : DomainParticipant) : Prop :=
  match m.entityMap.get? p.guid with
  | some info => info.participant = some p
  | none => m.FiledFirst p

theorem filed_eq_some_iff {p : DomainParticipant} :
    m.filed p.guid = some p ↔ m.FiledFirst p := by
  unfold filed
  cases hc : m.clients.get? p.guid with
  | some c =>
    constructor
    · rintro ⟨⟩
      exact ⟨.client, hc, fun r' hr' => absurd hr' (Nat.not_lt_zero _)⟩
    · rintro ⟨r, hr, hbefore⟩
      cases r with
      | client => exact hc.symm.trans hr
      | server => cases hc.symm.trans (hbefore .client (by decide))
      | simple => cases hc.symm.trans (hbefore .client (by decide))
  | none =>
    cases hs : m.servers.get? p.guid with
    | some s =>
      constructor
      · rintro ⟨⟩
        refine ⟨.server, hs, fun r' hr' => ?_⟩
        cases r' with
        | client => exact hc
        | server => exact absurd hr' (lt_irrefl _)
        | simple => exact absurd hr' (by decide)
      · rintro ⟨r, hr, hbefore⟩
        cases r with
        | client => cases hc.symm.trans hr
        | server => exact hs.symm.trans hr
        | simple => cases hs.symm.trans (hbefore .server (by decide))
    | none =>
      constructor
      · intro hp
        refine ⟨.simple, hp, fun r' hr' => ?_⟩
        cases r' with
        | client => exact hc
        | server => exact hs
        | simple => exact absurd hr' (lt_irrefl _)
      · rintro ⟨r, hr, _⟩
        cases r with
        | client => cases hc.symm.trans hr
        | server => cases hs.symm.trans hr
        | simple => exact hr

theorem getParticipant_eq_some_iff {p : DomainParticipant} :
    m.getParticipant p.guid = some p ↔ m.Records p := by
  unfold getParticipant Records
  cases m.entityMap.get? p.guid with
  | some info => rfl
  | none => exact filed_eq_some_iff

/-- Whoever is known is found. -/
theorem getParticipant_of_participant {g : Guid} {p : DomainParticipant}
    (h : m.holdings.participant g = some p) : m.getParticipant g = some p := by
  have h : ((m.entityMap.get? g).getD {}).participant = some p := h
  unfold getParticipant
  cases hinfo : m.entityMap.get? g with
  | none =>
    rw [hinfo] at h
    cases h
  | some info =>
    rw [hinfo] at h
    exact h

/-- Whoever is found under a GUID has it and has been created. -/
theorem of_getParticipant (hrec : m.holdings.Recorded calls) {g : Guid} {p : DomainParticipant}
    (h : m.getParticipant g = some p) : p.guid = g ∧ .createParticipant p ∈ calls := by
  unfold getParticipant at h
  cases hinfo : m.entityMap.get? g with
  | none =>
    rw [hinfo] at h
    obtain ⟨r, hr⟩ := filed_eq_some h
    exact hrec.filed r g p hr
  | some i =>
    rw [hinfo] at h
    have hi : m.info g = i := by
      unfold info
      rw [hinfo]
      rfl
    refine hrec.participant g p ?_
    show (m.info g).participant = some p
    rw [hi]
    exact h

/-- Nobody is found, so there is no publisher or subscriber. -/
theorem pubSub_of_getParticipant_none (hrec : m.holdings.Recorded calls) {g : Guid}
    (h : m.getParticipant g = none) (k : ReaderWriter) : (m.info g).pubSub k = none := by
  refine hrec.pubSub_known k g ?_
  show (m.info g).participant = none
  unfold getParticipant at h
  unfold info
  cases hinfo : m.entityMap.get? g with
  | none => rfl
  | some i =>
    rw [hinfo] at h
    exact h

theorem filed_unfile {id : Guid} {r : ParticipantRole} {g : Guid} {p : DomainParticipant}
    (h : (m.unfile id).holdings.filed r g = some p) : m.holdings.filed r g = some p := by
  have herase : ∀ ps : OrdMap Guid DomainParticipant, OrdMap.get? (ps.erase id) g = some p →
      ps.get? g = some p := by
    intro ps hps
    rw [OrdMap.get?_erase] at hps
    split_ifs at hps
    exact hps
  unfold unfile at h
  cases hc : m.clients.get? id with
  | some c =>
    rw [hc] at h
    cases r with
    | client => exact herase _ h
    | server => exact h
    | simple => exact h
  | none =>
    rw [hc] at h
    cases hs : m.servers.get? id with
    | some s =>
      rw [hs] at h
      cases r with
      | client => exact h
      | server => exact herase _ h
      | simple => exact h
    | none =>
      rw [hs] at h
      cases r with
      | client => exact h
      | server => exact h
      | simple => exact herase _ h

end DiscoveryServerManager

namespace World

variable {w w' : World}

/-- What the maps of the manager hold is recorded. -/
def Recorded (w : World) : Prop := w.manager.holdings.Recorded w.calls

/-! ## The maps along a run -/

theorem recorded_participantCreation {this : EventPtr} {event : DelayedParticipantCreation}
    {reply : Reply} (hrec : w.Recorded) (h : event.execute this reply w = some w') :
    w'.Recorded := by
  obtain ⟨_, p, _, _, hcalls, _, hholdings, _⟩ := participantCreation_spec h
  unfold Recorded
  rw [hholdings, hcalls]
  exact Holdings.Recorded.file hrec _ p _

theorem recorded_participantDestruction (hrec : w.Recorded)
    (event : DelayedParticipantDestruction) : (event.execute w).Recorded := by
  let id := event.participantId
  let m := (w.manager.removeParticipant id).1
  have hfiled : ∀ r g p, m.holdings.filed r g = some p → w.manager.holdings.filed r g = some p := by
    intro r g p hp
    have hp := DiscoveryServerManager.filed_unfile hp
    cases r <;> exact hp
  have hinfo : m.info = w.manager.info := DiscoveryServerManager.info_unfile _ id
  have hparticipant : ∀ g, m.holdings.participant g = w.manager.holdings.participant g :=
    fun g => congrArg ParticipantCreatedEntityInfo.participant (congrFun hinfo g)
  have hpubSub : ∀ k g, m.holdings.pubSub k g = w.manager.holdings.pubSub k g :=
    fun k g => congrArg (fun i => i.pubSub k) (congrFun hinfo g)
  show ((w.withManager m).deleteParticipant (w.manager.filed id)).Recorded
  cases w.manager.filed id with
  | none =>
    exact Holdings.Recorded.drop hrec List.suffix_rfl hfiled (fun _ => False)
      (fun g hg => hg.elim) fun g _ => ⟨hparticipant g, fun k => hpubSub k g⟩
  | some p =>
    show (DiscoveryServerManager.holdings { m with
      entityMap := m.entityMap.erase p.guid }).Recorded
        ([.deleteParticipant p, .deleteContainedEntities p, .clearListener p] ++ w.calls)
    rw [DiscoveryServerManager.holdings_eraseInfo]
    refine Holdings.Recorded.drop hrec (List.suffix_append _ _) hfiled (fun g => g = p.guid) ?_ ?_
    · rintro g rfl
      exact ⟨if_pos rfl, fun k => if_pos rfl⟩
    · intro g hg
      exact ⟨(if_neg hg).trans (hparticipant g), fun k => (if_neg hg).trans (hpubSub k g)⟩

theorem recorded_endpointCreation {event : DelayedEndpointCreation} {reply : Reply}
    (hrec : w.Recorded) (h : event.execute reply w = some w') : w'.Recorded := by
  obtain ⟨hfiled, hparticipant, hpubSub⟩ := holdings_endpointCreation h
  exact Holdings.Recorded.congr hrec (later_endpointCreation h).calls hfiled hparticipant hpubSub

theorem recorded_execute {step : EventPtr × Reply} (hrec : w.Recorded)
    (h : w.execute step = some w') : w'.Recorded := by
  have hcalls := (later_execute h).calls
  cases executed h with
  | participantCreation event hevent h => exact recorded_participantCreation hrec h
  | participantDestruction event hevent => exact recorded_participantDestruction hrec event
  | endpointCreation event hevent h => exact recorded_endpointCreation hrec h
  | endpointDestruction event hevent =>
    obtain ⟨hfiled, hparticipant, hpubSub⟩ := holdings_endpointDestruction w event
    exact Holdings.Recorded.congr hrec hcalls hfiled hparticipant hpubSub
  | snapshot event hevent => exact hrec
  | environmentModification event hevent => exact hrec

theorem recorded_executeAll {steps : List (EventPtr × Reply)} (hrec : w.Recorded)
    (h : w.executeAll steps = some w') : w'.Recorded :=
  run?_relation (fun w w' => w.Recorded → w'.Recorded) (fun _ => id)
    (fun _ _ _ _ hstep hrest hrec => hrest (recorded_execute hrec hstep)) h hrec

theorem recorded_loadSteps {env : Environment} (hrec : w.Recorded) (h : LoadSteps env w w') :
    w'.Recorded := by
  induction h with
  | refl => exact hrec
  | tail _ hstep ih =>
    cases hstep with
    | pushBack hfresh => exact ih
    | settings autoShutdown validate file => exact ih
    | participant hrun => exact recorded_participantCreation ih hrun
    | endpoint hrun => exact recorded_endpointCreation ih hrun

theorem recorded_initial (steadyClock now now' : TimePoint) :
    (World.initial steadyClock now now').Recorded where
  filed r g p h := by cases r <;> cases h
  participant g p h := by cases h
  pubSub_known k g _ := by cases k <;> rfl

/-! ## Where prefixes are distinct -/

theorem Accounted.known (acc : w.Accounted) (r : ParticipantRole) (g : Guid)
    (h : (w.manager.holdings.filed r g).isSome) : (w.manager.holdings.participant g).isSome := by
  obtain ⟨p, hp⟩ := Option.isSome_iff_exists.mp h
  rw [(acc.participant_iff g p).mpr ⟨r, hp⟩]
  rfl

/-- As long as all prefixes are distinct, whoever has not been deleted is filed first. -/
theorem Accounted.filedFirst_iff (acc : w.Accounted) {p : DomainParticipant} :
    w.manager.FiledFirst p ↔ p ∈ participantCalls.live w.calls := by
  rw [← DiscoveryServerManager.filed_eq_some_iff]
  constructor
  · intro h
    obtain ⟨r, hr⟩ := DiscoveryServerManager.filed_eq_some h
    exact (acc.filed_live r p.guid p hr).2
  · intro hlive
    obtain ⟨r, hr⟩ := acc.live_filed p hlive
    cases hfiled : w.manager.filed p.guid with
    | none => cases (DiscoveryServerManager.filed_eq_none hfiled r).symm.trans hr
    | some q =>
      obtain ⟨r', hr'⟩ := DiscoveryServerManager.filed_eq_some hfiled
      have hrole := acc.one_role r r' p.guid p q hr hr'
      rw [← hrole] at hr'
      exact hr'.symm.trans hr

/-- And whoever has not been deleted is recorded. -/
theorem Accounted.records_iff (acc : w.Accounted) {p : DomainParticipant} :
    w.manager.Records p ↔ p ∈ participantCalls.live w.calls := by
  rw [← DiscoveryServerManager.getParticipant_eq_some_iff]
  refine ⟨acc.live_of_getParticipant, fun hlive => ?_⟩
  rw [DiscoveryServerManager.getParticipant_eq acc.known]
  exact (acc.participant_iff p.guid p).mpr (acc.live_filed p hlive)

end World

end DiscoveryServer
