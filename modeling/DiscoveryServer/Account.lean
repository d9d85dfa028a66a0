import DiscoveryServer.Holdings
import DiscoveryServer.Library.Objects

/-!
# The account of the entities

`Accounted` relates the holdings of the manager to the calls made on Fast DDS:
the filed participants are the live ones, the stored endpoints are live and
belong to them. Each kind of change to the holdings keeps it, together with the
calls that go with the change.
-/

namespace DiscoveryServer

open Library

/-! ## Calls -/

/-- The participants behind the calls. -/
def participantCalls : Objects DdsCall DomainParticipant where
  opens c :=
    match c with
    | .createParticipant p => some p
    | _ => none
  uses c p :=
    match c with
    | .registerType q => q = p
    | .createTopic q _ _ _ _ => q = p
    | .createEndpoint pubsub _ _ _ => pubsub.participant = p
    | .clearListener q => q = p
    | .deleteContainedEntities q => q = p
    | .deleteParticipant q => q = p
    | _ => False
  closes c p := c = .deleteParticipant p

/-- The endpoints behind the calls; a participant takes its endpoints along. -/
def endpointCalls : Objects DdsCall Endpoint where
  opens c :=
    match c with
    | .createEndpoint _ _ _ result => result
    | _ => none
  uses c e := c = .useEndpoint e ∨ c = .deleteEndpoint e
  closes c e :=
    c = .deleteEndpoint e ∨ c = .deleteContainedEntities e.participant ∨
      c = .deleteParticipant e.participant

/-- What Fast DDS promises: a new participant has another GUID prefix than the
live ones. -/
def DistinctPrefixes : List DdsCall → Prop
  | [] => True
  | .createParticipant p :: calls =>
    (∀ q ∈ participantCalls.live calls, q.guid.guidPrefix ≠ p.guid.guidPrefix) ∧
      DistinctPrefixes calls
  | _ :: calls => DistinctPrefixes calls

instance decidableDistinctPrefixes : DecidablePred DistinctPrefixes
  | [] => .isTrue trivial
  | .createParticipant _ :: calls => @instDecidableAnd _ _ _ (decidableDistinctPrefixes calls)
  | .registerType _ :: calls => decidableDistinctPrefixes calls
  | .createTopic _ _ _ _ _ :: calls => decidableDistinctPrefixes calls
  | .createEndpoint _ _ _ _ :: calls => decidableDistinctPrefixes calls
  | .useEndpoint _ :: calls => decidableDistinctPrefixes calls
  | .deleteEndpoint _ :: calls => decidableDistinctPrefixes calls
  | .clearListener _ :: calls => decidableDistinctPrefixes calls
  | .deleteContainedEntities _ :: calls => decidableDistinctPrefixes calls
  | .deleteParticipant _ :: calls => decidableDistinctPrefixes calls

theorem distinctPrefixes_tail {c : DdsCall} {calls : List DdsCall}
    (h : DistinctPrefixes (c :: calls)) : DistinctPrefixes calls := by
  cases c with
  | createParticipant p => exact h.2
  | _ => exact h

theorem distinctPrefixes_of_suffix {calls calls' : List DdsCall} (hsuffix : calls <:+ calls')
    (h : DistinctPrefixes calls') : DistinctPrefixes calls := by
  obtain ⟨l, rfl⟩ := hsuffix
  induction l with
  | nil => exact h
  | cons c l ih => exact ih (distinctPrefixes_tail h)

/-- What a created object is marked with: a new number, and for an endpoint the
participant it belongs to and its GUID prefix. -/
def Marked (nextId : Nat) : DdsCall → Prop
  | .createParticipant p => p.id < nextId
  | .createEndpoint pubsub _ _ (some e) =>
    e.id < nextId ∧ e.participant = pubsub.participant ∧
      e.guid.guidPrefix = e.participant.guid.guidPrefix
  | _ => True

theorem Marked.mono {n n' : Nat} (hle : n ≤ n') {c : DdsCall} (h : Marked n c) : Marked n' c := by
  cases c with
  | createParticipant p => exact Nat.lt_of_lt_of_le h hle
  | createEndpoint pubsub topic profileName result =>
    cases result with
    | none => trivial
    | some e => exact ⟨Nat.lt_of_lt_of_le h.1 hle, h.2⟩
  | _ => trivial

theorem Marked.participant_id {n : Nat} {c : DdsCall} (h : Marked n c) {p : DomainParticipant}
    (hp : participantCalls.opens c = some p) : p.id < n := by
  cases c with
  | createParticipant q =>
    cases hp
    exact h
  | _ => cases hp

theorem Marked.endpoint_id {n : Nat} {c : DdsCall} (h : Marked n c) {e : Endpoint}
    (he : endpointCalls.opens c = some e) : e.id < n := by
  cases c with
  | createEndpoint pubsub topic profileName result =>
    cases he
    exact h.1
  | _ => cases he

/-- A live endpoint belongs to a live participant and has its prefix. -/
theorem owner_of_live {n : Nat} {calls : List DdsCall} (hsound : participantCalls.Sound calls)
    (hmarked : ∀ c ∈ calls, Marked n c) {e : Endpoint} (he : e ∈ endpointCalls.live calls) :
    e.participant ∈ participantCalls.live calls ∧
      e.guid.guidPrefix = e.participant.guid.guidPrefix := by
  induction calls with
  | nil => cases he
  | cons c calls ih =>
    obtain ⟨_, huses, hsound⟩ := hsound
    obtain ⟨hmark, hmarked⟩ := List.forall_mem_cons.mp hmarked
    rcases endpointCalls.mem_live_cons.mp he with hopens | ⟨he, hopen⟩
    · cases c with
      | createEndpoint pubsub topic profileName result =>
        cases hopens
        obtain ⟨_, howner, hpre⟩ := hmark
        refine ⟨participantCalls.mem_live_cons.mpr (.inr ⟨?_, by simp [participantCalls]⟩), hpre⟩
        exact huses e.participant howner.symm
      | _ => cases hopens
    · obtain ⟨howner, hpre⟩ := ih hsound hmarked he
      refine ⟨participantCalls.mem_live_cons.mpr (.inr ⟨howner, ?_⟩), hpre⟩
      simp only [endpointCalls, decide_eq_false_iff_not, not_or] at hopen
      simpa [participantCalls] using hopen.2.2

/-! ## The account -/

/-- The holdings agree with the calls: who is filed is live and the other way
round, and the stored endpoints are live. -/
structure Accounted (h : Holdings) (nextId : Nat) (calls : List DdsCall) : Prop where
  participants_sound : participantCalls.Sound calls
  endpoints_sound : endpointCalls.Sound calls
  marked : ∀ c ∈ calls, Marked nextId c
  filed_live : ∀ r g p, h.filed r g = some p → p.guid = g ∧ p ∈ participantCalls.live calls
  one_role : ∀ r r' g p p', h.filed r g = some p → h.filed r' g = some p' → r = r'
  live_filed : ∀ p ∈ participantCalls.live calls, ∃ r, h.filed r p.guid = some p
  participant_iff : ∀ g p, h.participant g = some p ↔ ∃ r, h.filed r g = some p
  pubSub_participant : ∀ k g s, h.pubSub k g = some s → h.participant g = some s.participant
  endpoint_live : ∀ k g e, h.endpoint k g = some e →
    e.guid = g ∧ e.kind = k ∧ e ∈ endpointCalls.live calls

namespace Accounted

variable {h : Holdings} {n : Nat} {calls : List DdsCall}

theorem participant_fresh (acc : Accounted h n calls) {p : DomainParticipant} (hid : p.id = n) :
    ∀ c ∈ calls, participantCalls.opens c ≠ some p := by
  intro c hc hp
  have hlt := (acc.marked c hc).participant_id hp
  omega

theorem endpoint_fresh (acc : Accounted h n calls) {e : Endpoint} (hid : e.id = n) :
    ∀ c ∈ calls, endpointCalls.opens c ≠ some e := by
  intro c hc he
  have hlt := (acc.marked c hc).endpoint_id he
  omega

theorem owner (acc : Accounted h n calls) {e : Endpoint} (he : e ∈ endpointCalls.live calls) :
    e.participant ∈ participantCalls.live calls ∧
      e.guid.guidPrefix = e.participant.guid.guidPrefix :=
  owner_of_live acc.participants_sound acc.marked he

/-- A call that neither opens nor closes anything, on live objects. -/
theorem call (acc : Accounted h n calls) {c : DdsCall} (hmark : Marked n c)
    (hopens : participantCalls.opens c = none) (hopens' : endpointCalls.opens c = none)
    (hcloses : ∀ p, participantCalls.closes c p = false)
    (hcloses' : ∀ e, endpointCalls.closes c e = false)
    (huses : ∀ p, participantCalls.uses c p → p ∈ participantCalls.live calls)
    (huses' : ∀ e, endpointCalls.uses c e → e ∈ endpointCalls.live calls) :
    Accounted h n (c :: calls) := by
  have hlive := participantCalls.live_cons_of_idle hopens hcloses calls
  have hlive' := endpointCalls.live_cons_of_idle hopens' hcloses' calls
  refine ⟨⟨?_, huses, acc.participants_sound⟩, ⟨?_, huses', acc.endpoints_sound⟩,
    List.forall_mem_cons.mpr ⟨hmark, acc.marked⟩, ?_, acc.one_role, ?_, acc.participant_iff,
    acc.pubSub_participant, ?_⟩
  · rw [hopens]
    exact nofun
  · rw [hopens']
    exact nofun
  · rw [hlive]
    exact acc.filed_live
  · rw [hlive]
    exact acc.live_filed
  · rw [hlive']
    exact acc.endpoint_live

/-- A call that only makes use of a participant. -/
inductive OnlyUses : DomainParticipant → DdsCall → Prop
  | registerType (p : DomainParticipant) : OnlyUses p (.registerType p)
  | createTopic (p : DomainParticipant) (name typeName : String) (profileName : Option String)
      (result : Option Topic) : OnlyUses p (.createTopic p name typeName profileName result)
  | createEndpoint (pubsub : PubSub) (topic : Option Topic) (profileName : String) :
      OnlyUses pubsub.participant (.createEndpoint pubsub topic profileName none)

/-- Such a call on a live participant. -/
theorem useParticipant (acc : Accounted h n calls) {p : DomainParticipant}
    (hp : p ∈ participantCalls.live calls) {c : DdsCall} (hc : OnlyUses p c) :
    Accounted h n (c :: calls) := by
  cases hc
  all_goals
    refine acc.call trivial rfl rfl (fun q => ?_) (fun e => ?_) ?_ (fun e he => ?_)
    · simp [participantCalls]
    · simp [endpointCalls]
    · rintro _ rfl
      exact hp
    · exact absurd he (by simp [endpointCalls])

/-- Fewer endpoints are stored. -/
theorem of_endpoint_le (acc : Accounted h n calls)
    {endpoint : ReaderWriter → Guid → Option Endpoint}
    (hle : ∀ k g e, endpoint k g = some e → h.endpoint k g = some e) :
    Accounted { h with endpoint := endpoint } n calls :=
  { acc with endpoint_live := fun k g e he => acc.endpoint_live k g e (hle k g e he) }

theorem dropEndpoint (acc : Accounted h n calls) (k : ReaderWriter) (id : Guid) :
    Accounted (h.dropEndpoint k id) n calls := by
  refine acc.of_endpoint_le fun k' g e he => ?_
  split_ifs at he
  exact he

/-- Live participants have different GUIDs. -/
theorem eq_of_guid_eq (acc : Accounted h n calls) {p q : DomainParticipant}
    (hp : p ∈ participantCalls.live calls) (hq : q ∈ participantCalls.live calls)
    (heq : p.guid = q.guid) : p = q := by
  obtain ⟨r, hr⟩ := acc.live_filed p hp
  obtain ⟨r', hr'⟩ := acc.live_filed q hq
  rw [heq] at hr
  rw [acc.one_role r r' _ p q hr hr'] at hr
  exact Option.some.inj (hr.symm.trans hr')

/-! ## A participant is created -/

/-- Nobody is filed under the GUID of a new participant. -/
theorem filed_free (acc : Accounted h n calls) {p : DomainParticipant}
    (hdistinct : DistinctPrefixes (.createParticipant p :: calls)) (r : ParticipantRole)
    (q : DomainParticipant) : h.filed r p.guid ≠ some q := by
  intro hq
  obtain ⟨hguid, hq⟩ := acc.filed_live r _ q hq
  exact hdistinct.1 q hq (by rw [hguid])

theorem filed_file_iff {p : DomainParticipant} (hfree : ∀ r q, h.filed r p.guid ≠ some q)
    (r : ParticipantRole) (pubSub : ReaderWriter → Option PubSub) (r' : ParticipantRole) (g : Guid)
    (q : DomainParticipant) :
    (h.file r p pubSub).filed r' g = some q ↔
      (r' = r ∧ g = p.guid ∧ q = p) ∨ h.filed r' g = some q := by
  show (if r' = r ∧ g = p.guid then some p else h.filed r' g) = some q ↔ _
  split_ifs with hg
  · constructor
    · intro hq
      exact .inl ⟨hg.1, hg.2, (Option.some.inj hq).symm⟩
    · rintro (⟨_, _, rfl⟩ | hq)
      · rfl
      · rw [hg.2] at hq
        exact absurd hq (hfree r' q)
  · constructor
    · exact .inr
    · rintro (⟨hr, hguid, _⟩ | hq)
      · exact absurd ⟨hr, hguid⟩ hg
      · exact hq

theorem one_role_file (acc : Accounted h n calls) {p : DomainParticipant} {r : ParticipantRole}
    {pubSub : ReaderWriter → Option PubSub} (hfree : ∀ r q, h.filed r p.guid ≠ some q)
    {r₁ r₂ : ParticipantRole} {g : Guid} {q q' : DomainParticipant}
    (hq : (h.file r p pubSub).filed r₁ g = some q)
    (hq' : (h.file r p pubSub).filed r₂ g = some q') : r₁ = r₂ := by
  rcases (filed_file_iff hfree r pubSub r₁ g q).mp hq with ⟨hr₁, hg, _⟩ | hq₁
  · rcases (filed_file_iff hfree r pubSub r₂ g q').mp hq' with ⟨hr₂, _, _⟩ | hq₂
    · rw [hr₁, hr₂]
    · rw [hg] at hq₂
      exact absurd hq₂ (hfree r₂ q')
  · rcases (filed_file_iff hfree r pubSub r₂ g q').mp hq' with ⟨_, hg, _⟩ | hq₂
    · rw [hg] at hq₁
      exact absurd hq₁ (hfree r₁ q)
    · exact acc.one_role r₁ r₂ g q q' hq₁ hq₂

theorem participant_file_iff (acc : Accounted h n calls) {p : DomainParticipant}
    {r : ParticipantRole} {pubSub : ReaderWriter → Option PubSub}
    (hfree : ∀ r q, h.filed r p.guid ≠ some q) (g : Guid) (q : DomainParticipant) :
    (h.file r p pubSub).participant g = some q ↔
      ∃ r', (h.file r p pubSub).filed r' g = some q := by
  show (if g = p.guid then some p else h.participant g) = some q ↔ _
  simp only [filed_file_iff hfree r pubSub]
  by_cases hg : g = p.guid
  · rw [if_pos hg]
    constructor
    · intro hq
      exact ⟨r, .inl ⟨rfl, hg, (Option.some.inj hq).symm⟩⟩
    · rintro ⟨r', ⟨_, _, rfl⟩ | hq⟩
      · rfl
      · rw [hg] at hq
        exact absurd hq (hfree r' q)
  · rw [if_neg hg, acc.participant_iff]
    constructor
    · rintro ⟨r', hr'⟩
      exact ⟨r', .inr hr'⟩
    · rintro ⟨r', ⟨_, hg', _⟩ | hr'⟩
      · exact absurd hg' hg
      · exact ⟨r', hr'⟩

theorem mem_live_createParticipant (p q : DomainParticipant) :
    q ∈ participantCalls.live (.createParticipant p :: calls) ↔
      q = p ∨ q ∈ participantCalls.live calls := by
  rw [Objects.mem_live_cons]
  simp [participantCalls, eq_comm]

/-- A participant is created and filed. -/
theorem file (acc : Accounted h n calls) (r : ParticipantRole) {p : DomainParticipant}
    (hid : p.id = n) (hdistinct : DistinctPrefixes (.createParticipant p :: calls))
    (pubSub : ReaderWriter → Option PubSub)
    (hpubSub : ∀ k s, pubSub k = some s → s.participant = p) :
    Accounted (h.file r p pubSub) (n + 1) (.createParticipant p :: calls) := by
  have hfree := acc.filed_free hdistinct
  have hfiled := filed_file_iff hfree r pubSub
  have hlive : ∀ q, q ∈ participantCalls.live (.createParticipant p :: calls) ↔
      q = p ∨ q ∈ participantCalls.live calls := mem_live_createParticipant p
  refine ⟨⟨?_, ?_, acc.participants_sound⟩, ⟨nofun, ?_, acc.endpoints_sound⟩,
    List.forall_mem_cons.mpr ⟨?_, fun c hc => (acc.marked c hc).mono (Nat.le_succ n)⟩,
    ?_, ?_, ?_, ?_, ?_, ?_⟩
  · rintro _ ⟨⟩
    exact acc.participant_fresh hid
  · intro q hq
    exact absurd hq (by simp [participantCalls])
  · intro e he
    exact absurd he (by simp [endpointCalls])
  · show p.id < n + 1
    omega
  · intro r' g q hq
    rw [hlive]
    rcases (hfiled r' g q).mp hq with ⟨_, hg, rfl⟩ | hq
    · exact ⟨hg.symm, .inl rfl⟩
    · obtain ⟨hguid, hq⟩ := acc.filed_live r' g q hq
      exact ⟨hguid, .inr hq⟩
  · exact fun r₁ r₂ g q q' => acc.one_role_file hfree
  · intro q hq
    rcases (hlive q).mp hq with rfl | hq
    · exact ⟨r, (hfiled r _ q).mpr (.inl ⟨rfl, rfl, rfl⟩)⟩
    · obtain ⟨r', hr'⟩ := acc.live_filed q hq
      exact ⟨r', (hfiled r' _ q).mpr (.inr hr')⟩
  · exact acc.participant_file_iff hfree
  · intro k g s hs
    show (if g = p.guid then some p else h.participant g) = some s.participant
    by_cases hg : g = p.guid
    · rw [if_pos hg, hpubSub k s ((if_pos hg).symm.trans hs)]
    · rw [if_neg hg]
      exact acc.pubSub_participant k g s ((if_neg hg).symm.trans hs)
  · rw [endpointCalls.live_cons_of_idle rfl (fun e => by simp [endpointCalls])]
    exact acc.endpoint_live

/-! ## A participant is deleted -/

/-- The calls that delete a participant. -/
def deletion (p : DomainParticipant) : List DdsCall :=
  [.deleteParticipant p, .deleteContainedEntities p, .clearListener p]

theorem mem_live_deletion (p q : DomainParticipant) :
    q ∈ participantCalls.live (deletion p ++ calls) ↔
      q ∈ participantCalls.live calls ∧ q ≠ p := by
  unfold deletion
  simp only [List.cons_append, List.nil_append, Objects.mem_live_cons]
  simp [participantCalls, eq_comm]

theorem mem_endpoints_deletion (p : DomainParticipant) (e : Endpoint) :
    e ∈ endpointCalls.live (deletion p ++ calls) ↔
      e ∈ endpointCalls.live calls ∧ e.participant ≠ p := by
  unfold deletion
  simp only [List.cons_append, List.nil_append, Objects.mem_live_cons]
  simp [endpointCalls, eq_comm]

theorem sound_deletion {p : DomainParticipant} (hp : p ∈ participantCalls.live calls)
    (hsound : participantCalls.Sound calls) : participantCalls.Sound (deletion p ++ calls) := by
  have hidle : ∀ c, c = .clearListener p ∨ c = .deleteContainedEntities p → ∀ l,
      participantCalls.live (c :: l) = participantCalls.live l := by
    rintro c (rfl | rfl) l
    · exact participantCalls.live_cons_of_idle rfl (fun q => by simp [participantCalls]) l
    · exact participantCalls.live_cons_of_idle rfl (fun q => by simp [participantCalls]) l
  refine ⟨nofun, ?_, nofun, ?_, nofun, ?_, hsound⟩
  · rintro _ rfl
    show p ∈ participantCalls.live (_ :: _ :: calls)
    rw [hidle _ (.inr rfl), hidle _ (.inl rfl)]
    exact hp
  · rintro _ rfl
    show p ∈ participantCalls.live (_ :: calls)
    rw [hidle _ (.inl rfl)]
    exact hp
  · rintro _ rfl
    exact hp

theorem sound_endpoints_deletion (p : DomainParticipant) (hsound : endpointCalls.Sound calls) :
    endpointCalls.Sound (deletion p ++ calls) := by
  have hunused : ∀ c ∈ deletion p, ∀ e, ¬ endpointCalls.uses c e := by
    simp [deletion, endpointCalls]
  refine ⟨nofun, fun e he => ?_, nofun, fun e he => ?_, nofun, fun e he => ?_, hsound⟩
  · exact absurd he (hunused _ (by simp [deletion]) e)
  · exact absurd he (hunused _ (by simp [deletion]) e)
  · exact absurd he (hunused _ (by simp [deletion]) e)

theorem marked_deletion (p : DomainParticipant) (hmarked : ∀ c ∈ calls, Marked n c) :
    ∀ c ∈ deletion p ++ calls, Marked n c := by
  intro c hc
  rcases List.mem_append.mp hc with hc | hc
  · simp only [deletion, List.mem_cons, List.not_mem_nil, or_false] at hc
    rcases hc with rfl | rfl | rfl <;> trivial
  · exact hmarked c hc

/-- A participant is taken out and deleted; under its GUID nothing is left. -/
theorem forget (acc : Accounted h n calls) {id : Guid} {r : ParticipantRole}
    {p : DomainParticipant} (hp : h.filed r id = some p) :
    Accounted (h.forget id) n (deletion p ++ calls) := by
  obtain ⟨hguid, hplive⟩ := acc.filed_live r id p hp
  refine ⟨sound_deletion hplive acc.participants_sound,
    sound_endpoints_deletion p acc.endpoints_sound, marked_deletion p acc.marked,
    ?_, ?_, ?_, ?_, ?_, ?_⟩
  · intro r' g q hq
    by_cases hg : g = id
    · exact absurd ((if_pos hg).symm.trans hq) nofun
    · obtain ⟨hqg, hqlive⟩ := acc.filed_live r' g q ((if_neg hg).symm.trans hq)
      refine ⟨hqg, (mem_live_deletion p q).mpr ⟨hqlive, ?_⟩⟩
      rintro rfl
      exact hg (hqg.symm.trans hguid)
  · intro r₁ r₂ g q q' hq hq'
    by_cases hg : g = id
    · exact absurd ((if_pos hg).symm.trans hq) nofun
    · exact acc.one_role r₁ r₂ g q q' ((if_neg hg).symm.trans hq) ((if_neg hg).symm.trans hq')
  · intro q hq
    obtain ⟨hqlive, hne⟩ := (mem_live_deletion p q).mp hq
    obtain ⟨r', hr'⟩ := acc.live_filed q hqlive
    refine ⟨r', ?_⟩
    show (if q.guid = id then none else h.filed r' q.guid) = some q
    rw [if_neg fun hg => hne (acc.eq_of_guid_eq hqlive hplive (hg.trans hguid.symm))]
    exact hr'
  · intro g q
    show (if g = id then none else h.participant g) = some q ↔
      ∃ r', (if g = id then none else h.filed r' g) = some q
    by_cases hg : g = id
    · simp [hg]
    · simp only [if_neg hg]
      exact acc.participant_iff g q
  · intro k g s hs
    show (if g = id then none else h.participant g) = some s.participant
    by_cases hg : g = id
    · exact absurd ((if_pos hg).symm.trans hs) nofun
    · rw [if_neg hg]
      exact acc.pubSub_participant k g s ((if_neg hg).symm.trans hs)
  · intro k g e he
    by_cases hg : id.guidPrefix = g.guidPrefix
    · exact absurd ((if_pos hg).symm.trans he) nofun
    · -- an endpoint of the participant would have its prefix and be purged
      obtain ⟨heg, hkind, helive⟩ := acc.endpoint_live k g e ((if_neg hg).symm.trans he)
      refine ⟨heg, hkind, (mem_endpoints_deletion p e).mpr ⟨helive, ?_⟩⟩
      intro howner
      have hpre := (acc.owner helive).2
      rw [howner, hguid, heg] at hpre
      exact hg hpre.symm

/-! ## Endpoints -/

/-- An endpoint is created on the publisher or subscriber of a live participant. -/
theorem keepEndpoint (acc : Accounted h n calls) {k : ReaderWriter} {pubsub : PubSub}
    (hpub : pubsub.participant ∈ participantCalls.live calls) (topic : Option Topic)
    (profileName : String) {e : Endpoint} (hid : e.id = n) (hkind : e.kind = k)
    (howner : e.participant = pubsub.participant)
    (hpre : e.guid.guidPrefix = e.participant.guid.guidPrefix) :
    Accounted (h.keepEndpoint k e) (n + 1)
      (.createEndpoint pubsub topic profileName (some e) :: calls) := by
  have hlive : participantCalls.live (.createEndpoint pubsub topic profileName (some e) :: calls) =
      participantCalls.live calls :=
    participantCalls.live_cons_of_idle rfl (fun p => by simp [participantCalls]) calls
  refine ⟨⟨nofun, ?_, acc.participants_sound⟩, ⟨?_, ?_, acc.endpoints_sound⟩,
    List.forall_mem_cons.mpr ⟨⟨?_, howner, hpre⟩,
      fun c hc => (acc.marked c hc).mono (Nat.le_succ n)⟩,
    ?_, acc.one_role, ?_, acc.participant_iff, acc.pubSub_participant, ?_⟩
  · rintro _ rfl
    exact hpub
  · rintro _ ⟨⟩
    exact acc.endpoint_fresh hid
  · intro e' he'
    exact absurd he' (by simp [endpointCalls])
  · omega
  · rw [hlive]
    exact acc.filed_live
  · rw [hlive]
    exact acc.live_filed
  · intro k' g e' he'
    rw [Objects.mem_live_cons]
    by_cases hg : k' = k ∧ g = e.guid
    · have heq : some e = some e' := (if_pos hg).symm.trans he'
      cases heq
      exact ⟨hg.2.symm, hkind.trans hg.1.symm, .inl rfl⟩
    · obtain ⟨hguid, hkind', helive⟩ := acc.endpoint_live k' g e' ((if_neg hg).symm.trans he')
      exact ⟨hguid, hkind', .inr ⟨helive, by simp [endpointCalls]⟩⟩

/-- An endpoint no longer stored is deleted. -/
theorem deleteEndpoint (acc : Accounted h n calls) {e : Endpoint}
    (he : e ∈ endpointCalls.live calls) (hout : ∀ k g, h.endpoint k g ≠ some e) :
    Accounted h n (.deleteEndpoint e :: calls) := by
  have hlive : participantCalls.live (.deleteEndpoint e :: calls) = participantCalls.live calls :=
    participantCalls.live_cons_of_idle rfl (fun p => by simp [participantCalls]) calls
  refine ⟨⟨nofun, ?_, acc.participants_sound⟩, ⟨nofun, ?_, acc.endpoints_sound⟩,
    List.forall_mem_cons.mpr ⟨trivial, acc.marked⟩, ?_, acc.one_role, ?_, acc.participant_iff,
    acc.pubSub_participant, ?_⟩
  · intro p hp
    exact absurd hp (by simp [participantCalls])
  · rintro e' (hc | hc)
    · cases hc
    · cases hc
      exact he
  · rw [hlive]
    exact acc.filed_live
  · rw [hlive]
    exact acc.live_filed
  · intro k g e' he'
    obtain ⟨hguid, hkind, helive⟩ := acc.endpoint_live k g e' he'
    refine ⟨hguid, hkind, endpointCalls.mem_live_cons.mpr (.inr ⟨helive, ?_⟩)⟩
    have hne : e ≠ e' := fun heq => hout k g (heq ▸ he')
    simp [endpointCalls, hne]

end Accounted

end DiscoveryServer
