import DiscoveryServer.Construction
import DiscoveryServer.Library.Fold

/-!
# One traversal of the loaders

Every loader is made of the same few parts: an element is accepted, its participant is
created or scheduled, its endpoints follow. A relation that holds across each part
(`ServerRule` for the servers, `LoaderRule` for all items) holds across the loader and
across the constructor. The loaders are looked at once, here; what is said of them later
is said part by part.
-/

namespace DiscoveryServer

open Library

/-- The world, and whether prefixes are validated. -/
def Loading.core (l : Loading) : World × Bool := (l.world, l.enablePrefixValidation)

/-! ## What only reads -/

namespace Loading

/-- Errors may have been logged and transports been described, that is all. -/
def Noted (l l' : Loading) : Prop :=
  ∃ errors descriptors, l' = { l with errors := errors, descriptors := descriptors }

theorem Noted.refl (l : Loading) : l.Noted l := ⟨_, _, rfl⟩

theorem noted_logError (l : Loading) (message : String) : l.Noted (l.logError message) :=
  ⟨_, _, rfl⟩

theorem Noted.core {l l' : Loading} (h : l.Noted l') : l'.core = l.core := by
  obtain ⟨errors, descriptors, rfl⟩ := h
  rfl

theorem noted_disableSharedMemory (l : Loading) (qos : DomainParticipantQos) :
    l.Noted (l.disableSharedMemory qos).1 := by
  unfold disableSharedMemory
  split_ifs
  · exact ⟨_, _, rfl⟩
  · exact .refl l

theorem guidPrefix_disableSharedMemory (l : Loading) (qos : DomainParticipantQos) :
    (l.disableSharedMemory qos).2.guidPrefix = qos.guidPrefix := by
  unfold disableSharedMemory
  split_ifs
  · rfl
  · rfl

theorem core_loadTopics (l : Loading) (topics : List XMLElement) :
    (l.loadTopics topics).core = l.core := by
  induction topics generalizing l with
  | nil => rfl
  | cons topic rest ih =>
    unfold loadTopics
    cases topic.attributeValue "profile_name" with
    | none => exact ih l
    | some name =>
      dsimp only
      cases l.topicDescriptionProfilesMap name with
      | some item => exact ih l
      | none =>
        dsimp only
        split_ifs
        · exact ih _
        · rfl

end Loading

namespace Environment

variable {env : Environment} {l l' : Loading} {e : XMLElement}

theorem core_loadProfiles (env : Environment) (l : Loading) (profiles : XMLElement) :
    (env.loadProfiles l profiles).core = l.core := by
  unfold loadProfiles
  dsimp only
  rw [Loading.core_loadTopics]
  split_ifs <;> rfl

theorem noted_topicDescription (l : Loading) (topicName : Option String) :
    l.Noted (topicDescription l topicName).1 := by
  unfold topicDescription
  cases topicName with
  | none => exact .refl l
  | some topicName =>
    dsimp only
    cases l.topicDescriptionProfilesMap topicName with
    | none => exact Loading.noted_logError l _
    | some item => exact .refl l

theorem noted_serverQos (env : Environment) (l : Loading) (server : XMLElement) :
    l.Noted (env.serverQos l server).1 := by
  unfold serverQos
  cases server.attributeValue "profile_name" with
  | none => exact Loading.noted_logError l _
  | some profileName =>
    dsimp only
    split_ifs
    · exact .refl l
    · cases env.participantQos l.profiles profileName with
      | none => exact Loading.noted_logError l _
      | some qos =>
        dsimp only
        cases server.attributeValue "prefix" with
        | none => exact .refl l
        | some cprefix =>
          dsimp only
          split_ifs
          · exact Loading.noted_logError l _
          · exact .refl l

theorem core_acceptServer (env : Environment) (l : Loading) (server : XMLElement) :
    (env.acceptServer l server).1.core = l.core := by
  have hcore := (noted_serverQos env l server).core
  unfold acceptServer
  cases hqos : env.serverQos l server with
  | mk l₁ qos =>
    rw [hqos] at hcore
    cases qos with
    | none => exact hcore
    | some qos =>
      dsimp only
      split_ifs
      · exact hcore
      · exact (Loading.noted_disableSharedMemory _ _).core.trans hcore
      · exact (Loading.noted_disableSharedMemory _ _).core.trans hcore

theorem core_listen {qos : DomainParticipantQos} {found : Option DomainParticipantQos}
    (h : env.listen l e qos = .ok (l', found)) : l'.core = l.core := by
  unfold listen at h
  cases hlp : e.attributeValue "listening_port" with
  | none =>
    rw [hlp] at h
    cases h
    rfl
  | some lp =>
    rw [hlp] at h
    dsimp only at h
    cases hmatch : Ipv4RegularExpression.regexMatch lp with
    | none =>
      rw [hmatch] at h
      cases h
      rfl
    | some groups =>
      rw [hmatch] at h
      dsimp only at h
      cases hport : stol groups.2 with
      | none =>
        rw [hport] at h
        cases h
      | some port =>
        rw [hport] at h
        cases h
        rfl

theorem core_acceptClient {found : Option DomainParticipantQos}
    (h : env.acceptClient l e = .ok (l', found)) : l'.core = l.core := by
  unfold acceptClient at h
  cases hprofile : e.attributeValue "profile_name" with
  | none =>
    rw [hprofile] at h
    cases h
    rfl
  | some profileName =>
    rw [hprofile] at h
    dsimp only at h
    cases hqos : env.participantQos l.profiles profileName with
    | none =>
      rw [hqos] at h
      cases h
      rfl
    | some qos =>
      rw [hqos] at h
      dsimp only at h
      split_ifs at h with hprotocol
      · cases h
        rfl
      · cases hlisten : env.listen l e (qos.setName (e.attributeValue "name")) with
        | error fault =>
          rw [hlisten] at h
          cases h
        | ok result =>
          obtain ⟨l₁, qos₁⟩ := result
          rw [hlisten] at h
          cases qos₁ with
          | none =>
            cases h
            exact core_listen hlisten
          | some qos₁ =>
            cases h
            exact (Loading.noted_disableSharedMemory _ _).core.trans (core_listen hlisten)

theorem core_acceptSimple (env : Environment) (l : Loading) (simple : XMLElement) :
    (env.acceptSimple l simple).1.core = l.core := by
  unfold acceptSimple
  cases simple.attributeValue "profile_name" with
  | none => rfl
  | some profileName =>
    dsimp only
    cases env.participantQos l.profiles profileName with
    | none => rfl
    | some qos =>
      dsimp only
      split_ifs <;> rfl

theorem core_mapServerInfo (h : env.mapServerInfo l e = .ok l') : l'.core = l.core := by
  unfold mapServerInfo at h
  cases hprofile : e.attributeValue "profile_name" with
  | none =>
    rw [hprofile] at h
    cases h
  | some profileName =>
    rw [hprofile] at h
    dsimp only at h
    split_ifs at h with hempty
    · cases h
      rfl
    · cases hqos : env.participantQos l.profiles profileName with
      | none =>
        rw [hqos] at h
        cases h
        rfl
      | some qos =>
        rw [hqos] at h
        dsimp only at h
        split_ifs at h
        all_goals
          cases h
          rfl

/-! ## Endpoints -/

/-- The endpoints of a participant, in the order they are loaded. -/
def endpointElements (participant : XMLElement) : List (ReaderWriter × XMLElement) :=
  (participant.childElements "publisher").map (Prod.mk .dataWriter) ++
    (participant.childElements "subscriber").map (Prod.mk .dataReader)

theorem loadEndpoints_eq (env : Environment) (l : Loading) (guid : Guid) (e : XMLElement)
    (creationEvent : Option EventPtr) :
    env.loadEndpoints l guid e creationEvent = (endpointElements e).foldlM
      (fun l c => env.loadEndpoint c.1 l guid c.2 creationEvent) l := by
  unfold loadEndpoints endpointElements
  rw [List.foldlM_append]
  simp only [List.foldlM_map]
  rfl

end Environment

/-! ## The second pass over the servers -/

/-- A relation across the parts of `loadServer`. -/
structure ServerRule (env : Environment) (R : Loading → Loading → Prop) : Prop where
  refl : ∀ l, R l l
  trans : ∀ {l₁ l₂ l₃}, R l₁ l₂ → R l₂ l₃ → R l₁ l₃
  accept : ∀ l server, R l (env.acceptServer l server).1
  schedule : ∀ {l l' : Loading} {server : XMLElement} {qos : DomainParticipantQos},
    env.scheduleServer l server qos = .ok l' → R l l'
  endpoint : ∀ {kind : ReaderWriter} {l l' : Loading} {guid : Guid} {e : XMLElement}
    {creationEvent : Option EventPtr},
    env.loadEndpoint kind l guid e creationEvent = .ok l' → R l l'

namespace ServerRule

variable {env : Environment} {R : Loading → Loading → Prop} {l l' : Loading} {e : XMLElement}

theorem children (rule : ServerRule env R) {guid : Guid} {creationEvent : Option EventPtr}
    {children : List (ReaderWriter × XMLElement)} (h : children.foldlM
      (fun l c => env.loadEndpoint c.1 l guid c.2 creationEvent) l = .ok l') : R l l' :=
  foldlM_relation rule.refl (fun _ _ _ _ hc hrest => rule.trans (rule.endpoint hc) hrest) h

theorem endpoints (rule : ServerRule env R) {guid : Guid} {creationEvent : Option EventPtr}
    (h : env.loadEndpoints l guid e creationEvent = .ok l') : R l l' := by
  rw [Environment.loadEndpoints_eq] at h
  exact rule.children h

/-- **`loadServer`.** -/
theorem server (rule : ServerRule env R) (h : env.loadServer l e = .ok l') : R l l' := by
  unfold Environment.loadServer at h
  have haccept := rule.accept l e
  cases hresult : env.acceptServer l e with
  | mk l₁ qos =>
    rw [hresult] at h haccept
    cases qos with
    | none =>
      cases h
      exact haccept
    | some qos =>
      obtain ⟨l₂, hschedule, h⟩ := bind_eq_ok.mp h
      exact rule.trans haccept (rule.trans (rule.schedule hschedule) (rule.endpoints h))

end ServerRule

/-! ## All items -/

/-- A relation across the parts of all loaders: it does not look at more than the world and
the validation of prefixes, and holds where these are changed. -/
structure LoaderRule (env : Environment) (R : Loading → Loading → Prop) : Prop where
  core : ∀ {l l' : Loading}, l'.core = l.core → R l l'
  trans : ∀ {l₁ l₂ l₃}, R l₁ l₂ → R l₂ l₃ → R l₁ l₃
  scheduleServer : ∀ {l l' : Loading} {server : XMLElement} {qos : DomainParticipantQos},
    env.scheduleServer l server qos = .ok l' → R l l'
  scheduleParticipant : ∀ {role : ParticipantRole} {l l' : Loading} {e : XMLElement}
    {qos : DomainParticipantQos} {guid : Guid} {creationEvent : Option EventPtr},
    env.scheduleParticipant role l e qos = .ok (l', guid, creationEvent) → R l l'
  endpoint : ∀ {kind : ReaderWriter} {l l' : Loading} {guid : Guid} {e : XMLElement}
    {creationEvent : Option EventPtr},
    env.loadEndpoint kind l guid e creationEvent = .ok l' → R l l'
  file : ∀ l e, R l (Environment.loadSnapshotsFile l e)
  snapshot : ∀ l event, R l (l.pushBack (.snapshot event))
  change : ∀ l event, R l (l.pushBack (.environmentModification event))

theorem Stop.lift_eq_ok {x : Except Fault Loading} {l : Loading} :
    Stop.lift x = .ok l ↔ x = .ok l := by
  cases x with
  | ok l => simp [Stop.lift]
  | error fault => simp [Stop.lift]

/-- The constructor ends, at its end or by a return, with the manager of `l`. -/
def Leaves (result : Except Stop Loading) (l : Loading) : Prop :=
  result = .ok l ∨ result = .error (.returned l)

namespace Environment

variable {env : Environment} {l l' : Loading}

/-- The constructor only returns where it has nothing to undo. -/
theorem loadItem_returned {item : ConfigItem} (h : env.loadItem l item = .error (.returned l')) :
    l'.core = l.core := by
  have hlift : ∀ {x : Except Fault Loading}, Stop.lift x ≠ .error (.returned l') := by
    intro x hx
    cases x <;> cases hx
  cases item with
  | noServers =>
    unfold loadItem at h
    dsimp only at h
    split_ifs at h
    cases h
    rfl
  | environment =>
    unfold loadItem at h
    dsimp only at h
    split_ifs at h
    cases h
    rfl
  | profiles e => cases h
  | snapshots e => cases h
  | locators server => exact absurd h hlift
  | server e => exact absurd h hlift
  | client e => exact absurd h hlift
  | simple e => exact absurd h hlift
  | snapshot e => exact absurd h hlift
  | change e => exact absurd h hlift

end Environment

namespace LoaderRule

variable {env : Environment} {R : Loading → Loading → Prop} {l l' : Loading} {e : XMLElement}

theorem refl (rule : LoaderRule env R) (l : Loading) : R l l := rule.core rfl

theorem servers (rule : LoaderRule env R) : ServerRule env R where
  refl := rule.refl
  trans := rule.trans
  accept l server := rule.core (Environment.core_acceptServer env l server)
  schedule := rule.scheduleServer
  endpoint := rule.endpoint

theorem client (rule : LoaderRule env R) (h : env.loadClient l e = .ok l') : R l l' := by
  unfold Environment.loadClient at h
  obtain ⟨⟨l₁, qos⟩, haccept, h⟩ := bind_eq_ok.mp h
  have hcore := rule.core (Environment.core_acceptClient haccept)
  cases qos with
  | none =>
    cases h
    exact hcore
  | some qos =>
    obtain ⟨⟨l₂, guid, creationEvent⟩, hschedule, h⟩ := bind_eq_ok.mp h
    exact rule.trans hcore
      (rule.trans (rule.scheduleParticipant hschedule) (rule.servers.endpoints h))

theorem simple (rule : LoaderRule env R) (h : env.loadSimple l e = .ok l') : R l l' := by
  unfold Environment.loadSimple at h
  have hcore := rule.core (Environment.core_acceptSimple env l e)
  cases haccept : env.acceptSimple l e with
  | mk l₁ qos =>
    rw [haccept] at h hcore
    cases qos with
    | none =>
      cases h
      exact hcore
    | some qos =>
      obtain ⟨⟨l₂, guid, creationEvent⟩, hschedule, h⟩ := bind_eq_ok.mp h
      exact rule.trans hcore
        (rule.trans (rule.scheduleParticipant hschedule) (rule.servers.endpoints h))

theorem snapshotEvent (rule : LoaderRule env R) (h : env.loadSnapshot l e = .ok l') : R l l' := by
  unfold Environment.loadSnapshot at h
  cases htime : env.seconds e "time" with
  | none =>
    rw [htime] at h
    cases h
    exact rule.core rfl
  | some s =>
    rw [htime] at h
    dsimp only at h
    cases htext : e.getText with
    | none =>
      rw [htext] at h
      cases h
    | some description =>
      rw [htext] at h
      cases h
      exact rule.snapshot l _

theorem environmentChange (rule : LoaderRule env R) (h : env.loadEnvironmentChange l e = .ok l') :
    R l l' := by
  unfold Environment.loadEnvironmentChange at h
  cases htime : env.seconds e "time" with
  | none =>
    rw [htime] at h
    cases h
    exact rule.core rfl
  | some s =>
    rw [htime] at h
    dsimp only at h
    cases hkey : e.attributeValue "key" with
    | none =>
      rw [hkey] at h
      cases h
      exact rule.core rfl
    | some key =>
      rw [hkey] at h
      dsimp only at h
      cases htext : e.getText with
      | none =>
        rw [htext] at h
        cases h
      | some value =>
        rw [htext] at h
        cases h
        exact rule.change l _

/-- **One item of the constructor.** -/
theorem item (rule : LoaderRule env R) {item : ConfigItem} (h : env.loadItem l item = .ok l') :
    R l l' := by
  cases item with
  | profiles e =>
    cases h
    exact rule.core (Environment.core_loadProfiles env l e)
  | locators server =>
    exact rule.core (Environment.core_mapServerInfo (Stop.lift_eq_ok.mp h))
  | server e => exact rule.servers.server (Stop.lift_eq_ok.mp h)
  | noServers =>
    unfold Environment.loadItem at h
    dsimp only at h
    split_ifs at h
    cases h
    exact rule.refl l
  | client e => exact rule.client (Stop.lift_eq_ok.mp h)
  | simple e => exact rule.simple (Stop.lift_eq_ok.mp h)
  | snapshots e =>
    cases h
    exact rule.file l e
  | snapshot e => exact rule.snapshotEvent (Stop.lift_eq_ok.mp h)
  | environment =>
    unfold Environment.loadItem at h
    dsimp only at h
    split_ifs at h
    cases h
    exact rule.refl l
  | change e => exact rule.environmentChange (Stop.lift_eq_ok.mp h)

/-- Wherever the constructor gets to. -/
theorem reaches (rule : LoaderRule env R) {items : List ConfigItem} {item : ConfigItem}
    (h : Reaches env.loadItem l items item l') : R l l' :=
  h.relation rule.refl fun _ _ _ _ hitem hrest => rule.trans (rule.item hitem) hrest

/-- **The constructor**, whether it gets to its end or returns. -/
theorem leaves (rule : LoaderRule env R) {items : List ConfigItem}
    (h : Leaves (items.foldlM env.loadItem l) l') : R l l' := by
  induction items generalizing l with
  | nil =>
    rcases h with h | h
    · cases h
      exact rule.refl _
    · cases h
  | cons item rest ih =>
    rw [List.foldlM_cons] at h
    cases hitem : env.loadItem l item with
    | ok l₁ =>
      rw [hitem] at h
      exact rule.trans (rule.item hitem) (ih h)
    | error stop =>
      rw [hitem] at h
      rcases h with h | h
      · cases h
      · cases h
        exact rule.core (Environment.loadItem_returned hitem)

end LoaderRule

end DiscoveryServer
