import DiscoveryServer.LoadSteps

/-!
# The two passes over the servers

`MapServerInfo` maps every server with the locators of its profile, `loadServer`
reads them back. The map is keyed by GUID, so of several elements with one prefix
the last one counts, also when it is refused afterwards. `ownLocators_iff` says
when a server gets the locators of its own profile all the same.

What the passes share are the profiles and the mapped locators; the loader of a
server changes neither (`tables_rule`).
-/

namespace DiscoveryServer

open Library

/-- Multicast and unicast metatraffic locators of a QoS. -/
def DomainParticipantQos.locators (qos : DomainParticipantQos) : List Locator × List Locator :=
  (qos.metatrafficMulticastLocatorList, qos.metatrafficUnicastLocatorList)

namespace Loading

/-- What `server_locators[g]` reads. -/
def locatorsOf (l : Loading) (g : Guid) : List Locator × List Locator :=
  (l.serverLocators.get? g).getD ([], [])

/-- The profiles and the mapped locators are the same. -/
structure SameTables (l l' : Loading) : Prop where
  profiles : l'.profiles = l.profiles
  locators : ∀ g, l'.locatorsOf g = l.locatorsOf g

namespace SameTables

variable {l l₁ l' : Loading}

theorem refl (l : Loading) : SameTables l l := ⟨rfl, fun _ => rfl⟩

theorem trans (h : SameTables l l₁) (h' : SameTables l₁ l') : SameTables l l' :=
  ⟨h'.profiles.trans h.profiles, fun g => (h'.locators g).trans (h.locators g)⟩

theorem of_eq (hprofiles : l'.profiles = l.profiles)
    (hlocators : l'.serverLocators = l.serverLocators) : SameTables l l' :=
  ⟨hprofiles, fun g => by rw [locatorsOf, hlocators]; rfl⟩

theorem of_noted (h : l.Noted l') : SameTables l l' := by
  obtain ⟨errors, descriptors, rfl⟩ := h
  exact .of_eq rfl rfl

end SameTables

end Loading

open Loading (SameTables)

namespace Environment

variable {env : Environment} {l l' : Loading} {e : XMLElement}

/-! ## What the loader of a server leaves alone -/

theorem endpointEvent_tables {kind : ReaderWriter} {guid : Guid}
    {creationEvent : Option EventPtr} {event : DelayedEndpointCreation}
    (h : env.endpointEvent kind l guid e creationEvent = .ok (l', event)) : SameTables l l' := by
  unfold endpointEvent at h
  have htopics := SameTables.of_noted (noted_topicDescription l (e.attributeValue "topic"))
  cases htopic : e.attributeValue "topic" with
  | none =>
    rw [htopic] at h
    cases h
  | some topic =>
    rw [htopic] at h htopics
    dsimp only at h
    split_ifs at h
    · cases h
      exact htopics.trans (.of_eq rfl rfl)
    · cases h
      exact htopics

theorem loadEndpoint_tables {kind : ReaderWriter} {guid : Guid}
    {creationEvent : Option EventPtr}
    (h : env.loadEndpoint kind l guid e creationEvent = .ok l') : SameTables l l' := by
  unfold loadEndpoint at h
  obtain ⟨⟨l₁, event⟩, hevent, h⟩ := bind_eq_ok.mp h
  refine (endpointEvent_tables hevent).trans ?_
  dsimp only at h
  split_ifs at h
  · cases hrun : event.execute (env.reply l₁.world (.endpointCreation event)) l₁.world with
    | none =>
      rw [hrun] at h
      cases h
    | some w =>
      rw [hrun] at h
      cases h
      exact .of_eq rfl rfl
  · cases h
    exact .of_eq rfl rfl

theorem createServer_tables {event : DelayedParticipantCreation}
    (h : env.createServer l event = .ok l') : SameTables l l' := by
  unfold createServer at h
  split_ifs at h
  · cases hrun : env.createNow l event with
    | error fault =>
      rw [hrun] at h
      cases h
    | ok result =>
      obtain ⟨l₁, guid⟩ := result
      obtain ⟨_, w, _, rfl⟩ := createNow_spec hrun
      rw [hrun] at h
      cases h
      exact .of_eq rfl rfl
  · cases h
    exact .of_eq rfl rfl

theorem scheduleServer_tables {qos : DomainParticipantQos}
    (h : env.scheduleServer l e qos = .ok l') : SameTables l l' := by
  unfold scheduleServer at h
  obtain ⟨l₁, hcreate, h⟩ := bind_eq_ok.mp h
  refine (createServer_tables hcreate).trans ?_
  split_ifs at h
  · cases h
    exact .of_eq rfl rfl
  · cases h
    exact .refl _

/-- Reading the locators of a GUID leaves an empty entry where there was none. -/
theorem touch_tables (l : Loading) (g : Guid) :
    SameTables l { l with serverLocators := l.serverLocators.touch g ([], []) } := by
  refine ⟨rfl, fun g' => ?_⟩
  unfold Loading.locatorsOf
  dsimp only
  rw [OrdMap.get?_touch]
  split_ifs with hg
  · rw [hg]
    rfl
  · rfl

theorem acceptServer_tables (env : Environment) (l : Loading) (server : XMLElement) :
    SameTables l (env.acceptServer l server).1 := by
  have hqos := SameTables.of_noted (env.noted_serverQos l server)
  unfold acceptServer
  cases hresult : env.serverQos l server with
  | mk l₁ qos =>
    rw [hresult] at hqos
    cases qos with
    | none => exact hqos
    | some qos =>
      dsimp only
      split_ifs
      · exact hqos.trans (.of_eq rfl rfl)
      · exact hqos.trans ((touch_tables l₁ _).trans
          (.of_noted (Loading.noted_disableSharedMemory _ _)))
      · exact hqos.trans ((touch_tables l₁ _).trans
          (.of_noted (Loading.noted_disableSharedMemory _ _)))

/-- **The second pass** leaves the profiles and the mapped locators alone. -/
theorem tables_rule (env : Environment) : ServerRule env SameTables where
  refl := SameTables.refl
  trans := .trans
  accept := env.acceptServer_tables
  schedule := scheduleServer_tables
  endpoint := loadEndpoint_tables

/-! ## What the first pass maps -/

/-- The profile of a server. -/
def ownProfile (env : Environment) (profiles : List XMLElement) (server : XMLElement) :
    Option DomainParticipantQos :=
  match server.attributeValue "profile_name" with
  | none => none
  | some profileName => if profileName = "" then none else env.participantQos profiles profileName

/-- The prefix `MapServerInfo` maps a server with that profile under. -/
def mappedPrefix (env : Environment) (server : XMLElement) (qos : DomainParticipantQos) :
    GuidPrefix :=
  match server.attributeValue "prefix" with
  | some cprefix => (env.readPrefix cprefix 0).1
  | none => qos.guidPrefix

/-- The locators `MapServerInfo` maps under a GUID for a server, if it maps any there. -/
def mapped (env : Environment) (profiles : List XMLElement) (g : Guid) (server : XMLElement) :
    Option (List Locator × List Locator) :=
  (env.ownProfile profiles server).bind fun qos =>
    if env.mappedPrefix server qos ≠ 0 ∧ g = .ofPrefix (env.mappedPrefix server qos) then
      some qos.locators
    else none

/-- The locators under a GUID after the first pass: those of the last element mapped
there. -/
def lastMapped (env : Environment) (l : Loading) (servers : List XMLElement) (g : Guid) :
    List Locator × List Locator :=
  (servers.filterMap (env.mapped l.profiles g)).getLast?.getD (l.locatorsOf g)

theorem mapServerInfo_spec (h : env.mapServerInfo l e = .ok l') :
    l'.profiles = l.profiles ∧
      ∀ g, l'.locatorsOf g = (env.mapped l.profiles g e).getD (l.locatorsOf g) := by
  unfold mapServerInfo at h
  unfold mapped ownProfile mappedPrefix
  cases hprofile : e.attributeValue "profile_name" with
  | none =>
    rw [hprofile] at h
    cases h
  | some profileName =>
    rw [hprofile] at h
    dsimp only at h ⊢
    by_cases hempty : profileName = ""
    · rw [if_pos hempty] at h
      cases h
      exact ⟨rfl, fun g => by rw [if_pos hempty]; rfl⟩
    · rw [if_neg hempty] at h ⊢
      cases hqos : env.participantQos l.profiles profileName with
      | none =>
        rw [hqos] at h
        cases h
        exact ⟨rfl, fun g => rfl⟩
      | some qos =>
        rw [hqos] at h
        dsimp only at h
        split_ifs at h with hzero
        · cases h
          refine ⟨rfl, fun g => ?_⟩
          rw [Option.bind_some, if_neg fun hmapped => hmapped.1 hzero]
          rfl
        · cases h
          refine ⟨rfl, fun g => ?_⟩
          rw [Option.bind_some]
          unfold Loading.locatorsOf
          dsimp only
          rw [OrdMap.get?_set]
          split_ifs with hg hmapped hmapped
          · rfl
          · exact absurd ⟨hzero, hg⟩ hmapped
          · exact absurd hmapped.2 hg
          · rfl

/-- **The first pass.** -/
theorem foldlM_mapServerInfo {servers : List XMLElement}
    (h : servers.foldlM (fun l server => Stop.lift (env.mapServerInfo l server)) l = .ok l') :
    l'.profiles = l.profiles ∧ ∀ g, l'.locatorsOf g = env.lastMapped l servers g := by
  induction servers generalizing l with
  | nil =>
    cases h
    exact ⟨rfl, fun _ => rfl⟩
  | cons e servers ih =>
    rw [List.foldlM_cons] at h
    obtain ⟨l₁, hmap, h⟩ := bind_eq_ok.mp h
    obtain ⟨hprofiles, hlocators⟩ := mapServerInfo_spec (Stop.lift_eq_ok.mp hmap)
    obtain ⟨hrest, hlast⟩ := ih h
    refine ⟨hrest.trans hprofiles, fun g => ?_⟩
    rw [hlast]
    unfold lastMapped
    rw [hprofiles, hlocators, List.filterMap_cons]
    cases env.mapped l.profiles g e with
    | none => rfl
    | some lists =>
      dsimp only
      rw [List.getLast?_cons]
      rfl

/-! ## What the second pass reads back -/

theorem locators_disableSharedMemory (l : Loading) (qos : DomainParticipantQos) :
    (l.disableSharedMemory qos).2.locators = qos.locators := by
  unfold Loading.disableSharedMemory
  split_ifs
  · rfl
  · rfl

theorem serverQos_locators {qos : DomainParticipantQos}
    (h : env.serverQos l e = (l', some qos)) :
    ∃ own, env.ownProfile l.profiles e = some own ∧ qos.locators = own.locators := by
  unfold serverQos at h
  unfold ownProfile
  cases hprofile : e.attributeValue "profile_name" with
  | none =>
    rw [hprofile] at h
    cases h
  | some profileName =>
    rw [hprofile] at h
    dsimp only at h ⊢
    by_cases hempty : profileName = ""
    · rw [if_pos hempty] at h
      cases h
    · rw [if_neg hempty] at h ⊢
      cases hqos : env.participantQos l.profiles profileName with
      | none =>
        rw [hqos] at h
        cases h
      | some own =>
        refine ⟨own, rfl, ?_⟩
        rw [hqos] at h
        dsimp only at h
        cases hpref : e.attributeValue "prefix" with
        | none =>
          rw [hpref] at h
          cases h
          rfl
        | some cprefix =>
          rw [hpref] at h
          dsimp only at h
          split_ifs at h
          · cases h
          · obtain ⟨_, hsame⟩ := Prod.mk.inj h
            rw [← Option.some.inj hsame]
            rfl

/-- Lists that are mapped take precedence over those of the profile. -/
theorem locators_replace (qos : DomainParticipantQos) (lists : List Locator × List Locator) :
    (if lists.1 ≠ [] ∨ lists.2 ≠ [] then
        { qos with
          metatrafficMulticastLocatorList := lists.1
          metatrafficUnicastLocatorList := lists.2 }
      else qos).locators = (if lists = ([], []) then qos.locators else lists) ∧
    (if lists.1 ≠ [] ∨ lists.2 ≠ [] then
        { qos with
          metatrafficMulticastLocatorList := lists.1
          metatrafficUnicastLocatorList := lists.2 }
      else qos).guidPrefix = qos.guidPrefix := by
  obtain ⟨multicast, unicast⟩ := lists
  have hempty : (multicast ≠ [] ∨ unicast ≠ []) ↔ ¬ (multicast, unicast) = ([], []) := by
    rw [Prod.mk.injEq, not_and_or]
  by_cases hlists : (multicast, unicast) = ([], [])
  · rw [if_pos hlists, if_neg fun h => hempty.mp h hlists]
    exact ⟨rfl, rfl⟩
  · rw [if_neg hlists, if_pos (hempty.mpr hlists)]
    exact ⟨rfl, rfl⟩

/-- An accepted server has the locators that are mapped under its GUID, or those of
its profile where none are. -/
theorem acceptServer_locators {qos : DomainParticipantQos}
    (h : env.acceptServer l e = (l', some qos)) :
    ∃ own, env.ownProfile l.profiles e = some own ∧
      qos.locators =
        if l.locatorsOf (.ofPrefix qos.guidPrefix) = ([], []) then own.locators
        else l.locatorsOf (.ofPrefix qos.guidPrefix) := by
  have htables := SameTables.of_noted (env.noted_serverQos l e)
  unfold acceptServer at h
  cases hfound : env.serverQos l e with
  | mk l₀ found =>
    rw [hfound] at h htables
    cases found with
    | none => cases h
    | some qos₀ =>
      obtain ⟨own, hown, hlocators⟩ := serverQos_locators hfound
      refine ⟨own, hown, ?_⟩
      dsimp only at h
      by_cases hused : l₀.enablePrefixValidation ∧
          (l₀.manager.servers.get? (.ofPrefix qos₀.guidPrefix)).isSome
      · rw [if_pos hused] at h
        cases h
      · rw [if_neg hused] at h
        obtain ⟨hlists, hpref⟩ :=
          locators_replace qos₀ (l₀.locatorsOf (.ofPrefix qos₀.guidPrefix))
        have hsame := Option.some.inj (Prod.mk.inj h).2
        have hguid : qos.guidPrefix = qos₀.guidPrefix := by
          rw [← hsame]
          exact (Loading.guidPrefix_disableSharedMemory _ _).trans hpref
        rw [hguid, ← htables.locators, ← hlocators, ← hsame]
        exact (locators_disableSharedMemory _ _).trans hlists

end Environment

/-- A server element that the second pass over the servers accepts, after the first one. -/
structure AcceptedServer (env : Environment) (l : Loading) (servers : List XMLElement) where
  mapped : Loading
  maps : servers.foldlM (fun l server => Stop.lift (env.mapServerInfo l server)) l = .ok mapped
  element : XMLElement
  start : Loading
  reaches : Reaches (fun l server => Stop.lift (env.loadServer l server)) mapped servers element
    start
  accepted : Loading
  qos : DomainParticipantQos
  accepts : env.acceptServer start element = (accepted, some qos)

/-- **When the passes agree.** A server has the locators of its own profile exactly if
the last element mapped under its GUID brings these or none. -/
theorem ownLocators_iff {env : Environment} {l : Loading} {servers : List XMLElement}
    (x : AcceptedServer env l servers) :
    ∃ own, env.ownProfile l.profiles x.element = some own ∧
      (x.qos.locators = own.locators ↔
        env.lastMapped l servers (.ofPrefix x.qos.guidPrefix) = ([], []) ∨
          env.lastMapped l servers (.ofPrefix x.qos.guidPrefix) = own.locators) := by
  obtain ⟨hprofiles, hmapped⟩ := Environment.foldlM_mapServerInfo x.maps
  have htables : SameTables x.mapped x.start :=
    x.reaches.relation SameTables.refl fun _ _ _ _ hload hrest =>
      ((Environment.tables_rule env).server (Stop.lift_eq_ok.mp hload)).trans hrest
  obtain ⟨own, hown, hlocators⟩ := Environment.acceptServer_locators x.accepts
  rw [htables.profiles, hprofiles] at hown
  rw [htables.locators, hmapped] at hlocators
  refine ⟨own, hown, ?_⟩
  rw [hlocators]
  split_ifs with hnone
  · exact iff_of_true rfl (.inl hnone)
  · exact (or_iff_right hnone).symm

/-- Two profiles with one prefix, each with a locator of its own. -/
def twinEnvironment : Environment where
  __ := sampleEnvironment
  participantQos _ profileName :=
    if profileName = "server" then
      some { name := "server", guidPrefix := 1, discoveryProtocol := .server
             metatrafficUnicastLocatorList := [⟨1, 11811, 1⟩] }
    else if profileName = "twin" then
      some { name := "twin", guidPrefix := 1, discoveryProtocol := .server
             metatrafficUnicastLocatorList := [⟨1, 11812, 1⟩] }
    else none

/-- A server, and an element whose profile is not found. -/
def oneProfile : List XMLElement :=
  [⟨"server", [("profile_name", "server")], none, []⟩,
    ⟨"server", [("profile_name", "nobody")], none, []⟩]

theorem exists_oneProfile : ∃ x : AcceptedServer twinEnvironment
    (twinEnvironment.initial false (.new "DS") (.initial 0 0 0)) oneProfile,
      x.element = ⟨"server", [("profile_name", "server")], none, []⟩ ∧ x.qos.guidPrefix = 1 :=
  ⟨{ mapped := _
     maps := rfl
     element := ⟨"server", [("profile_name", "server")], none, []⟩
     start := _
     reaches := ⟨[], _, rfl, rfl⟩
     accepted := _
     qos := _
     accepts := rfl }, rfl, rfl⟩

theorem ownLocators_iff_sample : ∃ (x : AcceptedServer twinEnvironment
    (twinEnvironment.initial false (.new "DS") (.initial 0 0 0)) oneProfile)
      (own : DomainParticipantQos), twinEnvironment.ownProfile [] x.element = some own ∧
        x.qos.locators = own.locators ∧ own.locators ≠ ([], []) := by
  obtain ⟨x, helement, howner⟩ := exists_oneProfile
  obtain ⟨own, hown, hiff⟩ := ownLocators_iff x
  have hown : twinEnvironment.ownProfile [] x.element = some own := hown
  rw [howner] at hiff
  refine ⟨x, own, hown, ?_⟩
  rw [helement] at hown
  cases hown
  exact ⟨hiff.mpr (.inr rfl), by decide⟩

/-- The second element is refused for its prefix, but its locators are those the first
one is created with. -/
theorem twin_overrides_locators : ¬ ∀ (env : Environment) (l : Loading)
    (servers : List XMLElement) (x : AcceptedServer env l servers),
      ∀ own ∈ env.ownProfile l.profiles x.element, x.qos.locators = own.locators := by
  intro h
  have hown := h twinEnvironment (twinEnvironment.initial false (.new "DS") (.initial 0 0 0))
    [⟨"server", [("profile_name", "server")], none, []⟩,
      ⟨"server", [("profile_name", "twin")], none, []⟩]
    { mapped := _
      maps := rfl
      element := ⟨"server", [("profile_name", "server")], none, []⟩
      start := _
      reaches := ⟨[], _, rfl, rfl⟩
      accepted := _
      qos := _
      accepts := rfl } _ rfl
  exact absurd hown (by decide)

end DiscoveryServer
