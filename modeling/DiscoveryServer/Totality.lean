import DiscoveryServer.LoadSteps

/-!
# Where loading a configuration is defined

The constructor builds strings from attributes and texts that need not be there, and
converts a listening port that need not be a number. `Environment.Complete` says what
an element has to have so that its loader gets to its end; `loading_finishes_iff` says
that the constructor finishes exactly if every element it gets to has that.

Objects are never null: as long as Fast DDS creates what it is asked for, everybody who
is known has a publisher and a subscriber (`Equipped`).
-/

namespace DiscoveryServer

open Library

/-- Fast DDS creates what it is asked for, and gives every participant a GUID. -/
structure Environment.Creates (env : Environment) : Prop where
  participant : ∀ w event, ∃ guid, guid ≠ Guid.unknown ∧
    (env.reply w (.participantCreation event)).participant = some guid
  publisher : ∀ w event, (env.reply w (.participantCreation event)).publisher = true
  subscriber : ∀ w event, (env.reply w (.participantCreation event)).subscriber = true

/-- Everybody who is filed is known and has a publisher and a subscriber, nobody has
the GUID of nobody, and no participant creation that is scheduled has been executed. -/
structure Equipped (w : World) : Prop where
  pubSub : ∀ g, (w.manager.holdings.participant g).isSome →
    ∀ k, (w.manager.holdings.pubSub k g).isSome
  known : ∀ r g, (w.manager.holdings.filed r g).isSome → (w.manager.holdings.participant g).isSome
  unknown : w.manager.holdings.participant .unknown = none
  fresh : ∀ event ∈ w.manager.events, event.Fresh

namespace Equipped

variable {env : Environment} {w w' : World}

theorem initial (steadyClock now now' : TimePoint) :
    Equipped (.initial steadyClock now now') where
  pubSub g h := by cases h
  known r g h := by cases r <;> cases h
  unknown := rfl
  fresh := List.forall_mem_nil _

/-- Writing a GUID does not make a participant creation an executed one. -/
theorem fresh_setGuid {m : DiscoveryServerManager} (h : ∀ event ∈ m.events, event.Fresh)
    (p : Option EventPtr) (id : Guid) : ∀ event ∈ (m.setGuid p id).events, event.Fresh := by
  cases p with
  | none => exact h
  | some ptr =>
    intro event hevent
    obtain ⟨i, hi⟩ := List.mem_iff_getElem?.mp hevent
    have hmodify : (m.events.modify ptr (LateJoinerData.setGuid id))[i]? = some event := hi
    rw [List.getElem?_modify] at hmodify
    obtain ⟨e, he, heq⟩ := Option.map_eq_some_iff.mp hmodify
    have hfresh := h e (List.mem_of_getElem? he)
    by_cases hptr : ptr = i
    · rw [if_pos hptr] at heq
      unfold LateJoinerData.Fresh
      rw [← heq, LateJoinerData.participantGuid?_setGuid]
      exact hfresh
    · rw [if_neg hptr] at heq
      rw [← heq]
      exact hfresh

/-- A participant the loader creates itself. -/
theorem step_participant (hcreates : env.Creates) (h : Equipped w)
    {event : DelayedParticipantCreation}
    (hrun : event.execute w.manager.events.length (env.reply w (.participantCreation event)) w =
      some w') : Equipped w' := by
  obtain ⟨guid, p, hguid, hp, _, _, hholdings, hevents, _⟩ := World.participantCreation_spec hrun
  obtain ⟨guid', hne, hguid'⟩ := hcreates.participant w event
  rw [hguid] at hguid'
  cases hguid'
  have hpguid : p.guid = guid := by rw [hp]
  refine ⟨?_, ?_, ?_, ?_⟩
  · rw [hholdings]
    intro g hg k
    show (if g = p.guid then _ else _ : Option PubSub).isSome
    have hg : (if g = p.guid then some p else w.manager.holdings.participant g).isSome := hg
    split_ifs at hg ⊢ with heq
    · cases k with
      | dataReader =>
        show (if (env.reply w (.participantCreation event)).subscriber then _ else _ :
          Option PubSub).isSome
        rw [hcreates.subscriber]
        rfl
      | dataWriter =>
        show (if (env.reply w (.participantCreation event)).publisher then _ else _ :
          Option PubSub).isSome
        rw [hcreates.publisher]
        rfl
    · exact h.pubSub g hg k
  · rw [hholdings]
    intro r g hg
    show (if g = p.guid then some p else w.manager.holdings.participant g).isSome
    have hg : (if r = _ ∧ g = p.guid then some p else w.manager.holdings.filed r g).isSome := hg
    by_cases heq : g = p.guid
    · rw [if_pos heq]
      rfl
    · rw [if_neg fun hc => heq hc.2] at hg
      rw [if_neg heq]
      exact h.known r g hg
  · rw [hholdings]
    show (if Guid.unknown = p.guid then some p else w.manager.holdings.participant .unknown) = none
    rw [if_neg fun heq => hne (hpguid.symm.trans heq.symm)]
    exact h.unknown
  · rw [hevents]
    refine fresh_setGuid ?_ _ _
    -- the event that is executed is not one of those that are scheduled
    have hsame : (w.manager.modifyEvent w.manager.events.length fun _ =>
        .participantCreation { event with participantGuid := guid }).events = w.manager.events :=
      List.modify_eq_self le_rfl
    rw [hsame]
    exact h.fresh

/-- **One step of a loader.** -/
theorem step (hcreates : env.Creates) (h : Equipped w) (hstep : LoadStep env w w') :
    Equipped w' := by
  cases hstep with
  | pushBack hfresh =>
    refine ⟨h.pubSub, h.known, h.unknown, fun event hevent => ?_⟩
    rcases List.mem_append.mp hevent with hevent | hevent
    · exact h.fresh event hevent
    · rw [List.mem_singleton.mp hevent]
      exact hfresh
  | settings autoShutdown validate file => exact ⟨h.pubSub, h.known, h.unknown, h.fresh⟩
  | endpoint hrun =>
    obtain ⟨hfiled, hparticipant, hpubSub⟩ := World.holdings_endpointCreation hrun
    obtain ⟨_, _, _, link, guid, _, hmanager⟩ := World.endpointCreation_frame hrun
    refine ⟨?_, ?_, ?_, ?_⟩
    · rw [hparticipant, hpubSub]
      exact h.pubSub
    · rw [hfiled, hparticipant]
      exact h.known
    · rw [hparticipant]
      exact h.unknown
    · rw [hmanager]
      exact fresh_setGuid h.fresh link guid
  | participant hrun => exact step_participant hcreates h hrun

theorem steps (hcreates : env.Creates) (h : Equipped w) (hsteps : LoadSteps env w w') :
    Equipped w' := by
  induction hsteps with
  | refl => exact h
  | tail _ hstep ih => exact ih.step hcreates hstep

/-- A participant that is found for an endpoint has a publisher and a subscriber: the
owner of a scheduled endpoint has no GUID yet, so it is found under the GUID the
endpoint is loaded with. -/
theorem execute_endpointCreation (h : Equipped w) (event : DelayedEndpointCreation)
    (reply : Reply) : event.execute reply w ≠ none := by
  intro hnone
  obtain ⟨hpart, hpubSub⟩ := World.endpointCreation_eq_none hnone
  have hread : (w.manager.readInfo event.participantGuid).getParticipant .unknown = none := by
    have hholdings := DiscoveryServerManager.holdings_readInfo w.manager event.participantGuid
    rw [DiscoveryServerManager.getParticipant_eq (by rw [hholdings]; exact h.known), hholdings]
    exact h.unknown
  have hsome : (w.manager.holdings.participant event.participantGuid).isSome := by
    rw [← DiscoveryServerManager.getParticipant_eq h.known]
    unfold DelayedEndpointCreation.part at hpart
    cases hdirect : w.manager.getParticipant event.participantGuid with
    | some p => rfl
    | none =>
      rw [hdirect] at hpart
      exfalso
      cases howner : event.ownerEvent with
      | none =>
        rw [howner] at hpart
        cases hpart
      | some owner =>
        rw [howner] at hpart
        obtain ⟨p, hp⟩ := Option.isSome_iff_exists.mp hpart
        obtain ⟨g, hg, hfound⟩ := Option.bind_eq_some_iff.mp hp
        obtain ⟨e, he, hguid⟩ := Option.bind_eq_some_iff.mp hg
        rw [h.fresh e (List.mem_of_getElem? he) g hguid, hread] at hfound
        cases hfound
  have hpub := h.pubSub _ hsome event.kind
  have hnone : w.manager.holdings.pubSub event.kind event.participantGuid = none := hpubSub
  rw [hnone] at hpub
  cases hpub

end Equipped

/-! ## What an element has to have -/

/-- Every publisher and subscriber of a participant names its topic. -/
def EndpointsNamed (participant : XMLElement) : Prop :=
  ∀ c ∈ Environment.endpointElements participant, (c.2.attributeValue "topic").isSome

namespace Environment

variable (env : Environment)

/-- The profile of a client: there, loaded and of a client. -/
def ClientProfile (l : Loading) (client : XMLElement) (qos : DomainParticipantQos) : Prop :=
  ∃ profileName, client.attributeValue "profile_name" = some profileName ∧
    env.participantQos l.profiles profileName = some qos ∧
      (qos.discoveryProtocol = .client ∨ qos.discoveryProtocol = .superClient)

/-- What an item needs for its loader to get to its end. -/
def Complete (l : Loading) : ConfigItem → Prop
  | .locators server => (server.attributeValue "profile_name").isSome
  | .server e => (env.acceptServer l e).2.isSome → EndpointsNamed e
  | .client e => (∃ qos, env.ClientProfile l e qos) →
    match (e.attributeValue "listening_port").map Ipv4RegularExpression.regexMatch with
    | none => EndpointsNamed e
    | some none => True -- an invalid listening port
    | some (some groups) => (stol groups.2).isSome ∧ EndpointsNamed e
  | .simple e => (env.acceptSimple l e).2.isSome → EndpointsNamed e
  | .snapshot e => (e.attributeValue "time").isSome → e.getText.isSome
  | .change e =>
    (e.attributeValue "time").isSome → (e.attributeValue "key").isSome → e.getText.isSome
  | _ => True

variable {env} {l l' : Loading} {e : XMLElement}

/-! ## The loaders -/

theorem createNow_isOk (hcreates : env.Creates) (l : Loading) (event : DelayedParticipantCreation) :
    ∃ result, env.createNow l event = .ok result := by
  obtain ⟨guid, _, hguid⟩ := hcreates.participant l.world event
  unfold createNow DelayedParticipantCreation.execute
  simp only [hguid]
  exact ⟨_, rfl⟩

/-- The creation event of an endpoint needs its topic only. -/
theorem endpointEvent_isOk_iff {kind : ReaderWriter} {guid : Guid}
    {creationEvent : Option EventPtr} :
    (∃ result, env.endpointEvent kind l guid e creationEvent = .ok result) ↔
      (e.attributeValue "topic").isSome := by
  unfold endpointEvent
  cases e.attributeValue "topic" with
  | none => simp
  | some topic => simp

theorem loadEndpoint_isOk_iff (h : Equipped l.world) {kind : ReaderWriter}
    {guid : Guid} {creationEvent : Option EventPtr} (hcreates : env.Creates) :
    (∃ l', env.loadEndpoint kind l guid e creationEvent = .ok l') ↔
      (e.attributeValue "topic").isSome := by
  have htopic : (∃ result, env.endpointEvent kind l guid e creationEvent = .ok result) ↔
      (e.attributeValue "topic").isSome := endpointEvent_isOk_iff
  rw [← htopic]
  unfold loadEndpoint
  constructor
  · rintro ⟨l', hl'⟩
    obtain ⟨result, hresult, _⟩ := bind_eq_ok.mp hl'
    exact ⟨result, hresult⟩
  · rintro ⟨⟨l₁, event⟩, hevent⟩
    have hequipped := h.steps hcreates (endpointEvent_spec hevent).1.loads.steps
    rw [hevent]
    show ∃ l', (if event.time = l₁.getTime then _ else _) = _
    split_ifs with hnow
    · cases hrun : event.execute (env.reply l₁.world (.endpointCreation event)) l₁.world with
      | none => exact absurd hrun (hequipped.execute_endpointCreation event _)
      | some w => exact ⟨_, rfl⟩
    · exact ⟨_, rfl⟩

/-- Endpoints that are loaded one after the other. -/
theorem foldlM_loadEndpoint_isOk_iff (hcreates : env.Creates) (h : Equipped l.world) {guid : Guid}
    {creationEvent : Option EventPtr} (cs : List (ReaderWriter × XMLElement)) :
    (∃ l', cs.foldlM (fun l c => env.loadEndpoint c.1 l guid c.2 creationEvent) l = .ok l') ↔
      ∀ c ∈ cs, (c.2.attributeValue "topic").isSome := by
  induction cs generalizing l with
  | nil => simp [pure, Except.pure]
  | cons c rest ih =>
    have hfirst : (∃ l', env.loadEndpoint c.1 l guid c.2 creationEvent = .ok l') ↔
        (c.2.attributeValue "topic").isSome := loadEndpoint_isOk_iff h hcreates
    rw [List.foldlM_cons, List.forall_mem_cons, ← hfirst]
    constructor
    · rintro ⟨l', hl'⟩
      obtain ⟨l₁, hl₁, hl'⟩ := bind_eq_ok.mp hl'
      exact ⟨⟨l₁, hl₁⟩, (ih (h.steps hcreates (loadEndpoint_loads hl₁).steps)).mp ⟨l', hl'⟩⟩
    · rintro ⟨⟨l₁, hl₁⟩, hrest⟩
      obtain ⟨l', hl'⟩ := (ih (h.steps hcreates (loadEndpoint_loads hl₁).steps)).mpr hrest
      exact ⟨l', bind_eq_ok.mpr ⟨l₁, hl₁, hl'⟩⟩

theorem loadEndpoints_isOk_iff (hcreates : env.Creates) (h : Equipped l.world) {guid : Guid}
    {creationEvent : Option EventPtr} :
    (∃ l', env.loadEndpoints l guid e creationEvent = .ok l') ↔ EndpointsNamed e := by
  rw [loadEndpoints_eq]
  exact foldlM_loadEndpoint_isOk_iff hcreates h (endpointElements e)

theorem scheduleServer_isOk (hcreates : env.Creates) (l : Loading) (e : XMLElement)
    (qos : DomainParticipantQos) : ∃ l', env.scheduleServer l e qos = .ok l' := by
  have hcreate : ∀ event, ∃ l', env.createServer l event = .ok l' := by
    intro event
    unfold createServer
    split_ifs
    · obtain ⟨result, hresult⟩ := createNow_isOk hcreates l event
      rw [hresult]
      exact ⟨_, rfl⟩
    · exact ⟨_, rfl⟩
  obtain ⟨l', hl'⟩ := hcreate ⟨(env.times l e).1, qos, .server, none, .unknown⟩
  unfold scheduleServer
  dsimp only
  rw [hl']
  show ∃ l₁, (if (env.times l e).2 ≠ l'.getTime then _ else _ : Except Fault Loading) = .ok l₁
  split_ifs
  · exact ⟨_, rfl⟩
  · exact ⟨_, rfl⟩

theorem scheduleParticipant_isOk (hcreates : env.Creates) (role : ParticipantRole) (l : Loading)
    (e : XMLElement) (qos : DomainParticipantQos) :
    ∃ result, env.scheduleParticipant role l e qos = .ok result := by
  unfold scheduleParticipant
  dsimp only
  split_ifs with hremoval hnow hnow
  · obtain ⟨result, hresult⟩ := createNow_isOk hcreates
      (l.pushBack (.participantDestruction ⟨(env.times l e).2, .ofPrefix qos.guidPrefix⟩))
      ⟨(env.times l e).1, qos, role, some l.manager.events.length, .unknown⟩
    rw [hresult]
    exact ⟨_, rfl⟩
  · exact ⟨_, rfl⟩
  · obtain ⟨result, hresult⟩ := createNow_isOk hcreates l
      ⟨(env.times l e).1, qos, role, none, .unknown⟩
    rw [hresult]
    exact ⟨_, rfl⟩
  · exact ⟨_, rfl⟩

theorem loadServer_isOk_iff (hcreates : env.Creates) (h : Equipped l.world) :
    (∃ l', env.loadServer l e = .ok l') ↔
      ((env.acceptServer l e).2.isSome → EndpointsNamed e) := by
  have hcore := core_acceptServer env l e
  unfold loadServer
  cases haccept : env.acceptServer l e with
  | mk l₁ qos =>
    rw [haccept] at hcore
    have hequipped := h.steps hcreates (Loads.of_core hcore).steps
    cases qos with
    | none => simp
    | some qos =>
      obtain ⟨l₂, hl₂⟩ := scheduleServer_isOk hcreates l₁ e qos
      have hequipped : Equipped l₂.world :=
        hequipped.steps hcreates (scheduleServer_loads hl₂).steps
      simp only [Option.isSome_some, true_implies]
      have hendpoints : (∃ l', env.loadEndpoints l₂ (.ofPrefix qos.guidPrefix) e none = .ok l') ↔
          EndpointsNamed e := loadEndpoints_isOk_iff hcreates hequipped
      rw [← hendpoints, hl₂]
      rfl

/-- The endpoints of a client or simple participant whose QoS is accepted. -/
theorem scheduled_isOk_iff (hcreates : env.Creates) (h : Equipped l.world) (role : ParticipantRole)
    (qos : DomainParticipantQos) :
    (∃ l', (do
      let (l, guid, creationEvent) ← env.scheduleParticipant role l e qos
      env.loadEndpoints l guid e creationEvent) = .ok l') ↔ EndpointsNamed e := by
  obtain ⟨⟨l₂, guid, creationEvent⟩, hl₂⟩ := scheduleParticipant_isOk hcreates role l e qos
  have hendpoints : (∃ l', env.loadEndpoints l₂ guid e creationEvent = .ok l') ↔
      EndpointsNamed e :=
    loadEndpoints_isOk_iff hcreates (h.steps hcreates (scheduleParticipant_loads hl₂).steps)
  rw [← hendpoints, hl₂]
  rfl

theorem loadSimple_isOk_iff (hcreates : env.Creates) (h : Equipped l.world) :
    (∃ l', env.loadSimple l e = .ok l') ↔
      ((env.acceptSimple l e).2.isSome → EndpointsNamed e) := by
  have hcore := core_acceptSimple env l e
  unfold loadSimple
  cases haccept : env.acceptSimple l e with
  | mk l₁ qos =>
    rw [haccept] at hcore
    have hequipped := h.steps hcreates (Loads.of_core hcore).steps
    cases qos with
    | none => simp
    | some qos =>
      simp only [Option.isSome_some, true_implies]
      exact scheduled_isOk_iff hcreates hequipped .simple qos

theorem acceptClient_of_profile {qos : DomainParticipantQos} (h : env.ClientProfile l e qos) :
    env.acceptClient l e =
      match env.listen l e (qos.setName (e.attributeValue "name")) with
      | .error fault => .error fault
      | .ok (l, none) => .ok (l, none)
      | .ok (l, some qos) =>
        .ok ((l.disableSharedMemory qos).1, some (l.disableSharedMemory qos).2) := by
  obtain ⟨profileName, hname, hqos, hprotocol⟩ := h
  unfold acceptClient
  rw [hname]
  dsimp only
  rw [hqos]
  dsimp only
  have hclient : ¬ (qos.discoveryProtocol ≠ .client ∧ qos.discoveryProtocol ≠ .superClient) := by
    rw [not_and_or, not_not, not_not]
    exact hprotocol
  exact if_neg hclient

theorem acceptClient_of_no_profile (h : ¬ ∃ qos, env.ClientProfile l e qos) :
    ∃ l₁, env.acceptClient l e = .ok (l₁, none) := by
  unfold acceptClient
  cases hname : e.attributeValue "profile_name" with
  | none => exact ⟨_, rfl⟩
  | some profileName =>
    dsimp only
    cases hqos : env.participantQos l.profiles profileName with
    | none => exact ⟨_, rfl⟩
    | some qos =>
      dsimp only
      by_cases hprotocol : qos.discoveryProtocol ≠ .client ∧ qos.discoveryProtocol ≠ .superClient
      · rw [if_pos hprotocol]
        exact ⟨_, rfl⟩
      · refine absurd ⟨qos, profileName, hname, hqos, ?_⟩ h
        rw [not_and_or, not_not, not_not] at hprotocol
        exact hprotocol

theorem loadClient_isOk_iff (hcreates : env.Creates) (h : Equipped l.world) :
    (∃ l', env.loadClient l e = .ok l') ↔ env.Complete l (.client e) := by
  by_cases hprofile : ∃ qos, env.ClientProfile l e qos
  · obtain ⟨qos, hqos⟩ := hprofile
    have haccept := acceptClient_of_profile hqos
    have hcomplete : env.Complete l (.client e) ↔
        match (e.attributeValue "listening_port").map Ipv4RegularExpression.regexMatch with
        | none => EndpointsNamed e
        | some none => True
        | some (some groups) => (stol groups.2).isSome ∧ EndpointsNamed e := by
      unfold Complete
      exact imp_iff_right ⟨qos, hqos⟩
    rw [hcomplete]
    -- what is left of the loader once the client is accepted
    have hgo : ∀ {l₁ : Loading} {qos₁ : DomainParticipantQos},
        env.acceptClient l e = .ok (l₁, some qos₁) →
          ((∃ l', env.loadClient l e = .ok l') ↔ EndpointsNamed e) := by
      intro l₁ qos₁ hl₁
      have hequipped := h.steps hcreates (Loads.of_core (core_acceptClient hl₁)).steps
      unfold loadClient
      rw [hl₁]
      exact scheduled_isOk_iff hcreates hequipped .client qos₁
    unfold listen at haccept
    cases hport : e.attributeValue "listening_port" with
    | none =>
      rw [hport] at haccept
      exact hgo haccept
    | some lp =>
      rw [hport] at haccept
      dsimp only [Option.map_some] at haccept ⊢
      cases hmatch : Ipv4RegularExpression.regexMatch lp with
      | none =>
        rw [hmatch] at haccept
        unfold loadClient
        rw [haccept]
        exact iff_of_true ⟨_, rfl⟩ trivial
      | some groups =>
        rw [hmatch] at haccept
        dsimp only at haccept ⊢
        cases hstol : stol groups.2 with
        | none =>
          rw [hstol] at haccept
          unfold loadClient
          rw [haccept]
          refine iff_of_false ?_ fun hsome => nomatch hsome.1
          rintro ⟨l', hl'⟩
          cases hl'
        | some port =>
          rw [hstol] at haccept
          dsimp only at haccept
          refine (hgo haccept).trans ?_
          simp
  · obtain ⟨l₁, hl₁⟩ := acceptClient_of_no_profile hprofile
    unfold loadClient Complete
    rw [hl₁]
    exact iff_of_true ⟨_, rfl⟩ fun hqos => absurd hqos hprofile

theorem loadSnapshot_isOk_iff : (∃ l', env.loadSnapshot l e = .ok l') ↔
    ((e.attributeValue "time").isSome → e.getText.isSome) := by
  unfold loadSnapshot seconds
  cases e.attributeValue "time" with
  | none => simp
  | some time => cases e.getText <;> simp

theorem loadEnvironmentChange_isOk_iff : (∃ l', env.loadEnvironmentChange l e = .ok l') ↔
    ((e.attributeValue "time").isSome → (e.attributeValue "key").isSome → e.getText.isSome) := by
  unfold loadEnvironmentChange seconds
  cases e.attributeValue "time" with
  | none => simp
  | some time =>
    cases e.attributeValue "key" with
    | none => simp
    | some key => cases e.getText <;> simp

theorem mapServerInfo_isOk_iff : (∃ l', env.mapServerInfo l e = .ok l') ↔
    (e.attributeValue "profile_name").isSome := by
  unfold mapServerInfo
  cases e.attributeValue "profile_name" with
  | none => simp
  | some profileName =>
    refine iff_of_true ?_ rfl
    dsimp only
    split_ifs
    · exact ⟨_, rfl⟩
    · cases env.participantQos l.profiles profileName with
      | none => exact ⟨_, rfl⟩
      | some qos =>
        dsimp only
        split_ifs <;> exact ⟨_, rfl⟩

end Environment

theorem Stop.lift_ne_fault_iff {x : Except Fault Loading} :
    (∀ stop, Stop.lift x = .error stop → ∀ f, stop ≠ .fault f) ↔ ∃ l, x = .ok l := by
  cases x with
  | ok l => simp [Stop.lift]
  | error f => simp [Stop.lift]

namespace Environment

variable {env : Environment} {l : Loading}

/-- **One item.** -/
theorem loadItem_finishes_iff (hcreates : env.Creates) (h : Equipped l.world) (item : ConfigItem) :
    (∀ stop, env.loadItem l item = .error stop → ∀ f, stop ≠ .fault f) ↔
      env.Complete l item := by
  cases item with
  | profiles e => exact iff_of_true (fun _ hstop => nomatch hstop) trivial
  | locators server => exact Stop.lift_ne_fault_iff.trans mapServerInfo_isOk_iff
  | server e => exact Stop.lift_ne_fault_iff.trans (loadServer_isOk_iff hcreates h)
  | noServers =>
    refine iff_of_true ?_ trivial
    intro stop hstop f hf
    unfold loadItem at hstop
    dsimp only at hstop
    split_ifs at hstop
    cases hstop
    cases hf
  | client e => exact Stop.lift_ne_fault_iff.trans (loadClient_isOk_iff hcreates h)
  | simple e => exact Stop.lift_ne_fault_iff.trans (loadSimple_isOk_iff hcreates h)
  | snapshots e => exact iff_of_true (fun _ hstop => nomatch hstop) trivial
  | snapshot e => exact Stop.lift_ne_fault_iff.trans loadSnapshot_isOk_iff
  | environment =>
    refine iff_of_true ?_ trivial
    intro stop hstop f hf
    unfold loadItem at hstop
    dsimp only at hstop
    split_ifs at hstop
    cases hstop
    cases hf
  | change e => exact Stop.lift_ne_fault_iff.trans loadEnvironmentChange_isOk_iff

end Environment

/-- **When the constructor finishes.** As long as Fast DDS creates what it is asked
for, the constructor gets to an end, for every document, exactly if every item it gets
to is complete. -/
theorem loading_finishes_iff {env : Environment} (hcreates : env.Creates) (sharedMemoryOff : Bool)
    (doc : XMLDocument) (root : XMLElement) (steadyClock now now' : TimePoint) :
    (∀ stop, env.loadConfig sharedMemoryOff doc root (.initial steadyClock now now') =
        .error stop → ∀ f, stop ≠ .fault f) ↔
      ∀ item l, Reaches env.loadItem
        (env.initial sharedMemoryOff root (.initial steadyClock now now'))
        (ConfigItem.ofDocument doc) item l → env.Complete l item := by
  rw [Environment.loadConfig_eq]
  refine (foldlM_error_iff fun stop : Stop => ∀ f, stop ≠ .fault f).trans ?_
  refine forall₂_congr fun item l => forall_congr' fun hreach => ?_
  have hequipped : Equipped l.world :=
    (Equipped.initial steadyClock now now').steps hcreates (Environment.reaches_steps hreach)
  exact Environment.loadItem_finishes_iff hcreates hequipped item

theorem Guid.ofPrefix_ne_unknown (p : GuidPrefix) : Guid.ofPrefix p ≠ .unknown := by
  intro h
  have hentity : Guid.cEntityIdRTPSParticipant = 0 := congrArg Guid.entityId h
  exact absurd hentity (by decide)

theorem sampleEnvironment_creates : sampleEnvironment.Creates where
  participant w event := by
    show ∃ guid, guid ≠ Guid.unknown ∧ (if event.qos.guidPrefix = 0 then _ else _) = some guid
    split_ifs
    · exact ⟨_, Guid.ofPrefix_ne_unknown _, rfl⟩
    · exact ⟨_, Guid.ofPrefix_ne_unknown _, rfl⟩
  publisher _ _ := rfl
  subscriber _ _ := rfl

/-- A configuration whose server element has the given attributes. -/
def oneServer (attributes : List (String × String)) : XMLDocument where
  elements := [⟨"DS", [], none, [⟨"servers", [], none, [⟨"server", attributes, none, []⟩]⟩]⟩]

theorem loading_finishes_iff_sample :
    (∀ stop, sampleEnvironment.loadConfig false (oneServer [("profile_name", "server")])
        (.new "DS") (.initial 0 0 0) = .error stop → ∀ f, stop ≠ .fault f) ↔
      ∀ item l, Reaches sampleEnvironment.loadItem
        (sampleEnvironment.initial false (.new "DS") (.initial 0 0 0))
        (ConfigItem.ofDocument (oneServer [("profile_name", "server")])) item l →
          sampleEnvironment.Complete l item :=
  loading_finishes_iff sampleEnvironment_creates false (oneServer [("profile_name", "server")])
    (.new "DS") 0 0 0

/-- A server without a profile is not skipped by the first pass over the servers. -/
theorem loading_does_not_finish : ¬ ∀ (env : Environment) (sharedMemoryOff : Bool)
    (doc : XMLDocument) (root : XMLElement) (steadyClock now now' : TimePoint),
    env.Creates → doc.firstChildElement "DS" = some root →
      ∀ stop, env.loadConfig sharedMemoryOff doc root (.initial steadyClock now now') =
        .error stop → ∀ f, stop ≠ .fault f := by
  intro h
  exact h sampleEnvironment false (oneServer []) _ 0 0 0 sampleEnvironment_creates rfl
    (.fault .nullString) rfl .nullString rfl

end DiscoveryServer
