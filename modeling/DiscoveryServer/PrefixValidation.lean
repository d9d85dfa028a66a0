import DiscoveryServer.LateEndpoints

/-!
# Validation of prefixes

`loadServer` refuses a server whose GUID is filed already. That keeps apart the servers
the loaders create themselves (`loadsNewServers`); a server that is created late is not
filed while the configuration is loaded, so the check does not see it.
`prefix_validation_iff` says that the servers of a run keep their GUIDs to themselves
exactly if the schedule does: whoever had the GUID before has been destroyed.
-/

namespace DiscoveryServer

open Library

namespace World

variable {w w' : World} {g : Guid}

/-- The event adds a server under the GUID. -/
def CreatesServer (g : Guid) (w : World) (step : EventPtr × Reply) : Prop :=
  ∃ event, w.manager.events[step.1]? = some (.participantCreation event) ∧
    event.participantCreationFunction = .server ∧ step.2.participant = some g

/-- The event destroys the server under the GUID; a client with the GUID would be
destroyed in its place. -/
def RemovesServer (g : Guid) (w : World) (step : EventPtr × Reply) : Prop :=
  ∃ event, w.manager.events[step.1]? = some (.participantDestruction event) ∧
    event.participantId = g ∧ w.manager.clients.get? g = none

/-! ## What an event does to the servers -/

theorem get?_servers_unfile (m : DiscoveryServerManager) (id g : Guid) :
    (m.unfile id).servers.get? g =
      if g = id ∧ m.clients.get? id = none then none else m.servers.get? g := by
  unfold DiscoveryServerManager.unfile
  cases hc : m.clients.get? id with
  | some c =>
    rw [if_neg fun h => nomatch h.2]
  | none =>
    cases hs : m.servers.get? id with
    | some s =>
      dsimp only
      rw [OrdMap.get?_erase]
      simp only [and_true]
    | none =>
      dsimp only
      split_ifs with hg
      · rw [hg.1, hs]
      · rfl

theorem get?_servers_participantDestruction (w : World) (event : DelayedParticipantDestruction)
    (g : Guid) : (event.execute w).manager.servers.get? g =
      if g = event.participantId ∧ w.manager.clients.get? event.participantId = none then none
      else w.manager.servers.get? g := by
  have hremove := get?_servers_unfile
    { w.manager.removeDatabase event.participantId with
      dataWriters := DiscoveryServerManager.purge event.participantId w.manager.dataWriters
      dataReaders := DiscoveryServerManager.purge event.participantId w.manager.dataReaders }
    event.participantId g
  show ((w.withManager (w.manager.removeParticipant event.participantId).1).deleteParticipant
    (w.manager.filed event.participantId)).manager.servers.get? g = _
  cases w.manager.filed event.participantId with
  | none => exact hremove
  | some p => exact hremove

/-- An event that is neither a creation nor a destruction of a participant. -/
theorem servers_execute_other {step : EventPtr × Reply} {event : LateJoinerData}
    (hevent : w.manager.events[step.1]? = some event)
    (hcreation : ∀ e, event ≠ .participantCreation e)
    (hdestruction : ∀ e, event ≠ .participantDestruction e)
    (hsame : w'.manager.servers = w.manager.servers) (g : Guid) :
    (w'.manager.servers.get? g).isSome ↔
      CreatesServer g w step ∨ ((w.manager.servers.get? g).isSome ∧ ¬ RemovesServer g w step) := by
  have hno : ¬ CreatesServer g w step := by
    rintro ⟨e, he, _⟩
    exact hcreation e (Option.some.inj (hevent.symm.trans he))
  have hno' : ¬ RemovesServer g w step := by
    rintro ⟨e, he, _⟩
    exact hdestruction e (Option.some.inj (hevent.symm.trans he))
  rw [hsame, or_iff_right hno, and_iff_left hno']

/-- **One event.** A GUID is that of a server after an event if the event adds the
server, or if it was before and the event does not destroy the server. -/
theorem servers_execute {step : EventPtr × Reply} (h : w.execute step = some w') (g : Guid) :
    (w'.manager.servers.get? g).isSome ↔
      CreatesServer g w step ∨ ((w.manager.servers.get? g).isSome ∧ ¬ RemovesServer g w step) := by
  cases executed h with
  | participantCreation event hevent h =>
    obtain ⟨guid, p, hguid, rfl, _, _, hholdings, _⟩ := participantCreation_spec h
    have hservers : w'.manager.servers.get? g =
        if ParticipantRole.server = event.participantCreationFunction ∧ g = guid then
          some ⟨w.nextId, guid, event.qos.name⟩ else w.manager.servers.get? g :=
      congrFun (congrFun (congrArg Holdings.filed hholdings) .server) g
    have hcreates : CreatesServer g w step ↔
        ParticipantRole.server = event.participantCreationFunction ∧ g = guid := by
      constructor
      · rintro ⟨e, he, hrole, hreply⟩
        cases hevent.symm.trans he
        exact ⟨hrole.symm, Option.some.inj (hreply.symm.trans hguid)⟩
      · rintro ⟨hrole, rfl⟩
        exact ⟨event, hevent, hrole.symm, hguid⟩
    have hremoves : ¬ RemovesServer g w step := by
      rintro ⟨e, he, _⟩
      cases hevent.symm.trans he
    rw [hservers, hcreates, and_iff_left hremoves]
    split_ifs with hnew
    · exact iff_of_true rfl (.inl hnew)
    · exact (or_iff_right hnew).symm
  | participantDestruction event hevent =>
    have hcreates : ¬ CreatesServer g w step := by
      rintro ⟨e, he, _⟩
      cases hevent.symm.trans he
    have hremoves : RemovesServer g w step ↔
        g = event.participantId ∧ w.manager.clients.get? event.participantId = none := by
      constructor
      · rintro ⟨e, he, rfl, hclients⟩
        cases hevent.symm.trans he
        exact ⟨rfl, hclients⟩
      · rintro ⟨rfl, hclients⟩
        exact ⟨event, hevent, rfl, hclients⟩
    rw [get?_servers_participantDestruction, or_iff_right hcreates, hremoves]
    split_ifs with hgone
    · exact iff_of_false nofun fun h => h.2 hgone
    · exact (and_iff_left hgone).symm
  | endpointCreation event hevent h =>
    obtain ⟨_, _, _, link, guid, _, hmanager⟩ := endpointCreation_frame h
    have hsame : w'.manager.servers = w.manager.servers := by rw [hmanager]
    exact servers_execute_other hevent (fun _ => nofun) (fun _ => nofun) hsame g
  | endpointDestruction event hevent =>
    obtain ⟨_, _, _, hmanager⟩ := endpointDestruction_frame w event
    refine servers_execute_other hevent (fun _ => nofun) (fun _ => nofun) ?_ g
    rw [hmanager]
  | snapshot event hevent =>
    exact servers_execute_other hevent (fun _ => nofun) (fun _ => nofun) rfl g
  | environmentModification event hevent =>
    exact servers_execute_other hevent (fun _ => nofun) (fun _ => nofun) rfl g

/-- **A run.** There is a server under a GUID if one has been added since the last one
was destroyed, or has been there all along. -/
theorem servers_executeAll {steps : List (EventPtr × Reply)} (h : w.executeAll steps = some w')
    (g : Guid) : (w'.manager.servers.get? g).isSome ↔
      ((w.manager.servers.get? g).isSome ∧ Unrevoked execute (RemovesServer g) w steps) ∨
        Since execute (CreatesServer g) (RemovesServer g) w steps :=
  iff_since (fun _ => True) (fun _ _ _ _ _ => trivial)
    (fun _ _ _ _ hstep => servers_execute hstep g) trivial h

end World

/-! ## While the configuration is loaded -/

/-- What Fast DDS promises about the GUIDs of new participants: an explicit prefix is
kept, and one it provides has not been used before. -/
structure Environment.NamesParticipants (env : Environment) : Prop where
  keeps : ∀ w event, (env.reply w (.participantCreation event)).KeepsPrefix event.qos
  provides : ∀ w event, event.qos.guidPrefix = 0 →
    ∀ guid ∈ (env.reply w (.participantCreation event)).participant,
      ∀ p, .createParticipant p ∈ w.calls → p.guid ≠ guid

/-- Who is filed as a server has been created. -/
def World.ServersCreated (w : World) : Prop :=
  ∀ g p, w.manager.servers.get? g = some p → .createParticipant p ∈ w.calls ∧ p.guid = g

theorem LoadStep.serversCreated {env : Environment} {w w' : World} (h : LoadStep env w w')
    (hcreated : w.ServersCreated) : w'.ServersCreated := by
  intro g p hp
  cases h with
  | pushBack hfresh => exact hcreated g p hp
  | settings autoShutdown validate file => exact hcreated g p hp
  | endpoint hrun =>
    obtain ⟨hfiled, _⟩ := World.holdings_endpointCreation hrun
    have hsame := congrFun (congrFun hfiled .server) g
    obtain ⟨hcall, hguid⟩ := hcreated g p (hsame.symm.trans hp)
    exact ⟨(World.later_endpointCreation hrun).calls.mem hcall, hguid⟩
  | @participant _ event hrun =>
    obtain ⟨guid, q, _, hq, hcalls, _, hholdings, _⟩ := World.participantCreation_spec hrun
    have hservers : (if ParticipantRole.server = event.participantCreationFunction ∧ g = q.guid
        then some q else w.manager.servers.get? g) = some p :=
      (congrFun (congrFun (congrArg Holdings.filed hholdings) .server) g).symm.trans hp
    rw [hcalls]
    split_ifs at hservers with hnew
    · cases hservers
      exact ⟨List.mem_cons_self, hnew.2.symm⟩
    · obtain ⟨hcall, hguid⟩ := hcreated g p hservers
      exact ⟨List.mem_cons_of_mem _ hcall, hguid⟩

theorem LoadSteps.serversCreated {env : Environment} {w w' : World} (h : LoadSteps env w w')
    (hcreated : w.ServersCreated) : w'.ServersCreated := by
  induction h with
  | refl => exact hcreated
  | tail _ hstep ih => exact hstep.serversCreated ih

namespace Environment

variable {env : Environment} {sharedMemoryOff : Bool} {doc : XMLDocument} {root : XMLElement}

/-- The prefix that is validated is the one the server is created with. -/
theorem acceptServer_validated {l l₁ : Loading} {e : XMLElement} {qos : DomainParticipantQos}
    (hvalidation : l.enablePrefixValidation = true)
    (h : env.acceptServer l e = (l₁, some qos)) :
    l.manager.servers.get? (.ofPrefix qos.guidPrefix) = none := by
  have hcore := (noted_serverQos env l e).core
  unfold acceptServer at h
  cases hfound : env.serverQos l e with
  | mk l₀ found =>
    rw [hfound] at h hcore
    have hworld : l₀.world = l.world := congrArg Prod.fst hcore
    have hon : l₀.enablePrefixValidation = true := (congrArg Prod.snd hcore).trans hvalidation
    have hservers : l₀.manager.servers = l.manager.servers :=
      congrArg (fun w : World => w.manager.servers) hworld
    cases found with
    | none => cases h
    | some qos₀ =>
      dsimp only at h
      by_cases hused : l₀.enablePrefixValidation ∧
          (l₀.manager.servers.get? (.ofPrefix qos₀.guidPrefix)).isSome
      · rw [if_pos hused] at h
        cases h
      · rw [if_neg hused] at h
        have hsame : qos.guidPrefix = qos₀.guidPrefix := by
          cases h
          rw [Loading.guidPrefix_disableSharedMemory]
          split_ifs <;> rfl
        rw [hsame, ← hservers, ← Option.not_isSome_iff_eq_none]
        intro hsome
        exact hused ⟨hon, hsome⟩

/-- No server is created by a loader under the GUID of a server that is filed. -/
def LoadsNewServers (env : Environment) (sharedMemoryOff : Bool) (doc : XMLDocument)
    (root : XMLElement) (w : World) : Prop :=
  ∀ e l l₁ qos, Reaches env.loadItem (env.initial sharedMemoryOff root w)
      (ConfigItem.ofDocument doc) (.server e) l →
    env.acceptServer l e = (l₁, some qos) → (env.times l₁ e).1 = l₁.getTime →
      ∀ g ∈ (env.reply l₁.world (.participantCreation
          ⟨(env.times l₁ e).1, qos, .server, none, .unknown⟩)).participant,
        l₁.manager.servers.get? g = none

/-- **The check is enough for the servers that are created at once.** -/
theorem loadsNewServers {w : World} (hnames : env.NamesParticipants)
    (hvalidation : (env.initial sharedMemoryOff root w).enablePrefixValidation = true)
    (hcreated : w.ServersCreated) : env.LoadsNewServers sharedMemoryOff doc root w := by
  intro e l l₁ qos hreach haccept _ g hg
  have hcore := core_acceptServer env l e
  rw [haccept] at hcore
  have hworld : l₁.world = l.world := congrArg Prod.fst hcore
  by_cases hzero : qos.guidPrefix = 0
  · rw [Option.eq_none_iff_forall_ne_some]
    intro p hp
    have hsteps : LoadSteps env w l₁.world := by
      rw [hworld]
      exact reaches_steps hreach
    obtain ⟨hcall, hguid⟩ := hsteps.serversCreated hcreated g p hp
    exact hnames.provides l₁.world _ hzero g hg p hcall hguid
  · rw [hnames.keeps l₁.world _ hzero g hg]
    have hservers : l₁.manager.servers = l.manager.servers :=
      congrArg (fun w : World => w.manager.servers) hworld
    rw [hservers]
    have hkept := ((Loads.rule env).reaches hreach).validation
    exact acceptServer_validated (hkept.trans hvalidation) haccept

end Environment

/-! ## The whole run -/

/-- A constructor that ends with the manager of `loaded`, an arrangement of its events
and the answers to them. -/
structure ConfiguredRun (env : Environment) (sharedMemoryOff : Bool) (doc : XMLDocument)
    (root : XMLElement) (w : World) where
  loaded : Loading
  leaves : Leaves (env.loadConfig sharedMemoryOff doc root w) loaded
  sort : Arrangement loaded.manager.events
  reply : EventPtr → Reply

namespace ConfiguredRun

variable {env : Environment} {sharedMemoryOff : Bool} {doc : XMLDocument} {root : XMLElement}
  {w : World} (x : ConfiguredRun env sharedMemoryOff doc root w)

/-- The events, in the order they are executed, with their answers. -/
def steps : List (EventPtr × Reply) := x.sort.order.map fun ptr => (ptr, x.reply ptr)

/-- After the events `done` the next one adds a server under the GUID. -/
def NextServer (done : List (EventPtr × Reply)) (g : Guid) : Prop :=
  ∃ step rest v, x.steps = done ++ step :: rest ∧ x.loaded.world.executeAll done = some v ∧
    v.CreatesServer g step

/-- No event adds a server under the GUID of a server that is filed. -/
def AddsNewServers : Prop :=
  ∀ done g v, x.NextServer done g → x.loaded.world.executeAll done = some v →
    v.manager.servers.get? g = none

/-- Before an event adds a server, every server with its GUID that the constructor has
left behind or an event has added is destroyed by an event. -/
def SeparatesServers : Prop :=
  ∀ done g, x.NextServer done g →
    ((x.loaded.manager.servers.get? g).isSome →
      ¬ Unrevoked World.execute (World.RemovesServer g) x.loaded.world done) ∧
    ¬ Since World.execute (World.CreatesServer g) (World.RemovesServer g) x.loaded.world done

end ConfiguredRun

/-- **When the validation of prefixes prevents collisions.** With the validation on,
neither a loader nor an event adds a server under a GUID in use exactly if the events
that add servers come after the destruction of every earlier server with the GUID. -/
theorem prefix_validation_iff {env : Environment} {sharedMemoryOff : Bool} {doc : XMLDocument}
    {root : XMLElement} {steadyClock now now' : TimePoint} (hnames : env.NamesParticipants)
    (hvalidation : (env.initial sharedMemoryOff root
      (.initial steadyClock now now')).enablePrefixValidation = true)
    (x : ConfiguredRun env sharedMemoryOff doc root (.initial steadyClock now now')) :
    (env.LoadsNewServers sharedMemoryOff doc root (.initial steadyClock now now') ∧
      x.AddsNewServers) ↔ x.SeparatesServers := by
  have hcreated : (World.initial steadyClock now now').ServersCreated := fun _ _ hp => nomatch hp
  rw [and_iff_right (Environment.loadsNewServers hnames hvalidation hcreated)]
  have hfiled : ∀ {done g v}, x.loaded.world.executeAll done = some v →
      (v.manager.servers.get? g = none ↔
        ((x.loaded.manager.servers.get? g).isSome →
          ¬ Unrevoked World.execute (World.RemovesServer g) x.loaded.world done) ∧
        ¬ Since World.execute (World.CreatesServer g) (World.RemovesServer g)
          x.loaded.world done) := by
    intro done g v hrun
    rw [← not_and, ← not_or, ← Option.not_isSome_iff_eq_none]
    exact not_congr (World.servers_executeAll hrun g)
  constructor
  · intro hadds done g hnext
    obtain ⟨step, rest, v, hsteps, hrun, hcreates⟩ := hnext
    exact (hfiled hrun).mp (hadds done g v ⟨step, rest, v, hsteps, hrun, hcreates⟩ hrun)
  · intro hseparates done g v hnext hrun
    exact (hfiled hrun).mpr (hseparates done g hnext)

/-- A Fast DDS that creates participants with an explicit prefix. -/
def explicitEnvironment : Environment where
  __ := sampleEnvironment
  reply _ event :=
    { participant :=
        match event with
        | .participantCreation creation =>
          if creation.qos.guidPrefix = 0 then none else some (.ofPrefix creation.qos.guidPrefix)
        | _ => none }

theorem explicitEnvironment_names : explicitEnvironment.NamesParticipants where
  keeps w event := by
    intro hne guid hguid
    have hreply : (explicitEnvironment.reply w (.participantCreation event)).participant =
        some (.ofPrefix event.qos.guidPrefix) := if_neg hne
    rw [hreply] at hguid
    exact (Option.some.inj hguid).symm
  provides w event hzero guid hguid := by
    have hreply : (explicitEnvironment.reply w (.participantCreation event)).participant = none :=
      if_pos hzero
    rw [hreply] at hguid
    cases hguid

/-- Two servers with the same prefix, which are created after 1 s and after 2 s. -/
def lateTwins : XMLDocument where
  elements := [⟨"DS", [], none, [⟨"servers", [], none,
    [⟨"server", [("profile_name", "server"), ("creation_time", "1")], none, []⟩,
      ⟨"server", [("profile_name", "server"), ("creation_time", "2")], none, []⟩]⟩]⟩]

theorem prefix_validation_iff_sample :
    ∃ x : ConfiguredRun explicitEnvironment false lateTwins (.new "DS") (.initial 0 0 0),
      x.steps.map Prod.fst = [0, 1] ∧
        ((explicitEnvironment.LoadsNewServers false lateTwins (.new "DS") (.initial 0 0 0) ∧
          x.AddsNewServers) ↔ x.SeparatesServers) :=
  ⟨{ loaded := _
     leaves := .inl rfl
     sort := ⟨[0, 1], .refl _, by decide⟩
     reply := fun _ => { participant := some (.ofPrefix 1) } }, rfl,
    prefix_validation_iff explicitEnvironment_names rfl _⟩

/-- The second server is not refused, for the first one is not created yet. -/
theorem late_twins_collide : ¬ ∀ (env : Environment) (sharedMemoryOff : Bool) (doc : XMLDocument)
    (root : XMLElement) (steadyClock now now' : TimePoint), env.NamesParticipants →
      (env.initial sharedMemoryOff root (.initial steadyClock now now')).enablePrefixValidation =
        true →
      ∀ x : ConfiguredRun env sharedMemoryOff doc root (.initial steadyClock now now'),
        env.LoadsNewServers sharedMemoryOff doc root (.initial steadyClock now now') ∧
          x.AddsNewServers := by
  intro h
  have hadds := (h explicitEnvironment false lateTwins (.new "DS") 0 0 0 explicitEnvironment_names
    rfl {
      loaded := _
      leaves := .inl rfl
      sort := ⟨[0, 1], .refl _, by decide⟩
      reply := fun _ => { participant := some (.ofPrefix 1) } }).2
  have hnone := hadds [(0, { participant := some (.ofPrefix 1) })] (.ofPrefix 1) _
    ⟨(1, { participant := some (.ofPrefix 1) }), [], _, rfl, rfl, _, rfl, rfl, rfl⟩ rfl
  exact absurd hnone (by decide)

end DiscoveryServer
