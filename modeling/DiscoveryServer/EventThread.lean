import DiscoveryServer.SnapshotHistory
import DiscoveryServer.TopicReuse

/-!
# The thread of the events

A session lets the thread of `runEvents` do anything its events could do. `World.parts`
says which of it an event does: the steps of a session that `World.execute` is made of.
Executing events is running their parts (`simulates_execute`), so what is proved of the
sessions is proved of the events.

Callbacks come in between. They change the database and the times of the last callbacks,
nothing that the thread works with (`run_thread`): the thread makes the same steps, and
leaves the same participants and endpoints behind, as if nobody had called.
-/

namespace DiscoveryServer

open Library

/-! ## What callbacks leave alone -/

namespace DiscoveryServerManager

/-- A manager without its plan: the events and the settings. -/
def unplanned (m : DiscoveryServerManager) : DiscoveryServerManager :=
  { m with
    events := []
    autoShutdown := true
    correctlyCreated := false
    validate := false
    snapshotsOutputFile := "" }

/-- What the thread of the events works with: neither the database and the times of the last
callbacks nor what comes of them. -/
def inventory (m : DiscoveryServerManager) : DiscoveryServerManager :=
  { m.unplanned with
    state := .init 0 0 0
    snapshots := []
    lastPDPCallback := 0
    lastEDPCallback := 0 }

theorem inventory_of_unplanned {m m' : DiscoveryServerManager}
    (h : m.unplanned = m'.unplanned) : m.inventory = m'.inventory :=
  (congrArg inventory h :)

/-- A change to what no participant or endpoint is filed in: the database, what comes of it,
and the plan. -/
structure Retouch where
  state : DiscoveryItemDatabase → DiscoveryItemDatabase := id
  events : List LateJoinerData → List LateJoinerData := id
  snapshots : List Snapshot → List Snapshot := id
  autoShutdown : Bool → Bool := id
  correctlyCreated : Bool → Bool := id
  validate : Bool → Bool := id
  snapshotsOutputFile : String → String := id
  lastPDPCallback : TimePoint → TimePoint := id
  lastEDPCallback : TimePoint → TimePoint := id

def retouch (f : Retouch) (m : DiscoveryServerManager) : DiscoveryServerManager :=
  { m with
    state := f.state m.state
    events := f.events m.events
    snapshots := f.snapshots m.snapshots
    autoShutdown := f.autoShutdown m.autoShutdown
    correctlyCreated := f.correctlyCreated m.correctlyCreated
    validate := f.validate m.validate
    snapshotsOutputFile := f.snapshotsOutputFile m.snapshotsOutputFile
    lastPDPCallback := f.lastPDPCallback m.lastPDPCallback
    lastEDPCallback := f.lastEDPCallback m.lastEDPCallback }

/-- No plan. -/
def Retouch.noPlan : Retouch where
  events _ := []
  autoShutdown _ := true
  correctlyCreated _ := false
  validate _ := false
  snapshotsOutputFile _ := ""

/-- No plan and no news. -/
def Retouch.noNews : Retouch :=
  { noPlan with
    state := fun _ => .init 0 0 0
    snapshots := fun _ => []
    lastPDPCallback := fun _ => 0
    lastEDPCallback := fun _ => 0 }

/-- Two managers have the same inventory if they are the same without plan and news. -/
theorem inventory_eq_iff {m m' : DiscoveryServerManager} :
    m.inventory = m'.inventory ↔ retouch .noNews m = retouch .noNews m' := .rfl

theorem unplanned_eq_iff {m m' : DiscoveryServerManager} :
    m.unplanned = m'.unplanned ↔ retouch .noPlan m = retouch .noPlan m' := .rfl

theorem retouch_creationFunction (f : Retouch) (role : ParticipantRole)
    (m : DiscoveryServerManager) (p : DomainParticipant) :
    retouch f (role.creationFunction m p) = role.creationFunction (retouch f m) p := by
  cases role <;> rfl

theorem retouch_unfile (f : Retouch) (m : DiscoveryServerManager) (id : Guid) :
    retouch f (m.unfile id) = (retouch f m).unfile id := by
  have hclients : (retouch f m).clients = m.clients := rfl
  have hservers : (retouch f m).servers = m.servers := rfl
  unfold unfile
  rw [hclients, hservers]
  cases m.clients.get? id with
  | some c => rfl
  | none => cases m.servers.get? id <;> rfl

theorem retouch_removeEntities (f : Retouch) (m : DiscoveryServerManager) (id : Guid) :
    retouch f (m.removeEntities id).1 = ((retouch f m).removeEntities id).1 :=
  retouch_unfile f _ id

end DiscoveryServerManager

open DiscoveryServerManager (Retouch inventory_eq_iff retouch retouch_creationFunction
  retouch_removeEntities unplanned_eq_iff)

namespace Session

theorem retouch_request (f : Retouch) (m : DiscoveryServerManager) (r : Request) :
    retouch f (r.execute m) = r.execute (retouch f m) := by
  cases r with
  | getPubSubEntityFromParticipantGuid kind id => rfl
  | setParticipantTopic p t =>
    unfold Request.execute DiscoveryServerManager.setParticipantTopic
    cases p with
    | none => rfl
    | some p =>
      cases t with
      | none => rfl
      | some t =>
        have hentries : (retouch f m).entityMap = m.entityMap := rfl
        dsimp only
        rw [hentries]
        cases m.entityMap.get? p.guid <;> rfl
  | setDomainEntityTopic entity t => cases entity <;> cases t <;> rfl
  | addEndpoint kind e => cases e <;> cases kind <;> rfl
  | removeEndpoint kind id =>
    unfold Request.execute DiscoveryServerManager.removeEndpoint
    dsimp only
    have hsame : (retouch f m).endpoints kind = m.endpoints kind := by cases kind <;> rfl
    rw [hsame]
    cases (m.endpoints kind).get? id with
    | none => rfl
    | some e => cases kind <;> rfl

theorem inventory_callback (c : Callback) (m : DiscoveryServerManager) (now : TimePoint)
    (progress : Callback.Progress) : (c.step m now progress).1.inventory = m.inventory := by
  cases progress with
  | entered =>
    unfold Callback.step
    dsimp only
    cases m.getParticipant c.participant.guid <;> rfl
  | known => rfl
  | timed t =>
    unfold Callback.step Callback.note
    dsimp only
    cases c.notice <;> rfl
  | noted t server =>
    show (Callback.update m now (c.operation t server)).inventory = m.inventory
    cases c.operation t server <;> rfl
  | returned => rfl

/-- The step is one of the thread of the events. -/
def Action.isThread : Action → Bool
  | .create .. => true
  | .destroy _ => true
  | .proceed => true
  | .request _ => true
  | .takeSnapshot .. => true
  | .enter .. => false
  | .advance .. => false
  | .changeLiveliness .. => false

/-- The thread of the events cannot tell them apart. -/
structure Alike (s t : Session) : Prop where
  inventory : s.manager.inventory = t.manager.inventory
  progress : s.progress = t.progress
  listening : s.listening = t.listening

theorem Alike.refl (s : Session) : Alike s s := ⟨rfl, rfl, rfl⟩

variable {s s' t : Session} {a : Action}

theorem Alike.symm (h : Alike s t) : Alike t s :=
  ⟨h.inventory.symm, h.progress.symm, h.listening.symm⟩

/-- What the thread starts, it starts in both. -/
theorem Alike.whenIdle (h : Alike s t) {next next' : Session} (hs : s.whenIdle next = some s')
    (hnext : Alike next next') : ∃ t', t.whenIdle next' = some t' ∧ Alike s' t' := by
  have heq := whenIdle_eq_some hs
  subst heq
  refine ⟨next', ?_, hnext⟩
  unfold Session.whenIdle at hs ⊢
  rw [← h.progress]
  cases hprogress : s.progress with
  | idle => rfl
  | _ =>
    rw [hprogress] at hs
    cases hs

theorem Alike.proceed (h : Alike s t) (hs : s.proceed = some s') :
    ∃ t', t.proceed = some t' ∧ Alike s' t' := by
  unfold Session.proceed at hs ⊢
  rw [← h.progress]
  cases hprogress : s.progress with
  | idle =>
    rw [hprogress] at hs
    cases hs
  | created role p info =>
    rw [hprogress] at hs
    cases hs
    refine ⟨_, rfl, ?_, rfl, h.listening⟩
    apply inventory_eq_iff.mpr
    rw [retouch_creationFunction, retouch_creationFunction, inventory_eq_iff.mp h.inventory]
  | filed p info =>
    rw [hprogress] at hs
    cases hs
    refine ⟨_, rfl, ?_, rfl, h.listening⟩
    exact congrArg (fun m => m.setParticipantInfo p.guid info) h.inventory
  | databaseRemoved id =>
    rw [hprogress] at hs
    dsimp only at hs ⊢
    have hfiled : (s.manager.removeEntities id).2 = (t.manager.removeEntities id).2 :=
      congrArg (fun m => m.filed id) h.inventory
    have hremove : (s.manager.removeEntities id).1.inventory =
        (t.manager.removeEntities id).1.inventory := by
      apply inventory_eq_iff.mpr
      rw [retouch_removeEntities, retouch_removeEntities, inventory_eq_iff.mp h.inventory]
    rw [← hfiled]
    cases hp : (s.manager.removeEntities id).2 with
    | none =>
      rw [hp] at hs
      cases hs
      exact ⟨_, rfl, hremove, rfl, h.listening⟩
    | some p =>
      rw [hp] at hs
      cases hs
      exact ⟨_, rfl, hremove, rfl, h.listening⟩
  | removed p =>
    rw [hprogress] at hs
    cases hs
    refine ⟨_, rfl, ?_, rfl, ?_⟩
    · exact congrArg (fun m : DiscoveryServerManager =>
        { m with entityMap := m.entityMap.erase p.guid }) h.inventory
    · show s.listening.erase p = t.listening.erase p
      rw [h.listening]

/-- A step of the thread is the same step where callbacks have left other news. -/
theorem Alike.thread (h : Alike s t) (ha : a.isThread = true) (hs : s.step a = some s') :
    ∃ t', t.step a = some t' ∧ Alike s' t' := by
  cases a with
  | create role p publisher subscriber =>
    refine h.whenIdle hs ⟨h.inventory, rfl, ?_⟩
    show p :: s.listening = p :: t.listening
    rw [h.listening]
  | destroy id => exact h.whenIdle hs ⟨h.inventory, rfl, h.listening⟩
  | proceed => exact h.proceed hs
  | request r =>
    refine h.whenIdle hs ⟨?_, h.progress, h.listening⟩
    apply inventory_eq_iff.mpr
    rw [retouch_request, retouch_request, inventory_eq_iff.mp h.inventory]
  | takeSnapshot tp desc someone showLiveliness =>
    exact h.whenIdle hs ⟨h.inventory, h.progress, h.listening⟩
  | enter p notice => cases ha
  | advance i now => cases ha
  | changeLiveliness now reader alive notAlive => cases ha

/-- A step of a callback does not show. -/
theorem Alike.callback (h : Alike s t) (ha : a.isThread = false) (hs : s.step a = some s') :
    Alike s' t := by
  cases a with
  | enter p notice =>
    obtain ⟨-, hs'⟩ := Option.ite_none_right_eq_some.mp hs
    cases hs'
    exact ⟨h.inventory, h.progress, h.listening⟩
  | advance i now =>
    have hs : s.advance i now = some s' := hs
    unfold Session.advance at hs
    cases hc : s.callbacks[i]? with
    | none =>
      rw [hc] at hs
      cases hs
    | some entry =>
      obtain ⟨c, progress⟩ := entry
      rw [hc] at hs
      dsimp only at hs
      by_cases hlock : s.progress.locks = true ∧ progress.locks = true
      · rw [if_pos hlock] at hs
        cases hs
      · rw [if_neg hlock] at hs
        cases hs
        exact ⟨(inventory_callback c s.manager now progress).trans h.inventory, h.progress,
          h.listening⟩
  | changeLiveliness now reader alive notAlive =>
    cases hs
    exact ⟨h.inventory, h.progress, h.listening⟩
  | create role p publisher subscriber => cases ha
  | destroy id => cases ha
  | proceed => cases ha
  | request r => cases ha
  | takeSnapshot tp desc someone showLiveliness => cases ha

/-- **Callbacks do not disturb the thread.** -/
theorem run_thread {actions : List Action} (hrun : run? step s actions = some s') :
    ∃ t', run? step s (actions.filter Action.isThread) = some t' ∧ Alike s' t' :=
  run?_filter (fun _ _ _ _ hkeep h hstep => h.thread hkeep hstep)
    (fun _ _ _ _ hdrop h hstep => h.callback hdrop hstep) (.refl s) hrun

/-- **Callbacks do not keep the thread waiting**: the steps it can go on with when it is alone
are steps it can go on with whatever callbacks have come in between. -/
theorem thread_goes_on {actions rest : List Action} (hrun : run? step s actions = some s')
    (hrest : ∀ a ∈ rest, a.isThread = true)
    (halone : run? step s (actions.filter Action.isThread ++ rest) = some t) :
    ∃ u, run? step s' rest = some u ∧ Alike t u := by
  refine run?_goes_on (R := Alike) ?_ ?_ (fun _ _ => Alike.symm) (.refl s) hrun hrest halone
  · exact fun _ _ _ _ hkeep h hstep => h.thread hkeep hstep
  · exact fun _ _ _ _ hdrop h hstep => h.callback hdrop hstep

end Session

/-! ## What events are made of -/

/-- The participants that have a listener, by the calls made. -/
def listeners : List DdsCall → List DomainParticipant
  | [] => []
  | .createParticipant p :: calls => p :: listeners calls
  | .clearListener p :: calls => (listeners calls).erase p
  | _ :: calls => listeners calls

/-- The topic of an endpoint is filed if it is new. -/
def DelayedEndpointCreation.topicRequests (event : DelayedEndpointCreation) (reply : Reply)
    (w : World) (part : DomainParticipant) : List Session.Request :=
  match w.manager.getParticipantTopicByName (some part) event.request.name with
  | some _ => []
  | none => [.setParticipantTopic (some part) (event.topic reply w part).2]

/-- What the creation of an endpoint asks of the manager. -/
def DelayedEndpointCreation.requests (event : DelayedEndpointCreation) (reply : Reply)
    (w : World) : List Session.Request :=
  let (m, pubsub) :=
    w.manager.getPubSubEntityFromParticipantGuid event.kind event.participantGuid
  .getPubSubEntityFromParticipantGuid event.kind event.participantGuid ::
    match event.part w.manager, pubsub with
    | some part, some pubsub =>
      let w := (w.withManager m).call (.registerType part)
      let (wTopic, topic) := event.topic reply w part
      let endpoint :=
        (wTopic.createEndpoint event.kind pubsub topic event.endpointProfileName reply).2
      event.topicRequests reply w part ++
        [.setDomainEntityTopic endpoint topic, .addEndpoint event.kind endpoint]
    | _, _ => []

/-- What the destruction of an endpoint asks of the manager. -/
def DelayedEndpointDestruction.requests (event : DelayedEndpointDestruction) (w : World) :
    List Session.Request :=
  .removeEndpoint event.kind event.endpointGuid ::
    match (w.manager.endpoints event.kind).get? event.endpointGuid with
    | none => []
    | some e => [.getPubSubEntityFromParticipantGuid event.kind e.participant.guid]

/-- The steps in which a participant is created, filed and made known. -/
def DelayedParticipantCreation.parts (event : DelayedParticipantCreation) (reply : Reply)
    (w : World) : List Session.Action :=
  match reply.participant with
  | none => []
  | some guid =>
    [.create event.participantCreationFunction ⟨w.nextId, guid, event.qos.name⟩
      reply.publisher reply.subscriber, .proceed, .proceed]

/-- The steps of a session that an event is made of. -/
def World.parts (w : World) (step : EventPtr × Reply) : List Session.Action :=
  match w.manager.events[step.1]? with
  | some (.participantCreation event) => event.parts step.2 w
  | some (.participantDestruction event) =>
    .destroy event.participantId :: .proceed ::
      match w.manager.filed event.participantId with
      | none => []
      | some _ => [.proceed]
  | some (.endpointCreation event) => (event.requests step.2 w).map .request
  | some (.endpointDestruction event) => (event.requests w).map .request
  | some (.snapshot event) =>
    [.takeSnapshot step.2.now event.description event.ifSomeone event.showLiveliness]
  | _ => []

namespace Session

/-- The session is between two events, where the world is. -/
structure Follows (w : World) (s : Session) : Prop where
  idle : s.progress = .idle
  manager : s.manager.unplanned = w.manager.unplanned
  listening : s.listening = listeners w.calls

theorem follows_start {w : World} (hcalls : w.calls = []) : Follows w (.start w.manager) where
  idle := rfl
  manager := rfl
  listening := by
    rw [hcalls]
    rfl

/-! ## Requests -/

/-- What requests make of a manager. -/
def executeRequests (m : DiscoveryServerManager) (rs : List Request) : DiscoveryServerManager :=
  rs.foldl Request.execute m

theorem retouch_executeRequests (f : Retouch) (m : DiscoveryServerManager) (rs : List Request) :
    retouch f (executeRequests m rs) = executeRequests (retouch f m) rs := by
  induction rs generalizing m with
  | nil => rfl
  | cons r rs ih =>
    show retouch f (executeRequests (r.execute m) rs) =
      executeRequests (r.execute (retouch f m)) rs
    rw [ih, retouch_request]

theorem run_requests {s : Session} (hidle : s.progress = .idle) (rs : List Request) :
    run? step s (rs.map .request) = some { s with manager := executeRequests s.manager rs } := by
  induction rs generalizing s with
  | nil => rfl
  | cons r rs ih =>
    have hstep : s.step (.request r) = some { s with manager := r.execute s.manager } := by
      show s.whenIdle _ = _
      unfold whenIdle
      rw [hidle]
    rw [List.map_cons, run?, hstep]
    exact ih hidle

/-- A session that follows goes on with the requests of an event. -/
theorem Follows.requests {w w' : World} {s : Session} (h : Follows w s) {rs : List Request}
    (hmanager : (executeRequests w.manager rs).unplanned = w'.manager.unplanned)
    (hlisteners : listeners w'.calls = listeners w.calls) :
    ∃ s', run? step s (rs.map .request) = some s' ∧ Follows w' s' := by
  refine ⟨_, run_requests h.idle rs, h.idle, ?_, h.listening.trans hlisteners.symm⟩
  rw [← hmanager]
  apply unplanned_eq_iff.mpr
  rw [retouch_executeRequests, retouch_executeRequests, unplanned_eq_iff.mp h.manager]

/-! ## One event -/

theorem participantTopic_spec (w : World) (part : DomainParticipant) (name typeName : String)
    (profileName : Option String) (reply : Reply) :
    let wTopic := (w.participantTopic part name typeName profileName reply).1
    let topic := (w.participantTopic part name typeName profileName reply).2
    wTopic.manager = (match w.manager.getParticipantTopicByName (some part) name with
      | some _ => w.manager
      | none => w.manager.setParticipantTopic (some part) topic) ∧
      listeners wTopic.calls = listeners w.calls := by
  unfold World.participantTopic
  cases w.manager.getParticipantTopicByName (some part) name with
  | some topic => exact ⟨rfl, rfl⟩
  | none => exact ⟨rfl, rfl⟩

/-- Looking for the topic of an endpoint is its request, if there is one. -/
theorem executeRequests_topic (event : DelayedEndpointCreation) (reply : Reply) (w : World)
    (part : DomainParticipant) :
    (event.topic reply w part).1.manager =
        executeRequests w.manager (event.topicRequests reply w part) ∧
      listeners (event.topic reply w part).1.calls = listeners w.calls := by
  have hspec : (event.topic reply w part).1.manager =
      (match w.manager.getParticipantTopicByName (some part) event.request.name with
        | some _ => w.manager
        | none => w.manager.setParticipantTopic (some part) (event.topic reply w part).2) ∧
      listeners (event.topic reply w part).1.calls = listeners w.calls := by
    unfold DelayedEndpointCreation.topic DelayedEndpointCreation.request
    by_cases htype : event.typeName = "UNDEF"
    · rw [if_pos htype, if_pos htype]
      exact participantTopic_spec w part _ _ none reply
    · rw [if_neg htype, if_neg htype]
      exact participantTopic_spec w part _ _ (some event.topicProfileName) reply
  refine ⟨hspec.1.trans ?_, hspec.2⟩
  unfold DelayedEndpointCreation.topicRequests
  cases w.manager.getParticipantTopicByName (some part) event.request.name with
  | some topic => rfl
  | none => rfl

theorem unplanned_setGuid (m : DiscoveryServerManager) (p : Option EventPtr) (id : Guid) :
    (m.setGuid p id).unplanned = m.unplanned := by
  cases p <;> rfl

theorem unplanned_setParticipantInfo (m : DiscoveryServerManager) (guid : Guid)
    (info : ParticipantCreatedEntityInfo) :
    (m.setParticipantInfo guid info).unplanned = m.unplanned.setParticipantInfo guid info := rfl

variable {w w' : World} {s : Session}

/-- The creation of a participant. -/
theorem Follows.participantCreation (h : Follows w s) {this : EventPtr}
    {event : DelayedParticipantCreation} {reply : Reply}
    (hw : event.execute this reply w = some w') :
    ∃ s', run? step s (event.parts reply w) = some s' ∧ Follows w' s' := by
  unfold DelayedParticipantCreation.execute at hw
  unfold DelayedParticipantCreation.parts
  cases hguid : reply.participant with
  | none =>
    rw [hguid] at hw
    cases hw
  | some guid =>
    rw [hguid] at hw
    cases hw
    let p : DomainParticipant := ⟨w.nextId, guid, event.qos.name⟩
    have hfiled : (event.participantCreationFunction.creationFunction s.manager p).unplanned =
        (((event.participantCreationFunction.creationFunction w.manager p).modifyEvent this fun _ =>
          .participantCreation { event with participantGuid := guid }).setGuid
            event.removalEvent guid).unplanned := by
      rw [unplanned_setGuid]
      show _ = (event.participantCreationFunction.creationFunction w.manager p).unplanned
      apply unplanned_eq_iff.mpr
      rw [retouch_creationFunction, retouch_creationFunction, unplanned_eq_iff.mp h.manager]
    unfold run? Session.step Session.whenIdle
    rw [h.idle]
    refine ⟨_, rfl, rfl, ?_, ?_⟩
    · show (DiscoveryServerManager.setParticipantInfo _ _ _).unplanned = _
      rw [unplanned_setParticipantInfo]
      exact congrArg (fun m => DiscoveryServerManager.setParticipantInfo m guid _) hfiled
    · exact congrArg _ h.listening

theorem proceed_none {id : Guid} (hprogress : s.progress = .databaseRemoved id)
    (hnone : (s.manager.removeEntities id).2 = none) :
    s.step .proceed =
      some { s with manager := (s.manager.removeEntities id).1, progress := .idle } := by
  show s.proceed = _
  unfold proceed
  rw [hprogress]
  dsimp only
  rw [hnone]

theorem proceed_some {id : Guid} {p : DomainParticipant}
    (hprogress : s.progress = .databaseRemoved id)
    (hsome : (s.manager.removeEntities id).2 = some p) :
    s.step .proceed =
      some { s with manager := (s.manager.removeEntities id).1, progress := .removed p } := by
  show s.proceed = _
  unfold proceed
  rw [hprogress]
  dsimp only
  rw [hsome]

/-- The destruction of a participant: its database, its entities, and the participant if
there is one. -/
theorem Follows.participantDestruction (h : Follows w s) (event : DelayedParticipantDestruction) :
    ∃ s', run? step s (.destroy event.participantId :: .proceed ::
        match w.manager.filed event.participantId with
        | none => []
        | some _ => [.proceed]) = some s' ∧ Follows (event.execute w) s' := by
  let id := event.participantId
  have hdatabase : (s.manager.removeDatabase id).unplanned =
      (w.manager.removeDatabase id).unplanned :=
    congrArg (fun m => m.removeDatabase id) h.manager
  have hfiled : ((s.manager.removeDatabase id).removeEntities id).2 = w.manager.filed id :=
    congrArg (fun m => m.filed id) h.manager
  have hentities : ((s.manager.removeDatabase id).removeEntities id).1.unplanned =
      (w.manager.removeParticipant id).1.unplanned := by
    show _ = ((w.manager.removeDatabase id).removeEntities id).1.unplanned
    apply unplanned_eq_iff.mpr
    rw [retouch_removeEntities, retouch_removeEntities, unplanned_eq_iff.mp hdatabase]
  show ∃ s', run? step s _ = some s' ∧ Follows
    ((w.withManager (w.manager.removeParticipant id).1).deleteParticipant (w.manager.filed id)) s'
  have hdestroy : s.step (.destroy id) = some
      { s with manager := s.manager.removeDatabase id, progress := .databaseRemoved id } := by
    show s.whenIdle _ = _
    unfold whenIdle
    rw [h.idle]
  rw [run?, hdestroy, Option.bind_some]
  let s₁ : Session :=
    { s with manager := s.manager.removeDatabase id, progress := .databaseRemoved id }
  cases hp : w.manager.filed id with
  | none =>
    rw [hp] at hfiled
    refine ⟨{ s with
      manager := ((s.manager.removeDatabase id).removeEntities id).1
      progress := .idle }, ?_, rfl, hentities, h.listening⟩
    rw [run?, proceed_none (s := s₁) rfl hfiled]
    rfl
  | some p =>
    rw [hp] at hfiled
    refine ⟨{ s with
      manager := { ((s.manager.removeDatabase id).removeEntities id).1 with
        entityMap := ((s.manager.removeDatabase id).removeEntities id).1.entityMap.erase p.guid }
      progress := .idle
      listening := s.listening.erase p }, ?_, rfl, ?_, ?_⟩
    · rw [run?, proceed_some (s := s₁) rfl hfiled]
      rfl
    · exact congrArg (fun m : DiscoveryServerManager =>
        { m with entityMap := m.entityMap.erase p.guid }) hentities
    · show s.listening.erase p = (listeners w.calls).erase p
      rw [h.listening]

/-- The creation of an endpoint. -/
theorem Follows.endpointCreation (h : Follows w s) {event : DelayedEndpointCreation}
    {reply : Reply} (hw : event.execute reply w = some w') :
    ∃ s', run? step s ((event.requests reply w).map .request) = some s' ∧ Follows w' s' := by
  rcases World.endpointCreation_cases hw with ⟨hpart, rfl⟩ | ⟨part, pubsub, hpart, hpub, wType,
    wTopic, topic, rfl, htopic, wEnd, endpoint, hend, rfl⟩
  · refine h.requests ?_ rfl
    unfold DelayedEndpointCreation.requests
    rw [hpart]
    rfl
  · obtain ⟨hmanager, hlisteners⟩ := executeRequests_topic event reply
      ((w.withManager (w.manager.readInfo event.participantGuid)).call (.registerType part)) part
    have hrequests : event.requests reply w =
        .getPubSubEntityFromParticipantGuid event.kind event.participantGuid ::
          (event.topicRequests reply ((w.withManager
            (w.manager.readInfo event.participantGuid)).call (.registerType part)) part ++
          [.setDomainEntityTopic endpoint topic, .addEndpoint event.kind endpoint]) := by
      unfold DelayedEndpointCreation.requests
        DiscoveryServerManager.getPubSubEntityFromParticipantGuid
      dsimp only
      rw [hpart, hpub]
      dsimp only
      rw [htopic]
      dsimp only
      rw [hend]
    rw [htopic] at hmanager hlisteners
    have hsame : wEnd.manager = wTopic.manager ∧ listeners wEnd.calls = listeners wTopic.calls := by
      cases hend
      exact ⟨rfl, rfl⟩
    refine h.requests ?_ (hsame.2.trans hlisteners)
    have hexecute : executeRequests w.manager (event.requests reply w) =
        DiscoveryServerManager.addEndpoint event.kind
          (wEnd.manager.setDomainEntityTopic endpoint topic) endpoint := by
      rw [hrequests, hsame.1, hmanager]
      unfold executeRequests
      rw [List.foldl_cons, List.foldl_append]
      rfl
    rw [hexecute]
    cases endpoint with
    | none => rfl
    | some e =>
      show _ = (LateJoinerDataTraits.addEndpointFunction event.kind _ _).unplanned
      rw [World.addEndpointFunction_eq]
      -- the event it is linked to learns its GUID
      cases event.linkedDestructionEvent with
      | none => rfl
      | some ptr => cases event.kind <;> rfl

theorem deleteEndpoint_spec (kind : ReaderWriter) (w : World) (e : Endpoint) :
    (World.deleteEndpoint kind w (some e)).manager = w.manager.readInfo e.participant.guid ∧
      listeners (World.deleteEndpoint kind w (some e)).calls = listeners w.calls := by
  unfold World.deleteEndpoint
  dsimp only
  cases ((w.call (.useEndpoint e)).manager.info e.participant.guid).pubSub kind with
  | none => exact ⟨rfl, rfl⟩
  | some sub => exact ⟨rfl, rfl⟩

/-- The destruction of an endpoint. -/
theorem Follows.endpointDestruction (h : Follows w s) (event : DelayedEndpointDestruction) :
    ∃ s', run? step s ((event.requests w).map .request) = some s' ∧
      Follows (event.execute w) s' := by
  have hremove : (Request.removeEndpoint event.kind event.endpointGuid).execute w.manager =
      (DiscoveryServerManager.removeEndpoint event.kind w.manager event.endpointGuid).1 := rfl
  unfold DelayedEndpointDestruction.execute DelayedEndpointDestruction.requests
  rw [World.retrieveEndpointFunction_eq, World.removeEndpointFunction_eq]
  unfold DiscoveryServerManager.removeEndpoint at hremove ⊢
  cases hfound : (w.manager.endpoints event.kind).get? event.endpointGuid with
  | none =>
    rw [hfound] at hremove
    refine h.requests ?_ rfl
    unfold executeRequests
    rw [List.foldl_cons, hremove]
    rfl
  | some e =>
    rw [hfound] at hremove
    obtain ⟨hmanager, hlisteners⟩ := deleteEndpoint_spec event.kind
      ((w.withManager (w.manager.setEndpoints event.kind
        (OrdSet.erase (w.manager.endpoints event.kind) event.endpointGuid))).call
          (.useEndpoint e)) e
    refine h.requests ?_ hlisteners
    rw [hmanager]
    unfold executeRequests
    rw [List.foldl_cons, hremove]
    rfl

/-- **Executing an event is running its parts.** -/
theorem simulates_execute : Simulates World.execute World.parts step Follows := by
  intro w event w' s h hw
  cases World.executed hw with
  | participantCreation creation hevent hw =>
    unfold World.parts
    rw [hevent]
    exact h.participantCreation hw
  | participantDestruction destruction hevent =>
    unfold World.parts
    rw [hevent]
    exact h.participantDestruction destruction
  | endpointCreation creation hevent hw =>
    unfold World.parts
    rw [hevent]
    exact h.endpointCreation hw
  | endpointDestruction destruction hevent =>
    unfold World.parts
    rw [hevent]
    exact h.endpointDestruction destruction
  | snapshot shot hevent =>
    unfold World.parts
    rw [hevent]
    refine ⟨{ s with manager := (s.manager.takeSnapshot event.2.now shot.description shot.ifSomeone
      shot.showLiveliness).1 }, ?_, h.idle, ?_, h.listening⟩
    · show (s.whenIdle _).bind _ = _
      unfold whenIdle
      rw [h.idle]
      rfl
    · exact congrArg (fun m : DiscoveryServerManager => (m.takeSnapshot event.2.now
        shot.description shot.ifSomeone shot.showLiveliness).1) h.manager
  | environmentModification change hevent =>
    unfold World.parts
    rw [hevent]
    exact ⟨s, rfl, h.idle, h.manager, h.listening⟩

end Session

end DiscoveryServer
