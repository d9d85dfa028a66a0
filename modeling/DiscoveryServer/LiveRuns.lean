import DiscoveryServer.EventThread
import DiscoveryServer.FailedCreations
import DiscoveryServer.LoadSteps
import DiscoveryServer.RunVerdict

/-!
# Live runs

`main` on a configuration, with the participants calling back all the while: participants
are created by the constructor already, so callbacks come from there on and until the
manager is terminated. A live run interleaves the steps of the thread of `main`, which are
those of the constructor and of the events, with steps of callbacks in any way.

`live_thread` says that the callbacks do not disturb the thread, `thread_completes` that they
never keep it from its next step, and `main_of_quiet` that `main` is the run in which nobody
calls. What the callbacks decide is the exit code
(`live_runs_succeed`, `live_runs_fail`).
-/

namespace DiscoveryServer

open Library

/-! ## The constructor -/

/-- What the constructor does from one world to another, as steps of a session. The plan,
which is the events and the settings, is not part of a session. -/
inductive LoadThread (w : World) : List Session.Action → World → Prop
  | start : LoadThread w [] w
  | plan {acts : List Session.Action} {w' : World} {m : DiscoveryServerManager}
    (h : LoadThread w acts w') (hm : m.unplanned = w'.manager.unplanned) :
    LoadThread w acts (w'.withManager m)
  | participant {acts : List Session.Action} {w₁ w₂ : World} {this : EventPtr}
    {event : DelayedParticipantCreation} {reply : Reply} (h : LoadThread w acts w₁)
    (hrun : event.execute this reply w₁ = some w₂) :
    LoadThread w (acts ++ event.parts reply w₁) w₂
  | endpoint {acts : List Session.Action} {w₁ w₂ : World} {event : DelayedEndpointCreation}
    {reply : Reply} (h : LoadThread w acts w₁) (hrun : event.execute reply w₁ = some w₂) :
    LoadThread w (acts ++ (event.requests reply w₁).map .request) w₂

namespace LoadThread

variable {w w' : World} {acts : List Session.Action}

/-- A loader is such a thread. -/
theorem of_steps {env : Environment} (h : LoadSteps env w w') : ∃ acts, LoadThread w acts w' := by
  induction h with
  | refl => exact ⟨[], .start⟩
  | tail _ hstep ih =>
    obtain ⟨acts, hacts⟩ := ih
    cases hstep with
    | pushBack hfresh => exact ⟨_, hacts.plan rfl⟩
    | settings autoShutdown validate file => exact ⟨_, hacts.plan rfl⟩
    | participant hrun => exact ⟨_, hacts.participant hrun⟩
    | endpoint hrun => exact ⟨_, hacts.endpoint hrun⟩

/-- The constructor is one, and so is loading the output file. -/
theorem of_construct {host : Host} {env : Environment} {sort : ∀ events, Arrangement events}
    {reply : EventPtr → Reply} {now now' : TimePoint} {file : String} {shm : Bool}
    {doc : XMLDocument} {root : XMLElement} {w : World} (hfile : host.loadFile file = some doc)
    (hroot : doc.firstChildElement "DS" = some root)
    (h : World.construct host (env.setup sort reply) now now' file shm = some w)
    (outputFile : Option String) :
    ∃ acts, LoadThread (.initial host.clock.steady now now') acts
      (w.loadOutputFile outputFile) := by
  unfold World.construct at h
  rw [hfile] at h
  dsimp only [Environment.setup] at h
  rw [hroot] at h
  obtain ⟨⟨w₁, finished⟩, hload, hw⟩ := Option.map_eq_some_iff.mp h
  have hsteps : LoadSteps env (.initial host.clock.steady now now') w₁ := by
    rw [Option.bind_some] at hload
    cases hconfig : env.loadConfig shm doc root
        ⟨.initial host.clock.steady now now', 0, [], none⟩ with
    | ok l =>
      rw [hconfig] at hload
      cases hload
      exact Environment.loadConfig_steps (.inl hconfig)
    | error stop =>
      rw [hconfig] at hload
      cases stop with
      | fault f => cases hload
      | returned l =>
        cases hload
        exact Environment.loadConfig_steps (.inr hconfig)
  obtain ⟨acts, hacts⟩ := of_steps hsteps
  have hconstructed : LoadThread (.initial host.clock.steady now now') acts w := by
    cases finished with
    | false =>
      cases hw
      exact hacts
    | true =>
      cases hw
      exact hacts.plan rfl
  refine ⟨acts, ?_⟩
  cases outputFile with
  | none => exact hconstructed
  | some filePath => exact hconstructed.plan rfl

/-- **Loading is running its steps.** -/
theorem follows (h : LoadThread w acts w') {s : Session} (hs : Session.Follows w s) :
    ∃ s', run? Session.step s acts = some s' ∧ Session.Follows w' s' := by
  induction h with
  | start => exact ⟨s, rfl, hs⟩
  | plan _ hm ih =>
    obtain ⟨s', hrun, hs'⟩ := ih
    exact ⟨s', hrun, hs'.idle, hs'.manager.trans hm.symm, hs'.listening⟩
  | participant _ hevent ih =>
    obtain ⟨s₁, hrun, hs₁⟩ := ih
    obtain ⟨s₂, hparts, hs₂⟩ := hs₁.participantCreation hevent
    refine ⟨s₂, ?_, hs₂⟩
    rw [run?_append, hrun]
    exact hparts
  | endpoint _ hevent ih =>
    obtain ⟨s₁, hrun, hs₁⟩ := ih
    obtain ⟨s₂, hparts, hs₂⟩ := hs₁.endpointCreation hevent
    refine ⟨s₂, ?_, hs₂⟩
    rw [run?_append, hrun]
    exact hparts

end LoadThread

/-! ## Live runs -/

/-- The program on a configuration: what it relies on, and the steps of all its threads. -/
structure LiveRun where
  host : Host
  env : Environment
  sort : ∀ events, Arrangement events
  reply : EventPtr → Reply
  now : TimePoint
  now' : TimePoint
  args : Arguments
  actions : List Session.Action

namespace LiveRun

/-- Before the constructor reads the configuration. -/
def initial (run : LiveRun) : World := .initial run.host.clock.steady run.now run.now'

def setup (run : LiveRun) : Setup := run.env.setup run.sort run.reply

/-- The steps of the events. -/
def eventSteps (run : LiveRun) (w : World) : List Session.Action :=
  expansion World.execute World.parts w (w.runSteps (run.sort w.manager.events) run.reply)

/-- The constructor has made `w` of the configuration, the events have led to `w'`, and with
the callbacks in between the session is `s`. -/
structure Reaches (run : LiveRun) (w w' : World) (s : Session) : Prop where
  constructed : ∃ file doc root w₀, checkArguments run.args = .inr file ∧
    run.host.loadFile file = some doc ∧ doc.firstChildElement "DS" = some root ∧
      World.construct run.host run.setup run.now run.now' file run.args.shm = some w₀ ∧
        w = w₀.loadOutputFile run.args.outputFile
  executed : w.executeAll (w.runSteps (run.sort w.manager.events) run.reply) = some w'
  thread : ∃ load, LoadThread run.initial load w ∧
    run.actions.filter Session.Action.isThread = load ++ run.eventSteps w
  session : run? Session.step (.start run.initial.manager) run.actions = some s

/-- Nobody calls. -/
def Quiet (run : LiveRun) : Prop := ∀ a ∈ run.actions, a.isThread = true

/-- The manager that `main` goes on with: what the thread works with as the events have left
it, the database and the snapshots as the session has them. -/
def manager (w' : World) (s : Session) : DiscoveryServerManager :=
  { w'.manager with
    state := s.manager.state
    snapshots := s.manager.snapshots
    lastPDPCallback := s.manager.lastPDPCallback
    lastEDPCallback := s.manager.lastEDPCallback }

/-- The exit code of `main`. -/
def exitCode (w w' : World) (s : Session) : Int :=
  let returnCode := if w.manager.correctlyCreated then 0 else 1
  -- check the snapshots read
  if (manager w' s).shouldValidate then
    if (manager w' s).validateAllSnapshots then returnCode else -1
  else returnCode

end LiveRun

section LiveRuns

variable {run : LiveRun} {w w' : World} {s : Session}

namespace LiveRun.Reaches

/-- Without the callbacks the thread gets to the same place. -/
theorem thread_run (h : run.Reaches w w' s) : ∃ t,
    run? Session.step (.start run.initial.manager)
        (run.actions.filter Session.Action.isThread) = some t ∧
      Session.Follows w' t ∧ Session.Alike s t := by
  obtain ⟨load, hload, hthread⟩ := h.thread
  obtain ⟨t, ht, halike⟩ := Session.run_thread h.session
  obtain ⟨s₁, hs₁, hw⟩ := hload.follows (Session.follows_start rfl)
  obtain ⟨s₂, hs₂, hw'⟩ := Session.simulates_execute.run hw h.executed
  have hsame : run? Session.step (.start run.initial.manager)
      (run.actions.filter Session.Action.isThread) = some s₂ := by
    rw [hthread, run?_append, hs₁]
    exact hs₂
  have heq : t = s₂ := Option.some.inj (ht.symm.trans hsame)
  subst heq
  exact ⟨t, ht, hw', halike⟩

theorem countP_isSnapshot_filter (actions : List Session.Action) :
    (actions.filter Session.Action.isThread).countP Session.Action.isSnapshot =
      actions.countP Session.Action.isSnapshot := by
  rw [List.countP_filter]
  refine List.countP_congr fun a _ => ?_
  cases a <;> simp [Session.Action.isSnapshot, Session.Action.isThread]

/-- Callbacks neither add snapshots nor keep any from being taken. -/
theorem length_snapshots (h : run.Reaches w w' s) :
    s.manager.snapshots.length = w'.manager.snapshots.length := by
  obtain ⟨t, ht, hfollows, -⟩ := h.thread_run
  have hcount : ∀ {actions : List Session.Action} {u : Session},
      run? Session.step (.start run.initial.manager) actions = some u →
        u.manager.snapshots.length = actions.countP Session.Action.isSnapshot := by
    intro actions u hu
    rw [Session.snapshots_run hu, List.length_append, Session.length_recorded hu]
    exact Nat.zero_add _
  have hsnapshots : t.manager.snapshots = w'.manager.snapshots :=
    (congrArg DiscoveryServerManager.snapshots hfollows.manager :)
  rw [hcount h.session, ← countP_isSnapshot_filter, ← hcount ht, hsnapshots]

end LiveRun.Reaches

/-- **The thread of `main` in a live run.** However the callbacks come in between, the thread
comes to its end with the participants, endpoints and entries that the events make, they
are the ones that listen, and as many snapshots have been taken. -/
theorem live_thread (h : run.Reaches w w' s) :
    s.progress = .idle ∧ s.manager.inventory = w'.manager.inventory ∧
      s.listening = listeners w'.calls ∧
        s.manager.snapshots.length = w'.manager.snapshots.length := by
  obtain ⟨t, -, hfollows, halike⟩ := h.thread_run
  refine ⟨halike.progress.trans hfollows.idle, ?_, halike.listening.trans hfollows.listening,
    h.length_snapshots⟩
  exact halike.inventory.trans (DiscoveryServerManager.inventory_of_unplanned hfollows.manager)

theorem correctlyCreated_loadOutputFile (w : World) (outputFile : Option String) :
    (w.loadOutputFile outputFile).manager.correctlyCreated = w.manager.correctlyCreated := by
  cases outputFile <;> rfl

/-- What `main` does with a configuration: the constructor, the events, the verdict. -/
theorem main_configured {file : String} (hargs : checkArguments run.args = .inr file) :
    (main run.host run.setup run.now run.now' run.args).map Prod.fst =
      (World.construct run.host run.setup run.now run.now' file run.args.shm).bind fun w₀ =>
        ((w₀.loadOutputFile run.args.outputFile).executeAll
          ((w₀.loadOutputFile run.args.outputFile).runSteps (run.sort _) run.reply)).map fun w' =>
            LiveRun.exitCode (w₀.loadOutputFile run.args.outputFile) w' (.start w'.manager) := by
  unfold main
  rw [hargs]
  dsimp only
  cases World.construct run.host run.setup run.now run.now' file run.args.shm with
  | none => rfl
  | some w₀ =>
    dsimp only [Option.bind_some]
    unfold World.runSteps
    rw [← World.runEvents_fst]
    show _ = (((w₀.loadOutputFile run.args.outputFile).runEvents (run.setup.sort _)
      run.setup.reply).map Prod.fst).map _
    cases (w₀.loadOutputFile run.args.outputFile).runEvents (run.setup.sort _)
        run.setup.reply with
    | none => rfl
    | some result =>
      have hmanager : LiveRun.manager result.1 (.start result.1.manager) = result.1.manager := rfl
      dsimp only [Option.map_some]
      unfold LiveRun.exitCode
      rw [correctlyCreated_loadOutputFile, hmanager]
      split_ifs <;> rfl

/-- A session that has followed the thread has the manager of the thread. -/
theorem manager_of_follows (h : Session.Follows w' s) : LiveRun.manager w' s = w'.manager :=
  (congrArg (fun m => LiveRun.manager w' { s with manager := m }) h.manager :)

/-- When nobody calls, `main` ends with the exit code of the run. -/
theorem main_of_quiet (h : run.Reaches w w' s) (hquiet : run.Quiet) :
    (main run.host run.setup run.now run.now' run.args).map Prod.fst =
      some (LiveRun.exitCode w w' s) := by
  obtain ⟨file, doc, root, w₀, hargs, -, -, hconstruct, rfl⟩ := h.constructed
  have hmanager : LiveRun.manager w' s = LiveRun.manager w' (.start w'.manager) := by
    obtain ⟨t, ht, hfollows, -⟩ := h.thread_run
    rw [List.filter_eq_self.mpr hquiet, h.session] at ht
    cases ht
    exact manager_of_follows hfollows
  rw [main_configured hargs, hconstruct, Option.bind_some, h.executed, Option.map_some]
  unfold LiveRun.exitCode
  rw [hmanager]

end LiveRuns

section Quiet

variable {run : LiveRun} {w w' : World}

/-- Executing an event is work of the thread. -/
theorem isThread_requests (rs : List Session.Request) :
    ∀ a ∈ rs.map Session.Action.request, a.isThread = true := by
  intro a ha
  obtain ⟨r, -, rfl⟩ := List.mem_map.mp ha
  rfl

theorem isThread_creation (event : DelayedParticipantCreation) (reply : Reply) (w : World) :
    ∀ a ∈ event.parts reply w, a.isThread = true := by
  unfold DelayedParticipantCreation.parts
  cases reply.participant with
  | none => exact List.forall_mem_nil _
  | some guid => simp [Session.Action.isThread]

theorem isThread_parts (w : World) (step : EventPtr × Reply) :
    ∀ a ∈ w.parts step, a.isThread = true := by
  unfold World.parts
  cases w.manager.events[step.1]? with
  | none => exact List.forall_mem_nil _
  | some event =>
    cases event with
    | participantCreation event => exact isThread_creation event step.2 w
    | participantDestruction event =>
      dsimp only
      cases w.manager.filed event.participantId <;> simp [Session.Action.isThread]
    | endpointCreation event => exact isThread_requests _
    | endpointDestruction event => exact isThread_requests _
    | snapshot event => simp [Session.Action.isThread]
    | environmentModification event => exact List.forall_mem_nil _

theorem LoadThread.isThread {acts : List Session.Action} (h : LoadThread w acts w') :
    ∀ a ∈ acts, a.isThread = true := by
  induction h with
  | start => exact List.forall_mem_nil _
  | plan _ _ ih => exact ih
  | participant _ _ ih => exact List.forall_mem_append.mpr ⟨ih, isThread_creation _ _ _⟩
  | endpoint _ _ ih => exact List.forall_mem_append.mpr ⟨ih, isThread_requests _⟩

theorem isThread_expansion (w : World) (steps : List (EventPtr × Reply)) :
    ∀ a ∈ expansion World.execute World.parts w steps, a.isThread = true := by
  induction steps generalizing w with
  | nil => exact List.forall_mem_nil _
  | cons step steps ih =>
    rw [expansion]
    refine List.forall_mem_append.mpr ⟨isThread_parts w step, ?_⟩
    cases w.execute step with
    | none => exact List.forall_mem_nil _
    | some w' => exact ih w'

/-- The run of a program with other steps. -/
def LiveRun.withActions (run : LiveRun) (actions : List Session.Action) : LiveRun :=
  { run with actions := actions }

/-- What the program does when nobody calls is a live run. -/
theorem exists_quiet {file : String} {doc : XMLDocument} {root : XMLElement} {w₀ : World}
    (hargs : checkArguments run.args = .inr file) (hfile : run.host.loadFile file = some doc)
    (hroot : doc.firstChildElement "DS" = some root)
    (hconstruct : World.construct run.host run.setup run.now run.now' file run.args.shm = some w₀)
    (hexecuted : (w₀.loadOutputFile run.args.outputFile).executeAll
      ((w₀.loadOutputFile run.args.outputFile).runSteps (run.sort _) run.reply) = some w') :
    ∃ actions s, (run.withActions actions).Reaches (w₀.loadOutputFile run.args.outputFile) w' s ∧
      (run.withActions actions).Quiet := by
  obtain ⟨load, hload⟩ := LoadThread.of_construct hfile hroot hconstruct run.args.outputFile
  obtain ⟨s₁, hs₁, hw⟩ := hload.follows (Session.follows_start rfl)
  obtain ⟨s, hs, -⟩ := Session.simulates_execute.run hw hexecuted
  have hthread : ∀ a ∈ load ++ run.eventSteps (w₀.loadOutputFile run.args.outputFile),
      a.isThread = true :=
    List.forall_mem_append.mpr ⟨hload.isThread, isThread_expansion _ _⟩
  refine ⟨load ++ run.eventSteps (w₀.loadOutputFile run.args.outputFile), s,
    ⟨⟨file, doc, root, w₀, hargs, hfile, hroot, hconstruct, rfl⟩, hexecuted, ⟨load, hload, ?_⟩, ?_⟩,
    hthread⟩
  · exact List.filter_eq_self.mpr hthread
  · show run? Session.step (.start (World.initial run.host.clock.steady run.now run.now').manager)
      (load ++ _) = some s
    rw [run?_append, hs₁]
    exact hs

/-- **The callbacks never keep the thread from its next step.** Wherever the callbacks and a
part of the steps of the thread have led to, what is left of these steps can be taken from
there, and the run is complete. -/
theorem thread_completes (h : run.Reaches w w' s) {before rest : List Session.Action}
    (hthread : run.actions.filter Session.Action.isThread =
      before.filter Session.Action.isThread ++ rest) {u : Session}
    (hbefore : run? Session.step (.start run.initial.manager) before = some u) :
    ∃ v, run? Session.step u rest = some v ∧
      (run.withActions (before ++ rest)).Reaches w w' v := by
  have hrest : ∀ a ∈ rest, a.isThread = true := by
    intro a ha
    have hmem : a ∈ run.actions.filter Session.Action.isThread := by
      rw [hthread]
      exact List.mem_append_right _ ha
    exact (List.mem_filter.mp hmem).2
  obtain ⟨t, ht, -, -⟩ := h.thread_run
  rw [hthread] at ht
  obtain ⟨v, hv, -⟩ := Session.thread_goes_on hbefore hrest ht
  obtain ⟨load, hload, hsteps⟩ := h.thread
  refine ⟨v, hv, h.constructed, h.executed, ⟨load, hload, ?_⟩, ?_⟩
  · show (before ++ rest).filter Session.Action.isThread = load ++ run.eventSteps w
    rw [List.filter_append, List.filter_eq_self.mpr hrest, ← hthread, hsteps]
  · show run? Session.step (.start run.initial.manager) (before ++ rest) = some v
    rw [run?_append, hbefore]
    exact hv

/-- **`main` is the live run in which nobody calls**: it ends if there is such a run, and with
its exit code. -/
theorem main_eq_quiet {file : String} {doc : XMLDocument} {root : XMLElement}
    (hargs : checkArguments run.args = .inr file) (hfile : run.host.loadFile file = some doc)
    (hroot : doc.firstChildElement "DS" = some root) (code : Int) :
    (main run.host run.setup run.now run.now' run.args).map Prod.fst = some code ↔
      ∃ actions w w' s, (run.withActions actions).Reaches w w' s ∧
        (run.withActions actions).Quiet ∧ LiveRun.exitCode w w' s = code := by
  constructor
  · intro hmain
    obtain ⟨w₀, hconstruct, hevents⟩ :=
      Option.bind_eq_some_iff.mp ((main_configured hargs).symm.trans hmain)
    obtain ⟨w', hexecuted, -⟩ := Option.map_eq_some_iff.mp hevents
    obtain ⟨actions, s, hreaches, hquiet⟩ := exists_quiet hargs hfile hroot hconstruct hexecuted
    refine ⟨actions, _, w', s, hreaches, hquiet, ?_⟩
    have hcode := main_of_quiet hreaches hquiet
    exact (Option.some.inj (hmain.symm.trans hcode)).symm
  · rintro ⟨actions, w, w', s, hreaches, hquiet, rfl⟩
    have hcode := main_of_quiet hreaches hquiet
    exact hcode

end Quiet

/-! ## Exit codes -/

section ExitCodes

variable {run : LiveRun} {w w' : World} {s : Session}

theorem validateAllSnapshots_manager (w' : World) (s : Session) :
    (LiveRun.manager w' s).validateAllSnapshots = s.manager.validateAllSnapshots := rfl

/-- **Done at every snapshot.** The program ends with the exit code that its construction
has earned, and whoever validates the file it has saved is told that all is well. -/
theorem live_runs_succeed (h : run.Reaches w w' s)
    (hdone : ∀ before tp desc someone showLiveliness after u,
      run.actions = before ++ .takeSnapshot tp desc someone showLiveliness :: after →
        run? Session.step (.start run.initial.manager) before = some u →
          ∃ net, Session.AllDone (Session.history (.start run.initial.manager) before) u.manager
            net) :
    LiveRun.exitCode w w' s = (if w.manager.correctlyCreated then 0 else 1) ∧
      (run.host.format.Lossless → (∀ shot ∈ s.manager.snapshots, isBlank shot.des = false) →
        LaterRuns run.host (LiveRun.manager w' s) 1) := by
  have hvalid := Session.validates_run rfl rfl h.session hdone
  constructor
  · unfold LiveRun.exitCode
    rw [validateAllSnapshots_manager, hvalid]
    dsimp only
    rw [if_pos rfl, ite_self]
  · exact fun hf hdes => laterRuns_of (m := LiveRun.manager w' s) hvalid hf hdes

/-- **Two missed at some snapshot.** The program ends with -1 if it is to validate, and so
does whoever validates the file it has saved. -/
theorem live_runs_fail (h : run.Reaches w w' s) {before after : List Session.Action}
    {tp : TimePoint} {desc : String} {someone showLiveliness : Bool}
    (hsplit : run.actions = before ++ .takeSnapshot tp desc someone showLiveliness :: after)
    {u : Session} (hbefore : run? Session.step (.start run.initial.manager) before = some u)
    {net : Network} {a : Guid}
    (hmisses : Session.Misses (Session.history (.start run.initial.manager) before) u.manager net
      a) :
    (w'.manager.validate = true → LiveRun.exitCode w w' s = -1) ∧
      (run.host.format.Lossless → (∀ shot ∈ s.manager.snapshots, isBlank shot.des = false) →
        LaterRuns run.host (LiveRun.manager w' s) (-1)) := by
  have hfails := Session.fails_run rfl rfl h.session hsplit hbefore hmisses
  constructor
  · intro hvalidate
    have hshould : (LiveRun.manager w' s).shouldValidate = true := by
      unfold DiscoveryServerManager.shouldValidate
      show (w'.manager.validate && !s.manager.snapshots.isEmpty) = true
      rw [hvalidate, Bool.true_and]
      cases hsnapshots : s.manager.snapshots with
      | nil =>
        -- nothing would have failed
        unfold DiscoveryServerManager.validateAllSnapshots at hfails
        rw [hsnapshots] at hfails
        cases hfails
      | cons shot shots => rfl
    unfold LiveRun.exitCode
    rw [if_pos hshould, validateAllSnapshots_manager, hfails]
    rfl
  · exact fun hf hdes => laterRuns_of (m := LiveRun.manager w' s) hfails hf hdes

end ExitCodes

/-! ## A configuration -/

/-- Two clients that are created at once, and a snapshot after 5 s. -/
def liveConfig : XMLDocument where
  elements := [⟨"DS", [], none, [
    ⟨"clients", [], none, [⟨"client", [("profile_name", "client")], none, []⟩,
      ⟨"client", [("profile_name", "client")], none, []⟩]⟩,
    ⟨"snapshots", [], none, [⟨"snapshot", [("time", "5")], some "all", []⟩]⟩]⟩]

/-- Sorting a single event. -/
def sortSingle (events : List LateJoinerData) : Arrangement events :=
  if h : events.length = 1 then
    { order := [0]
      perm := by
        rw [h]
        exact .refl _
      sorted := List.pairwise_singleton _ _ }
  else .stable events

/-- The program on this configuration. -/
def sampleLive (actions : List Session.Action) : LiveRun where
  host := ⟨sampleFormat, ⟨0, 0⟩, fun _ => some liveConfig⟩
  env := sampleEnvironment
  sort := sortSingle
  reply _ := { participant := none, now := 7 }
  now := 0
  now' := 0
  args := { sampleArguments with configFile := ["config.xml"] }
  actions := actions

/-- The client that is created as number `i`. -/
def liveMember (i : Nat) : DomainParticipant := ⟨i, .ofPrefix (.ofNat 96 (2 ^ 64 + i)), "client"⟩

/-- The creation of a client while the configuration is loaded. -/
def liveCreation : DelayedParticipantCreation where
  time := 0
  qos := { name := "client", discoveryProtocol := .client }
  participantCreationFunction := .client
  removalEvent := none

def liveReply (i : Nat) : Reply := { participant := some (liveMember i).guid }

/-- Whatever differs in the plan only has been loaded in the same steps. -/
theorem LoadThread.same {w w' w'' : World} {acts : List Session.Action} (h : LoadThread w acts w')
    (hmanager : w''.manager.unplanned = w'.manager.unplanned) (hid : w''.nextId = w'.nextId)
    (hcalls : w''.calls = w'.calls) (hfile : w''.environmentFile = w'.environmentFile) :
    LoadThread w acts w'' := by
  have heq : w'' = w'.withManager w''.manager := by
    obtain ⟨m, n, calls, file⟩ := w''
    cases hid
    cases hcalls
    cases hfile
    rfl
  rw [heq]
  exact h.plan hmanager

/-- Where the constructor gets to. -/
theorem sampleLive_loads : ∃ w, World.construct (sampleLive []).host (sampleLive []).setup 0 0
    "config.xml" false = some w ∧
      LoadThread (.initial 0 0 0) (Session.joins (liveMember 0) ++ Session.joins (liveMember 1)) w ∧
        w.manager.correctlyCreated = true ∧
          ∀ actions, ∃ w', w.executeAll (w.runSteps ((sampleLive actions).sort w.manager.events)
            (sampleLive actions).reply) = some w' ∧ w'.manager.validate = true ∧
              (sampleLive actions).eventSteps w = [.takeSnapshot 7 "all" true false] := by
  refine ⟨_, rfl, ?_, rfl, fun actions => ⟨_, rfl, rfl, rfl⟩⟩
  have hload := (LoadThread.start.participant
    (show liveCreation.execute 0 (liveReply 0) (.initial 0 0 0) = some _ from rfl)).participant
    (show liveCreation.execute 0 (liveReply 1) _ = some _ from rfl)
  exact hload.same rfl rfl rfl rfl

/-- Any callbacks between the steps of the thread make a run. -/
theorem sampleLive_reaches (actions : List Session.Action)
    (hthread : actions.filter Session.Action.isThread =
      Session.joins (liveMember 0) ++ Session.joins (liveMember 1) ++
        [.takeSnapshot 7 "all" true false])
    (hrun : (run? Session.step (.start (.initial 0 0 0)) actions).isSome) :
    ∃ w w' s, (sampleLive actions).Reaches w w' s ∧ w.manager.correctlyCreated = true ∧
      w'.manager.validate = true := by
  obtain ⟨s, hrun⟩ := Option.isSome_iff_exists.mp hrun
  obtain ⟨w, hconstruct, hload, hcreated, hevents⟩ := sampleLive_loads
  obtain ⟨w', hexecuted, hvalidate, hsteps⟩ := hevents actions
  refine ⟨w, w', s, ⟨⟨"config.xml", liveConfig, _, w, rfl, rfl, rfl, hconstruct, rfl⟩, hexecuted,
    ⟨_, hload, ?_⟩, hrun⟩, hcreated, hvalidate⟩
  rw [hsteps]
  exact hthread

/-- The two discover each other before the snapshot. -/
def livePair : LiveRun :=
  sampleLive (Session.pairMeets (liveMember 0) (liveMember 1) ++ [.takeSnapshot 7 "all" true false])

/-- The first discovers nobody. -/
def liveDeaf : LiveRun :=
  sampleLive (Session.oneDeaf (liveMember 0) (liveMember 1) (liveMember 2) ++
    [.takeSnapshot 7 "all" true false])

theorem live_thread_sample : ∃ w w' s, livePair.Reaches w w' s ∧
    s.manager.inventory = w'.manager.inventory := by
  obtain ⟨w, w', s, hreaches, -⟩ := sampleLive_reaches livePair.actions rfl rfl
  exact ⟨w, w', s, hreaches, (live_thread hreaches).2.1⟩

/-- Without callbacks the two stay alone, and the snapshot fails. -/
theorem main_eq_quiet_sample :
    (main livePair.host livePair.setup 0 0 livePair.args).map Prod.fst = some (-1) ↔
      ∃ actions w w' s, (livePair.withActions actions).Reaches w w' s ∧
        (livePair.withActions actions).Quiet ∧ LiveRun.exitCode w w' s = -1 :=
  main_eq_quiet (rfl : checkArguments livePair.args = .inr "config.xml") rfl rfl (-1)

theorem live_runs_succeed_sample : ∃ w w' s, livePair.Reaches w w' s ∧
    LiveRun.exitCode w w' s = 0 := by
  obtain ⟨w, w', s, hreaches, hcreated, -⟩ := sampleLive_reaches livePair.actions rfl rfl
  have hcode := (live_runs_succeed hreaches ?_).1
  · rw [hcreated] at hcode
    exact ⟨w, w', s, hreaches, hcode⟩
  · intro before tp desc someone showLiveliness after u hsplit hbefore
    have heq : before = Session.pairMeets (liveMember 0) (liveMember 1) :=
      eq_of_snoc hsplit (p := Session.Action.isSnapshot) (by decide) rfl
    subst heq
    have hkeys : u.manager.registered.keys = [(liveMember 0).guid, (liveMember 1).guid] := by
      cases hbefore
      rfl
    exact ⟨_, Session.allDone_pair (by decide) hkeys⟩

theorem live_runs_fail_sample : ∃ w w' s, liveDeaf.Reaches w w' s ∧
    LiveRun.exitCode w w' s = -1 := by
  obtain ⟨w, w', s, hreaches, -, hvalidate⟩ := sampleLive_reaches liveDeaf.actions rfl rfl
  obtain ⟨u, hbefore, hkeys⟩ : ∃ u, run? Session.step (.start liveDeaf.initial.manager)
      (Session.oneDeaf (liveMember 0) (liveMember 1) (liveMember 2)) = some u ∧
        u.manager.registered.keys = [(liveMember 0).guid, (liveMember 1).guid] := ⟨_, rfl, rfl⟩
  have hmisses := Session.misses_two (c := (liveMember 2).guid) (by decide) (by decide)
    (by decide) hkeys
  exact ⟨w, w', s, hreaches, (live_runs_fail hreaches rfl hbefore hmisses).1 hvalidate⟩

end DiscoveryServer
