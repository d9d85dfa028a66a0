import DiscoveryServer.Convergence
import DiscoveryServer.DatabaseNames
import DiscoveryServer.LastCallbacks

/-!
# What the snapshots of a run hold

While callbacks change the database, the thread of `runEvents` takes snapshots of it. The
list of snapshots only grows, by one at each such step (`snapshots_run`), and the database
is what the operations performed so far have made of it (`state_run`). So each snapshot is
a prefix of the run: it holds the ledgers kept by the operations before it, completed with
the participants registered at that moment, and nothing that comes later touches it
(`snapshots_are_prefixes`).
-/

namespace DiscoveryServer

open Library ParticipantDiscoveryDatabase

namespace Session

/-- The operations that a run performs on the database, in order. -/
def history (s : Session) (actions : List Action) : List Call := observed step call s actions

/-- The snapshot that a step takes. -/
def snapshot (s : Session) : Action → Option Snapshot
  | .takeSnapshot tp desc someone showLiveliness =>
    some (s.manager.takeSnapshot tp desc someone showLiveliness).2
  | _ => none

/-- The snapshots that a run takes, in order. -/
def recorded (s : Session) (actions : List Action) : List Snapshot :=
  observed step snapshot s actions

/-! ## One step -/

theorem snapshots_creationFunction (role : ParticipantRole) (m : DiscoveryServerManager)
    (p : DomainParticipant) : (role.creationFunction m p).snapshots = m.snapshots := by
  cases role <;> rfl

theorem snapshots_unfile (m : DiscoveryServerManager) (id : Guid) :
    (m.unfile id).snapshots = m.snapshots := by
  unfold DiscoveryServerManager.unfile
  cases m.clients.get? id with
  | some c => rfl
  | none => cases m.servers.get? id <;> rfl

theorem snapshots_removeEntities (m : DiscoveryServerManager) (id : Guid) :
    (m.removeEntities id).1.snapshots = m.snapshots := snapshots_unfile _ id

theorem snapshots_proceed {s s' : Session} (h : s.proceed = some s') :
    s'.manager.snapshots = s.manager.snapshots := by
  unfold proceed at h
  cases hprogress : s.progress with
  | idle =>
    rw [hprogress] at h
    cases h
  | created role p info =>
    rw [hprogress] at h
    cases h
    exact snapshots_creationFunction role s.manager p
  | filed p info =>
    rw [hprogress] at h
    cases h
    rfl
  | databaseRemoved id =>
    rw [hprogress] at h
    dsimp only at h
    cases hp : (s.manager.removeEntities id).2 with
    | none =>
      rw [hp] at h
      cases h
      exact snapshots_removeEntities s.manager id
    | some p =>
      rw [hp] at h
      cases h
      exact snapshots_removeEntities s.manager id
  | removed p =>
    rw [hprogress] at h
    cases h
    rfl

theorem snapshots_request (m : DiscoveryServerManager) (r : Request) :
    (r.execute m).snapshots = m.snapshots := by
  cases r with
  | getPubSubEntityFromParticipantGuid kind id => rfl
  | setParticipantTopic p t =>
    unfold Request.execute DiscoveryServerManager.setParticipantTopic
    cases p with
    | none => rfl
    | some p =>
      cases t with
      | none => rfl
      | some t =>
        dsimp only
        cases m.entityMap.get? p.guid <;> rfl
  | setDomainEntityTopic entity t => cases entity <;> cases t <;> rfl
  | addEndpoint kind e => cases e <;> cases kind <;> rfl
  | removeEndpoint kind id =>
    unfold Request.execute DiscoveryServerManager.removeEndpoint
    dsimp only
    cases (m.endpoints kind).get? id with
    | none => rfl
    | some e => cases kind <;> rfl

theorem snapshots_callback (c : Callback) (m : DiscoveryServerManager) (now : TimePoint)
    (progress : Callback.Progress) : (c.step m now progress).1.snapshots = m.snapshots := by
  cases progress with
  | entered =>
    unfold Callback.step
    dsimp only
    cases m.getParticipant c.participant.guid <;> rfl
  | known => rfl
  | timed t =>
    unfold Callback.step Callback.note
    dsimp only
    cases c.notice <;> rfl
  | noted t server =>
    show (Callback.update m now (c.operation t server)).snapshots = m.snapshots
    cases c.operation t server <;> rfl
  | returned => rfl

/-- **The list of snapshots grows** by the snapshot that a step takes. -/
theorem snapshots_step {s s' : Session} {a : Action} (h : s.step a = some s') :
    s'.manager.snapshots = s.manager.snapshots ++ (s.snapshot a).toList := by
  have hnone : ∀ {l l' : List Snapshot}, l' = l → l' = l ++ (none : Option Snapshot).toList :=
    fun heq => heq.trans (List.append_nil _).symm
  cases a with
  | create role p publisher subscriber =>
    rw [whenIdle_eq_some h]
    exact hnone rfl
  | destroy id =>
    rw [whenIdle_eq_some h]
    exact hnone rfl
  | proceed => exact hnone (snapshots_proceed h)
  | request r =>
    rw [whenIdle_eq_some h]
    exact hnone (snapshots_request s.manager r)
  | takeSnapshot tp desc someone showLiveliness =>
    rw [whenIdle_eq_some h]
    rfl
  | enter p notice =>
    obtain ⟨-, hs'⟩ := Option.ite_none_right_eq_some.mp h
    cases hs'
    exact hnone rfl
  | advance i now =>
    obtain ⟨c, progress, -, hmanager, -⟩ := advance_spec h
    rw [hmanager]
    exact hnone (snapshots_callback c s.manager now progress)
  | changeLiveliness now reader alive notAlive =>
    cases h
    exact hnone rfl

/-! ## A run -/

variable {s s' : Session} {actions : List Action}

theorem snapshots_run (hrun : run? step s actions = some s') :
    s'.manager.snapshots = s.manager.snapshots ++ recorded s actions := by
  induction actions generalizing s with
  | nil =>
    cases hrun
    exact (List.append_nil _).symm
  | cons a actions ih =>
    obtain ⟨t, ht, hrest⟩ := Option.bind_eq_some_iff.mp hrun
    have hrecorded : recorded s (a :: actions) = (s.snapshot a).toList ++ recorded t actions :=
      observed_cons ht actions
    rw [ih hrest, snapshots_step ht, hrecorded, List.append_assoc]

/-- The database is what the operations have made of it. -/
theorem state_run (hrun : run? step s actions = some s') :
    s'.manager.state = run DiscoveryItemDatabase.step s.manager.state (history s actions) := by
  induction actions generalizing s with
  | nil =>
    cases hrun
    rfl
  | cons a actions ih =>
    obtain ⟨t, ht, hrest⟩ := Option.bind_eq_some_iff.mp hrun
    have hhistory : history s (a :: actions) = (s.call a).toList ++ history t actions :=
      observed_cons ht actions
    rw [ih hrest, state_step ht, hhistory]
    cases s.call a <;> rfl

/-- The step takes a snapshot. -/
def Action.isSnapshot : Action → Bool
  | .takeSnapshot .. => true
  | _ => false

theorem length_recorded (hrun : run? step s actions = some s') :
    (recorded s actions).length = actions.countP Action.isSnapshot := by
  induction actions generalizing s with
  | nil => rfl
  | cons a actions ih =>
    obtain ⟨t, ht, hrest⟩ := Option.bind_eq_some_iff.mp hrun
    have hrecorded : recorded s (a :: actions) = (s.snapshot a).toList ++ recorded t actions :=
      observed_cons ht actions
    rw [hrecorded, List.length_append, ih hrest, List.countP_cons]
    cases a <;> simp [snapshot, Action.isSnapshot, Nat.add_comm]

end Session

/-! ## What a snapshot holds -/

/-- The snapshot, as it was asked for, of a manager whose database has gone through a
history: the ledgers of the spokesmen, and an empty database for everybody else who is
registered. -/
structure Snapshot.Holds (shot : Snapshot) (h : List Call) (m : DiscoveryServerManager)
    (tp : TimePoint) (desc : String) (someone showLiveliness : Bool) : Prop where
  time : shot.time = tp
  des : shot.des = desc
  ifSomeone : shot.ifSomeone = someone
  showLiveliness : shot.showLiveliness = showLiveliness
  lastPDPCallback : shot.lastPDPCallback = m.lastPDPCallback
  lastEDPCallback : shot.lastEDPCallback = m.lastEDPCallback
  databases : ∀ g, (shot.databases.find? g).isSome ↔
    (ledgerAfter h g).opened = true ∨ g ∈ m.registered.keys
  items : ∀ g, ∀ d ∈ shot.databases.find? g, ∀ p, p ∈ d.items.keys ↔ (ledgerAfter h g).Known p
  alive : ∀ g, ∀ d ∈ shot.databases.find? g, ∀ p, ∀ it ∈ d.items.find? p,
    it.isAlive = (ledgerAfter h g).alive p
  endPoints : ∀ g, ∀ d ∈ shot.databases.find? g, ∀ k p e,
    d.recordOf k p e = (ledgerAfter h g).endPoint k p e

section Holds

variable {m : DiscoveryServerManager} {t now now' : TimePoint} {h : List Call}

/-- The merge adds databases and changes nothing else. -/
theorem takeSnapshot_frame (m : DiscoveryServerManager) (tp : TimePoint) (desc : String)
    (someone showLiveliness : Bool) : ∃ databases,
      (m.takeSnapshot tp desc someone showLiveliness).2 =
        { m.imageCopy tp desc someone showLiveliness with databases := databases } := by
  rw [DiscoveryServerManager.takeSnapshot_snd]
  refine DiscoveryServerManager.addIsolated.rule (fun _ => True)
    (fun s shot => ∃ databases, shot = { s.2 with databases := databases }) ?_ ?_ trivial
  · intro s shot _ hstop
    rw [DiscoveryServerManager.isolatedPass_stop hstop]
    exact ⟨shot.databases, rfl⟩
  · intro s s' _ hpass
    obtain ⟨ids, shot⟩ := s
    cases ids with
    | nil => cases hpass
    | cons id ids =>
      cases hpass
      exact ⟨trivial, fun r hr => hr⟩

/-- Without a database the ledger is blank. -/
theorem ledgerAfter_eq_blank {g : Guid}
    (hnone : (run DiscoveryItemDatabase.step (.init t now now') h).databaseOf g = none) :
    ledgerAfter h g = .blank := by
  have hrun := DiscoveryItemDatabase.ledger_run t now now' h g
  unfold DiscoveryItemDatabase.ledger at hrun
  rw [hnone] at hrun
  exact hrun.symm

/-- **A snapshot holds the ledgers** of what its database has gone through. -/
theorem holds_takeSnapshot (hstate : m.state = run DiscoveryItemDatabase.step (.init t now now') h)
    (tp : TimePoint) (desc : String) (someone showLiveliness : Bool) :
    (m.takeSnapshot tp desc someone showLiveliness).2.Holds h m tp desc someone
      showLiveliness := by
  obtain ⟨databases, hframe⟩ := takeSnapshot_frame m tp desc someone showLiveliness
  have hfind := m.find?_takeSnapshot tp desc someone showLiveliness
  have hcases : ∀ g, ∀ d ∈
      (m.takeSnapshot tp desc someone showLiveliness).2.databases.find? g,
      (NoEmptyZombie d ∧ d.ledger = ledgerAfter h g) ∨
        d.items = ∅ ∧ ledgerAfter h g = .blank := by
    intro g d hd
    rw [hfind] at hd
    cases hdatabase : m.state.databaseOf g with
    | some d' =>
      rw [hdatabase] at hd
      cases hd
      rw [hstate] at hdatabase
      exact .inl ⟨DiscoveryItemDatabase.noEmptyZombie_run t now now' g h d hdatabase,
        ledger_eq_ledgerAfter hdatabase⟩
    | none =>
      rw [hdatabase, Option.none_or] at hd
      obtain ⟨-, hd⟩ := Option.ite_none_right_eq_some.mp hd
      cases hd
      rw [hstate] at hdatabase
      exact .inr ⟨rfl, ledgerAfter_eq_blank hdatabase⟩
  constructor
  · rw [hframe]
    rfl
  · rw [hframe]
    rfl
  · rw [hframe]
    rfl
  · rw [hframe]
    rfl
  · rw [hframe]
    rfl
  · rw [hframe]
    rfl
  · intro g
    rw [hfind]
    cases hdatabase : m.state.databaseOf g with
    | some d =>
      rw [hstate] at hdatabase
      rw [← ledger_eq_ledgerAfter hdatabase]
      simp [ParticipantDiscoveryDatabase.ledger]
    | none =>
      rw [hstate] at hdatabase
      rw [ledgerAfter_eq_blank hdatabase, Option.none_or]
      by_cases hg : g ∈ m.registered.keys <;> simp [hg, Ledger.blank]
  · intro g d hd p
    rcases hcases g d hd with ⟨hzombie, hledger⟩ | ⟨hempty, hblank⟩
    · rw [← hledger]
      exact mem_keys_iff_known hzombie p
    · rw [hblank, OrdSet.mem_keys, hempty]
      simp [Ledger.Known, Ledger.blank]
  · intro g d hd p it hit
    rcases hcases g d hd with ⟨-, hledger⟩ | ⟨hempty, -⟩
    · rw [← hledger]
      show it.isAlive = (d.items.find? p).any (·.isAlive)
      rw [Option.mem_def.mp hit]
      rfl
    · rw [hempty] at hit
      cases hit
  · intro g d hd k p e
    rcases hcases g d hd with ⟨-, hledger⟩ | ⟨hempty, hblank⟩
    · rw [← hledger]
      rfl
    · rw [hblank]
      unfold recordOf
      rw [hempty]
      rfl

/-- **Snapshots are prefixes of the run.** In every run of a manager whose database is new,
events and callbacks interleaved in any way, there is one snapshot for each time one was
taken, in that order; each of them holds what the operations before it have told, with
who was registered at that moment, whatever has come after it. -/
theorem snapshots_are_prefixes (m : DiscoveryServerManager) (hinit : m.state = .init t now now')
    (actions : List Session.Action) (s' : Session)
    (hrun : run? Session.step (.start m) actions = some s') :
    s'.manager.snapshots.length =
        m.snapshots.length + actions.countP Session.Action.isSnapshot ∧
      m.snapshots <+: s'.manager.snapshots ∧
      ∀ before tp desc someone showLiveliness after,
        actions = before ++ .takeSnapshot tp desc someone showLiveliness :: after →
          ∃ u shot, run? Session.step (.start m) before = some u ∧
            s'.manager.snapshots[m.snapshots.length +
              before.countP Session.Action.isSnapshot]? = some shot ∧
            shot.Holds (Session.history (.start m) before) u.manager tp desc someone
              showLiveliness := by
  have hsnapshots : s'.manager.snapshots = m.snapshots ++ Session.recorded (.start m) actions :=
    Session.snapshots_run hrun
  refine ⟨?_, ⟨_, hsnapshots.symm⟩, ?_⟩
  · rw [hsnapshots, List.length_append, Session.length_recorded hrun]
  · rintro before tp desc someone showLiveliness after rfl
    rw [run?_append] at hrun
    obtain ⟨u, hbefore, hrest⟩ := Option.bind_eq_some_iff.mp hrun
    obtain ⟨v, hv, -⟩ := Option.bind_eq_some_iff.mp hrest
    have hstate : u.manager.state = run DiscoveryItemDatabase.step (.init t now now')
        (Session.history (.start m) before) := by
      rw [← hinit]
      exact Session.state_run hbefore
    refine ⟨u, _, hbefore, ?_, holds_takeSnapshot hstate tp desc someone showLiveliness⟩
    have hrecorded : Session.recorded (.start m)
        (before ++ .takeSnapshot tp desc someone showLiveliness :: after) =
        Session.recorded (.start m) before ++
          ((u.manager.takeSnapshot tp desc someone showLiveliness).2 ::
            Session.recorded v after) := by
      unfold Session.recorded
      rw [observed_append hbefore, observed_cons hv]
      rfl
    rw [hsnapshots, hrecorded, ← Session.length_recorded hbefore,
      List.getElem?_append_right (Nat.le_add_right _ _), Nat.add_sub_cancel_left,
      List.getElem?_append_right le_rfl, Nat.sub_self]
    rfl

/-- The snapshot of a client's report stays when the client is removed. -/
theorem snapshots_are_prefixes_sample : ∃ s' u shot,
    run? Session.step (.start (.initial 0 0 0))
        (clientReports ++ [.takeSnapshot 5 "known" true false, .destroy sampleClient.guid,
          .proceed, .proceed]) = some s' ∧
      run? Session.step (.start (.initial 0 0 0)) clientReports = some u ∧
      s'.manager.snapshots[0]? = some shot ∧
      shot.Holds (Session.history (.start (.initial 0 0 0)) clientReports) u.manager 5 "known"
        true false := by
  obtain ⟨-, -, hshots⟩ := snapshots_are_prefixes (.initial 0 0 0) rfl
    (clientReports ++ [.takeSnapshot 5 "known" true false, .destroy sampleClient.guid, .proceed,
      .proceed]) _ rfl
  obtain ⟨u, shot, hbefore, hshot, hholds⟩ := hshots clientReports 5 "known" true false _ rfl
  exact ⟨_, u, shot, rfl, hbefore, hshot, hholds⟩

end Holds

end DiscoveryServer
