import DiscoveryServer.Session
import DiscoveryServer.SnapshotMerge

/-!
# The names of the databases in a snapshot

A database gets its name when it is created and keeps it. `access_snapshot` gives it the
name of the participant; `operator []` and the loop of `takeSnapshot` give it none. So
the name a snapshot shows depends on which operation came first since the database was
last dropped, and on whether there was one at all (`snapshotsNamed_iff`).
-/

namespace DiscoveryServer

open Library

/-- The name of the database an operation creates, if it creates one. -/
def Operation.databaseName : Operation → Option String
  | .addParticipant _ src .. => some src
  | .addDataReader _ src .. => some src
  | .addDataWriter _ src .. => some src
  | .removeParticipant .. => some ""
  | _ => none

/-- An operation names the database it creates, and renames none. -/
theorem Call.act_participantName (now : TimePoint) {op : Operation}
    (hop : ∀ g, op ≠ .removeSpokesman g) (d : Option ParticipantDiscoveryDatabase) :
    (Call.act ⟨now, op⟩ d).map (·.participantName) =
      (d.map (·.participantName)).or op.databaseName := by
  cases op with
  | removeSpokesman g => exact absurd rfl (hop g)
  | addParticipant => cases d <;> simp [Call.act, databaseOr, Operation.databaseName]
  | removeParticipant => cases d <;> simp [Call.act, databaseOr, Operation.databaseName]
  | addDataReader => cases d <;> simp [Call.act, databaseOr, Operation.databaseName]
  | addDataWriter => cases d <;> simp [Call.act, databaseOr, Operation.databaseName]
  | removeDataReader => cases d <;> simp [Call.act, Operation.databaseName]
  | removeDataWriter => cases d <;> simp [Call.act, Operation.databaseName]
  | updateSubLiveliness => cases d <;> simp [Call.act, Operation.databaseName]

namespace Session

/-- The step creates a database for `g` and gives it the name. -/
def Creates (g : Guid) (name : String) (s : Session) (a : Action) : Prop :=
  s.manager.state.databaseOf g = none ∧
    ∃ c, s.call a = some c ∧ c.op.spokesman = g ∧ c.op.databaseName = some name

/-- The step drops the database of `g`. -/
def Drops (g : Guid) (s : Session) (a : Action) : Prop :=
  ∃ c, s.call a = some c ∧ c.op = .removeSpokesman g

/-- In the run a database was created for `g` under the name, and not dropped since. -/
def CreatedAs (g : Guid) (name : String) (s : Session) (actions : List Action) : Prop :=
  Since step (Creates g name) (Drops g) s actions

/-- The name of the database of `g`, if there is one. -/
def databaseName (g : Guid) (s : Session) : Option String :=
  (s.manager.state.databaseOf g).map (·.participantName)

variable {g : Guid} {name : String} {s s' : Session} {a : Action}

theorem databaseName_eq_none : s.databaseName g = none ↔ s.manager.state.databaseOf g = none :=
  Option.map_eq_none_iff

/-- **One step.** A database has a name after a step that creates it under that name, and
after any other that does not drop it. -/
theorem databaseName_step (h : s.step a = some s') :
    s'.databaseName g = some name ↔
      Creates g name s a ∨ (s.databaseName g = some name ∧ ¬ Drops g s a) := by
  unfold Creates Drops
  unfold databaseName
  rw [state_step h]
  cases hcall : s.call a with
  | none =>
    simp
  | some c =>
    show ((s.manager.state.step c).databaseOf g).map _ = some name ↔ _
    rw [DiscoveryItemDatabase.databaseOf_step]
    obtain ⟨now, op⟩ := c
    by_cases hg : g = op.spokesman
    · rw [if_pos hg]
      by_cases hop : ∃ g', op = .removeSpokesman g'
      · obtain ⟨g', rfl⟩ := hop
        have hsame : g = g' := hg
        simp [Call.act, Operation.databaseName, hsame]
      · have hkind : ∀ g', op ≠ .removeSpokesman g' := fun g' hg' => hop ⟨g', hg'⟩
        rw [Call.act_participantName now hkind]
        cases hd : s.manager.state.databaseOf g with
        | none => simp [hg]
        | some d => simp [hkind g]
    · rw [if_neg hg]
      have hspokesman : op.spokesman ≠ g := fun heq => hg heq.symm
      have hkind : op ≠ .removeSpokesman g := by
        rintro rfl
        exact hg rfl
      simp [hspokesman, hkind]

/-- **A run.** What a database is called tells how it was created. -/
theorem databaseName_run {m : DiscoveryServerManager} {actions : List Action}
    (hstart : m.state.databaseOf g = none) (hrun : run? step (.start m) actions = some s) :
    s.databaseName g = some name ↔ CreatedAs g name (.start m) actions := by
  have hsince : s.databaseName g = some name ↔
      ((start m).databaseName g = some name ∧ Unrevoked step (Drops g) (.start m) actions) ∨
        CreatedAs g name (.start m) actions :=
    iff_since (P := fun s => s.databaseName g = some name) (fun _ => True)
      (fun _ _ _ _ _ => trivial) (fun _ _ _ _ hstep => databaseName_step hstep) trivial hrun
  have hnone : (start m).databaseName g ≠ some name := by
    rw [databaseName_eq_none.mpr hstart]
    exact nofun
  rw [hsince]
  exact or_iff_right fun hboth => hnone hboth.1

end Session

/-! ## Snapshots -/

/-- The databases of those registered bear their names in every snapshot, and those of
participants with different names have different names. -/
structure SnapshotsNamed (m : DiscoveryServerManager) : Prop where
  named : ∀ tp desc someone showLiveliness role g p d, (m.participants role).get? g = some p →
    (m.takeSnapshot tp desc someone showLiveliness).2.databases.find? g = some d →
      d.participantName = p.name
  apart : ∀ tp desc someone showLiveliness role role' g g' p p' d d',
    (m.participants role).get? g = some p → (m.participants role').get? g' = some p' →
      (m.takeSnapshot tp desc someone showLiveliness).2.databases.find? g = some d →
        (m.takeSnapshot tp desc someone showLiveliness).2.databases.find? g' = some d' →
          p.name ≠ p'.name → d.participantName ≠ d'.participantName

namespace DiscoveryServerManager

variable {m : DiscoveryServerManager} {role : ParticipantRole} {g : Guid} {p : DomainParticipant}

theorem mem_keys_of_participant (h : (m.participants role).get? g = some p) :
    g ∈ m.registered.keys := by
  have hfind : (m.participants role).find? g = some (g, p) :=
    OrdMap.find?_eq_some_iff.mpr ⟨h, rfl⟩
  have hkey : g ∈ (m.participants role).keys := by
    rw [OrdSet.mem_keys, hfind]
    rfl
  rw [mem_keys_registered]
  cases role with
  | server => exact .inl hkey
  | client => exact .inr (.inl hkey)
  | simple => exact .inr (.inr hkey)

/-- Somebody registered has a database in every snapshot: under the name it has in the
manager's, and without a name where there is none. -/
theorem participantName_takeSnapshot (h : (m.participants role).get? g = some p) (tp : TimePoint)
    (desc : String) (someone showLiveliness : Bool) :
    ((m.takeSnapshot tp desc someone showLiveliness).2.databases.find? g).map
        (·.participantName) =
      some (((m.state.databaseOf g).map (·.participantName)).getD "") := by
  rw [find?_takeSnapshot, if_pos (mem_keys_of_participant h)]
  cases m.state.databaseOf g with
  | none => rfl
  | some d => rfl

end DiscoveryServerManager

/-- Names that are right keep databases apart. -/
theorem snapshotsNamed_iff_named {m : DiscoveryServerManager} :
    SnapshotsNamed m ↔ ∀ role g p, (m.participants role).get? g = some p →
      ((m.state.databaseOf g).map (·.participantName)).getD "" = p.name := by
  constructor
  · intro hnamed role g p hp
    have hshot := DiscoveryServerManager.participantName_takeSnapshot hp 0 "" false false
    obtain ⟨d, hd, hname⟩ := Option.map_eq_some_iff.mp hshot
    rw [← hname]
    exact hnamed.named 0 "" false false role g p d hp hd
  · intro hname
    have hnamed : ∀ tp desc someone showLiveliness role g p d,
        (m.participants role).get? g = some p →
          (m.takeSnapshot tp desc someone showLiveliness).2.databases.find? g = some d →
            d.participantName = p.name := by
      intro tp desc someone showLiveliness role g p d hp hd
      have hshot := DiscoveryServerManager.participantName_takeSnapshot hp tp desc someone
        showLiveliness
      rw [hd, Option.map_some, hname role g p hp] at hshot
      exact Option.some.inj hshot
    refine ⟨hnamed, ?_⟩
    intro tp desc someone showLiveliness role role' g g' p p' d d' hp hp' hd hd' hne
    rw [hnamed _ _ _ _ role g p d hp hd, hnamed _ _ _ _ role' g' p' d' hp' hd']
    exact hne

/-- **When every database in a snapshot is named.** After any run of a manager that has
heard of nobody: when whoever is registered has a database that was created under its
name, or has no name and no database. -/
theorem snapshotsNamed_iff (m : DiscoveryServerManager) (actions : List Session.Action)
    (s : Session) (hstart : ∀ g, m.state.databaseOf g = none)
    (hrun : run? Session.step (.start m) actions = some s) :
    SnapshotsNamed s.manager ↔ ∀ role g p, (s.manager.participants role).get? g = some p →
      Session.CreatedAs g p.name (.start m) actions ∨
        (p.name = "" ∧ ∀ name, ¬ Session.CreatedAs g name (.start m) actions) := by
  rw [snapshotsNamed_iff_named]
  refine forall_congr' fun role => forall_congr' fun g => forall_congr' fun p =>
    imp_congr_right fun _ => ?_
  have hname : ∀ name, (s.manager.state.databaseOf g).map (·.participantName) = some name ↔
      Session.CreatedAs g name (.start m) actions :=
    fun name => Session.databaseName_run (hstart g) hrun
  simp only [← hname]
  cases (s.manager.state.databaseOf g).map (·.participantName) with
  | none =>
    show "" = p.name ↔ _
    constructor
    · intro hempty
      exact .inr ⟨hempty.symm, fun _ => nofun⟩
    · intro hcreated
      rcases hcreated with hcreated | ⟨hempty, _⟩
      · cases hcreated
      · exact hempty.symm
  | some name =>
    show name = p.name ↔ _
    constructor
    · intro hsame
      exact .inl (congrArg some hsame)
    · intro hcreated
      rcases hcreated with hcreated | ⟨_, hnone⟩
      · exact Option.some.inj hcreated
      · exact absurd rfl (hnone name)

/-- A client is created and discovers another participant. -/
def clientReports : List Session.Action :=
  [.create .client sampleClient true true, .proceed, .proceed,
    .enter sampleClient (.participant .discoveredParticipant (.ofPrefix 2) "other"),
    .advance 0 0, .advance 0 1, .advance 0 1, .advance 0 1]

theorem snapshotsNamed_iff_sample : ∃ s : Session,
    run? Session.step (.start (.initial 0 0 0)) clientReports = some s ∧
      (SnapshotsNamed s.manager ↔ ∀ role g p, (s.manager.participants role).get? g = some p →
        Session.CreatedAs g p.name (.start (.initial 0 0 0)) clientReports ∨
          (p.name = "" ∧
            ∀ name, ¬ Session.CreatedAs g name (.start (.initial 0 0 0)) clientReports)) := by
  exact ⟨_, rfl, snapshotsNamed_iff (.initial 0 0 0) clientReports _ (fun _ => rfl) rfl⟩

/-- A client that has reported nothing is in the snapshot without its name. -/
theorem isolated_client_nameless : ¬ ∀ (steadyClock now now' : TimePoint)
    (actions : List Session.Action) (s : Session),
    run? Session.step (.start (.initial steadyClock now now')) actions = some s →
      SnapshotsNamed s.manager := by
  intro h
  have hnamed := h 0 0 0 [.create .client sampleClient true true, .proceed, .proceed] _ rfl
  have hname := snapshotsNamed_iff_named.mp hnamed .client (.ofPrefix 1) sampleClient rfl
  have hempty : "" = "client" := hname
  exact absurd hempty (by decide)

end DiscoveryServer
