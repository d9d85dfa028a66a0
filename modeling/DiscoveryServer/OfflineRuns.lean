import DiscoveryServer.Main
import DiscoveryServer.SnapshotSchema

/-!
# Runs on saved files

A run whose manager has an output file saves its snapshots when the manager is destroyed;
a later run can validate the file, and save it again. `offline_runs` is about any number of
such runs one after the other: each gives the verdict that the first manager would have
given, and from the first one on they all save the same document, whatever their clocks.

What a run reads back is `reload` of what was saved. It has lost the names of the
databases, the counts of readers that are not alive and the flag of a snapshot none of
whose own readers is shown; a snapshot that has none of these (`Reloaded`) is written as
it was read.
-/

namespace DiscoveryServer

open Library

/-! ## What is saved in the end -/

/-- `~DiscoveryServerManager`: the file that is saved, if there is one. -/
def DiscoveryServerManager.destroyed (host : Host) (m : DiscoveryServerManager) :
    Option (String × XMLDocument) :=
  if m.snapshotsOutputFile = "" then none
  else some (m.snapshotsOutputFile, m.saveSnapshots host)

/-- The file that `main` leaves behind, if it returns. -/
def savedFile (host : Host) (setup : Setup) (now now' : TimePoint) (args : Arguments) :
    Option (Option (String × XMLDocument)) :=
  match checkArguments args with
  | .inl _ => some none
  | .inr pathToConfig =>
    match World.construct host setup now now' pathToConfig args.shm with
    | none => none
    | some w =>
      let w := w.loadOutputFile args.outputFile
      match w.runEvents (setup.sort w.manager.events) setup.reply with
      | none => none
      | some (w, _) => some (w.onTerminate.manager.destroyed host)

/-! ## Snapshots that have been read -/

/-- Databases have no names, readers no count of those that are not alive, and the flag
says whether counts of a database's own readers are shown. -/
structure Snapshot.Reloaded (t : Snapshot) : Prop where
  names : ∀ d ∈ t.databases, d.participantName = ""
  counts : ∀ d ∈ t.databases, ∀ it ∈ d.items, ∀ sub ∈ it.datareaders, sub.notAliveCount = 0
  flag : t.databases.toList.any (databaseShown t) = t.showLiveliness

section Reloaded

variable {f : TextFormat} {s t : Snapshot}

/-- Some database has a reader of its own. -/
def Snapshot.HasOwn (s : Snapshot) : Prop :=
  ∃ d ∈ s.databases.toList, ∃ it ∈ d.items.toList, ∃ sub ∈ it.datareaders.toList,
    sub.endpointGuid.guidPrefix = d.endpointGuid.guidPrefix

theorem any_databaseShown_iff (s : Snapshot) :
    s.databases.toList.any (databaseShown s) = true ↔ s.showLiveliness = true ∧ s.HasOwn := by
  unfold databaseShown itemShown shown Snapshot.HasOwn
  simp only [List.any_eq_true, Bool.and_eq_true, decide_eq_true_eq]
  constructor
  · rintro ⟨d, hd, it, hit, sub, hsub, hshow, hown⟩
    exact ⟨hshow, d, hd, it, hit, sub, hsub, hown⟩
  · rintro ⟨hshow, d, hd, it, hit, sub, hsub, hown⟩
    exact ⟨d, hd, it, hit, sub, hsub, hshow, hown⟩

theorem hasOwn_reload (writer reader : ProcessClock) (s : Snapshot) :
    (reload writer reader s).HasOwn ↔ s.HasOwn := by
  constructor
  · rintro ⟨_, hd, _, hit, _, hsub, hown⟩
    obtain ⟨d, hd', rfl⟩ := List.mem_map.mp hd
    obtain ⟨it, hit', rfl⟩ := List.mem_map.mp hit
    obtain ⟨sub, hsub', rfl⟩ := List.mem_map.mp hsub
    exact ⟨d, hd', it, hit', sub, hsub', hown⟩
  · rintro ⟨d, hd, it, hit, sub, hsub, hown⟩
    exact ⟨_, List.mem_map_of_mem hd, _, List.mem_map_of_mem hit, _, List.mem_map_of_mem hsub,
      hown⟩

theorem reloaded_reload (writer reader : ProcessClock) (s : Snapshot) :
    (reload writer reader s).Reloaded where
  names := by
    intro d hd
    obtain ⟨d₀, -, rfl⟩ := List.mem_map.mp (OrdSet.mem_def.mp hd)
    rfl
  counts := by
    intro d hd it hit sub hsub
    obtain ⟨d₀, -, rfl⟩ := List.mem_map.mp (OrdSet.mem_def.mp hd)
    obtain ⟨it₀, -, rfl⟩ := List.mem_map.mp (OrdSet.mem_def.mp hit)
    obtain ⟨sub₀, -, rfl⟩ := List.mem_map.mp (OrdSet.mem_def.mp hsub)
    rfl
  flag := by
    rw [Bool.eq_iff_iff, any_databaseShown_iff, hasOwn_reload]
    show (s.databases.toList.any (databaseShown s) = true ∧ s.HasOwn) ↔
      s.databases.toList.any (databaseShown s) = true
    rw [any_databaseShown_iff]
    exact and_iff_left_of_imp fun h => h.2

/-- The flag is read back as it was. -/
theorem Snapshot.Reloaded.showLiveliness_eq (h : t.Reloaded) (writer reader : ProcessClock) :
    (reload writer reader t).showLiveliness = t.showLiveliness := h.flag

/-- What has been read is written as it was. -/
theorem Snapshot.Reloaded.writeDatabase_eq (h : t.Reloaded) {u : Snapshot}
    (hshow : u.showLiveliness = t.showLiveliness) {d : ParticipantDiscoveryDatabase}
    (hd : d ∈ t.databases) :
    writeDatabase f u (reloadDatabase t u.processStartup d) = writeDatabase f t d := by
  have hsub : ∀ it ∈ d.items, ∀ sub ∈ it.datareaders,
      writeDataReader f u d.endpointGuid
        (reloadDataReader t u.processStartup d.endpointGuid sub) =
      writeDataReader f t d.endpointGuid sub := by
    intro it hit sub hsub
    have hcount := h.counts d hd it hit sub hsub
    unfold writeDataReader reloadDataReader shown setDuration
    simp only [toMilliseconds_rebase, hshow, hcount]
    split_ifs <;> rfl
  have hpub : ∀ pub, writeDataWriter f u (reloadDataWriter t u.processStartup pub) =
      writeDataWriter f t pub := by
    intro pub
    simp [writeDataWriter, reloadDataWriter, setDuration, toMilliseconds_rebase]
  have hitem : ∀ it ∈ d.items.toList,
      writeParticipantItem f u d.endpointGuid (reloadItem t u.processStartup d.endpointGuid it) =
        writeParticipantItem f t d.endpointGuid it := by
    intro it hit
    have hreaders : it.datareaders.toList.map (fun sub => writeDataReader f u d.endpointGuid
        (reloadDataReader t u.processStartup d.endpointGuid sub)) =
        it.datareaders.toList.map (writeDataReader f t d.endpointGuid) :=
      List.map_congr_left fun sub hmem => hsub it hit sub hmem
    simp [writeParticipantItem, reloadItem, setDuration, toMilliseconds_rebase, OrdSet.mapValues,
      hpub, Function.comp_def, hreaders]
  have hitems : d.items.toList.map (fun it => writeParticipantItem f u d.endpointGuid
      (reloadItem t u.processStartup d.endpointGuid it)) =
      d.items.toList.map (writeParticipantItem f t d.endpointGuid) :=
    List.map_congr_left hitem
  simp [writeDatabase, reloadDatabase, OrdSet.mapValues, h.names d hd, Function.comp_def, hitems]

/-- The databases are the last children. -/
theorem toXml_eq (clock : ProcessClock) (s : Snapshot) (name : String) :
    s.toXml f clock (.new name) =
      (({ s with databases := ∅ } : Snapshot).toXml f clock (.new name)).insertEndChildren
        (s.databases.toList.map (writeDatabase f s)) := rfl

/-- **A snapshot that has been read is written as it was.** -/
theorem Snapshot.Reloaded.toXml_reload (h : t.Reloaded) (writer reader : ProcessClock)
    (name : String) :
    (reload writer reader t).toXml f reader (.new name) = t.toXml f writer (.new name) := by
  -- without databases there is nothing that could be lost
  have hhead := (toXml_reload_iff (f := f)
    (s := { t with databases := ∅, showLiveliness := false }) rfl writer reader name).mpr
    fun d hd => absurd hd (OrdSet.not_mem_empty d)
  have hdatabases : (reload writer reader t).databases.toList.map
      (writeDatabase f (reload writer reader t)) =
        t.databases.toList.map (writeDatabase f t) := by
    show (t.databases.toList.map (reloadDatabase t _)).map _ = _
    rw [List.map_map]
    exact List.map_congr_left fun d hd => h.writeDatabase_eq (h.showLiveliness_eq writer reader) hd
  rw [toXml_eq, toXml_eq writer t name, hdatabases]
  exact congrArg (fun e : XMLElement => e.insertEndChildren _) hhead

end Reloaded

/-! ## The file that is read -/

theorem ne_empty_of_isBlank {s : String} (h : isBlank s = false) : s ≠ "" := by
  rintro rfl
  cases h

theorem reread_setText {s : String} (h : isBlank s = false) (name : String) :
    ((XMLElement.new name).setText s).reread = (XMLElement.new name).setText s := by
  refine XMLElement.reread_eq_self (fun t ht => ?_) fun c hc => absurd hc List.not_mem_nil
  rw [XMLElement.getText_setText _ (ne_empty_of_isBlank h)] at ht
  cases ht
  exact h

section Reread

variable (f : TextFormat) (s : Snapshot)

theorem reread_writeDataReader (owner : Guid) (sub : DataReaderDiscoveryItem) :
    (writeDataReader f s owner sub).reread = writeDataReader f s owner sub := by
  unfold writeDataReader
  dsimp only
  split_ifs <;> exact XMLElement.reread_eq_self (by simp [setDuration, setGuid])
    (by simp [setDuration, setGuid])

theorem reread_writeDataWriter (pub : DataWriterDiscoveryItem) :
    (writeDataWriter f s pub).reread = writeDataWriter f s pub :=
  XMLElement.reread_eq_self (by simp [writeDataWriter, setDuration, setGuid])
    (by simp [writeDataWriter, setDuration, setGuid])

theorem reread_writeParticipantItem (owner : Guid) (it : ParticipantDiscoveryItem) :
    (writeParticipantItem f s owner it).reread = writeParticipantItem f s owner it := by
  refine XMLElement.reread_eq_self (by simp [writeParticipantItem, setDuration, setGuid]) ?_
  intro c hc
  simp only [writeParticipantItem, XMLElement.children_insertEndChildren,
    XMLElement.children_setAttribute, setDuration, setGuid, XMLElement.children_new,
    List.nil_append, List.mem_append, List.mem_map] at hc
  rcases hc with ⟨sub, _, rfl⟩ | ⟨pub, _, rfl⟩
  · exact reread_writeDataReader f s owner sub
  · exact reread_writeDataWriter f s pub

theorem reread_writeDatabase (d : ParticipantDiscoveryDatabase) :
    (writeDatabase f s d).reread = writeDatabase f s d := by
  refine XMLElement.reread_eq_self (by simp [writeDatabase, setGuid]) ?_
  intro c hc
  simp only [writeDatabase, XMLElement.children_insertEndChildren,
    XMLElement.children_setAttribute, setGuid, XMLElement.children_new, List.nil_append,
    List.mem_map] at hc
  obtain ⟨it, _, rfl⟩ := hc
  exact reread_writeParticipantItem f s d.endpointGuid it

/-- A described snapshot is parsed as it was written. -/
theorem reread_toXml (clock : ProcessClock) (hdes : isBlank s.des = false) :
    (s.toXml f clock (.new "DS_Snapshot")).reread = s.toXml f clock (.new "DS_Snapshot") := by
  refine XMLElement.reread_eq_self (by simp [Snapshot.toXml, setDuration]) ?_
  intro c hc
  rw [children_toXml, List.mem_cons] at hc
  rcases hc with rfl | hc
  · exact reread_setText hdes "description"
  · obtain ⟨d, _, rfl⟩ := List.mem_map.mp hc
    exact reread_writeDatabase f s d

end Reread

/-! ## One run -/

/-- The program started with a file to validate. -/
structure OfflineRun where
  host : Host
  setup : Setup
  now : TimePoint
  now' : TimePoint
  args : Arguments

namespace OfflineRun

def exitCode (run : OfflineRun) : Option Int :=
  (main run.host run.setup run.now run.now' run.args).map Prod.fst

def saved (run : OfflineRun) : Option (Option (String × XMLDocument)) :=
  savedFile run.host run.setup run.now run.now' run.args

/-- The run gets the saved document. -/
def Reads (run : OfflineRun) (doc : XMLDocument) : Prop :=
  ∃ file, checkArguments run.args = .inr file ∧ run.host.loadFile file = some doc.reread

/-- The run has an output file. -/
def HasOutput (run : OfflineRun) : Prop := ∃ out, run.args.outputFile = some out ∧ out ≠ ""

/-- From the one document the run has made the other, and has ended with the exit code. -/
structure Outcome (run : OfflineRun) (doc : XMLDocument) (code : Int) (doc' : XMLDocument) :
    Prop where
  reads : run.Reads doc
  hasOutput : run.HasOutput
  exitCode : run.exitCode = some code
  saved : ∃ out, run.saved = some (some (out, doc'))

/-- What the run holds after reading what `m` has saved. -/
def loaded (run : OfflineRun) (host : Host) (m : DiscoveryServerManager) : DiscoveryServerManager :=
  { m with snapshots := m.snapshots.map (reload host.clock run.host.clock) }

end OfflineRun

/-- The exit code of a validation. -/
def DiscoveryServerManager.verdictCode (m : DiscoveryServerManager) : Int :=
  if m.validateAllSnapshots then 1 else -1

section OneRun

variable {run : OfflineRun} {host : Host} {m : DiscoveryServerManager}

theorem manager_cleanUp (w : World) (ps : OrdMap Guid DomainParticipant) :
    (w.cleanUp ps).manager = w.manager := by
  unfold World.cleanUp
  generalize ps.values = l
  induction l generalizing w with
  | nil => rfl
  | cons p l ih =>
    rw [List.foldl_cons, ih]
    rfl

/-- `onTerminate` leaves what is saved. -/
theorem destroyed_onTerminate (host : Host) (w : World) :
    w.onTerminate.manager.destroyed host = w.manager.destroyed host := by
  unfold World.onTerminate
  split_ifs with hno
  · rfl
  · dsimp only
    unfold DiscoveryServerManager.destroyed DiscoveryServerManager.saveSnapshots World.withManager
    simp only [manager_cleanUp]

theorem loadAll_map {host : Host} {l : List Snapshot} {write : Snapshot → XMLElement}
    {read : Snapshot → Snapshot} (h : ∀ s ∈ l, Snapshot.load host (write s) = some (read s)) :
    Snapshot.loadAll host (l.map write) = some (l.map read) := by
  induction l with
  | nil => rfl
  | cons s l ih =>
    rw [List.map_cons, Snapshot.loadAll, h s List.mem_cons_self]
    dsimp only
    rw [ih fun s hs => h s (List.mem_cons_of_mem _ hs)]
    rfl

theorem validateAllSnapshots_loaded (run : OfflineRun) (host : Host)
    (m : DiscoveryServerManager) :
    (run.loaded host m).validateAllSnapshots = m.validateAllSnapshots := by
  rw [Bool.eq_iff_iff, DiscoveryServerManager.validateAllSnapshots_iff,
    DiscoveryServerManager.validateAllSnapshots_iff]
  show (∀ sh ∈ m.snapshots.map (reload host.clock run.host.clock), _) ↔ _
  rw [List.forall_mem_map]
  refine forall₂_congr fun s _ => ?_
  rw [allKnowEachOther_congr (reload_content host.clock run.host.clock s) rfl]

/-- The run reads the snapshots that have been saved. -/
theorem reads_snapshots (hf : host.format.Lossless) (hformat : run.host.format = host.format)
    (hdes : ∀ s ∈ m.snapshots, isBlank s.des = false) (h : run.Reads (m.saveSnapshots host)) :
    ∃ file doc root, checkArguments run.args = .inr file ∧ run.host.loadFile file = some doc ∧
      doc.firstChildElement "DS" = none ∧ doc.firstChildElement "DS_Snapshots" = some root ∧
      Snapshot.loadAll run.host (root.childElements "DS_Snapshot") =
        some (run.loaded host m).snapshots := by
  obtain ⟨file, hargs, hfile⟩ := h
  obtain ⟨root, hroot, helements⟩ := childElements_saveSnapshots host m
  have hconfig : (m.saveSnapshots host).reread.firstChildElement "DS" = none := by
    have hname : (m.saveSnapshots host).firstChildElement "DS" = none := by
      refine List.find?_eq_none.mpr fun e he => ?_
      cases List.mem_singleton.mp he
      rw [XMLElement.name_insertEndChildren]
      decide
    rw [XMLDocument.firstChildElement_reread, hname, Option.map_none]
  refine ⟨file, _, root, hargs, hfile, hconfig, hroot, ?_⟩
  rw [helements]
  refine loadAll_map fun s hs => ?_
  rw [reread_toXml _ _ _ (hdes s hs)]
  unfold Snapshot.load
  rw [hformat]
  exact fromXml_toXml hf host.clock run.host.clock s (ne_empty_of_isBlank (hdes s hs)) _

/-- **The exit code of a run** is the verdict of the manager whose snapshots were saved. -/
theorem exitCode_of_reads (hf : host.format.Lossless) (hformat : run.host.format = host.format)
    (hdes : ∀ s ∈ m.snapshots, isBlank s.des = false) (h : run.Reads (m.saveSnapshots host)) :
    run.exitCode = some m.verdictCode := by
  obtain ⟨file, doc, root, hargs, hfile, hconfig, hroot, hload⟩ :=
    reads_snapshots hf hformat hdes h
  unfold OfflineRun.exitCode
  rw [main_snapshots hargs hfile hconfig hroot, hload, Option.map_some]
  unfold DiscoveryServerManager.verdictCode
  rw [← validateAllSnapshots_loaded run host m]
  refine congrArg some ?_
  simp only [DiscoveryServerManager.validateAllSnapshots_iff]

/-- **One run.** With an output file it saves what it has read. -/
theorem outcome_of_reads (hf : host.format.Lossless) (hformat : run.host.format = host.format)
    (hdes : ∀ s ∈ m.snapshots, isBlank s.des = false) (h : run.Reads (m.saveSnapshots host))
    (houtput : run.HasOutput) :
    run.Outcome (m.saveSnapshots host) m.verdictCode
      ((run.loaded host m).saveSnapshots run.host) := by
  obtain ⟨file, doc, root, hargs, hfile, hconfig, hroot, hload⟩ :=
    reads_snapshots hf hformat hdes h
  obtain ⟨out, hout, hne⟩ := id houtput
  refine ⟨h, houtput, exitCode_of_reads hf hformat hdes h, out, ?_⟩
  unfold OfflineRun.saved savedFile
  rw [hargs]
  dsimp only
  rw [construct_snapshots hfile hconfig hroot, hload, hout, Option.map_some]
  dsimp only
  rw [runEvents_of_empty _ _ rfl rfl]
  dsimp only
  rw [destroyed_onTerminate]
  show some (if out = "" then none else _) = _
  rw [if_neg hne]
  rfl

end OneRun

/-! ## Runs one after the other -/

/-- Each run gets the document that the one before it has saved. The list has what each
of them has come to: its exit code and what it has saved. -/
inductive Chain (f : TextFormat) : XMLDocument → List (Int × XMLDocument) → XMLDocument → Prop
  | nil (doc : XMLDocument) : Chain f doc [] doc
  | cons {run : OfflineRun} {doc doc' last : XMLDocument} {code : Int}
      {outcomes : List (Int × XMLDocument)} : run.host.format = f → run.Outcome doc code doc' →
      Chain f doc' outcomes last → Chain f doc ((code, doc') :: outcomes) last

theorem OfflineRun.Outcome.unique {run : OfflineRun} {doc doc₁ doc₂ : XMLDocument}
    {code₁ code₂ : Int} (h₁ : run.Outcome doc code₁ doc₁) (h₂ : run.Outcome doc code₂ doc₂) :
    code₁ = code₂ ∧ doc₁ = doc₂ := by
  obtain ⟨out₁, hsaved₁⟩ := h₁.saved
  obtain ⟨out₂, hsaved₂⟩ := h₂.saved
  rw [hsaved₁] at hsaved₂
  cases hsaved₂
  have hcode := h₁.exitCode
  rw [h₂.exitCode] at hcode
  exact ⟨(Option.some.inj hcode).symm, rfl⟩

/-- A document of snapshots that have been read, each with a description. -/
structure Settled (m : DiscoveryServerManager) : Prop where
  reloaded : ∀ s ∈ m.snapshots, s.Reloaded
  described : ∀ s ∈ m.snapshots, isBlank s.des = false

section Chains

variable {run : OfflineRun} {host : Host} {m : DiscoveryServerManager} {f : TextFormat}
  {outcomes : List (Int × XMLDocument)} {last : XMLDocument}

theorem described_loaded (run : OfflineRun) (host : Host)
    (hdes : ∀ s ∈ m.snapshots, isBlank s.des = false) :
    ∀ s ∈ (run.loaded host m).snapshots, isBlank s.des = false := by
  intro s hs
  obtain ⟨s, hs', rfl⟩ := List.mem_map.mp hs
  exact hdes s hs'

theorem settled_loaded (run : OfflineRun) (host : Host)
    (hdes : ∀ s ∈ m.snapshots, isBlank s.des = false) :
    Settled (run.loaded host m) where
  reloaded := by
    intro s hs
    obtain ⟨s, -, rfl⟩ := List.mem_map.mp hs
    exact reloaded_reload host.clock run.host.clock s
  described := described_loaded run host hdes

/-- What has been read is saved as it was. -/
theorem Settled.saveSnapshots_eq (h : Settled m) (hformat : run.host.format = host.format) :
    (run.loaded host m).saveSnapshots run.host = m.saveSnapshots host := by
  unfold DiscoveryServerManager.saveSnapshots
  have hshots : ((run.loaded host m).snapshots.map fun sh =>
      sh.toXml run.host.format run.host.clock (.new "DS_Snapshot")) =
      m.snapshots.map fun sh => sh.toXml host.format host.clock (.new "DS_Snapshot") := by
    show (m.snapshots.map (reload host.clock run.host.clock)).map _ = _
    rw [List.map_map, hformat]
    exact List.map_congr_left fun s hs => (h.reloaded s hs).toXml_reload _ _ _
  rw [hshots]

/-- From a settled document on, nothing changes. -/
theorem Chain.of_settled (hf : host.format.Lossless) (hformat : host.format = f)
    (h : Settled m) (hchain : Chain f (m.saveSnapshots host) outcomes last) :
    (∀ o ∈ outcomes, o = (m.verdictCode, m.saveSnapshots host)) ∧ last = m.saveSnapshots host := by
  generalize hdoc : m.saveSnapshots host = doc at hchain ⊢
  induction hchain with
  | nil doc =>
    refine ⟨fun o ho => absurd ho List.not_mem_nil, rfl⟩
  | @cons run doc doc' last code outcomes hrun houtcome _ ih =>
    subst hdoc
    have hsame : run.host.format = host.format := hrun.trans hformat.symm
    have hresult := outcome_of_reads hf hsame h.described houtcome.reads houtcome.hasOutput
    rw [h.saveSnapshots_eq hsame] at hresult
    obtain ⟨rfl, rfl⟩ := houtcome.unique hresult
    obtain ⟨houtcomes, hlast⟩ := ih rfl
    refine ⟨fun o ho => ?_, hlast⟩
    cases List.mem_cons.mp ho with
    | inl heq => exact heq
    | inr hmem => exact houtcomes o hmem

/-- **Any number of runs on a saved file.** Each has the exit code of the verdict that the
manager whose snapshots were saved first would have given, all of them save the same
document, and a further run on this document ends with the same code and saves the same
if it has an output file. -/
theorem offline_runs (hf : f.Lossless) (host : Host) (hformat : host.format = f)
    (m : DiscoveryServerManager) (hdes : ∀ s ∈ m.snapshots, isBlank s.des = false)
    (hchain : Chain f (m.saveSnapshots host) outcomes last) :
    (∀ o ∈ outcomes, o = (m.verdictCode, last)) ∧
      ∀ run : OfflineRun, run.host.format = f → run.Reads last →
        run.exitCode = some m.verdictCode ∧
          (run.HasOutput →
            ∃ doc, run.Outcome last m.verdictCode doc ∧ (outcomes ≠ [] → doc = last)) := by
  subst hformat
  generalize hdoc : m.saveSnapshots host = doc at hchain
  cases hchain with
  | nil =>
    subst hdoc
    refine ⟨fun o ho => absurd ho List.not_mem_nil, fun run hrun hreads => ?_⟩
    refine ⟨exitCode_of_reads hf hrun hdes hreads, fun houtput => ?_⟩
    exact ⟨_, outcome_of_reads hf hrun hdes hreads houtput, fun hne => absurd rfl hne⟩
  | @cons run _ doc' _ code outcomes hrun houtcome hchain =>
    subst hdoc
    -- the first run settles the document
    have hresult := outcome_of_reads hf hrun hdes houtcome.reads houtcome.hasOutput
    obtain ⟨rfl, rfl⟩ := houtcome.unique hresult
    have hsettled := settled_loaded run host hdes
    have hlossless : run.host.format.Lossless := hrun ▸ hf
    have hverdict : (run.loaded host m).verdictCode = m.verdictCode := by
      unfold DiscoveryServerManager.verdictCode
      rw [validateAllSnapshots_loaded]
    obtain ⟨houtcomes, rfl⟩ := hchain.of_settled hlossless hrun hsettled
    rw [hverdict] at houtcomes
    refine ⟨fun o ho => ?_, fun run' hrun' hreads => ?_⟩
    · cases List.mem_cons.mp ho with
      | inl heq => exact heq
      | inr hmem => exact houtcomes o hmem
    · have hsame : run'.host.format = run.host.format := hrun'.trans hrun.symm
      refine ⟨?_, fun houtput => ?_⟩
      · rw [exitCode_of_reads hlossless hsame hsettled.described hreads, hverdict]
      · have hnext := outcome_of_reads hlossless hsame hsettled.described hreads houtput
        rw [hsettled.saveSnapshots_eq hsame, hverdict] at hnext
        exact ⟨_, hnext, fun _ => rfl⟩

end Chains

/-- A run on the document, with an output file. -/
def sampleRun (doc : XMLDocument) : OfflineRun where
  host := ⟨sampleFormat, ⟨9, 4⟩, fun _ => some doc.reread⟩
  setup := sampleSetup
  now := 0
  now' := 0
  args := { sampleArguments with outputFile := some "saved.xml" }

/-- A run on the document that saves nothing. -/
def justValidates (doc : XMLDocument) : OfflineRun := { sampleRun doc with args := sampleArguments }

/-- Two runs with an output file one after the other, and one that only validates. -/
theorem offline_runs_sample : ∃ outcomes last, outcomes.length = 2 ∧
    Chain sampleFormat ((snapshotManager recordedSnapshot).saveSnapshots (fileHost ⟨[]⟩))
      outcomes last ∧ (∀ o ∈ outcomes, o = (1, last)) ∧
        (justValidates last).exitCode = some 1 := by
  let m := snapshotManager recordedSnapshot
  have hdes : ∀ s ∈ m.snapshots, isBlank s.des = false := by
    intro s hs
    cases List.mem_singleton.mp hs
    decide
  have hreads : ∀ doc, (sampleRun doc).Reads doc := fun doc => ⟨"snapshots.xml", rfl, rfl⟩
  have houtput : ∀ doc, (sampleRun doc).HasOutput := fun doc => ⟨"saved.xml", rfl, by decide⟩
  let first := sampleRun (m.saveSnapshots (fileHost ⟨[]⟩))
  let second := sampleRun ((first.loaded (fileHost ⟨[]⟩) m).saveSnapshots first.host)
  have hfirst : first.Outcome _ m.verdictCode _ :=
    outcome_of_reads sampleFormat_lossless rfl hdes (hreads _) (houtput _)
  have hsecond : second.Outcome _ (first.loaded (fileHost ⟨[]⟩) m).verdictCode _ :=
    outcome_of_reads sampleFormat_lossless rfl (described_loaded first (fileHost ⟨[]⟩) hdes)
      (hreads _) (houtput _)
  have hchain : Chain sampleFormat (m.saveSnapshots (fileHost ⟨[]⟩)) _ _ :=
    .cons rfl hfirst (.cons rfl hsecond (.nil _))
  have hcode : m.verdictCode = 1 := by decide
  have hall := offline_runs sampleFormat_lossless (fileHost ⟨[]⟩) rfl m hdes hchain
  rw [hcode] at hall
  exact ⟨_, _, rfl, hchain, hall.1, (hall.2 (justValidates _) rfl ⟨"snapshots.xml", rfl, rfl⟩).1⟩

end DiscoveryServer
