import DiscoveryServer.Execution
import DiscoveryServer.RoundTrip
import DiscoveryServer.SnapshotFiles

/-!
# The program

`main`: the command line, the constructor of the manager, the events and the
validation, down to the exit code. What a configuration file does to the manager
is a parameter here (`Setup.loadConfig`), for nothing below depends on it; a file with
snapshots is handled by the constructor itself.

`correctly_created_` is only set where the constructor falls through, and the
branch for snapshot files returns before. `main_snapshots` computes what
comes of it: a file with snapshots never gives exit code 0, and `exitCode_iff`
says for which files that is the verdict.
-/

namespace DiscoveryServer

open Library

/-- The command line, parsed. -/
structure Arguments where
  error : Bool
  nonOptions : List String
  help : Bool
  argc : Nat
  /-- The arguments of the config file options. -/
  configFile : List String
  outputFile : Option String
  shm : Bool

/-- What `main` relies on besides the files: how `std::sort` arranges the events,
what Fast DDS answers to each, and the loading of configuration files, which says
whether the constructor got to its end. -/
structure Setup where
  sort : ∀ events, Arrangement events
  reply : EventPtr → Reply
  loadConfig : Bool → XMLDocument → World → Option (World × Bool)

/-- The options `main` returns on, or the config file. -/
def checkArguments (args : Arguments) : (Int × List String) ⊕ String :=
  if args.error then .inl (1, [])
  else if args.nonOptions ≠ [] then
    -- no arguments beyond options
    let sep := if args.nonOptions.length = 1 then "argument: " else "arguments: "
    .inl (1, ["Unknown " ++ sep ++ String.intercalate ", " args.nonOptions.reverse])
  else if args.help ∨ args.argc = 0 then .inl (0, [])
  else
    match args.configFile with
    | [] => .inl (1, ["Specify configuration file is mandatory: use -c or --config-file option."])
    | [file] => .inr file
    | _ => .inl (1, ["Only one configuration file can be specified."])

/-- The constructor; `now` and `now'` are the clock readings of the database. -/
def World.construct (host : Host) (setup : Setup) (now now' : TimePoint) (xmlFilePath : String)
    (sharedMemoryOff : Bool) : Option World :=
  let w : World := ⟨.initial host.clock.steady now now', 0, [], none⟩
  match host.loadFile xmlFilePath with
  | none => some w -- config file not found
  | some doc =>
    match doc.firstChildElement "DS" with
    | none =>
      match doc.firstChildElement "DS_Snapshots" with
      | none => some w -- invalid config or snapshot file
      | some _ =>
        (w.manager.loadSnapshots host xmlFilePath).map fun loaded =>
          w.withManager { loaded.1 with validate := true, autoShutdown := true }
    | some _ =>
      (setup.loadConfig sharedMemoryOff doc w).map fun (w, finished) =>
        if finished then w.withManager { w.manager with correctlyCreated := true } else w

/-- Load output file path, if there is one. -/
def World.loadOutputFile (w : World) (outputFile : Option String) : World :=
  match outputFile with
  | none => w
  | some filePath => w.withManager { w.manager with snapshotsOutputFile := filePath }

/-- `main`: the exit code and what is printed. `onTerminate` changes neither. -/
def main (host : Host) (setup : Setup) (now now' : TimePoint) (args : Arguments) :
    Option (Int × List String) :=
  match checkArguments args with
  | .inl result => some result
  | .inr pathToConfig =>
    match World.construct host setup now now' pathToConfig args.shm with
    | none => none
    | some w =>
      let returnCode : Int := if w.manager.correctlyCreated then 0 else 1
      let w := w.loadOutputFile args.outputFile
      -- follow the config file instructions
      match w.runEvents (setup.sort w.manager.events) setup.reply with
      | none => none
      | some (w, out) =>
        -- check the snapshots read
        if w.manager.shouldValidate then
          if w.manager.validateAllSnapshots then
            some (returnCode, out ++ [w.manager.successMessage])
          else some (-1, out)
        else some (returnCode, out)

/-- The snapshots of a file that can be loaded. -/
def loadedSnapshots (host : Host) (root : XMLElement) : List Snapshot :=
  (root.childElements "DS_Snapshot").filterMap (Snapshot.load host)

/-- Loading them all is loading each of them. -/
theorem loadAll_eq_some {host : Host} {l : List XMLElement} {shots : List Snapshot}
    (h : Snapshot.loadAll host l = some shots) : shots = l.filterMap (Snapshot.load host) := by
  induction l generalizing shots with
  | nil =>
    cases h
    rfl
  | cons e l ih =>
    rw [Snapshot.loadAll] at h
    cases hload : Snapshot.load host e with
    | none =>
      rw [hload] at h
      cases h
    | some sh =>
      rw [hload] at h
      obtain ⟨rest, hrest, rfl⟩ := Option.map_eq_some_iff.mp h
      rw [List.filterMap_cons_some hload, ih hrest]

section Snapshots

variable {host : Host} {setup : Setup} {now now' : TimePoint} {args : Arguments} {file : String}
  {doc : XMLDocument} {root : XMLElement}

/-- There are no events to run when there are none scheduled. -/
theorem runEvents_of_empty {w : World} (sort : Arrangement w.manager.events)
    (reply : EventPtr → Reply) (hevents : w.manager.events = [])
    (hshutdown : w.manager.autoShutdown = true) : w.runEvents sort reply = some (w, []) := by
  have hlength : sort.order.length = 0 := by
    rw [sort.perm.length_eq, List.length_range, hevents]
    rfl
  unfold World.runEvents World.executeAll
  rw [List.eq_nil_of_length_eq_zero hlength]
  show (if w.manager.autoShutdown = true then some (w, []) else _) = some (w, [])
  rw [if_pos hshutdown]

/-- The manager a file with snapshots leaves behind. -/
def withSnapshots (host : Host) (now now' : TimePoint) (shots : List Snapshot) : World :=
  ⟨{ DiscoveryServerManager.initial host.clock.steady now now' with
      snapshots := shots, validate := true, autoShutdown := true }, 0, [], none⟩

/-- The output file changes neither the snapshots nor the validation. -/
theorem loadOutputFile_withSnapshots (host : Host) (now now' : TimePoint) (shots : List Snapshot)
    (outputFile : Option String) :
    let w := (withSnapshots host now now' shots).loadOutputFile outputFile
    w.manager.events = [] ∧ w.manager.autoShutdown = true ∧ w.manager.validate = true ∧
      w.manager.snapshots = shots := by
  cases outputFile <;> exact ⟨rfl, rfl, rfl, rfl⟩

theorem construct_snapshots (hfile : host.loadFile file = some doc)
    (hconfig : doc.firstChildElement "DS" = none)
    (hroot : doc.firstChildElement "DS_Snapshots" = some root) (shm : Bool) :
    World.construct host setup now now' file shm =
      (Snapshot.loadAll host (root.childElements "DS_Snapshot")).map
        (withSnapshots host now now') := by
  unfold World.construct DiscoveryServerManager.loadSnapshots
  rw [hfile]
  dsimp only
  rw [hconfig, hroot]
  dsimp only
  cases Snapshot.loadAll host (root.childElements "DS_Snapshot") <;> rfl

/-- **A file with snapshots.** The exit code is -1 when a snapshot fails, and
else 1: the constructor has not recorded its success. -/
theorem main_snapshots (hargs : checkArguments args = .inr file)
    (hfile : host.loadFile file = some doc) (hconfig : doc.firstChildElement "DS" = none)
    (hroot : doc.firstChildElement "DS_Snapshots" = some root) :
    (main host setup now now' args).map Prod.fst =
      (Snapshot.loadAll host (root.childElements "DS_Snapshot")).map fun shots =>
        if ∀ sh ∈ shots, sh.allKnowEachOther = true then 1 else -1 := by
  unfold main
  rw [hargs]
  dsimp only
  rw [construct_snapshots hfile hconfig hroot]
  cases Snapshot.loadAll host (root.childElements "DS_Snapshot") with
  | none => rfl
  | some shots =>
    let w' := (withSnapshots host now now' shots).loadOutputFile args.outputFile
    obtain ⟨hevents, hshutdown, hvalidate, hsnapshots⟩ :=
      loadOutputFile_withSnapshots host now now' shots args.outputFile
    have hrun := runEvents_of_empty (setup.sort w'.manager.events) setup.reply hevents hshutdown
    have hall : w'.manager.validateAllSnapshots = true ↔
        ∀ sh ∈ shots, sh.allKnowEachOther = true := by
      rw [DiscoveryServerManager.validateAllSnapshots_iff, hsnapshots]
    show Option.map Prod.fst (match w'.runEvents (setup.sort w'.manager.events) setup.reply with
      | none => none
      | some (w, out) =>
        if w.manager.shouldValidate then
          if w.manager.validateAllSnapshots then some (1, out ++ [w.manager.successMessage])
          else some (-1, out)
        else some (1, out)) = _
    rw [hrun]
    dsimp only
    by_cases hpass : ∀ sh ∈ shots, sh.allKnowEachOther = true
    · rw [if_pos (hall.mpr hpass)]
      show _ = some (if ∀ sh ∈ shots, sh.allKnowEachOther = true then 1 else -1)
      rw [if_pos hpass]
      split_ifs <;> rfl
    · -- some snapshot fails, so there is one and the validation takes place
      have hvalidated : w'.manager.shouldValidate = true := by
        unfold DiscoveryServerManager.shouldValidate
        rw [hvalidate, hsnapshots]
        cases shots with
        | nil => exact absurd (fun sh hsh => absurd hsh List.not_mem_nil) hpass
        | cons sh shots => rfl
      rw [if_pos hvalidated, if_neg (fun h => hpass (hall.mp h)), Option.map_some, Option.map_some,
        if_neg hpass]

/-- The exit code when all snapshots can be loaded. -/
theorem exitCode_eq (hargs : checkArguments args = .inr file)
    (hfile : host.loadFile file = some doc) (hconfig : doc.firstChildElement "DS" = none)
    (hroot : doc.firstChildElement "DS_Snapshots" = some root)
    (hload : (Snapshot.loadAll host (root.childElements "DS_Snapshot")).isSome) :
    (main host setup now now' args).map Prod.fst =
      some (if ∀ sh ∈ loadedSnapshots host root, sh.allKnowEachOther = true then 1 else -1) := by
  obtain ⟨shots, hshots⟩ := Option.isSome_iff_exists.mp hload
  rw [main_snapshots hargs hfile hconfig hroot, hshots, Option.map_some, loadAll_eq_some hshots]
  rfl

/-- A file with snapshots never gives exit code 0. -/
theorem exitCode_ne_zero (hargs : checkArguments args = .inr file)
    (hfile : host.loadFile file = some doc) (hconfig : doc.firstChildElement "DS" = none)
    (hroot : doc.firstChildElement "DS_Snapshots" = some root) :
    (main host setup now now' args).map Prod.fst ≠ some 0 := by
  rw [main_snapshots hargs hfile hconfig hroot]
  intro hzero
  obtain ⟨shots, _, hcode⟩ := Option.map_eq_some_iff.mp hzero
  by_cases hpass : ∀ sh ∈ shots, sh.allKnowEachOther = true
  · rw [if_pos hpass] at hcode
    exact absurd hcode (by decide)
  · rw [if_neg hpass] at hcode
    exact absurd hcode (by decide)

/-- **The exit code of offline validation.** It is 0 exactly when all loaded
snapshots pass, exactly for the files in which some loaded snapshot fails. -/
theorem exitCode_iff (hargs : checkArguments args = .inr file)
    (hfile : host.loadFile file = some doc) (hconfig : doc.firstChildElement "DS" = none)
    (hroot : doc.firstChildElement "DS_Snapshots" = some root) :
    ((main host setup now now' args).map Prod.fst = some 0 ↔
        ∀ sh ∈ loadedSnapshots host root, sh.allKnowEachOther = true) ↔
      ∃ sh ∈ loadedSnapshots host root, sh.allKnowEachOther = false := by
  rw [iff_false_left (exitCode_ne_zero hargs hfile hconfig hroot)]
  simp only [not_forall, Bool.not_eq_true, exists_prop]

end Snapshots

/-! ## A file with one snapshot -/

/-- `DS_Snapshots` with one snapshot. -/
def sampleRoot (s : Snapshot) : XMLElement :=
  (XMLElement.new "DS_Snapshots").insertEndChild (s.toXml sampleFormat ⟨0, 0⟩ (.new "DS_Snapshot"))

def sampleHost (s : Snapshot) : Host where
  format := sampleFormat
  clock := ⟨0, 0⟩
  loadFile _ := some ⟨[sampleRoot s]⟩

/-- No events, and no configuration file either. -/
def sampleSetup : Setup where
  sort := Arrangement.stable
  reply _ := { participant := none }
  loadConfig _ _ _ := none

def sampleArguments : Arguments where
  error := false
  nonOptions := []
  help := false
  argc := 2
  configFile := ["snapshots.xml"]
  outputFile := none
  shm := false

theorem loadedSnapshots_sample {s : Snapshot} (hdes : s.des ≠ "") :
    loadedSnapshots (sampleHost s) (sampleRoot s) = [reload ⟨0, 0⟩ ⟨0, 0⟩ s] := by
  have hchild : (sampleRoot s).childElements "DS_Snapshot" =
      [s.toXml sampleFormat ⟨0, 0⟩ (.new "DS_Snapshot")] := by
    have hname : (s.toXml sampleFormat ⟨0, 0⟩ (.new "DS_Snapshot")).name = "DS_Snapshot" := by
      simp [Snapshot.toXml, setDuration]
    unfold XMLElement.childElements sampleRoot
    rw [XMLElement.children_insertEndChild, XMLElement.children_new, List.nil_append]
    exact List.filter_cons_of_pos (by rw [hname]; rfl)
  unfold loadedSnapshots
  rw [hchild]
  exact List.filterMap_cons_some (fromXml_toXml sampleFormat_lossless _ _ s hdes _)

theorem exitCode_iff_sample :
    ((main (sampleHost (sampleSnapshot "one")) sampleSetup 0 0 sampleArguments).map Prod.fst =
        some 0 ↔
      ∀ sh ∈ loadedSnapshots (sampleHost (sampleSnapshot "one"))
          (sampleRoot (sampleSnapshot "one")),
        sh.allKnowEachOther = true) ↔
      ∃ sh ∈ loadedSnapshots (sampleHost (sampleSnapshot "one"))
          (sampleRoot (sampleSnapshot "one")),
        sh.allKnowEachOther = false :=
  exitCode_iff (rfl : checkArguments sampleArguments = .inr "snapshots.xml") rfl rfl rfl

/-- The snapshot passes, and the exit code is not 0. -/
theorem exitCode_of_passing_snapshot : ¬ ∀ (host : Host) (setup : Setup) (now now' : TimePoint)
    (args : Arguments) (file : String) (doc : XMLDocument) (root : XMLElement),
    checkArguments args = .inr file → host.loadFile file = some doc →
      doc.firstChildElement "DS" = none → doc.firstChildElement "DS_Snapshots" = some root →
        loadedSnapshots host root ≠ [] →
          ((main host setup now now' args).map Prod.fst = some 0 ↔
            ∀ sh ∈ loadedSnapshots host root, sh.allKnowEachOther = true) := by
  intro h
  have hdes : (sampleSnapshot "one").des ≠ "" := by decide
  have hloaded := loadedSnapshots_sample hdes
  have hcode := h (sampleHost (sampleSnapshot "one")) sampleSetup 0 0 sampleArguments
    "snapshots.xml" _ _ rfl rfl rfl rfl (by rw [hloaded]; exact List.cons_ne_nil _ _)
  have hpass : ∀ sh ∈ loadedSnapshots (sampleHost (sampleSnapshot "one"))
      (sampleRoot (sampleSnapshot "one")), sh.allKnowEachOther = true := by
    rw [hloaded]
    intro sh hsh
    rw [List.mem_singleton.mp hsh,
      allKnowEachOther_congr (reload_content ⟨0, 0⟩ ⟨0, 0⟩ (sampleSnapshot "one")) rfl]
    decide
  exact exitCode_ne_zero (rfl : checkArguments sampleArguments = .inr "snapshots.xml") rfl rfl rfl
    (hcode.mpr hpass)

end DiscoveryServer
