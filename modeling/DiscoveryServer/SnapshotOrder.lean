import DiscoveryServer.RoundTrip
import DiscoveryServer.SnapshotFiles

/-!
# Snapshot files in any order

Two files are loaded one after the other: the first fills the list of snapshots, the
second is merged into it position by position, and what it has too many is left out.
So the result has the length of the first file. At the positions that both files have
it does not depend on the order (`loadBoth_agree`), as far as the databases and the
flags go; the last callbacks do not where the two processes have started together, for
they are compared as offsets and stored as instants.
-/

namespace DiscoveryServer

open Library

namespace Snapshot

/-- Snapshots merged into a list, position by position. -/
def mergeLists : List Snapshot → List Snapshot → List Snapshot
  | s :: shots, sh :: rest => s.merge sh :: mergeLists shots rest
  | shots, [] => shots
  | [], _ => []

theorem mergeAll_eq {host : Host} {elements : List XMLElement} {b : List Snapshot}
    (hb : loadAll host elements = some b) (a : List Snapshot) :
    mergeAll host a elements = some (mergeLists a b) := by
  induction elements generalizing a b with
  | nil =>
    cases hb
    cases a <;> rfl
  | cons pSh rest ih =>
    rw [loadAll] at hb
    cases hload : load host pSh with
    | none =>
      rw [hload] at hb
      cases hb
    | some sh =>
      rw [hload] at hb
      obtain ⟨shots, hrest, rfl⟩ := Option.map_eq_some_iff.mp hb
      cases a with
      | nil => simp only [mergeAll, hload, mergeLists]
      | cons s a => simp only [mergeAll, hload, ih hrest, Option.map_some, mergeLists]

theorem mergeLists_length (a b : List Snapshot) : (mergeLists a b).length = a.length := by
  induction a generalizing b with
  | nil => cases b <;> rfl
  | cons s a ih =>
    cases b with
    | nil => rfl
    | cons sh b => simp only [mergeLists, List.length_cons, ih]

/-- A position of both lists is merged. -/
theorem mergeLists_getElem? {a b : List Snapshot} {i : Nat} {s sh : Snapshot}
    (ha : a[i]? = some s) (hb : b[i]? = some sh) : (mergeLists a b)[i]? = some (s.merge sh) := by
  induction i generalizing a b with
  | zero =>
    cases a with
    | nil => cases ha
    | cons x a =>
      cases b with
      | nil => cases hb
      | cons y b =>
        cases ha
        cases hb
        rfl
  | succ i ih =>
    cases a with
    | nil => cases ha
    | cons x a =>
      cases b with
      | nil => cases hb
      | cons y b =>
        rw [List.getElem?_cons_succ] at ha hb
        rw [mergeLists, List.getElem?_cons_succ]
        exact ih ha hb

/-- Two snapshots show the same databases and have the same flags. -/
structure SameContent (s t : Snapshot) : Prop where
  databases : s.databases = t.databases
  ifSomeone : s.ifSomeone = t.ifSomeone
  showLiveliness : s.showLiveliness = t.showLiveliness

theorem SameContent.refl (s : Snapshot) : s.SameContent s := ⟨rfl, rfl, rfl⟩

/-- No spokesman has a database in both. -/
def DisjointSpokesmen (s t : Snapshot) : Prop := ∀ g ∈ s.databases.keys, g ∉ t.databases.keys

/-- The merge of snapshots with other spokesmen is commutative. -/
theorem merge_comm {s t : Snapshot} (h : s.DisjointSpokesmen t) :
    (s.merge t).SameContent (t.merge s) := by
  refine ⟨OrdSet.insertAll_comm h, ?_, ?_⟩
  · exact Bool.and_comm ..
  · exact Bool.or_comm ..

/-- The last callbacks are the later ones of two snapshots, measured from the start. -/
structure LastOf (s sa sb : Snapshot) : Prop where
  pdp : s.lastPDPCallback - s.processStartup =
    max (sa.lastPDPCallback - s.processStartup) (sb.lastPDPCallback - s.processStartup)
  edp : s.lastEDPCallback - s.processStartup =
    max (sa.lastEDPCallback - s.processStartup) (sb.lastEDPCallback - s.processStartup)

theorem LastOf.symm {s sa sb : Snapshot} (h : s.LastOf sa sb) : s.LastOf sb sa :=
  ⟨h.pdp.trans (max_comm _ _), h.edp.trans (max_comm _ _)⟩

/-- Offsets from one start are in the order of the instants. -/
theorem later_of_one_start {start start' x y : TimePoint} (h : start = start') :
    (if x - start < y - start' then y else x) - start = max (x - start) (y - start) := by
  subst h
  split_ifs with hlt
  · exact (max_eq_right hlt.le).symm
  · exact (max_eq_left (not_lt.mp hlt)).symm

/-- The later of two calls that are measured from one start. -/
theorem merge_last {s t : Snapshot} (h : s.processStartup = t.processStartup) :
    (s.merge t).LastOf s t := ⟨later_of_one_start h, later_of_one_start h⟩

end Snapshot

open Snapshot (mergeLists mergeAll_eq mergeLists_length mergeLists_getElem? SameContent)

namespace DiscoveryServerManager

variable {host : Host} {m : DiscoveryServerManager} {fileA fileB : String} {a b : List Snapshot}

/-- A file holds a list of snapshots. -/
def FileHolds (host : Host) (file : String) (shots : List Snapshot) : Prop :=
  ∃ doc root, host.loadFile file = some doc ∧ doc.firstChildElement "DS_Snapshots" = some root ∧
    Snapshot.loadAll host (root.childElements "DS_Snapshot") = some shots

theorem loadSnapshots_of_fileHolds (hfile : FileHolds host fileA a) :
    m.loadSnapshots host fileA =
      some ({ m with snapshots := if m.snapshots.isEmpty then a else mergeLists m.snapshots a },
        true) := by
  obtain ⟨doc, root, hload, hroot, hshots⟩ := hfile
  unfold loadSnapshots
  simp only [hload, hroot]
  by_cases hempty : m.snapshots.isEmpty = true
  · simp only [if_pos hempty, hshots, Option.map_some]
  · simp only [if_neg hempty, mergeAll_eq hshots, Option.map_some]

/-- The snapshots after two files. -/
def loadBoth (host : Host) (m : DiscoveryServerManager) (first second : String) :
    Option (List Snapshot) :=
  (m.loadSnapshots host first).bind fun loaded =>
    (loaded.1.loadSnapshots host second).map fun merged => merged.1.snapshots

theorem loadBoth_eq (hm : m.snapshots = []) (hA : FileHolds host fileA a)
    (hB : FileHolds host fileB b) :
    m.loadBoth host fileA fileB = some (if a.isEmpty then b else mergeLists a b) := by
  unfold loadBoth
  rw [loadSnapshots_of_fileHolds hA, Option.bind_some, loadSnapshots_of_fileHolds hB, hm]
  rfl

theorem length_both (a b : List Snapshot) :
    (if a.isEmpty then b else mergeLists a b).length =
      if a.isEmpty then b.length else a.length := by
  split_ifs
  · rfl
  · exact mergeLists_length a b

/-- Where both lists have a position, the order of merging does not matter there. -/
theorem mergeLists_sameContent {a b : List Snapshot}
    (hdisjoint : ∀ (i : Nat) (sa sb : Snapshot), a[i]? = some sa → b[i]? = some sb →
      sa.DisjointSpokesmen sb) {i : Nat} {s t : Snapshot} (hs : (mergeLists a b)[i]? = some s)
    (ht : (mergeLists b a)[i]? = some t) : s.SameContent t := by
  have hi : i < a.length := by
    rw [← mergeLists_length a b]
    exact (List.getElem?_eq_some_iff.mp hs).1
  have hi' : i < b.length := by
    rw [← mergeLists_length b a]
    exact (List.getElem?_eq_some_iff.mp ht).1
  have ha := List.getElem?_eq_getElem hi
  have hb := List.getElem?_eq_getElem hi'
  rw [mergeLists_getElem? ha hb, Option.some.injEq] at hs
  rw [mergeLists_getElem? hb ha, Option.some.injEq] at ht
  rw [← hs, ← ht]
  exact Snapshot.merge_comm (hdisjoint i _ _ ha hb)

/-- **Two files in either order**: each order gives as many snapshots as its first file
has (as the second one where that is empty). The positions of both results have the same
databases and flags, and where the two snapshots merged there have one start, the last
callbacks are the later ones. -/
theorem loadBoth_agree (hm : m.snapshots = []) (hA : FileHolds host fileA a)
    (hB : FileHolds host fileB b)
    (hdisjoint : ∀ (i : Nat) (sa sb : Snapshot), a[i]? = some sa → b[i]? = some sb →
      sa.DisjointSpokesmen sb) :
    ∃ ab ba, m.loadBoth host fileA fileB = some ab ∧ m.loadBoth host fileB fileA = some ba ∧
      (ab.length = if a.isEmpty then b.length else a.length) ∧
      (ba.length = if b.isEmpty then a.length else b.length) ∧
      (∀ (i : Nat) (s t : Snapshot), ab[i]? = some s → ba[i]? = some t → s.SameContent t) ∧
      ∀ (i : Nat) (sa sb : Snapshot), a[i]? = some sa → b[i]? = some sb →
        sa.processStartup = sb.processStartup →
          ∃ s t, ab[i]? = some s ∧ ba[i]? = some t ∧ s.LastOf sa sb ∧ t.LastOf sa sb := by
  refine ⟨_, _, loadBoth_eq hm hA hB, loadBoth_eq hm hB hA, length_both a b, length_both b a, ?_⟩
  cases a with
  | nil =>
    refine ⟨fun i s t hs ht => ?_, fun i sa sb ha => by simp at ha⟩
    have hsame : (if b.isEmpty then [] else mergeLists b []) = b := by
      cases b <;> rfl
    rw [hsame] at ht
    cases hs.symm.trans ht
    exact .refl s
  | cons x a =>
    cases b with
    | nil =>
      refine ⟨fun i s t hs ht => ?_, fun i sa sb _ hb => by simp at hb⟩
      cases hs.symm.trans ht
      exact .refl s
    | cons y b =>
      simp only [List.isEmpty_cons, Bool.false_eq_true, ↓reduceIte]
      refine ⟨fun i s t hs ht => ?_, fun i sa sb ha hb hstart => ?_⟩
      · exact mergeLists_sameContent hdisjoint hs ht
      · exact ⟨_, _, mergeLists_getElem? ha hb, mergeLists_getElem? hb ha,
          Snapshot.merge_last hstart, (Snapshot.merge_last hstart.symm).symm⟩

/-! ## Files of different lengths -/

/-- The entry of a participant with one data reader, whose counts may be there. -/
def ptdiElement (id : String) (counts : List (String × String)) : XMLElement :=
  ⟨"ptdi", [("guid_prefix", id), ("guid_entity", "0.0.1.c1"), ("server", "false"),
    ("alive", "true"), ("name", id), ("discovered_timestamp", "20")], none,
    [⟨"subscriber", [("type", "HelloWorld"), ("topic", "HelloWorldTopic"), ("guid_prefix", id),
      ("guid_entity", "4"), ("discovered_timestamp", "30")] ++ counts, none, []⟩]⟩

/-- A snapshot of one spokesman that has discovered two participants. -/
def shotElement (spokesman someone : String) (counts : List (String × String))
    (timestamp process pdp edp : String) : XMLElement :=
  ⟨"DS_Snapshot", [("timestamp", timestamp), ("process_time", process),
    ("last_pdp_callback_time", pdp), ("last_edp_callback_time", edp), ("someone", someone)], none,
    [⟨"description", [], some "discovered", []⟩,
      ⟨"ptdb", [("guid_prefix", spokesman), ("guid_entity", "0.0.1.c1")], none,
        [ptdiElement "2" counts, ptdiElement "3" []]⟩]⟩

/-- The files of two processes, which start together as their first snapshots have it. One
file has two snapshots and the other three. -/
def twoProcesses : Host where
  format := sampleFormat
  clock := ⟨0, 0⟩
  loadFile file :=
    let counts := [("alive_count", "1"), ("not_alive_count", "0")]
    let shots :=
      if file = "one" then
        [shotElement "2" "true" counts "5000" "1000" "103" "7",
          shotElement "2" "true" counts "7000" "3000" "105" "9"]
      else
        [shotElement "3" "false" [] "6000" "2000" "50" "90",
          shotElement "3" "false" [] "7100" "3050" "60" "95",
          shotElement "3" "true" [] "8000" "4000" "70" "99"]
    some ⟨[⟨"DS_Snapshots", [], none, shots⟩]⟩

/-- The snapshots of one of these files. -/
def shotsOf (file : String) : List Snapshot :=
  (((twoProcesses.loadFile file).bind fun doc => doc.firstChildElement "DS_Snapshots").bind
    fun root => Snapshot.loadAll twoProcesses (root.childElements "DS_Snapshot")).getD []

theorem fileHolds_one : FileHolds twoProcesses "one" (shotsOf "one") := ⟨_, _, rfl, rfl, rfl⟩

theorem fileHolds_two : FileHolds twoProcesses "two" (shotsOf "two") := ⟨_, _, rfl, rfl, rfl⟩

theorem shotsOf_disjoint (i : Nat) (sa sb : Snapshot) (ha : (shotsOf "one")[i]? = some sa)
    (hb : (shotsOf "two")[i]? = some sb) : sa.DisjointSpokesmen sb := by
  have hall : ∀ sa ∈ shotsOf "one", ∀ sb ∈ shotsOf "two", ∀ g ∈ sa.databases.keys,
      g ∉ sb.databases.keys := by
    decide
  exact hall sa (List.mem_of_getElem? ha) sb (List.mem_of_getElem? hb)

/-- The order decides how many snapshots there are. -/
theorem length_depends_on_order : ¬ ∀ (host : Host) (m : DiscoveryServerManager)
    (fileA fileB : String) (a b : List Snapshot), m.snapshots = [] → FileHolds host fileA a →
      FileHolds host fileB b →
      (∀ (i : Nat) (sa sb : Snapshot), a[i]? = some sa → b[i]? = some sb →
        sa.DisjointSpokesmen sb) →
      ∃ ab ba, m.loadBoth host fileA fileB = some ab ∧ m.loadBoth host fileB fileA = some ba ∧
        ab.length = ba.length := by
  intro h
  obtain ⟨ab, ba, hab, hba, hlength⟩ := h twoProcesses (.initial 0 0 0) "one" "two" _ _ rfl
    fileHolds_one fileHolds_two shotsOf_disjoint
  rw [loadBoth_eq rfl fileHolds_one fileHolds_two] at hab
  rw [loadBoth_eq rfl fileHolds_two fileHolds_one] at hba
  cases hab
  cases hba
  exact absurd hlength (by rw [length_both, length_both]; decide)

/-- The two files with their databases, flags and starts. -/
theorem loadBoth_agree_sample :
    (shotsOf "one").map (fun s => (s.databases.keys, s.ifSomeone, s.showLiveliness)) =
        [([.ofPrefix 2], true, true), ([.ofPrefix 2], true, true)] ∧
      (shotsOf "two").map (fun s => (s.databases.keys, s.ifSomeone, s.showLiveliness)) =
        [([.ofPrefix 3], false, false), ([.ofPrefix 3], false, false),
          ([.ofPrefix 3], true, false)] ∧
      (shotsOf "one").map (fun s => s.processStartup) = [4000000000, 4000000000] ∧
      (shotsOf "two").map (fun s => s.processStartup) = [4000000000, 4050000000, 4000000000] ∧
      ∃ ab ba,
        (DiscoveryServerManager.initial 0 0 0).loadBoth twoProcesses "one" "two" = some ab ∧
        (DiscoveryServerManager.initial 0 0 0).loadBoth twoProcesses "two" "one" = some ba ∧
        ab.length = 2 ∧ ba.length = 3 ∧
        (∀ (i : Nat) (s t : Snapshot), ab[i]? = some s → ba[i]? = some t → s.SameContent t) ∧
        ∀ (i : Nat) (sa sb : Snapshot), (shotsOf "one")[i]? = some sa →
          (shotsOf "two")[i]? = some sb → sa.processStartup = sb.processStartup →
            ∃ s t, ab[i]? = some s ∧ ba[i]? = some t ∧ s.LastOf sa sb ∧ t.LastOf sa sb :=
  ⟨by decide, by decide, by decide, by decide,
    loadBoth_agree rfl fileHolds_one fileHolds_two shotsOf_disjoint⟩

end DiscoveryServerManager

end DiscoveryServer
