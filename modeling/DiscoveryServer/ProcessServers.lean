import DiscoveryServer.ParsedSnapshots
import Mathlib.Data.List.ReduceOption

/-!
# The servers of a snapshot file

`process_servers` collects the prefixes of the items flagged as servers in three nested
loops under one `try`. A snapshot without databases or a database without items raises a
`KeyError` there, and what stands after it is not looked at. `marks` is the order in
which the loops meet items and missing levels, and `processServers_eq` says that the
result is collected from the items before the first missing level (`reached`). So all
servers are found exactly when each of them is among these (`processServers_iff`).
-/

namespace DiscoveryServer

open Library

/-! ## process_servers -/

/-- An exception with what has been done before it. -/
def keep {σ α : Type} (s : σ) (x : Except PyError α) : Except (PyError × σ) α :=
  x.mapError fun err => (err, s)

/-- `servers.append(p)` if it is not there. -/
def addServer (servers : List String) (guidPrefix : String) : List String :=
  if guidPrefix ∈ servers then servers else servers ++ [guidPrefix]

def collectServer (servers : List String) (ptdi : XMLElement) :
    Except (PyError × List String) (List String) := do
  let server ← keep servers (ptdi.pyAttribute "server")
  if server = "true" then
    let guidPrefix ← keep servers (ptdi.pyAttribute "guid_prefix")
    return addServer servers guidPrefix
  else return servers

/-- The loops under the `try`. -/
def collectServers (doc : XMLDocument) : Except (PyError × List String) (List String) := do
  let snapshots ← keep [] (snapshotElements doc)
  snapshots.foldlM (fun servers snapshot => do
    let ptdbs ← keep servers (snapshot.pyElements "ptdb")
    ptdbs.foldlM (fun servers ptdb => do
      let ptdis ← keep servers (ptdb.pyElements "ptdi")
      ptdis.foldlM collectServer servers) servers) []

/-- `process_servers`, which is the same in both validators. -/
def processServers (doc : XMLDocument) : Except PyError (List String) :=
  match collectServers doc with
  | .ok servers => .ok servers
  | .error (.keyError, servers) => .ok servers
  | .error (err, _) => .error err

/-! ## What the loops meet -/

/-- The marks of a level: the ones of its members, or a missing key. -/
def level {α β : Type} (members : List α) (marks : α → List (Option β)) : List (Option β) :=
  if members.isEmpty then [none] else members.flatMap marks

/-- Items and missing levels in the order the loops meet them. -/
def marks (views : List SnapshotView) : List (Option ItemView) :=
  level views fun s => level s.databases fun d => level d.items fun v => [some v]

/-- The items before the first missing level. -/
def reached (views : List SnapshotView) : List ItemView :=
  ((marks views).takeWhile Option.isSome).reduceOption

/-- All items of a file. -/
def itemViews (views : List SnapshotView) : List ItemView :=
  views.flatMap fun s => s.databases.flatMap fun d => d.items

/-- The prefix of an item is entered if the item is flagged as a server. -/
def ItemView.collect (servers : List String) (v : ItemView) : List String :=
  if v.server = "true" then addServer servers v.guidPrefix else servers

/-- The step of the loops at a mark. -/
def atMark {σ β : Type} (step : σ → β → σ) (s : σ) : Option β → Except (PyError × σ) σ
  | none => .error (.keyError, s)
  | some v => .ok (step s v)

/-- Nested loops are one loop over the marks. -/
theorem level_eq {α β σ : Type} {R : α → XMLElement → Prop} {views : List α} {e : XMLElement}
    {name : String} {step : σ → β → σ} {marks : α → List (Option β)}
    {body : σ → XMLElement → Except (PyError × σ) σ} (hdict : e.isDict = true)
    (hviews : List.Forall₂ R views (e.childElements name))
    (hbody : ∀ s v c, R v c → body s c = (marks v).foldlM (atMark step) s) (s : σ) :
    (keep s (e.pyElements name) >>= fun l => l.foldlM body s) =
      (level views marks).foldlM (atMark step) s := by
  cases views with
  | nil =>
    have hnil : e.childElements name = [] := by
      cases h : e.childElements name with
      | nil => rfl
      | cons c l =>
        rw [h] at hviews
        cases hviews
    rw [XMLElement.pyElements_of_empty hdict hnil]
    rfl
  | cons v views =>
    have hne : e.childElements name ≠ [] := by
      intro hnil
      rw [hnil] at hviews
      cases hviews
    rw [XMLElement.pyElements_eq_ok_iff.mpr ⟨rfl, hne⟩]
    show _ = ((v :: views).flatMap marks).foldlM (atMark step) s
    exact foldlM_eq_flatMap hviews hbody s

theorem collectServer_eq {v : ItemView} {e : XMLElement} (h : v.ShownBy e) (servers : List String) :
    collectServer servers e = .ok (v.collect servers) := by
  have hserver := XMLElement.pyAttribute_eq_ok_iff.mpr h.server
  have hguid := XMLElement.pyAttribute_eq_ok_iff.mpr h.guidPrefix
  unfold collectServer ItemView.collect
  rw [hserver, hguid]
  show (if v.server = "true" then _ else _) = _
  split_ifs <;> rfl

theorem collectServers_eq {views : List SnapshotView} {doc : XMLDocument} (h : ShownBy views doc) :
    collectServers doc = (marks views).foldlM (atMark ItemView.collect) [] := by
  obtain ⟨root, hroot, hdict, hsnapshots⟩ := h
  unfold collectServers snapshotElements marks
  rw [hroot]
  refine level_eq hdict hsnapshots (fun servers s e hs => ?_) []
  refine level_eq (XMLElement.isDict_of_attributeValue hs.timestamp) hs.databases
    (fun servers d e hd => ?_) servers
  refine level_eq (XMLElement.isDict_of_attributeValue hd.guidPrefix) hd.items
    (fun servers v e hv => ?_) servers
  rw [collectServer_eq hv]
  rfl

/-- A loop over marks ends at the first missing level. -/
theorem foldlM_atMark {β σ : Type} (step : σ → β → σ) (l : List (Option β)) (s : σ) :
    l.foldlM (atMark step) s = .ok ((l.takeWhile Option.isSome).reduceOption.foldl step s) ∨
      l.foldlM (atMark step) s =
        .error (.keyError, (l.takeWhile Option.isSome).reduceOption.foldl step s) := by
  induction l generalizing s with
  | nil => exact .inl rfl
  | cons mark l ih =>
    cases mark with
    | none => exact .inr rfl
    | some v =>
      rw [List.foldlM_cons]
      exact ih (step s v)

theorem processServers_eq {views : List SnapshotView} {doc : XMLDocument} (h : ShownBy views doc) :
    processServers doc = .ok ((reached views).foldl ItemView.collect []) := by
  unfold processServers
  rw [collectServers_eq h]
  unfold reached
  cases foldlM_atMark ItemView.collect (marks views) [] with
  | inl hok => rw [hok]
  | inr herror => rw [herror]

/-! ## The list -/

theorem mem_addServer {servers : List String} {p q : String} :
    q ∈ addServer servers p ↔ q ∈ servers ∨ q = p := by
  unfold addServer
  split_ifs with hmem
  · constructor
    · intro h
      exact .inl h
    · rintro (h | rfl)
      · exact h
      · exact hmem
  · simp

theorem nodup_addServer {servers : List String} {p : String} (h : servers.Nodup) :
    (addServer servers p).Nodup := by
  unfold addServer
  split_ifs with hmem
  · exact h
  · refine List.nodup_append.mpr ⟨h, List.nodup_singleton p, ?_⟩
    intro a ha b hb heq
    rw [heq, List.mem_singleton.mp hb] at ha
    exact hmem ha

/-- The item is flagged as a server and has the prefix. -/
def ItemView.Flags (v : ItemView) (p : String) : Prop := v.server = "true" ∧ v.guidPrefix = p

theorem mem_foldl_collect {l : List ItemView} {servers : List String} {p : String} :
    p ∈ l.foldl ItemView.collect servers ↔ p ∈ servers ∨ ∃ v ∈ l, v.Flags p := by
  induction l generalizing servers with
  | nil => simp
  | cons v l ih =>
    rw [List.foldl_cons, ih]
    have hstep : p ∈ v.collect servers ↔ p ∈ servers ∨ v.Flags p := by
      unfold ItemView.collect ItemView.Flags
      split_ifs with hserver
      · rw [mem_addServer]
        simp [hserver, eq_comm]
      · simp [hserver]
    rw [hstep, or_assoc, List.exists_mem_cons_iff]

theorem nodup_foldl_collect {l : List ItemView} {servers : List String} (h : servers.Nodup) :
    (l.foldl ItemView.collect servers).Nodup := by
  induction l generalizing servers with
  | nil => exact h
  | cons v l ih =>
    refine ih ?_
    unfold ItemView.collect
    split_ifs
    · exact nodup_addServer h
    · exact h

theorem mem_of_mem_level {α β : Type} {members : List α} {marks : α → List (Option β)} {b : β}
    (h : some b ∈ level members marks) : ∃ a ∈ members, some b ∈ marks a := by
  unfold level at h
  split_ifs at h
  · simp at h
  · exact List.mem_flatMap.mp h

/-- What is reached is an item of the file. -/
theorem mem_itemViews_of_reached {views : List SnapshotView} {v : ItemView}
    (h : v ∈ reached views) : v ∈ itemViews views := by
  have hmark : some v ∈ marks views :=
    (List.takeWhile_sublist _).mem (List.reduceOption_mem_iff.mp h)
  obtain ⟨s, hs, hmark⟩ := mem_of_mem_level hmark
  obtain ⟨d, hd, hmark⟩ := mem_of_mem_level hmark
  obtain ⟨w, hw, hmark⟩ := mem_of_mem_level hmark
  cases List.mem_singleton.mp hmark
  exact List.mem_flatMap.mpr ⟨s, hs, List.mem_flatMap.mpr ⟨d, hd, hw⟩⟩

/-- The result is the set of the prefixes of the flagged items, each once. -/
def AllServersFound (views : List SnapshotView) (result : Except PyError (List String)) : Prop :=
  ∃ servers, result = .ok servers ∧ servers.Nodup ∧
    ∀ p, p ∈ servers ↔ ∃ v ∈ itemViews views, v.Flags p

/-- **All servers are found** in a file of the program exactly when the prefix of every
item flagged as a server is the one of such an item before the first snapshot without
databases and the first database without items. -/
theorem processServers_iff (host : Host) (m : DiscoveryServerManager) :
    AllServersFound (m.views host) (processServers (m.parsedFile host)) ↔
      ∀ v ∈ itemViews (m.views host), v.server = "true" →
        ∃ w ∈ reached (m.views host), w.Flags v.guidPrefix := by
  have heq := processServers_eq (m.parsedFile_shownBy host)
  constructor
  · rintro ⟨servers, hservers, -, hmem⟩ v hv hserver
    rw [heq] at hservers
    cases hservers
    have hfound := (hmem v.guidPrefix).mpr ⟨v, hv, hserver, rfl⟩
    simpa using mem_foldl_collect.mp hfound
  · intro h
    refine ⟨_, heq, nodup_foldl_collect List.nodup_nil, fun p => ?_⟩
    rw [mem_foldl_collect]
    constructor
    · rintro (hnil | ⟨v, hv, hflags⟩)
      · cases hnil
      · exact ⟨v, mem_itemViews_of_reached hv, hflags⟩
    · rintro ⟨v, hv, hserver, rfl⟩
      exact .inr (h v hv hserver)

/-! ## A snapshot taken before anything is discovered -/

/-- A snapshot with one participant, a server, that knows itself. -/
def serverSnapshot : Snapshot where
  databases := (∅ : OrdSet Guid ParticipantDiscoveryDatabase).insert
    ⟨.ofPrefix 1, "server", (∅ : OrdSet Guid ParticipantDiscoveryItem).insert
      ⟨.ofPrefix 1, true, true, "server", 0, ∅, ∅⟩⟩
  processStartup := 0
  time := 0
  lastPDPCallback := 0
  lastEDPCallback := 0
  ifSomeone := true
  showLiveliness := false
  des := "late"

/-- A run whose first snapshot is empty. -/
def earlyAndLate : DiscoveryServerManager :=
  { DiscoveryServerManager.initial 0 0 0 with
    snapshots := [.default ⟨0, 0⟩, serverSnapshot] }

/-- A host without files. -/
def bareHost : Host := ⟨sampleFormat, ⟨0, 0⟩, fun _ => none⟩

/-- The server of the second snapshot is not found. -/
theorem server_not_found : ¬ ∀ (host : Host) (m : DiscoveryServerManager),
    AllServersFound (m.views host) (processServers (m.parsedFile host)) := by
  intro h
  obtain ⟨servers, hservers, -, hmem⟩ := h bareHost earlyAndLate
  have heq := processServers_eq (earlyAndLate.parsedFile_shownBy bareHost)
  have hnone : reached (earlyAndLate.views bareHost) = [] := rfl
  rw [hservers, hnone] at heq
  cases heq
  have hserver : (⟨sampleFormat.prefixToStr 1, "server", "true", [], []⟩ : ItemView) ∈
      itemViews (earlyAndLate.views bareHost) := by decide
  have hfound := (hmem (sampleFormat.prefixToStr 1)).mpr ⟨_, hserver, rfl, rfl⟩
  cases hfound

end DiscoveryServer
