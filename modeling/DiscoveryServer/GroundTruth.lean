import DiscoveryServer.ProcessServers
import Mathlib.Data.List.Forall2
import Mathlib.Data.String.Basic

/-!
# The ground truth validator

`GroundTruthValidator` trims two parsed files, the one a test has produced and the one
it should have produced, to nested dictionaries, and compares these. A tree here is such
a dictionary. The two ways of trimming differ in what identifies a participant and an
endpoint (`TrimMode`): GUIDs or, in guidless mode, names.

Only the descriptions of the produced file are compared, and of the snapshots with one
description only the last one is kept, so that `OK` says less than that the files have
the same snapshots (`validate_sound_iff`).
-/

namespace DiscoveryServer

open Library

/-- `shared.ReturnCode`. -/
inductive ReturnCode where
  | ok
  | skip
  | error
  | fail
deriving DecidableEq

/-! ## Trees -/

/-- `{'topic': …, 'guid': …}`; in guidless mode without the GUID. -/
structure EndpointTree where
  topic : String
  guid : Option String
deriving DecidableEq

/-- What is under a `ptdi_…` key: the prefix, or in guidless mode the name, and the
endpoints. -/
structure ItemTree where
  label : String
  endpoints : OrdMap String EndpointTree
deriving DecidableEq

/-- What is under a `ptdb_…` key. -/
structure DatabaseTree where
  label : String
  items : OrdMap String ItemTree
deriving DecidableEq

/-- What is under a description. -/
abbrev SnapshotTree := OrdMap String DatabaseTree

/-- What is under `DS_Snapshots`. -/
abbrev FileTree := OrdMap String SnapshotTree

/-! ## Trimming -/

/-- What identifies the elements. -/
structure TrimMode where
  databaseLabel : XMLElement → Except PyError String
  /-- Of a `ptdi` in a database with the label. -/
  itemLabel : String → XMLElement → Except PyError String
  /-- The id of an endpoint of a `ptdi` with the label, and what is entered under it. -/
  endpointEntry : String → XMLElement → XMLElement → Except PyError (String × EndpointTree)

def guidMode : TrimMode where
  databaseLabel ptdb := ptdb.pyAttribute "guid_prefix"
  itemLabel _ ptdi := ptdi.pyAttribute "guid_prefix"
  endpointEntry _ _ e := do
    let guidPrefix ← e.pyAttribute "guid_prefix"
    let guidEntity ← e.pyAttribute "guid_entity"
    let topic ← e.pyAttribute "topic"
    return (guidPrefix ++ "." ++ guidEntity, ⟨topic, some (guidPrefix ++ "." ++ guidEntity)⟩)

def guidlessMode : TrimMode where
  databaseLabel ptdb := ptdb.pyAttribute "name"
  itemLabel databaseName ptdi := do
    let name ← ptdi.pyAttribute "name"
    return if name = "" then databaseName else name
  endpointEntry name ptdi e := do
    let guidEntity ← e.pyAttribute "guid_entity"
    let itemPrefix ← ptdi.pyAttribute "guid_prefix"
    let guidPrefix ← e.pyAttribute "guid_prefix"
    if itemPrefix = guidPrefix then
      let topic ← e.pyAttribute "topic"
      return (name ++ "_" ++ guidEntity, ⟨topic, none⟩)
    else throw .assertionError

/-- The loop over `dict2list(ptdi[kind])`, where the item has the key `kind`. -/
def forEndpoints {σ : Type} (kind : String) (ptdi : XMLElement)
    (loop : List XMLElement → σ → Except PyError σ) (s : σ) : Except PyError σ := do
  if ← ptdi.pyHasKey kind then loop (← ptdi.pyElements kind) s
  else return s

section Trim

variable (repr : List XMLElement → String) (mode : TrimMode)

/-- The publishers, or the subscribers, of a `ptdi`. -/
def trimEndpoints (kind label : String) (ptdi : XMLElement)
    (endpoints : OrdMap String EndpointTree) :
    Except PyError (OrdMap String EndpointTree) :=
  forEndpoints kind ptdi (OrdMap.fill fun e => do
    let entry ← mode.endpointEntry label ptdi e
    return (kind ++ "_" ++ entry.1, entry.2)) endpoints

def trimItem (databaseLabel : String) (ptdi : XMLElement) : Except PyError (String × ItemTree) := do
  let label ← mode.itemLabel databaseLabel ptdi
  let endpoints ← trimEndpoints mode "publisher" label ptdi ∅
  let endpoints ← trimEndpoints mode "subscriber" label ptdi endpoints
  return ("ptdi_" ++ label, ⟨label, endpoints⟩)

def trimDatabase (ptdb : XMLElement) : Except PyError (String × DatabaseTree) := do
  let label ← mode.databaseLabel ptdb
  let ptdis ← ptdb.pyElementsOr "ptdi" ((mode.databaseLabel ptdb).map fun _ => ())
  let items ← OrdMap.fill (trimItem mode label) ptdis ∅
  return ("ptdb_" ++ label, ⟨label, items⟩)

/-- The timestamp is in the text that is logged where there is no `ptdb`. -/
def trimSnapshot (snapshot : XMLElement) : Except PyError (String × SnapshotTree) := do
  let description ← snapshot.pyText repr "description"
  let ptdbs ← snapshot.pyElementsOr "ptdb" ((snapshot.pyAttribute "timestamp").map fun _ => ())
  let databases ← OrdMap.fill (trimDatabase mode) ptdbs ∅
  return (description, databases)

/-- The loop over the snapshots, which both ways of trimming are. -/
def trimWith (doc : XMLDocument) : Except PyError FileTree := do
  let snapshots ← snapshotElements doc
  OrdMap.fill (trimSnapshot repr mode) snapshots ∅

/-- `__trim_snapshot_dict`. -/
def trimSnapshotDict : XMLDocument → Except PyError FileTree := trimWith repr guidMode

/-- `__trim_snapshot_dict_guidless`. -/
def trimSnapshotDictGuidless : XMLDocument → Except PyError FileTree := trimWith repr guidlessMode

end Trim

/-! ## _validate -/

namespace GroundTruthValidator

/-- The comparison of each snapshot of the produced file; a description that the expected
file does not have is a `KeyError`. -/
def snapshotResults (gtDict valDict : FileTree) : List ReturnCode :=
  gtDict.toList.map fun snapshot =>
    match valDict.get? snapshot.1 with
    | none => .error
    | some expected => if snapshot.2 = expected then .ok else .fail

def verdict (results : List ReturnCode) : ReturnCode :=
  if .error ∈ results then .error else if .fail ∈ results then .fail else .ok

/-- `_validate` once the parameters have been read. -/
def compare (repr : List XMLElement → String) (guidless : Bool)
    (valSnapshot gtSnapshot : XMLDocument) : Except PyError ReturnCode := do
  let _servers ← processServers gtSnapshot
  let trim := if guidless then trimSnapshotDictGuidless repr else trimSnapshotDict repr
  let gtDict ← trim gtSnapshot
  let valDict ← trim valSnapshot
  return verdict (snapshotResults gtDict valDict)

/-- `_validate`, for the value of the parameter `guidless`, if there is one, and the two
files, or the exception that reading a parameter or parsing the file raises. -/
def validate (repr : List XMLElement → String) (guidless : Option Bool)
    (valSnapshot gtSnapshot : Except PyError XMLDocument) : Except PyError ReturnCode :=
  let parameters : Except PyError (Bool × XMLDocument × XMLDocument) := do
    let guidless ← match guidless with
      | none => .error .keyError
      | some guidless => .ok guidless
    let valSnapshot ← valSnapshot
    let gtSnapshot ← gtSnapshot
    return (guidless, valSnapshot, gtSnapshot)
  match parameters with
  | .ok (guidless, valSnapshot, gtSnapshot) => compare repr guidless valSnapshot gtSnapshot
  | .error .keyError => .ok .error
  | .error .valueError => .ok .error
  | .error err => .error err

end GroundTruthValidator

/-! ## What is trimmed -/

section Trimmed

variable {repr : List XMLElement → String} {mode : TrimMode} {doc : XMLDocument}

/-- The trimmed snapshots of a file, one after the other. -/
def TrimsTo (repr : List XMLElement → String) (mode : TrimMode) (doc : XMLDocument)
    (pairs : List (String × SnapshotTree)) : Prop :=
  ∃ snapshots, snapshotElements doc = .ok snapshots ∧
    List.Forall₂ (fun e pair => trimSnapshot repr mode e = .ok pair) snapshots pairs

theorem TrimsTo.unique {pairs pairs' : List (String × SnapshotTree)}
    (h : TrimsTo repr mode doc pairs) (h' : TrimsTo repr mode doc pairs') : pairs = pairs' := by
  obtain ⟨snapshots, hdoc, hpairs⟩ := h
  obtain ⟨snapshots', hdoc', hpairs'⟩ := h'
  rw [hdoc] at hdoc'
  cases hdoc'
  refine List.right_unique_forall₂' (fun e p p' hp hp' => ?_) hpairs hpairs'
  rw [hp] at hp'
  exact Except.ok.inj hp'

theorem trimWith_eq_ok_iff {tree : FileTree} :
    trimWith repr mode doc = .ok tree ↔
      ∃ pairs, TrimsTo repr mode doc pairs ∧ tree = (∅ : FileTree).setAll pairs := by
  unfold trimWith TrimsTo
  rw [bind_eq_ok]
  constructor
  · rintro ⟨snapshots, hdoc, hfill⟩
    obtain ⟨pairs, hpairs, htree⟩ := OrdMap.fill_eq_ok_iff.mp hfill
    exact ⟨pairs, ⟨snapshots, hdoc, hpairs⟩, htree⟩
  · rintro ⟨pairs, ⟨snapshots, hdoc, hpairs⟩, htree⟩
    exact ⟨snapshots, hdoc, OrdMap.fill_eq_ok_iff.mpr ⟨pairs, hpairs, htree⟩⟩

end Trimmed

/-! ## What is raised -/

section KeyErrors

variable {σ : Type}

/-- No other exception ends the loops of `process_servers`. -/
def OnlyKeyErrors (x : Except (PyError × σ) σ) : Prop :=
  ∀ err s, x = .error (err, s) → err = .keyError

theorem onlyKeyErrors_foldlM {α : Type} {body : σ → α → Except (PyError × σ) σ} {l : List α}
    (h : ∀ s, ∀ a ∈ l, OnlyKeyErrors (body s a)) (s : σ) : OnlyKeyErrors (l.foldlM body s) := by
  intro err s' herror
  refine (foldlM_error_iff fun e => e.1 = PyError.keyError).mpr (fun a t hreach e he => ?_)
    (err, s') herror
  obtain ⟨done, rest, hl, -⟩ := hreach
  exact h t a (by rw [hl]; simp) e.1 e.2 he

theorem onlyKeyErrors_elements {e : XMLElement} {name : String}
    {body : σ → XMLElement → Except (PyError × σ) σ} (hdict : e.isDict = true)
    (h : ∀ s, ∀ c ∈ e.childElements name, OnlyKeyErrors (body s c)) (s : σ) :
    OnlyKeyErrors (keep s (e.pyElements name) >>= fun l => l.foldlM body s) := by
  cases helements : e.pyElements name with
  | error err =>
    intro err' s' herror
    cases herror
    exact XMLElement.pyElements_eq_error hdict helements
  | ok l =>
    obtain ⟨rfl, -⟩ := XMLElement.pyElements_eq_ok_iff.mp helements
    exact onlyKeyErrors_foldlM h s

theorem onlyKeyErrors_collectServer {e : XMLElement} (hdict : e.isDict = true)
    (servers : List String) : OnlyKeyErrors (collectServer servers e) := by
  intro err s' h
  rcases bind_eq_error.mp h with h | ⟨server, -, h⟩
  · cases hserver : e.pyAttribute "server" with
    | error err' =>
      rw [hserver] at h
      cases h
      exact XMLElement.pyAttribute_eq_error hdict hserver
    | ok server =>
      rw [hserver] at h
      cases h
  · split_ifs at h
    · rcases bind_eq_error.mp h with h | ⟨guidPrefix, -, h⟩
      · cases hguid : e.pyAttribute "guid_prefix" with
        | error err' =>
          rw [hguid] at h
          cases h
          exact XMLElement.pyAttribute_eq_error hdict hguid
        | ok guidPrefix =>
          rw [hguid] at h
          cases h
      · cases h
    · cases h

end KeyErrors

theorem exists_entry {α β ε : Type} {entry : α → Except ε (String × β)} {l : List α}
    {m : OrdMap String β} (h : OrdMap.fill entry l ∅ = .ok m) {a : α} (ha : a ∈ l) :
    ∃ pair, entry a = .ok pair := by
  obtain ⟨pairs, hpairs, -⟩ := OrdMap.fill_eq_ok_iff.mp h
  obtain ⟨i, hi, rfl⟩ := List.mem_iff_getElem.mp ha
  have hi' : i < pairs.length := hpairs.length_eq ▸ hi
  exact ⟨pairs[i], hpairs.get hi hi'⟩

/-- Where a file is trimmed by GUIDs, its servers are listed. -/
theorem processServers_of_trimWith {repr : List XMLElement → String} {doc : XMLDocument}
    {tree : FileTree} (h : trimWith repr guidMode doc = .ok tree) :
    ∃ servers, processServers doc = .ok servers := by
  obtain ⟨snapshots, hdoc, hfill⟩ := bind_eq_ok.mp h
  have honly : OnlyKeyErrors (collectServers doc) := by
    unfold collectServers
    rw [hdoc]
    refine onlyKeyErrors_foldlM (fun servers s hs => ?_) []
    obtain ⟨pair, hpair⟩ := exists_entry hfill hs
    obtain ⟨description, hdescription, hpair⟩ := bind_eq_ok.mp hpair
    obtain ⟨ptdbs, hptdbs, hpair⟩ := bind_eq_ok.mp hpair
    obtain ⟨databases, hdatabases, -⟩ := bind_eq_ok.mp hpair
    refine onlyKeyErrors_elements (XMLElement.isDict_of_pyText hdescription)
      (fun servers d hd => ?_) servers
    rw [← (XMLElement.pyElementsOr_eq_ok hptdbs).2] at hd
    obtain ⟨pair, hpair⟩ := exists_entry hdatabases hd
    obtain ⟨label, hlabel, hpair⟩ := bind_eq_ok.mp hpair
    obtain ⟨ptdis, hptdis, hpair⟩ := bind_eq_ok.mp hpair
    obtain ⟨items, hitems, -⟩ := bind_eq_ok.mp hpair
    refine onlyKeyErrors_elements (XMLElement.pyElementsOr_eq_ok hptdis).1
      (fun servers v hv => ?_) servers
    rw [← (XMLElement.pyElementsOr_eq_ok hptdis).2] at hv
    obtain ⟨pair, hpair⟩ := exists_entry hitems hv
    obtain ⟨label, hlabel, -⟩ := bind_eq_ok.mp hpair
    exact onlyKeyErrors_collectServer
      (XMLElement.isDict_of_attributeValue (XMLElement.pyAttribute_eq_ok_iff.mp hlabel)) servers
  unfold processServers
  cases hcollect : collectServers doc with
  | ok servers => exact ⟨servers, rfl⟩
  | error e =>
    obtain ⟨err, servers⟩ := e
    cases honly err servers hcollect
    exact ⟨servers, rfl⟩

/-! ## What OK says -/

namespace GroundTruthValidator

variable {repr : List XMLElement → String} {gt val : XMLDocument}
  {gtPairs valPairs : List (String × SnapshotTree)}

/-- The descriptions of the trimmed snapshots of a file. -/
def descriptions (pairs : List (String × SnapshotTree)) : List String := pairs.map Prod.fst

/-- Every snapshot of one file has a counterpart in the other one, and counterparts have
the same tree. -/
def SameSnapshots (repr : List XMLElement → String) (gt val : XMLDocument) : Prop :=
  ∃ gtPairs valPairs, TrimsTo repr guidMode gt gtPairs ∧ TrimsTo repr guidMode val valPairs ∧
    (∀ d, d ∈ descriptions gtPairs ↔ d ∈ descriptions valPairs) ∧
    ∀ a ∈ gtPairs, ∀ b ∈ valPairs, a.1 = b.1 → a.2 = b.2

/-- The last snapshots of each produced description have the same tree. -/
def AgreeOnLast (gtPairs valPairs : List (String × SnapshotTree)) : Prop :=
  ∀ d ∈ descriptions gtPairs, OrdMap.lastValue gtPairs d = OrdMap.lastValue valPairs d

/-- The snapshots with one description have one tree. -/
def OneTree (pairs : List (String × SnapshotTree)) : Prop :=
  ∀ a ∈ pairs, ∀ b ∈ pairs, a.1 = b.1 → a.2 = b.2

/-- The verdict is OK when every result is or was skipped. -/
theorem verdict_eq_ok_iff_results {results : List ReturnCode} :
    verdict results = .ok ↔ ∀ r ∈ results, r = .ok ∨ r = .skip := by
  unfold verdict
  split_ifs with herror hfail
  · refine ⟨fun h => absurd h (by decide), fun h => ?_⟩
    have := h _ herror
    simp at this
  · refine ⟨fun h => absurd h (by decide), fun h => ?_⟩
    have := h _ hfail
    simp at this
  · refine ⟨fun _ r hr => ?_, fun _ => rfl⟩
    cases r with
    | ok => exact .inl rfl
    | skip => exact .inr rfl
    | error => exact absurd hr herror
    | fail => exact absurd hr hfail

theorem verdict_eq_ok_iff {gtDict valDict : FileTree} :
    verdict (snapshotResults gtDict valDict) = .ok ↔
      ∀ d ∈ gtDict.keys, gtDict.get? d = valDict.get? d := by
  rw [verdict_eq_ok_iff_results]
  unfold snapshotResults OrdSet.keys
  constructor
  · intro h d hd
    obtain ⟨a, ha, rfl⟩ := List.mem_map.mp hd
    have hget : gtDict.get? a.1 = some a.2 := OrdMap.get?_eq_some_iff.mpr ha
    have hr := h _ (List.mem_map.mpr ⟨a, ha, rfl⟩)
    show gtDict.get? a.1 = valDict.get? a.1
    cases hval : valDict.get? a.1 with
    | none => simp [hval] at hr
    | some expected =>
      rw [hval] at hr
      by_cases heq : a.2 = expected
      · rw [hget, heq]
      · simp [heq] at hr
  · intro h r hr
    obtain ⟨a, ha, rfl⟩ := List.mem_map.mp hr
    have hget : gtDict.get? a.1 = some a.2 := OrdMap.get?_eq_some_iff.mpr ha
    have hval := h a.1 (List.mem_map.mpr ⟨a, ha, rfl⟩)
    rw [hget] at hval
    rw [← hval]
    simp

theorem compare_eq_ok_iff :
    compare repr false val gt = .ok .ok ↔
      ∃ gtPairs valPairs, TrimsTo repr guidMode gt gtPairs ∧ TrimsTo repr guidMode val valPairs ∧
        AgreeOnLast gtPairs valPairs := by
  have hlast : ∀ pairs : List (String × SnapshotTree), ∀ d,
      ((∅ : FileTree).setAll pairs).get? d = OrdMap.lastValue pairs d := by
    intro pairs d
    rw [OrdMap.get?_setAll, OrdMap.get?_empty, Option.or_none]
  constructor
  · intro h
    obtain ⟨servers, -, h⟩ := bind_eq_ok.mp h
    obtain ⟨gtDict, hgt, h⟩ := bind_eq_ok.mp h
    obtain ⟨valDict, hval, h⟩ := bind_eq_ok.mp h
    obtain ⟨gtPairs, hgtPairs, rfl⟩ := trimWith_eq_ok_iff.mp hgt
    obtain ⟨valPairs, hvalPairs, rfl⟩ := trimWith_eq_ok_iff.mp hval
    refine ⟨gtPairs, valPairs, hgtPairs, hvalPairs, fun d hd => ?_⟩
    have hok := verdict_eq_ok_iff.mp (Except.ok.inj h) d (OrdMap.mem_keys_setAll.mpr hd)
    rw [hlast, hlast] at hok
    exact hok
  · rintro ⟨gtPairs, valPairs, hgtPairs, hvalPairs, hagree⟩
    have hgt := trimWith_eq_ok_iff.mpr ⟨gtPairs, hgtPairs, rfl⟩
    have hval := trimWith_eq_ok_iff.mpr ⟨valPairs, hvalPairs, rfl⟩
    obtain ⟨servers, hservers⟩ := processServers_of_trimWith hgt
    refine bind_eq_ok.mpr ⟨servers, hservers, ?_⟩
    refine bind_eq_ok.mpr ⟨_, hgt, bind_eq_ok.mpr ⟨_, hval, ?_⟩⟩
    refine congrArg Except.ok (verdict_eq_ok_iff.mpr fun d hd => ?_)
    rw [hlast, hlast]
    exact hagree d (OrdMap.mem_keys_setAll.mp hd)

theorem validate_eq_compare (guidless : Bool) :
    validate repr (some guidless) (.ok val) (.ok gt) = compare repr guidless val gt := rfl

/-- **OK means that the files have the same snapshots** exactly when, where both files are
trimmed and the last snapshots agree, the produced file has all the expected
descriptions and the snapshots of each file with one description have one tree. -/
theorem validate_sound_iff (repr : List XMLElement → String) (val gt : XMLDocument) :
    (validate repr (some false) (.ok val) (.ok gt) = .ok .ok → SameSnapshots repr gt val) ↔
      ∀ gtPairs valPairs, TrimsTo repr guidMode gt gtPairs → TrimsTo repr guidMode val valPairs →
        AgreeOnLast gtPairs valPairs →
          descriptions valPairs ⊆ descriptions gtPairs ∧ OneTree gtPairs ∧ OneTree valPairs := by
  rw [validate_eq_compare, compare_eq_ok_iff]
  constructor
  · intro h gtPairs valPairs hgt hval hagree
    obtain ⟨gtPairs', valPairs', hgt', hval', hsame, htree⟩ := h ⟨_, _, hgt, hval, hagree⟩
    cases hgt.unique hgt'
    cases hval.unique hval'
    refine ⟨fun d hd => (hsame d).mpr hd, fun a ha b hb heq => ?_, fun a ha b hb heq => ?_⟩
    · have hd := (hsame b.1).mp (List.mem_map.mpr ⟨b, hb, rfl⟩)
      obtain ⟨c, hc, hname⟩ := List.mem_map.mp hd
      rw [htree a ha c hc (heq.trans hname.symm), htree b hb c hc hname.symm]
    · have hd := (hsame b.1).mpr (List.mem_map.mpr ⟨b, hb, rfl⟩)
      obtain ⟨c, hc, hname⟩ := List.mem_map.mp hd
      rw [← htree c hc a ha (hname.trans heq.symm), ← htree c hc b hb hname]
  · rintro h ⟨gtPairs, valPairs, hgt, hval, hagree⟩
    obtain ⟨hsub, hgtTree, hvalTree⟩ := h gtPairs valPairs hgt hval hagree
    have hsome : ∀ d, d ∈ descriptions gtPairs → d ∈ descriptions valPairs := by
      intro d hd
      have hgtSome := OrdMap.lastValue_isSome_iff.mpr hd
      rw [hagree d hd] at hgtSome
      exact OrdMap.lastValue_isSome_iff.mp hgtSome
    refine ⟨gtPairs, valPairs, hgt, hval, fun d => ⟨hsome d, fun hd => hsub hd⟩, ?_⟩
    intro a ha b hb heq
    -- both have the tree of the last snapshot with this description
    have hd : a.1 ∈ descriptions gtPairs := List.mem_map.mpr ⟨a, ha, rfl⟩
    obtain ⟨tree, htree⟩ := Option.isSome_iff_exists.mp (OrdMap.lastValue_isSome_iff.mpr hd)
    have htree' := (hagree a.1 hd).symm.trans htree
    rw [hgtTree a ha _ (OrdMap.mem_of_lastValue htree) rfl,
      hvalTree b hb _ (OrdMap.mem_of_lastValue htree') heq.symm]

/-! ## A snapshot that was not produced -/

/-- A file of snapshots without databases, by their descriptions. -/
def describedFile (descriptions : List String) : XMLDocument :=
  ⟨[⟨"DS_Snapshots", [], none, descriptions.map fun d =>
    ⟨"DS_Snapshot", [("timestamp", "0")], none, [⟨"description", [], some d, []⟩]⟩⟩]⟩

/-- A result without the second of two expected snapshots is OK. -/
theorem missing_snapshot_ok : ¬ ∀ (repr : List XMLElement → String) (val gt : XMLDocument),
    validate repr (some false) (.ok val) (.ok gt) = .ok .ok → SameSnapshots repr gt val := by
  intro h
  have hok : validate (fun _ => "") (some false) (.ok (describedFile ["one", "two"]))
      (.ok (describedFile ["one"])) = .ok .ok := by decide
  obtain ⟨gtPairs, valPairs, hgt, hval, hsame, -⟩ := h _ _ _ hok
  have hgt' : TrimsTo (fun _ => "") guidMode (describedFile ["one"]) [("one", ∅)] :=
    ⟨_, rfl, .cons (by decide) .nil⟩
  have hval' : TrimsTo (fun _ => "") guidMode (describedFile ["one", "two"])
      [("one", ∅), ("two", ∅)] :=
    ⟨_, rfl, .cons (by decide) (.cons (by decide) .nil)⟩
  cases hgt.unique hgt'
  cases hval.unique hval'
  exact absurd ((hsame "two").mpr (by decide)) (by decide)

end GroundTruthValidator

end DiscoveryServer
