import DiscoveryServer.GuidlessTrim

/-!
# The generated expectation

`GenerateValidator` derives from a file what it should contain, in two passes. The first
one enters each participant that is no server with its own endpoints. The second one
looks, for each of these endpoints, for participants with an endpoint of the other kind
on the topic, and enters the remote endpoint with them.

`expectation_eq` turns both passes into data: the first one gives the tree of the own
items (`ownTree`), and the second one enters a list of remote endpoints into it
(`remoteEntries`), in which the loops and the lookups are gone.
-/

namespace DiscoveryServer

open Library

/-! ## Kinds of endpoints -/

inductive EndpointKind where
  | publisher
  | subscriber
deriving DecidableEq

namespace EndpointKind

def tag : EndpointKind → String
  | publisher => "publisher"
  | subscriber => "subscriber"

def opposite : EndpointKind → EndpointKind
  | publisher => subscriber
  | subscriber => publisher

@[simp] theorem opposite_opposite (kind : EndpointKind) : kind.opposite.opposite = kind := by
  cases kind <;> rfl

end EndpointKind

def ItemView.ofKind (v : ItemView) : EndpointKind → List EndpointView
  | .publisher => v.publishers
  | .subscriber => v.subscribers

theorem ItemView.mem_endpoints {v : ItemView} {a : String × EndpointView} :
    a ∈ v.endpoints ↔ ∃ kind : EndpointKind, a.1 = kind.tag ∧ a.2 ∈ v.ofKind kind := by
  unfold ItemView.endpoints
  rw [List.mem_append, List.mem_map, List.mem_map]
  constructor
  · rintro (⟨e, he, rfl⟩ | ⟨e, he, rfl⟩)
    · exact ⟨.publisher, rfl, he⟩
    · exact ⟨.subscriber, rfl, he⟩
  · rintro ⟨kind, htag, he⟩
    cases kind with
    | publisher => exact .inl ⟨a.2, he, Prod.ext htag.symm rfl⟩
    | subscriber => exact .inr ⟨a.2, he, Prod.ext htag.symm rfl⟩

theorem ItemView.ShownBy.ofKind {v : ItemView} {e : XMLElement} (h : v.ShownBy e)
    (kind : EndpointKind) :
    List.Forall₂ EndpointView.ShownBy (v.ofKind kind) (e.childElements kind.tag) := by
  cases kind with
  | publisher => exact h.publishers
  | subscriber => exact h.subscribers

namespace GenerateValidator

/-! ## __create_copy_and_validate_dict -/

/-- A `ptdi` is copied as it is trimmed by GUIDs; only the own one of the database is
entered into the dictionary to validate with. -/
def createItem (databasePrefix : String) (dicts : OrdMap String ItemTree × OrdMap String ItemTree)
    (ptdi : XMLElement) : Except PyError (OrdMap String ItemTree × OrdMap String ItemTree) := do
  let server ← ptdi.pyAttribute "server"
  if server = "true" then return dicts
  else
    let entry ← trimItem guidMode databasePrefix ptdi
    return (dicts.1.set entry.1 entry.2,
      if entry.2.label = databasePrefix then dicts.2.set entry.1 entry.2 else dicts.2)

def createDatabase (servers : List String) (dicts : SnapshotTree × SnapshotTree)
    (ptdb : XMLElement) : Except PyError (SnapshotTree × SnapshotTree) := do
  let guidPrefix ← ptdb.pyAttribute "guid_prefix"
  if guidPrefix ∈ servers then return dicts
  else
    let ptdis ← ptdb.pyElementsOr "ptdi" (.ok ())
    let items ← ptdis.foldlM (createItem guidPrefix) (∅, ∅)
    return (dicts.1.set ("ptdb_" ++ guidPrefix) ⟨guidPrefix, items.1⟩,
      dicts.2.set ("ptdb_" ++ guidPrefix) ⟨guidPrefix, items.2⟩)

def createSnapshot (servers : List String) (dicts : FileTree × FileTree) (snapshot : XMLElement) :
    Except PyError (FileTree × FileTree) := do
  let timestamp ← snapshot.pyAttribute "timestamp"
  let ptdbs ← snapshot.pyElementsOr "ptdb" (.ok ())
  let databases ← ptdbs.foldlM (createDatabase servers) (∅, ∅)
  return (dicts.1.set ("DS_Snapshot_" ++ timestamp) databases.1,
    dicts.2.set ("DS_Snapshot_" ++ timestamp) databases.2)

/-- `__create_copy_and_validate_dict`: `copy_dict` and `validate_dict`. -/
def createCopyAndValidateDict (servers : List String) (doc : XMLDocument) :
    Except PyError (FileTree × FileTree) := do
  let snapshots ← snapshotElements doc
  snapshots.foldlM (createSnapshot servers) (∅, ∅)

/-! ## __process_validation_dict -/

/-- An endpoint of the participant `itemPrefix` that the participant `databasePrefix` is
expected to know. -/
structure RemoteEntry where
  timestamp : String
  databasePrefix : String
  itemPrefix : String
  pair : String × EndpointTree

/-- The assignments of the innermost loop. The item is made where there is none yet. -/
def enter (validateDict : FileTree) (entry : RemoteEntry) : Except PyError FileTree :=
  match validateDict.get? ("DS_Snapshot_" ++ entry.timestamp) with
  | none => .error .keyError
  | some databases =>
    match databases.get? ("ptdb_" ++ entry.databasePrefix) with
    | none => .error .keyError
    | some database =>
      let item := (database.items.get? ("ptdi_" ++ entry.itemPrefix)).getD ⟨entry.itemPrefix, ∅⟩
      let item := { item with endpoints := item.endpoints.set entry.pair.1 entry.pair.2 }
      let items := database.items.set ("ptdi_" ++ entry.itemPrefix) item
      .ok (validateDict.set ("DS_Snapshot_" ++ entry.timestamp)
        (databases.set ("ptdb_" ++ entry.databasePrefix) { database with items := items }))

/-- The first item of a database that has its prefix and endpoints of the kind. -/
def firstOwn (kind : EndpointKind) (guidPrefix : String) :
    List XMLElement → Except PyError (Option XMLElement)
  | [] => .ok none
  | ptdi :: rest => do
    let itemPrefix ← ptdi.pyAttribute "guid_prefix"
    if guidPrefix = itemPrefix then
      if ← ptdi.pyHasKey kind.tag then return some ptdi else firstOwn kind guidPrefix rest
    else firstOwn kind guidPrefix rest

/-- What the two functions that fill the dictionary with matching endpoints do for an
endpoint of the kind `kind`. -/
def fillMatchingData (kind : EndpointKind) (servers : List String) (snapshot : XMLElement)
    (itemPrefix guidEntity topic : String) (validateDict : FileTree) : Except PyError FileTree := do
  let ptdbs ← snapshot.pyElements "ptdb"
  ptdbs.foldlM (fun validateDict ptdb => do
    let guidPrefix ← ptdb.pyAttribute "guid_prefix"
    if itemPrefix ≠ guidPrefix ∧ guidPrefix ∉ servers then
      let ptdis ← ptdb.pyElementsOr "ptdi" (.ok ())
      match ← firstOwn kind.opposite guidPrefix ptdis with
      | none => return validateDict
      | some ptdi =>
        let elements ← ptdi.pyElements kind.opposite.tag
        elements.foldlM (fun validateDict e => do
          let otherTopic ← e.pyAttribute "topic"
          if topic = otherTopic then
            let timestamp ← snapshot.pyAttribute "timestamp"
            enter validateDict ⟨timestamp, guidPrefix, itemPrefix,
              (kind.tag ++ "_" ++ (itemPrefix ++ "." ++ guidEntity),
                ⟨topic, some (itemPrefix ++ "." ++ guidEntity)⟩)⟩
          else return validateDict) validateDict
    else return validateDict) validateDict

/-- `__fill_matching_publisher_data`. -/
def fillMatchingPublisherData := fillMatchingData .publisher

/-- `__fill_matching_subscriber_data`. -/
def fillMatchingSubscriberData := fillMatchingData .subscriber

/-- The endpoints of an own item, each with its participant. -/
def processEndpoints (fill : String → String → String → FileTree → Except PyError FileTree)
    (ptdi : XMLElement) (elements : List XMLElement) (validateDict : FileTree) :
    Except PyError FileTree :=
  elements.foldlM (fun validateDict e => do
    let itemPrefix ← ptdi.pyAttribute "guid_prefix"
    let guidEntity ← e.pyAttribute "guid_entity"
    let topic ← e.pyAttribute "topic"
    fill itemPrefix guidEntity topic validateDict) validateDict

def processItem (servers : List String) (snapshot ptdb : XMLElement) (validateDict : FileTree)
    (ptdi : XMLElement) : Except PyError FileTree := do
  let server ← ptdi.pyAttribute "server"
  if server = "true" then return validateDict
  else
    let databasePrefix ← ptdb.pyAttribute "guid_prefix"
    let itemPrefix ← ptdi.pyAttribute "guid_prefix"
    if databasePrefix ≠ itemPrefix then return validateDict
    else
      let validateDict ← forEndpoints "publisher" ptdi
        (processEndpoints (fillMatchingPublisherData servers snapshot) ptdi) validateDict
      forEndpoints "subscriber" ptdi
        (processEndpoints (fillMatchingSubscriberData servers snapshot) ptdi) validateDict

/-- `__process_validation_dict`. -/
def processValidationDict (servers : List String) (doc : XMLDocument) (validateDict : FileTree) :
    Except PyError FileTree := do
  let snapshots ← snapshotElements doc
  snapshots.foldlM (fun validateDict snapshot => do
    let ptdbs ← snapshot.pyElements "ptdb"
    ptdbs.foldlM (fun validateDict ptdb => do
      let ptdis ← ptdb.pyElementsOr "ptdi" ((ptdb.pyAttribute "guid_prefix").map fun _ => ())
      ptdis.foldlM (processItem servers snapshot ptdb) validateDict) validateDict) validateDict

/-- `validate_dict` after both passes, for the servers that `process_servers` has found. -/
def expectation (servers : List String) (doc : XMLDocument) : Except PyError FileTree := do
  let dicts ← createCopyAndValidateDict servers doc
  processValidationDict servers doc dicts.2

/-! ## The first pass -/

/-- The entry of an endpoint under its GUID. -/
def guidPair (a : String × EndpointView) : String × EndpointTree :=
  (a.1 ++ "_" ++ (a.2.guidPrefix ++ "." ++ a.2.guidEntity),
    ⟨a.2.topic, some (a.2.guidPrefix ++ "." ++ a.2.guidEntity)⟩)

def guidItem (v : ItemView) : String × ItemTree :=
  ("ptdi_" ++ v.guidPrefix, ⟨v.guidPrefix,
    (∅ : OrdMap String EndpointTree).setAll (v.endpoints.map guidPair)⟩)

/-- The own item of a participant that is no server. -/
def OwnClient (d : DatabaseView) (v : ItemView) : Prop :=
  v.guidPrefix = d.guidPrefix ∧ v.server ≠ "true"

instance (d : DatabaseView) (v : ItemView) : Decidable (OwnClient d v) :=
  inferInstanceAs (Decidable (_ ∧ _))

/-- The own items of a database. -/
def ownItems (d : DatabaseView) : OrdMap String ItemTree :=
  (∅ : OrdMap String ItemTree).setAll ((d.items.filter fun v => OwnClient d v).map guidItem)

def ownDatabase (d : DatabaseView) : String × DatabaseTree :=
  ("ptdb_" ++ d.guidPrefix, ⟨d.guidPrefix, ownItems d⟩)

def ownDatabases (servers : List String) (s : SnapshotView) : SnapshotTree :=
  (∅ : SnapshotTree).setAll ((s.databases.filter fun d => d.guidPrefix ∉ servers).map ownDatabase)

/-- `validate_dict` after the first pass. -/
def ownTree (servers : List String) (views : List SnapshotView) : FileTree :=
  (∅ : FileTree).setAll (views.map fun s => ("DS_Snapshot_" ++ s.timestamp, ownDatabases servers s))

/-- A tree with an item for each of the items of the participants outside `servers` that
are kept. -/
def treeOf (servers : List String) (kept : DatabaseView → ItemView → Bool)
    (views : List SnapshotView) : FileTree :=
  (∅ : FileTree).setAll (views.map fun s => ("DS_Snapshot_" ++ s.timestamp,
    (∅ : SnapshotTree).setAll ((s.databases.filter fun d => d.guidPrefix ∉ servers).map fun d =>
      ("ptdb_" ++ d.guidPrefix, ⟨d.guidPrefix,
        (∅ : OrdMap String ItemTree).setAll ((d.items.filter (kept d)).map guidItem)⟩))))

/-- `copy_dict`. -/
def copyTree (servers : List String) (views : List SnapshotView) : FileTree :=
  treeOf servers (fun _ v => v.server ≠ "true") views

theorem trimItem_guidMode {owner : String} {v : ItemView} {ptdi : XMLElement} (h : v.ShownBy ptdi) :
    trimItem guidMode owner ptdi = .ok (guidItem v) := by
  have hlabel : guidMode.itemLabel owner ptdi = .ok v.guidPrefix :=
    XMLElement.pyAttribute_eq_ok_iff.mpr h.guidPrefix
  refine (trimItem_of_entries (P := fun _ => True) (g := guidPair) h hlabel
    (fun kind a e he pair => ?_) _).mpr ⟨fun _ _ => trivial, rfl⟩
  unfold guidMode
  dsimp only
  rw [XMLElement.pyAttribute_eq_ok_iff.mpr he.guidPrefix,
    XMLElement.pyAttribute_eq_ok_iff.mpr he.guidEntity,
    XMLElement.pyAttribute_eq_ok_iff.mpr he.topic]
  simp only [ok_bind, true_and]
  exact ⟨fun h => (Except.ok.inj h).symm, fun h => congrArg Except.ok h.symm⟩

theorem createItem_eq (d : DatabaseView) {v : ItemView} {ptdi : XMLElement} (h : v.ShownBy ptdi)
    (m m' : OrdMap String ItemTree) :
    createItem d.guidPrefix (m, m') ptdi = .ok
      (if v.server ≠ "true" then m.set (guidItem v).1 (guidItem v).2 else m,
        if OwnClient d v then m'.set (guidItem v).1 (guidItem v).2 else m') := by
  unfold createItem OwnClient
  rw [XMLElement.pyAttribute_eq_ok_iff.mpr h.server, trimItem_guidMode h, ok_bind, ok_bind]
  by_cases hserver : v.server = "true"
  · simp [hserver]
    rfl
  · simp [hserver]
    rfl

/-- The database of a participant in `copy_dict`. -/
def copiedDatabase (d : DatabaseView) : String × DatabaseTree :=
  ("ptdb_" ++ d.guidPrefix, ⟨d.guidPrefix, (∅ : OrdMap String ItemTree).setAll
    ((d.items.filter fun v => v.server ≠ "true").map guidItem)⟩)

theorem createDatabase_eq (servers : List String) {d : DatabaseView} {ptdb : XMLElement}
    (h : d.ShownBy ptdb) (m m' : SnapshotTree) :
    createDatabase servers (m, m') ptdb = .ok
      (if d.guidPrefix ∉ servers then m.set (copiedDatabase d).1 (copiedDatabase d).2 else m,
        if d.guidPrefix ∉ servers then m'.set (ownDatabase d).1 (ownDatabase d).2 else m') := by
  have hitems : (ptdb.childElements "ptdi").foldlM (createItem d.guidPrefix) (∅, ∅) =
      .ok ((copiedDatabase d).2.items, ownItems d) :=
    OrdMap.foldlM_setBoth (fun v => v.server ≠ "true") (fun v => OwnClient d v) guidItem guidItem
      h.items (fun v e hv m m' => by simpa using createItem_eq d hv m m') ∅ ∅
  unfold createDatabase
  rw [XMLElement.pyAttribute_eq_ok_iff.mpr h.guidPrefix, ok_bind,
    XMLElement.pyElementsOr_of_isDict (XMLElement.isDict_of_attributeValue h.guidPrefix) rfl,
    ok_bind, hitems, ok_bind]
  by_cases hserver : d.guidPrefix ∈ servers
  · simp [hserver]
    rfl
  · simp [hserver, copiedDatabase, ownDatabase]
    rfl

/-- The databases of a snapshot in `copy_dict`. -/
def copiedDatabases (servers : List String) (s : SnapshotView) : SnapshotTree :=
  (∅ : SnapshotTree).setAll
    ((s.databases.filter fun d => d.guidPrefix ∉ servers).map copiedDatabase)

theorem createSnapshot_eq (servers : List String) {s : SnapshotView} {e : XMLElement}
    (h : s.ShownBy e) (m m' : FileTree) :
    createSnapshot servers (m, m') e = .ok
      (m.set ("DS_Snapshot_" ++ s.timestamp) (copiedDatabases servers s),
        m'.set ("DS_Snapshot_" ++ s.timestamp) (ownDatabases servers s)) := by
  have hdatabases : (e.childElements "ptdb").foldlM (createDatabase servers) (∅, ∅) =
      .ok (copiedDatabases servers s, ownDatabases servers s) :=
    OrdMap.foldlM_setBoth (fun d => d.guidPrefix ∉ servers) (fun d => d.guidPrefix ∉ servers)
      copiedDatabase ownDatabase h.databases
      (fun d e hd m m' => by simpa using createDatabase_eq servers hd m m') ∅ ∅
  unfold createSnapshot
  rw [XMLElement.pyAttribute_eq_ok_iff.mpr h.timestamp, ok_bind,
    XMLElement.pyElementsOr_of_isDict (XMLElement.isDict_of_attributeValue h.timestamp) rfl,
    ok_bind, hdatabases, ok_bind]
  rfl

theorem createCopyAndValidateDict_eq (servers : List String) {views : List SnapshotView}
    {doc : XMLDocument} (h : ShownBy views doc) (hne : views ≠ []) :
    createCopyAndValidateDict servers doc =
      .ok (copyTree servers views, ownTree servers views) := by
  obtain ⟨snapshots, hdoc, hsnapshots⟩ := h.snapshotElements hne
  have hloop := OrdMap.foldlM_setBoth (fun _ => true) (fun _ => true)
    (fun s : SnapshotView => ("DS_Snapshot_" ++ s.timestamp, copiedDatabases servers s))
    (fun s : SnapshotView => ("DS_Snapshot_" ++ s.timestamp, ownDatabases servers s)) hsnapshots
    (fun s e hs m m' => by simpa using createSnapshot_eq servers hs m m') ∅ ∅
  unfold createCopyAndValidateDict
  rw [hdoc, ok_bind, hloop, List.filter_true]
  rfl

/-! ## The second pass -/

/-- The own item of a participant, where it has endpoints of the kind. -/
def ownWith (kind : EndpointKind) (d : DatabaseView) : Option ItemView :=
  d.items.find? fun u => u.guidPrefix = d.guidPrefix ∧ u.ofKind kind ≠ []

/-- The entry of an endpoint of the participant `itemPrefix`. -/
def remotePair (kind : EndpointKind) (itemPrefix : String) (w : EndpointView) :
    String × EndpointTree :=
  (kind.tag ++ "_" ++ (itemPrefix ++ "." ++ w.guidEntity),
    ⟨w.topic, some (itemPrefix ++ "." ++ w.guidEntity)⟩)

/-- What is entered for an endpoint: once for each endpoint of the other kind on its topic. -/
def matchingEntries (servers : List String) (s : SnapshotView) (kind : EndpointKind)
    (itemPrefix : String) (w : EndpointView) : List RemoteEntry :=
  s.databases.flatMap fun d =>
    if itemPrefix ≠ d.guidPrefix ∧ d.guidPrefix ∉ servers then
      (ownWith kind.opposite d).toList.flatMap fun u =>
        (u.ofKind kind.opposite).flatMap fun r =>
          if w.topic = r.topic then
            [⟨s.timestamp, d.guidPrefix, itemPrefix, remotePair kind itemPrefix w⟩]
          else []
    else []

def itemEntries (servers : List String) (s : SnapshotView) (v : ItemView) : List RemoteEntry :=
  v.publishers.flatMap (matchingEntries servers s .publisher v.guidPrefix) ++
    v.subscribers.flatMap (matchingEntries servers s .subscriber v.guidPrefix)

/-- What the second pass enters. -/
def remoteEntries (servers : List String) (views : List SnapshotView) : List RemoteEntry :=
  views.flatMap fun s => s.databases.flatMap fun d => d.items.flatMap fun v =>
    if OwnClient d v then itemEntries servers s v else []

theorem childElements_eq_nil_iff {v : ItemView} {e : XMLElement} (h : v.ShownBy e)
    (kind : EndpointKind) : e.childElements kind.tag = [] ↔ v.ofKind kind = [] := by
  rw [← List.length_eq_zero_iff, ← (h.ofKind kind).length_eq, List.length_eq_zero_iff]

theorem firstOwn_eq {items : List ItemView} {l : List XMLElement}
    (h : List.Forall₂ ItemView.ShownBy items l) (kind : EndpointKind) (guidPrefix : String) :
    ∃ found, firstOwn kind guidPrefix l = .ok found ∧ Option.Rel ItemView.ShownBy
      (items.find? fun u => u.guidPrefix = guidPrefix ∧ u.ofKind kind ≠ []) found := by
  induction h with
  | nil => exact ⟨none, rfl, .none⟩
  | @cons v e items l hv _ ih =>
    obtain ⟨found, hfound, hrel⟩ := ih
    unfold firstOwn
    rw [XMLElement.pyAttribute_eq_ok_iff.mpr hv.guidPrefix, ok_bind, hv.pyHasKey kind.tag, ok_bind]
    by_cases hown : guidPrefix = v.guidPrefix
    · by_cases hkind : v.ofKind kind = []
      · refine ⟨found, ?_, ?_⟩
        · rw [if_pos hown, (childElements_eq_nil_iff hv kind).mpr hkind]
          exact hfound
        · rw [List.find?_cons_of_neg (by simp [hkind])]
          exact hrel
      · have hne := mt (childElements_eq_nil_iff hv kind).mp hkind
        refine ⟨some e, ?_, ?_⟩
        · rw [if_pos hown, if_pos (by simpa using hne)]
          rfl
        · rw [List.find?_cons_of_pos (by simp [hown, hkind])]
          exact .some hv
    · refine ⟨found, ?_, ?_⟩
      · rw [if_neg hown]
        exact hfound
      · rw [List.find?_cons_of_neg (by simp [Ne.symm hown])]
        exact hrel

theorem pyElements_databases {s : SnapshotView} {e : XMLElement} (hs : s.ShownBy e)
    (hne : s.databases ≠ []) : e.pyElements "ptdb" = .ok (e.childElements "ptdb") := by
  refine XMLElement.pyElements_eq_ok_iff.mpr ⟨rfl, fun hnil => hne ?_⟩
  rw [← List.length_eq_zero_iff, hs.databases.length_eq, hnil]
  rfl

theorem fillMatchingData_eq (servers : List String) {s : SnapshotView} {e : XMLElement}
    (hs : s.ShownBy e) (hne : s.databases ≠ []) (kind : EndpointKind) (itemPrefix : String)
    (w : EndpointView) (validateDict : FileTree) :
    fillMatchingData kind servers e itemPrefix w.guidEntity w.topic validateDict =
      (matchingEntries servers s kind itemPrefix w).foldlM enter validateDict := by
  unfold fillMatchingData matchingEntries
  rw [pyElements_databases hs hne, ok_bind]
  refine foldlM_eq_flatMap hs.databases (fun validateDict d ptdb hd => ?_) validateDict
  rw [XMLElement.pyAttribute_eq_ok_iff.mpr hd.guidPrefix, ok_bind,
    XMLElement.pyElementsOr_of_isDict (XMLElement.isDict_of_attributeValue hd.guidPrefix) rfl,
    ok_bind]
  split_ifs with hother
  · obtain ⟨found, hfound, hrel⟩ := firstOwn_eq hd.items kind.opposite d.guidPrefix
    rw [hfound, ok_bind]
    unfold ownWith
    cases hfind : d.items.find? fun u =>
      u.guidPrefix = d.guidPrefix ∧ u.ofKind kind.opposite ≠ [] with
    | none =>
      rw [hfind] at hrel
      cases hrel
      rfl
    | some u =>
      rw [hfind] at hrel
      cases hrel with
      | @some _ ptdi hu =>
        have hsome := List.find?_some hfind
        have hkind : u.ofKind kind.opposite ≠ [] := (of_decide_eq_true hsome).2
        have hchild := mt (childElements_eq_nil_iff hu kind.opposite).mp hkind
        dsimp only
        rw [XMLElement.pyElements_eq_ok_iff.mpr ⟨rfl, hchild⟩, ok_bind, Option.toList_some,
          List.flatMap_singleton]
        refine foldlM_eq_flatMap (hu.ofKind kind.opposite)
          (fun validateDict r c hr => ?_) validateDict
        rw [XMLElement.pyAttribute_eq_ok_iff.mpr hr.topic, ok_bind,
          XMLElement.pyAttribute_eq_ok_iff.mpr hs.timestamp, ok_bind]
        split_ifs
        · rw [List.foldlM_cons]
          exact (bind_pure _).symm
        · rfl
  · rfl

theorem processEndpoints_eq (servers : List String) {s : SnapshotView} {e : XMLElement}
    (hs : s.ShownBy e) (hne : s.databases ≠ []) {v : ItemView} {ptdi : XMLElement}
    (hv : v.ShownBy ptdi) (kind : EndpointKind) (validateDict : FileTree) :
    forEndpoints kind.tag ptdi (processEndpoints (fillMatchingData kind servers e) ptdi)
        validateDict =
      ((v.ofKind kind).flatMap (matchingEntries servers s kind v.guidPrefix)).foldlM enter
        validateDict := by
  rw [forEndpoints_eq hv rfl]
  refine foldlM_eq_flatMap (hv.ofKind kind) (fun validateDict w c hw => ?_) validateDict
  rw [XMLElement.pyAttribute_eq_ok_iff.mpr hv.guidPrefix, ok_bind,
    XMLElement.pyAttribute_eq_ok_iff.mpr hw.guidEntity, ok_bind,
    XMLElement.pyAttribute_eq_ok_iff.mpr hw.topic, ok_bind]
  exact fillMatchingData_eq servers hs hne kind v.guidPrefix w validateDict

theorem processItem_eq (servers : List String) {s : SnapshotView} {e : XMLElement}
    (hs : s.ShownBy e) (hne : s.databases ≠ []) {d : DatabaseView} {ptdb : XMLElement}
    (hd : d.ShownBy ptdb) {v : ItemView} {ptdi : XMLElement} (hv : v.ShownBy ptdi)
    (validateDict : FileTree) :
    processItem servers e ptdb validateDict ptdi =
      (if OwnClient d v then itemEntries servers s v else []).foldlM enter validateDict := by
  unfold processItem
  rw [XMLElement.pyAttribute_eq_ok_iff.mpr hv.server, ok_bind,
    XMLElement.pyAttribute_eq_ok_iff.mpr hd.guidPrefix, ok_bind,
    XMLElement.pyAttribute_eq_ok_iff.mpr hv.guidPrefix, ok_bind]
  by_cases hserver : v.server = "true"
  · rw [if_pos hserver, if_neg (show ¬ OwnClient d v from fun h => h.2 hserver)]
    rfl
  · rw [if_neg hserver]
    by_cases hown : d.guidPrefix = v.guidPrefix
    · rw [if_neg (not_not.mpr hown), if_pos (show OwnClient d v from ⟨hown.symm, hserver⟩)]
      have hpub := processEndpoints_eq servers hs hne hv .publisher validateDict
      unfold itemEntries
      rw [List.foldlM_append]
      refine (congrArg (· >>= _) hpub).trans (congrArg _ (funext fun validateDict => ?_))
      exact processEndpoints_eq servers hs hne hv .subscriber validateDict
    · rw [if_pos hown, if_neg (show ¬ OwnClient d v from fun h => hown h.1.symm)]
      rfl

/-- **Both passes as data**: the tree of the own items, into which the remote endpoints are
entered. -/
theorem expectation_eq (servers : List String) {views : List SnapshotView} {doc : XMLDocument}
    (h : ShownBy views doc) (hne : views ≠ []) (hdatabases : ∀ s ∈ views, s.databases ≠ []) :
    expectation servers doc =
      (remoteEntries servers views).foldlM enter (ownTree servers views) := by
  have hcreate := createCopyAndValidateDict_eq servers h hne
  obtain ⟨snapshots, hdoc, hsnapshots⟩ := h.snapshotElements hne
  unfold expectation processValidationDict
  rw [hcreate, ok_bind, hdoc, ok_bind]
  have hshown : List.Forall₂ (fun s e => s.ShownBy e ∧ s.databases ≠ []) views snapshots :=
    OneToOne.forall₂_imp_mem hsnapshots fun s hs e _ hshown => ⟨hshown, hdatabases s hs⟩
  refine foldlM_eq_flatMap hshown (fun validateDict s e hs => ?_) _
  obtain ⟨hs, hne⟩ := hs
  rw [pyElements_databases hs hne, ok_bind]
  refine foldlM_eq_flatMap hs.databases (fun validateDict d ptdb hd => ?_) validateDict
  have hlabel := XMLElement.pyAttribute_eq_ok_iff.mpr hd.guidPrefix
  rw [XMLElement.pyElementsOr_of_isDict (XMLElement.isDict_of_attributeValue hd.guidPrefix)
    (by rw [hlabel]; rfl), ok_bind]
  exact foldlM_eq_flatMap hd.items
    (fun validateDict v ptdi hv => processItem_eq servers hs hne hd hv validateDict) validateDict

end GenerateValidator

end DiscoveryServer
