import DiscoveryServer.Expectation
import DiscoveryServer.Library.Submap

/-!
# The verdict of the generate validator

`GenerateValidator` compares, for each snapshot of a file, the copy of what the file has
with what it should have: they have to be equal, or with disposals the expectation has to
be within the copy. `validate_verdict` says what the verdict means for the participants of
the file: one that is no server has to know exactly the participants with an endpoint
that matches one of its own, with exactly the endpoints that match.

Both comparisons are made of inclusions (`snapshotSubset_antisymm`), and an inclusion is
one of participants, of items and of endpoints (`subset_iff`). What the expectation has is
known from its closure; the rest is what the copy has.
-/

namespace DiscoveryServer

open Library

/-! ## __dict_subset -/

/-- `__dict_subset` of two endpoints. -/
def EndpointTree.dictSubset (a b : EndpointTree) : Bool :=
  a.topic = b.topic && (a.guid = none || a.guid = b.guid)

def ItemTree.dictSubset (a b : ItemTree) : Bool :=
  a.label = b.label && OrdMap.within EndpointTree.dictSubset a.endpoints b.endpoints

def DatabaseTree.dictSubset (a b : DatabaseTree) : Bool :=
  a.label = b.label && OrdMap.within ItemTree.dictSubset a.items b.items

def snapshotSubset (a b : SnapshotTree) : Bool := OrdMap.within DatabaseTree.dictSubset a b

theorem EndpointTree.dictSubset_refl (a : EndpointTree) : a.dictSubset a = true := by
  simp [EndpointTree.dictSubset]

theorem ItemTree.dictSubset_refl (a : ItemTree) : a.dictSubset a = true := by
  unfold ItemTree.dictSubset
  simp [OrdMap.within_refl EndpointTree.dictSubset_refl]

theorem DatabaseTree.dictSubset_refl (a : DatabaseTree) : a.dictSubset a = true := by
  unfold DatabaseTree.dictSubset
  simp [OrdMap.within_refl ItemTree.dictSubset_refl]

theorem EndpointTree.dictSubset_antisymm (a b : EndpointTree) (h : a.dictSubset b = true)
    (h' : b.dictSubset a = true) : a = b := by
  obtain ⟨topic, guid⟩ := a
  obtain ⟨topic', guid'⟩ := b
  simp only [EndpointTree.dictSubset, Bool.and_eq_true, Bool.or_eq_true, decide_eq_true_eq] at h h'
  obtain ⟨rfl, hguid⟩ := h
  obtain ⟨-, hguid'⟩ := h'
  rcases hguid with rfl | rfl
  · rcases hguid' with rfl | rfl <;> rfl
  · rfl

theorem ItemTree.dictSubset_antisymm (a b : ItemTree) (h : a.dictSubset b = true)
    (h' : b.dictSubset a = true) : a = b := by
  obtain ⟨label, endpoints⟩ := a
  obtain ⟨label', endpoints'⟩ := b
  simp only [ItemTree.dictSubset, Bool.and_eq_true, decide_eq_true_eq] at h h'
  obtain ⟨rfl, hsub⟩ := h
  rw [OrdMap.within_antisymm EndpointTree.dictSubset_antisymm hsub h'.2]

theorem DatabaseTree.dictSubset_antisymm (a b : DatabaseTree) (h : a.dictSubset b = true)
    (h' : b.dictSubset a = true) : a = b := by
  obtain ⟨label, items⟩ := a
  obtain ⟨label', items'⟩ := b
  simp only [DatabaseTree.dictSubset, Bool.and_eq_true, decide_eq_true_eq] at h h'
  obtain ⟨rfl, hsub⟩ := h
  rw [OrdMap.within_antisymm ItemTree.dictSubset_antisymm hsub h'.2]

/-- Equality of snapshots is inclusion both ways. -/
theorem snapshot_eq_iff {a b : SnapshotTree} :
    a = b ↔ snapshotSubset a b = true ∧ snapshotSubset b a = true := by
  constructor
  · rintro rfl
    exact ⟨OrdMap.within_refl DatabaseTree.dictSubset_refl,
      OrdMap.within_refl DatabaseTree.dictSubset_refl⟩
  · rintro ⟨h, h'⟩
    exact OrdMap.within_antisymm DatabaseTree.dictSubset_antisymm h h'

namespace GenerateValidator

/-! ## _validate -/

/-- A `KeyError` where there is nothing under the key. -/
def pyGet {β : Type} (m : OrdMap String β) (k : String) : Except PyError β :=
  match m.get? k with
  | none => .error .keyError
  | some v => .ok v

/-- The comparison of a snapshot. Its description is in the text that is logged in the
`try`, and in the one that is logged in its handler. -/
def snapshotResult (repr : List XMLElement → String) (disposals : Bool)
    (dicts : FileTree × FileTree) (snapshot : XMLElement) : Except PyError ReturnCode :=
  let result : Except PyError ReturnCode := do
    let timestamp ← snapshot.pyAttribute "timestamp"
    let copied ← pyGet dicts.1 ("DS_Snapshot_" ++ timestamp)
    let expected ← pyGet dicts.2 ("DS_Snapshot_" ++ timestamp)
    let val := if disposals then snapshotSubset expected copied else decide (copied = expected)
    let _description ← snapshot.pyText repr "description"
    return if val then .ok else .fail
  match result with
  | .error .keyError => (snapshot.pyText repr "description").map fun _ => .error
  | result => result

/-- Both passes, under one `try`. -/
def createDicts (servers : List String) (doc : XMLDocument) :
    Except PyError (FileTree × FileTree) := do
  let dicts ← createCopyAndValidateDict servers doc
  let validateDict ← processValidationDict servers doc dicts.2
  return (dicts.1, validateDict)

/-- `_validate` once the parameters have been read. -/
def compare (repr : List XMLElement → String) (disposals serverEndpoints : Bool)
    (valSnapshot : XMLDocument) : Except PyError ReturnCode := do
  let servers ← processServers valSnapshot
  if serverEndpoints then return .skip
  else
    match createDicts servers valSnapshot with
    | .error .keyError => return .error
    | .error err => throw err
    | .ok dicts =>
      let snapshots ← snapshotElements valSnapshot
      let results ← snapshots.mapM (snapshotResult repr disposals dicts)
      return GroundTruthValidator.verdict results

/-- `_validate`, for the values of the parameters `disposals` and `server_endpoints`, if
there are any, and the file, or the exception that parsing it raises. -/
def validate (repr : List XMLElement → String) (disposals serverEndpoints : Option Bool)
    (valSnapshot : Except PyError XMLDocument) : Except PyError ReturnCode :=
  let parameters : Except PyError (Bool × Bool × XMLDocument) := do
    let disposals ← match disposals with
      | none => .error .keyError
      | some disposals => .ok disposals
    let serverEndpoints ← match serverEndpoints with
      | none => .error .keyError
      | some serverEndpoints => .ok serverEndpoints
    let valSnapshot ← valSnapshot
    return (disposals, serverEndpoints, valSnapshot)
  match parameters with
  | .ok (disposals, serverEndpoints, valSnapshot) =>
    compare repr disposals serverEndpoints valSnapshot
  | .error .keyError => .ok .error
  | .error .valueError => .ok .error
  | .error err => .error err

/-! ## The shape of the trees -/

/-- The key is made of the label, and every endpoint has its GUID. -/
structure ShapedItem (k : String) (item : ItemTree) : Prop where
  key : k = "ptdi_" ++ item.label
  guids : ∀ k e, item.endpoints.get? k = some e → e.guid ≠ none

structure ShapedDatabase (k : String) (database : DatabaseTree) : Prop where
  key : k = "ptdb_" ++ database.label
  items : ∀ k item, database.items.get? k = some item → ShapedItem k item

def Shaped (databases : SnapshotTree) : Prop :=
  ∀ k database, databases.get? k = some database → ShapedDatabase k database

/-- All that is in one tree under a timestamp is in the other. -/
structure Included (ts : String) (a b : FileTree) : Prop where
  databases : ∀ p, (databaseAt a ts p).isSome → (databaseAt b ts p).isSome
  items : ∀ p q, (itemAt a ts p q).isSome → (itemAt b ts p q).isSome
  entries : ∀ p q k t, entryAt a ts p q k = some t → entryAt b ts p q k = some t

section Subset

variable {a b : FileTree} {ts : String} {sa sb : SnapshotTree}

theorem databaseAt_eq (ha : a.get? ("DS_Snapshot_" ++ ts) = some sa) (p : String) :
    databaseAt a ts p = sa.get? ("ptdb_" ++ p) := by
  unfold databaseAt
  rw [ha, Option.bind_some]

theorem dictSubset_iff_eq {x y : EndpointTree} (h : x.guid ≠ none) :
    x.dictSubset y = true ↔ x = y := by
  obtain ⟨topic, guid⟩ := x
  obtain ⟨topic', guid'⟩ := y
  have hguid : guid ≠ none := h
  simp [EndpointTree.dictSubset, hguid]

theorem itemSubset_iff {k : String} {x y : ItemTree} (hx : ShapedItem k x) (hy : ShapedItem k y) :
    x.dictSubset y = true ↔ ∀ k t, x.endpoints.get? k = some t → y.endpoints.get? k = some t := by
  have hlabel : x.label = y.label := (String.append_right_inj _).mp (hx.key.symm.trans hy.key)
  unfold ItemTree.dictSubset
  rw [Bool.and_eq_true, decide_eq_true_eq, OrdMap.within_iff]
  constructor
  · rintro ⟨-, hsub⟩ k t hget
    obtain ⟨t', hget', hbelow⟩ := hsub k t hget
    rw [(dictSubset_iff_eq (hx.guids k t hget)).mp hbelow]
    exact hget'
  · intro h
    refine ⟨hlabel, fun k t hget => ⟨t, h k t hget, EndpointTree.dictSubset_refl t⟩⟩

theorem databaseSubset_iff {k : String} {x y : DatabaseTree} (hx : ShapedDatabase k x)
    (hy : ShapedDatabase k y) : x.dictSubset y = true ↔
      ∀ k item, x.items.get? k = some item → ∃ item', y.items.get? k = some item' ∧
        ∀ k t, item.endpoints.get? k = some t → item'.endpoints.get? k = some t := by
  have hlabel : x.label = y.label := (String.append_right_inj _).mp (hx.key.symm.trans hy.key)
  unfold DatabaseTree.dictSubset
  rw [Bool.and_eq_true, decide_eq_true_eq, OrdMap.within_iff]
  constructor
  · rintro ⟨-, hsub⟩ k item hget
    obtain ⟨item', hget', hbelow⟩ := hsub k item hget
    exact ⟨item', hget', (itemSubset_iff (hx.items k item hget) (hy.items k item' hget')).mp hbelow⟩
  · intro h
    refine ⟨hlabel, fun k item hget => ?_⟩
    obtain ⟨item', hget', hbelow⟩ := h k item hget
    have hsubset := itemSubset_iff (hx.items k item hget) (hy.items k item' hget')
    exact ⟨item', hget', hsubset.mpr hbelow⟩

/-- **An inclusion of snapshots** is one of participants, of items and of endpoints. -/
theorem subset_iff (ha : a.get? ("DS_Snapshot_" ++ ts) = some sa)
    (hb : b.get? ("DS_Snapshot_" ++ ts) = some sb) (hsa : Shaped sa) (hsb : Shaped sb) :
    snapshotSubset sa sb = true ↔ Included ts a b := by
  unfold snapshotSubset
  rw [OrdMap.within_iff]
  constructor
  · intro h
    have hdatabase : ∀ p x, databaseAt a ts p = some x → ∃ y, databaseAt b ts p = some y ∧
        ∀ k item, x.items.get? k = some item → ∃ item', y.items.get? k = some item' ∧
          ∀ k t, item.endpoints.get? k = some t → item'.endpoints.get? k = some t := by
      intro p x hx
      rw [databaseAt_eq ha] at hx
      obtain ⟨y, hy, hbelow⟩ := h _ x hx
      refine ⟨y, (databaseAt_eq hb p).trans hy, ?_⟩
      exact (databaseSubset_iff (hsa _ x hx) (hsb _ y hy)).mp hbelow
    have hitem : ∀ p q item, itemAt a ts p q = some item → ∃ item', itemAt b ts p q = some item' ∧
        ∀ k t, item.endpoints.get? k = some t → item'.endpoints.get? k = some t := by
      intro p q item hget
      obtain ⟨x, hx, hget⟩ := Option.bind_eq_some_iff.mp hget
      obtain ⟨y, hy, hitems⟩ := hdatabase p x hx
      obtain ⟨item', hget', hentries⟩ := hitems _ item hget
      exact ⟨item', Option.bind_eq_some_iff.mpr ⟨y, hy, hget'⟩, hentries⟩
    constructor
    · intro p hsome
      obtain ⟨x, hx⟩ := Option.isSome_iff_exists.mp hsome
      obtain ⟨y, hy, -⟩ := hdatabase p x hx
      exact Option.isSome_iff_exists.mpr ⟨y, hy⟩
    · intro p q hsome
      obtain ⟨item, hget⟩ := Option.isSome_iff_exists.mp hsome
      obtain ⟨item', hget', -⟩ := hitem p q item hget
      exact Option.isSome_iff_exists.mpr ⟨item', hget'⟩
    · intro p q k t hget
      obtain ⟨item, hitems, hget⟩ := Option.bind_eq_some_iff.mp hget
      obtain ⟨item', hitems', hentries⟩ := hitem p q item hitems
      exact Option.bind_eq_some_iff.mpr ⟨item', hitems', hentries k t hget⟩
  · intro h k x hx
    -- the lookups are by labels, which the keys are made of
    have hkey := (hsa k x hx).key
    have hthere : databaseAt a ts x.label = some x := by
      rw [databaseAt_eq ha, ← hkey]
      exact hx
    obtain ⟨y, hy⟩ := Option.isSome_iff_exists.mp
      (h.databases x.label (Option.isSome_iff_exists.mpr ⟨x, hthere⟩))
    have hget : sb.get? k = some y := by
      rw [hkey, ← databaseAt_eq hb]
      exact hy
    refine ⟨y, hget, (databaseSubset_iff (hsa k x hx) (hsb k y hget)).mpr fun k' item hitem => ?_⟩
    have hkey' := ((hsa k x hx).items k' item hitem).key
    have hitemAt : itemAt a ts x.label item.label = some item :=
      Option.bind_eq_some_iff.mpr ⟨x, hthere, by rw [← hkey']; exact hitem⟩
    obtain ⟨item', hitem'⟩ := Option.isSome_iff_exists.mp
      (h.items _ _ (Option.isSome_iff_exists.mpr ⟨item, hitemAt⟩))
    refine ⟨item', ?_, fun k t hentry => ?_⟩
    · obtain ⟨y', hy', hitem'⟩ := Option.bind_eq_some_iff.mp hitem'
      rw [hy] at hy'
      cases hy'
      rw [hkey']
      exact hitem'
    · have hentryAt := h.entries x.label item.label k t
        (Option.bind_eq_some_iff.mpr ⟨item, hitemAt, hentry⟩)
      unfold entryAt at hentryAt
      rw [hitem', Option.bind_some] at hentryAt
      exact hentryAt

end Subset

/-! ## The trees of the first pass -/

/-- Timestamps and prefixes tell snapshots, databases and items apart, and the endpoints of
an item have its prefix and GUIDs of their own. -/
structure Identified (views : List SnapshotView) : Prop where
  timestamps : (views.map (·.timestamp)).Nodup
  databases : ∀ s ∈ views, (s.databases.map (·.guidPrefix)).Nodup
  items : ∀ s ∈ views, ∀ d ∈ s.databases, (d.items.map (·.guidPrefix)).Nodup
  endpoints : ∀ s ∈ views, ∀ d ∈ s.databases, ∀ v ∈ d.items,
    (v.endpoints.map fun a => (a.2.guidPrefix, a.2.guidEntity)).Nodup
  owned : ∀ s ∈ views, s.Owned

theorem Identified.regular {views : List SnapshotView} (h : Identified views)
    (hdatabases : ∀ s ∈ views, s.databases ≠ []) : Regular views where
  timestamps := h.timestamps
  databases := hdatabases
  prefixes := h.databases
  ownItem := by
    intro s hs d hd v hv w hw hown hown'
    exact List.inj_on_of_nodup_map (h.items s hs d hd) hv hw (hown.trans hown'.symm)
  guids := fun s hs d hd v hv _ => h.endpoints s hs d hd v hv

theorem Identified.ownEndpoints {views : List SnapshotView} (h : Identified views) :
    OwnEndpoints views :=
  fun s hs d hd v hv _ => h.owned s hs d hd v hv

theorem ownTree_eq (servers : List String) (views : List SnapshotView) :
    ownTree servers views = treeOf servers (fun d v => OwnClient d v) views := rfl

section TreeOf

variable {servers : List String} {kept : DatabaseView → ItemView → Bool}
  {views : List SnapshotView} {s : SnapshotView}

theorem shaped_guidItem (v : ItemView) : ShapedItem (guidItem v).1 (guidItem v).2 where
  key := rfl
  guids := by
    intro k e hget
    unfold guidItem at hget
    rw [OrdMap.get?_setAll, OrdMap.get?_empty, Option.or_none] at hget
    obtain ⟨a, -, hpair⟩ := List.mem_map.mp (OrdMap.mem_of_lastValue hget)
    cases hpair
    exact Option.some_ne_none _

theorem shaped_treeOf {k : String} {databases : SnapshotTree}
    (h : (treeOf servers kept views).get? k = some databases) : Shaped databases := by
  unfold treeOf at h
  rw [OrdMap.get?_setAll, OrdMap.get?_empty, Option.or_none] at h
  obtain ⟨s, -, hpair⟩ := List.mem_map.mp (OrdMap.mem_of_lastValue h)
  cases hpair
  intro k' database hdatabase
  rw [OrdMap.get?_setAll, OrdMap.get?_empty, Option.or_none] at hdatabase
  obtain ⟨d, -, hpair⟩ := List.mem_map.mp (OrdMap.mem_of_lastValue hdatabase)
  cases hpair
  refine ⟨rfl, fun k'' item hitem => ?_⟩
  rw [OrdMap.get?_setAll, OrdMap.get?_empty, Option.or_none] at hitem
  obtain ⟨v, -, hpair⟩ := List.mem_map.mp (OrdMap.mem_of_lastValue hitem)
  cases hpair
  exact shaped_guidItem v

theorem Identified.get?_treeOf (h : Identified views) (hs : s ∈ views) :
    (treeOf servers kept views).get? ("DS_Snapshot_" ++ s.timestamp) =
      some ((∅ : SnapshotTree).setAll
        ((s.databases.filter fun d => d.guidPrefix ∉ servers).map fun d =>
          ("ptdb_" ++ d.guidPrefix, ⟨d.guidPrefix,
            (∅ : OrdMap String ItemTree).setAll ((d.items.filter (kept d)).map guidItem)⟩))) := by
  unfold treeOf
  refine (OrdMap.get?_setAll_map fun a ha b hb hkey => ?_).mpr ⟨s, hs, rfl⟩
  rw [List.inj_on_of_nodup_map h.timestamps ha hb ((String.append_right_inj _).mp hkey)]

/-- The participants in the tree. -/
theorem Identified.databaseAt_treeOf (h : Identified views) (hs : s ∈ views) {p : String}
    {x : DatabaseTree} : databaseAt (treeOf servers kept views) s.timestamp p = some x ↔
      ∃ d ∈ s.databases, d.guidPrefix ∉ servers ∧ d.guidPrefix = p ∧
        x = ⟨p, (∅ : OrdMap String ItemTree).setAll ((d.items.filter (kept d)).map guidItem)⟩ := by
  rw [databaseAt_eq (h.get?_treeOf hs), OrdMap.get?_setAll_map]
  · constructor
    · rintro ⟨d, hd, hpair⟩
      obtain ⟨hd, hserver⟩ := List.mem_filter.mp hd
      obtain ⟨hkey, htree⟩ := Prod.mk.inj hpair
      have hp : d.guidPrefix = p := (String.append_right_inj _).mp hkey
      refine ⟨d, hd, by simpa using hserver, hp, ?_⟩
      rw [← htree, hp]
    · rintro ⟨d, hd, hserver, rfl, rfl⟩
      exact ⟨d, List.mem_filter.mpr ⟨hd, by simpa using hserver⟩, rfl⟩
  · intro a ha b hb hkey
    rw [List.inj_on_of_nodup_map (h.databases s hs) (List.mem_filter.mp ha).1
      (List.mem_filter.mp hb).1 ((String.append_right_inj _).mp hkey)]

/-- The items in the tree. -/
theorem Identified.itemAt_treeOf (h : Identified views) (hs : s ∈ views) {p q : String}
    {item : ItemTree} : itemAt (treeOf servers kept views) s.timestamp p q = some item ↔
      ∃ d ∈ s.databases, d.guidPrefix ∉ servers ∧ d.guidPrefix = p ∧
        ∃ v ∈ d.items, kept d v = true ∧ v.guidPrefix = q ∧ item = (guidItem v).2 := by
  have hitems : ∀ d ∈ s.databases,
      ((∅ : OrdMap String ItemTree).setAll ((d.items.filter (kept d)).map guidItem)).get?
        ("ptdi_" ++ q) = some item ↔
      ∃ v ∈ d.items, kept d v = true ∧ v.guidPrefix = q ∧ item = (guidItem v).2 := by
    intro d hd
    rw [OrdMap.get?_setAll_map]
    · constructor
      · rintro ⟨v, hv, hpair⟩
        obtain ⟨hv, hkept⟩ := List.mem_filter.mp hv
        obtain ⟨hkey, htree⟩ := Prod.mk.inj hpair
        exact ⟨v, hv, hkept, (String.append_right_inj _).mp hkey, htree.symm⟩
      · rintro ⟨v, hv, hkept, rfl, rfl⟩
        exact ⟨v, List.mem_filter.mpr ⟨hv, hkept⟩, rfl⟩
    · intro a ha b hb hkey
      rw [List.inj_on_of_nodup_map (h.items s hs d hd) (List.mem_filter.mp ha).1
        (List.mem_filter.mp hb).1 ((String.append_right_inj _).mp hkey)]
  unfold itemAt
  rw [Option.bind_eq_some_iff]
  constructor
  · rintro ⟨x, hx, hitem⟩
    obtain ⟨d, hd, hserver, hp, rfl⟩ := (h.databaseAt_treeOf hs).mp hx
    exact ⟨d, hd, hserver, hp, (hitems d hd).mp hitem⟩
  · rintro ⟨d, hd, hserver, hp, hitem⟩
    exact ⟨_, (h.databaseAt_treeOf hs).mpr ⟨d, hd, hserver, hp, rfl⟩, (hitems d hd).mpr hitem⟩

/-- A tree has an item only where it has the participant. -/
theorem isSome_databaseAt {tree : FileTree} {ts p q : String}
    (h : (itemAt tree ts p q).isSome) : (databaseAt tree ts p).isSome := by
  obtain ⟨item, hitem⟩ := Option.isSome_iff_exists.mp h
  obtain ⟨x, hx, -⟩ := Option.bind_eq_some_iff.mp hitem
  exact Option.isSome_iff_exists.mpr ⟨x, hx⟩

theorem isSome_itemAt {tree : FileTree} {ts p q k : String} {t : EndpointTree}
    (h : entryAt tree ts p q k = some t) : (itemAt tree ts p q).isSome := by
  obtain ⟨item, hitem, -⟩ := Option.bind_eq_some_iff.mp h
  exact Option.isSome_iff_exists.mpr ⟨item, hitem⟩

theorem Identified.isSome_databaseAt_treeOf (h : Identified views) (hs : s ∈ views) {p : String} :
    (databaseAt (treeOf servers kept views) s.timestamp p).isSome ↔
      ∃ d ∈ s.databases, d.guidPrefix ∉ servers ∧ d.guidPrefix = p := by
  rw [Option.isSome_iff_exists]
  constructor
  · rintro ⟨x, hx⟩
    obtain ⟨d, hd, hserver, hp, -⟩ := (h.databaseAt_treeOf hs).mp hx
    exact ⟨d, hd, hserver, hp⟩
  · rintro ⟨d, hd, hserver, hp⟩
    exact ⟨_, (h.databaseAt_treeOf hs).mpr ⟨d, hd, hserver, hp, rfl⟩⟩

end TreeOf

section Verdict

variable {servers : List String} {views : List SnapshotView} {s : SnapshotView} {d : DatabaseView}

/-! ## What the copy has -/

theorem guidPair_eq {a b : String × EndpointView} {kind kind' : EndpointKind}
    (ha : a.1 = kind.tag) (hb : b.1 = kind'.tag) (howner : a.2.guidPrefix = b.2.guidPrefix)
    (h : guidPair a = guidPair b) : kind = kind' ∧ a = b := by
  obtain ⟨tag, guidPrefix, guidEntity, topic⟩ := a
  obtain ⟨tag', guidPrefix', guidEntity', topic'⟩ := b
  obtain ⟨hkey, htree⟩ := Prod.mk.inj h
  cases ha
  cases hb
  cases howner
  obtain ⟨rfl, hguid⟩ := tag_key_inj hkey
  obtain rfl : guidEntity = guidEntity' := by
    simpa [String.append_assoc] using hguid
  obtain rfl : topic = topic' := congrArg EndpointTree.topic htree
  exact ⟨rfl, rfl⟩

theorem Identified.itemAt_copyTree (h : Identified views) (hs : s ∈ views) (hd : d ∈ s.databases)
    (hserver : d.guidPrefix ∉ servers) {q : String} {item : ItemTree} :
    itemAt (copyTree servers views) s.timestamp d.guidPrefix q = some item ↔
      ∃ v ∈ d.items, v.server ≠ "true" ∧ v.guidPrefix = q ∧ item = (guidItem v).2 := by
  unfold copyTree
  rw [h.itemAt_treeOf hs]
  simp only [decide_eq_true_eq]
  constructor
  · rintro ⟨d', hd', -, hp, hitem⟩
    cases List.inj_on_of_nodup_map (h.databases s hs) hd' hd hp
    exact hitem
  · intro hitem
    exact ⟨d, hd, hserver, rfl, hitem⟩

theorem Identified.entryAt_copyTree (h : Identified views) (hs : s ∈ views) (hd : d ∈ s.databases)
    (hserver : d.guidPrefix ∉ servers) {q k : String} {t : EndpointTree} :
    entryAt (copyTree servers views) s.timestamp d.guidPrefix q k = some t ↔
      ∃ v ∈ d.items, v.server ≠ "true" ∧ v.guidPrefix = q ∧
        ∃ a ∈ v.endpoints, guidPair a = (k, t) := by
  have hentries : ∀ v ∈ d.items, (guidItem v).2.endpoints.get? k = some t ↔
      ∃ a ∈ v.endpoints, guidPair a = (k, t) := by
    intro v hv
    refine OrdMap.get?_setAll_map fun a ha b hb hkey => ?_
    rw [ItemView.guidPair_inj (h.owned s hs d hd v hv) (h.endpoints s hs d hd v hv) ha hb hkey]
  unfold entryAt
  rw [Option.bind_eq_some_iff]
  constructor
  · rintro ⟨item, hitem, hentry⟩
    obtain ⟨v, hv, hclient, hq, rfl⟩ := (h.itemAt_copyTree hs hd hserver).mp hitem
    exact ⟨v, hv, hclient, hq, (hentries v hv).mp hentry⟩
  · rintro ⟨v, hv, hclient, hq, hentry⟩
    refine ⟨_, (h.itemAt_copyTree hs hd hserver).mpr ⟨v, hv, hclient, hq, rfl⟩, ?_⟩
    exact (hentries v hv).mpr hentry

/-! ## What a participant has to know -/

/-- The participant knows every other participant with an endpoint that matches one of its
own, with each endpoint that does. -/
def KnowsMatches (s : SnapshotView) (d : DatabaseView) : Prop :=
  ∀ q kind w, q ≠ d.guidPrefix → Matches s d q kind w →
    ∃ v ∈ d.items, v.server ≠ "true" ∧ v.guidPrefix = q ∧ w ∈ v.ofKind kind

/-- It knows no other participant and no other endpoint of one, servers apart. -/
def KnowsOnlyMatches (s : SnapshotView) (d : DatabaseView) : Prop :=
  ∀ v ∈ d.items, v.server ≠ "true" → v.guidPrefix ≠ d.guidPrefix →
    (∃ kind w, Matches s d v.guidPrefix kind w) ∧
      ∀ kind, ∀ w ∈ v.ofKind kind, Matches s d v.guidPrefix kind w

theorem Matches.prefix_eq (h : Identified views) (hs : s ∈ views) {q : String}
    {kind : EndpointKind} {w : EndpointView} (hm : Matches s d q kind w) : w.guidPrefix = q := by
  obtain ⟨⟨d', hd', rfl, v, hv, hown, hw⟩, -⟩ := hm
  rw [← hown.1]
  exact (h.owned s hs d' hd' v hv (kind.tag, w) (ItemView.mem_endpoints.mpr ⟨kind, rfl, hw⟩)).symm

/-- The endpoint of an item that has the entry of a matching one is this one. -/
theorem Identified.mem_ofKind (h : Identified views) (hs : s ∈ views) (hd : d ∈ s.databases)
    {v : ItemView} (hv : v ∈ d.items) {kind : EndpointKind} {w : EndpointView}
    (howner : w.guidPrefix = v.guidPrefix) {a : String × EndpointView} (ha : a ∈ v.endpoints)
    (hpair : guidPair a = guidPair (kind.tag, w)) : w ∈ v.ofKind kind := by
  obtain ⟨kind', htag, hmem⟩ := ItemView.mem_endpoints.mp ha
  have howned := h.owned s hs d hd v hv a ha
  obtain ⟨rfl, rfl⟩ := guidPair_eq htag rfl (howned.symm.trans howner.symm) hpair
  exact hmem

namespace Filled

variable {tree : FileTree}

/-- Under itself a participant has the same in both trees. -/
theorem itemAt_self (hfilled : Filled servers views tree) (h : Identified views)
    (hdatabases : ∀ s ∈ views, s.databases ≠ []) (hs : s ∈ views) (hd : d ∈ s.databases)
    (hserver : d.guidPrefix ∉ servers) :
    itemAt tree s.timestamp d.guidPrefix d.guidPrefix =
      itemAt (copyTree servers views) s.timestamp d.guidPrefix d.guidPrefix := by
  have hregular := h.regular hdatabases
  have hnil : pairsAt servers views s.timestamp d.guidPrefix d.guidPrefix = [] := by
    refine List.eq_nil_iff_forall_not_mem.mpr fun pair hpair => ?_
    exact ((hregular.mem_pairsAt hs hd hserver).mp hpair).1 rfl
  rw [hfilled.item, hnil]
  show itemAt (ownTree servers views) s.timestamp d.guidPrefix d.guidPrefix = _
  refine Option.ext fun item => ?_
  rw [hregular.itemAt_ownTree hs hd hserver, hregular.get?_ownItems hs hd,
    h.itemAt_copyTree hs hd hserver]
  constructor
  · rintro ⟨v, hv, hown, -, hitem⟩
    exact ⟨v, hv, hown.2, hown.1, hitem⟩
  · rintro ⟨v, hv, hclient, hown, hitem⟩
    exact ⟨v, hv, ⟨hown, hclient⟩, rfl, hitem⟩

theorem isSome_databaseAt_iff (hfilled : Filled servers views tree) (h : Identified views)
    (hs : s ∈ views) {p : String} : (databaseAt tree s.timestamp p).isSome ↔
      ∃ d ∈ s.databases, d.guidPrefix ∉ servers ∧ d.guidPrefix = p := by
  rw [hfilled.database, ownTree_eq]
  exact h.isSome_databaseAt_treeOf hs

/-- **The expectation is within the copy** where the participants know what matches. -/
theorem included_iff (hfilled : Filled servers views tree) (h : Identified views)
    (hdatabases : ∀ s ∈ views, s.databases ≠ []) (hs : s ∈ views) :
    Included s.timestamp tree (copyTree servers views) ↔
      ∀ d ∈ s.databases, d.guidPrefix ∉ servers → KnowsMatches s d := by
  have hregular := h.regular hdatabases
  constructor
  · intro hincluded d hd hserver q kind w hq hm
    have hentry := (hfilled.entryAt_remote_iff hregular h.ownEndpoints hs hd hserver hq _ _).mpr
      ⟨kind, w, hm, rfl⟩
    obtain ⟨v, hv, hclient, rfl, a, ha, hpair⟩ :=
      (h.entryAt_copyTree hs hd hserver).mp (hincluded.entries _ _ _ _ hentry)
    exact ⟨v, hv, hclient, rfl, h.mem_ofKind hs hd hv (hm.prefix_eq h hs) ha hpair⟩
  · intro hknows
    constructor
    · intro p hsome
      exact (h.isSome_databaseAt_treeOf hs).mpr ((hfilled.isSome_databaseAt_iff h hs).mp hsome)
    · intro p q hsome
      obtain ⟨d, hd, hserver, rfl⟩ :=
        (hfilled.isSome_databaseAt_iff h hs).mp (isSome_databaseAt hsome)
      by_cases hq : q = d.guidPrefix
      · rw [hq, hfilled.itemAt_self h hdatabases hs hd hserver] at hsome
        rw [hq]
        exact hsome
      · obtain ⟨kind, w, hm⟩ := (hfilled.isSome_itemAt_remote hregular hs hd hserver hq).mp hsome
        obtain ⟨v, hv, hclient, howner, -⟩ := hknows d hd hserver q kind w hq hm
        exact Option.isSome_iff_exists.mpr
          ⟨_, (h.itemAt_copyTree hs hd hserver).mpr ⟨v, hv, hclient, howner, rfl⟩⟩
    · intro p q k t hentry
      obtain ⟨d, hd, hserver, rfl⟩ := (hfilled.isSome_databaseAt_iff h hs).mp
        (isSome_databaseAt (isSome_itemAt hentry))
      by_cases hq : q = d.guidPrefix
      · unfold entryAt at hentry ⊢
        rw [hq, hfilled.itemAt_self h hdatabases hs hd hserver] at hentry
        rw [hq]
        exact hentry
      · obtain ⟨kind, w, hm, hpair⟩ :=
          (hfilled.entryAt_remote_iff hregular h.ownEndpoints hs hd hserver hq k t).mp hentry
        obtain ⟨v, hv, hclient, howner, hw⟩ := hknows d hd hserver q kind w hq hm
        refine (h.entryAt_copyTree hs hd hserver).mpr ⟨v, hv, hclient, howner, ?_⟩
        exact ⟨(kind.tag, w), ItemView.mem_endpoints.mpr ⟨kind, rfl, hw⟩, hpair⟩

/-- **The copy is within the expectation** where they know nothing else. -/
theorem copy_included_iff (hfilled : Filled servers views tree) (h : Identified views)
    (hdatabases : ∀ s ∈ views, s.databases ≠ []) (hs : s ∈ views) :
    Included s.timestamp (copyTree servers views) tree ↔
      ∀ d ∈ s.databases, d.guidPrefix ∉ servers → KnowsOnlyMatches s d := by
  have hregular := h.regular hdatabases
  constructor
  · intro hincluded d hd hserver v hv hclient hq
    have hitem := (h.itemAt_copyTree hs hd hserver).mpr ⟨v, hv, hclient, rfl, rfl⟩
    refine ⟨(hfilled.isSome_itemAt_remote hregular hs hd hserver hq).mp
      (hincluded.items _ _ (Option.isSome_iff_exists.mpr ⟨_, hitem⟩)), fun kind w hw => ?_⟩
    have hmem : (kind.tag, w) ∈ v.endpoints := ItemView.mem_endpoints.mpr ⟨kind, rfl, hw⟩
    have hentry := (h.entryAt_copyTree hs hd hserver).mpr
      ⟨v, hv, hclient, rfl, (kind.tag, w), hmem, rfl⟩
    obtain ⟨kind', w', hm, hpair⟩ :=
      (hfilled.entryAt_remote_iff hregular h.ownEndpoints hs hd hserver hq _ _).mp
        (hincluded.entries _ _ _ _ hentry)
    have howner : w'.guidPrefix = w.guidPrefix :=
      (hm.prefix_eq h hs).trans (h.owned s hs d hd v hv _ hmem)
    obtain ⟨rfl, heq⟩ := guidPair_eq (a := (kind'.tag, w')) (b := (kind.tag, w)) rfl rfl howner
      hpair
    cases heq
    exact hm
  · intro hknows
    constructor
    · intro p hsome
      exact (hfilled.isSome_databaseAt_iff h hs).mpr ((h.isSome_databaseAt_treeOf hs).mp hsome)
    · intro p q hsome
      obtain ⟨d, hd, hserver, rfl⟩ :=
        (h.isSome_databaseAt_treeOf hs).mp (isSome_databaseAt hsome)
      by_cases hq : q = d.guidPrefix
      · rw [hq, ← hfilled.itemAt_self h hdatabases hs hd hserver] at hsome
        rw [hq]
        exact hsome
      · obtain ⟨item, hitem⟩ := Option.isSome_iff_exists.mp hsome
        obtain ⟨v, hv, hclient, rfl, -⟩ := (h.itemAt_copyTree hs hd hserver).mp hitem
        exact (hfilled.isSome_itemAt_remote hregular hs hd hserver hq).mpr
          (hknows d hd hserver v hv hclient hq).1
    · intro p q k t hentry
      obtain ⟨d, hd, hserver, rfl⟩ := (h.isSome_databaseAt_treeOf hs).mp
        (isSome_databaseAt (isSome_itemAt hentry))
      by_cases hq : q = d.guidPrefix
      · unfold entryAt at hentry ⊢
        rw [hq, ← hfilled.itemAt_self h hdatabases hs hd hserver] at hentry
        rw [hq]
        exact hentry
      · obtain ⟨v, hv, hclient, rfl, a, ha, hpair⟩ := (h.entryAt_copyTree hs hd hserver).mp hentry
        obtain ⟨kind, htag, hw⟩ := ItemView.mem_endpoints.mp ha
        refine (hfilled.entryAt_remote_iff hregular h.ownEndpoints hs hd hserver hq k t).mpr
          ⟨kind, a.2, (hknows d hd hserver v hv hclient hq).2 kind a.2 hw, ?_⟩
        rw [← hpair, ← htag]

end Filled

/-! ## The shape of the expectation -/

theorem shaped_into {database : DatabaseTree} {entry : RemoteEntry} {k : String}
    (h : ShapedDatabase k database) (hguid : entry.pair.2.guid ≠ none) :
    ShapedDatabase k (entry.into database) where
  key := h.key
  items := by
    intro k' item hitem
    unfold RemoteEntry.into at hitem
    rw [OrdMap.get?_set] at hitem
    split_ifs at hitem with hk
    · cases hitem
      -- the item was there with its label, or has been made with it
      cases hold : database.items.get? ("ptdi_" ++ entry.itemPrefix) with
      | none =>
        refine ⟨hk, fun k'' e he => ?_⟩
        rw [Option.getD_none, OrdMap.get?_set] at he
        split_ifs at he
        · cases he
          exact hguid
        · cases he
      | some old =>
        have hshape := h.items _ old hold
        refine ⟨hk.trans hshape.key, fun k'' e he => ?_⟩
        rw [Option.getD_some, OrdMap.get?_set] at he
        split_ifs at he
        · cases he
          exact hguid
        · exact hshape.guids k'' e he
    · exact h.items k' item hitem

/-- An entry keeps the shape of the snapshots, and takes none away. -/
theorem enter_shaped {tree tree' : FileTree} {entry : RemoteEntry}
    (hguid : entry.pair.2.guid ≠ none) (h : enter tree entry = .ok tree')
    (hshaped : ∀ k databases, tree.get? k = some databases → Shaped databases) :
    (∀ k databases, tree'.get? k = some databases → Shaped databases) ∧
      ∀ k, (tree'.get? k).isSome = (tree.get? k).isSome := by
  unfold enter at h
  cases hsnapshot : tree.get? ("DS_Snapshot_" ++ entry.timestamp) with
  | none => simp [hsnapshot] at h
  | some databases =>
    simp only [hsnapshot] at h
    cases hdatabase : databases.get? ("ptdb_" ++ entry.databasePrefix) with
    | none => simp [hdatabase] at h
    | some database =>
      simp only [hdatabase] at h
      cases h
      have hold := hshaped _ databases hsnapshot
      refine ⟨fun k databases' hget => ?_, fun k => ?_⟩
      · rw [OrdMap.get?_set] at hget
        split_ifs at hget with hk
        · cases hget
          intro k' database' hget'
          rw [OrdMap.get?_set] at hget'
          split_ifs at hget' with hk'
          · cases hget'
            rw [hk']
            exact shaped_into (hold _ database hdatabase) hguid
          · exact hold k' database' hget'
        · exact hshaped k databases' hget
      · rw [OrdMap.get?_set]
        split_ifs with hk
        · rw [hk, hsnapshot]
          rfl
        · rfl

theorem entries_shaped {entries : List RemoteEntry} {tree tree' : FileTree}
    (hguids : ∀ entry ∈ entries, entry.pair.2.guid ≠ none)
    (h : entries.foldlM enter tree = .ok tree')
    (hshaped : ∀ k databases, tree.get? k = some databases → Shaped databases) :
    (∀ k databases, tree'.get? k = some databases → Shaped databases) ∧
      ∀ k, (tree'.get? k).isSome = (tree.get? k).isSome := by
  induction entries generalizing tree with
  | nil =>
    cases h
    exact ⟨hshaped, fun _ => rfl⟩
  | cons entry entries ih =>
    rw [List.foldlM_cons] at h
    obtain ⟨next, hnext, hrest⟩ := bind_eq_ok.mp h
    obtain ⟨hshaped', hsame⟩ := enter_shaped (hguids entry List.mem_cons_self) hnext hshaped
    obtain ⟨hshaped'', hsame'⟩ :=
      ih (fun e he => hguids e (List.mem_cons_of_mem _ he)) hrest hshaped'
    exact ⟨hshaped'', fun k => (hsame' k).trans (hsame k)⟩

theorem guid_of_mem_remoteEntries {entry : RemoteEntry} (h : entry ∈ remoteEntries servers views) :
    entry.pair.2.guid ≠ none := by
  obtain ⟨s, -, d, -, v, -, -, h⟩ := mem_remoteEntries.mp h
  obtain ⟨kind, w, -, h⟩ := mem_itemEntries.mp h
  obtain ⟨d', -, -, -, u, -, r, -, -, rfl⟩ := mem_matchingEntries.mp h
  exact Option.some_ne_none _

/-- The two dictionaries of a regular file. -/
theorem Identified.createDicts_eq (h : Identified views) (servers : List String)
    {doc : XMLDocument} (hdoc : ShownBy views doc) (hne : views ≠ [])
    (hdatabases : ∀ s ∈ views, s.databases ≠ []) :
    ∃ tree, createDicts servers doc = .ok (copyTree servers views, tree) ∧
      Filled servers views tree ∧ ∀ s ∈ views, ∃ databases,
        tree.get? ("DS_Snapshot_" ++ s.timestamp) = some databases ∧ Shaped databases := by
  obtain ⟨tree, htree, hfilled⟩ := (h.regular hdatabases).exists_tree servers hdoc hne
  have hrun := (expectation_eq servers hdoc hne hdatabases).symm.trans htree
  obtain ⟨hshaped, hsame⟩ := entries_shaped (fun _ => guid_of_mem_remoteEntries) hrun
    (fun k databases hget => shaped_treeOf ((ownTree_eq servers views) ▸ hget))
  refine ⟨tree, ?_, hfilled, fun s hs => ?_⟩
  · unfold expectation at htree
    rw [createCopyAndValidateDict_eq servers hdoc hne, ok_bind] at htree
    unfold createDicts
    rw [createCopyAndValidateDict_eq servers hdoc hne, ok_bind, htree, ok_bind]
    rfl
  · have hthere := hsame ("DS_Snapshot_" ++ s.timestamp)
    rw [ownTree_eq, h.get?_treeOf hs] at hthere
    obtain ⟨databases, hget⟩ := Option.isSome_iff_exists.mp hthere
    exact ⟨databases, hget, hshaped _ databases hget⟩

/-! ## A snapshot without participants -/

theorem enter_eq_error {tree : FileTree} {entry : RemoteEntry} {err : PyError}
    (h : enter tree entry = .error err) : err = .keyError := by
  unfold enter at h
  split at h
  · cases h
    rfl
  · split at h
    · cases h
      rfl
    · cases h

/-- The second pass of a snapshot. -/
theorem processSnapshot_eq (servers : List String) {e : XMLElement} (hs : s.ShownBy e)
    (hne : s.databases ≠ []) (validateDict : FileTree) :
    (do
      let ptdbs ← e.pyElements "ptdb"
      ptdbs.foldlM (fun validateDict ptdb => do
        let ptdis ← ptdb.pyElementsOr "ptdi" ((ptdb.pyAttribute "guid_prefix").map fun _ => ())
        ptdis.foldlM (processItem servers e ptdb) validateDict) validateDict) =
      (s.databases.flatMap fun d => d.items.flatMap fun v =>
        if OwnClient d v then itemEntries servers s v else []).foldlM enter validateDict := by
  rw [pyElements_databases hs hne, ok_bind]
  refine foldlM_eq_flatMap hs.databases (fun validateDict d ptdb hd => ?_) validateDict
  have hlabel := XMLElement.pyAttribute_eq_ok_iff.mpr hd.guidPrefix
  rw [XMLElement.pyElementsOr_of_isDict (XMLElement.isDict_of_attributeValue hd.guidPrefix)
    (by rw [hlabel]; rfl), ok_bind]
  exact foldlM_eq_flatMap hd.items
    (fun validateDict v ptdi hv => processItem_eq servers hs hne hd hv validateDict) validateDict

/-- Without snapshots, or with a snapshot without participants, a key is missing. -/
theorem createDicts_eq_error {doc : XMLDocument} (hdoc : ShownBy views doc)
    (h : views = [] ∨ ∃ s ∈ views, s.databases = []) :
    createDicts servers doc = .error .keyError := by
  by_cases hne : views = []
  · obtain ⟨root, hroot, hdict, hsnapshots⟩ := hdoc
    have hnone : root.childElements "DS_Snapshot" = [] := by
      rw [← List.length_eq_zero_iff, ← hsnapshots.length_eq, hne]
      rfl
    have hmissing : snapshotElements doc = .error .keyError := by
      unfold snapshotElements
      rw [hroot]
      exact XMLElement.pyElements_of_empty hdict hnone
    unfold createDicts createCopyAndValidateDict
    rw [hmissing]
    rfl
  · obtain ⟨s, hs, hempty⟩ := h.resolve_left hne
    obtain ⟨snapshots, hsnapshotElements, hsnapshots⟩ := hdoc.snapshotElements hne
    obtain ⟨e, he, hshown⟩ := OneToOne.forall₂_exists hsnapshots hs
    unfold createDicts
    rw [createCopyAndValidateDict_eq servers hdoc hne, ok_bind]
    refine bind_eq_error.mpr (.inl ?_)
    unfold processValidationDict
    rw [hsnapshotElements, ok_bind]
    refine foldlM_eq_error (x := e) (fun e' he' tree err herr => ?_) he (fun tree => ?_) _
    · obtain ⟨s', -, hshown'⟩ := OneToOne.forall₂_exists (List.Forall₂.flip hsnapshots) he'
      by_cases hne' : s'.databases = []
      · rw [XMLElement.pyElements_of_empty
          (XMLElement.isDict_of_attributeValue hshown'.timestamp)
          (List.length_eq_zero_iff.mp (by
            rw [← hshown'.databases.length_eq, hne']
            rfl))] at herr
        cases herr
        rfl
      · rw [processSnapshot_eq servers hshown' hne'] at herr
        exact (foldlM_error_iff fun err => err = PyError.keyError).mpr
          (fun entry t _ err herr => enter_eq_error herr) err herr
    · rw [XMLElement.pyElements_of_empty (XMLElement.isDict_of_attributeValue hshown.timestamp)
        (List.length_eq_zero_iff.mp (by
          rw [← hshown.databases.length_eq, hempty]
          rfl))]
      rfl

/-! ## The verdict -/

/-- Every participant outside `servers` knows what matches, and, where there are no
disposals, nothing else. -/
def AsExpected (disposals : Bool) (servers : List String) (s : SnapshotView) : Prop :=
  ∀ d ∈ s.databases, d.guidPrefix ∉ servers →
    KnowsMatches s d ∧ (disposals = true ∨ KnowsOnlyMatches s d)

/-- The result of a snapshot is its verdict. -/
def IsResult (disposals : Bool) (servers : List String) (s : SnapshotView) (r : ReturnCode) :
    Prop :=
  (r = .ok ∧ AsExpected disposals servers s) ∨ (r = .fail ∧ ¬ AsExpected disposals servers s)

theorem Filled.asExpected_iff {tree : FileTree} (hfilled : Filled servers views tree)
    (h : Identified views) (hdatabases : ∀ s ∈ views, s.databases ≠ []) (hs : s ∈ views)
    {copied expected : SnapshotTree}
    (hcopied : (copyTree servers views).get? ("DS_Snapshot_" ++ s.timestamp) = some copied)
    (hexpected : tree.get? ("DS_Snapshot_" ++ s.timestamp) = some expected)
    (hshaped : Shaped expected) (disposals : Bool) :
    (if disposals then snapshotSubset expected copied else decide (copied = expected)) = true ↔
      AsExpected disposals servers s := by
  have hwithin := (subset_iff hexpected hcopied hshaped (shaped_treeOf hcopied)).trans
    (hfilled.included_iff h hdatabases hs)
  have hwithin' := (subset_iff hcopied hexpected (shaped_treeOf hcopied) hshaped).trans
    (hfilled.copy_included_iff h hdatabases hs)
  unfold AsExpected
  cases disposals with
  | true =>
    rw [if_pos rfl, hwithin]
    simp
  | false =>
    rw [if_neg Bool.false_ne_true, decide_eq_true_eq, snapshot_eq_iff, hwithin, hwithin']
    constructor
    · rintro ⟨honly, hknows⟩ d hd hserver
      exact ⟨hknows d hd hserver, .inr (honly d hd hserver)⟩
    · intro hboth
      refine ⟨fun d hd hserver => ?_, fun d hd hserver => (hboth d hd hserver).1⟩
      exact (hboth d hd hserver).2.resolve_left Bool.false_ne_true

theorem Identified.snapshotResult_eq (h : Identified views)
    (hdatabases : ∀ s ∈ views, s.databases ≠ []) (repr : List XMLElement → String)
    (disposals : Bool) {tree : FileTree} {expected : SnapshotTree}
    (hfilled : Filled servers views tree) (hs : s ∈ views)
    (hexpected : tree.get? ("DS_Snapshot_" ++ s.timestamp) = some expected)
    (hshaped : Shaped expected) {e : XMLElement} (he : s.ShownBy e) :
    ∃ r, snapshotResult repr disposals (copyTree servers views, tree) e = .ok r ∧
      IsResult disposals servers s r := by
  obtain ⟨copied, hcopied⟩ : ∃ copied,
      (copyTree servers views).get? ("DS_Snapshot_" ++ s.timestamp) = some copied :=
    ⟨_, h.get?_treeOf hs⟩
  have hval := hfilled.asExpected_iff h hdatabases hs hcopied hexpected hshaped disposals
  have hresult : snapshotResult repr disposals (copyTree servers views, tree) e = .ok
      (if (if disposals then snapshotSubset expected copied else decide (copied = expected)) = true
        then .ok else .fail) := by
    unfold snapshotResult pyGet
    rw [XMLElement.pyAttribute_eq_ok_iff.mpr he.timestamp, he.description repr]
    simp only [ok_bind, hcopied, hexpected]
    rfl
  refine ⟨_, hresult, ?_⟩
  by_cases hexpects : AsExpected disposals servers s
  · rw [if_pos (hval.mpr hexpects)]
    exact .inl ⟨rfl, hexpects⟩
  · rw [if_neg (mt hval.mp hexpects)]
    exact .inr ⟨rfl, hexpects⟩

/-- Where every snapshot passes or fails, the verdict is whether all pass. -/
theorem verdict_of_results {disposals : Bool} {results : List ReturnCode}
    (h : List.Forall₂ (IsResult disposals servers) views results) :
    (GroundTruthValidator.verdict results = .ok ∨ GroundTruthValidator.verdict results = .fail) ∧
      (GroundTruthValidator.verdict results = .ok ↔
        ∀ s ∈ views, AsExpected disposals servers s) := by
  have herror : .error ∉ results := by
    intro hmem
    obtain ⟨s, -, hs⟩ := OneToOne.forall₂_exists (List.Forall₂.flip h) hmem
    rcases hs with ⟨heq, -⟩ | ⟨heq, -⟩
    · cases heq
    · cases heq
  constructor
  · unfold GroundTruthValidator.verdict
    rw [if_neg herror]
    split_ifs
    · exact .inr rfl
    · exact .inl rfl
  · rw [GroundTruthValidator.verdict_eq_ok_iff_results]
    constructor
    · intro hall s hs
      obtain ⟨r, hr, hresult⟩ := OneToOne.forall₂_exists h hs
      rcases hresult with ⟨-, hexpects⟩ | ⟨rfl, -⟩
      · exact hexpects
      · exact absurd (hall _ hr) (by decide)
    · intro hall r hr
      obtain ⟨s, hs, hresult⟩ := OneToOne.forall₂_exists (List.Forall₂.flip h) hr
      rcases hresult with ⟨rfl, -⟩ | ⟨-, hexpects⟩
      · exact .inl rfl
      · exact absurd (hall s hs) hexpects

end Verdict

/-! ## Two participants that have not met -/

theorem identified_readerAndWriter : Identified [readerAndWriterView 2] where
  timestamps := List.nodup_singleton _
  databases := (regular_readerAndWriter 2).prefixes
  items := by
    intro s hs d hd
    cases List.mem_singleton.mp hs
    cases List.mem_cons.mp hd with
    | inl hreader =>
      cases hreader
      exact List.nodup_singleton _
    | inr hwriter =>
      cases List.mem_singleton.mp hwriter
      exact List.nodup_singleton _
  endpoints := by simp [readerAndWriterView, readerView, writerView, ItemView.endpoints]
  owned := by
    intro s hs d hd v hv a ha
    cases List.mem_singleton.mp hs
    cases List.mem_cons.mp hd with
    | inl hreader =>
      cases hreader
      cases List.mem_singleton.mp hv
      cases List.mem_singleton.mp ha
      rfl
    | inr hwriter =>
      cases List.mem_singleton.mp hwriter
      cases List.mem_singleton.mp hv
      cases List.mem_singleton.mp ha
      rfl

end GenerateValidator

end DiscoveryServer
