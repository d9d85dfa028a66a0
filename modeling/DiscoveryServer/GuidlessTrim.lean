import DiscoveryServer.GroundTruth
import DiscoveryServer.Library.Matching

/-!
# Guidless trimming

In guidless mode the ground truth validator identifies databases and items by their
names, where an empty item name stands for the name of the database. Nothing keeps names
apart, so entries may be overwritten.

`trimGuidless_eq_ok_iff` gives the tree of a file from what the file shows. Nothing is
lost exactly when the names are `Distinguishable` (`losesNone_iff`), and two files with
one tree correspond, names included, exactly when moreover no rewritten name stands for
two (`trimGuidless_iff`).
-/

namespace DiscoveryServer

open Library

/-! ## The tree of what a file shows -/

/-- The name an item is entered under in the database of `owner`. -/
def ItemView.effectiveName (owner : String) (v : ItemView) : String :=
  if v.name = "" then owner else v.name

/-- The endpoints with the kind they are entered as. -/
def ItemView.endpoints (v : ItemView) : List (String × EndpointView) :=
  v.publishers.map (fun e => ("publisher", e)) ++ v.subscribers.map fun e => ("subscriber", e)

/-- The endpoints have the prefix of the item, as is asserted. -/
def ItemView.Owned (v : ItemView) : Prop := ∀ a ∈ v.endpoints, v.guidPrefix = a.2.guidPrefix

def DatabaseView.Owned (d : DatabaseView) : Prop := ∀ v ∈ d.items, v.Owned

def SnapshotView.Owned (s : SnapshotView) : Prop := ∀ d ∈ s.databases, d.Owned

def endpointPair (name : String) (a : String × EndpointView) : String × EndpointTree :=
  (a.1 ++ "_" ++ (name ++ "_" ++ a.2.guidEntity), ⟨a.2.topic, none⟩)

def itemPair (owner : String) (v : ItemView) : String × ItemTree :=
  ("ptdi_" ++ v.effectiveName owner, ⟨v.effectiveName owner,
    (∅ : OrdMap String EndpointTree).setAll
      (v.endpoints.map (endpointPair (v.effectiveName owner)))⟩)

def databasePair (d : DatabaseView) : String × DatabaseTree :=
  ("ptdb_" ++ d.name, ⟨d.name, (∅ : OrdMap String ItemTree).setAll (d.items.map (itemPair d.name))⟩)

def snapshotPair (s : SnapshotView) : String × SnapshotTree :=
  (s.description, (∅ : SnapshotTree).setAll (s.databases.map databasePair))

section Tree

theorem endpointEntry_eq {name : String} {v : ItemView} {a : EndpointView} {ptdi e : XMLElement}
    (hptdi : v.ShownBy ptdi) (he : a.ShownBy e) :
    guidlessMode.endpointEntry name ptdi e =
      if v.guidPrefix = a.guidPrefix then .ok (name ++ "_" ++ a.guidEntity, ⟨a.topic, none⟩)
      else .error .assertionError := by
  have hentity := XMLElement.pyAttribute_eq_ok_iff.mpr he.guidEntity
  have hitem := XMLElement.pyAttribute_eq_ok_iff.mpr hptdi.guidPrefix
  have hguid := XMLElement.pyAttribute_eq_ok_iff.mpr he.guidPrefix
  have htopic := XMLElement.pyAttribute_eq_ok_iff.mpr he.topic
  unfold guidlessMode
  dsimp only
  rw [hentity, hitem, hguid, htopic]
  rfl

/-- Where there is no key there is no element. -/
theorem forEndpoints_eq {σ : Type} {kind : String} {v : ItemView} {ptdi : XMLElement}
    (h : v.ShownBy ptdi) {loop : List XMLElement → σ → Except PyError σ} {s : σ}
    (hnil : loop [] s = .ok s) :
    forEndpoints kind ptdi loop s = loop (ptdi.childElements kind) s := by
  unfold forEndpoints
  rw [h.pyHasKey kind]
  by_cases hempty : ptdi.childElements kind = []
  · rw [hempty, hnil]
    rfl
  · rw [XMLElement.pyElements_eq_ok_iff.mpr ⟨rfl, hempty⟩]
    have hkey : (ptdi.childElements kind).isEmpty = false := by simpa using hempty
    rw [hkey]
    rfl

/-- The endpoints of one kind, where each is entered under a condition. -/
theorem trimEndpoints_eq_ok_iff {mode : TrimMode} {kind label : String} {v : ItemView}
    {ptdi : XMLElement} {P : EndpointView → Prop}
    {g : String × EndpointView → String × EndpointTree} (h : v.ShownBy ptdi)
    (hentry : ∀ a e, a.ShownBy e → ∀ pair, (do
      let entry ← mode.endpointEntry label ptdi e
      return (kind ++ "_" ++ entry.1, entry.2)) = Except.ok pair ↔ P a ∧ pair = g (kind, a))
    {views : List EndpointView} {m m' : OrdMap String EndpointTree}
    (hviews : List.Forall₂ EndpointView.ShownBy views (ptdi.childElements kind)) :
    trimEndpoints mode kind label ptdi m = .ok m' ↔
      (∀ a ∈ views, P a) ∧ m' = m.setAll (views.map fun a => g (kind, a)) := by
  unfold trimEndpoints
  rw [forEndpoints_eq h rfl]
  exact OrdMap.fill_eq_ok_of_forall₂ hviews hentry

theorem ItemView.forall_mem_endpoints {v : ItemView} {P : EndpointView → Prop} :
    (∀ a ∈ v.endpoints, P a.2) ↔ (∀ a ∈ v.publishers, P a) ∧ ∀ a ∈ v.subscribers, P a := by
  unfold ItemView.endpoints
  simp only [List.forall_mem_append, List.forall_mem_map]

theorem ItemView.setAll_endpoints (v : ItemView)
    (g : String × EndpointView → String × EndpointTree) (m : OrdMap String EndpointTree) :
    m.setAll (v.endpoints.map g) =
      (m.setAll (v.publishers.map fun a => g ("publisher", a))).setAll
        (v.subscribers.map fun a => g ("subscriber", a)) := by
  unfold ItemView.endpoints OrdMap.setAll
  rw [List.map_append, List.map_map, List.map_map, List.foldl_append]
  rfl

/-- An item, from its label and its endpoints, where each endpoint is entered under a
condition. -/
theorem trimItem_of_entries {mode : TrimMode} {owner label : String} {v : ItemView}
    {ptdi : XMLElement} {P : EndpointView → Prop}
    {g : String × EndpointView → String × EndpointTree}
    (h : v.ShownBy ptdi) (hlabel : mode.itemLabel owner ptdi = .ok label)
    (hentry : ∀ kind a e, a.ShownBy e → ∀ pair, (do
      let entry ← mode.endpointEntry label ptdi e
      return (kind ++ "_" ++ entry.1, entry.2)) = Except.ok pair ↔ P a ∧ pair = g (kind, a))
    (pair : String × ItemTree) :
    trimItem mode owner ptdi = .ok pair ↔ (∀ a ∈ v.endpoints, P a.2) ∧
      pair = ("ptdi_" ++ label,
        ⟨label, (∅ : OrdMap String EndpointTree).setAll (v.endpoints.map g)⟩) := by
  unfold trimItem
  rw [hlabel, ok_bind, ItemView.forall_mem_endpoints, v.setAll_endpoints]
  constructor
  · intro hok
    obtain ⟨pubs, hpubs, hok⟩ := bind_eq_ok.mp hok
    obtain ⟨subs, hsubs, hok⟩ := bind_eq_ok.mp hok
    cases hok
    obtain ⟨hpub, rfl⟩ := (trimEndpoints_eq_ok_iff h (hentry "publisher") h.publishers).mp hpubs
    obtain ⟨hsub, rfl⟩ := (trimEndpoints_eq_ok_iff h (hentry "subscriber") h.subscribers).mp hsubs
    exact ⟨⟨hpub, hsub⟩, rfl⟩
  · rintro ⟨⟨hpub, hsub⟩, rfl⟩
    refine bind_eq_ok.mpr ⟨_, (trimEndpoints_eq_ok_iff h (hentry "publisher") h.publishers).mpr
      ⟨hpub, rfl⟩, ?_⟩
    exact bind_eq_ok.mpr ⟨_, (trimEndpoints_eq_ok_iff h (hentry "subscriber") h.subscribers).mpr
      ⟨hsub, rfl⟩, rfl⟩

theorem trimItem_eq_ok_iff (owner : String) {v : ItemView} {ptdi : XMLElement} (h : v.ShownBy ptdi)
    (pair : String × ItemTree) :
    trimItem guidlessMode owner ptdi = .ok pair ↔ v.Owned ∧ pair = itemPair owner v := by
  have hlabel : guidlessMode.itemLabel owner ptdi = .ok (v.effectiveName owner) := by
    unfold guidlessMode
    dsimp only
    rw [XMLElement.pyAttribute_eq_ok_iff.mpr h.name]
    rfl
  refine trimItem_of_entries (P := fun a => v.guidPrefix = a.guidPrefix)
    (g := endpointPair (v.effectiveName owner)) h hlabel (fun kind a e he pair => ?_) pair
  rw [endpointEntry_eq h he]
  split_ifs with heq
  · constructor
    · intro h
      cases h
      exact ⟨heq, rfl⟩
    · rintro ⟨-, rfl⟩
      rfl
  · constructor
    · intro h
      cases h
    · rintro ⟨h, -⟩
      exact absurd h heq

theorem trimDatabase_eq_ok_iff {d : DatabaseView} {ptdb : XMLElement} (h : d.ShownBy ptdb)
    (pair : String × DatabaseTree) :
    trimDatabase guidlessMode ptdb = .ok pair ↔ d.Owned ∧ pair = databasePair d := by
  have hlabel : guidlessMode.databaseLabel ptdb = .ok d.name :=
    XMLElement.pyAttribute_eq_ok_iff.mpr h.name
  have helements : ptdb.pyElementsOr "ptdi"
      ((guidlessMode.databaseLabel ptdb).map fun _ => ()) = .ok (ptdb.childElements "ptdi") :=
    XMLElement.pyElementsOr_of_isDict (XMLElement.isDict_of_attributeValue h.name)
      (by rw [hlabel]; rfl)
  have hitems : ∀ items, OrdMap.fill (trimItem guidlessMode d.name) (ptdb.childElements "ptdi") ∅ =
      .ok items ↔ d.Owned ∧
        items = (∅ : OrdMap String ItemTree).setAll (d.items.map (itemPair d.name)) :=
    fun items => OrdMap.fill_eq_ok_of_forall₂ h.items fun v e hv => trimItem_eq_ok_iff d.name hv
  unfold trimDatabase
  rw [helements, hlabel, ok_bind, ok_bind]
  constructor
  · intro hok
    obtain ⟨items, hfill, hok⟩ := bind_eq_ok.mp hok
    cases hok
    obtain ⟨howned, rfl⟩ := (hitems _).mp hfill
    exact ⟨howned, rfl⟩
  · rintro ⟨howned, rfl⟩
    exact bind_eq_ok.mpr ⟨_, (hitems _).mpr ⟨howned, rfl⟩, rfl⟩

theorem trimSnapshot_eq_ok_iff (repr : List XMLElement → String) {s : SnapshotView} {e : XMLElement}
    (h : s.ShownBy e) (pair : String × SnapshotTree) :
    trimSnapshot repr guidlessMode e = .ok pair ↔ s.Owned ∧ pair = snapshotPair s := by
  have helements : e.pyElementsOr "ptdb" ((e.pyAttribute "timestamp").map fun _ => ()) =
      .ok (e.childElements "ptdb") :=
    XMLElement.pyElementsOr_of_isDict (XMLElement.isDict_of_attributeValue h.timestamp)
      (by rw [XMLElement.pyAttribute_eq_ok_iff.mpr h.timestamp]; rfl)
  have hdatabases : ∀ databases,
      OrdMap.fill (trimDatabase guidlessMode) (e.childElements "ptdb") ∅ = .ok databases ↔
        s.Owned ∧ databases = (∅ : SnapshotTree).setAll (s.databases.map databasePair) :=
    fun databases =>
      OrdMap.fill_eq_ok_of_forall₂ h.databases fun d e hd => trimDatabase_eq_ok_iff hd
  unfold trimSnapshot
  rw [h.description repr, helements, ok_bind, ok_bind]
  constructor
  · intro hok
    obtain ⟨databases, hfill, hok⟩ := bind_eq_ok.mp hok
    cases hok
    obtain ⟨howned, rfl⟩ := (hdatabases _).mp hfill
    exact ⟨howned, rfl⟩
  · rintro ⟨howned, rfl⟩
    exact bind_eq_ok.mpr ⟨_, (hdatabases _).mpr ⟨howned, rfl⟩, rfl⟩

/-- The tree of a file, from what the file shows. A file without snapshots is refused. -/
theorem trimGuidless_eq_ok_iff (repr : List XMLElement → String) {views : List SnapshotView}
    {doc : XMLDocument} (h : ShownBy views doc) (tree : FileTree) :
    trimSnapshotDictGuidless repr doc = .ok tree ↔
      views ≠ [] ∧ (∀ s ∈ views, s.Owned) ∧
        tree = (∅ : FileTree).setAll (views.map snapshotPair) := by
  obtain ⟨root, hroot, hdict, hsnapshots⟩ := h
  have hnil : root.childElements "DS_Snapshot" = [] ↔ views = [] := by
    rw [← List.length_eq_zero_iff, ← hsnapshots.length_eq, List.length_eq_zero_iff]
  unfold trimSnapshotDictGuidless trimWith snapshotElements
  rw [hroot, ← OrdMap.fill_eq_ok_of_forall₂ hsnapshots fun s e hs =>
    trimSnapshot_eq_ok_iff repr hs]
  constructor
  · intro hok
    obtain ⟨l, hl, hfill⟩ := bind_eq_ok.mp hok
    obtain ⟨rfl, hne⟩ := XMLElement.pyElements_eq_ok_iff.mp hl
    exact ⟨fun h => hne (hnil.mpr h), hfill⟩
  · rintro ⟨hne, hfill⟩
    refine bind_eq_ok.mpr ⟨_, XMLElement.pyElements_eq_ok_iff.mpr ⟨rfl, ?_⟩, hfill⟩
    exact fun h => hne (hnil.mp h)

end Tree

/-! ## What is lost -/

/-- An item and an entry that holds it, with an entry for each of its endpoints. -/
structure ItemHeld (owner : String) (v : ItemView) (pair : String × ItemTree) : Prop where
  key : pair.1 = "ptdi_" ++ v.effectiveName owner
  label : pair.2.label = v.effectiveName owner
  endpoints : OneToOne (fun a entry => entry = endpointPair (v.effectiveName owner) a) v.endpoints
    pair.2.endpoints.toList

structure DatabaseHeld (d : DatabaseView) (pair : String × DatabaseTree) : Prop where
  key : pair.1 = "ptdb_" ++ d.name
  label : pair.2.label = d.name
  items : OneToOne (ItemHeld d.name) d.items pair.2.items.toList

structure SnapshotHeld (s : SnapshotView) (pair : String × SnapshotTree) : Prop where
  key : pair.1 = s.description
  databases : OneToOne DatabaseHeld s.databases pair.2.toList

/-- Each element of the file has its own entry in the tree. A file without snapshots has
nothing to lose and is refused. -/
def LosesNone (views : List SnapshotView) (result : Except PyError FileTree) : Prop :=
  views = [] ∨ ∃ tree, result = .ok tree ∧ OneToOne SnapshotHeld views tree.toList

/-- The names tell apart what stands side by side, and endpoints stand in the item of
their participant. -/
structure Distinguishable (views : List SnapshotView) : Prop where
  descriptions : (views.map (·.description)).Nodup
  databases : ∀ s ∈ views, (s.databases.map (·.name)).Nodup
  items : ∀ s ∈ views, ∀ d ∈ s.databases, (d.items.map (·.effectiveName d.name)).Nodup
  owned : ∀ s ∈ views, s.Owned

/-- The endpoints of one participant have different entity ids. -/
def EntitiesApart (views : List SnapshotView) : Prop :=
  ∀ s ∈ views, ∀ d ∈ s.databases, ∀ v ∈ d.items, v.Owned →
    (v.publishers.map (·.guidEntity)).Nodup ∧ (v.subscribers.map (·.guidEntity)).Nodup

theorem nodup_prepend {α : Type} {f : α → String} {l : List α} (p : String) :
    (l.map fun a => p ++ f a).Nodup ↔ (l.map f).Nodup := by
  have hmap : (l.map fun a => p ++ f a) = (l.map f).map fun s => p ++ s := by
    rw [List.map_map]
    rfl
  have hinj : Function.Injective fun s : String => p ++ s := fun s t h =>
    (String.append_right_inj p).mp h
  rw [hmap]
  exact List.nodup_map_iff hinj

theorem publisher_ne_subscriber (s t : String) :
    "publisher" ++ "_" ++ s ≠ "subscriber" ++ "_" ++ t := by
  intro h
  have hhead := congrArg (fun u : String => u.toList.head?) h
  simp [String.toList_append] at hhead

theorem nodup_endpoints {name : String} {v : ItemView}
    (hpub : (v.publishers.map (·.guidEntity)).Nodup)
    (hsub : (v.subscribers.map (·.guidEntity)).Nodup) :
    (v.endpoints.map fun a => (endpointPair name a).1).Nodup := by
  unfold ItemView.endpoints
  rw [List.map_append, List.map_map, List.map_map, List.nodup_append]
  have hpub' := (nodup_prepend ("publisher" ++ "_")).mpr ((nodup_prepend (name ++ "_")).mpr hpub)
  have hsub' := (nodup_prepend ("subscriber" ++ "_")).mpr ((nodup_prepend (name ++ "_")).mpr hsub)
  refine ⟨hpub', hsub', fun k hk k' hk' heq => ?_⟩
  obtain ⟨e, -, rfl⟩ := List.mem_map.mp hk
  obtain ⟨e', -, rfl⟩ := List.mem_map.mp hk'
  exact publisher_ne_subscriber _ _ heq

section LosesNone

variable (repr : List XMLElement → String) {views : List SnapshotView} {doc : XMLDocument}

theorem Distinguishable.held (h : Distinguishable views) (hentities : EntitiesApart views) :
    OneToOne SnapshotHeld views ((∅ : FileTree).setAll (views.map snapshotPair)).toList := by
  refine OrdMap.oneToOne_setAll h.descriptions fun s hs => ⟨rfl, ?_⟩
  refine OrdMap.oneToOne_setAll ((nodup_prepend "ptdb_").mpr (h.databases s hs))
    fun d hd => ⟨rfl, rfl, ?_⟩
  refine OrdMap.oneToOne_setAll ((nodup_prepend "ptdi_").mpr (h.items s hs d hd))
    fun v hv => ⟨rfl, rfl, ?_⟩
  obtain ⟨hpub, hsub⟩ := hentities s hs d hd v hv (h.owned s hs d hd v hv)
  exact OrdMap.oneToOne_setAll (nodup_endpoints hpub hsub) fun a _ => rfl

/-- **Nothing is lost** exactly when the names tell the elements apart. -/
theorem losesNone_iff (h : ShownBy views doc) (hentities : EntitiesApart views) :
    LosesNone views (trimSnapshotDictGuidless repr doc) ↔ Distinguishable views := by
  constructor
  · rintro (rfl | ⟨tree, hok, hheld⟩)
    · exact ⟨List.nodup_nil, fun s hs => absurd hs List.not_mem_nil,
        fun s hs => absurd hs List.not_mem_nil, fun s hs => absurd hs List.not_mem_nil⟩
    · obtain ⟨-, howned, -⟩ := (trimGuidless_eq_ok_iff repr h tree).mp hok
      refine ⟨?_, fun s hs => ?_, fun s hs d hd => ?_, howned⟩
      · exact OrdMap.nodup_of_oneToOne hheld fun s pair hpair => hpair.key.symm
      · obtain ⟨pair, -, hpair⟩ := hheld.exists_right hs
        exact (nodup_prepend "ptdb_").mp
          (OrdMap.nodup_of_oneToOne hpair.databases fun d pair hd => hd.key.symm)
      · obtain ⟨pair, -, hpair⟩ := hheld.exists_right hs
        obtain ⟨dpair, -, hdpair⟩ := hpair.databases.exists_right hd
        exact (nodup_prepend "ptdi_").mp
          (OrdMap.nodup_of_oneToOne hdpair.items fun v pair hv => hv.key.symm)
  · intro hdist
    by_cases hnil : views = []
    · exact .inl hnil
    · exact .inr ⟨_, (trimGuidless_eq_ok_iff repr h _).mpr ⟨hnil, hdist.owned, rfl⟩,
        hdist.held hentities⟩

end LosesNone

/-! ## Files with one tree -/

/-- Endpoints of one kind, entity id and topic. -/
def EndpointCorresponds (a b : String × EndpointView) : Prop :=
  a.1 = b.1 ∧ a.2.guidEntity = b.2.guidEntity ∧ a.2.topic = b.2.topic

structure ItemCorresponds (v w : ItemView) : Prop where
  name : v.name = w.name
  endpoints : OneToOne EndpointCorresponds v.endpoints w.endpoints

structure DatabaseCorresponds (d d' : DatabaseView) : Prop where
  name : d.name = d'.name
  items : OneToOne ItemCorresponds d.items d'.items

structure SnapshotCorresponds (s s' : SnapshotView) : Prop where
  description : s.description = s'.description
  databases : OneToOne DatabaseCorresponds s.databases s'.databases

/-- One-to-one correspondences at every level, which preserve names, entity ids and topics. -/
def Corresponds (views views' : List SnapshotView) : Prop :=
  OneToOne SnapshotCorresponds views views'

/-- An empty name and the name it stands for do not meet. -/
def NamesTold (views views' : List SnapshotView) : Prop :=
  ∀ s ∈ views, ∀ s' ∈ views', s.description = s'.description →
    ∀ d ∈ s.databases, ∀ d' ∈ s'.databases, d.name = d'.name →
      ∀ v ∈ d.items, ∀ w ∈ d'.items, v.effectiveName d.name = w.effectiveName d.name →
        v.name = w.name

section Corresponds

variable {views views' : List SnapshotView}

theorem kind_of_mem_endpoints {v : ItemView} {a : String × EndpointView} (h : a ∈ v.endpoints) :
    a.1 = "publisher" ∨ a.1 = "subscriber" := by
  cases List.mem_append.mp h with
  | inl hpub =>
    obtain ⟨e, -, rfl⟩ := List.mem_map.mp hpub
    exact .inl rfl
  | inr hsub =>
    obtain ⟨e, -, rfl⟩ := List.mem_map.mp hsub
    exact .inr rfl

theorem endpointPair_inj {name : String} {a b : String × EndpointView}
    (ha : a.1 = "publisher" ∨ a.1 = "subscriber") (hb : b.1 = "publisher" ∨ b.1 = "subscriber")
    (h : endpointPair name a = endpointPair name b) : EndpointCorresponds a b := by
  obtain ⟨hkey, htree⟩ := Prod.mk.inj h
  have hkind : a.1 = b.1 := by
    rcases ha with ha | ha <;> rcases hb with hb | hb <;> rw [ha, hb] at hkey ⊢
    · exact absurd hkey (publisher_ne_subscriber _ _)
    · exact absurd hkey.symm (publisher_ne_subscriber _ _)
  refine ⟨hkind, ?_, congrArg EndpointTree.topic htree⟩
  rw [hkind] at hkey
  exact (String.append_right_inj _).mp ((String.append_right_inj _).mp hkey)

theorem itemCorresponds_of_held {owner : String} {v w : ItemView} {pair : String × ItemTree}
    (hv : ItemHeld owner v pair) (hw : ItemHeld owner w pair) (hname : v.name = w.name) :
    ItemCorresponds v w := by
  refine ⟨hname, (hv.endpoints.trans hw.endpoints.symm).imp_mem ?_⟩
  rintro a ha b hb ⟨entry, rfl, hentry⟩
  have heff : v.effectiveName owner = w.effectiveName owner := by
    unfold ItemView.effectiveName
    rw [hname]
  rw [← heff] at hentry
  exact endpointPair_inj (kind_of_mem_endpoints ha) (kind_of_mem_endpoints hb) hentry

/-- Elements with one entry correspond, where the names are told. -/
theorem corresponds_of_held {tree : FileTree} (h : OneToOne SnapshotHeld views tree.toList)
    (h' : OneToOne SnapshotHeld views' tree.toList) (hnames : NamesTold views views') :
    Corresponds views views' := by
  refine (h.trans h'.symm).imp_mem ?_
  rintro s hs s' hs' ⟨pair, hheld, hheld'⟩
  have hdescription : s.description = s'.description := hheld.key.symm.trans hheld'.key
  refine ⟨hdescription, (hheld.databases.trans hheld'.databases.symm).imp_mem ?_⟩
  rintro d hd d' hd' ⟨dpair, hdheld, hdheld'⟩
  have hname : d.name = d'.name := hdheld.label.symm.trans hdheld'.label
  refine ⟨hname, (hdheld.items.trans hdheld'.items.symm).imp_mem ?_⟩
  rintro v hv w hw ⟨ipair, hiheld, hiheld'⟩
  have hiheld' : ItemHeld d'.name w ipair := hiheld'
  rw [← hname] at hiheld'
  exact itemCorresponds_of_held hiheld hiheld'
    (hnames s hs s' hs' hdescription d hd d' hd' hname v hv w hw
      (hiheld.label.symm.trans hiheld'.label))

/-- Where the elements are told apart, the partner is the one with the same name. -/
theorem namesTold_of_corresponds (h : Corresponds views views') (hdist' : Distinguishable views') :
    NamesTold views views' := by
  intro s hs s' hs' hdescription d hd d' hd' hname v hv w hw heff
  obtain ⟨t, ht, hst⟩ := h.exists_right hs
  have htEq : t = s' := List.inj_on_of_nodup_map hdist'.descriptions ht hs'
    (hst.description.symm.trans hdescription)
  subst htEq
  obtain ⟨c, hc, hdc⟩ := hst.databases.exists_right hd
  have hcEq : c = d' := List.inj_on_of_nodup_map (hdist'.databases t ht) hc hd'
    (hdc.name.symm.trans hname)
  subst hcEq
  obtain ⟨u, hu, hvu⟩ := hdc.items.exists_right hv
  have hueff : u.effectiveName c.name = w.effectiveName c.name := by
    rw [← hname, ← heff]
    unfold ItemView.effectiveName
    rw [hvu.name]
  have huEq : u = w := List.inj_on_of_nodup_map (hdist'.items t ht c hc) hu hw hueff
  rw [← huEq]
  exact hvu.name

end Corresponds

/-! ## Files of the program -/

/-- The endpoints of a set that have one prefix have different entity ids. -/
theorem nodup_entities {f : TextFormat} (hf : f.Lossless) {α : Type} [Keyed Guid α]
    (s : OrdSet Guid α) {p : GuidPrefix} (hguid : ∀ a ∈ s.toList, (key a).guidPrefix = p) :
    (s.toList.map fun a => f.entityIdToStr (key a).entityId).Nodup := by
  refine s.nodup_toList.map_on fun a ha b hb heq => OrdSet.eq_of_key_eq ha hb ?_
  have hentity : (key a).entityId = (key b).entityId := by
    rw [← hf.entityId (key a).entityId, heq, hf.entityId]
  exact Guid.ext_parts ((hguid a ha).trans (hguid b hb).symm) hentity

theorem entitiesApart_views (host : Host) (hf : host.format.Lossless) (m : DiscoveryServerManager) :
    EntitiesApart (m.views host) := by
  intro s hs d hd v hv howned
  obtain ⟨shot, -, rfl⟩ := List.mem_map.mp hs
  obtain ⟨database, -, rfl⟩ := List.mem_map.mp hd
  obtain ⟨item, -, rfl⟩ := List.mem_map.mp hv
  have hguid : ∀ p, host.format.prefixToStr item.endpointGuid.guidPrefix =
      host.format.prefixToStr p → p = item.endpointGuid.guidPrefix := by
    intro p hp
    rw [← hf.guidPrefix p, ← hp, hf.guidPrefix]
  constructor
  · have hnodup := nodup_entities hf item.datawriters (p := item.endpointGuid.guidPrefix)
      fun pub hpub => hguid _ (howned ("publisher", pub.view host.format)
        (List.mem_append_left _ (List.mem_map.mpr ⟨_, List.mem_map.mpr ⟨pub, hpub, rfl⟩, rfl⟩)))
    show ((item.datawriters.toList.map _).map _).Nodup
    rw [List.map_map]
    exact hnodup
  · have hnodup := nodup_entities hf item.datareaders (p := item.endpointGuid.guidPrefix)
      fun sub hsub => hguid _ (howned ("subscriber", sub.view host.format)
        (List.mem_append_right _ (List.mem_map.mpr ⟨_, List.mem_map.mpr ⟨sub, hsub, rfl⟩, rfl⟩)))
    show ((item.datareaders.toList.map _).map _).Nodup
    rw [List.map_map]
    exact hnodup

/-- **Guidless trimming loses nothing** of a file exactly when the names tell apart what
stands side by side; and where two files have one tree, nothing of them is lost and they
correspond exactly when this is so in both and no empty name meets the name it stands
for. -/
theorem trimGuidless_iff (repr : List XMLElement → String) (host host' : Host)
    (hf : host.format.Lossless) (hf' : host'.format.Lossless) (m m' : DiscoveryServerManager) :
    (LosesNone (m.views host) (trimSnapshotDictGuidless repr (m.parsedFile host)) ↔
      Distinguishable (m.views host)) ∧
    ∀ tree, trimSnapshotDictGuidless repr (m.parsedFile host) = .ok tree →
      trimSnapshotDictGuidless repr (m'.parsedFile host') = .ok tree →
        ((LosesNone (m.views host) (.ok tree) ∧ LosesNone (m'.views host') (.ok tree) ∧
            Corresponds (m.views host) (m'.views host')) ↔
          (Distinguishable (m.views host) ∧ Distinguishable (m'.views host') ∧
            NamesTold (m.views host) (m'.views host'))) := by
  have hiff := losesNone_iff repr (m.parsedFile_shownBy host) (entitiesApart_views host hf m)
  have hiff' := losesNone_iff repr (m'.parsedFile_shownBy host')
    (entitiesApart_views host' hf' m')
  refine ⟨hiff, fun tree hok hok' => ?_⟩
  rw [hok] at hiff
  rw [hok'] at hiff'
  rw [hiff, hiff']
  constructor
  · rintro ⟨hdist, hdist', hcorresponds⟩
    exact ⟨hdist, hdist', namesTold_of_corresponds hcorresponds hdist'⟩
  · rintro ⟨hdist, hdist', hnames⟩
    obtain ⟨-, -, htree⟩ := (trimGuidless_eq_ok_iff repr (m.parsedFile_shownBy host) tree).mp hok
    obtain ⟨-, -, htree'⟩ :=
      (trimGuidless_eq_ok_iff repr (m'.parsedFile_shownBy host') tree).mp hok'
    have hheld := hdist.held (entitiesApart_views host hf m)
    have hheld' := hdist'.held (entitiesApart_views host' hf' m')
    rw [← htree] at hheld
    rw [← htree'] at hheld'
    exact ⟨hdist, hdist', corresponds_of_held hheld hheld' hnames⟩

/-! ## Two servers of one name -/

/-- A participant that has discovered two others, by their names. -/
def discoveredNames (first second : String) : DiscoveryServerManager :=
  { DiscoveryServerManager.initial 0 0 0 with
    snapshots :=
      [{ serverSnapshot with
          databases := (∅ : OrdSet Guid ParticipantDiscoveryDatabase).insert
            ⟨.ofPrefix 1, "server3", ((∅ : OrdSet Guid ParticipantDiscoveryItem).insert
              ⟨.ofPrefix 2, false, true, first, 0, ∅, ∅⟩).insert
                ⟨.ofPrefix 3, false, true, second, 0, ∅, ∅⟩⟩ }] }

/-- One of two servers with the default name is lost. -/
theorem repeated_name_lost : ¬ ∀ (repr : List XMLElement → String) (host : Host)
    (m : DiscoveryServerManager), host.format.Lossless →
      LosesNone (m.views host) (trimSnapshotDictGuidless repr (m.parsedFile host)) := by
  intro h
  have hnone := h (fun _ => "") bareHost
    (discoveredNames "eProsima Guidless Server" "eProsima Guidless Server") sampleFormat_lossless
  have hdist := (losesNone_iff (fun _ => "") (DiscoveryServerManager.parsedFile_shownBy _ _)
    (entitiesApart_views bareHost sampleFormat_lossless _)).mp hnone
  have hnodup := hdist.items _ List.mem_cons_self _ List.mem_cons_self
  exact absurd hnodup (by decide)

/-- A server that has discovered itself, under no name, and a client with a writer and a
reader, under a GUID prefix that Fast DDS has made up. -/
def discoveredClient (client : GuidPrefix) : DiscoveryServerManager :=
  { DiscoveryServerManager.initial 0 0 0 with
    snapshots :=
      [{ serverSnapshot with
          databases := (∅ : OrdSet Guid ParticipantDiscoveryDatabase).insert
            ⟨.ofPrefix 1, "server3", (∅ : OrdSet Guid ParticipantDiscoveryItem).insertAll
              [⟨.ofPrefix 1, true, true, "", 0, ∅, ∅⟩,
                { recordedItem client with participantName := "client1" }]⟩ }] }

theorem distinguishable_discoveredClient {client : GuidPrefix} (h : client = 2 ∨ client = 7) :
    Distinguishable ((discoveredClient client).views bareHost) := by
  have howned : ∀ s ∈ (discoveredClient client).views bareHost, s.Owned := by
    unfold SnapshotView.Owned DatabaseView.Owned ItemView.Owned
    rcases h with rfl | rfl <;> decide
  rcases h with rfl | rfl
  · exact ⟨by decide, by decide, by decide, howned⟩
  · exact ⟨by decide, by decide, by decide, howned⟩

theorem trimGuidless_iff_sample : ∃ tree,
    trimSnapshotDictGuidless (fun _ => "") ((discoveredClient 2).parsedFile bareHost) = .ok tree ∧
    trimSnapshotDictGuidless (fun _ => "") ((discoveredClient 7).parsedFile bareHost) = .ok tree ∧
    LosesNone ((discoveredClient 2).views bareHost) (.ok tree) ∧
    LosesNone ((discoveredClient 7).views bareHost) (.ok tree) ∧
    Corresponds ((discoveredClient 2).views bareHost) ((discoveredClient 7).views bareHost) := by
  have hdist := distinguishable_discoveredClient (.inl rfl)
  have hdist' := distinguishable_discoveredClient (.inr rfl)
  have hok := (trimGuidless_eq_ok_iff (fun _ => "")
    ((discoveredClient 2).parsedFile_shownBy bareHost) _).mpr
      ⟨List.cons_ne_nil _ _, hdist.owned, rfl⟩
  have hok' := (trimGuidless_eq_ok_iff (fun _ => "")
    ((discoveredClient 7).parsedFile_shownBy bareHost) _).mpr
      ⟨List.cons_ne_nil _ _, hdist'.owned, rfl⟩
  -- the prefixes are no part of the tree
  have hsame : ((discoveredClient 7).views bareHost).map snapshotPair =
      ((discoveredClient 2).views bareHost).map snapshotPair := rfl
  rw [hsame] at hok'
  have hnames : NamesTold ((discoveredClient 2).views bareHost)
      ((discoveredClient 7).views bareHost) := by
    unfold NamesTold
    decide
  exact ⟨_, hok, hok', ((trimGuidless_iff (fun _ => "") bareHost bareHost sampleFormat_lossless
    sampleFormat_lossless (discoveredClient 2) (discoveredClient 7)).2 _ hok hok').mpr
      ⟨hdist, hdist', hnames⟩⟩

end DiscoveryServer
