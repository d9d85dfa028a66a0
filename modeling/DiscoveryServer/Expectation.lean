import DiscoveryServer.GenerateValidator

/-!
# The expectation is the topic-matching closure

What the two passes of the generate validator leave in the tree for a participant: its
own item, and of every other participant the endpoints that have a counterpart of the
other kind on their topic in the own item (`Matches`). `enterAll` says what a list of
entries leaves under each item; the rest is which entries there are for an item, and
that no two of them have one key.
-/

namespace DiscoveryServer

open Library

namespace GenerateValidator

/-! ## Lookups in a tree -/

def databaseAt (tree : FileTree) (timestamp databasePrefix : String) : Option DatabaseTree :=
  (tree.get? ("DS_Snapshot_" ++ timestamp)).bind fun databases =>
    databases.get? ("ptdb_" ++ databasePrefix)

def itemAt (tree : FileTree) (timestamp databasePrefix itemPrefix : String) : Option ItemTree :=
  (databaseAt tree timestamp databasePrefix).bind fun database =>
    database.items.get? ("ptdi_" ++ itemPrefix)

def entryAt (tree : FileTree) (timestamp databasePrefix itemPrefix key : String) :
    Option EndpointTree :=
  (itemAt tree timestamp databasePrefix itemPrefix).bind fun item => item.endpoints.get? key

/-- The entry is for an item. -/
def RemoteEntry.At (entry : RemoteEntry) (timestamp databasePrefix itemPrefix : String) : Prop :=
  entry.timestamp = timestamp ∧ entry.databasePrefix = databasePrefix ∧
    entry.itemPrefix = itemPrefix

instance (entry : RemoteEntry) (ts p q : String) : Decidable (entry.At ts p q) :=
  inferInstanceAs (Decidable (_ ∧ _))

/-- An item after some pairs have been entered, which make it where there is none. -/
def withPairs (item : Option ItemTree) (itemPrefix : String)
    (pairs : List (String × EndpointTree)) : Option ItemTree :=
  if pairs = [] then item
  else
    let old := item.getD ⟨itemPrefix, ∅⟩
    some { old with endpoints := old.endpoints.setAll pairs }

theorem withPairs_cons (item : Option ItemTree) (itemPrefix : String) (pair : String × EndpointTree)
    (pairs : List (String × EndpointTree)) :
    withPairs (withPairs item itemPrefix [pair]) itemPrefix pairs =
      withPairs item itemPrefix (pair :: pairs) := by
  unfold withPairs
  by_cases hnil : pairs = []
  · simp [hnil]
  · rw [if_neg hnil, if_neg (List.cons_ne_nil _ _), if_neg (List.cons_ne_nil _ _)]
    rfl

/-! ## What entries leave -/

/-- A database with the entry in it. -/
def RemoteEntry.into (entry : RemoteEntry) (database : DatabaseTree) : DatabaseTree :=
  let item := (database.items.get? ("ptdi_" ++ entry.itemPrefix)).getD ⟨entry.itemPrefix, ∅⟩
  let item := { item with endpoints := item.endpoints.set entry.pair.1 entry.pair.2 }
  { database with items := database.items.set ("ptdi_" ++ entry.itemPrefix) item }

theorem RemoteEntry.get?_into (entry : RemoteEntry) (database : DatabaseTree) (q : String) :
    (entry.into database).items.get? ("ptdi_" ++ q) =
      if entry.itemPrefix = q then withPairs (database.items.get? ("ptdi_" ++ q)) q [entry.pair]
      else database.items.get? ("ptdi_" ++ q) := by
  unfold RemoteEntry.into
  rw [OrdMap.get?_set]
  by_cases hq : entry.itemPrefix = q
  · subst hq
    rw [if_pos rfl, if_pos rfl]
    simp [withPairs, OrdMap.setAll]
  · rw [if_neg hq, if_neg (by simpa using Ne.symm hq)]

/-- An entry changes one database. -/
theorem databaseAt_enter {tree : FileTree} {entry : RemoteEntry} {database : DatabaseTree}
    (h : databaseAt tree entry.timestamp entry.databasePrefix = some database) :
    ∃ tree', enter tree entry = .ok tree' ∧ ∀ ts p, databaseAt tree' ts p =
      if entry.timestamp = ts ∧ entry.databasePrefix = p then some (entry.into database)
      else databaseAt tree ts p := by
  obtain ⟨databases, hsnapshot, hfound⟩ := Option.bind_eq_some_iff.mp h
  unfold enter
  rw [hsnapshot]
  dsimp only
  rw [hfound]
  refine ⟨_, rfl, fun ts p => ?_⟩
  unfold databaseAt
  rw [OrdMap.get?_set]
  by_cases hts : entry.timestamp = ts
  · subst hts
    rw [if_pos rfl, hsnapshot, Option.bind_some, Option.bind_some, OrdMap.get?_set]
    by_cases hp : entry.databasePrefix = p
    · subst hp
      rw [if_pos rfl, if_pos ⟨rfl, rfl⟩]
      rfl
    · rw [if_neg (by simpa using Ne.symm hp), if_neg fun hat => hp hat.2]
  · rw [if_neg (by simpa using Ne.symm hts), if_neg fun hat => hts hat.1]

/-- What one entry leaves: its pair in its item, and every other item as it was. -/
theorem enter_eq {tree : FileTree} {entry : RemoteEntry}
    (h : (databaseAt tree entry.timestamp entry.databasePrefix).isSome) :
    ∃ tree', enter tree entry = .ok tree' ∧
      (∀ ts p, (databaseAt tree' ts p).isSome = (databaseAt tree ts p).isSome) ∧
      ∀ ts p q, itemAt tree' ts p q =
        if entry.At ts p q then withPairs (itemAt tree ts p q) q [entry.pair]
        else itemAt tree ts p q := by
  obtain ⟨database, hdatabase⟩ := Option.isSome_iff_exists.mp h
  obtain ⟨tree', htree', hat⟩ := databaseAt_enter hdatabase
  refine ⟨tree', htree', fun ts p => ?_, fun ts p q => ?_⟩
  · rw [hat]
    split_ifs with hthere
    · rw [← hthere.1, ← hthere.2, hdatabase]
      rfl
    · rfl
  · unfold itemAt
    rw [hat]
    by_cases hthere : entry.timestamp = ts ∧ entry.databasePrefix = p
    · rw [if_pos hthere]
      obtain ⟨rfl, rfl⟩ := hthere
      rw [hdatabase, Option.bind_some, Option.bind_some, entry.get?_into]
      by_cases hq : entry.itemPrefix = q
      · rw [if_pos hq, if_pos (show entry.At _ _ q from ⟨rfl, rfl, hq⟩)]
      · rw [if_neg hq, if_neg (show ¬ entry.At _ _ q from fun hthere => hq hthere.2.2)]
    · rw [if_neg hthere,
        if_neg (show ¬ entry.At ts p q from fun hentry => hthere ⟨hentry.1, hentry.2.1⟩)]

/-- **What a list of entries leaves**: under each item, the pairs that are for it. -/
theorem enterAll {entries : List RemoteEntry} {tree : FileTree}
    (h : ∀ e ∈ entries, (databaseAt tree e.timestamp e.databasePrefix).isSome) :
    ∃ tree', entries.foldlM enter tree = .ok tree' ∧
      (∀ ts p, (databaseAt tree' ts p).isSome = (databaseAt tree ts p).isSome) ∧
      ∀ ts p q, itemAt tree' ts p q =
        withPairs (itemAt tree ts p q) q
          ((entries.filter fun e => e.At ts p q).map (·.pair)) := by
  induction entries generalizing tree with
  | nil => exact ⟨tree, rfl, fun _ _ => rfl, fun _ _ _ => rfl⟩
  | cons e entries ih =>
    obtain ⟨next, hnext, hsame, hitem⟩ := enter_eq (h e List.mem_cons_self)
    obtain ⟨tree', hrun, hsame', hitem'⟩ :=
      ih fun e' he' => (hsame _ _).trans (h e' (List.mem_cons_of_mem _ he'))
    refine ⟨tree', ?_, fun ts p => (hsame' ts p).trans (hsame ts p), fun ts p q => ?_⟩
    · rw [List.foldlM_cons, hnext, ok_bind, hrun]
    · rw [hitem' ts p q, hitem ts p q]
      by_cases hat : e.At ts p q
      · rw [if_pos hat, List.filter_cons_of_pos (by simpa using hat), List.map_cons, withPairs_cons]
      · rw [if_neg hat, List.filter_cons_of_neg (by simpa using hat)]

/-! ## The documents -/

/-- Timestamps and prefixes tell snapshots and databases apart, there are databases in
every snapshot, and a participant has one own item, whose endpoints have GUIDs of their
own. -/
structure Regular (views : List SnapshotView) : Prop where
  timestamps : (views.map (·.timestamp)).Nodup
  databases : ∀ s ∈ views, s.databases ≠ []
  prefixes : ∀ s ∈ views, (s.databases.map (·.guidPrefix)).Nodup
  ownItem : ∀ s ∈ views, ∀ d ∈ s.databases, ∀ v ∈ d.items, ∀ w ∈ d.items,
    v.guidPrefix = d.guidPrefix → w.guidPrefix = d.guidPrefix → v = w
  guids : ∀ s ∈ views, ∀ d ∈ s.databases, ∀ v ∈ d.items, v.guidPrefix = d.guidPrefix →
    (v.endpoints.map fun a => (a.2.guidPrefix, a.2.guidEntity)).Nodup

/-- The endpoints of an own item have the prefix of the item. -/
def OwnEndpoints (views : List SnapshotView) : Prop :=
  ∀ s ∈ views, ∀ d ∈ s.databases, ∀ v ∈ d.items, v.guidPrefix = d.guidPrefix → v.Owned

/-- `w` is an endpoint of the own item of the participant `q`, which is no server, and
the own item of `d` has an endpoint of the other kind on its topic. -/
def Matches (s : SnapshotView) (d : DatabaseView) (q : String) (kind : EndpointKind)
    (w : EndpointView) : Prop :=
  (∃ d' ∈ s.databases, d'.guidPrefix = q ∧ ∃ v ∈ d'.items, OwnClient d' v ∧ w ∈ v.ofKind kind) ∧
    ∃ u ∈ d.items, u.guidPrefix = d.guidPrefix ∧ ∃ r ∈ u.ofKind kind.opposite, r.topic = w.topic

/-- What the tree has for a participant: its own item with its endpoints, and under each
other participant exactly the endpoints that match. -/
structure Closure (s : SnapshotView) (d : DatabaseView) (tree : FileTree) : Prop where
  database : (databaseAt tree s.timestamp d.guidPrefix).isSome
  own : ∀ v ∈ d.items, OwnClient d v →
    (itemAt tree s.timestamp d.guidPrefix d.guidPrefix).isSome ∧
      ∀ k t, entryAt tree s.timestamp d.guidPrefix d.guidPrefix k = some t ↔
        ∃ a ∈ v.endpoints, guidPair a = (k, t)
  remote : ∀ q, q ≠ d.guidPrefix → ∀ k t, entryAt tree s.timestamp d.guidPrefix q k = some t ↔
    ∃ kind w, Matches s d q kind w ∧ guidPair (kind.tag, w) = (k, t)
  item : ∀ q, q ≠ d.guidPrefix → ((itemAt tree s.timestamp d.guidPrefix q).isSome ↔
    ∃ kind w, Matches s d q kind w)

/-- The tree of a document is the closure for every participant outside `servers`, and of
two such participants that are no servers each is expected with the other or neither is. -/
def ExpectsClosure (servers : List String) (doc : XMLDocument) (s : SnapshotView) : Prop :=
  ∃ tree, expectation servers doc = .ok tree ∧
    (∀ d ∈ s.databases, d.guidPrefix ∉ servers → Closure s d tree) ∧
    ∀ d ∈ s.databases, ∀ d' ∈ s.databases, d.guidPrefix ∉ servers → d'.guidPrefix ∉ servers →
      (∃ v ∈ d.items, OwnClient d v) → (∃ v ∈ d'.items, OwnClient d' v) →
        ((itemAt tree s.timestamp d.guidPrefix d'.guidPrefix).isSome ↔
          (itemAt tree s.timestamp d'.guidPrefix d.guidPrefix).isSome)

section Closure

variable {servers : List String} {views : List SnapshotView} {s : SnapshotView} {d : DatabaseView}

theorem Regular.snapshot_eq (h : Regular views) (hs : s ∈ views) {s' : SnapshotView}
    (hs' : s' ∈ views) (heq : s'.timestamp = s.timestamp) : s' = s :=
  List.inj_on_of_nodup_map h.timestamps hs' hs heq

theorem Regular.database_eq (h : Regular views) (hs : s ∈ views) (hd : d ∈ s.databases)
    {d' : DatabaseView} (hd' : d' ∈ s.databases) (heq : d'.guidPrefix = d.guidPrefix) : d' = d :=
  List.inj_on_of_nodup_map (h.prefixes s hs) hd' hd heq

/-! ## After the first pass -/

theorem Regular.databaseAt_ownTree (h : Regular views) (hs : s ∈ views) (hd : d ∈ s.databases)
    (hserver : d.guidPrefix ∉ servers) :
    databaseAt (ownTree servers views) s.timestamp d.guidPrefix =
      some ⟨d.guidPrefix, ownItems d⟩ := by
  have hsnapshot : (ownTree servers views).get? ("DS_Snapshot_" ++ s.timestamp) =
      some (ownDatabases servers s) := by
    refine (OrdMap.get?_setAll_map ?_).mpr ⟨s, hs, rfl⟩
    intro a ha b hb heq
    rw [h.snapshot_eq hb ha ((String.append_right_inj _).mp heq)]
  have hdatabase : (ownDatabases servers s).get? ("ptdb_" ++ d.guidPrefix) =
      some ⟨d.guidPrefix, ownItems d⟩ := by
    have hmem : d ∈ s.databases.filter fun d => d.guidPrefix ∉ servers :=
      List.mem_filter.mpr ⟨hd, by simpa using hserver⟩
    refine (OrdMap.get?_setAll_map ?_).mpr ⟨d, hmem, rfl⟩
    intro a ha b hb heq
    rw [h.database_eq hs (List.mem_filter.mp hb).1 (List.mem_filter.mp ha).1
      ((String.append_right_inj _).mp heq)]
  unfold databaseAt
  rw [hsnapshot, Option.bind_some, hdatabase]

/-- The first pass enters the own item alone. -/
theorem Regular.get?_ownItems (h : Regular views) (hs : s ∈ views) (hd : d ∈ s.databases)
    (q : String) (item : ItemTree) : (ownItems d).get? ("ptdi_" ++ q) = some item ↔
      ∃ v ∈ d.items, OwnClient d v ∧ q = d.guidPrefix ∧ item = (guidItem v).2 := by
  unfold ownItems
  rw [OrdMap.get?_setAll_map]
  · constructor
    · rintro ⟨v, hv, hpair⟩
      obtain ⟨hv, hown⟩ := List.mem_filter.mp hv
      have hown := of_decide_eq_true hown
      obtain ⟨hkey, htree⟩ := Prod.mk.inj hpair
      have hq : v.guidPrefix = q := (String.append_right_inj _).mp hkey
      exact ⟨v, hv, hown, hq.symm.trans hown.1, htree.symm⟩
    · rintro ⟨v, hv, hown, rfl, rfl⟩
      refine ⟨v, List.mem_filter.mpr ⟨hv, decide_eq_true hown⟩, ?_⟩
      unfold guidItem
      rw [hown.1]
  · intro a ha b hb _
    obtain ⟨ha, hown⟩ := List.mem_filter.mp ha
    obtain ⟨hb, hown'⟩ := List.mem_filter.mp hb
    rw [h.ownItem s hs d hd a ha b hb (of_decide_eq_true hown).1 (of_decide_eq_true hown').1]

/-! ## What the second pass enters -/

theorem mem_matchingEntries {kind : EndpointKind} {q : String} {w : EndpointView}
    {e : RemoteEntry} : e ∈ matchingEntries servers s kind q w ↔
      ∃ d ∈ s.databases, q ≠ d.guidPrefix ∧ d.guidPrefix ∉ servers ∧
        ∃ u, ownWith kind.opposite d = some u ∧ ∃ r ∈ u.ofKind kind.opposite, w.topic = r.topic ∧
          e = ⟨s.timestamp, d.guidPrefix, q, remotePair kind q w⟩ := by
  unfold matchingEntries
  rw [List.mem_flatMap]
  constructor
  · rintro ⟨d, hd, he⟩
    split_ifs at he with hother
    · obtain ⟨u, hu, he⟩ := List.mem_flatMap.mp he
      obtain ⟨r, hr, he⟩ := List.mem_flatMap.mp he
      split_ifs at he with htopic
      · exact ⟨d, hd, hother.1, hother.2, u, Option.mem_toList.mp hu, r, hr, htopic,
          List.mem_singleton.mp he⟩
      · cases he
    · cases he
  · rintro ⟨d, hd, hq, hserver, u, hu, r, hr, htopic, rfl⟩
    refine ⟨d, hd, ?_⟩
    rw [if_pos ⟨hq, hserver⟩]
    refine List.mem_flatMap.mpr ⟨u, Option.mem_toList.mpr hu, List.mem_flatMap.mpr ⟨r, hr, ?_⟩⟩
    rw [if_pos htopic]
    exact List.mem_singleton.mpr rfl

theorem mem_itemEntries {v : ItemView} {e : RemoteEntry} : e ∈ itemEntries servers s v ↔
    ∃ kind, ∃ w ∈ v.ofKind kind, e ∈ matchingEntries servers s kind v.guidPrefix w := by
  unfold itemEntries
  rw [List.mem_append, List.mem_flatMap, List.mem_flatMap]
  constructor
  · rintro (⟨w, hw, he⟩ | ⟨w, hw, he⟩)
    · exact ⟨.publisher, w, hw, he⟩
    · exact ⟨.subscriber, w, hw, he⟩
  · rintro ⟨kind, w, hw, he⟩
    cases kind with
    | publisher => exact .inl ⟨w, hw, he⟩
    | subscriber => exact .inr ⟨w, hw, he⟩

theorem mem_remoteEntries {e : RemoteEntry} : e ∈ remoteEntries servers views ↔
    ∃ s ∈ views, ∃ d ∈ s.databases, ∃ v ∈ d.items, OwnClient d v ∧ e ∈ itemEntries servers s v := by
  unfold remoteEntries
  simp only [List.mem_flatMap]
  constructor
  · rintro ⟨s, hs, d, hd, v, hv, he⟩
    split_ifs at he with hown
    · exact ⟨s, hs, d, hd, v, hv, hown, he⟩
    · cases he
  · rintro ⟨s, hs, d, hd, v, hv, hown, he⟩
    refine ⟨s, hs, d, hd, v, hv, ?_⟩
    rw [if_pos hown]
    exact he

theorem Regular.ownWith_iff (h : Regular views) (hs : s ∈ views) (hd : d ∈ s.databases)
    {kind : EndpointKind} {u : ItemView} :
    ownWith kind d = some u ↔ u ∈ d.items ∧ u.guidPrefix = d.guidPrefix ∧ u.ofKind kind ≠ [] := by
  unfold ownWith
  constructor
  · intro hfind
    have hsome := List.find?_some hfind
    have hown := of_decide_eq_true hsome
    exact ⟨List.mem_of_find?_eq_some hfind, hown.1, hown.2⟩
  · rintro ⟨hu, hown, hkind⟩
    have hsome : (d.items.find? fun u => u.guidPrefix = d.guidPrefix ∧ u.ofKind kind ≠ []).isSome :=
      List.find?_isSome.mpr ⟨u, hu, by simp [hown, hkind]⟩
    obtain ⟨u', hu'⟩ := Option.isSome_iff_exists.mp hsome
    have hsome' := List.find?_some hu'
    have hown' := (of_decide_eq_true hsome').1
    rw [hu', h.ownItem s hs d hd u' (List.mem_of_find?_eq_some hu') u hu hown' hown]

/-- The pairs that are entered for an item. -/
def pairsAt (servers : List String) (views : List SnapshotView) (ts p q : String) :
    List (String × EndpointTree) :=
  ((remoteEntries servers views).filter fun e => e.At ts p q).map (·.pair)

theorem Regular.mem_pairsAt (h : Regular views) (hs : s ∈ views) (hd : d ∈ s.databases)
    (hserver : d.guidPrefix ∉ servers) {q : String} {pair : String × EndpointTree} :
    pair ∈ pairsAt servers views s.timestamp d.guidPrefix q ↔
      q ≠ d.guidPrefix ∧ ∃ kind w, Matches s d q kind w ∧ pair = remotePair kind q w := by
  unfold pairsAt
  rw [List.mem_map]
  constructor
  · rintro ⟨e, he, rfl⟩
    obtain ⟨he, hat⟩ := List.mem_filter.mp he
    obtain ⟨hts, hp, hq⟩ := of_decide_eq_true hat
    obtain ⟨s', hs', d', hd', v, hv, hown, he⟩ := mem_remoteEntries.mp he
    obtain ⟨kind, w, hw, he⟩ := mem_itemEntries.mp he
    obtain ⟨d'', hd'', hother, -, u, hu, r, hr, htopic, rfl⟩ := mem_matchingEntries.mp he
    -- the snapshot and the database are the ones of the item
    cases h.snapshot_eq hs hs' hts
    cases h.database_eq hs hd hd'' hp
    subst hq
    obtain ⟨humem, huown, -⟩ := (h.ownWith_iff hs hd).mp hu
    exact ⟨hother, kind, w, ⟨⟨d', hd', hown.1.symm, v, hv, hown, hw⟩, u, humem, huown, r, hr,
      htopic.symm⟩, rfl⟩
  · rintro ⟨hother, kind, w, ⟨⟨d', hd', rfl, v, hv, hown, hw⟩, u, hu, huown, r, hr, htopic⟩, rfl⟩
    refine ⟨⟨s.timestamp, d.guidPrefix, d'.guidPrefix, remotePair kind d'.guidPrefix w⟩,
      List.mem_filter.mpr ⟨?_, decide_eq_true ⟨rfl, rfl, rfl⟩⟩, rfl⟩
    have howner := hown.1
    refine mem_remoteEntries.mpr ⟨s, hs, d', hd', v, hv, hown, ?_⟩
    refine mem_itemEntries.mpr ⟨kind, w, hw, ?_⟩
    rw [howner]
    refine mem_matchingEntries.mpr ⟨d, hd, hother, hserver, u, ?_, r, hr, htopic.symm, rfl⟩
    exact (h.ownWith_iff hs hd).mpr ⟨hu, huown, List.ne_nil_of_mem hr⟩

/-! ## The closure -/

theorem tag_key_inj {kind kind' : EndpointKind} {x y : String}
    (h : kind.tag ++ "_" ++ x = kind'.tag ++ "_" ++ y) : kind = kind' ∧ x = y := by
  cases kind <;> cases kind'
  · exact ⟨rfl, (String.append_right_inj _).mp h⟩
  · exact absurd h (publisher_ne_subscriber x y)
  · exact absurd h.symm (publisher_ne_subscriber y x)
  · exact ⟨rfl, (String.append_right_inj _).mp h⟩

/-- Endpoints with the prefix of their item and GUIDs of their own have different keys. -/
theorem ItemView.guidPair_inj {v : ItemView} (howned : v.Owned)
    (hguids : (v.endpoints.map fun a => (a.2.guidPrefix, a.2.guidEntity)).Nodup)
    {a b : String × EndpointView} (ha : a ∈ v.endpoints) (hb : b ∈ v.endpoints)
    (hkey : (guidPair a).1 = (guidPair b).1) : a = b := by
  obtain ⟨kind, htag, -⟩ := ItemView.mem_endpoints.mp ha
  obtain ⟨kind', htag', -⟩ := ItemView.mem_endpoints.mp hb
  unfold guidPair at hkey
  rw [htag, htag', ← howned a ha, ← howned b hb] at hkey
  have hentity := (String.append_right_inj _).mp (tag_key_inj hkey).2
  refine List.inj_on_of_nodup_map hguids ha hb (Prod.ext ?_ hentity)
  exact (howned a ha).symm.trans (howned b hb)

/-- A matching endpoint is entered under its own GUID. -/
theorem Matches.remotePair_eq (howned : OwnEndpoints views) (hs : s ∈ views) {q : String}
    {kind : EndpointKind} {w : EndpointView} (hm : Matches s d q kind w) :
    remotePair kind q w = guidPair (kind.tag, w) := by
  obtain ⟨⟨d', hd', rfl, v, hv, hown, hw⟩, -⟩ := hm
  have hguid := howned s hs d' hd' v hv hown.1 (kind.tag, w)
    (ItemView.mem_endpoints.mpr ⟨kind, rfl, hw⟩)
  unfold remotePair guidPair
  rw [← hown.1, hguid]

theorem Regular.matches_inj (h : Regular views) (howned : OwnEndpoints views) (hs : s ∈ views)
    {q : String} {kind kind' : EndpointKind} {w w' : EndpointView} (hm : Matches s d q kind w)
    (hm' : Matches s d q kind' w')
    (hkey : (remotePair kind q w).1 = (remotePair kind' q w').1) :
    remotePair kind q w = remotePair kind' q w' := by
  rw [hm.remotePair_eq howned hs, hm'.remotePair_eq howned hs] at hkey ⊢
  obtain ⟨⟨c, hc, hq, v, hv, hown, hw⟩, -⟩ := hm
  obtain ⟨⟨c', hc', hq', v', hv', hown', hw'⟩, -⟩ := hm'
  cases h.database_eq hs hc' hc (hq.trans hq'.symm)
  cases h.ownItem s hs c hc v hv v' hv' hown.1 hown'.1
  rw [ItemView.guidPair_inj (howned s hs c hc v hv hown.1) (h.guids s hs c hc v hv hown.1)
    (ItemView.mem_endpoints.mpr ⟨kind, rfl, hw⟩) (ItemView.mem_endpoints.mpr ⟨kind', rfl, hw'⟩)
    hkey]

theorem lookup_withPairs_none (q : String) (pairs : List (String × EndpointTree)) (k : String) :
    ((withPairs none q pairs).bind fun item => item.endpoints.get? k) =
      OrdMap.lastValue pairs k := by
  unfold withPairs
  by_cases hnil : pairs = []
  · rw [if_pos hnil, hnil]
    rfl
  · rw [if_neg hnil]
    show ((∅ : OrdMap String EndpointTree).setAll pairs).get? k = _
    rw [OrdMap.get?_setAll, OrdMap.get?_empty, Option.or_none]

/-- What both passes leave of the tree of the own items. -/
structure Filled (servers : List String) (views : List SnapshotView) (tree : FileTree) : Prop where
  database : ∀ ts p,
    (databaseAt tree ts p).isSome = (databaseAt (ownTree servers views) ts p).isSome
  item : ∀ ts p q, itemAt tree ts p q =
    withPairs (itemAt (ownTree servers views) ts p q) q (pairsAt servers views ts p q)

theorem Regular.exists_tree (servers : List String) {doc : XMLDocument} (h : Regular views)
    (hdoc : ShownBy views doc) (hne : views ≠ []) :
    ∃ tree, expectation servers doc = .ok tree ∧ Filled servers views tree := by
  have hthere : ∀ e ∈ remoteEntries servers views,
      (databaseAt (ownTree servers views) e.timestamp e.databasePrefix).isSome := by
    intro e he
    obtain ⟨s, hs, d, hd, v, hv, hown, he⟩ := mem_remoteEntries.mp he
    obtain ⟨kind, w, hw, he⟩ := mem_itemEntries.mp he
    obtain ⟨d', hd', -, hserver, u, hu, r, hr, -, rfl⟩ := mem_matchingEntries.mp he
    rw [h.databaseAt_ownTree hs hd' hserver]
    rfl
  obtain ⟨tree, htree, hdatabase, hitem⟩ := enterAll hthere
  exact ⟨tree, (expectation_eq servers hdoc hne h.databases).trans htree, hdatabase, hitem⟩

theorem Regular.itemAt_ownTree (h : Regular views) (hs : s ∈ views) (hd : d ∈ s.databases)
    (hserver : d.guidPrefix ∉ servers) (q : String) :
    itemAt (ownTree servers views) s.timestamp d.guidPrefix q =
      (ownItems d).get? ("ptdi_" ++ q) := by
  unfold itemAt
  rw [h.databaseAt_ownTree hs hd hserver, Option.bind_some]

namespace Filled

variable {tree : FileTree}

/-- Under itself a participant has what the first pass has entered. -/
theorem itemAt_own (hfilled : Filled servers views tree) (h : Regular views) (hs : s ∈ views)
    (hd : d ∈ s.databases) (hserver : d.guidPrefix ∉ servers) {v : ItemView} (hv : v ∈ d.items)
    (hown : OwnClient d v) :
    itemAt tree s.timestamp d.guidPrefix d.guidPrefix = some (guidItem v).2 := by
  have hnil : pairsAt servers views s.timestamp d.guidPrefix d.guidPrefix = [] := by
    refine List.eq_nil_iff_forall_not_mem.mpr fun pair hpair => ?_
    exact ((h.mem_pairsAt hs hd hserver).mp hpair).1 rfl
  have hget := (h.get?_ownItems hs hd d.guidPrefix (guidItem v).2).mpr ⟨v, hv, hown, rfl, rfl⟩
  rw [hfilled.item, hnil, h.itemAt_ownTree hs hd hserver, hget]
  rfl

/-- Under another participant there is what the second pass has entered. -/
theorem itemAt_remote (hfilled : Filled servers views tree) (h : Regular views) (hs : s ∈ views)
    (hd : d ∈ s.databases) (hserver : d.guidPrefix ∉ servers) {q : String}
    (hq : q ≠ d.guidPrefix) :
    itemAt tree s.timestamp d.guidPrefix q =
      withPairs none q (pairsAt servers views s.timestamp d.guidPrefix q) := by
  have hnone : (ownItems d).get? ("ptdi_" ++ q) = none := by
    cases hget : (ownItems d).get? ("ptdi_" ++ q) with
    | none => rfl
    | some item =>
      obtain ⟨v, -, -, heq, -⟩ := (h.get?_ownItems hs hd q item).mp hget
      exact absurd heq hq
  rw [hfilled.item, h.itemAt_ownTree hs hd hserver, hnone]

theorem entryAt_remote (hfilled : Filled servers views tree) (h : Regular views) (hs : s ∈ views)
    (hd : d ∈ s.databases) (hserver : d.guidPrefix ∉ servers) {q : String}
    (hq : q ≠ d.guidPrefix) (k : String) :
    entryAt tree s.timestamp d.guidPrefix q k =
      OrdMap.lastValue (pairsAt servers views s.timestamp d.guidPrefix q) k := by
  unfold entryAt
  rw [hfilled.itemAt_remote h hs hd hserver hq, lookup_withPairs_none]

/-- There is an item for another participant where anything of it has been entered. -/
theorem isSome_itemAt_remote (hfilled : Filled servers views tree) (h : Regular views)
    (hs : s ∈ views) (hd : d ∈ s.databases) (hserver : d.guidPrefix ∉ servers) {q : String}
    (hq : q ≠ d.guidPrefix) :
    (itemAt tree s.timestamp d.guidPrefix q).isSome ↔ ∃ kind w, Matches s d q kind w := by
  have hsome : (withPairs none q (pairsAt servers views s.timestamp d.guidPrefix q)).isSome ↔
      ∃ pair, pair ∈ pairsAt servers views s.timestamp d.guidPrefix q := by
    unfold withPairs
    split_ifs with hnil
    · simp [hnil]
    · simpa using List.exists_mem_of_ne_nil _ hnil
  rw [hfilled.itemAt_remote h hs hd hserver hq, hsome]
  constructor
  · intro hpair
    obtain ⟨pair, hpair⟩ := hpair
    obtain ⟨-, kind, w, hm, -⟩ := (h.mem_pairsAt hs hd hserver).mp hpair
    exact ⟨kind, w, hm⟩
  · intro hm
    obtain ⟨kind, w, hm⟩ := hm
    exact ⟨_, (h.mem_pairsAt hs hd hserver).mpr ⟨hq, kind, w, hm, rfl⟩⟩

/-- The entries of another participant are the endpoints that match, each once. -/
theorem entryAt_remote_iff (hfilled : Filled servers views tree) (h : Regular views)
    (howned : OwnEndpoints views) (hs : s ∈ views) (hd : d ∈ s.databases)
    (hserver : d.guidPrefix ∉ servers) {q : String} (hq : q ≠ d.guidPrefix) (k : String)
    (t : EndpointTree) : entryAt tree s.timestamp d.guidPrefix q k = some t ↔
      ∃ kind w, Matches s d q kind w ∧ guidPair (kind.tag, w) = (k, t) := by
  rw [hfilled.entryAt_remote h hs hd hserver hq, OrdMap.lastValue_eq_some_iff,
    h.mem_pairsAt hs hd hserver]
  · constructor
    · rintro ⟨-, kind, w, hm, hpair⟩
      exact ⟨kind, w, hm, by rw [hpair, hm.remotePair_eq howned hs]⟩
    · rintro ⟨kind, w, hm, hpair⟩
      exact ⟨hq, kind, w, hm, by rw [hm.remotePair_eq howned hs, hpair]⟩
  · intro a ha b hb hkey
    obtain ⟨-, kind, w, hm, rfl⟩ := (h.mem_pairsAt hs hd hserver).mp ha
    obtain ⟨-, kind', w', hm', rfl⟩ := (h.mem_pairsAt hs hd hserver).mp hb
    rw [h.matches_inj howned hs hm hm' hkey]

theorem closure (hfilled : Filled servers views tree) (h : Regular views)
    (howned : OwnEndpoints views) (hs : s ∈ views) (hd : d ∈ s.databases)
    (hserver : d.guidPrefix ∉ servers) : Closure s d tree where
  database := by
    rw [hfilled.database, h.databaseAt_ownTree hs hd hserver]
    rfl
  own := by
    intro v hv hown
    have hitem := hfilled.itemAt_own h hs hd hserver hv hown
    refine ⟨by rw [hitem]; rfl, fun k t => ?_⟩
    unfold entryAt
    rw [hitem, Option.bind_some]
    refine OrdMap.get?_setAll_map fun a ha b hb hkey => ?_
    rw [ItemView.guidPair_inj (howned s hs d hd v hv hown.1) (h.guids s hs d hd v hv hown.1) ha hb
      hkey]
  remote := fun _ hq => hfilled.entryAt_remote_iff h howned hs hd hserver hq
  item := fun _ hq => hfilled.isSome_itemAt_remote h hs hd hserver hq

end Filled

/-- Matching is symmetric between participants whose own items are no servers. -/
theorem Regular.matches_symm (h : Regular views) (hs : s ∈ views) {d' : DatabaseView}
    (hd' : d' ∈ s.databases) (hd : d ∈ s.databases) (hown : ∃ v ∈ d.items, OwnClient d v)
    (hm : ∃ kind w, Matches s d d'.guidPrefix kind w) :
    ∃ kind w, Matches s d' d.guidPrefix kind w := by
  obtain ⟨kind, w, ⟨c, hc, hq, v, hv, hvown, hw⟩, u, hu, huown, r, hr, htopic⟩ := hm
  obtain ⟨u', hu', huclient⟩ := hown
  cases h.database_eq hs hd' hc hq
  cases h.ownItem s hs d hd u hu u' hu' huown huclient.1
  refine ⟨kind.opposite, r, ⟨d, hd, rfl, u, hu, huclient, hr⟩, v, hv, hvown.1, w, ?_, htopic.symm⟩
  rw [EndpointKind.opposite_opposite]
  exact hw

/-- **The expectation is the topic-matching closure.** For every list of servers, the tree
that is built from a regular document whose own endpoints have the prefix of their item
has, for every participant outside the list, its own item and exactly the matching
endpoints of each other one; so of two such participants that are no servers, each is
expected with the other or neither is. -/
theorem expectation_closure (servers : List String) {doc : XMLDocument} (hdoc : ShownBy views doc)
    (h : Regular views) (howned : OwnEndpoints views) :
    ∀ s ∈ views, ExpectsClosure servers doc s := by
  intro s hs
  obtain ⟨tree, htree, hfilled⟩ := h.exists_tree servers hdoc (List.ne_nil_of_mem hs)
  have hclosure : ∀ d ∈ s.databases, d.guidPrefix ∉ servers → Closure s d tree := by
    intro d hd hserver
    exact hfilled.closure h howned hs hd hserver
  refine ⟨tree, htree, hclosure, fun d hd d' hd' hserver hserver' hown hown' => ?_⟩
  by_cases heq : d'.guidPrefix = d.guidPrefix
  · rw [heq]
  · rw [(hclosure d hd hserver).item _ heq, (hclosure d' hd' hserver').item _ (Ne.symm heq)]
    exact ⟨h.matches_symm hs hd' hd hown, h.matches_symm hs hd hd' hown'⟩

end Closure

/-! ## Two participants with endpoints on one topic -/

/-- A snapshot of a participant that reads a topic and one whose own item has a writer of
the topic, by the prefix of the writer. -/
def readerAndWriter (writerPrefix : BitVec 96) : DiscoveryServerManager :=
  { DiscoveryServerManager.initial 0 0 0 with
    snapshots :=
      [{ serverSnapshot with
          databases := ((∅ : OrdSet Guid ParticipantDiscoveryDatabase).insert
            ⟨.ofPrefix 1, "client1", (∅ : OrdSet Guid ParticipantDiscoveryItem).insert
              ⟨.ofPrefix 1, false, true, "client1", 0, ∅,
                (∅ : OrdSet Guid DataReaderDiscoveryItem).insert
                  ⟨⟨1, 7⟩, "HelloWorld", "topic", 0, 0, 0⟩⟩⟩).insert
            ⟨.ofPrefix 2, "client2", (∅ : OrdSet Guid ParticipantDiscoveryItem).insert
              ⟨.ofPrefix 2, false, true, "client2", 0,
                (∅ : OrdSet Guid DataWriterDiscoveryItem).insert
                  ⟨⟨writerPrefix, 3⟩, "HelloWorld", "topic", 0⟩, ∅⟩⟩ }] }

/-- What the file of `readerAndWriter` shows. -/
def readerView : DatabaseView :=
  ⟨sampleFormat.prefixToStr 1, "client1",
    [⟨sampleFormat.prefixToStr 1, "client1", "false", [],
      [⟨sampleFormat.prefixToStr 1, sampleFormat.entityIdToStr 7, "topic"⟩]⟩]⟩

def writerView (writerPrefix : BitVec 96) : DatabaseView :=
  ⟨sampleFormat.prefixToStr 2, "client2",
    [⟨sampleFormat.prefixToStr 2, "client2", "false",
      [⟨sampleFormat.prefixToStr writerPrefix, sampleFormat.entityIdToStr 3, "topic"⟩], []⟩]⟩

def readerAndWriterView (writerPrefix : BitVec 96) : SnapshotView :=
  ⟨sampleFormat.xml.int64ToStr 0, descriptionText "late", [readerView, writerView writerPrefix]⟩

theorem shownBy_readerAndWriter (writerPrefix : BitVec 96) :
    ShownBy [readerAndWriterView writerPrefix]
      ((readerAndWriter writerPrefix).parsedFile bareHost) :=
  (readerAndWriter writerPrefix).parsedFile_shownBy bareHost

theorem regular_readerAndWriter (writerPrefix : BitVec 96) :
    Regular [readerAndWriterView writerPrefix] where
  timestamps := List.nodup_singleton _
  databases := by simp [readerAndWriterView]
  prefixes := by
    intro s hs
    cases List.mem_singleton.mp hs
    show [sampleFormat.prefixToStr 1, sampleFormat.prefixToStr 2].Nodup
    decide
  ownItem := by simp [readerAndWriterView, readerView, writerView]
  guids := by simp [readerAndWriterView, readerView, writerView, ItemView.endpoints]

/-- A writer under the own item of another participant is entered under the GUID that it
would have if it were one of that participant's. -/
theorem foreign_writer_renamed : ¬ ∀ (servers : List String) (views : List SnapshotView)
    (doc : XMLDocument), ShownBy views doc → Regular views →
      ∀ s ∈ views, ExpectsClosure servers doc s := by
  intro h
  have hdoc := shownBy_readerAndWriter 9
  have hregular := regular_readerAndWriter 9
  obtain ⟨tree, htree, hclosure, -⟩ := h [] _ _ hdoc hregular _ List.mem_cons_self
  obtain ⟨tree', htree', hfilled⟩ := hregular.exists_tree [] hdoc (List.cons_ne_nil _ _)
  cases htree.symm.trans htree'
  have hreader := hclosure readerView List.mem_cons_self List.not_mem_nil
  have hmatches : Matches (readerAndWriterView 9) readerView (sampleFormat.prefixToStr 2)
      .publisher ⟨sampleFormat.prefixToStr 9, sampleFormat.entityIdToStr 3, "topic"⟩ := by
    refine ⟨⟨writerView 9, List.mem_cons_of_mem _ List.mem_cons_self, rfl, _, List.mem_cons_self,
      ⟨rfl, by decide⟩, List.mem_cons_self⟩, ?_⟩
    exact ⟨_, List.mem_cons_self, rfl, _, List.mem_cons_self, rfl⟩
  have hentry := (hreader.remote (sampleFormat.prefixToStr 2) (by decide) _ _).mpr
    ⟨.publisher, _, hmatches, rfl⟩
  rw [hfilled.entryAt_remote hregular List.mem_cons_self List.mem_cons_self List.not_mem_nil
    (by decide)] at hentry
  -- what has been entered has the prefix 2
  obtain ⟨-, kind, w, -, hpair⟩ := (hregular.mem_pairsAt List.mem_cons_self List.mem_cons_self
    List.not_mem_nil).mp (OrdMap.mem_of_lastValue hentry)
  have hguid := (tag_key_inj (congrArg Prod.fst hpair)).2
  have hfirst := congrArg (fun guid : String => guid.toList.head?) hguid
  simp only [String.toList_append] at hfirst
  revert hfirst
  show some '9' = some '2' → False
  decide

theorem expectation_closure_sample :
    ExpectsClosure [] ((readerAndWriter 2).parsedFile bareHost) (readerAndWriterView 2) := by
  refine expectation_closure [] (shownBy_readerAndWriter 2) (regular_readerAndWriter 2) ?_ _
    List.mem_cons_self
  intro s hs d hd v hv _ a ha
  cases List.mem_singleton.mp hs
  cases List.mem_cons.mp hd with
  | inl hreader =>
    cases hreader
    cases List.mem_singleton.mp hv
    cases List.mem_singleton.mp ha
    rfl
  | inr hwriter =>
    cases List.mem_singleton.mp hwriter
    cases List.mem_singleton.mp hv
    cases List.mem_singleton.mp ha
    rfl

end GenerateValidator

end DiscoveryServer
