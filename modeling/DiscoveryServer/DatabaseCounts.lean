import DiscoveryServer.EndpointRecords
import Mathlib.Data.Set.Card

/-!
# Counting what has been discovered

The queries of `DiscoveryItemDatabase`: how many participants, readers and
writers a spokesman has discovered, of one participant or of all, and which
items there are of one participant. They run over the nested sets; what they
count are the facts in the ledgers (`counts_ledgers`).
-/

namespace Library

/-- A list without duplicates is as long as the set of its elements. -/
theorem ncard_of_nodup {α : Type} {l : List α} (h : l.Nodup) {s : Set α}
    (hs : ∀ x, x ∈ s ↔ x ∈ l) : s.ncard = l.length := by
  classical
  have hset : s = ↑l.toFinset := by
    ext x
    rw [hs, List.coe_toFinset]
    rfl
  rw [hset, Set.ncard_coe_finset, List.toFinset_card_of_nodup h]

theorem OrdSet.nodup_keys {κ α : Type} [LinearOrder κ] [Keyed κ α] (s : OrdSet κ α) :
    s.keys.Nodup :=
  List.pairwise_map.mpr (s.sorted.imp fun hab => hab.ne)

end Library

namespace DiscoveryServer

open Library

/-! ## The queries -/

/-- `CountDataReaders` and `CountDataWriters` of an item. -/
def ParticipantDiscoveryItem.countEndPoints {ε : Type} [Keyed Guid ε] (m : EndPointContainer ε)
    (it : ParticipantDiscoveryItem) : Nat := (m.get it).size

namespace ParticipantDiscoveryDatabase

/-- `CountParticipants`. -/
def countParticipants (d : ParticipantDiscoveryDatabase) : Nat := d.items.size

/-- `CountDataReaders` and `CountDataWriters` of a database: `std::accumulate`. -/
def countEndPoints {ε : Type} [Keyed Guid ε] (m : EndPointContainer ε)
    (d : ParticipantDiscoveryDatabase) : Nat :=
  d.items.toList.foldl (fun count part => count + part.countEndPoints m) 0

end ParticipantDiscoveryDatabase

namespace DiscoveryItemDatabase

/-- `CountParticipants(spokesman)`. -/
def countParticipants (db : DiscoveryItemDatabase) (spokesman : Guid) : Nat :=
  match db.image.subscript? spokesman with
  | some p => p.items.size
  | none => 0

/-- The loop of `CountDataReaders(spokesman)` and `CountDataWriters(spokesman)`. -/
def countEndPoints {ε : Type} [Keyed Guid ε] (m : EndPointContainer ε)
    (db : DiscoveryItemDatabase) (spokesman : Guid) : Nat :=
  match db.image.subscript? spokesman with
  | some p => p.items.toList.foldl (fun count part => count + (m.get part).size) 0
  | none => 0

/-- `CountDataReaders(spokesman, ptid)` and `CountDataWriters(spokesman, ptid)`. -/
def countEndPointsOf {ε : Type} [Keyed Guid ε] (m : EndPointContainer ε)
    (db : DiscoveryItemDatabase) (spokesman ptid : Guid) : Nat :=
  match db.image.subscript? spokesman with
  | some database =>
    match database.items.locate ptid with
    | none => 0 -- participant is no there
    | some it => (m.get it).size
  | none => 0

def countDataReaders (db : DiscoveryItemDatabase) (spokesman : Guid) : Nat :=
  db.countEndPoints getDataReaders spokesman

def countDataWriters (db : DiscoveryItemDatabase) (spokesman : Guid) : Nat :=
  db.countEndPoints getDataWriters spokesman

def countDataReadersOf (db : DiscoveryItemDatabase) (spokesman ptid : Guid) : Nat :=
  db.countEndPointsOf getDataReaders spokesman ptid

def countDataWritersOf (db : DiscoveryItemDatabase) (spokesman ptid : Guid) : Nat :=
  db.countEndPointsOf getDataWriters spokesman ptid

/-- `FindParticipant`: what each spokesman has discovered of `ptid`. -/
def findParticipant (db : DiscoveryItemDatabase) (ptid : Guid) : List ParticipantDiscoveryItem :=
  db.image.databases.toList.foldl (fun v database =>
    match database.items.locate ptid with
    | some it => v ++ [it]
    | none => v) []

end DiscoveryItemDatabase

/-! ## Counting in one database -/

section Databases

variable {ε : Type} [Keyed Guid ε] {m : EndPointContainer ε} {view : ε → EndPointRecord}

/-- The endpoints of one kind in a database, with their participants. -/
def ParticipantDiscoveryDatabase.endPoints (d : ParticipantDiscoveryDatabase) (k : EndPointKind) :
    List (Guid × Guid) :=
  d.items.toList.flatMap fun it => (it.endPointGuids k).map fun e => (it.endpointGuid, e)

theorem ParticipantDiscoveryItem.nodup_endPointGuids (it : ParticipantDiscoveryItem)
    (k : EndPointKind) : (it.endPointGuids k).Nodup := by
  cases k with
  | dataReader => exact it.datareaders.nodup_keys
  | dataWriter => exact it.datawriters.nodup_keys

theorem ParticipantDiscoveryItem.countEndPoints_eq (it : ParticipantDiscoveryItem) :
    it.countEndPoints m = (it.endPointGuids m.kind).length := by
  rw [← m.keys_get]
  exact (List.length_map _).symm

namespace ParticipantDiscoveryDatabase

theorem mem_endPoints {d : ParticipantDiscoveryDatabase} {k : EndPointKind} {p e : Guid} :
    (p, e) ∈ d.endPoints k ↔ (d.recordOf k p e).isSome := by
  unfold endPoints recordOf
  rw [List.mem_flatMap]
  constructor
  · rintro ⟨it, hit, hmem⟩
    obtain ⟨e', he', heq⟩ := List.mem_map.mp hmem
    cases heq
    rw [← key_participantItem, OrdSet.find?_of_mem (OrdSet.mem_def.mpr hit)]
    exact (it.record_isSome_iff k e).mpr he'
  · intro hrecord
    obtain ⟨r, hr⟩ := Option.isSome_iff_exists.mp hrecord
    obtain ⟨it, hit, hitr⟩ := Option.bind_eq_some_iff.mp hr
    have hguid : it.endpointGuid = p := OrdSet.find?_key hit
    refine ⟨it, OrdSet.find?_mem hit, List.mem_map.mpr ⟨e, ?_, by rw [hguid]⟩⟩
    exact (it.record_isSome_iff k e).mp (by rw [hitr]; rfl)

theorem nodup_endPoints (d : ParticipantDiscoveryDatabase) (k : EndPointKind) :
    (d.endPoints k).Nodup := by
  unfold endPoints
  refine List.nodup_flatMap.mpr ⟨fun it _ => ?_, ?_⟩
  · exact (it.nodup_endPointGuids k).map fun e e' h => (Prod.mk.inj h).2
  · -- endpoints of different items differ in their participant
    refine d.items.sorted.imp fun {it it'} hlt x hx hx' => ?_
    obtain ⟨e, -, rfl⟩ := List.mem_map.mp hx
    obtain ⟨e', -, heq⟩ := List.mem_map.mp hx'
    exact hlt.ne (Prod.mk.inj heq).1.symm

theorem countEndPoints_eq (d : ParticipantDiscoveryDatabase) :
    d.countEndPoints m = (d.endPoints m.kind).length := by
  have hsum : ∀ (l : List ParticipantDiscoveryItem) (n : Nat),
      l.foldl (fun count part => count + part.countEndPoints m) n =
        n + (l.flatMap fun it => (it.endPointGuids m.kind).map fun e => (it.endpointGuid, e)).length
      := by
    intro l
    induction l with
    | nil => intro n; rfl
    | cons it l ih =>
      intro n
      rw [List.foldl_cons, ih, List.flatMap_cons, List.length_append, List.length_map,
        it.countEndPoints_eq]
      omega
  exact (hsum d.items.toList 0).trans (Nat.zero_add _)

/-- The endpoints counted in a database are those of its ledger. -/
theorem ncard_endPoints (d : ParticipantDiscoveryDatabase) (k : EndPointKind) :
    {x : Guid × Guid | (d.ledger.endPoint k x.1 x.2).isSome}.ncard = (d.endPoints k).length :=
  ncard_of_nodup (d.nodup_endPoints k) fun _ => mem_endPoints.symm

theorem ncard_endPointsOf (d : ParticipantDiscoveryDatabase) (p : Guid) :
    {e | (d.ledger.endPoint m.kind p e).isSome}.ncard =
      (d.items.find? p).elim 0 fun it => (m.get it).size := by
  cases hit : d.items.find? p with
  | none => simp [ledger, recordOf, hit]
  | some it =>
    have hmem : ∀ e, e ∈ {e | (d.ledger.endPoint m.kind p e).isSome} ↔
        e ∈ it.endPointGuids m.kind := by
      intro e
      show (d.recordOf m.kind p e).isSome ↔ _
      rw [← it.record_isSome_iff, recordOf, hit]
      rfl
    rw [ncard_of_nodup (it.nodup_endPointGuids m.kind) hmem, ← it.countEndPoints_eq]
    rfl

theorem ncard_known {d : ParticipantDiscoveryDatabase} (h : NoEmptyZombie d) :
    {p | d.ledger.Known p}.ncard = d.items.size := by
  have hkeys : ∀ p, p ∈ {p | d.ledger.Known p} ↔ p ∈ d.items.keys :=
    fun p => (mem_keys_iff_known h p).symm
  rw [ncard_of_nodup d.items.nodup_keys hkeys]
  exact List.length_map _

end ParticipantDiscoveryDatabase

end Databases

/-! ## Counting in the image -/

namespace DiscoveryItemDatabase

variable {db : DiscoveryItemDatabase} {s p : Guid}

theorem subscript?_eq (db : DiscoveryItemDatabase) (s : Guid) :
    db.image.subscript? s = db.databaseOf s := OrdSet.locate_eq_find? _ s

theorem blank_endPoints (k : EndPointKind) :
    {x : Guid × Guid | (Ledger.blank.endPoint k x.1 x.2).isSome}.ncard = 0 := by
  simp [Ledger.blank]

theorem countEndPoints_eq {ε : Type} [Keyed Guid ε] (m : EndPointContainer ε) :
    db.countEndPoints m s = {x : Guid × Guid | ((db.ledger s).endPoint m.kind x.1 x.2).isSome}.ncard
    := by
  unfold ledger countEndPoints
  rw [subscript?_eq]
  cases db.databaseOf s with
  | none => exact (blank_endPoints m.kind).symm
  | some d => exact (d.countEndPoints_eq).trans (d.ncard_endPoints m.kind).symm

theorem countEndPointsOf_eq {ε : Type} [Keyed Guid ε] (m : EndPointContainer ε) :
    db.countEndPointsOf m s p = {e | ((db.ledger s).endPoint m.kind p e).isSome}.ncard := by
  unfold ledger countEndPointsOf
  rw [subscript?_eq]
  cases db.databaseOf s with
  | none => simp [ledgerOf, Ledger.blank]
  | some d =>
    refine Eq.trans ?_ (d.ncard_endPointsOf p).symm
    simp only [OrdSet.locate_eq_find?]
    cases d.items.find? p <;> rfl

theorem countParticipants_eq (h : ∀ d ∈ db.databaseOf s, NoEmptyZombie d) :
    db.countParticipants s = {p | (db.ledger s).Known p}.ncard := by
  unfold ledger countParticipants
  rw [subscript?_eq]
  cases hd : db.databaseOf s with
  | none => simp [ledgerOf, Ledger.Known, Ledger.blank]
  | some d => exact (ParticipantDiscoveryDatabase.ncard_known (h d hd)).symm

theorem findParticipant_eq :
    db.findParticipant p = db.image.databases.toList.filterMap fun d => d.items.find? p := by
  have hloop : ∀ (l : List ParticipantDiscoveryDatabase) (v : List ParticipantDiscoveryItem),
      l.foldl (fun v database =>
        match database.items.locate p with
        | some it => v ++ [it]
        | none => v) v = v ++ l.filterMap fun d => d.items.find? p := by
    intro l
    induction l with
    | nil => intro v; exact (List.append_nil v).symm
    | cons d l ih =>
      intro v
      rw [List.foldl_cons, ih, OrdSet.locate_eq_find?, List.filterMap_cons]
      cases d.items.find? p with
      | none => rfl
      | some it => exact List.append_assoc v [it] _
  exact hloop _ []

/-- `FindParticipant` finds the participant once for each spokesman who knows it. -/
theorem length_findParticipant (h : ∀ s, ∀ d ∈ db.databaseOf s, NoEmptyZombie d) :
    (db.findParticipant p).length = {s | (db.ledger s).Known p}.ncard := by
  have hmem : ∀ d ∈ db.image.databases, (db.ledger d.endpointGuid).Known p ↔
      (d.items.find? p).isSome := by
    intro d hd
    have hfind : db.databaseOf d.endpointGuid = some d := OrdSet.find?_of_mem hd
    rw [ledger, hfind, ← OrdSet.mem_keys]
    exact (ParticipantDiscoveryDatabase.mem_keys_iff_known (h _ d hfind) p).symm
  let known := db.image.databases.toList.filter fun d => (d.items.find? p).isSome
  have hnodup : (known.map (·.endpointGuid)).Nodup :=
    db.image.databases.nodup_keys.sublist (List.filter_sublist.map _)
  have hset : ∀ s, s ∈ {s | (db.ledger s).Known p} ↔ s ∈ known.map (·.endpointGuid) := by
    intro s
    simp only [known, List.mem_map, List.mem_filter, Set.mem_ofPred_eq]
    constructor
    · intro hs
      cases hd : db.databaseOf s with
      | none => simp [ledger, hd, ledgerOf, Ledger.Known, Ledger.blank] at hs
      | some d =>
        have hguid : d.endpointGuid = s := OrdSet.find?_key hd
        exact ⟨d, ⟨OrdSet.find?_mem hd, (hmem d (OrdSet.find?_mem hd)).mp (hguid ▸ hs)⟩, hguid⟩
    · rintro ⟨d, ⟨hd, hit⟩, rfl⟩
      exact (hmem d hd).mpr hit
  rw [ncard_of_nodup hnodup hset, List.length_map, findParticipant_eq,
    List.length_filterMap_eq_countP, List.countP_eq_length_filter]

end DiscoveryItemDatabase

/-- **The queries count ledgers.** After any history the counts of a spokesman
are the numbers of participants and endpoints its ledger knows, and
`FindParticipant` finds a participant as often as there are ledgers that know it. -/
theorem counts_ledgers (t now now' : TimePoint) (h : List Call) (s p : Guid) :
    let db := run DiscoveryItemDatabase.step (.init t now now') h
    let l := fun s => (spokesmen.inputsOf s h).foldl Ledger.act .blank
    db.countParticipants s = {q | (l s).Known q}.ncard ∧
      db.countDataReaders s =
        {x : Guid × Guid | ((l s).endPoint .dataReader x.1 x.2).isSome}.ncard ∧
      db.countDataWriters s =
        {x : Guid × Guid | ((l s).endPoint .dataWriter x.1 x.2).isSome}.ncard ∧
      db.countDataReadersOf s p = {e | ((l s).endPoint .dataReader p e).isSome}.ncard ∧
      db.countDataWritersOf s p = {e | ((l s).endPoint .dataWriter p e).isSome}.ncard ∧
      (db.findParticipant p).length = {s | (l s).Known p}.ncard := by
  intro db l
  have hl : l = db.ledger :=
    funext fun s => (DiscoveryItemDatabase.ledger_run t now now' h s).symm
  have hzombie : ∀ s, ∀ d ∈ db.databaseOf s, NoEmptyZombie d :=
    fun s => DiscoveryItemDatabase.noEmptyZombie_run t now now' s h
  rw [hl]
  exact ⟨DiscoveryItemDatabase.countParticipants_eq (hzombie s),
    DiscoveryItemDatabase.countEndPoints_eq getDataReaders,
    DiscoveryItemDatabase.countEndPoints_eq getDataWriters,
    DiscoveryItemDatabase.countEndPointsOf_eq getDataReaders,
    DiscoveryItemDatabase.countEndPointsOf_eq getDataWriters,
    DiscoveryItemDatabase.length_findParticipant hzombie⟩

end DiscoveryServer
