import DiscoveryServer.Ownership
import DiscoveryServer.Liveness
import Mathlib.Order.Bounds.Basic

/-!
# The ledger of a spokesman

What the discovery database is for, said without items, zombies and search: for
each spokesman, which participants it has been told of and which endpoints, each
a fact of its own. A report of a death touches the liveness of one participant
and none of its endpoints; a report about an endpoint touches that endpoint.

`ledger_act` shows that every operation on the sets of `DiscoveryItem.cpp` is
the operation on these facts, so the image refines one ledger for each spokesman
(`ledger_run`). Zombies are how the sets keep the facts apart: an item is there
for exactly the participants the ledger knows (`mem_keys_iff_known`).
-/

namespace DiscoveryServer

open Library ParticipantDiscoveryDatabase

/-- What is kept of an endpoint: its first report, and the last liveliness
counters (of a reader; those of a writer are never set). -/
structure EndPointRecord where
  typeName : String
  topicName : String
  discoveredTimestamp : TimePoint
  aliveCount : Int
  notAliveCount : Int
deriving DecidableEq

/-- The record of an endpoint when it is first reported. -/
def EndPointRecord.first (typename topicname : String) (tp : TimePoint) : EndPointRecord :=
  ⟨typename, topicname, tp, 0, 0⟩

def EndPointRecord.counted (r : EndPointRecord) (aliveCount notAliveCount : Int) : EndPointRecord :=
  { r with aliveCount := aliveCount, notAliveCount := notAliveCount }

/-- What one spokesman has been told. -/
@[ext] structure Ledger where
  opened : Bool
  alive : Guid → Bool
  endPoint : EndPointKind → Guid → Guid → Option EndPointRecord

namespace Ledger

/-- Nothing has been told. -/
def blank : Ledger := ⟨false, fun _ => false, fun _ _ _ => none⟩

/-- Somebody the ledger says anything about. -/
def Known (l : Ledger) (p : Guid) : Prop :=
  l.alive p = true ∨ ∃ k e, (l.endPoint k p e).isSome

/-- The participant is said to be alive, or dead. -/
def declare (l : Ledger) (p : Guid) (alive : Bool) : Ledger where
  opened := true
  alive q := if q = p then alive else l.alive q
  endPoint := l.endPoint

/-- What is kept of one endpoint changes. -/
def amend (l : Ledger) (k : EndPointKind) (p e : Guid)
    (change : Option EndPointRecord → Option EndPointRecord) : Ledger where
  opened := l.opened
  alive := l.alive
  endPoint k' p' e' :=
    if k' = k ∧ p' = p ∧ e' = e then change (l.endPoint k p e) else l.endPoint k' p' e'

/-- A spokesman reporting an endpoint of its own is alive. -/
def greet (l : Ledger) (s p : Guid) : Ledger where
  opened := true
  alive q := if q = p ∧ p = s then true else l.alive q
  endPoint := l.endPoint

open Classical in
/-- Where an endpoint of `p` goes: to `p`, or, when `p` is unknown and not the
spokesman, to the least participant known above it. -/
noncomputable def owner (l : Ledger) (s p : Guid) : Guid :=
  if h : ∃ q, IsLeast {q | l.Known q ∧ p < q} q ∧ p ≠ s ∧ ¬ l.Known p then h.choose else p

/-- An endpoint is reported. -/
noncomputable def file (l : Ledger) (k : EndPointKind) (s p e : Guid) (r : EndPointRecord) :
    Ledger :=
  (l.greet s p).amend k (l.owner s p) e fun known => some (known.getD r)

/-- What a call changes in the ledger of its spokesman. -/
noncomputable def act (l : Ledger) (c : Call) : Ledger :=
  match c.op with
  | .addParticipant _ _ p .. => l.declare p true
  | .removeSpokesman _ => blank
  | .removeParticipant _ p => l.declare p false
  | .addDataReader s _ p e type topic tp => l.file .dataReader s p e (.first type topic tp)
  | .addDataWriter s _ p e type topic tp => l.file .dataWriter s p e (.first type topic tp)
  | .removeDataReader _ p e => l.amend .dataReader p e fun _ => none
  | .removeDataWriter _ p e => l.amend .dataWriter p e fun _ => none
  | .updateSubLiveliness r a n =>
    l.amend .dataReader r.participant r (Option.map fun known => known.counted a n)

theorem owner_eq_self {l : Ledger} {s p : Guid}
    (h : p = s ∨ l.Known p ∨ ∀ q, l.Known q → q < p) : l.owner s p = p := by
  refine dif_neg ?_
  rintro ⟨q, ⟨⟨hknown, habove⟩, -⟩, hs, hp⟩
  rcases h with h | h | h
  · exact hs h
  · exact hp h
  · exact absurd (h q hknown) habove.asymm

theorem owner_eq_of_isLeast {l : Ledger} {s p q : Guid} (hs : p ≠ s) (hp : ¬ l.Known p)
    (hq : IsLeast {q | l.Known q ∧ p < q} q) : l.owner s p = q := by
  have h : ∃ q, IsLeast {q | l.Known q ∧ p < q} q ∧ p ≠ s ∧ ¬ l.Known p := ⟨q, hq, hs, hp⟩
  have hchosen : l.owner s p = h.choose := dif_pos h
  rw [hchosen]
  exact h.choose_spec.1.unique hq

end Ledger

/-! ## What an item says -/

namespace ParticipantDiscoveryItem

/-- What the item keeps of an endpoint. -/
def record (it : ParticipantDiscoveryItem) : EndPointKind → Guid → Option EndPointRecord
  | .dataReader, e => (it.datareaders.find? e).map fun r =>
    ⟨r.typeName, r.topicName, r.discoveredTimestamp, r.aliveCount, r.notAliveCount⟩
  | .dataWriter, e => (it.datawriters.find? e).map fun w =>
    ⟨w.typeName, w.topicName, w.discoveredTimestamp, 0, 0⟩

theorem record_isSome_iff (it : ParticipantDiscoveryItem) (k : EndPointKind) (e : Guid) :
    (it.record k e).isSome ↔ e ∈ it.endPointGuids k := by
  cases k with
  | dataReader =>
    show ((it.datareaders.find? e).map _).isSome ↔ e ∈ it.datareaders.keys
    rw [Option.isSome_map, OrdSet.mem_keys]
  | dataWriter =>
    show ((it.datawriters.find? e).map _).isSome ↔ e ∈ it.datawriters.keys
    rw [Option.isSome_map, OrdSet.mem_keys]

/-- An item without endpoints keeps no record. -/
theorem record_eq_none_of_countEndpoints {it : ParticipantDiscoveryItem}
    (h : it.countEndpoints = 0) (k : EndPointKind) (e : Guid) : it.record k e = none := by
  by_contra hrecord
  have hmem := (it.record_isSome_iff k e).mp (Option.isSome_iff_ne_none.mpr hrecord)
  have hpos := countEndpoints_pos hmem
  omega

theorem exists_record_of_countEndpoints {it : ParticipantDiscoveryItem}
    (h : 0 < it.countEndpoints) : ∃ k e, (it.record k e).isSome := by
  rw [it.countEndpoints_eq] at h
  by_cases hwriters : it.endPointGuids .dataWriter = []
  · rw [hwriters, List.length_nil, Nat.zero_add] at h
    obtain ⟨e, he⟩ := List.exists_mem_of_length_pos h
    exact ⟨.dataReader, e, (it.record_isSome_iff _ e).mpr he⟩
  · obtain ⟨e, he⟩ := List.exists_mem_of_ne_nil _ hwriters
    exact ⟨.dataWriter, e, (it.record_isSome_iff _ e).mpr he⟩

end ParticipantDiscoveryItem

/-- How the endpoints of a container are read as records. -/
structure EndPointContainer.Recorded {ε : Type} [Keyed Guid ε] (m : EndPointContainer ε)
    (view : ε → EndPointRecord) : Prop where
  get : ∀ it e, it.record m.kind e = ((m.get it).find? e).map view
  set : ∀ it c k e,
    (m.set it c).record k e = if k = m.kind then (c.find? e).map view else it.record k e
  construct : ∀ id type topic tp, view (m.construct id type topic tp) = .first type topic tp

theorem recorded_getDataReaders : getDataReaders.Recorded fun r =>
    ⟨r.typeName, r.topicName, r.discoveredTimestamp, r.aliveCount, r.notAliveCount⟩ where
  get _ _ := rfl
  set _ _ k _ := by cases k <;> rfl
  construct _ _ _ _ := rfl

theorem recorded_getDataWriters : getDataWriters.Recorded fun w =>
    ⟨w.typeName, w.topicName, w.discoveredTimestamp, 0, 0⟩ where
  get _ _ := rfl
  set _ _ k _ := by cases k <;> rfl
  construct _ _ _ _ := rfl

/-! ## What each effect does to the records of an item -/

theorem announced_record (now : TimePoint) (p : Guid) (name : String) (tp : TimePoint)
    (server : Bool) (it : Option ParticipantDiscoveryItem) (k : EndPointKind) (e : Guid) :
    (announced now p name tp server it).record k e = it.bind fun it => it.record k e := by
  cases it with
  | none => cases k <;> rfl
  | some i =>
    simp only [announced, Option.bind_some]
    split_ifs
    · rfl
    · cases k <;> rfl

theorem buried_record (it : ParticipantDiscoveryItem) (k : EndPointKind) (e : Guid) :
    (buried it).bind (fun it => it.record k e) = it.record k e := by
  unfold buried
  split_ifs with hcount
  · cases k <;> rfl
  · exact (ParticipantDiscoveryItem.record_eq_none_of_countEndpoints (by omega) k e).symm

theorem relived_record (r : Guid) (a n : Int) (it : ParticipantDiscoveryItem) (k : EndPointKind)
    (e : Guid) : (relived r a n it).record k e =
      if k = .dataReader ∧ e = r then (it.record k e).map fun known => known.counted a n
      else it.record k e := by
  unfold relived
  cases k with
  | dataWriter => cases it.datareaders.find? r <;> rfl
  | dataReader =>
    simp only [true_and]
    cases hr : it.datareaders.find? r with
    | none =>
      split_ifs with he
      · rw [he]
        simp [ParticipantDiscoveryItem.record, hr]
      · rfl
    | some sub =>
      have hguid : sub.endpointGuid = r := OrdSet.find?_key hr
      simp only [ParticipantDiscoveryItem.record, OrdSet.find?_update, key_dataReader, hguid]
      split_ifs with he
      · rw [he, hr]
        rfl
      · rfl

section EndPoints

variable {ε : Type} [Keyed Guid ε] {m : EndPointContainer ε} {view : ε → EndPointRecord}

theorem filed_record (hm : m.Recorded view) (e' : Guid) (type topic : String) (tp : TimePoint)
    (it : ParticipantDiscoveryItem) (k : EndPointKind) (e : Guid) :
    (filed m e' type topic tp it).record k e =
      if k = m.kind ∧ e = e' then some ((it.record k e).getD (.first type topic tp))
      else it.record k e := by
  unfold filed
  by_cases hk : k = m.kind
  · simp only [hk, true_and]
    cases hfind : (m.get it).find? e' with
    | none =>
      rw [hm.set, if_pos rfl, OrdSet.find?_insert, m.key_construct]
      split_ifs with he
      · rw [he, hm.get, hfind, Option.map_some, Option.getD_none, hm.construct]
        rfl
      · exact (hm.get it e).symm
    | some sit =>
      split_ifs with he
      · rw [he, hm.get, hfind]
        rfl
      · rfl
  · rw [if_neg fun h => hk h.1]
    cases (m.get it).find? e' with
    | none => exact (hm.set ..).trans (if_neg hk)
    | some sit => rfl

theorem unfiled_record (hm : m.Recorded view) (e' : Guid) (it : ParticipantDiscoveryItem)
    (k : EndPointKind) (e : Guid) :
    (unfiled m e' it).bind (fun it => it.record k e) =
      if k = m.kind ∧ e = e' then none else it.record k e := by
  unfold unfiled
  cases hfind : (m.get it).find? e' with
  | none =>
    show it.record k e = _
    split_ifs with he
    · rw [he.1, he.2, hm.get, hfind]
      rfl
    · rfl
  | some sit =>
    have herased : (m.set it ((m.get it).erase e')).record k e =
        if k = m.kind ∧ e = e' then none else it.record k e := by
      rw [hm.set]
      by_cases hk : k = m.kind
      · rw [if_pos hk, OrdSet.find?_erase, hk, hm.get]
        simp only [true_and]
        split_ifs <;> rfl
      · rw [if_neg hk, if_neg fun h => hk h.1]
    rw [← herased]
    show (if _ then none else some _).bind _ = _
    split_ifs with hgone
    · -- a zombie goes with its last endpoint
      simp only [Bool.and_eq_true, decide_eq_true_eq] at hgone
      exact (ParticipantDiscoveryItem.record_eq_none_of_countEndpoints hgone.1 k e).symm
    · rfl

end EndPoints

/-! ## What a database says -/

namespace ParticipantDiscoveryDatabase

/-- What a database keeps of an endpoint of `p`. -/
def recordOf (d : ParticipantDiscoveryDatabase) (k : EndPointKind) (p e : Guid) :
    Option EndPointRecord :=
  (d.items.find? p).bind fun it => it.record k e

/-- The ledger a database keeps. -/
def ledger (d : ParticipantDiscoveryDatabase) : Ledger where
  opened := true
  alive p := (d.items.find? p).any (·.isAlive)
  endPoint := d.recordOf

variable {d : ParticipantDiscoveryDatabase}

/-- There is an item for exactly the participants the ledger knows. -/
theorem mem_keys_iff_known (h : NoEmptyZombie d) (p : Guid) :
    p ∈ d.items.keys ↔ d.ledger.Known p := by
  rw [OrdSet.mem_keys]
  unfold Ledger.Known ledger recordOf
  constructor
  · intro hp
    obtain ⟨it, hit⟩ := Option.isSome_iff_exists.mp hp
    simp only [hit]
    rcases h p it hit with halive | hcount
    · exact .inl halive
    · exact .inr (ParticipantDiscoveryItem.exists_record_of_countEndpoints hcount)
  · intro hp
    cases hit : d.items.find? p with
    | some it => rfl
    | none => simp [hit] at hp

/-- The search for the owner of an endpoint ends where the ledger says. -/
theorem filedUnder_eq_owner (h : NoEmptyZombie d) (s p : Guid) :
    d.filedUnder s p = d.ledger.owner s p := by
  have hknown := mem_keys_iff_known h
  by_cases hself : p = s ∨ d.ledger.Known p ∨ ∀ q, d.ledger.Known q → q < p
  · rw [Ledger.owner_eq_self hself]
    refine filedUnder_eq_self (hself.imp_right fun hself => ?_)
    exact hself.imp (hknown p).mpr fun hbelow q hq => hbelow q ((hknown q).mp hq)
  · push Not at hself
    obtain ⟨hs, hp, q, hq, hle⟩ := hself
    obtain ⟨hmem, habove, hleast⟩ :=
      filedUnder_above hs (mt (hknown p).mp hp) ⟨q, (hknown q).mpr hq, not_lt.mpr hle⟩
    refine (Ledger.owner_eq_of_isLeast hs hp ⟨⟨(hknown _).mp hmem, habove⟩, ?_⟩).symm
    rintro q' ⟨hq', hlt⟩
    exact hleast q' ((hknown q').mpr hq') hlt

theorem recordOf_addParticipant (now : TimePoint) (p : Guid) (name : String) (tp : TimePoint)
    (server : Bool) (k : EndPointKind) (q e : Guid) :
    (d.addParticipant now p name tp server).recordOf k q e = d.recordOf k q e := by
  unfold recordOf
  rw [find?_addParticipant]
  split_ifs with hq
  · rw [hq]
    exact announced_record ..
  · rfl

theorem recordOf_removeParticipant (p : Guid) (k : EndPointKind) (q e : Guid) :
    (d.removeParticipant p).1.recordOf k q e = d.recordOf k q e := by
  unfold recordOf
  rw [find?_removeParticipant]
  split_ifs with hq
  · rw [hq, Option.bind_assoc]
    exact Option.bind_congr fun it _ => buried_record it k e
  · rfl

theorem recordOf_updateSubLiveliness (r : Guid) (a n : Int) (k : EndPointKind) (q e : Guid) :
    (d.updateSubLiveliness r a n).recordOf k q e =
      if k = .dataReader ∧ q = r.participant ∧ e = r then
        (d.recordOf .dataReader r.participant r).map fun known => known.counted a n
      else d.recordOf k q e := by
  unfold recordOf
  rw [find?_updateSubLiveliness]
  by_cases hq : q = r.participant
  · rw [if_pos hq, hq]
    simp only [true_and]
    cases d.items.find? r.participant with
    | none => simp
    | some it =>
      simp only [Option.map_some, Option.bind_some, relived_record]
      split_ifs with hk
      · rw [hk.1, hk.2]
      · rfl
  · rw [if_neg hq, if_neg fun h => hq h.2.1]

section EndPoints

variable {ε : Type} [Keyed Guid ε] {m : EndPointContainer ε} {view : ε → EndPointRecord}

theorem recordOf_addEndPoint (hm : m.Recorded view) (now : TimePoint) (s p e' : Guid)
    (type topic : String) (tp : TimePoint) (k : EndPointKind) (q e : Guid) :
    (d.addEndPoint m now s p e' type topic tp).recordOf k q e =
      if k = m.kind ∧ q = d.filedUnder s p ∧ e = e' then
        some ((d.recordOf m.kind (d.filedUnder s p) e').getD (.first type topic tp))
      else d.recordOf k q e := by
  -- the item before the endpoint is filed keeps the records of the stored one
  have hfiling : ∀ k e, (d.filingItem now s p).record k e = d.recordOf k (d.filedUnder s p) e := by
    intro k e
    unfold recordOf
    rcases d.filingItem_cases now s p with ⟨it, hit, ⟨h, -⟩ | ⟨h, -⟩⟩ | ⟨hnone, -, h⟩
    · rw [hit, h]
      rfl
    · rw [hit, h]
      cases k <;> rfl
    · rw [hnone, h]
      cases k <;> rfl
  by_cases hq : q = d.filedUnder s p
  · have hitem : (d.addEndPoint m now s p e' type topic tp).recordOf k q e =
        (filed m e' type topic tp (d.filingItem now s p)).record k e := by
      unfold recordOf
      rw [find?_addEndPoint, if_pos hq]
      rfl
    rw [hitem, filed_record hm, hfiling, hq]
    simp only [true_and]
    split_ifs with hk
    · rw [hk.1, hk.2]
    · rfl
  · rw [if_neg fun h => hq h.2.1]
    unfold recordOf
    rw [find?_addEndPoint, if_neg hq]

theorem recordOf_removeEndPoint (hm : m.Recorded view) (p e' : Guid) (k : EndPointKind)
    (q e : Guid) :
    (d.removeEndPoint m p e').1.recordOf k q e =
      if k = m.kind ∧ q = p ∧ e = e' then none else d.recordOf k q e := by
  unfold recordOf
  rw [find?_removeEndPoint]
  by_cases hq : q = p
  · rw [if_pos hq, hq]
    simp only [true_and]
    cases d.items.find? p with
    | none => simp
    | some it => exact unfiled_record hm e' it k e
  · rw [if_neg hq, if_neg fun h => hq h.2.1]

end EndPoints

end ParticipantDiscoveryDatabase

/-! ## One call -/

/-- The ledger the database of a spokesman keeps, if there is one. -/
def ledgerOf (d : Option ParticipantDiscoveryDatabase) : Ledger :=
  d.elim .blank ParticipantDiscoveryDatabase.ledger

theorem ledger_databaseOr (s : Guid) (name : String) (d : Option ParticipantDiscoveryDatabase) :
    (databaseOr s name d).ledger = ⟨true, (ledgerOf d).alive, (ledgerOf d).endPoint⟩ := by
  cases d <;> rfl

section Acts

variable {ε : Type} [Keyed Guid ε] {m : EndPointContainer ε} {view : ε → EndPointRecord}
  {d : ParticipantDiscoveryDatabase}

theorem ledger_addEndPoint (hm : m.Recorded view) (h : NoEmptyZombie d) (now : TimePoint)
    (s p e : Guid) (type topic : String) (tp : TimePoint) :
    (d.addEndPoint m now s p e type topic tp).ledger =
      d.ledger.file m.kind s p e (.first type topic tp) := by
  refine Ledger.ext rfl ?_ ?_
  · funext q
    exact any_isAlive_addEndPoint d m now s p e type topic tp q
  · funext k q e'
    refine (recordOf_addEndPoint hm now s p e type topic tp k q e').trans ?_
    rw [filedUnder_eq_owner h]
    rfl

theorem ledger_removeEndPoint (hm : m.Recorded view) (p e : Guid) :
    (d.removeEndPoint m p e).1.ledger = d.ledger.amend m.kind p e fun _ => none := by
  refine Ledger.ext rfl ?_ ?_
  · funext q
    exact any_isAlive_removeEndPoint d m p e q
  · funext k q e'
    exact recordOf_removeEndPoint hm p e k q e'

theorem ledger_declare {d' : ParticipantDiscoveryDatabase} {p : Guid} {alive : Bool}
    (halive : ∀ q, (d'.items.find? q).any (·.isAlive) =
      if q = p then alive else (d.items.find? q).any (·.isAlive))
    (hrecord : ∀ k q e, d'.recordOf k q e = d.recordOf k q e) :
    d'.ledger = d.ledger.declare p alive := by
  refine Ledger.ext rfl ?_ ?_
  · funext q
    exact halive q
  · funext k q e
    exact hrecord k q e

end Acts

/-- **A call is the call on the ledger.** Whatever `lower_bound`, zombies and
emplaced items it goes through, it changes the facts the ledger changes. -/
theorem ledger_act (c : Call) {d : Option ParticipantDiscoveryDatabase}
    (h : ∀ d' ∈ d, NoEmptyZombie d') : ledgerOf (c.act d) = (ledgerOf d).act c := by
  have hor := noEmptyZombie_databaseOr h
  have hmap : ∀ (f : ParticipantDiscoveryDatabase → ParticipantDiscoveryDatabase) (k : EndPointKind)
      (p e : Guid) (change : Option EndPointRecord → Option EndPointRecord),
      change none = none → (∀ d, (f d).ledger = d.ledger.amend k p e change) →
      ledgerOf (d.map f) = (ledgerOf d).amend k p e change := by
    intro f k p e change hnone hf
    cases d with
    | some d => exact hf d
    | none =>
      refine Ledger.ext rfl rfl ?_
      funext k' p' e'
      show none = if _ then change none else none
      rw [hnone]
      split_ifs <;> rfl
  obtain ⟨now, op⟩ := c
  cases op with
  | addParticipant s src p name tp server =>
    refine (ledger_declare (any_isAlive_addParticipant _ now p name tp server)
      (recordOf_addParticipant now p name tp server)).trans ?_
    rw [ledger_databaseOr]
    rfl
  | removeSpokesman s => rfl
  | removeParticipant s p =>
    refine (ledger_declare (any_isAlive_removeParticipant _ p)
      (recordOf_removeParticipant p)).trans ?_
    rw [ledger_databaseOr]
    rfl
  | addDataReader s src p e type topic tp =>
    refine (ledger_addEndPoint recorded_getDataReaders (hor s src) now s p e type topic tp).trans ?_
    rw [ledger_databaseOr]
    rfl
  | addDataWriter s src p e type topic tp =>
    refine (ledger_addEndPoint recorded_getDataWriters (hor s src) now s p e type topic tp).trans ?_
    rw [ledger_databaseOr]
    rfl
  | removeDataReader s p e =>
    exact hmap _ _ p e _ rfl fun d => ledger_removeEndPoint recorded_getDataReaders p e
  | removeDataWriter s p e =>
    exact hmap _ _ p e _ rfl fun d => ledger_removeEndPoint recorded_getDataWriters p e
  | updateSubLiveliness r a n =>
    refine hmap _ _ r.participant r _ rfl fun d => Ledger.ext rfl ?_ ?_
    · funext q
      exact any_isAlive_updateSubLiveliness d r a n q
    · funext k q e
      exact recordOf_updateSubLiveliness r a n k q e

/-! ## Histories -/

/-- The ledger of `s` in a state of the database. -/
def DiscoveryItemDatabase.ledger (db : DiscoveryItemDatabase) (s : Guid) : Ledger :=
  ledgerOf (db.databaseOf s)

namespace DiscoveryItemDatabase

theorem ledger_step {db : DiscoveryItemDatabase} (h : ∀ s, ∀ d ∈ db.databaseOf s, NoEmptyZombie d)
    (c : Call) (s : Guid) :
    (db.step c).ledger s = if s = c.op.spokesman then (db.ledger s).act c else db.ledger s := by
  unfold ledger
  rw [databaseOf_step]
  split_ifs with hs
  · exact ledger_act c (h s)
  · rfl

end DiscoveryItemDatabase

end DiscoveryServer
