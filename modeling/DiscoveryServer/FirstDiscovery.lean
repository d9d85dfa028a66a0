import DiscoveryServer.Ownership

/-!
# First discovery and revival

`AddParticipant` fills the record of a participant in two ways: a participant it
does not know is emplaced with the name and the server flag and takes the clock
for its timestamp, a zombie gets all of them from the arguments. The two records
agree when the clock has not moved on, and then only for a participant other
than the spokesman that is above everybody known (`sameRecord_iff`): the
spokesman's own endpoints make it alive before it is announced, and the
endpoints of an unknown participant go to the next one above it.
-/

namespace DiscoveryServer

open Library ParticipantDiscoveryDatabase

/-- A call of `AddParticipant`, with the clock reading taken in it. -/
structure Announcement where
  now : TimePoint
  spokesman : Guid
  srcName : String
  ptid : Guid
  name : String
  discoveredTimestamp : TimePoint
  server : Bool
deriving DecidableEq

def Announcement.call (a : Announcement) : Call :=
  ⟨a.now, .addParticipant a.spokesman a.srcName a.ptid a.name a.discoveredTimestamp a.server⟩

/-- The call reports an endpoint of `p` to `s`. -/
def Call.ReportsFor (s p : Guid) (c : Call) : Prop := ∃ e, c.op.report = some (s, p, e)

/-- What an endpoint report does to the item the endpoint goes to. -/
def Call.files (c : Call) (it : ParticipantDiscoveryItem) : ParticipantDiscoveryItem :=
  match c.op with
  | .addDataReader _ _ _ e type topic tp => filed getDataReaders e type topic tp it
  | .addDataWriter _ _ _ e type topic tp => filed getDataWriters e type topic tp it
  | _ => it

/-- A zombie that `AddParticipant` announces. -/
def ParticipantDiscoveryItem.revived (it : ParticipantDiscoveryItem) (a : Announcement) :
    ParticipantDiscoveryItem :=
  { it with
    participantName := a.name
    isAlive := true
    isServer := a.server
    discoveredTimestamp := a.discoveredTimestamp }

/-- `acknowledge(true)`. -/
def ParticipantDiscoveryItem.acknowledged (it : ParticipantDiscoveryItem) :
    ParticipantDiscoveryItem :=
  { it with isAlive := true }

namespace DiscoveryItemDatabase

/-- The item of `p` in the database of `s`. -/
def itemOf (s p : Guid) (db : DiscoveryItemDatabase) : Option ParticipantDiscoveryItem :=
  (db.databaseOf s).bind fun d => d.items.find? p

/-- The participant is absent from the database of the spokesman, or a zombie in it. -/
def Unacknowledged (db : DiscoveryItemDatabase) (a : Announcement) : Prop :=
  ∀ it, db.itemOf a.spokesman a.ptid = some it → it.isAlive = false

/-- After the announcement the item is alive, has the facts announced, and the
endpoints it had before, if any. -/
def RecordsFacts (db : DiscoveryItemDatabase) (a : Announcement) : Prop :=
  ∃ it, (db.step a.call).itemOf a.spokesman a.ptid = some it ∧
    it.isAlive = true ∧ it.participantName = a.name ∧ it.isServer = a.server ∧
    it.discoveredTimestamp = a.discoveredTimestamp ∧
    it.datawriters = ((db.itemOf a.spokesman a.ptid).map (·.datawriters)).getD ∅ ∧
    it.datareaders = ((db.itemOf a.spokesman a.ptid).map (·.datareaders)).getD ∅

/-- Announced before or after any of its endpoints, the participant has one record. -/
def OrderIndependent (db : DiscoveryItemDatabase) (a : Announcement) : Prop :=
  ∀ reports : List Call, (∀ c ∈ reports, c.ReportsFor a.spokesman a.ptid) →
    (run step db (a.call :: reports)).itemOf a.spokesman a.ptid =
      (run step db (reports ++ [a.call])).itemOf a.spokesman a.ptid

/-- First discovery and revival record the same facts. -/
def SameRecord (db : DiscoveryItemDatabase) (a : Announcement) : Prop :=
  db.Unacknowledged a → db.RecordsFacts a ∧ db.OrderIndependent a

/-- When they do. -/
def SameRecordCondition (db : DiscoveryItemDatabase) (a : Announcement) : Prop :=
  match db.itemOf a.spokesman a.ptid with
  | none =>
    a.ptid ≠ a.spokesman ∧ (∀ q, db.knows a.spokesman q → q < a.ptid) ∧
      a.now = a.discoveredTimestamp
  | some it =>
    it.isAlive = true ∨ a.ptid ≠ a.spokesman ∨
      (it.participantName = a.name ∧ it.isServer = a.server ∧
        it.discoveredTimestamp = a.discoveredTimestamp)

end DiscoveryItemDatabase

/-! ## Filing an endpoint and reviving its participant -/

section Items

variable (c : Call) (it : ParticipantDiscoveryItem)

/-- Filing an endpoint changes none of the announced facts. -/
theorem files_facts :
    (c.files it).isAlive = it.isAlive ∧ (c.files it).participantName = it.participantName ∧
      (c.files it).isServer = it.isServer ∧
      (c.files it).discoveredTimestamp = it.discoveredTimestamp := by
  obtain ⟨now, op⟩ := c
  cases op with
  | addDataReader _ _ _ e =>
    simp only [Call.files, filed, getDataReaders]
    cases it.datareaders.find? e <;> exact ⟨rfl, rfl, rfl, rfl⟩
  | addDataWriter _ _ _ e =>
    simp only [Call.files, filed, getDataWriters]
    cases it.datawriters.find? e <;> exact ⟨rfl, rfl, rfl, rfl⟩
  | addParticipant => exact ⟨rfl, rfl, rfl, rfl⟩
  | removeSpokesman => exact ⟨rfl, rfl, rfl, rfl⟩
  | removeParticipant => exact ⟨rfl, rfl, rfl, rfl⟩
  | removeDataReader => exact ⟨rfl, rfl, rfl, rfl⟩
  | removeDataWriter => exact ⟨rfl, rfl, rfl, rfl⟩
  | updateSubLiveliness => exact ⟨rfl, rfl, rfl, rfl⟩

/-- An endpoint is filed in a revived zombie as in the zombie. -/
theorem files_revived (a : Announcement) : c.files (it.revived a) = (c.files it).revived a := by
  obtain ⟨now, op⟩ := c
  cases op with
  | addDataReader _ _ _ e =>
    simp only [Call.files, filed, getDataReaders, ParticipantDiscoveryItem.revived]
    cases it.datareaders.find? e <;> rfl
  | addDataWriter _ _ _ e =>
    simp only [Call.files, filed, getDataWriters, ParticipantDiscoveryItem.revived]
    cases it.datawriters.find? e <;> rfl
  | addParticipant => rfl
  | removeSpokesman => rfl
  | removeParticipant => rfl
  | removeDataReader => rfl
  | removeDataWriter => rfl
  | updateSubLiveliness => rfl

theorem foldl_files_isAlive (reports : List Call) :
    (reports.foldl (fun it c => c.files it) it).isAlive = it.isAlive := by
  induction reports generalizing it with
  | nil => rfl
  | cons c reports ih => exact (ih (c.files it)).trans (files_facts c it).1

theorem foldl_files_revived (a : Announcement) (reports : List Call) :
    reports.foldl (fun it c => c.files it) (it.revived a) =
      (reports.foldl (fun it c => c.files it) it).revived a := by
  induction reports generalizing it with
  | nil => rfl
  | cons c reports ih =>
    rw [List.foldl_cons, List.foldl_cons, files_revived, ih]

theorem announced_of_dead {a : Announcement} (h : it.isAlive = false) :
    announced a.now a.ptid a.name a.discoveredTimestamp a.server (some it) = it.revived a := by
  simp only [announced, h, Bool.false_eq_true, if_false]
  rfl

theorem announced_of_alive {a : Announcement} (h : it.isAlive = true) :
    announced a.now a.ptid a.name a.discoveredTimestamp a.server (some it) = it := by
  simp only [announced, h, if_true]

end Items

/-! ## The item after an announcement and after endpoint reports -/

namespace DiscoveryItemDatabase

variable {db : DiscoveryItemDatabase} {s p : Guid}

theorem itemOf_databaseOr (name : String) (q : Guid) :
    (databaseOr s name (db.databaseOf s)).items.find? q = db.itemOf s q := by
  unfold itemOf
  cases db.databaseOf s <;> rfl

theorem knows_iff {q : Guid} : db.knows s q ↔ (db.itemOf s q).isSome := by
  unfold knows itemOf
  cases db.databaseOf s with
  | none => simp
  | some d => simp [OrdSet.mem_keys]

theorem itemOf_step (db : DiscoveryItemDatabase) (c : Call) (p : Guid) :
    (db.step c).itemOf c.op.spokesman p =
      (c.act (db.databaseOf c.op.spokesman)).bind fun d => d.items.find? p := by
  rw [itemOf, databaseOf_step, if_pos rfl]

theorem itemOf_announce (db : DiscoveryItemDatabase) (a : Announcement) :
    (db.step a.call).itemOf a.spokesman a.ptid =
      some (announced a.now a.ptid a.name a.discoveredTimestamp a.server
        (db.itemOf a.spokesman a.ptid)) := by
  refine (itemOf_step db a.call a.ptid).trans ?_
  show ((databaseOr a.spokesman a.srcName (db.databaseOf a.spokesman)).addParticipant
    a.now a.ptid a.name a.discoveredTimestamp a.server).items.find? a.ptid = _
  rw [find?_addParticipant, if_pos rfl, itemOf_databaseOr]

/-- The endpoint goes into the filing item of the spokesman's database. -/
theorem itemOf_report (db : DiscoveryItemDatabase) {c : Call} (hc : c.ReportsFor s p) :
    ∃ d : ParticipantDiscoveryDatabase, (∀ q, d.items.find? q = db.itemOf s q) ∧
      (db.step c).itemOf s p =
        if p = d.filedUnder s p then some (c.files (d.filingItem c.now s p))
        else db.itemOf s p := by
  obtain ⟨now, op⟩ := c
  obtain ⟨e, he⟩ := hc
  cases op with
  | addDataReader s' src p' e' type topic tp =>
    cases he
    refine ⟨databaseOr s src (db.databaseOf s), itemOf_databaseOr src, ?_⟩
    refine (itemOf_step db ⟨now, .addDataReader s src p e type topic tp⟩ p).trans ?_
    show ((databaseOr s src (db.databaseOf s)).addEndPoint _ _ _ _ _ _ _ _).items.find? p = _
    rw [find?_addEndPoint, itemOf_databaseOr]
    rfl
  | addDataWriter s' src p' e' type topic tp =>
    cases he
    refine ⟨databaseOr s src (db.databaseOf s), itemOf_databaseOr src, ?_⟩
    refine (itemOf_step db ⟨now, .addDataWriter s src p e type topic tp⟩ p).trans ?_
    show ((databaseOr s src (db.databaseOf s)).addEndPoint _ _ _ _ _ _ _ _).items.find? p = _
    rw [find?_addEndPoint, itemOf_databaseOr]
    rfl
  | addParticipant => cases he
  | removeSpokesman => cases he
  | removeParticipant => cases he
  | removeDataReader => cases he
  | removeDataWriter => cases he
  | updateSubLiveliness => cases he

/-- A known participant other than the spokesman gets its endpoint. -/
theorem itemOf_report_of_some {c : Call} (hc : c.ReportsFor s p) (hs : p ≠ s)
    {it : ParticipantDiscoveryItem} (hit : db.itemOf s p = some it) :
    (db.step c).itemOf s p = some (c.files it) := by
  obtain ⟨d, hd, hstep⟩ := itemOf_report db hc
  have hfind : d.items.find? p = some it := (hd p).trans hit
  have hlower : d.items.lowerBound p = some it := OrdSet.lowerBound_of_find? hfind
  have hunder : d.filedUnder s p = p := by
    unfold filedUnder
    simp only [hlower, if_neg hs]
    exact OrdSet.find?_key hfind
  have hfiling : d.filingItem c.now s p = it := by
    unfold filingItem
    simp only [hlower, if_neg hs]
  rw [hstep, hunder, if_pos rfl, hfiling]

/-- The spokesman gets its endpoint and is alive from then on. -/
theorem itemOf_report_self (db : DiscoveryItemDatabase) {c : Call} (hc : c.ReportsFor s p)
    (hs : p = s) :
    (db.step c).itemOf s p =
      some (c.files ((db.itemOf s p).getD (defaultItem c.now p)).acknowledged) := by
  subst hs
  obtain ⟨d, hd, hstep⟩ := itemOf_report db hc
  have hunder := d.filedUnder_self p
  rw [hstep, hunder, if_pos rfl, ← hd]
  rcases d.filingItem_cases c.now p p with ⟨it, hit, ⟨_, hs⟩ | ⟨hfiling, _⟩⟩ | ⟨hnone, _, hfiling⟩
  · exact absurd rfl hs
  · rw [hunder] at hit
    rw [hfiling, hit, Option.getD_some]
    rfl
  · rw [hunder] at hnone
    rw [hfiling, hnone, Option.getD_none, decide_eq_true rfl]
    rfl

/-- An unknown participant above everybody known becomes a zombie with its endpoint. -/
theorem itemOf_report_of_none {c : Call} (hc : c.ReportsFor s p) (hs : p ≠ s)
    (hnone : db.itemOf s p = none) (habove : ∀ q, db.knows s q → q < p) :
    (db.step c).itemOf s p = some (c.files { defaultItem c.now p with isAlive := false }) := by
  obtain ⟨d, hd, hstep⟩ := itemOf_report db hc
  have hunder : d.filedUnder s p = p := by
    refine filedUnder_eq_self (.inr (.inr fun q hq => habove q ?_))
    rw [knows_iff, ← hd]
    exact OrdSet.mem_keys.mp hq
  rw [hstep, hunder, if_pos rfl]
  rcases d.filingItem_cases c.now s p with ⟨it, hit, _⟩ | ⟨_, _, hfiling⟩
  · rw [hunder, hd, hnone] at hit
    cases hit
  · rw [hfiling, decide_eq_false hs]

/-- An unknown participant below a known one does not get its endpoint. -/
theorem itemOf_report_of_above {c : Call} (hc : c.ReportsFor s p) (hs : p ≠ s)
    (hnone : db.itemOf s p = none) {q : Guid} (hq : db.knows s q) (habove : ¬ q < p) :
    (db.step c).itemOf s p = none := by
  obtain ⟨d, hd, hstep⟩ := itemOf_report db hc
  have habsent : p ∉ d.items.keys := by
    rw [OrdSet.mem_keys, hd, hnone]
    exact Bool.false_ne_true
  have hknown : q ∈ d.items.keys := by
    rw [OrdSet.mem_keys, hd]
    exact knows_iff.mp hq
  have hlt := (filedUnder_above hs habsent ⟨q, hknown, habove⟩).2.1
  rw [hstep, if_neg hlt.ne, hnone]

/-- Any number of endpoints, filed with a participant that is known and alive
when it is the spokesman. -/
theorem itemOf_run_reports {it : ParticipantDiscoveryItem} (hit : db.itemOf s p = some it)
    (hself : p = s → it.isAlive = true) {reports : List Call}
    (hreports : ∀ c ∈ reports, c.ReportsFor s p) :
    (run step db reports).itemOf s p =
      some (reports.foldl (fun it c => c.files it) it) := by
  induction reports generalizing db it with
  | nil => exact hit
  | cons c reports ih =>
    have hc : c.ReportsFor s p := hreports c List.mem_cons_self
    have hstep : (db.step c).itemOf s p = some (c.files it) := by
      by_cases hs : p = s
      · have halive : it.acknowledged = it := by
          rw [ParticipantDiscoveryItem.acknowledged, ← hself hs]
        rw [itemOf_report_self db hc hs, hit, Option.getD_some, halive]
      · exact itemOf_report_of_some hc hs hit
    refine ih hstep ?_ fun d hd => hreports d (List.mem_cons_of_mem c hd)
    intro hs
    rw [(files_facts c it).1, hself hs]

/-! ## When the two records agree -/

variable {a : Announcement}

theorem recordsFacts_of_zombie {it : ParticipantDiscoveryItem}
    (hit : db.itemOf a.spokesman a.ptid = some it) (hdead : it.isAlive = false) :
    db.RecordsFacts a := by
  have hafter := db.itemOf_announce a
  rw [hit, announced_of_dead it hdead] at hafter
  refine ⟨it.revived a, hafter, rfl, rfl, rfl, rfl, ?_, ?_⟩ <;> rw [hit] <;> rfl

theorem recordsFacts_of_absent (hnone : db.itemOf a.spokesman a.ptid = none) :
    db.RecordsFacts a ↔ a.now = a.discoveredTimestamp := by
  have hafter := db.itemOf_announce a
  rw [hnone] at hafter
  constructor
  · rintro ⟨it, hit, _, _, _, hstamp, _⟩
    rw [hafter] at hit
    cases hit
    exact hstamp
  · intro hnow
    refine ⟨_, hafter, rfl, rfl, rfl, hnow, ?_, ?_⟩ <;> rw [hnone] <;> rfl

/-- Announcing a zombie commutes with filing endpoints in it. -/
theorem orders_agree {z : ParticipantDiscoveryItem} (hs : a.ptid ≠ a.spokesman)
    (hdead : z.isAlive = false)
    (hafter : (db.step a.call).itemOf a.spokesman a.ptid = some (z.revived a))
    {reports : List Call} (hreports : ∀ c ∈ reports, c.ReportsFor a.spokesman a.ptid)
    (hbefore : (run step db reports).itemOf a.spokesman a.ptid =
      some (reports.foldl (fun it c => c.files it) z)) :
    (run step db (a.call :: reports)).itemOf a.spokesman a.ptid =
      (run step db (reports ++ [a.call])).itemOf a.spokesman a.ptid := by
  have hfirst := itemOf_run_reports hafter (fun h => absurd h hs) hreports
  have hlast := (run step db reports).itemOf_announce a
  rw [hbefore, announced_of_dead _ ((foldl_files_isAlive z reports).trans hdead)] at hlast
  rw [run_cons, hfirst, run_snoc, hlast, foldl_files_revived]

theorem orderIndependent_of_zombie {it : ParticipantDiscoveryItem}
    (hit : db.itemOf a.spokesman a.ptid = some it) (hdead : it.isAlive = false)
    (hs : a.ptid ≠ a.spokesman) : db.OrderIndependent a := by
  intro reports hreports
  have hafter := db.itemOf_announce a
  rw [hit, announced_of_dead it hdead] at hafter
  exact orders_agree hs hdead hafter hreports
    (itemOf_run_reports hit (fun h => absurd h hs) hreports)

theorem orderIndependent_of_absent (hnone : db.itemOf a.spokesman a.ptid = none)
    (hs : a.ptid ≠ a.spokesman) (habove : ∀ q, db.knows a.spokesman q → q < a.ptid)
    (hnow : a.now = a.discoveredTimestamp) : db.OrderIndependent a := by
  intro reports hreports
  cases reports with
  | nil => rfl
  | cons c reports =>
    have hc : c.ReportsFor a.spokesman a.ptid := hreports c List.mem_cons_self
    have hrest := fun d hd => hreports d (List.mem_cons_of_mem c hd)
    -- the zombie the first endpoint would leave, announced, is the first discovery
    have hafter := db.itemOf_announce a
    have hrevived : announced a.now a.ptid a.name a.discoveredTimestamp a.server none =
        ({ defaultItem c.now a.ptid with isAlive := false } :
          ParticipantDiscoveryItem).revived a := by
      simp only [announced, defaultItem, ParticipantDiscoveryItem.revived, hnow]
    rw [hnone, hrevived] at hafter
    have hreport := itemOf_report_of_none hc hs hnone habove
    exact orders_agree hs rfl hafter hreports
      (itemOf_run_reports hreport (fun h => absurd h hs) hrest)

/-- Announcing a participant that is alive changes nothing. -/
theorem itemOf_announce_of_alive {it : ParticipantDiscoveryItem}
    (hit : db.itemOf a.spokesman a.ptid = some it) (halive : it.isAlive = true) :
    (db.step a.call).itemOf a.spokesman a.ptid = some it := by
  rw [itemOf_announce, hit, announced_of_alive it halive]

/-- The spokesman's own endpoints make it alive, with the facts of the item they
find or the default ones; an announcement after them changes nothing. -/
theorem itemOf_reports_announce_self (db : DiscoveryItemDatabase) (hs : a.ptid = a.spokesman)
    {c : Call} {reports : List Call}
    (hreports : ∀ d ∈ c :: reports, d.ReportsFor a.spokesman a.ptid) :
    (run step db ((c :: reports) ++ [a.call])).itemOf a.spokesman a.ptid =
      some ((c :: reports).foldl (fun it c => c.files it)
        ((db.itemOf a.spokesman a.ptid).getD (defaultItem c.now a.ptid)).acknowledged) := by
  have hc : c.ReportsFor a.spokesman a.ptid := hreports c List.mem_cons_self
  have hrest := fun d hd => hreports d (List.mem_cons_of_mem c hd)
  have hfirst := itemOf_report_self db hc hs
  have halive := fun it => (files_facts c (ParticipantDiscoveryItem.acknowledged it)).1
  have hbefore := itemOf_run_reports hfirst (fun _ => halive _) hrest
  rw [run_snoc]
  exact itemOf_announce_of_alive hbefore ((foldl_files_isAlive _ reports).trans (halive _))

theorem orderIndependent_of_self {it : ParticipantDiscoveryItem}
    (hit : db.itemOf a.spokesman a.ptid = some it) (hdead : it.isAlive = false)
    (hs : a.ptid = a.spokesman) (hname : it.participantName = a.name)
    (hserver : it.isServer = a.server)
    (hstamp : it.discoveredTimestamp = a.discoveredTimestamp) : db.OrderIndependent a := by
  intro reports hreports
  cases reports with
  | nil => rfl
  | cons c reports =>
    have hafter := db.itemOf_announce a
    have hsame : it.revived a = it.acknowledged := by
      simp only [ParticipantDiscoveryItem.revived, ParticipantDiscoveryItem.acknowledged,
        ← hname, ← hserver, ← hstamp]
    rw [hit, announced_of_dead it hdead, hsame] at hafter
    rw [itemOf_reports_announce_self db hs hreports, hit, Option.getD_some, run_cons]
    exact itemOf_run_reports hafter (fun _ => rfl) hreports

/-- A report of a reader of the participant, at a given time. -/
def readerReport (a : Announcement) (now : TimePoint) : Call :=
  ⟨now, .addDataReader a.spokesman a.srcName a.ptid a.ptid "" "" now⟩

theorem readerReport_reportsFor (a : Announcement) (now : TimePoint) :
    (readerReport a now).ReportsFor a.spokesman a.ptid := ⟨a.ptid, rfl⟩

theorem OrderIndependent.one (h : db.OrderIndependent a) (now : TimePoint) :
    (run step db [a.call, readerReport a now]).itemOf a.spokesman a.ptid =
      (run step db [readerReport a now, a.call]).itemOf a.spokesman a.ptid := by
  refine h [readerReport a now] fun c hc => ?_
  cases List.mem_singleton.mp hc
  exact readerReport_reportsFor a now

/-- The two orders for an endpoint of the spokesman itself: the item of either
has the facts of the item the endpoint found. -/
theorem facts_of_self (h : db.OrderIndependent a) (hs : a.ptid = a.spokesman)
    (now : TimePoint) :
    let before := (db.itemOf a.spokesman a.ptid).getD (defaultItem now a.ptid)
    let after := announced a.now a.ptid a.name a.discoveredTimestamp a.server
      (db.itemOf a.spokesman a.ptid)
    after.participantName = before.participantName ∧ after.isServer = before.isServer ∧
      after.discoveredTimestamp = before.discoveredTimestamp := by
  intro before after
  let c := readerReport a now
  have hc : c.ReportsFor a.spokesman a.ptid := readerReport_reportsFor a now
  have hreports : ∀ d ∈ [c], d.ReportsFor a.spokesman a.ptid := by
    intro d hd
    rw [List.mem_singleton.mp hd]
    exact hc
  have hlast := itemOf_reports_announce_self db hs hreports
  have hfirst := itemOf_run_reports (db.itemOf_announce a) (fun _ => announced_isAlive ..) hreports
  have hone := h.one now
  have heq : c.files after = c.files before.acknowledged :=
    Option.some.inj (hfirst.symm.trans (hone.trans hlast))
  obtain ⟨_, hname, hserver, hstamp⟩ := files_facts c after
  obtain ⟨_, hname', hserver', hstamp'⟩ := files_facts c before.acknowledged
  rw [heq] at hname hserver hstamp
  exact ⟨hname.symm.trans hname', hserver.symm.trans hserver', hstamp.symm.trans hstamp'⟩

/-- The two orders for an endpoint of an unknown participant below a known one. -/
theorem not_orderIndependent_of_above (hs : a.ptid ≠ a.spokesman)
    (hnone : db.itemOf a.spokesman a.ptid = none) {q : Guid} (hq : db.knows a.spokesman q)
    (habove : ¬ q < a.ptid) : ¬ db.OrderIndependent a := by
  intro h
  let c := readerReport a a.now
  have hc : c.ReportsFor a.spokesman a.ptid := readerReport_reportsFor a a.now
  have hfirst := itemOf_report_of_some hc hs (db.itemOf_announce a)
  have hlast := (db.step c).itemOf_announce a
  rw [itemOf_report_of_above hc hs hnone hq habove] at hlast
  rw [hnone] at hfirst
  have heq := Option.some.inj (hfirst.symm.trans ((h.one a.now).trans hlast))
  have hfiled : a.ptid ∈ (c.files (announced a.now a.ptid a.name a.discoveredTimestamp a.server
      none)).endPointGuids .dataReader :=
    (mem_filed_endPointGuids getDataReaders).mpr (.inr ⟨rfl, rfl⟩)
  rw [heq] at hfiled
  exact List.not_mem_nil hfiled

/-- **First discovery and revival.** They record the same facts, in whatever
order the participant and its endpoints are announced, exactly under
`SameRecordCondition`. -/
theorem sameRecord_iff (db : DiscoveryItemDatabase) (a : Announcement) :
    db.SameRecord a ↔ db.SameRecordCondition a := by
  unfold SameRecord SameRecordCondition
  cases hitem : db.itemOf a.spokesman a.ptid with
  | none =>
    have habsent : db.Unacknowledged a := by
      intro it hit
      rw [hitem] at hit
      cases hit
    constructor
    · intro hsame
      obtain ⟨hfacts, horder⟩ := hsame habsent
      have hnow := (recordsFacts_of_absent hitem).mp hfacts
      have hs : a.ptid ≠ a.spokesman := by
        intro hs
        have hstamp := (facts_of_self horder hs (a.now + 1)).2.2
        rw [hitem] at hstamp
        have hmoved : a.now = a.now + 1 := hstamp
        exact absurd hmoved (Int.lt_succ a.now).ne
      refine ⟨hs, ?_, hnow⟩
      intro q hq
      by_contra habove
      exact not_orderIndependent_of_above hs hitem hq habove horder
    · rintro ⟨hs, habove, hnow⟩ _
      exact ⟨(recordsFacts_of_absent hitem).mpr hnow,
        orderIndependent_of_absent hitem hs habove hnow⟩
  | some it =>
    constructor
    · intro hsame
      cases halive : it.isAlive with
      | true => exact .inl halive
      | false =>
        have hzombie : db.Unacknowledged a := by
          intro it' hit'
          rw [hitem] at hit'
          cases hit'
          exact halive
        by_cases hs : a.ptid = a.spokesman
        · have hfacts := facts_of_self (hsame hzombie).2 hs a.now
          rw [hitem, announced_of_dead it halive] at hfacts
          obtain ⟨hname, hserver, hstamp⟩ := hfacts
          exact .inr (.inr ⟨hname.symm, hserver.symm, hstamp.symm⟩)
        · exact .inr (.inl hs)
    · intro hcondition hzombie
      have hdead : it.isAlive = false := hzombie it hitem
      refine ⟨recordsFacts_of_zombie hitem hdead, ?_⟩
      rcases hcondition with halive | hs | ⟨hname, hserver, hstamp⟩
      · rw [hdead] at halive
        cases halive
      · exact orderIndependent_of_zombie hitem hdead hs
      · by_cases hs : a.ptid = a.spokesman
        · exact orderIndependent_of_self hitem hdead hs hname hserver hstamp
        · exact orderIndependent_of_zombie hitem hdead hs

/-- A server discovers a client 5 ns after the callback has read the clock: the
record of the client has the later time. -/
theorem first_discovery_differs :
    let server := Guid.ofPrefix 1
    let client := Guid.ofPrefix 2
    let db := init 0 0 0
    let a : Announcement := ⟨105, server, "server", client, "client", 100, false⟩
    db.Unacknowledged a ∧ ((db.step a.call).itemOf server client).map (·.discoveredTimestamp) =
      some 105 ∧ ¬ db.SameRecord a := by
  intro server client db a
  have habsent : db.itemOf server client = none := rfl
  have hunacknowledged : db.Unacknowledged a := by
    intro it hit
    cases habsent.symm.trans hit
  refine ⟨hunacknowledged, by decide, ?_⟩
  intro hsame
  have hnow : (105 : Int) = 100 :=
    (recordsFacts_of_absent (a := a) habsent).mp (hsame hunacknowledged).1
  exact absurd hnow (by decide)

end DiscoveryItemDatabase

end DiscoveryServer
