import DiscoveryServer.Ledger

/-!
# Ledgers over histories

The image at the end of a history is the ledgers of the spokesmen, each kept by
the calls of its own spokesman (`image_is_ledgers`).

In a ledger the endpoints are independent of each other and of the participants,
so each is a small machine of its own: the first report since the last removal
says what is kept, and each liveliness callback sets the counters of what is
kept (`fate`). `endPoint_bookkeeping` is the closed form: an endpoint whose
reports are all filed at home is what the calls about it say, whatever else the
history contains.
-/

namespace DiscoveryServer

open Library ParticipantDiscoveryDatabase

section Runs

variable (t now now' : TimePoint)

/-- Along a history the ledger of a spokesman is kept by its own calls. -/
theorem DiscoveryItemDatabase.ledger_run (h : List Call) (s : Guid) :
    (run DiscoveryItemDatabase.step (.init t now now') h).ledger s =
      (spokesmen.inputsOf s h).foldl Ledger.act .blank := by
  have hlast : ∀ h c, spokesmen.inputsOf s (h ++ [c]) =
      spokesmen.inputsOf s h ++ if s = c.op.spokesman then [c] else [] := by
    intro h c
    unfold Components.inputsOf
    rw [List.filter_append, List.filter_singleton]
    show _ ++ (bif decide (s = c.op.spokesman) then [c] else []) = _
    by_cases hs : s = c.op.spokesman <;> simp [hs]
  refine run_induction DiscoveryItemDatabase.step (.init t now now')
    (P := fun h db => db.ledger s = (spokesmen.inputsOf s h).foldl Ledger.act .blank) rfl ?_ h
  intro h c ih
  rw [ledger_step (fun s => noEmptyZombie_run t now now' s h), hlast, List.foldl_append, ← ih]
  split_ifs <;> rfl

theorem DiscoveryItemDatabase.knows_iff_known (h : List Call) (s p : Guid) :
    (run DiscoveryItemDatabase.step (.init t now now') h).knows s p ↔
      ((run DiscoveryItemDatabase.step (.init t now now') h).ledger s).Known p := by
  have hzombie := noEmptyZombie_run t now now' s h
  unfold knows ledger
  cases hd : (run DiscoveryItemDatabase.step (.init t now now') h).databaseOf s with
  | none => simp [ledgerOf, Ledger.Known, Ledger.blank]
  | some d =>
    rw [hd] at hzombie
    simp only [Option.mem_def, Option.some.injEq, exists_eq_left']
    exact mem_keys_iff_known (hzombie d rfl) p

/-- **The image is the ledgers.** After any history a spokesman has a database
exactly if its ledger is open; the database has an item for exactly the
participants the ledger knows, alive exactly if the ledger says so; and it keeps
of each endpoint what the ledger keeps. -/
theorem image_is_ledgers (h : List Call) (s : Guid) :
    let db := run DiscoveryItemDatabase.step (.init t now now') h
    let l := (spokesmen.inputsOf s h).foldl Ledger.act .blank
    ((db.databaseOf s).isSome ↔ l.opened = true) ∧
      ∀ d ∈ db.databaseOf s, (∀ p, p ∈ d.items.keys ↔ l.Known p) ∧
        (∀ p, ∀ it ∈ d.items.find? p, it.isAlive = l.alive p) ∧
        ∀ k p e, d.recordOf k p e = l.endPoint k p e := by
  intro db l
  have hrun : db.ledger s = l := DiscoveryItemDatabase.ledger_run t now now' h s
  have hzombie : ∀ d ∈ db.databaseOf s, NoEmptyZombie d :=
    DiscoveryItemDatabase.noEmptyZombie_run t now now' s h
  rw [← hrun]
  unfold DiscoveryItemDatabase.ledger
  cases hd : db.databaseOf s with
  | none => simp [ledgerOf, Ledger.blank]
  | some d =>
    refine ⟨by simp [ledgerOf, ParticipantDiscoveryDatabase.ledger], ?_⟩
    rintro d' hd'
    cases hd'
    refine ⟨mem_keys_iff_known (hzombie d hd), fun p it hit => ?_, fun k p e => rfl⟩
    show it.isAlive = (d.items.find? p).any (·.isAlive)
    rw [Option.mem_def.mp hit]
    rfl

end Runs

/-! ## One endpoint -/

/-- What a call says about one endpoint in the database of one spokesman. -/
inductive EndPointEvent where
  | reported (record : EndPointRecord)
  | removed
  | counted (aliveCount notAliveCount : Int)
deriving DecidableEq

/-- What an operation says about the endpoint `e` of `p` in the database of `s`. -/
def Operation.endPointEvent (k : EndPointKind) (s p e : Guid) : Operation → Option EndPointEvent
  | .addParticipant .. => none
  | .removeSpokesman s' => if s = s' then some .removed else none
  | .removeParticipant .. => none
  | .addDataReader s' _ p' e' type topic tp =>
    if s = s' ∧ k = .dataReader ∧ p = p' ∧ e = e' then some (.reported (.first type topic tp))
    else none
  | .addDataWriter s' _ p' e' type topic tp =>
    if s = s' ∧ k = .dataWriter ∧ p = p' ∧ e = e' then some (.reported (.first type topic tp))
    else none
  | .removeDataReader s' p' e' =>
    if s = s' ∧ k = .dataReader ∧ p = p' ∧ e = e' then some .removed else none
  | .removeDataWriter s' p' e' =>
    if s = s' ∧ k = .dataWriter ∧ p = p' ∧ e = e' then some .removed else none
  | .updateSubLiveliness r a n =>
    if s = r.participant ∧ k = .dataReader ∧ p = r.participant ∧ e = r then some (.counted a n)
    else none

/-- What the history says about the endpoint, call by call. -/
def endPointEvents (k : EndPointKind) (s p e : Guid) (h : List Call) : List EndPointEvent :=
  h.filterMap (·.op.endPointEvent k s p e)

/-- What is kept of an endpoint after one more event. -/
def fate (known : Option EndPointRecord) : EndPointEvent → Option EndPointRecord
  | .reported r => some (known.getD r)
  | .removed => none
  | .counted a n => known.map fun r => r.counted a n

/-- Liveliness aside: whether the endpoint is there after an event. -/
def EndPointEvent.presence : EndPointEvent → Option Bool
  | .reported _ => some true
  | .removed => some false
  | .counted .. => none

/-- An endpoint is kept exactly if its last report comes after its last removal. -/
theorem isSome_foldl_fate (events : List EndPointEvent) :
    (events.foldl fate none).isSome ↔
      (events.filterMap EndPointEvent.presence).getLast? = some true := by
  induction events using List.reverseRecOn with
  | nil => simp
  | append_singleton events x ih =>
    rw [List.foldl_append, List.filterMap_append]
    cases x with
    | reported r => simp [fate, EndPointEvent.presence]
    | removed => simp [fate, EndPointEvent.presence]
    | counted a n =>
      show ((events.foldl fate none).map fun r => r.counted a n).isSome ↔ _
      rw [Option.isSome_map, ih]
      simp [EndPointEvent.presence]

/-- The counters a liveliness callback reports. -/
def EndPointEvent.counters : EndPointEvent → Option (Int × Int)
  | .reported _ => none
  | .removed => none
  | .counted a n => some (a, n)

/-- What is kept while nothing removes it: the first report, with the counters
of the last callback. -/
theorem foldl_fate_of_kept (r : EndPointRecord) {events : List EndPointEvent}
    (h : .removed ∉ events) :
    let c := (events.filterMap EndPointEvent.counters).getLast?.getD (r.aliveCount, r.notAliveCount)
    events.foldl fate (some r) = some (r.counted c.1 c.2) := by
  induction events using List.reverseRecOn with
  | nil => rfl
  | append_singleton events x ih =>
    have hinit : EndPointEvent.removed ∉ events := fun hx => h (List.mem_append_left _ hx)
    intro c
    rw [List.foldl_append, ih hinit]
    cases x with
    | reported r' => simp [fate, c, EndPointEvent.counters]
    | removed => exact absurd (List.mem_append_right events List.mem_cons_self) h
    | counted a n => simp [fate, c, EndPointEvent.counters, EndPointRecord.counted]

/-- A call changes an endpoint as its event says, if the reports of the endpoint
are filed with their participant. -/
theorem Ledger.endPoint_act {l : Ledger} {c : Call} {e : Guid}
    (home : ∀ p, c.op.report = some (c.op.spokesman, p, e) → l.owner c.op.spokesman p = p)
    (k : EndPointKind) (p : Guid) :
    (l.act c).endPoint k p e =
      (c.op.endPointEvent k c.op.spokesman p e).elim (l.endPoint k p e)
        (fate (l.endPoint k p e)) := by
  -- an amendment of the endpoint `e'` of `p'`
  have hamend : ∀ (x : EndPointEvent) (change : Option EndPointRecord → Option EndPointRecord)
      {k' : EndPointKind} {p' e' : Guid}, (∀ known, fate known x = change known) →
      (if k = k' ∧ p = p' ∧ e = e' then change (l.endPoint k' p' e') else l.endPoint k p e) =
        (if k = k' ∧ p = p' ∧ e = e' then some x else none).elim (l.endPoint k p e)
          (fate (l.endPoint k p e)) := by
    intro x change k' p' e' hx
    split_ifs with heq
    · rw [heq.1, heq.2.1, heq.2.2]
      exact (hx _).symm
    · rfl
  -- a report, filed where it belongs
  have hfile : ∀ {k' : EndPointKind} {s p' e' : Guid} {r : EndPointRecord},
      (e = e' → l.owner s p' = p') →
      ((l.file k' s p' e' r).endPoint k p e) =
        (if k = k' ∧ p = p' ∧ e = e' then some (.reported r) else none).elim (l.endPoint k p e)
          (fate (l.endPoint k p e)) := by
    intro k' s p' e' r howner
    rw [← hamend (.reported r) (fun known => some (known.getD r)) fun known => rfl]
    show (if k = k' ∧ p = l.owner s p' ∧ e = e' then
      some ((l.endPoint k' (l.owner s p') e').getD r) else l.endPoint k p e) = _
    by_cases he : e = e'
    · rw [howner he]
    · rw [if_neg fun h => he h.2.2, if_neg fun h => he h.2.2]
  obtain ⟨now, op⟩ := c
  cases op with
  | addParticipant s src p' name tp server => rfl
  | removeSpokesman s => simp [Operation.endPointEvent, Operation.spokesman, act, blank, fate]
  | removeParticipant s p' => rfl
  | addDataReader s src p' e' type topic tp =>
    simp only [Operation.endPointEvent, Operation.spokesman, true_and]
    exact hfile fun he => home p' (by rw [he]; rfl)
  | addDataWriter s src p' e' type topic tp =>
    simp only [Operation.endPointEvent, Operation.spokesman, true_and]
    exact hfile fun he => home p' (by rw [he]; rfl)
  | removeDataReader s p' e' =>
    simp only [Operation.endPointEvent, Operation.spokesman, true_and]
    exact hamend .removed (fun _ => none) fun known => rfl
  | removeDataWriter s p' e' =>
    simp only [Operation.endPointEvent, Operation.spokesman, true_and]
    exact hamend .removed (fun _ => none) fun known => rfl
  | updateSubLiveliness r a n =>
    simp only [Operation.endPointEvent, Operation.spokesman, true_and]
    exact hamend (.counted a n) (Option.map fun known => known.counted a n) fun known => rfl

theorem Operation.endPointEvent_of_ne {op : Operation} {s : Guid} (hs : s ≠ op.spokesman)
    (k : EndPointKind) (p e : Guid) : op.endPointEvent k s p e = none := by
  cases op with
  | addParticipant => rfl
  | removeSpokesman => exact if_neg hs
  | removeParticipant => rfl
  | addDataReader => exact if_neg fun h => hs h.1
  | addDataWriter => exact if_neg fun h => hs h.1
  | removeDataReader => exact if_neg fun h => hs h.1
  | removeDataWriter => exact if_neg fun h => hs h.1
  | updateSubLiveliness => exact if_neg fun h => hs h.1

/-- The reports of the endpoint `e` to `s` are filed with the participant they
name: it is the spokesman, known, or above everybody known. -/
def FiledAtHome (t now now' : TimePoint) (s e : Guid) (h : List Call) : Prop :=
  ∀ h' c, h' ++ [c] <+: h → ∀ p, c.op.report = some (s, p, e) →
    p = s ∨ (run DiscoveryItemDatabase.step (.init t now now') h').knows s p ∨
      ∀ q, (run DiscoveryItemDatabase.step (.init t now now') h').knows s q → q < p

/-- What the database of `s` keeps of the endpoint `e` of `p`. -/
def DiscoveryItemDatabase.recordOf (db : DiscoveryItemDatabase) (k : EndPointKind)
    (s p e : Guid) : Option EndPointRecord :=
  (db.databaseOf s).bind fun d => d.recordOf k p e

theorem DiscoveryItemDatabase.recordOf_eq (db : DiscoveryItemDatabase) (k : EndPointKind)
    (s p e : Guid) : db.recordOf k s p e = (db.ledger s).endPoint k p e := by
  unfold recordOf ledger
  cases db.databaseOf s <;> rfl

theorem DiscoveryItemDatabase.recordOf_run {t now now' : TimePoint} {h : List Call} {s e : Guid}
    (home : FiledAtHome t now now' s e h) (k : EndPointKind) (p : Guid) :
    (run DiscoveryItemDatabase.step (.init t now now') h).recordOf k s p e =
      (endPointEvents k s p e h).foldl fate none := by
  suffices hprefix : ∀ h', h' <+: h →
      ((run DiscoveryItemDatabase.step (.init t now now') h').ledger s).endPoint k p e =
        (endPointEvents k s p e h').foldl fate none by
    rw [recordOf_eq]
    exact hprefix h List.prefix_rfl
  intro h'
  refine run_induction DiscoveryItemDatabase.step (.init t now now')
    (P := fun h' db => h' <+: h → (db.ledger s).endPoint k p e =
      (endPointEvents k s p e h').foldl fate none) (fun _ => rfl) ?_ h'
  intro h' c ih hc
  have hih := ih ((List.prefix_append h' [c]).trans hc)
  have hevents : endPointEvents k s p e (h' ++ [c]) =
      endPointEvents k s p e h' ++ (c.op.endPointEvent k s p e).toList := by
    unfold endPointEvents
    rw [List.filterMap_append]
    cases hev : c.op.endPointEvent k s p e <;> simp [hev]
  rw [ledger_step (fun s => noEmptyZombie_run t now now' s h'), hevents, List.foldl_append, ← hih]
  split_ifs with hs
  · have howner : ∀ q, c.op.report = some (c.op.spokesman, q, e) →
        ((run step (.init t now now') h').ledger s).owner c.op.spokesman q = q := by
      intro q hq
      rw [← hs] at hq ⊢
      refine Ledger.owner_eq_self ?_
      simp only [← knows_iff_known]
      exact home h' c hc q hq
    rw [Ledger.endPoint_act howner, ← hs]
    cases c.op.endPointEvent k s p e <;> rfl
  · rw [Operation.endPointEvent_of_ne hs]
    rfl

/-- **Endpoint bookkeeping is exact.** If the reports of an endpoint are filed at
home, what the database of `s` keeps of it under each participant follows from
the calls about that endpoint of that participant alone. It is there exactly if
the last report comes after the last removal; type, topic and time are those of
the first report since that removal, the counters those of the last liveliness
callback since that report. -/
theorem endPoint_bookkeeping {t now now' : TimePoint} {h : List Call} {s e : Guid}
    (home : FiledAtHome t now now' s e h) (k : EndPointKind) (p : Guid) :
    let db := run DiscoveryItemDatabase.step (.init t now now') h
    let events := endPointEvents k s p e h
    (db.stores k s p e ↔ (events.filterMap EndPointEvent.presence).getLast? = some true) ∧
      ∀ before r after, events = before ++ .reported r :: after → before.foldl fate none = none →
        .removed ∉ after →
        let c := (after.filterMap EndPointEvent.counters).getLast?.getD
          (r.aliveCount, r.notAliveCount)
        db.recordOf k s p e = some (r.counted c.1 c.2) := by
  intro db events
  have hrun : db.recordOf k s p e = events.foldl fate none :=
    DiscoveryItemDatabase.recordOf_run home k p
  refine ⟨?_, fun before r after hsplit hbefore hafter => ?_⟩
  swap
  · rw [hrun, hsplit, List.foldl_append, hbefore]
    exact foldl_fate_of_kept r hafter
  rw [← isSome_foldl_fate, ← hrun]
  unfold DiscoveryItemDatabase.stores DiscoveryItemDatabase.recordOf
    ParticipantDiscoveryDatabase.stores ParticipantDiscoveryDatabase.recordOf
  simp only [Option.isSome_iff_exists, Option.bind_eq_some_iff, Option.mem_def]
  constructor
  · rintro ⟨d, hd, it, hit, hmem⟩
    obtain ⟨r, hr⟩ := Option.isSome_iff_exists.mp ((it.record_isSome_iff k e).mpr hmem)
    exact ⟨r, d, hd, it, hit, hr⟩
  · rintro ⟨r, d, hd, it, hit, hr⟩
    exact ⟨d, hd, it, hit, (it.record_isSome_iff k e).mp (by rw [hr]; rfl)⟩

/-- The spokesman 5 reports a reader of its own and is called back about it. -/
def ownReaderHistory : List Call :=
  [⟨1, .addDataReader (.ofPrefix 5) "five" (.ofPrefix 5) ⟨5, 7⟩ "T" "topic" 2⟩,
    ⟨3, .updateSubLiveliness ⟨5, 7⟩ 3 1⟩]

theorem filedAtHome_ownReaderHistory :
    FiledAtHome 0 0 0 (.ofPrefix 5) ⟨5, 7⟩ ownReaderHistory := by
  intro h' c hc p hreport
  refine .inl ?_
  have hmem : c ∈ ownReaderHistory := hc.subset (List.mem_append_right h' List.mem_cons_self)
  simp only [ownReaderHistory, List.mem_cons, List.not_mem_nil, or_false] at hmem
  rcases hmem with rfl | rfl
  · cases hreport
    rfl
  · cases hreport

theorem endPoint_bookkeeping_sample :
    (run DiscoveryItemDatabase.step (.init 0 0 0) ownReaderHistory).recordOf .dataReader
      (.ofPrefix 5) (.ofPrefix 5) ⟨5, 7⟩ = some ⟨"T", "topic", 2, 3, 1⟩ :=
  (endPoint_bookkeeping filedAtHome_ownReaderHistory .dataReader (.ofPrefix 5)).2 []
    ⟨"T", "topic", 2, 0, 0⟩ [.counted 3 1] rfl rfl (by decide)

end DiscoveryServer
