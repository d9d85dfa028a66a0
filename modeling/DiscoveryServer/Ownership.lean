import DiscoveryServer.Spokesman

/-!
# Endpoint ownership

Which participant an endpoint ends up under, over any history of calls.

`AddEndPoint` asks `lower_bound` for the participant of the endpoint and takes
what it finds without the test `*it != ptid` that `AddParticipant` makes. The
endpoint goes under the right participant unless that participant is unknown,
is not the spokesman, and some known participant has a greater GUID; then it
goes under the least such participant (`filedUnder_eq_self`, `filedUnder_above`).

`EndpointsOwned` holds along a history exactly when no call runs into that case,
or only with an endpoint that was reported for the greater participant as well
(`endpointsOwned_iff`).
-/

namespace DiscoveryServer

open Library ParticipantDiscoveryDatabase

/-- The spokesman, the participant and the endpoint of an endpoint report. -/
def Operation.report : Operation → Option (Guid × Guid × Guid)
  | .addDataReader s _ p e _ _ _ => some (s, p, e)
  | .addDataWriter s _ p e _ _ _ => some (s, p, e)
  | .addParticipant .. => none
  | .removeSpokesman .. => none
  | .removeParticipant .. => none
  | .removeDataReader .. => none
  | .removeDataWriter .. => none
  | .updateSubLiveliness .. => none

/-- The history reports the endpoint `e` for participant `p` to spokesman `s`. -/
def Reported (h : List Call) (s p e : Guid) : Prop := ∃ c ∈ h, c.op.report = some (s, p, e)

/-- The endpoint `e` is stored under the item of `p`. -/
def ParticipantDiscoveryDatabase.stores (k : EndPointKind) (p e : Guid)
    (d : ParticipantDiscoveryDatabase) : Prop :=
  ∃ it, d.items.find? p = some it ∧ e ∈ it.endPointGuids k

namespace DiscoveryItemDatabase

/-- The endpoint `e` is stored under the item of `p` in the database of `s`. -/
def stores (db : DiscoveryItemDatabase) (k : EndPointKind) (s p e : Guid) : Prop :=
  ∃ d ∈ db.databaseOf s, d.stores k p e

/-- The database of `s` holds an item for `p`. -/
def knows (db : DiscoveryItemDatabase) (s p : Guid) : Prop :=
  ∃ d ∈ db.databaseOf s, p ∈ d.items.keys

end DiscoveryItemDatabase

/-- Every stored endpoint was reported for the participant it is stored under. -/
def EndpointsOwned (h : List Call) (db : DiscoveryItemDatabase) : Prop :=
  ∀ k s p e, db.stores k s p e → Reported h s p e

/-- The call `c` made in the state `db` after `h` does not misfile: the endpoint
it reports is the spokesman's own, its participant is known, nobody known has a
greater GUID, or the least such participant has the endpoint reported for it too. -/
def FiledWithOwner (h : List Call) (db : DiscoveryItemDatabase) (c : Call) : Prop :=
  ∀ s p e, c.op.report = some (s, p, e) →
    p = s ∨ db.knows s p ∨ (∀ q, db.knows s q → q < p) ∨
      ∃ q, db.knows s q ∧ p < q ∧ (∀ q', db.knows s q' → p < q' → q ≤ q') ∧ Reported h s q e

/-! ## One database -/

section Databases

variable {d : ParticipantDiscoveryDatabase}

/-- The participant itself is the one to file under when it is the spokesman,
known, or above everybody known. -/
theorem filedUnder_eq_self {s p : Guid}
    (h : p = s ∨ p ∈ d.items.keys ∨ ∀ q ∈ d.items.keys, q < p) : d.filedUnder s p = p := by
  unfold filedUnder
  cases hl : d.items.lowerBound p with
  | none => rfl
  | some it =>
    by_cases hs : p = s
    · exact if_pos hs
    · obtain ⟨hmem, hnot, _⟩ := OrdSet.lowerBound_eq_some.mp hl
      refine (if_neg hs).trans ?_
      rcases h with h | h | h
      · exact absurd h hs
      · obtain ⟨it', hit'⟩ := Option.isSome_iff_exists.mp (OrdSet.mem_keys.mp h)
        rw [OrdSet.lowerBound_of_find? hit'] at hl
        cases hl
        exact OrdSet.find?_key hit'
      · exact absurd (h _ (List.mem_map_of_mem hmem)) (not_lt.mpr hnot)

/-- Otherwise it is the least known participant above. -/
theorem filedUnder_above {s p : Guid} (hs : p ≠ s) (hp : p ∉ d.items.keys)
    (habove : ∃ q ∈ d.items.keys, ¬ q < p) :
    d.filedUnder s p ∈ d.items.keys ∧ p < d.filedUnder s p ∧
      ∀ q ∈ d.items.keys, p < q → d.filedUnder s p ≤ q := by
  unfold filedUnder
  cases hl : d.items.lowerBound p with
  | none =>
    obtain ⟨q, hq, hnot⟩ := habove
    obtain ⟨a, ha, rfl⟩ := List.mem_map.mp hq
    exact absurd (OrdSet.lowerBound_eq_none.mp hl a ha) hnot
  | some it =>
    obtain ⟨hmem, hnot, hleast⟩ := OrdSet.lowerBound_eq_some.mp hl
    have hkey : it.endpointGuid ∈ d.items.keys := List.mem_map_of_mem hmem
    simp only [if_neg hs]
    refine ⟨hkey, lt_of_le_of_ne hnot fun heq => hp (heq ▸ hkey), ?_⟩
    intro q hq hlt
    obtain ⟨a, ha, rfl⟩ := List.mem_map.mp hq
    exact hleast a ha hlt.le

theorem stores_of_stores_addParticipant {now : TimePoint} {p : Guid} {name : String}
    {tp : TimePoint} {server : Bool} {k : EndPointKind} {q e : Guid}
    (h : (d.addParticipant now p name tp server).stores k q e) : d.stores k q e := by
  obtain ⟨it, hit, hmem⟩ := h
  rw [find?_addParticipant] at hit
  split_ifs at hit with hq
  · cases hit
    obtain ⟨it₀, hit₀, hmem₀⟩ := announced_endPointGuids hmem
    exact ⟨it₀, hq ▸ hit₀, hmem₀⟩
  · exact ⟨it, hit, hmem⟩

theorem stores_of_stores_removeParticipant {p : Guid} {k : EndPointKind} {q e : Guid}
    (h : (d.removeParticipant p).1.stores k q e) : d.stores k q e := by
  obtain ⟨it, hit, hmem⟩ := h
  rw [find?_removeParticipant] at hit
  split_ifs at hit with hq
  · obtain ⟨it₀, hit₀, hburied⟩ := Option.bind_eq_some_iff.mp hit
    exact ⟨it₀, hq ▸ hit₀, buried_endPointGuids hburied k ▸ hmem⟩
  · exact ⟨it, hit, hmem⟩

theorem stores_of_stores_updateSubLiveliness {r : Guid} {a n : Int} {k : EndPointKind}
    {q e : Guid} (h : (d.updateSubLiveliness r a n).stores k q e) : d.stores k q e := by
  obtain ⟨it, hit, hmem⟩ := h
  rw [find?_updateSubLiveliness] at hit
  split_ifs at hit with hq
  · obtain ⟨it₀, hit₀, rfl⟩ := Option.map_eq_some_iff.mp hit
    exact ⟨it₀, hit₀, relived_endPointGuids r a n it₀ k ▸ hmem⟩
  · exact ⟨it, hit, hmem⟩

variable {ε : Type} [Keyed Guid ε] (m : EndPointContainer ε)

theorem stores_of_stores_removeEndPoint {p e' : Guid} {k : EndPointKind} {q e : Guid}
    (h : (d.removeEndPoint m p e').1.stores k q e) : d.stores k q e := by
  obtain ⟨it, hit, hmem⟩ := h
  rw [find?_removeEndPoint] at hit
  split_ifs at hit with hq
  · obtain ⟨it₀, hit₀, hunfiled⟩ := Option.bind_eq_some_iff.mp hit
    exact ⟨it₀, hq ▸ hit₀, unfiled_endPointGuids m hunfiled hmem⟩
  · exact ⟨it, hit, hmem⟩

/-- Filing stores the one endpoint under the one participant. -/
theorem stores_addEndPoint {now : TimePoint} {s p e' : Guid} {type topic : String}
    {tp : TimePoint} {k : EndPointKind} {q e : Guid} :
    (d.addEndPoint m now s p e' type topic tp).stores k q e ↔
      d.stores k q e ∨ (k = m.kind ∧ q = d.filedUnder s p ∧ e = e') := by
  unfold stores
  rw [find?_addEndPoint]
  by_cases hq : q = d.filedUnder s p
  · -- the item before the endpoint is filed has the stored endpoints
    have hbefore : ∀ e, e ∈ (d.filingItem now s p).endPointGuids k ↔
        ∃ it, d.items.find? q = some it ∧ e ∈ it.endPointGuids k := by
      intro e
      rw [hq]
      rcases d.filingItem_cases now s p with ⟨it, hit, ⟨hfiling, _⟩ | ⟨hfiling, _⟩⟩ |
        ⟨hnone, _, hfiling⟩
      · simp [hit, hfiling]
      · rw [hfiling, hit]
        cases k <;> simp [ParticipantDiscoveryItem.endPointGuids]
      · rw [hfiling, hnone]
        cases k <;> simp [ParticipantDiscoveryItem.endPointGuids, defaultItem, OrdSet.keys]
    rw [if_pos hq, ← hbefore]
    simp only [Option.some.injEq, exists_eq_left', mem_filed_endPointGuids, hq, true_and]
  · rw [if_neg hq]
    simp only [hq, false_and, and_false, or_false]

end Databases

/-! ## One call -/

/-- The participant the database of `s`, if there is one, files an endpoint of
`p` under. -/
def filedUnderIn (d : Option ParticipantDiscoveryDatabase) (s p : Guid) : Guid :=
  (d.map (·.filedUnder s p)).getD p

theorem filedUnder_databaseOr (s : Guid) (name : String) (p : Guid)
    (d : Option ParticipantDiscoveryDatabase) :
    (databaseOr s name d).filedUnder s p = filedUnderIn d s p := by
  cases d <;> rfl

theorem stores_databaseOr {s : Guid} {name : String} {k : EndPointKind} {q e : Guid}
    {d : Option ParticipantDiscoveryDatabase} :
    (databaseOr s name d).stores k q e ↔ ∃ d' ∈ d, d'.stores k q e := by
  cases d with
  | none => simp [databaseOr, stores]
  | some d => simp [databaseOr]

/-- A call stores nothing but the endpoint it reports. -/
theorem stores_of_stores_act {c : Call} {d : Option ParticipantDiscoveryDatabase}
    {k : EndPointKind} {q e : Guid} (h : ∃ d' ∈ c.act d, d'.stores k q e) :
    (∃ d' ∈ d, d'.stores k q e) ∨
      ∃ p, c.op.report = some (c.op.spokesman, p, e) ∧ q = filedUnderIn d c.op.spokesman p := by
  obtain ⟨d', hd', hstores⟩ := h
  have hmap : ∀ f : ParticipantDiscoveryDatabase → ParticipantDiscoveryDatabase,
      (∀ d, (f d).stores k q e → d.stores k q e) → d' ∈ d.map f → ∃ d' ∈ d, d'.stores k q e := by
    intro f hf hd'
    obtain ⟨d₀, hd₀, rfl⟩ := Option.map_eq_some_iff.mp hd'
    exact ⟨d₀, hd₀, hf d₀ hstores⟩
  obtain ⟨now, op⟩ := c
  cases op with
  | addParticipant s src p name tp server =>
    cases hd'
    exact .inl (stores_databaseOr.mp (stores_of_stores_addParticipant hstores))
  | removeSpokesman s => cases hd'
  | removeParticipant s p =>
    cases hd'
    exact .inl (stores_databaseOr.mp (stores_of_stores_removeParticipant hstores))
  | addDataReader s src p e' type topic tp =>
    cases hd'
    rcases (stores_addEndPoint getDataReaders).mp hstores with hold | ⟨_, hq, he⟩
    · exact .inl (stores_databaseOr.mp hold)
    · exact .inr ⟨p, he ▸ rfl, hq.trans (filedUnder_databaseOr s src p d)⟩
  | addDataWriter s src p e' type topic tp =>
    cases hd'
    rcases (stores_addEndPoint getDataWriters).mp hstores with hold | ⟨_, hq, he⟩
    · exact .inl (stores_databaseOr.mp hold)
    · exact .inr ⟨p, he ▸ rfl, hq.trans (filedUnder_databaseOr s src p d)⟩
  | removeDataReader s p e' =>
    exact .inl (hmap _ (fun _ => stores_of_stores_removeEndPoint getDataReaders) hd')
  | removeDataWriter s p e' =>
    exact .inl (hmap _ (fun _ => stores_of_stores_removeEndPoint getDataWriters) hd')
  | updateSubLiveliness r a n =>
    exact .inl (hmap _ (fun _ => stores_of_stores_updateSubLiveliness) hd')

/-- A report belongs to the spokesman of the call. -/
theorem Operation.spokesman_of_report {op : Operation} {s p e : Guid}
    (h : op.report = some (s, p, e)) : op.spokesman = s := by
  cases op <;> cases h <;> rfl

/-- A reported endpoint is stored, wherever that is. -/
theorem stores_act_of_report {c : Call} {s p e : Guid} (h : c.op.report = some (s, p, e))
    (d : Option ParticipantDiscoveryDatabase) :
    ∃ k, ∃ d' ∈ c.act d, d'.stores k (filedUnderIn d s p) e := by
  obtain ⟨now, op⟩ := c
  cases op <;> cases h
  case addDataReader src type topic tp =>
    refine ⟨.dataReader, _, rfl, (stores_addEndPoint getDataReaders).mpr (.inr ⟨rfl, ?_, rfl⟩)⟩
    exact (filedUnder_databaseOr s src p d).symm
  case addDataWriter src type topic tp =>
    refine ⟨.dataWriter, _, rfl, (stores_addEndPoint getDataWriters).mpr (.inr ⟨rfl, ?_, rfl⟩)⟩
    exact (filedUnder_databaseOr s src p d).symm

namespace DiscoveryItemDatabase

variable {db : DiscoveryItemDatabase} {c : Call}

/-- What is stored after a call was stored before or is what the call reports. -/
theorem stores_of_stores_step {k : EndPointKind} {s q e : Guid} (h : (db.step c).stores k s q e) :
    db.stores k s q e ∨
      ∃ p, c.op.report = some (s, p, e) ∧ q = filedUnderIn (db.databaseOf s) s p := by
  unfold stores at h
  rw [databaseOf_step] at h
  by_cases hs : s = c.op.spokesman
  · rw [if_pos hs] at h
    rw [hs] at h ⊢
    exact stores_of_stores_act h
  · rw [if_neg hs] at h
    exact .inl h

theorem stores_step_of_report (db : DiscoveryItemDatabase) {s p e : Guid}
    (h : c.op.report = some (s, p, e)) :
    ∃ k, (db.step c).stores k s (filedUnderIn (db.databaseOf s) s p) e := by
  unfold stores
  rw [databaseOf_step, if_pos (Operation.spokesman_of_report h).symm]
  exact stores_act_of_report h _

/-- `AddEndPoint` files under the participant itself in exactly these cases. -/
theorem filedUnderIn_eq_self_iff (s p : Guid) :
    filedUnderIn (db.databaseOf s) s p = p ↔
      p = s ∨ db.knows s p ∨ ∀ q, db.knows s q → q < p := by
  unfold knows filedUnderIn
  cases db.databaseOf s with
  | none => simp
  | some d =>
    simp only [Option.mem_def, Option.some.injEq, exists_eq_left', Option.map_some,
      Option.getD_some]
    refine ⟨fun hself => ?_, filedUnder_eq_self⟩
    by_contra hcases
    push Not at hcases
    obtain ⟨hs, hp, q, hq, hle⟩ := hcases
    have habove := (filedUnder_above hs hp ⟨q, hq, not_lt.mpr hle⟩).2.1
    exact absurd hself habove.ne'

/-- In all others, under the least known participant above it. -/
theorem filedUnderIn_above {s p : Guid} (hne : filedUnderIn (db.databaseOf s) s p ≠ p) :
    db.knows s (filedUnderIn (db.databaseOf s) s p) ∧
      p < filedUnderIn (db.databaseOf s) s p ∧
      ∀ q, db.knows s q → p < q → filedUnderIn (db.databaseOf s) s p ≤ q := by
  have hcases := mt (filedUnderIn_eq_self_iff s p).mpr hne
  push Not at hcases
  revert hcases
  unfold knows filedUnderIn
  cases db.databaseOf s with
  | none => simp
  | some d =>
    simp only [Option.mem_def, Option.some.injEq, exists_eq_left', Option.map_some,
      Option.getD_some]
    rintro ⟨hs, hp, q, hq, hle⟩
    exact filedUnder_above hs hp ⟨q, hq, not_lt.mpr hle⟩

end DiscoveryItemDatabase

/-- Where a call files an endpoint is right, or reported as well. -/
theorem filedWithOwner_iff {h : List Call} {db : DiscoveryItemDatabase} {c : Call} :
    FiledWithOwner h db c ↔ ∀ s p e, c.op.report = some (s, p, e) →
      filedUnderIn (db.databaseOf s) s p = p ∨
        Reported h s (filedUnderIn (db.databaseOf s) s p) e := by
  refine forall_congr' fun s => forall_congr' fun p => forall_congr' fun e =>
    imp_congr_right fun _ => ?_
  rw [← or_assoc, ← or_assoc, or_assoc (a := p = s),
    ← DiscoveryItemDatabase.filedUnderIn_eq_self_iff]
  by_cases hself : filedUnderIn (db.databaseOf s) s p = p
  · simp only [hself, true_or]
  · obtain ⟨hknown, habove, hleast⟩ := DiscoveryItemDatabase.filedUnderIn_above hself
    refine or_congr_right ⟨?_, fun hr => ⟨_, hknown, habove, hleast, hr⟩⟩
    rintro ⟨q, hq, hlt, hmin, hr⟩
    -- there is only one least participant above
    rwa [le_antisymm (hleast q hq hlt) (hmin _ hknown habove)]

/-! ## Histories -/

theorem reported_snoc {h : List Call} {c : Call} {s p e : Guid} :
    Reported (h ++ [c]) s p e ↔ Reported h s p e ∨ c.op.report = some (s, p, e) := by
  simp [Reported, or_and_right, exists_or]

/-- A call keeps every endpoint owned exactly when it files with the owner. -/
theorem endpointsOwned_step {h : List Call} {db : DiscoveryItemDatabase} {c : Call}
    (howned : EndpointsOwned h db) :
    EndpointsOwned (h ++ [c]) (db.step c) ↔ FiledWithOwner h db c := by
  rw [filedWithOwner_iff]
  constructor
  · intro hnext s p e hreport
    obtain ⟨k, hstores⟩ := db.stores_step_of_report hreport
    rcases reported_snoc.mp (hnext k s _ e hstores) with hr | hr
    · exact .inr hr
    · have hpair := hreport.symm.trans hr
      simp only [Option.some.injEq, Prod.mk.injEq, true_and, and_true] at hpair
      exact .inl hpair.symm
  · intro hc k s q e hstores
    rcases DiscoveryItemDatabase.stores_of_stores_step hstores with hold | ⟨p, hreport, hq⟩
    · exact reported_snoc.mpr (.inl (howned k s q e hold))
    · rcases hc s p e hreport with hself | hr
      · exact reported_snoc.mpr (.inr (by rw [hq, hself]; exact hreport))
      · exact reported_snoc.mpr (.inl (hq ▸ hr))

/-- **Endpoints are owned while no call misfiles.** In every state a history goes
through, each stored endpoint was reported for the participant it is stored
under, if and only if each call of the history was made in a state where it
files with the owner. -/
theorem endpointsOwned_iff (t now now' : TimePoint) (h : List Call) :
    (∀ h', h' <+: h → EndpointsOwned h' (run DiscoveryItemDatabase.step (.init t now now') h')) ↔
      ∀ h' c, h' ++ [c] <+: h →
        FiledWithOwner h' (run DiscoveryItemDatabase.step (.init t now now') h') c := by
  constructor
  · intro howned h' c hc
    have hnext := howned _ hc
    rw [run_snoc] at hnext
    exact (endpointsOwned_step (howned h' ((List.prefix_append h' [c]).trans hc))).mp hnext
  · intro hfiled h'
    refine run_induction DiscoveryItemDatabase.step (.init t now now')
      (P := fun h' db => h' <+: h → EndpointsOwned h' db) ?_ ?_ h'
    · rintro - k s p e ⟨d, hd, -⟩
      cases hd
    · intro h' c ih hc
      have howned := ih ((List.prefix_append h' [c]).trans hc)
      exact (endpointsOwned_step howned).mpr (hfiled h' c hc)

/-- A reader of participant 1, unknown to spokesman 5, ends up under participant
2, for whom nothing was ever reported. -/
theorem not_endpointsOwned : ¬ ∀ (t now now' : TimePoint) (h : List Call),
    EndpointsOwned h (run DiscoveryItemDatabase.step (.init t now now') h) := by
  intro hall
  obtain ⟨c, hc, hreport⟩ := hall 0 0 0
    [⟨1, .addParticipant (.ofPrefix 5) "five" (.ofPrefix 2) "two" 1 false⟩,
      ⟨2, .addDataReader (.ofPrefix 5) "five" (.ofPrefix 1) ⟨1, 7⟩ "T" "topic" 2⟩]
    .dataReader (.ofPrefix 5) (.ofPrefix 2) ⟨1, 7⟩ ⟨_, rfl, _, rfl, by decide⟩
  revert hreport
  revert c
  decide

end DiscoveryServer
