import DiscoveryServer.Liveness

/-!
# Disposing of a participant

A participant that leaves is reported piece by piece: the participant itself and
each of its endpoints, in any order. `remaining` is what the reports made so far
leave of the item, and `settled` drops it once it is dead and empty. Neither
depends on the order of the reports, so neither does where they end
(`disposal_complete`).
-/

namespace DiscoveryServer

open Library

/-- `RemoveParticipant` once, and one removal for each endpoint of the item. -/
def disposal (s p : Guid) (it : ParticipantDiscoveryItem) : List Operation :=
  .removeParticipant s p ::
    (it.datareaders.keys.map (Operation.removeDataReader s p) ++
      it.datawriters.keys.map (Operation.removeDataWriter s p))

/-- An operation that disposes of `p` or of an endpoint of it. -/
inductive Disposes (s p : Guid) : Operation → Prop
  | participant : Disposes s p (.removeParticipant s p)
  | dataReader (e : Guid) : Disposes s p (.removeDataReader s p e)
  | dataWriter (e : Guid) : Disposes s p (.removeDataWriter s p e)

theorem disposes_of_mem_disposal {s p : Guid} {it : ParticipantDiscoveryItem} {op : Operation}
    (h : op ∈ disposal s p it) : Disposes s p op := by
  rcases List.mem_cons.mp h with rfl | h
  · exact .participant
  · rcases List.mem_append.mp h with h | h
    · obtain ⟨e, _, rfl⟩ := List.mem_map.mp h
      exact .dataReader e
    · obtain ⟨e, _, rfl⟩ := List.mem_map.mp h
      exact .dataWriter e

/-! ## What is left of the item -/

/-- The item, unless it is a zombie without endpoints. -/
def settled (it : ParticipantDiscoveryItem) : Option ParticipantDiscoveryItem :=
  if it.countEndpoints = 0 && !it.isAlive then none else some it

/-- The item once some operations have been done, were it never dropped. -/
def remaining (s p : Guid) (done : List Operation) (it : ParticipantDiscoveryItem) :
    ParticipantDiscoveryItem :=
  { it with
    isAlive := it.isAlive && !decide (.removeParticipant s p ∈ done)
    datareaders := it.datareaders.filter fun r => .removeDataReader s p r.endpointGuid ∉ done
    datawriters := it.datawriters.filter fun w => .removeDataWriter s p w.endpointGuid ∉ done }

theorem settled_of_backed {it : ParticipantDiscoveryItem} (h : it.Backed) :
    settled it = some it := by
  unfold settled
  rcases h with halive | hcount
  · simp [halive]
  · simp [hcount.ne']

theorem settled_bind_buried (it : ParticipantDiscoveryItem) :
    (settled it).bind buried = settled { it with isAlive := false } := by
  have hcount : ({ it with isAlive := false } : ParticipantDiscoveryItem).countEndpoints =
      it.countEndpoints := rfl
  unfold settled
  rw [hcount]
  by_cases hzero : it.countEndpoints = 0
  · cases it.isAlive <;> simp [hzero, buried]
  · simp [hzero, buried, Nat.pos_of_ne_zero hzero]

section EndPoints

variable {ε : Type} [Keyed Guid ε] (m : EndPointContainer ε)

/-- Whether or not the endpoint is there. -/
theorem settled_bind_unfiled (hset : ∀ it, m.set it (m.get it) = it) (e : Guid)
    (it : ParticipantDiscoveryItem) :
    (settled it).bind (unfiled m e) = settled (m.set it ((m.get it).erase e)) := by
  cases he : (m.get it).find? e with
  | none =>
    have herase : (m.get it).erase e = m.get it := by
      refine OrdSet.ext_find? fun k => ?_
      rw [OrdSet.find?_erase]
      split_ifs with hk
      · rw [hk, he]
      · rfl
    rw [herase, hset]
    unfold settled
    split_ifs
    · rfl
    · show unfiled m e it = some it
      simp only [unfiled, he]
  | some a =>
    have hmem : e ∈ it.endPointGuids m.kind := by
      rw [← m.keys_get, OrdSet.mem_keys, he]
      rfl
    rw [settled_of_backed (.inr (ParticipantDiscoveryItem.countEndpoints_pos hmem))]
    show unfiled m e it = _
    simp only [unfiled, he]
    rfl

end EndPoints

section Remaining

variable (s p : Guid) (done : List Operation) (it : ParticipantDiscoveryItem)

theorem remaining_nil : remaining s p [] it = it := by
  have hreaders : it.datareaders.filter (fun _ => true) = it.datareaders :=
    OrdSet.ext_toList (List.filter_true _)
  have hwriters : it.datawriters.filter (fun _ => true) = it.datawriters :=
    OrdSet.ext_toList (List.filter_true _)
  simp [remaining, hreaders, hwriters]

theorem remaining_removeParticipant :
    remaining s p (done ++ [.removeParticipant s p]) it =
      { remaining s p done it with isAlive := false } := by
  simp [remaining]

theorem remaining_removeDataReader (e : Guid) :
    remaining s p (done ++ [.removeDataReader s p e]) it =
      getDataReaders.set (remaining s p done it)
        ((getDataReaders.get (remaining s p done it)).erase e) := by
  have hreaders : (it.datareaders.filter fun r =>
        .removeDataReader s p r.endpointGuid ∉ done ++ [.removeDataReader s p e]) =
      (it.datareaders.filter fun r => .removeDataReader s p r.endpointGuid ∉ done).erase e := by
    refine OrdSet.ext_toList ?_
    show List.filter _ _ = List.filter _ (List.filter _ _)
    rw [List.filter_filter]
    refine List.filter_congr fun r _ => ?_
    simp [key_dataReader, and_comm]
  unfold remaining
  rw [hreaders]
  simp [getDataReaders]

theorem remaining_removeDataWriter (e : Guid) :
    remaining s p (done ++ [.removeDataWriter s p e]) it =
      getDataWriters.set (remaining s p done it)
        ((getDataWriters.get (remaining s p done it)).erase e) := by
  have hwriters : (it.datawriters.filter fun w =>
        .removeDataWriter s p w.endpointGuid ∉ done ++ [.removeDataWriter s p e]) =
      (it.datawriters.filter fun w => .removeDataWriter s p w.endpointGuid ∉ done).erase e := by
    refine OrdSet.ext_toList ?_
    show List.filter _ _ = List.filter _ (List.filter _ _)
    rw [List.filter_filter]
    refine List.filter_congr fun w _ => ?_
    simp [key_dataWriter, and_comm]
  unfold remaining
  rw [hwriters]
  simp [getDataWriters]

/-- Once everything has been reported. -/
theorem settled_remaining_of_perm {done : List Operation} (h : done.Perm (disposal s p it)) :
    settled (remaining s p done it) = none := by
  have hparticipant : .removeParticipant s p ∈ done := h.mem_iff.mpr List.mem_cons_self
  have hreaders : (it.datareaders.filter fun r =>
      .removeDataReader s p r.endpointGuid ∉ done).toList = [] := by
    refine List.filter_eq_nil_iff.mpr fun r hr => ?_
    have hmem : .removeDataReader s p r.endpointGuid ∈ disposal s p it :=
      List.mem_cons_of_mem _ (List.mem_append_left _
        (List.mem_map_of_mem (List.mem_map_of_mem hr)))
    simp [h.mem_iff.mpr hmem]
  have hwriters : (it.datawriters.filter fun w =>
      .removeDataWriter s p w.endpointGuid ∉ done).toList = [] := by
    refine List.filter_eq_nil_iff.mpr fun w hw => ?_
    have hmem : .removeDataWriter s p w.endpointGuid ∈ disposal s p it :=
      List.mem_cons_of_mem _ (List.mem_append_right _
        (List.mem_map_of_mem (List.mem_map_of_mem hw)))
    simp [h.mem_iff.mpr hmem]
  have hcount : (remaining s p done it).countEndpoints = 0 := by
    unfold ParticipantDiscoveryItem.countEndpoints OrdSet.size remaining
    dsimp only
    rw [hreaders, hwriters]
    rfl
  have halive : (remaining s p done it).isAlive = false := by
    simp [remaining, hparticipant]
  unfold settled
  rw [hcount, halive]
  rfl

end Remaining

/-! ## The reports, one at a time -/

/-- After some of the reports: `p` is what is left of it, every other item of the
database of `s`, every other database and the rest of the image are as before. -/
structure Disposing (s p : Guid) (db : DiscoveryItemDatabase) (d : ParticipantDiscoveryDatabase)
    (it : ParticipantDiscoveryItem) (done : List Operation) (db' : DiscoveryItemDatabase) :
    Prop where
  rest : db'.rest = db.rest
  others : ∀ k, k ≠ s → db'.databaseOf k = db.databaseOf k
  own : ∃ d', db'.databaseOf s = some d' ∧ d'.endpointGuid = d.endpointGuid ∧
    d'.participantName = d.participantName ∧
    ∀ q, d'.items.find? q =
      if q = p then settled (remaining s p done it) else d.items.find? q

theorem disposes_spokesman {s p : Guid} {op : Operation} (h : Disposes s p op) :
    op.spokesman = s := by
  cases h <;> rfl

section Disposing

variable {s p : Guid} {db db' : DiscoveryItemDatabase} {d : ParticipantDiscoveryDatabase}
  {it : ParticipantDiscoveryItem} {done : List Operation}

/-- One more report. -/
theorem disposing_step (h : Disposing s p db d it done db') {c : Call} (hc : Disposes s p c.op) :
    Disposing s p db d it (done ++ [c.op]) (db'.step c) := by
  obtain ⟨d', hd', hguid, hname, hfind⟩ := h.own
  have hown : (db'.step c).databaseOf s = c.act (some d') := by
    rw [DiscoveryItemDatabase.databaseOf_step, if_pos (disposes_spokesman hc).symm, hd']
  refine ⟨(DiscoveryItemDatabase.rest_step db' c).trans h.rest, fun k hk => ?_, ?_⟩
  · rw [DiscoveryItemDatabase.databaseOf_step, disposes_spokesman hc, if_neg hk]
    exact h.others k hk
  · rw [hown]
    have hp := hfind p
    rw [if_pos rfl] at hp
    obtain ⟨now, op⟩ := c
    -- whichever report it is, `p` alone changes, and it stays settled
    cases hc with
    | participant =>
      refine ⟨(d'.removeParticipant p).1, rfl, (d'.removeParticipant_endpointGuid p).trans hguid,
        (d'.removeParticipant_participantName p).trans hname, fun q => ?_⟩
      rw [d'.find?_removeParticipant, hp, settled_bind_buried, remaining_removeParticipant]
      split_ifs with hq
      · rfl
      · rw [hfind q, if_neg hq]
    | dataReader e =>
      refine ⟨(d'.removeEndPoint getDataReaders p e).1, rfl,
        (d'.removeEndPoint_endpointGuid getDataReaders p e).trans hguid,
        (d'.removeEndPoint_participantName getDataReaders p e).trans hname, fun q => ?_⟩
      rw [d'.find?_removeEndPoint, hp, settled_bind_unfiled getDataReaders (fun _ => rfl),
        remaining_removeDataReader]
      split_ifs with hq
      · rfl
      · rw [hfind q, if_neg hq]
    | dataWriter e =>
      refine ⟨(d'.removeEndPoint getDataWriters p e).1, rfl,
        (d'.removeEndPoint_endpointGuid getDataWriters p e).trans hguid,
        (d'.removeEndPoint_participantName getDataWriters p e).trans hname, fun q => ?_⟩
      rw [d'.find?_removeEndPoint, hp, settled_bind_unfiled getDataWriters (fun _ => rfl),
        remaining_removeDataWriter]
      split_ifs with hq
      · rfl
      · rw [hfind q, if_neg hq]

/-- Any number of reports, in any order. -/
theorem disposing_run (hd : db.databaseOf s = some d) (hit : d.items.find? p = some it)
    (hback : it.Backed) (calls : List Call) :
    (∀ c ∈ calls, Disposes s p c.op) →
      Disposing s p db d it (calls.map Call.op) (run DiscoveryItemDatabase.step db calls) := by
  refine run_induction DiscoveryItemDatabase.step db
    (P := fun h db' => (∀ c ∈ h, Disposes s p c.op) →
      Disposing s p db d it (h.map Call.op) db') ?_ ?_ calls
  · intro _
    refine ⟨rfl, fun k _ => rfl, d, hd, rfl, rfl, fun q => ?_⟩
    rw [List.map_nil, remaining_nil, settled_of_backed hback]
    split_ifs with hq
    · rw [hq, hit]
    · rfl
  · intro h c ih hall
    rw [List.map_append, List.map_singleton]
    refine disposing_step (ih fun c' hc' => ?_) (hall c ?_)
    · exact hall c' (List.mem_append_left _ hc')
    · exact List.mem_append_right _ (List.mem_singleton_self c)

end Disposing

/-- The image once `p` has left the database of `s`. -/
def DiscoveryItemDatabase.without (s p : Guid) (db : DiscoveryItemDatabase) :
    DiscoveryItemDatabase :=
  match db.databaseOf s with
  | none => db
  | some d => ⟨db.image.store { d with items := d.items.erase p }⟩

theorem DiscoveryItemDatabase.databaseOf_without (s p : Guid) (db : DiscoveryItemDatabase)
    (k : Guid) :
    (db.without s p).databaseOf k =
      if k = s then (db.databaseOf s).map fun d => { d with items := d.items.erase p }
      else db.databaseOf k := by
  unfold without
  cases hs : db.databaseOf s with
  | none =>
    split_ifs with hk
    · rw [hk, hs]
      rfl
    · rfl
  | some d =>
    have hguid : d.endpointGuid = s := OrdSet.find?_key hs
    show (db.image.databases.update { d with items := d.items.erase p }).find? k = _
    rw [OrdSet.find?_update, key_database]
    dsimp only
    rw [hguid]
    split_ifs with hk
    · have hk' : db.image.databases.find? k = some d := hk ▸ hs
      rw [hk', Option.map_some, Option.map_some, hguid]
    · rfl

theorem DiscoveryItemDatabase.rest_without (s p : Guid) (db : DiscoveryItemDatabase) :
    (db.without s p).rest = db.rest := by
  unfold without
  split <;> rfl

/-- **Disposal is order-independent and complete.** In a state reached by any
history, the removal of a participant and of each of its endpoints, in any order
and at any times, ends in one state: the participant is gone from the database
of the spokesman and nothing else has changed. -/
theorem disposal_complete (t now now' : TimePoint) (h : List Call) (s p : Guid)
    (d : ParticipantDiscoveryDatabase) (it : ParticipantDiscoveryItem)
    (hd : (run DiscoveryItemDatabase.step (.init t now now') h).databaseOf s = some d)
    (hit : d.items.find? p = some it) (calls : List Call)
    (hcalls : (calls.map Call.op).Perm (disposal s p it)) :
    let db := run DiscoveryItemDatabase.step (.init t now now') h
    run DiscoveryItemDatabase.step (.init t now now') (h ++ calls) = db.without s p ∧
      (db.without s p).databaseOf s = some { d with items := d.items.erase p } ∧
      ∀ k, k ≠ s → (db.without s p).databaseOf k = db.databaseOf k := by
  intro db
  have hback : it.Backed := DiscoveryItemDatabase.noEmptyZombie_run t now now' s h d hd p it hit
  have hall : ∀ c ∈ calls, Disposes s p c.op := fun c hc =>
    disposes_of_mem_disposal (hcalls.mem_iff.mp (List.mem_map_of_mem hc))
  have hend := disposing_run hd hit hback calls hall
  have hown : (db.without s p).databaseOf s = some { d with items := d.items.erase p } := by
    rw [db.databaseOf_without, if_pos rfl]
    show (DiscoveryItemDatabase.databaseOf s db).map _ = _
    rw [show DiscoveryItemDatabase.databaseOf s db = some d from hd, Option.map_some]
  have hothers : ∀ k, k ≠ s → (db.without s p).databaseOf k = db.databaseOf k := by
    intro k hk
    rw [db.databaseOf_without, if_neg hk]
  refine ⟨?_, hown, hothers⟩
  rw [run_append]
  refine DiscoveryItemDatabase.ext_databaseOf (hend.rest.trans (db.rest_without s p).symm)
    fun k => ?_
  by_cases hk : k = s
  · obtain ⟨d', hd', hguid, hname, hfind⟩ := hend.own
    have hitems : d'.items = d.items.erase p := by
      refine OrdSet.ext_find? fun q => ?_
      rw [hfind, settled_remaining_of_perm s p it hcalls, OrdSet.find?_erase]
    rw [hk, hown, hd']
    cases d'
    cases hguid
    cases hname
    cases hitems
    rfl
  · rw [hothers k hk]
    exact hend.others k hk

/-- A participant with a reader and a writer, reported gone between the two. -/
theorem disposal_complete_between :
    let h : List Call :=
      [⟨1, .addParticipant (.ofPrefix 5) "five" (.ofPrefix 2) "two" 1 false⟩,
        ⟨2, .addDataReader (.ofPrefix 5) "five" (.ofPrefix 2) ⟨2, 7⟩ "T" "topic" 2⟩,
        ⟨3, .addDataWriter (.ofPrefix 5) "five" (.ofPrefix 2) ⟨2, 8⟩ "T" "topic" 3⟩]
    let calls : List Call :=
      [⟨4, .removeDataWriter (.ofPrefix 5) (.ofPrefix 2) ⟨2, 8⟩⟩,
        ⟨5, .removeParticipant (.ofPrefix 5) (.ofPrefix 2)⟩,
        ⟨6, .removeDataReader (.ofPrefix 5) (.ofPrefix 2) ⟨2, 7⟩⟩]
    run DiscoveryItemDatabase.step (.init 0 0 0) (h ++ calls) =
      (run DiscoveryItemDatabase.step (.init 0 0 0) h).without (.ofPrefix 5) (.ofPrefix 2) :=
  (disposal_complete 0 0 0 _ (.ofPrefix 5) (.ofPrefix 2) _ _ rfl rfl _ (by decide)).1

end DiscoveryServer
