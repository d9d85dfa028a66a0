import DiscoveryServer.Spokesman

/-!
# Liveness bookkeeping

The life of one participant in one database, over any history of calls:

* **backing** — an item that is present is alive or stores an endpoint, so no
  zombie outlives its last endpoint (`NoEmptyZombie`);
* **exactness** — an item is present and alive exactly when the last call that
  says anything about it is an addition (`isLive_run`).

`Operation.announces` lists the calls that speak about a participant. A reader
or writer announces its owner only when the owner is the spokesman itself; for
any other owner it leaves a zombie at most. Neither property needs the endpoint
to be filed under the right participant, and neither depends on the order in
which births, deaths and endpoints are reported.
-/

namespace DiscoveryServer

open Library ParticipantDiscoveryDatabase

/-- What a call says about participant `p` in the database of `s`: an addition,
a removal, or nothing. -/
def Operation.announces (s p : Guid) : Operation → Option Bool
  | .addParticipant s' _ p' .. => if s = s' ∧ p = p' then some true else none
  | .removeSpokesman s' => if s = s' then some false else none
  | .removeParticipant s' p' => if s = s' ∧ p = p' then some false else none
  | .addDataReader s' _ p' .. => if s = s' ∧ p = p' ∧ p' = s' then some true else none
  | .addDataWriter s' _ p' .. => if s = s' ∧ p = p' ∧ p' = s' then some true else none
  | .removeDataReader .. => none
  | .removeDataWriter .. => none
  | .updateSubLiveliness .. => none

/-- An item for `p` is present and alive. -/
def liveIn (p : Guid) (d : Option ParticipantDiscoveryDatabase) : Bool :=
  (d.bind fun d => d.items.find? p).any (·.isAlive)

/-- The item is alive or stores an endpoint. -/
def ParticipantDiscoveryItem.Backed (it : ParticipantDiscoveryItem) : Prop :=
  it.isAlive = true ∨ 0 < it.countEndpoints

/-- Every item of a database is backed: no zombie is empty. -/
def NoEmptyZombie (d : ParticipantDiscoveryDatabase) : Prop :=
  ∀ p it, d.items.find? p = some it → it.Backed

/-- An item for `p` is present and alive in the database of `s`. -/
def DiscoveryItemDatabase.isLive (s p : Guid) (db : DiscoveryItemDatabase) : Bool :=
  liveIn p (db.databaseOf s)

/-! ## One database -/

theorem liveIn_databaseOr (s : Guid) (name : String) (p : Guid)
    (d : Option ParticipantDiscoveryDatabase) :
    ((databaseOr s name d).items.find? p).any (·.isAlive) = liveIn p d := by
  cases d <;> rfl

theorem noEmptyZombie_databaseOr {d : Option ParticipantDiscoveryDatabase}
    (h : ∀ d' ∈ d, NoEmptyZombie d') (s : Guid) (name : String) :
    NoEmptyZombie (databaseOr s name d) := by
  cases d with
  | none => intro p it hit; cases hit
  | some d => exact h d rfl

section Databases

variable (d : ParticipantDiscoveryDatabase)

theorem any_isAlive_addParticipant (now : TimePoint) (p : Guid) (name : String) (tp : TimePoint)
    (server : Bool) (q : Guid) :
    ((d.addParticipant now p name tp server).items.find? q).any (·.isAlive) =
      if q = p then true else (d.items.find? q).any (·.isAlive) := by
  rw [find?_addParticipant]
  split_ifs with hq
  · exact announced_isAlive ..
  · rfl

theorem any_isAlive_removeParticipant (p q : Guid) :
    ((d.removeParticipant p).1.items.find? q).any (·.isAlive) =
      if q = p then false else (d.items.find? q).any (·.isAlive) := by
  rw [find?_removeParticipant]
  split_ifs with hq
  · cases hp : (d.items.find? p).bind buried with
    | none => rfl
    | some it' =>
      obtain ⟨it, _, hburied⟩ := Option.bind_eq_some_iff.mp hp
      exact buried_isAlive hburied
  · rfl

theorem any_isAlive_updateSubLiveliness (r : Guid) (a n : Int) (q : Guid) :
    ((d.updateSubLiveliness r a n).items.find? q).any (·.isAlive) =
      (d.items.find? q).any (·.isAlive) := by
  rw [find?_updateSubLiveliness]
  split_ifs with hq
  · cases d.items.find? q with
    | none => rfl
    | some it => exact relived_isAlive r a n it
  · rfl

variable {ε : Type} [Keyed Guid ε] (m : EndPointContainer ε)

/-- Filing an endpoint revives the spokesman's own item and nobody else. -/
theorem any_isAlive_addEndPoint (now : TimePoint) (s p e : Guid) (type topic : String)
    (tp : TimePoint) (q : Guid) :
    ((d.addEndPoint m now s p e type topic tp).items.find? q).any (·.isAlive) =
      if q = p ∧ p = s then true else (d.items.find? q).any (·.isAlive) := by
  rw [find?_addEndPoint]
  by_cases hq : q = d.filedUnder s p
  · rw [if_pos hq, Option.any_some, filed_isAlive]
    rcases d.filingItem_cases now s p with ⟨it, hit, ⟨hfiling, hs⟩ | ⟨hfiling, hs⟩⟩ |
      ⟨hnone, hunder, hfiling⟩
    · rw [hfiling, hq, hit, if_neg fun h => hs h.2, Option.any_some]
    · rw [hfiling, if_pos ⟨by rw [hq, hs, filedUnder_self], hs⟩]
    · rw [hfiling, hq, hnone, hunder]
      by_cases hs : p = s <;> simp [hs]
  · have hne : ¬ (q = p ∧ p = s) := by
      rintro ⟨rfl, rfl⟩
      exact hq (d.filedUnder_self q).symm
    rw [if_neg hq, if_neg hne]

/-- Unfiling an endpoint takes away dead items only. -/
theorem any_isAlive_removeEndPoint (p e q : Guid) :
    ((d.removeEndPoint m p e).1.items.find? q).any (·.isAlive) =
      (d.items.find? q).any (·.isAlive) := by
  rw [find?_removeEndPoint]
  split_ifs with hq
  · rw [hq]
    cases d.items.find? p with
    | none => rfl
    | some it =>
      rw [Option.bind_some, Option.any_some]
      cases hit : unfiled m e it with
      | none => exact (isAlive_of_unfiled m hit).symm
      | some it' => exact unfiled_isAlive m hit
  · rfl

/-! ### Backing -/

variable {d}

theorem noEmptyZombie_addParticipant (h : NoEmptyZombie d) (now : TimePoint) (p : Guid)
    (name : String) (tp : TimePoint) (server : Bool) :
    NoEmptyZombie (d.addParticipant now p name tp server) := by
  intro q it hit
  rw [find?_addParticipant] at hit
  split_ifs at hit with hq
  · cases hit
    exact .inl (announced_isAlive ..)
  · exact h q it hit

theorem noEmptyZombie_removeParticipant (h : NoEmptyZombie d) (p : Guid) :
    NoEmptyZombie (d.removeParticipant p).1 := by
  intro q it hit
  rw [find?_removeParticipant] at hit
  split_ifs at hit with hq
  · obtain ⟨it₀, _, hburied⟩ := Option.bind_eq_some_iff.mp hit
    exact .inr (countEndpoints_of_buried hburied)
  · exact h q it hit

theorem noEmptyZombie_addEndPoint (h : NoEmptyZombie d) (now : TimePoint) (s p e : Guid)
    (type topic : String) (tp : TimePoint) :
    NoEmptyZombie (d.addEndPoint m now s p e type topic tp) := by
  intro q it hit
  rw [find?_addEndPoint] at hit
  split_ifs at hit with hq
  · cases hit
    -- whatever the item was, it now stores `e`
    have hmem : e ∈ (filed m e type topic tp (d.filingItem now s p)).endPointGuids m.kind :=
      (mem_filed_endPointGuids m).mpr (.inr ⟨rfl, rfl⟩)
    exact .inr (ParticipantDiscoveryItem.countEndpoints_pos hmem)
  · exact h q it hit

theorem noEmptyZombie_removeEndPoint (h : NoEmptyZombie d) (p e : Guid) :
    NoEmptyZombie (d.removeEndPoint m p e).1 := by
  intro q it hit
  rw [find?_removeEndPoint] at hit
  split_ifs at hit with hq
  · obtain ⟨it₀, hit₀, hunfiled⟩ := Option.bind_eq_some_iff.mp hit
    exact backed_of_unfiled m (h p it₀ hit₀) hunfiled
  · exact h q it hit

theorem noEmptyZombie_updateSubLiveliness (h : NoEmptyZombie d) (r : Guid) (a n : Int) :
    NoEmptyZombie (d.updateSubLiveliness r a n) := by
  intro q it hit
  rw [find?_updateSubLiveliness] at hit
  split_ifs at hit with hq
  · obtain ⟨it₀, hit₀, rfl⟩ := Option.map_eq_some_iff.mp hit
    have hcount : (relived r a n it₀).countEndpoints = it₀.countEndpoints := by
      simp only [ParticipantDiscoveryItem.countEndpoints_eq, relived_endPointGuids]
    show (relived r a n it₀).isAlive = true ∨ 0 < (relived r a n it₀).countEndpoints
    rw [hcount, relived_isAlive]
    exact h q it₀ hit₀
  · exact h q it hit

end Databases

/-! ## One call -/

/-- A call decides the liveness it speaks about and keeps every other one. -/
theorem liveIn_act (c : Call) (d : Option ParticipantDiscoveryDatabase) (p : Guid) :
    liveIn p (c.act d) = (c.op.announces c.op.spokesman p).getD (liveIn p d) := by
  have hgetD : ∀ (P : Prop) [Decidable P] (b : Bool),
      (if P then some b else none).getD (liveIn p d) = if P then b else liveIn p d := by
    intro P _ b
    split_ifs <;> rfl
  obtain ⟨now, op⟩ := c
  cases op with
  | addParticipant s src p' name tp server =>
    refine (any_isAlive_addParticipant ..).trans ?_
    rw [liveIn_databaseOr]
    simp only [Operation.announces, Operation.spokesman, true_and, hgetD]
  | removeSpokesman s =>
    simp only [Operation.announces, Operation.spokesman, if_true, Option.getD_some]
    rfl
  | removeParticipant s p' =>
    refine (any_isAlive_removeParticipant ..).trans ?_
    rw [liveIn_databaseOr]
    simp only [Operation.announces, Operation.spokesman, true_and, hgetD]
  | addDataReader s src p' e type topic tp =>
    refine (any_isAlive_addEndPoint ..).trans ?_
    rw [liveIn_databaseOr]
    simp only [Operation.announces, Operation.spokesman, true_and, hgetD]
  | addDataWriter s src p' e type topic tp =>
    refine (any_isAlive_addEndPoint ..).trans ?_
    rw [liveIn_databaseOr]
    simp only [Operation.announces, Operation.spokesman, true_and, hgetD]
  | removeDataReader s p' e =>
    cases d with
    | none => rfl
    | some d => exact any_isAlive_removeEndPoint d getDataReaders p' e p
  | removeDataWriter s p' e =>
    cases d with
    | none => rfl
    | some d => exact any_isAlive_removeEndPoint d getDataWriters p' e p
  | updateSubLiveliness r a n =>
    cases d with
    | none => rfl
    | some d => exact any_isAlive_updateSubLiveliness d r a n p

/-- No call leaves an empty zombie behind. -/
theorem noEmptyZombie_act (c : Call) {d : Option ParticipantDiscoveryDatabase}
    (h : ∀ d' ∈ d, NoEmptyZombie d') : ∀ d' ∈ c.act d, NoEmptyZombie d' := by
  have hor := noEmptyZombie_databaseOr h
  have hmap : ∀ f : ParticipantDiscoveryDatabase → ParticipantDiscoveryDatabase,
      (∀ d, NoEmptyZombie d → NoEmptyZombie (f d)) → ∀ d' ∈ d.map f, NoEmptyZombie d' := by
    intro f hf d' hd'
    obtain ⟨d₀, hd₀, rfl⟩ := Option.map_eq_some_iff.mp hd'
    exact hf d₀ (h d₀ hd₀)
  obtain ⟨now, op⟩ := c
  cases op with
  | addParticipant s src p name tp server =>
    intro d' hd'
    cases hd'
    exact noEmptyZombie_addParticipant (hor s src) now p name tp server
  | removeSpokesman s => intro d' hd'; cases hd'
  | removeParticipant s p =>
    intro d' hd'
    cases hd'
    exact noEmptyZombie_removeParticipant (hor s "") p
  | addDataReader s src p e type topic tp =>
    intro d' hd'
    cases hd'
    exact noEmptyZombie_addEndPoint getDataReaders (hor s src) now s p e type topic tp
  | addDataWriter s src p e type topic tp =>
    intro d' hd'
    cases hd'
    exact noEmptyZombie_addEndPoint getDataWriters (hor s src) now s p e type topic tp
  | removeDataReader s p e =>
    exact hmap _ fun d hd => noEmptyZombie_removeEndPoint getDataReaders hd p e
  | removeDataWriter s p e =>
    exact hmap _ fun d hd => noEmptyZombie_removeEndPoint getDataWriters hd p e
  | updateSubLiveliness r a n =>
    exact hmap _ fun d hd => noEmptyZombie_updateSubLiveliness hd r a n

/-- A call for another spokesman says nothing. -/
theorem Operation.announces_of_ne {op : Operation} {s : Guid} (hs : s ≠ op.spokesman) (p : Guid) :
    op.announces s p = none := by
  cases op with
  | addParticipant => exact if_neg fun h => hs h.1
  | removeSpokesman => exact if_neg hs
  | removeParticipant => exact if_neg fun h => hs h.1
  | addDataReader => exact if_neg fun h => hs h.1
  | addDataWriter => exact if_neg fun h => hs h.1
  | removeDataReader => rfl
  | removeDataWriter => rfl
  | updateSubLiveliness => rfl

/-! ## Histories -/

/-- What the history says about `p` in the database of `s`, call by call. -/
def announcements (s p : Guid) (h : List Call) : List Bool := h.filterMap (·.op.announces s p)

namespace DiscoveryItemDatabase

theorem isLive_step (db : DiscoveryItemDatabase) (c : Call) (s p : Guid) :
    (db.step c).isLive s p = (c.op.announces s p).getD (db.isLive s p) := by
  unfold isLive
  rw [databaseOf_step]
  by_cases hs : s = c.op.spokesman
  · rw [if_pos hs, liveIn_act, hs]
  · rw [if_neg hs, Operation.announces_of_ne hs]
    rfl

/-- Liveness is the last announcement. -/
theorem isLive_run (t now now' : TimePoint) (s p : Guid) (h : List Call) :
    (run step (init t now now') h).isLive s p = (announcements s p h).getLast?.getD false := by
  refine run_induction step (init t now now')
    (P := fun h db => db.isLive s p = (announcements s p h).getLast?.getD false) rfl ?_ h
  intro h c ih
  rw [isLive_step, ih]
  unfold announcements
  rw [List.filterMap_append, List.filterMap_cons, List.filterMap_nil]
  cases c.op.announces s p with
  | none => rw [List.append_nil]; rfl
  | some b => rw [List.getLast?_concat]; rfl

theorem noEmptyZombie_run (t now now' : TimePoint) (s : Guid) (h : List Call) :
    ∀ d ∈ (run step (init t now now') h).databaseOf s, NoEmptyZombie d := by
  refine run_invariant (P := fun db => ∀ d ∈ databaseOf s db, NoEmptyZombie d) ?_ ?_ h
  · intro db c hdb
    rw [databaseOf_step]
    split_ifs
    · exact noEmptyZombie_act c hdb
    · exact hdb
  · intro d hd
    cases hd

end DiscoveryItemDatabase

/-- **Liveness bookkeeping is exact.** After any history of calls: every item is
alive or stores at least one endpoint; and an item for `p` is present and alive
in the database of `s` exactly when the last call that speaks about it is an
addition. -/
theorem liveness_exact (t now now' : TimePoint) (h : List Call) :
    (∀ s d, (run DiscoveryItemDatabase.step (.init t now now') h).databaseOf s = some d →
      ∀ p it, d.items.find? p = some it → it.isAlive = true ∨ 0 < it.countEndpoints) ∧
    (∀ s p, (∃ d it, (run DiscoveryItemDatabase.step (.init t now now') h).databaseOf s = some d ∧
        d.items.find? p = some it ∧ it.isAlive = true) ↔
      (announcements s p h).getLast? = some true) := by
  refine ⟨fun s d hd => DiscoveryItemDatabase.noEmptyZombie_run t now now' s h d hd,
    fun s p => ?_⟩
  have hrun := DiscoveryItemDatabase.isLive_run t now now' s p h
  have hlive : (∃ d it,
      (run DiscoveryItemDatabase.step (.init t now now') h).databaseOf s = some d ∧
      d.items.find? p = some it ∧ it.isAlive = true) ↔
      (run DiscoveryItemDatabase.step (.init t now now') h).isLive s p = true := by
    simp only [DiscoveryItemDatabase.isLive, liveIn, Option.any_eq_true, Option.bind_eq_some_iff]
    tauto
  rw [hlive, hrun]
  cases (announcements s p h).getLast? with
  | none => simp
  | some b => simp

end DiscoveryServer
