import DiscoveryServer.Database

/-!
# What each operation does to one item

An operation on a spokesman's database looks one item up and changes that item
alone. The effect on the item is a function of its own (`announced`, `buried`,
`filed`, `unfiled`, `relived`), and one `find?` lemma for each operation says
where it is applied. The proofs about histories use these lemmas and never
unfold an operation again.

`AddEndPoint` is the exception: the item it changes is `filedUnder`, which need
not be the participant the endpoint was reported for.
-/

namespace DiscoveryServer

open Library ParticipantDiscoveryDatabase

/-! ## Effects on an item -/

/-- The item of `p` after `AddParticipant`. -/
def announced (now : TimePoint) (p : Guid) (name : String) (tp : TimePoint) (server : Bool) :
    Option ParticipantDiscoveryItem → ParticipantDiscoveryItem
  | none => { defaultItem now p with participantName := name, isServer := server }
  | some it =>
    if it.isAlive then it
    else { it with participantName := name, isAlive := true, isServer := server,
                   discoveredTimestamp := tp }

/-- The item after `RemoveParticipant`: a zombie while endpoints remain. -/
def buried (it : ParticipantDiscoveryItem) : Option ParticipantDiscoveryItem :=
  if 0 < it.countEndpoints then some { it with isAlive := false } else none

section EndPoints

variable {ε : Type} [Keyed Guid ε] (m : EndPointContainer ε)

/-- The item with the endpoint `e` filed in it. -/
def filed (e : Guid) (type topic : String) (tp : TimePoint) (it : ParticipantDiscoveryItem) :
    ParticipantDiscoveryItem :=
  match (m.get it).find? e with
  | none => m.set it ((m.get it).insert (m.construct e type topic tp))
  | some _ => it

/-- The item without the endpoint `e`; a zombie goes with its last endpoint. -/
def unfiled (e : Guid) (it : ParticipantDiscoveryItem) : Option ParticipantDiscoveryItem :=
  match (m.get it).find? e with
  | none => some it
  | some _ =>
    let it := m.set it ((m.get it).erase e)
    if it.countEndpoints = 0 && !it.isAlive then none else some it

theorem filed_isAlive (e : Guid) (type topic : String) (tp : TimePoint)
    (it : ParticipantDiscoveryItem) : (filed m e type topic tp it).isAlive = it.isAlive := by
  unfold filed
  split
  · exact m.isAlive_set ..
  · rfl

end EndPoints

/-- The item with the liveliness counters of the reader `r` set. -/
def relived (r : Guid) (a n : Int) (it : ParticipantDiscoveryItem) : ParticipantDiscoveryItem :=
  match it.datareaders.find? r with
  | none => it
  | some sub =>
    { it with
      datareaders := it.datareaders.update { sub with aliveCount := a, notAliveCount := n } }

/-! ## What the effects keep

Liveness changes only in `announced` and `buried`, the endpoints only in `filed`
and `unfiled`. -/

theorem announced_isAlive (now : TimePoint) (p : Guid) (name : String) (tp : TimePoint)
    (server : Bool) (it : Option ParticipantDiscoveryItem) :
    (announced now p name tp server it).isAlive = true := by
  cases it with
  | none => rfl
  | some i =>
    simp only [announced]
    split_ifs with halive
    · exact halive
    · rfl

theorem announced_endPointGuids {now : TimePoint} {p : Guid} {name : String} {tp : TimePoint}
    {server : Bool} {it : Option ParticipantDiscoveryItem} {k : EndPointKind} {e : Guid}
    (h : e ∈ (announced now p name tp server it).endPointGuids k) :
    ∃ i, it = some i ∧ e ∈ i.endPointGuids k := by
  cases it with
  | none => cases k <;> exact absurd h List.not_mem_nil
  | some i =>
    refine ⟨i, rfl, ?_⟩
    simp only [announced] at h
    split_ifs at h
    · exact h
    · cases k <;> exact h

theorem buried_isAlive {it it' : ParticipantDiscoveryItem} (h : buried it = some it') :
    it'.isAlive = false := by
  unfold buried at h
  split_ifs at h
  cases h
  rfl

theorem buried_endPointGuids {it it' : ParticipantDiscoveryItem} (h : buried it = some it')
    (k : EndPointKind) : it'.endPointGuids k = it.endPointGuids k := by
  unfold buried at h
  split_ifs at h
  cases h
  cases k <;> rfl

theorem countEndpoints_of_buried {it it' : ParticipantDiscoveryItem} (h : buried it = some it') :
    0 < it'.countEndpoints := by
  unfold buried at h
  split_ifs at h with hcount
  cases h
  exact hcount

theorem relived_isAlive (r : Guid) (a n : Int) (it : ParticipantDiscoveryItem) :
    (relived r a n it).isAlive = it.isAlive := by
  unfold relived
  split <;> rfl

theorem relived_endPointGuids (r : Guid) (a n : Int) (it : ParticipantDiscoveryItem)
    (k : EndPointKind) : (relived r a n it).endPointGuids k = it.endPointGuids k := by
  unfold relived
  split
  · rfl
  · cases k with
    | dataReader => exact OrdSet.keys_update ..
    | dataWriter => rfl

section EndPoints

variable {ε : Type} [Keyed Guid ε] (m : EndPointContainer ε)

/-- Filing adds the one endpoint, in the one container. -/
theorem mem_filed_endPointGuids {e e' : Guid} {type topic : String} {tp : TimePoint}
    {it : ParticipantDiscoveryItem} {k : EndPointKind} :
    e' ∈ (filed m e type topic tp it).endPointGuids k ↔
      e' ∈ it.endPointGuids k ∨ (k = m.kind ∧ e' = e) := by
  unfold filed
  cases hfind : (m.get it).find? e with
  | none =>
    simp only [m.endPointGuids_set]
    split_ifs with hk
    · rw [OrdSet.mem_keys_insert, m.keys_get, m.key_construct, hk]
      tauto
    · simp [hk]
  | some sit =>
    have hmem : e ∈ it.endPointGuids m.kind := by
      rw [← m.keys_get, OrdSet.mem_keys, hfind]
      rfl
    constructor
    · exact .inl
    · rintro (h | ⟨rfl, rfl⟩)
      · exact h
      · exact hmem

theorem unfiled_isAlive {e : Guid} {it it' : ParticipantDiscoveryItem}
    (h : unfiled m e it = some it') : it'.isAlive = it.isAlive := by
  unfold unfiled at h
  cases hfind : (m.get it).find? e with
  | none =>
    simp only [hfind] at h
    cases h
    rfl
  | some sit =>
    simp only [hfind] at h
    split_ifs at h
    cases h
    exact m.isAlive_set ..

theorem isAlive_of_unfiled {e : Guid} {it : ParticipantDiscoveryItem} (h : unfiled m e it = none) :
    it.isAlive = false := by
  unfold unfiled at h
  cases hfind : (m.get it).find? e with
  | none => simp only [hfind] at h; cases h
  | some sit =>
    simp only [hfind, m.isAlive_set] at h
    split_ifs at h with hgone
    simp only [Bool.and_eq_true, Bool.not_eq_true'] at hgone
    exact hgone.2

theorem unfiled_endPointGuids {e e' : Guid} {it it' : ParticipantDiscoveryItem}
    (h : unfiled m e it = some it') {k : EndPointKind} (hmem : e' ∈ it'.endPointGuids k) :
    e' ∈ it.endPointGuids k := by
  unfold unfiled at h
  cases hfind : (m.get it).find? e with
  | none =>
    simp only [hfind] at h
    cases h
    exact hmem
  | some sit =>
    simp only [hfind] at h
    split_ifs at h
    cases h
    rw [m.endPointGuids_set] at hmem
    split_ifs at hmem with hk
    · rw [hk, ← m.keys_get]
      exact OrdSet.mem_keys_of_mem_keys_erase hmem
    · exact hmem

/-- What is left after a removal is alive or holds an endpoint, if it was so before. -/
theorem backed_of_unfiled {e : Guid} {it it' : ParticipantDiscoveryItem}
    (hback : it.isAlive = true ∨ 0 < it.countEndpoints) (h : unfiled m e it = some it') :
    it'.isAlive = true ∨ 0 < it'.countEndpoints := by
  unfold unfiled at h
  cases hfind : (m.get it).find? e with
  | none =>
    simp only [hfind] at h
    cases h
    exact hback
  | some sit =>
    simp only [hfind] at h
    split_ifs at h with hgone
    cases h
    simp only [Bool.and_eq_true, decide_eq_true_eq, Bool.not_eq_true', not_and,
      Bool.not_eq_false] at hgone
    by_cases hcount : (m.set it ((m.get it).erase e)).countEndpoints = 0
    · exact .inl (hgone hcount)
    · exact .inr (by omega)

end EndPoints

namespace ParticipantDiscoveryDatabase

variable (d : ParticipantDiscoveryDatabase)

/-! ## Where the effect goes -/

theorem find?_addParticipant (now : TimePoint) (p : Guid) (name : String) (tp : TimePoint)
    (server : Bool) (q : Guid) :
    (d.addParticipant now p name tp server).items.find? q =
      if q = p then some (announced now p name tp server (d.items.find? p))
      else d.items.find? q := by
  unfold addParticipant
  rw [OrdSet.locate_eq_find?]
  cases hp : d.items.find? p with
  | none =>
    simp only [OrdSet.find?_insert, key_participantItem, defaultItem, announced]
    split_ifs with hq
    · rw [hq, hp]; rfl
    · rfl
  | some it =>
    have hguid : it.endpointGuid = p := OrdSet.find?_key hp
    simp only [announced]
    split_ifs with halive hq hq
    · rw [hq, hp]
    · rfl
    · simp only [OrdSet.find?_update, key_participantItem, hguid, hq, if_true, hp, Option.map_some]
    · simp only [OrdSet.find?_update, key_participantItem, hguid, hq, if_false]

theorem find?_removeParticipant (p q : Guid) :
    (d.removeParticipant p).1.items.find? q =
      if q = p then (d.items.find? p).bind buried else d.items.find? q := by
  unfold removeParticipant
  rw [OrdSet.locate_eq_find?]
  cases hp : d.items.find? p with
  | none =>
    split_ifs with hq
    · rw [hq]; exact hp
    · rfl
  | some it =>
    have hguid : it.endpointGuid = p := OrdSet.find?_key hp
    simp only [Option.bind_some, buried]
    split_ifs with hcount hq hq
    · simp only [OrdSet.find?_update, key_participantItem, hguid, hq, if_true, hp, Option.map_some]
    · simp only [OrdSet.find?_update, key_participantItem, hguid, hq, if_false]
    · simp only [OrdSet.find?_erase, hq, if_true]
    · simp only [OrdSet.find?_erase, hq, if_false]

/-- The participant `AddEndPoint` files an endpoint of `p` under. -/
def filedUnder (s p : Guid) : Guid :=
  match d.items.lowerBound p with
  | none => p
  | some it => if p = s then p else it.endpointGuid

/-- The item emplaced for `p` when its owner is asked for: a zombie, except for
the spokesman itself. -/
def emplacedOwner (now : TimePoint) (s p : Guid) : ParticipantDiscoveryItem :=
  { d.items.emplaced (defaultItem now p) with isAlive := p = s }

/-- The item it is filed in, as it stands before the endpoint is added. -/
def filingItem (now : TimePoint) (s p : Guid) : ParticipantDiscoveryItem :=
  match d.items.lowerBound p with
  | none => d.emplacedOwner now s p
  | some it => if p = s then d.emplacedOwner now s p else it

theorem filedUnder_self (s : Guid) : d.filedUnder s s = s := by
  unfold filedUnder
  split
  · rfl
  · exact if_pos rfl

theorem emplacedOwner_endpointGuid (now : TimePoint) (s p : Guid) :
    (d.emplacedOwner now s p).endpointGuid = p :=
  OrdSet.key_emplaced d.items (defaultItem now p)

theorem emplacedOwner_of_none {p : Guid} (hp : d.items.find? p = none) (now : TimePoint)
    (s : Guid) : d.emplacedOwner now s p = { defaultItem now p with isAlive := p = s } := by
  simp only [emplacedOwner, OrdSet.emplaced, key_participantItem, defaultItem_endpointGuid, hp,
    Option.getD_none]

theorem emplacedOwner_of_some {p : Guid} {it : ParticipantDiscoveryItem}
    (hp : d.items.find? p = some it) (now : TimePoint) (s : Guid) :
    d.emplacedOwner now s p = { it with isAlive := p = s } := by
  simp only [emplacedOwner, OrdSet.emplaced, key_participantItem, defaultItem_endpointGuid, hp,
    Option.getD_some]

theorem filingItem_endpointGuid (now : TimePoint) (s p : Guid) :
    (d.filingItem now s p).endpointGuid = d.filedUnder s p := by
  unfold filingItem filedUnder
  split
  · exact d.emplacedOwner_endpointGuid now s p
  · split_ifs
    · exact d.emplacedOwner_endpointGuid now s p
    · rfl

/-- The item an endpoint is filed in is the stored one, made alive when it is the
spokesman's own, or a fresh one: a zombie unless it is the spokesman's own. -/
theorem filingItem_cases (now : TimePoint) (s p : Guid) :
    (∃ it, d.items.find? (d.filedUnder s p) = some it ∧
      (d.filingItem now s p = it ∧ p ≠ s ∨
        d.filingItem now s p = { it with isAlive := true } ∧ p = s)) ∨
    (d.items.find? (d.filedUnder s p) = none ∧ d.filedUnder s p = p ∧
      d.filingItem now s p = { defaultItem now p with isAlive := p = s }) := by
  by_cases hs : p = s
  · have hunder : d.filedUnder s p = p := by rw [hs, filedUnder_self]
    have hfiling : d.filingItem now s p = d.emplacedOwner now s p := by
      unfold filingItem
      cases d.items.lowerBound p with
      | none => rfl
      | some it => exact if_pos hs
    rw [hunder, hfiling]
    cases hp : d.items.find? p with
    | none => exact .inr ⟨rfl, rfl, d.emplacedOwner_of_none hp now s⟩
    | some it =>
      refine .inl ⟨it, rfl, .inr ⟨?_, hs⟩⟩
      rw [d.emplacedOwner_of_some hp, decide_eq_true hs]
  · unfold filedUnder filingItem
    cases hl : d.items.lowerBound p with
    | none =>
      have hp : d.items.find? p = none :=
        OrdSet.find?_eq_none.mpr fun a ha => (OrdSet.lowerBound_eq_none.mp hl a ha).ne
      exact .inr ⟨hp, rfl, d.emplacedOwner_of_none hp now s⟩
    | some it =>
      have hmem := (OrdSet.lowerBound_eq_some.mp hl).1
      simp only [if_neg hs]
      exact .inl ⟨it, OrdSet.find?_of_mem hmem, .inl ⟨rfl, hs⟩⟩

theorem endPointOwner_snd (now : TimePoint) (s p : Guid) :
    (d.endPointOwner now s p).2 = d.filingItem now s p := by
  unfold endPointOwner filingItem
  cases d.items.lowerBound p with
  | none => rfl
  | some it =>
    simp only
    split_ifs <;> rfl

/-- `endPointOwner` stores the filing item and touches nothing else. -/
theorem find?_endPointOwner (now : TimePoint) (s p q : Guid) :
    (d.endPointOwner now s p).1.find? q =
      if q = d.filedUnder s p then some (d.filingItem now s p) else d.items.find? q := by
  have hemplace : ((d.items.insert (defaultItem now p)).update (d.emplacedOwner now s p)).find? q =
      if q = p then some (d.emplacedOwner now s p) else d.items.find? q :=
    OrdSet.find?_update_insert d.items (d.emplacedOwner_endpointGuid now s p) q
  unfold endPointOwner filedUnder filingItem
  cases hl : d.items.lowerBound p with
  | none => exact hemplace
  | some it =>
    simp only
    split_ifs with hs hq hq
    · rw [if_pos hq] at hemplace
      exact hemplace
    · rw [if_neg hq] at hemplace
      exact hemplace
    · rw [hq]
      exact OrdSet.find?_of_mem (OrdSet.lowerBound_eq_some.mp hl).1
    · rfl

variable {ε : Type} [Keyed Guid ε] (m : EndPointContainer ε)

theorem find?_addEndPoint (now : TimePoint) (s p e : Guid) (type topic : String)
    (tp : TimePoint) (q : Guid) :
    (d.addEndPoint m now s p e type topic tp).items.find? q =
      if q = d.filedUnder s p then some (filed m e type topic tp (d.filingItem now s p))
      else d.items.find? q := by
  have hguid : ∀ c, (m.set (d.filingItem now s p) c).endpointGuid = d.filedUnder s p :=
    fun c => (m.endpointGuid_set ..).trans (d.filingItem_endpointGuid now s p)
  unfold addEndPoint filed
  simp only [endPointOwner_snd, OrdSet.locate_eq_find?]
  cases (m.get (d.filingItem now s p)).find? e with
  | none =>
    simp only [OrdSet.find?_update, find?_endPointOwner, key_participantItem, hguid]
    split_ifs <;> rfl
  | some sit => exact d.find?_endPointOwner now s p q

theorem find?_removeEndPoint (p e q : Guid) :
    (d.removeEndPoint m p e).1.items.find? q =
      if q = p then (d.items.find? p).bind (unfiled m e) else d.items.find? q := by
  unfold removeEndPoint
  simp only [OrdSet.locate_eq_find?]
  cases hp : d.items.find? p with
  | none =>
    split_ifs with hq
    · rw [hq]; exact hp
    · rfl
  | some it =>
    have hguid : ∀ c, (m.set it c).endpointGuid = p :=
      fun c => (m.endpointGuid_set ..).trans (OrdSet.find?_key hp)
    simp only [Option.bind_some, unfiled]
    cases (m.get it).find? e with
    | none =>
      dsimp only
      split_ifs with hq
      · rw [hq]; exact hp
      · rfl
    | some sit =>
      dsimp only
      split_ifs with hgone hq hq
      · simp only [OrdSet.find?_erase, hq, if_true]
      · simp only [OrdSet.find?_erase, hq, if_false]
      · simp only [OrdSet.find?_update, key_participantItem, hguid, hq, if_true, hp,
          Option.map_some]
      · simp only [OrdSet.find?_update, key_participantItem, hguid, hq, if_false]

theorem find?_updateSubLiveliness (r : Guid) (a n : Int) (q : Guid) :
    (d.updateSubLiveliness r a n).items.find? q =
      if q = r.participant then (d.items.find? q).map (relived r a n) else d.items.find? q := by
  unfold updateSubLiveliness
  simp only [OrdSet.locate_eq_find?]
  cases hp : d.items.find? r.participant with
  | none =>
    split_ifs with hq
    · rw [hq, hp]; rfl
    · rfl
  | some it =>
    have hguid : it.endpointGuid = r.participant := OrdSet.find?_key hp
    dsimp only
    cases hr : it.datareaders.find? r with
    | none =>
      have hsame : relived r a n it = it := by simp only [relived, hr]
      split_ifs with hq
      · rw [hq, hp, Option.map_some, hsame]
      · rfl
    | some sub =>
      rw [OrdSet.find?_update, key_participantItem]
      simp only [hguid]
      split_ifs with hq
      · rw [hq, hp, Option.map_some, Option.map_some]
        simp only [relived, hr, hguid]
      · rfl

end ParticipantDiscoveryDatabase

end DiscoveryServer
