import DiscoveryServer.Execution

/-!
# What the manager holds

Six maps of the manager say which participants and endpoints there are: the
participants by role, what they have created, and the endpoints. `Holdings` is
what these maps hold under each GUID, whether or not a null entry is stored, and
every method of the manager has a lemma saying how it changes the holdings.
-/

namespace DiscoveryServer

open Library

/-- What the maps of the manager hold under each GUID. -/
@[ext]
structure Holdings where
  filed : ParticipantRole → Guid → Option DomainParticipant
  participant : Guid → Option DomainParticipant
  pubSub : ReaderWriter → Guid → Option PubSub
  endpoint : ReaderWriter → Guid → Option Endpoint

namespace Holdings

/-- A participant filed under a role, with what it has created. -/
def file (h : Holdings) (r : ParticipantRole) (p : DomainParticipant)
    (pubSub : ReaderWriter → Option PubSub) : Holdings where
  filed r' g := if r' = r ∧ g = p.guid then some p else h.filed r' g
  participant g := if g = p.guid then some p else h.participant g
  pubSub k g := if g = p.guid then pubSub k else h.pubSub k g
  endpoint := h.endpoint

/-- Nothing filed under a GUID any more, nor endpoints with its prefix. -/
def forget (h : Holdings) (id : Guid) : Holdings where
  filed r g := if g = id then none else h.filed r g
  participant g := if g = id then none else h.participant g
  pubSub k g := if g = id then none else h.pubSub k g
  endpoint k g := if id.guidPrefix = g.guidPrefix then none else h.endpoint k g

def keepEndpoint (h : Holdings) (k : ReaderWriter) (e : Endpoint) : Holdings :=
  { h with endpoint := fun k' g => if k' = k ∧ g = e.guid then some e else h.endpoint k' g }

def dropEndpoint (h : Holdings) (k : ReaderWriter) (id : Guid) : Holdings :=
  { h with endpoint := fun k' g => if k' = k ∧ g = id then none else h.endpoint k' g }

end Holdings

namespace DiscoveryServerManager

def holdings (m : DiscoveryServerManager) : Holdings where
  filed r g := (m.participants r).get? g
  participant g := (m.info g).participant
  pubSub k g := (m.info g).pubSub k
  endpoint k g := (m.endpoints k).get? g

theorem info_setParticipantInfo (m : DiscoveryServerManager) (id : Guid)
    (i : ParticipantCreatedEntityInfo) (g : Guid) :
    (m.setParticipantInfo id i).info g = if g = id then i else m.info g := by
  unfold info setParticipantInfo
  dsimp only
  rw [OrdMap.get?_set]
  split_ifs <;> rfl

theorem info_readInfo (m : DiscoveryServerManager) (id g : Guid) :
    (m.readInfo id).info g = m.info g := by
  unfold info readInfo
  dsimp only
  rw [OrdMap.get?_touch]
  by_cases h : g = id
  · rw [if_pos h, h]
    rfl
  · rw [if_neg h]

@[simp] theorem holdings_readInfo (m : DiscoveryServerManager) (id : Guid) :
    (m.readInfo id).holdings = m.holdings := by
  unfold holdings
  simp only [info_readInfo]
  rfl

@[simp] theorem holdings_modifyEvent (m : DiscoveryServerManager) (ptr : EventPtr)
    (f : LateJoinerData → LateJoinerData) : (m.modifyEvent ptr f).holdings = m.holdings := rfl

@[simp] theorem holdings_setGuid (m : DiscoveryServerManager) (p : Option EventPtr) (id : Guid) :
    (m.setGuid p id).holdings = m.holdings := by
  cases p <;> rfl

@[simp] theorem holdings_takeSnapshot (m : DiscoveryServerManager) (tp : TimePoint)
    (desc : String) (someone showLiveliness : Bool) :
    (m.takeSnapshot tp desc someone showLiveliness).1.holdings = m.holdings := rfl

/-- Topics are written into the entry a participant has. -/
theorem holdings_setParticipantInfo_self (m : DiscoveryServerManager) (id : Guid)
    (i : ParticipantCreatedEntityInfo) (hp : i.participant = (m.info id).participant)
    (hs : i.pubSub = (m.info id).pubSub) :
    (m.setParticipantInfo id i).holdings = m.holdings := by
  refine Holdings.ext rfl ?_ ?_ rfl
  · funext g
    show ((m.setParticipantInfo id i).info g).participant = (m.info g).participant
    rw [info_setParticipantInfo]
    split_ifs with h
    · rw [hp, h]
    · rfl
  · funext k g
    show ((m.setParticipantInfo id i).info g).pubSub k = (m.info g).pubSub k
    rw [info_setParticipantInfo]
    split_ifs with h
    · rw [hs, h]
    · rfl

@[simp] theorem holdings_setParticipantTopic (m : DiscoveryServerManager)
    (p : Option DomainParticipant) (t : Option Topic) :
    (m.setParticipantTopic p t).holdings = m.holdings := by
  cases p with
  | none => rfl
  | some p =>
    cases t with
    | none => rfl
    | some t =>
      unfold setParticipantTopic
      dsimp only
      cases hinfo : m.entityMap.get? p.guid with
      | none => rfl
      | some i =>
        have hi : m.info p.guid = i := by
          unfold info
          rw [hinfo]
          rfl
        refine holdings_setParticipantInfo_self m _ _ (by rw [hi]) ?_
        rw [hi]
        funext k
        cases k <;> rfl

@[simp] theorem holdings_setDomainEntityTopic (m : DiscoveryServerManager)
    (e : Option Endpoint) (t : Option Topic) :
    (m.setDomainEntityTopic e t).holdings = m.holdings := by
  cases e with
  | none => rfl
  | some e =>
    cases t with
    | none => rfl
    | some t =>
      refine holdings_setParticipantInfo_self m _ _ ?_ ?_
      · cases e.kind <;> rfl
      · funext k
        cases e.kind <;> cases k <;> rfl

theorem endpoints_setEndpoints (m : DiscoveryServerManager) (k k' : ReaderWriter)
    (es : OrdMap Guid Endpoint) :
    (m.setEndpoints k es).endpoints k' = if k' = k then es else m.endpoints k' := by
  cases k <;> cases k' <;> rfl

theorem holdings_setEndpoints (m : DiscoveryServerManager) (k : ReaderWriter)
    (es : OrdMap Guid Endpoint) :
    (m.setEndpoints k es).holdings = { m.holdings with
      endpoint := fun k' g => if k' = k then es.get? g else m.holdings.endpoint k' g } := by
  refine Holdings.ext ?_ ?_ ?_ ?_
  · funext r g
    cases k <;> cases r <;> rfl
  · cases k <;> rfl
  · cases k <;> rfl
  · funext k' g
    show ((m.setEndpoints k es).endpoints k').get? g = _
    rw [endpoints_setEndpoints]
    show _ = if k' = k then es.get? g else (m.endpoints k').get? g
    split_ifs <;> rfl

theorem holdings_addEndpoint (k : ReaderWriter) (m : DiscoveryServerManager) (e : Endpoint) :
    (addEndpoint k m (some e)).holdings = m.holdings.keepEndpoint k e := by
  unfold addEndpoint
  dsimp only
  rw [holdings_setEndpoints]
  refine Holdings.ext rfl rfl rfl ?_
  funext k' g
  show (if k' = k then ((m.endpoints k).set e.guid e).get? g else m.holdings.endpoint k' g) = _
  unfold Holdings.keepEndpoint
  by_cases hk : k' = k
  · subst hk
    rw [if_pos rfl, OrdMap.get?_set]
    simp only [true_and]
    rfl
  · rw [if_neg hk]
    simp only [hk, false_and, if_false]

theorem holdings_removeEndpoint (k : ReaderWriter) (m : DiscoveryServerManager) (id : Guid) :
    (removeEndpoint k m id).1.holdings = m.holdings.dropEndpoint k id := by
  have hdrop : ∀ k' g, (m.holdings.dropEndpoint k id).endpoint k' g =
      if k' = k ∧ g = id then none else (m.endpoints k').get? g := fun _ _ => rfl
  unfold removeEndpoint
  cases h : (m.endpoints k).get? id with
  | none =>
    refine Holdings.ext rfl rfl rfl ?_
    funext k' g
    rw [hdrop]
    split_ifs with hkg
    · rw [hkg.1, hkg.2]
      exact h
    · rfl
  | some e =>
    dsimp only
    rw [holdings_setEndpoints]
    refine Holdings.ext rfl rfl rfl ?_
    funext k' g
    rw [hdrop]
    dsimp only
    by_cases hk : k' = k
    · subst hk
      rw [if_pos rfl, OrdMap.get?_erase]
      simp only [true_and]
    · rw [if_neg hk]
      simp only [hk, false_and, if_false]
      rfl

@[simp] theorem removeEndpoint_snd (k : ReaderWriter) (m : DiscoveryServerManager) (id : Guid) :
    (removeEndpoint k m id).2 = m.holdings.endpoint k id := by
  unfold removeEndpoint
  show _ = (m.endpoints k).get? id
  cases (m.endpoints k).get? id <;> rfl

/-! ## Participants -/

theorem filed_eq_some {m : DiscoveryServerManager} {id : Guid} {p : DomainParticipant}
    (h : m.filed id = some p) : ∃ r, m.holdings.filed r id = some p := by
  unfold filed at h
  cases hc : m.clients.get? id with
  | some c =>
    rw [hc] at h
    exact ⟨.client, hc.trans h⟩
  | none =>
    rw [hc] at h
    cases hs : m.servers.get? id with
    | some s =>
      rw [hs] at h
      exact ⟨.server, hs.trans h⟩
    | none =>
      rw [hs] at h
      exact ⟨.simple, h⟩

theorem filed_eq_none {m : DiscoveryServerManager} {id : Guid} (h : m.filed id = none)
    (r : ParticipantRole) : m.holdings.filed r id = none := by
  unfold filed at h
  cases hc : m.clients.get? id with
  | some c => rw [hc] at h; cases h
  | none =>
    rw [hc] at h
    cases hs : m.servers.get? id with
    | some s => rw [hs] at h; cases h
    | none =>
      rw [hs] at h
      cases r with
      | server => exact hs
      | client => exact hc
      | simple => exact h

/-- Where everybody who is filed is known, the entity map alone answers. -/
theorem getParticipant_eq {m : DiscoveryServerManager}
    (hknown : ∀ r g, (m.holdings.filed r g).isSome → (m.holdings.participant g).isSome) (g : Guid) :
    m.getParticipant g = m.holdings.participant g := by
  have hparticipant : m.holdings.participant g = (m.info g).participant := rfl
  unfold getParticipant
  unfold info at hparticipant
  cases hinfo : m.entityMap.get? g with
  | some i =>
    rw [hparticipant, hinfo]
    rfl
  | none =>
    rw [hinfo] at hparticipant
    have hnone : m.holdings.participant g = none := hparticipant
    rw [hnone, Option.eq_none_iff_forall_ne_some]
    intro p hp
    obtain ⟨r, hr⟩ := filed_eq_some hp
    have hsome := hknown r g (by rw [hr]; rfl)
    rw [hnone] at hsome
    cases hsome

theorem holdings_creationFunction (r : ParticipantRole) (m : DiscoveryServerManager)
    (p : DomainParticipant) :
    (r.creationFunction m p).holdings = { m.holdings with
      filed := fun r' g => if r' = r ∧ g = p.guid then some p else m.holdings.filed r' g } := by
  refine Holdings.ext ?_ ?_ ?_ ?_
  · funext r' g
    show ((r.creationFunction m p).participants r').get? g =
      if r' = r ∧ g = p.guid then some p else (m.participants r').get? g
    by_cases hr : r' = r
    · subst hr
      simp only [true_and]
      cases r' <;> exact OrdMap.get?_set _ _ _ _
    · rw [if_neg fun h => hr h.1]
      cases r <;> cases r' <;> first | rfl | exact absurd rfl hr
  · cases r <;> rfl
  · cases r <;> rfl
  · cases r <;> rfl

theorem holdings_setParticipantInfo (m : DiscoveryServerManager) (id : Guid)
    (i : ParticipantCreatedEntityInfo) :
    (m.setParticipantInfo id i).holdings = { m.holdings with
      participant := fun g => if g = id then i.participant else m.holdings.participant g
      pubSub := fun k g => if g = id then i.pubSub k else m.holdings.pubSub k g } := by
  refine Holdings.ext rfl ?_ ?_ rfl
  · funext g
    show ((m.setParticipantInfo id i).info g).participant =
      if g = id then i.participant else (m.info g).participant
    rw [info_setParticipantInfo]
    split_ifs <;> rfl
  · funext k g
    show ((m.setParticipantInfo id i).info g).pubSub k =
      if g = id then i.pubSub k else (m.info g).pubSub k
    rw [info_setParticipantInfo]
    split_ifs <;> rfl

/-- The participant goes from one map; that is all there is when it is in one. -/
theorem get?_participants_unfile (m : DiscoveryServerManager) (id : Guid)
    (hone : ∀ r r' p p', m.holdings.filed r id = some p → m.holdings.filed r' id = some p' → r = r')
    (r : ParticipantRole) (g : Guid) :
    ((m.unfile id).participants r).get? g =
      if g = id then none else (m.participants r).get? g := by
  -- the role the participant is erased from, and the roles it was never in
  have herase : ∀ r', ((m.unfile id).participants r' = (m.participants r').erase id) ∨
      ((m.unfile id).participants r' = m.participants r' ∧ (m.participants r').get? id = none) := by
    intro r'
    have hout : ∀ r p, (m.participants r).get? id = some p → r' ≠ r →
        (m.participants r').get? id = none := by
      intro r p hp hne
      rw [Option.eq_none_iff_forall_ne_some]
      intro p' hp'
      exact hne (hone r' r p' p hp' hp)
    unfold unfile
    cases hc : m.clients.get? id with
    | some c =>
      cases r' with
      | client => exact .inl rfl
      | server => exact .inr ⟨rfl, hout .client c hc (by decide)⟩
      | simple => exact .inr ⟨rfl, hout .client c hc (by decide)⟩
    | none =>
      cases hs : m.servers.get? id with
      | some s =>
        cases r' with
        | client => exact .inr ⟨rfl, hc⟩
        | server => exact .inl rfl
        | simple => exact .inr ⟨rfl, hout .server s hs (by decide)⟩
      | none =>
        cases r' with
        | client => exact .inr ⟨rfl, hc⟩
        | server => exact .inr ⟨rfl, hs⟩
        | simple => exact .inl rfl
  rcases herase r with h | ⟨h, hnone⟩
  · rw [h, OrdMap.get?_erase]
  · rw [h]
    split_ifs with hg
    · rw [hg, hnone]
    · rfl

theorem info_unfile (m : DiscoveryServerManager) (id : Guid) : (m.unfile id).info = m.info := by
  unfold unfile
  cases m.clients.get? id with
  | some c => rfl
  | none => cases m.servers.get? id <;> rfl

theorem get?_purge (id : Guid) (es : OrdMap Guid Endpoint) (g : Guid) :
    (purge id es).get? g = if id.guidPrefix = g.guidPrefix then none else es.get? g := by
  have h := OrdMap.get?_filter_key es (fun k => ¬ id.guidPrefix = k.guidPrefix) g
  unfold purge
  by_cases hg : id.guidPrefix = g.guidPrefix
  · rw [if_pos hg]
    simpa [hg] using h
  · rw [if_neg hg]
    simpa [hg] using h

theorem holdings_removeParticipant (m : DiscoveryServerManager) (id : Guid)
    (hone : ∀ r r' p p', m.holdings.filed r id = some p → m.holdings.filed r' id = some p' →
      r = r') :
    (m.removeParticipant id).1.holdings = { m.holdings.forget id with
      participant := m.holdings.participant
      pubSub := m.holdings.pubSub } := by
  have hendpoints : ∀ m : DiscoveryServerManager, (m.unfile id).endpoints = m.endpoints := by
    intro m
    unfold unfile
    cases m.clients.get? id with
    | some c => rfl
    | none => cases m.servers.get? id <;> rfl
  unfold removeParticipant removeEntities removeDatabase
  dsimp only
  refine Holdings.ext ?_ ?_ ?_ ?_
  · funext r g
    refine (get?_participants_unfile _ id ?_ r g).trans ?_
    · intro r r' p p' hp hp'
      refine hone r r' p p' ?_ ?_
      · cases r <;> exact hp
      · cases r' <;> exact hp'
    · cases r <;> rfl
  · funext g
    exact congrArg ParticipantCreatedEntityInfo.participant (congrFun (info_unfile _ id) g)
  · funext k g
    exact congrArg (fun i => i.pubSub k) (congrFun (info_unfile _ id) g)
  · funext k g
    refine (congrArg (fun es : OrdMap Guid Endpoint => es.get? g)
      (congrFun (hendpoints _) k)).trans ?_
    cases k with
    | dataReader => exact get?_purge id m.dataReaders g
    | dataWriter => exact get?_purge id m.dataWriters g

theorem holdings_eraseInfo (m : DiscoveryServerManager) (id : Guid) :
    { m with entityMap := m.entityMap.erase id }.holdings = { m.holdings with
      participant := fun g => if g = id then none else m.holdings.participant g
      pubSub := fun k g => if g = id then none else m.holdings.pubSub k g } := by
  have hinfo : ∀ g, { m with entityMap := m.entityMap.erase id }.info g =
      if g = id then {} else m.info g := by
    intro g
    unfold info
    dsimp only
    rw [OrdMap.get?_erase]
    split_ifs <;> rfl
  refine Holdings.ext rfl ?_ ?_ rfl
  · funext g
    show ({ m with entityMap := m.entityMap.erase id }.info g).participant =
      if g = id then none else (m.info g).participant
    rw [hinfo]
    split_ifs <;> rfl
  · funext k g
    show ({ m with entityMap := m.entityMap.erase id }.info g).pubSub k =
      if g = id then none else (m.info g).pubSub k
    rw [hinfo]
    split_ifs
    · cases k <;> rfl
    · rfl

end DiscoveryServerManager

end DiscoveryServer
