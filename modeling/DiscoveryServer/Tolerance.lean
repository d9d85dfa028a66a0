import DiscoveryServer.Compare

/-!
# What the comparison forgives

`operator ==` is meant to forgive what two databases say about their own owners
and nothing else. `Agree` is what it forgives when the owners differ; here is
the same for two databases of one owner (`AgreeOwner`), and with both the
comparison is measured against its comment: whatever agrees up to the owners
should compare equal. It does so exactly for `Tolerated` databases
(`no_false_alarm_iff`): an entry for an owner that the other side lacks is
forgiven where a cursor reaches an end on it, but not always before.
-/

namespace DiscoveryServer

open Library ParticipantDiscoveryItem

/-! ## Two databases of one owner -/

/-- When two databases of `a` compare equal. -/
structure AgreeOwner (a : Guid) (f g : Knowledge) : Prop where
  others : ∀ c, c ≠ a → f c = g c
  owner : (f a).isSome → (g a).isSome → f a = g a

section Lists

variable {a : Guid} {x y : Info} {l r : List Info}

theorem AgreeOwner.symm {f g : Knowledge} (h : AgreeOwner a f g) : AgreeOwner a g f where
  others c hc := (h.others c hc).symm
  owner hg hf := (h.owner hf hg).symm

theorem agreeOwner_comm {f g : Knowledge} : AgreeOwner a f g ↔ AgreeOwner a g f :=
  ⟨AgreeOwner.symm, AgreeOwner.symm⟩

/-- One list has run out. -/
theorem agreeOwner_nil (hr : Ordered r) :
    AgreeOwner a (lookup []) (lookup r) ↔ r = [] ∨ ∃ y, r = [y] ∧ y.guid = a := by
  constructor
  · intro h
    have howner : ∀ y ∈ r, y.guid = a := by
      intro y hy
      by_contra hne
      have hsome := lookup_isSome_of_mem hy
      rw [← h.others y.guid hne] at hsome
      cases hsome
    cases r with
    | nil => exact .inl rfl
    | cons y r =>
      cases r with
      | nil => exact .inr ⟨y, rfl, howner y List.mem_cons_self⟩
      | cons z r =>
        -- two entries would have the same GUID
        have hz : z ∈ z :: r := List.mem_cons_self
        have hlt : y.guid < z.guid := List.rel_of_pairwise_cons hr hz
        rw [howner y List.mem_cons_self, howner z (List.mem_cons_of_mem y hz)] at hlt
        exact absurd hlt (lt_irrefl a)
  · rintro (rfl | ⟨y, rfl, hy⟩)
    · exact ⟨fun _ _ => rfl, fun _ _ => rfl⟩
    · refine ⟨fun c hc => ?_, fun hsome => ?_⟩
      · rw [lookup_cons_of_ne (hc.trans_eq hy.symm)]
      · cases hsome

/-- The same participant on both sides, known alike. -/
theorem agreeOwner_cons_cons (hl : Ordered (x :: l)) (hr : Ordered (x :: r)) :
    AgreeOwner a (lookup (x :: l)) (lookup (x :: r)) ↔ AgreeOwner a (lookup l) (lookup r) := by
  constructor
  · intro h
    refine ⟨fun c hc => ?_, fun hsome hsome' => ?_⟩
    · by_cases hcx : c = x.guid
      · rw [hcx, hl.lookup_tail le_rfl, hr.lookup_tail le_rfl]
      · rw [← lookup_cons_of_ne hcx, h.others c hc, lookup_cons_of_ne hcx]
    · have hax : a ≠ x.guid := by
        rintro rfl
        rw [hl.lookup_tail le_rfl] at hsome
        cases hsome
      have hfl : lookup (x :: l) a = lookup l a := lookup_cons_of_ne hax
      have hfr : lookup (x :: r) a = lookup r a := lookup_cons_of_ne hax
      rw [← hfl] at hsome ⊢
      rw [← hfr] at hsome' ⊢
      exact h.owner hsome hsome'
  · intro h
    refine ⟨fun c hc => ?_, fun hsome hsome' => ?_⟩
    · by_cases hcx : c = x.guid
      · rw [hcx, lookup_cons_self, lookup_cons_self]
      · rw [lookup_cons_of_ne hcx, lookup_cons_of_ne hcx]
        exact h.others c hc
    · by_cases hax : a = x.guid
      · rw [hax, lookup_cons_self, lookup_cons_self]
      · have hfl : lookup (x :: l) a = lookup l a := lookup_cons_of_ne hax
        have hfr : lookup (x :: r) a = lookup r a := lookup_cons_of_ne hax
        rw [hfl] at hsome ⊢
        rw [hfr] at hsome' ⊢
        exact h.owner hsome hsome'

/-- The same participant on both sides, known differently. -/
theorem not_agreeOwner_of_ne (hguid : x.guid = y.guid) (hne : x ≠ y) :
    ¬ AgreeOwner a (lookup (x :: l)) (lookup (y :: r)) := by
  intro h
  have hx : lookup (x :: l) x.guid = some x := lookup_cons_self x l
  have hy : lookup (y :: r) x.guid = some y := by rw [hguid, lookup_cons_self]
  have heq : lookup (x :: l) x.guid = lookup (y :: r) x.guid := by
    by_cases hax : x.guid = a
    · subst hax
      exact h.owner (by rw [hx]; rfl) (by rw [hy]; rfl)
    · exact h.others x.guid hax
  rw [hx, hy] at heq
  exact hne (Option.some.inj heq)

/-- The owner on one side, somebody else on the other. -/
theorem agreeOwner_sweep (hl : Ordered (x :: l)) (hr : Ordered (y :: r)) (hguid : x.guid ≠ y.guid)
    (hy : y.guid = a) :
    AgreeOwner a (lookup (x :: l)) (lookup (y :: r)) ↔
      AgreeOwner a (lookup (x :: l)) (lookup r) := by
  have hothers : ∀ c, c ≠ a → lookup (y :: r) c = lookup r c := fun c hc =>
    lookup_cons_of_ne (hc.trans_eq hy.symm)
  have hnone : lookup r a = none := hr.lookup_tail hy.ge
  constructor
  · intro h
    refine ⟨fun c hc => (h.others c hc).trans (hothers c hc), fun _ hsome => ?_⟩
    rw [hnone] at hsome
    cases hsome
  · intro h
    refine ⟨fun c hc => (h.others c hc).trans (hothers c hc).symm, fun hsome _ => ?_⟩
    -- the other head would have to come before the owner, and `r` knows nobody there
    have hne : x.guid ≠ a := fun hx => hguid (hx.trans hy.symm)
    have hgt : a < x.guid := by
      refine lt_of_le_of_ne (not_lt.mp fun hlt => ?_) hne.symm
      have hx := h.others x.guid hne
      rw [lookup_cons_self, hr.lookup_tail (hy.symm ▸ hlt.le)] at hx
      cases hx
    rw [hl.lookup_below hgt] at hsome
    cases hsome

/-- Two different participants, neither of them the owner. -/
theorem not_agreeOwner_stranger (hl : Ordered (x :: l)) (hr : Ordered (y :: r))
    (hguid : x.guid ≠ y.guid) (hx : x.guid ≠ a) (hy : y.guid ≠ a) :
    ¬ AgreeOwner a (lookup (x :: l)) (lookup (y :: r)) := by
  intro h
  rcases lt_or_gt_of_ne hguid with hlt | hgt
  · have heq := h.others x.guid hx
    rw [lookup_cons_self, hr.lookup_below hlt] at heq
    cases heq
  · have heq := h.others y.guid hy
    rw [lookup_cons_self, hl.lookup_below hgt] at heq
    cases heq

end Lists

namespace ParticipantDiscoveryDatabase

variable {l r : ParticipantDiscoveryDatabase}

/-- Both cursors stand on live items of ordered lists. -/
structure Standing (s : SmartIterator × SmartIterator) : Prop where
  left : AtLive s.1
  right : AtLive s.2
  orderedLeft : Ordered (live s.1)
  orderedRight : Ordered (live s.2)

/-- The databases of one owner agree on what is ahead of the cursors. -/
def AgreeOwnerAhead (l : ParticipantDiscoveryDatabase) (s : SmartIterator × SmartIterator) : Prop :=
  AgreeOwner l.endpointGuid (lookup (live s.1)) (lookup (live s.2))

theorem ownerVerdict_of_comparePass (hsame : l.endpointGuid = r.endpointGuid)
    {s : SmartIterator × SmartIterator} (hs : Standing s) {verdict : Bool}
    (h : l.comparePass r s = .inr verdict) : verdict = true ↔ l.AgreeOwnerAhead s := by
  obtain ⟨lit, rit⟩ := s
  obtain ⟨hl, hr, hol, hor⟩ := hs
  unfold AgreeOwnerAhead
  dsimp only at hl hr hol hor ⊢
  cases lit with
  | nil =>
    refine Iff.trans ?_ (agreeOwner_nil hor).symm
    cases rit with
    | nil =>
      cases h
      simp [live]
    | cons ri rit =>
      cases h
      rw [lone_iff hr]
      simp [info, hsame]
  | cons li lit =>
    cases rit with
    | nil =>
      refine Iff.trans ?_ (agreeOwner_comm.trans (agreeOwner_nil hol)).symm
      cases h
      rw [lone_iff hl]
      simp [info, hsame]
    | cons ri rit =>
      rw [live_cons hl] at hol ⊢
      rw [live_cons hr] at hor ⊢
      simp only [comparePass] at h
      split_ifs at h with hguid hne hsweep
      · cases h
        refine iff_of_false Bool.false_ne_true ?_
        exact not_agreeOwner_of_ne hguid ((li.notEqual_iff ri).mp hne)
      · cases h
        refine iff_of_false Bool.false_ne_true ?_
        push Not at hsweep
        obtain ⟨hright, hleft⟩ := hsweep
        refine not_agreeOwner_stranger hol hor hguid (fun hx => ?_) hright
        exact hright (hleft (hx.trans hsame)).2

theorem standing_of_comparePass (hsame : l.endpointGuid = r.endpointGuid)
    {s s' : SmartIterator × SmartIterator} (hs : Standing s)
    (h : l.comparePass r s = .inl s') :
    Standing s' ∧ (l.AgreeOwnerAhead s ↔ l.AgreeOwnerAhead s') := by
  obtain ⟨_ | ⟨li, lit⟩, _ | ⟨ri, rit⟩⟩ := s
  · cases h
  · cases h
  · cases h
  · obtain ⟨hl, hr, hol, hor⟩ := hs
    have hl' := atLive_next (li :: lit)
    have hr' := atLive_next (ri :: rit)
    unfold AgreeOwnerAhead
    simp only [live_cons hl, live_cons hr] at hol hor ⊢
    simp only [comparePass] at h
    split_ifs at h with hguid hne hsweep hleft hright hright
    · -- the same participant on both sides
      cases h
      have hinfo : li.info = ri.info := by
        by_contra hinfo
        exact hne ((li.notEqual_iff ri).mpr hinfo)
      rw [hinfo] at hol ⊢
      exact ⟨⟨hl', hr', hol.tail, hor.tail⟩, agreeOwner_cons_cons hol hor⟩
    · -- the owner cannot be on both sides
      exact absurd (hleft.1.trans (hsame.symm.trans hright.symm)) hguid
    · -- the owner on the left
      cases h
      refine ⟨⟨hl', hr, hol.tail, by rwa [live_cons hr]⟩, ?_⟩
      rw [agreeOwner_comm, live_cons hr]
      exact (agreeOwner_sweep hor hol (Ne.symm hguid) (hleft.1.trans hsame.symm)).trans
        agreeOwner_comm
    · -- the owner on the right
      cases h
      refine ⟨⟨hl, hr', by rwa [live_cons hl], hor.tail⟩, ?_⟩
      rw [live_cons hl]
      exact agreeOwner_sweep hol hor hguid hright
    · exact absurd hsweep (not_or.mpr ⟨hright, hleft⟩)

/-- What the comparison computes for two databases of one owner. -/
theorem equal_iff_of_same_owner (hsame : l.endpointGuid = r.endpointGuid) :
    l.equal r = true ↔ AgreeOwner l.endpointGuid l.known r.known := by
  have hinit : Standing (l.sbegin, r.sbegin) :=
    ⟨l.atLive_sbegin, r.atLive_sbegin, l.ordered_live_sbegin, r.ordered_live_sbegin⟩
  have hrun : (l.comparison r).run (l.sbegin, r.sbegin) = true ↔
      l.AgreeOwnerAhead (l.sbegin, r.sbegin) := by
    refine (l.comparison r).rule Standing
      (fun s verdict => verdict = true ↔ l.AgreeOwnerAhead s) ?_ ?_ hinit
    · intro s verdict hs h
      exact ownerVerdict_of_comparePass hsame hs h
    · intro s s' hs h
      obtain ⟨hs', hagree⟩ := standing_of_comparePass hsame hs h
      exact ⟨hs', fun verdict hv => hv.trans hagree.symm⟩
  have hequal : l.equal r = (l.comparison r).run (l.sbegin, r.sbegin) := by
    simp only [equal, if_neg hsame.le.not_gt]
  rw [hequal, hrun]
  unfold AgreeOwnerAhead
  rw [funext l.lookup_live_sbegin, funext r.lookup_live_sbegin]

/-! ## False alarms -/

/-- The two databases agree on everything but their owners' entries, and where
both have an entry for an owner, on that one too. -/
structure AgreeUpToOwners (cl cr : ParticipantDiscoveryDatabase) : Prop where
  others : ∀ c, c ≠ cl.endpointGuid → c ≠ cr.endpointGuid → cl.known c = cr.known c
  owners : ∀ c, c = cl.endpointGuid ∨ c = cr.endpointGuid →
    (cl.known c).isSome → (cr.known c).isSome → cl.known c = cr.known c

/-- The own entries the comparison of the databases of `a < b` forgives. That of
`a`, when `b` does not know `a`, has to be the last entry of all. That of `b`,
when `a` does not know `b`, has to be the last one too; and if `b` then knows `a`
and `a` itself does not, `a` has to know somebody above it. -/
structure OwnEntries (a b : Guid) (f g : Knowledge) : Prop where
  left : (f a).isSome → g a = none → ∀ c, a < c → f c = none ∧ g c = none
  right : (g b).isSome → f b = none →
    (∀ c, b < c → f c = none ∧ g c = none) ∧
      ((g a).isSome → f a = none → ∃ c, a < c ∧ (f c).isSome)

/-- The comparison forgives the own entries of both databases. -/
def Tolerated (cl cr : ParticipantDiscoveryDatabase) : Prop :=
  (cl.endpointGuid < cr.endpointGuid →
    OwnEntries cl.endpointGuid cr.endpointGuid cl.known cr.known) ∧
  (cr.endpointGuid < cl.endpointGuid →
    OwnEntries cr.endpointGuid cl.endpointGuid cr.known cl.known)

theorem AgreeUpToOwners.symm {cl cr : ParticipantDiscoveryDatabase} (h : AgreeUpToOwners cl cr) :
    AgreeUpToOwners cr cl where
  others c hr hl := (h.others c hl hr).symm
  owners c hc hr hl := (h.owners c hc.symm hl hr).symm

theorem Tolerated.symm {cl cr : ParticipantDiscoveryDatabase} (h : Tolerated cl cr) :
    Tolerated cr cl := ⟨h.2, h.1⟩

/-- A database that holds nothing about its owner raises no false alarm. -/
theorem tolerated_of_no_own {cl cr : ParticipantDiscoveryDatabase}
    (hl : cl.known cl.endpointGuid = none) (hr : cr.known cr.endpointGuid = none) :
    Tolerated cl cr := by
  have hown : ∀ (a b : Guid) (f g : Knowledge), f a = none → g b = none → OwnEntries a b f g := by
    intro a b f g hf hg
    refine ⟨fun hsome => ?_, fun hsome => ?_⟩
    · rw [hf] at hsome
      cases hsome
    · rw [hg] at hsome
      cases hsome
  exact ⟨fun _ => hown _ _ _ _ hl hr, fun _ => hown _ _ _ _ hr hl⟩

theorem equal_iff_of_agree_of_lt (hlt : l.endpointGuid < r.endpointGuid)
    (h : AgreeUpToOwners l r) : l.equal r = true ↔ Tolerated l r := by
  rw [equal_iff hlt]
  constructor
  · intro hagree
    exact ⟨fun _ => ⟨hagree.own_left, hagree.own_right⟩, fun hgt => absurd hgt hlt.asymm⟩
  · intro htolerated
    obtain ⟨hleft, hright⟩ := htolerated.1 hlt
    exact ⟨h.others, h.owners, hleft, hright⟩

theorem equal_iff_of_agree (h : AgreeUpToOwners l r) : l.equal r = true ↔ Tolerated l r := by
  rcases lt_trichotomy l.endpointGuid r.endpointGuid with hlt | hsame | hgt
  · exact equal_iff_of_agree_of_lt hlt h
  · refine iff_of_true ?_ ⟨fun hlt => absurd hsame hlt.ne, fun hgt => absurd hsame hgt.ne'⟩
    refine (equal_iff_of_same_owner hsame).mpr ⟨fun c hc => ?_, h.owners _ (.inl rfl)⟩
    exact h.others c hc (hc.trans_eq hsame)
  · rw [equal_comm hgt.ne', equal_iff_of_agree_of_lt hgt h.symm]
    exact ⟨Tolerated.symm, Tolerated.symm⟩

/-- **When the comparison raises no false alarm.** Databases that agree up to
their owners compare equal exactly when their own entries are forgiven. -/
theorem no_false_alarm_iff (cl cr : ParticipantDiscoveryDatabase) :
    (AgreeUpToOwners cl cr → cl.equal cr = true) ↔ (AgreeUpToOwners cl cr → Tolerated cl cr) := by
  constructor
  · intro hequal hagree
    exact (equal_iff_of_agree hagree).mp (hequal hagree)
  · intro htolerated hagree
    exact (equal_iff_of_agree hagree).mpr (htolerated hagree)

/-- Participant 1 keeps an entry of its own in front of the one it shares with
participant 2. -/
theorem false_alarm : ¬ ∀ cl cr : ParticipantDiscoveryDatabase,
    AgreeUpToOwners cl cr → cl.equal cr = true := by
  intro hall
  let item (p : GuidPrefix) : ParticipantDiscoveryItem := ⟨.ofPrefix p, false, true, "", 0, ∅, ∅⟩
  let shared : OrdSet Guid ParticipantDiscoveryItem := (∅ : OrdSet Guid _).insert (item 3)
  let cl : ParticipantDiscoveryDatabase := ⟨.ofPrefix 1, "one", shared.insert (item 1)⟩
  let cr : ParticipantDiscoveryDatabase := ⟨.ofPrefix 2, "two", shared⟩
  have hagree : AgreeUpToOwners cl cr := by
    refine ⟨fun c hl _ => ?_, fun c hc hsome hsome' => ?_⟩
    · unfold known
      rw [show cl.items.find? c = cr.items.find? c from
        (OrdSet.find?_insert shared (item 1) c).trans (if_neg hl)]
    · rcases hc with rfl | rfl
      · exact absurd hsome' (by decide)
      · exact absurd hsome (by decide)
  exact absurd (hall cl cr hagree) (by decide)

end ParticipantDiscoveryDatabase

end DiscoveryServer
