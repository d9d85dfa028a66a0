import DiscoveryServer.Agreement
import DiscoveryServer.Library.Loop

/-!
# The comparison of two databases

`operator ==` on `ParticipantDiscoveryDatabase`: one loop merges the live items
of both databases and sweeps over what each owner's database says about the
other. The cursors are `smart_iterator`s, which step over zombies.

`equal_iff` says what the loop computes: `Agree` on the knowledge of the two
databases. Every pass is one lemma of `Agreement`. What the loop adds is its
invariant `Merging`: both cursors stand on live items, and while both owners
are still ahead, databases of one size have as much left on either side.
-/

namespace DiscoveryServer

open Library ParticipantDiscoveryItem

/-! ## Iteration over the live items -/

/-- `smart_iterator`: the items from where it stands on, `[]` being `send()`. -/
abbrev SmartIterator := List ParticipantDiscoveryItem

/-- Ignore zombies. -/
def skipZombies (it : SmartIterator) : SmartIterator := it.dropWhile fun i => !i.isAlive

/-- `operator ++`. -/
def SmartIterator.next (it : SmartIterator) : SmartIterator := skipZombies it.tail

theorem length_next_lt (i : ParticipantDiscoveryItem) (it : SmartIterator) :
    (SmartIterator.next (i :: it)).length < (i :: it).length := by
  have hle : (skipZombies it).length ≤ it.length := (List.dropWhile_suffix _).length_le
  exact Nat.lt_succ_of_le hle

/-- `std::distance` from an iterator to `send()`, counted from `n` on. -/
def distanceToEnd : Loop (SmartIterator × Nat) Nat where
  body
    | ([], n) => .inr n
    | (i :: it, n) => .inl (SmartIterator.next (i :: it), n + 1)
  measure s := s.1.length
  decreases {s s'} h := by
    obtain ⟨_ | ⟨i, it⟩, n⟩ := s
    · cases h
    · cases h
      exact length_next_lt i it

namespace ParticipantDiscoveryDatabase

def sbegin (d : ParticipantDiscoveryDatabase) : SmartIterator := skipZombies d.items.toList

def realSize (d : ParticipantDiscoveryDatabase) : Nat := distanceToEnd.run (d.sbegin, 0)

/-- One pass of the comparison of `l` and `r`, the first of them the one with the
smaller GUID. -/
def comparePass (l r : ParticipantDiscoveryDatabase) :
    SmartIterator × SmartIterator → (SmartIterator × SmartIterator) ⊕ Bool
  | ([], []) => .inr true
  -- one of the lists reaches an end: finish simultaneously or differ only in
  -- each other discovery data
  | ([], ri :: rit) =>
    .inr ((ri.endpointGuid = l.endpointGuid || ri.endpointGuid = r.endpointGuid) &&
      (SmartIterator.next (ri :: rit)).isEmpty)
  | (li :: lit, []) =>
    .inr ((li.endpointGuid = r.endpointGuid || li.endpointGuid = l.endpointGuid) &&
      (SmartIterator.next (li :: lit)).isEmpty)
  | (li :: lit, ri :: rit) =>
    if li.endpointGuid = ri.endpointGuid then
      -- check members
      if li.notEqual ri then .inr false
      else .inl (SmartIterator.next (li :: lit), SmartIterator.next (ri :: rit))
    else
      -- check if our own discovery data is interfering
      let sweepRight := ri.endpointGuid = l.endpointGuid
      let sweepLeft := li.endpointGuid = r.endpointGuid ∧
        (r.realSize = l.realSize ∨ ¬ sweepRight)
      if sweepRight ∨ sweepLeft then
        .inl (if sweepLeft then SmartIterator.next (li :: lit) else li :: lit,
          if sweepRight then SmartIterator.next (ri :: rit) else ri :: rit)
      else
        -- one or several unknown participants within
        .inr false

/-- The loop of `operator ==`. -/
def comparison (l r : ParticipantDiscoveryDatabase) :
    Loop (SmartIterator × SmartIterator) Bool where
  body := l.comparePass r
  measure s := s.1.length + s.2.length
  decreases {s s'} h := by
    obtain ⟨_ | ⟨li, lit⟩, _ | ⟨ri, rit⟩⟩ := s
    · cases h
    · cases h
    · cases h
    · have hl := length_next_lt li lit
      have hr := length_next_lt ri rit
      simp only [comparePass] at h
      split_ifs at h with hguid hne hsweep hleft hright hright
      all_goals cases h; dsimp only
      · omega
      · omega
      · omega
      · omega
      · exact absurd hsweep (not_or.mpr ⟨hright, hleft⟩)

/-- `operator ==`. In order to optimize the algorithm we make l < r. -/
def equal (cl cr : ParticipantDiscoveryDatabase) : Bool :=
  let swap := cr.endpointGuid < cl.endpointGuid
  let l := if swap then cr else cl
  let r := if swap then cl else cr
  (comparison l r).run (l.sbegin, r.sbegin)

/-- What a database knows about a participant: the `Info` of its live item. -/
def known (d : ParticipantDiscoveryDatabase) : Knowledge :=
  fun c => ((d.items.find? c).filter (·.isAlive)).map (·.info)

end ParticipantDiscoveryDatabase

/-! ## The live items ahead of a cursor -/

/-- The live items from where the cursor stands on. -/
def live (it : SmartIterator) : List Info := (it.filter (·.isAlive)).map (·.info)

/-- The cursor stands on a live item or at the end. -/
def AtLive (it : SmartIterator) : Prop := ∀ i ∈ it.head?, i.isAlive = true

theorem live_skipZombies (it : SmartIterator) : live (skipZombies it) = live it := by
  induction it with
  | nil => rfl
  | cons i it ih =>
    unfold skipZombies live at *
    rw [List.dropWhile_cons]
    cases halive : i.isAlive with
    | true => simp
    | false => simpa [halive] using ih

theorem atLive_skipZombies (it : SmartIterator) : AtLive (skipZombies it) := by
  intro i hi
  have hnot := List.head?_dropWhile_not (fun i : ParticipantDiscoveryItem => !i.isAlive) it
  unfold skipZombies at hi
  rw [Option.mem_def.mp hi] at hnot
  simpa using hnot

theorem atLive_next (it : SmartIterator) : AtLive it.next := atLive_skipZombies _

theorem live_cons {i : ParticipantDiscoveryItem} {it : SmartIterator} (h : AtLive (i :: it)) :
    live (i :: it) = i.info :: live (SmartIterator.next (i :: it)) := by
  have halive : i.isAlive = true := h i rfl
  show _ = _ :: live (skipZombies it)
  rw [live_skipZombies]
  simp [live, halive]

theorem live_eq_nil_iff {it : SmartIterator} (h : AtLive it) : live it = [] ↔ it = [] := by
  cases it with
  | nil => simp [live]
  | cons i it => simp [live_cons h]

/-- Nobody is ahead, or one live item with a property: the one the cursor stands on. -/
theorem lone_iff {i : ParticipantDiscoveryItem} {it : SmartIterator} (h : AtLive (i :: it))
    (P : Info → Prop) : (live (i :: it) = [] ∨ ∃ y, live (i :: it) = [y] ∧ P y) ↔
      P i.info ∧ SmartIterator.next (i :: it) = [] := by
  rw [live_cons h, ← live_eq_nil_iff (atLive_next (i :: it))]
  constructor
  · intro hlone
    cases hlone with
    | inl hnil => cases hnil
    | inr hone =>
      obtain ⟨y, hy, hP⟩ := hone
      obtain ⟨rfl, hrest⟩ := List.cons.inj hy
      exact ⟨hP, hrest⟩
  · intro hlone
    exact .inr ⟨i.info, by rw [hlone.2], hlone.1⟩

theorem distanceToEnd_run {it : SmartIterator} (h : AtLive it) (n : Nat) :
    distanceToEnd.run (it, n) = n + (live it).length := by
  refine distanceToEnd.rule (fun s => AtLive s.1) (fun s k => k = s.2 + (live s.1).length)
    ?_ ?_ h
  · rintro ⟨_ | ⟨i, it⟩, n⟩ k _ hbody
    · cases hbody
      rfl
    · cases hbody
  · rintro ⟨_ | ⟨i, it⟩, n⟩ s' hlive hbody
    · cases hbody
    · cases hbody
      refine ⟨atLive_next _, fun k hk => ?_⟩
      rw [live_cons hlive, List.length_cons]
      dsimp only at hk ⊢
      omega

namespace ParticipantDiscoveryDatabase

variable (d : ParticipantDiscoveryDatabase)

theorem atLive_sbegin : AtLive d.sbegin := atLive_skipZombies _

theorem realSize_eq : d.realSize = (live d.sbegin).length :=
  (distanceToEnd_run d.atLive_sbegin 0).trans (Nat.zero_add _)

theorem ordered_live_sbegin : Ordered (live d.sbegin) := by
  unfold sbegin
  rw [live_skipZombies]
  exact (d.items.sorted.filter _).map _ fun _ _ h => h

theorem lookup_live_sbegin (c : Guid) : lookup (live d.sbegin) c = d.known c := by
  have hfilter : (d.items.toList.filter (·.isAlive)).find? (fun i => i.endpointGuid = c) =
      (d.items.find? c).filter (·.isAlive) := OrdSet.find?_filter d.items (·.isAlive) c
  unfold sbegin known
  rw [live_skipZombies, ← hfilter]
  unfold lookup live
  rw [List.find?_map]
  rfl

end ParticipantDiscoveryDatabase

/-! ## The loop decides agreement -/

/-- The invariant of the comparison of `l` and `r`. -/
structure Merging (l r : ParticipantDiscoveryDatabase) (s : SmartIterator × SmartIterator) :
    Prop where
  left : AtLive s.1
  right : AtLive s.2
  orderedLeft : Ordered (live s.1)
  orderedRight : Ordered (live s.2)
  sizes : r.realSize = l.realSize → (lookup (live s.2) l.endpointGuid).isSome →
    (lookup (live s.1) r.endpointGuid).isSome → (live s.1).length = (live s.2).length

namespace ParticipantDiscoveryDatabase

variable {l r : ParticipantDiscoveryDatabase}

/-- The databases agree on what is ahead of the cursors. -/
def AgreeAhead (l r : ParticipantDiscoveryDatabase) (s : SmartIterator × SmartIterator) : Prop :=
  Agree l.endpointGuid r.endpointGuid (lookup (live s.1)) (lookup (live s.2))

/-- Where the loop is left, its verdict is agreement on what is ahead. -/
theorem verdict_of_comparePass (hlt : l.endpointGuid < r.endpointGuid)
    {s : SmartIterator × SmartIterator} (hs : Merging l r s) {verdict : Bool}
    (h : l.comparePass r s = .inr verdict) : verdict = true ↔ l.AgreeAhead r s := by
  obtain ⟨lit, rit⟩ := s
  obtain ⟨hl, hr, hol, hor, _⟩ := hs
  unfold AgreeAhead
  dsimp only at hl hr hol hor ⊢
  cases lit with
  | nil =>
    refine Iff.trans ?_ (agree_nil_left hlt hor).symm
    cases rit with
    | nil =>
      cases h
      simp [live]
    | cons ri rit =>
      cases h
      rw [lone_iff hr]
      simp [info]
  | cons li lit =>
    cases rit with
    | nil =>
      refine Iff.trans ?_ (agree_nil_right hlt hol).symm
      cases h
      rw [lone_iff hl]
      simp [info]
    | cons ri rit =>
      rw [live_cons hl] at hol ⊢
      rw [live_cons hr] at hor ⊢
      simp only [comparePass] at h
      split_ifs at h with hguid hne hsweep
      · cases h
        refine iff_of_false Bool.false_ne_true ?_
        exact not_agree_of_ne hguid ((li.notEqual_iff ri).mp hne)
      · cases h
        refine iff_of_false Bool.false_ne_true ?_
        push Not at hsweep
        obtain ⟨hright, hleft⟩ := hsweep
        exact not_agree_stranger hol hor hguid (fun hx => hright (hleft hx).2) hright

/-- A pass keeps the invariant and does not touch agreement. -/
theorem merging_of_comparePass (hlt : l.endpointGuid < r.endpointGuid)
    {s s' : SmartIterator × SmartIterator} (hs : Merging l r s)
    (h : l.comparePass r s = .inl s') :
    Merging l r s' ∧ (l.AgreeAhead r s ↔ l.AgreeAhead r s') := by
  obtain ⟨_ | ⟨li, lit⟩, _ | ⟨ri, rit⟩⟩ := s
  · cases h
  · cases h
  · cases h
  · obtain ⟨hl, hr, hol, hor, hsizes⟩ := hs
    have hl' := atLive_next (li :: lit)
    have hr' := atLive_next (ri :: rit)
    unfold AgreeAhead
    simp only [live_cons hl, live_cons hr] at hol hor hsizes ⊢
    simp only [comparePass] at h
    split_ifs at h with hguid hne hsweep hleft hright hright
    · -- the same participant on both sides
      cases h
      have hinfo : li.info = ri.info := by
        by_contra hinfo
        exact hne ((li.notEqual_iff ri).mpr hinfo)
      rw [hinfo] at hol hsizes ⊢
      refine ⟨⟨hl', hr', hol.tail, hor.tail, fun hreal hsome hsome' => ?_⟩,
        agree_cons_cons hol hor⟩
      have hlen := hsizes hreal (lookup_cons_isSome hsome) (lookup_cons_isSome hsome')
      simpa using hlen
    · -- both cursors stand on the owner of the other database
      cases h
      have hreal : r.realSize = l.realSize := hleft.2.resolve_right (not_not.mpr hright)
      have hlen := hsizes hreal (by rw [← hright]; exact lookup_head_isSome)
        (by rw [← hleft.1]; exact lookup_head_isSome)
      refine ⟨⟨hl', hr', hol.tail, hor.tail, fun _ hsome => ?_⟩,
        agree_sweep_both hlt hol hor hleft.1 hright (by simpa using hlen)⟩
      simp [hor.lookup_tail (le_of_eq hright.symm)] at hsome
    · -- the owner of `r` in the database of `l`
      cases h
      have hne : ri.endpointGuid ≠ r.endpointGuid := fun h => hguid (hleft.1.trans h.symm)
      rw [← live_cons hr] at hor
      refine ⟨⟨hl', hr, hol.tail, hor, fun _ _ hsome => ?_⟩, ?_⟩
      · simp [hol.lookup_tail (le_of_eq hleft.1.symm)] at hsome
      · rw [live_cons hr] at hor ⊢
        exact agree_sweep_left hlt hol hor hleft.1 hright hne
    · -- the owner of `l` in the database of `r`
      cases h
      have hne : li.endpointGuid ≠ l.endpointGuid := fun h => hguid (h.trans hright.symm)
      rw [← live_cons hl] at hol
      refine ⟨⟨hl, hr', hol, hor.tail, fun _ hsome => ?_⟩, ?_⟩
      · simp [hor.lookup_tail (le_of_eq hright.symm)] at hsome
      · rw [live_cons hl] at hol ⊢
        exact agree_sweep_right hlt hol hor hright hne
    · exact absurd hsweep (not_or.mpr ⟨hright, hleft⟩)

/-- **What the comparison computes.** -/
theorem equal_iff (hlt : l.endpointGuid < r.endpointGuid) :
    l.equal r = true ↔ Agree l.endpointGuid r.endpointGuid l.known r.known := by
  have hinit : Merging l r (l.sbegin, r.sbegin) :=
    { left := l.atLive_sbegin
      right := r.atLive_sbegin
      orderedLeft := l.ordered_live_sbegin
      orderedRight := r.ordered_live_sbegin
      sizes := fun h _ _ => by rw [← l.realSize_eq, ← r.realSize_eq, h] }
  have hrun : (l.comparison r).run (l.sbegin, r.sbegin) = true ↔
      l.AgreeAhead r (l.sbegin, r.sbegin) := by
    refine (l.comparison r).rule (Merging l r)
      (fun s verdict => verdict = true ↔ l.AgreeAhead r s) ?_ ?_ hinit
    · intro s verdict hs h
      exact verdict_of_comparePass hlt hs h
    · intro s s' hs h
      obtain ⟨hs', hagree⟩ := merging_of_comparePass hlt hs h
      exact ⟨hs', fun verdict hv => hv.trans hagree.symm⟩
  have hequal : l.equal r = (l.comparison r).run (l.sbegin, r.sbegin) := by
    simp only [equal, if_neg hlt.asymm]
  rw [hequal, hrun]
  unfold AgreeAhead
  rw [funext l.lookup_live_sbegin, funext r.lookup_live_sbegin]

theorem equal_comm (hne : l.endpointGuid ≠ r.endpointGuid) : l.equal r = r.equal l := by
  unfold equal
  rcases lt_or_gt_of_ne hne with hlt | hgt
  · simp only [if_neg hlt.asymm, if_pos hlt]
  · simp only [if_neg hgt.asymm, if_pos hgt]

theorem equal_self (d : ParticipantDiscoveryDatabase) : d.equal d = true := by
  have hequal : d.equal d = (d.comparison d).run (d.sbegin, d.sbegin) := by
    simp only [equal, if_neg (lt_irrefl d.endpointGuid)]
  rw [hequal]
  refine (d.comparison d).rule (fun s => s.1 = s.2) (fun _ verdict => verdict = true) ?_ ?_ rfl
  · intro ⟨it, it'⟩ verdict hsame h
    cases hsame
    cases it with
    | nil => cases h; rfl
    | cons i it =>
      simp only [comparison, comparePass, if_true] at h
      split_ifs at h with hne
      exact absurd rfl ((i.notEqual_iff i).mp hne)
  · intro ⟨it, it'⟩ s' hsame h
    refine ⟨?_, fun _ hv => hv⟩
    cases hsame
    cases it with
    | nil => cases h
    | cons i it =>
      simp only [comparison, comparePass, if_true] at h
      split_ifs at h
      cases h
      rfl

end ParticipantDiscoveryDatabase

end DiscoveryServer
