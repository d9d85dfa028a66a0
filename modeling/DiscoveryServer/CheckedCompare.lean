import DiscoveryServer.Tolerance

/-!
# The comparison under checks

`operator ==` once more, operation by operation, with every use of an iterator
checked: dereferencing or advancing one that stands at `end()` is a fault. No
pass faults, so the checked comparison ends with the verdict of the plain one,
and that verdict hides no difference about a third party (`comparison_sound`).
-/

namespace DiscoveryServer

open Library ParticipantDiscoveryItem

/-! ## Checked iterators -/

/-- `operator *` and `operator ->`. -/
def dereference? (it : SmartIterator) : Option ParticipantDiscoveryItem := it.head?

/-- `++wrap_it_`. -/
def advance? : SmartIterator → Option SmartIterator
  | [] => none
  | _ :: it => some it

/-- `while (wrap_it_ != end() && !wrap_it_->is_alive) ++wrap_it_`. -/
def skipZombies? : CheckedLoop SmartIterator SmartIterator where
  body it :=
    if it.isEmpty then some (.inr it)
    else do
      let i ← dereference? it
      if i.isAlive then
        return .inr it
      else
        let it ← advance? it
        return .inl it
  measure it := it.length
  decreases {it it'} h := by
    cases it with
    | nil => cases h
    | cons i it =>
      cases halive : i.isAlive with
      | true => simp [dereference?, halive] at h
      | false =>
        simp only [List.isEmpty_cons, dereference?, advance?, List.head?_cons, halive,
          Option.bind_eq_bind, Option.bind_some] at h
        cases h
        exact Nat.lt_succ_self _

/-- `operator ++`: at least one step, then over the zombies. -/
def increment? (it : SmartIterator) : Option SmartIterator := (advance? it).bind skipZombies?.run

theorem skipZombies?_run (it : SmartIterator) : skipZombies?.run it = some (skipZombies it) := by
  refine skipZombies?.toLoop.rule (fun _ => True) (fun it r => r = some (skipZombies it))
    ?_ ?_ trivial
  · intro it r _ h
    cases it with
    | nil => cases h; rfl
    | cons i it =>
      cases halive : i.isAlive with
      | true =>
        simp [CheckedLoop.toLoop, skipZombies?, dereference?, halive] at h
        simp [← h, skipZombies, halive]
      | false => simp [CheckedLoop.toLoop, skipZombies?, dereference?, advance?, halive] at h
  · intro it it' _ h
    cases it with
    | nil => cases h
    | cons i it =>
      cases halive : i.isAlive with
      | true => simp [CheckedLoop.toLoop, skipZombies?, dereference?, halive] at h
      | false =>
        simp [CheckedLoop.toLoop, skipZombies?, dereference?, advance?, halive] at h
        refine ⟨trivial, fun r hr => ?_⟩
        simp [hr, ← h, skipZombies, halive]

@[simp] theorem increment?_nil : increment? [] = none := rfl

@[simp] theorem increment?_cons (i : ParticipantDiscoveryItem) (it : SmartIterator) :
    increment? (i :: it) = some (SmartIterator.next (i :: it)) := skipZombies?_run it

/-- `std::distance` from an iterator to `send()`. -/
def distanceToEnd? : CheckedLoop (SmartIterator × Nat) Nat where
  body s :=
    if s.1.isEmpty then some (.inr s.2)
    else do
      let it ← increment? s.1
      return .inl (it, s.2 + 1)
  measure s := s.1.length
  decreases {s s'} h := by
    obtain ⟨_ | ⟨i, it⟩, n⟩ := s
    · cases h
    · simp only [List.isEmpty_cons, increment?_cons, Option.bind_eq_bind, Option.bind_some] at h
      cases h
      exact length_next_lt i it

theorem distanceToEnd?_run (s : SmartIterator × Nat) :
    distanceToEnd?.run s = some (distanceToEnd.run s) := by
  refine distanceToEnd?.run_eq distanceToEnd (fun s => ?_) s
  obtain ⟨_ | ⟨i, it⟩, n⟩ := s
  · rfl
  · simp [distanceToEnd?, distanceToEnd]

namespace ParticipantDiscoveryDatabase

def sbegin? (d : ParticipantDiscoveryDatabase) : Option SmartIterator :=
  skipZombies?.run d.items.toList

def realSize? (d : ParticipantDiscoveryDatabase) : Option Nat := do
  let it ← d.sbegin?
  distanceToEnd?.run (it, 0)

theorem sbegin?_eq (d : ParticipantDiscoveryDatabase) : d.sbegin? = some d.sbegin :=
  skipZombies?_run _

theorem realSize?_eq (d : ParticipantDiscoveryDatabase) : d.realSize? = some d.realSize := by
  unfold realSize?
  rw [sbegin?_eq]
  exact distanceToEnd?_run _

/-! ## The checked comparison -/

/-- One iterator has reached its end: what is left of the other. -/
def finish? (l r : ParticipantDiscoveryDatabase) (it : SmartIterator) : Option Bool :=
  if it.isEmpty then some true
  else do
    let i ← dereference? it
    if i.endpointGuid = l.endpointGuid ∨ i.endpointGuid = r.endpointGuid then
      let it ← increment? it
      return it.isEmpty
    else
      return false

/-- `r.real_size() == l.real_size()`. -/
def sameSize? (r l : ParticipantDiscoveryDatabase) : Option Bool := do
  let rsize ← r.realSize?
  let lsize ← l.realSize?
  return rsize = lsize

/-- One pass of the loop. -/
def comparePass? (l r : ParticipantDiscoveryDatabase) (s : SmartIterator × SmartIterator) :
    Option ((SmartIterator × SmartIterator) ⊕ Bool) :=
  if s.1.isEmpty then (l.finish? r s.2).map .inr
  else if s.2.isEmpty then (r.finish? l s.1).map .inr
  else do
    let li ← dereference? s.1
    let ri ← dereference? s.2
    if li.endpointGuid = ri.endpointGuid then
      if li.notEqual ri then
        return .inr false
      else
        let lit ← increment? s.1
        let rit ← increment? s.2
        return .inl (lit, rit)
    else
      let sweepRight := decide (ri.endpointGuid = l.endpointGuid)
      let rit ← if sweepRight then increment? s.2 else some s.2
      let li ← dereference? s.1
      let sweepLeft ←
        if li.endpointGuid = r.endpointGuid then (r.sameSize? l).map (· || !sweepRight)
        else some false
      let lit ← if sweepLeft then increment? s.1 else some s.1
      return if sweepRight || sweepLeft then .inl (lit, rit) else .inr false

theorem finish?_cons (l r : ParticipantDiscoveryDatabase) (i : ParticipantDiscoveryItem)
    (it : SmartIterator) :
    l.finish? r (i :: it) =
      some ((i.endpointGuid = l.endpointGuid || i.endpointGuid = r.endpointGuid) &&
        (SmartIterator.next (i :: it)).isEmpty) := by
  simp only [finish?, List.isEmpty_cons, dereference?, List.head?_cons, increment?_cons,
    Option.bind_eq_bind, Option.bind_some]
  by_cases howner : i.endpointGuid = l.endpointGuid ∨ i.endpointGuid = r.endpointGuid
  · simp [howner]
  · simp [howner]

/-- No pass faults, wherever the iterators stand. -/
theorem comparePass?_eq (l r : ParticipantDiscoveryDatabase) (s : SmartIterator × SmartIterator) :
    l.comparePass? r s = some (l.comparePass r s) := by
  obtain ⟨_ | ⟨li, lit⟩, _ | ⟨ri, rit⟩⟩ := s
  · rfl
  · simp [comparePass?, comparePass, finish?_cons]
  · simp [comparePass?, comparePass, finish?_cons]
  · simp only [comparePass?, List.isEmpty_cons, dereference?, List.head?_cons, increment?_cons,
      sameSize?, realSize?_eq, Option.bind_eq_bind, Option.bind_some, Bool.false_eq_true, if_false]
    by_cases hguid : li.endpointGuid = ri.endpointGuid
    · simp only [comparePass, if_pos hguid]
      split_ifs <;> rfl
    · simp only [comparePass, if_neg hguid]
      by_cases hright : ri.endpointGuid = l.endpointGuid
      · by_cases hleft : li.endpointGuid = r.endpointGuid
        · by_cases hsize : r.realSize = l.realSize <;> simp [hright, hleft, hsize]
        · simp [hright, hleft]
      · by_cases hleft : li.endpointGuid = r.endpointGuid <;> simp [hright, hleft]

/-- The loop of the checked comparison. -/
def comparison? (l r : ParticipantDiscoveryDatabase) :
    CheckedLoop (SmartIterator × SmartIterator) Bool where
  body := l.comparePass? r
  measure s := s.1.length + s.2.length
  decreases {s s'} h := by
    rw [comparePass?_eq] at h
    exact (comparison l r).decreases (Option.some.inj h)

/-- `operator ==`, `none` being a fault. -/
def equal? (cl cr : ParticipantDiscoveryDatabase) : Option Bool := do
  let swap := cr.endpointGuid < cl.endpointGuid
  let l := if swap then cr else cl
  let r := if swap then cl else cr
  let lit ← l.sbegin?
  let rit ← r.sbegin?
  (comparison? l r).run (lit, rit)

theorem equal?_eq (cl cr : ParticipantDiscoveryDatabase) :
    cl.equal? cr = some (cl.equal cr) := by
  simp only [equal?, sbegin?_eq, Option.bind_eq_bind, Option.bind_some]
  exact (comparison? _ _).run_eq (comparison _ _) (comparePass?_eq _ _) _

/-! ## Soundness -/

/-- Databases that compare equal agree up to their owners. -/
theorem agreeUpToOwners_of_equal {cl cr : ParticipantDiscoveryDatabase}
    (h : cl.equal cr = true) : AgreeUpToOwners cl cr := by
  rcases lt_trichotomy cl.endpointGuid cr.endpointGuid with hlt | hsame | hgt
  · have hagree := (equal_iff hlt).mp h
    exact ⟨hagree.others, hagree.owners⟩
  · have hagree := (equal_iff_of_same_owner hsame).mp h
    refine ⟨fun c hc _ => hagree.others c hc, fun c hc => ?_⟩
    have hc : c = cl.endpointGuid := hc.elim id fun hc => hc.trans hsame.symm
    rw [hc]
    exact hagree.owner
  · rw [equal_comm hgt.ne'] at h
    have hagree := (equal_iff hgt).mp h
    exact AgreeUpToOwners.symm ⟨hagree.others, hagree.owners⟩

/-- **The comparison hides no difference about a third party.** It always ends,
without using an iterator at its end, and when it says that the databases are
equal, participants live in both have the same writers and readers, and those
live in one only are the owners. -/
theorem comparison_sound (cl cr : ParticipantDiscoveryDatabase) :
    ∃ verdict, cl.equal? cr = some verdict ∧
      (verdict = true →
        (∀ c x y, cl.known c = some x → cr.known c = some y →
          x.writers = y.writers ∧ x.readers = y.readers) ∧
        (∀ c, (cl.known c).isSome ≠ (cr.known c).isSome →
          c = cl.endpointGuid ∨ c = cr.endpointGuid)) := by
  refine ⟨cl.equal cr, equal?_eq cl cr, fun hequal => ?_⟩
  have hagree := agreeUpToOwners_of_equal hequal
  have howner : ∀ c, cl.known c ≠ cr.known c → c = cl.endpointGuid ∨ c = cr.endpointGuid := by
    intro c hne
    by_contra hc
    rw [not_or] at hc
    exact hne (hagree.others c hc.1 hc.2)
  refine ⟨fun c x y hx hy => ?_, fun c hne => howner c fun heq => hne (by rw [heq])⟩
  have heq : cl.known c = cr.known c := by
    by_contra hne
    exact hne (hagree.owners c (howner c hne) (by rw [hx]; rfl) (by rw [hy]; rfl))
  rw [hx, hy] at heq
  cases heq
  exact ⟨rfl, rfl⟩

end ParticipantDiscoveryDatabase

end DiscoveryServer
