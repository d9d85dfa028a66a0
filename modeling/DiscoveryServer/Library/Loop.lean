import Mathlib.Tactic.Basic

/-!
# Loops that end

A `while` loop with early returns: one pass over the body either hands the next
state over or leaves the loop with a result. A `Loop` carries the measure that
every pass decreases, so its run is a total function (`Loop.run`), evaluated by
counting the measure down.

`Loop.rule` is the proof rule: an invariant, what it gives where the loop is
left, and what one pass keeps.

A `CheckedLoop` is a loop whose passes may fault: its run is total too and says
whether a pass faulted. One that never faults runs like the loop without the
checks (`CheckedLoop.run_eq`).
-/

namespace Library

/-- A loop whose passes decrease a measure. -/
structure Loop (σ ρ : Type) where
  body : σ → σ ⊕ ρ
  measure : σ → Nat
  decreases : ∀ {s s'}, body s = .inl s' → measure s' < measure s

namespace Loop

variable {σ ρ : Type} (L : Loop σ ρ)

/-- At most `n` passes from `s`. -/
def iterate : Nat → σ → Option ρ
  | 0, _ => none
  | n + 1, s =>
    match L.body s with
    | .inl s' => iterate n s'
    | .inr r => some r

/-- More passes than the measure are enough. -/
theorem iterate_isSome {n : Nat} {s : σ} (h : L.measure s < n) : (L.iterate n s).isSome := by
  induction n generalizing s with
  | zero => omega
  | succ n ih =>
    rw [iterate]
    cases hbody : L.body s with
    | inl s' =>
      have hdec := L.decreases hbody
      exact ih (by omega)
    | inr r => rfl

/-- The result of the loop. -/
def run (s : σ) : ρ := (L.iterate (L.measure s + 1) s).get (L.iterate_isSome (Nat.lt_succ_self _))

/-- **The loop rule.** `Post s r` relates the state a pass starts from to the
result: it holds where the loop is left, and a pass carries it back. -/
theorem rule (Inv : σ → Prop) (Post : σ → ρ → Prop)
    (stop : ∀ s r, Inv s → L.body s = .inr r → Post s r)
    (next : ∀ s s', Inv s → L.body s = .inl s' → Inv s' ∧ ∀ r, Post s' r → Post s r)
    {s : σ} (init : Inv s) : Post s (L.run s) := by
  have hpasses : ∀ n s r, Inv s → L.iterate n s = some r → Post s r := by
    intro n
    induction n with
    | zero => intro s r _ h; cases h
    | succ n ih =>
      intro s r hinv h
      rw [iterate] at h
      cases hbody : L.body s with
      | inl s' =>
        rw [hbody] at h
        obtain ⟨hinv', hback⟩ := next s s' hinv hbody
        exact hback r (ih s' r hinv' h)
      | inr r' =>
        rw [hbody] at h
        cases h
        exact stop s r hinv hbody
  exact hpasses _ s _ init (Option.some_get _).symm

/-- However many passes are allowed, the result is the same. -/
theorem iterate_unique {n m : Nat} {s : σ} {r r' : ρ} (h : L.iterate n s = some r)
    (h' : L.iterate m s = some r') : r = r' := by
  induction n generalizing m s with
  | zero => cases h
  | succ n ih =>
    cases m with
    | zero => cases h'
    | succ m =>
      rw [iterate] at h h'
      cases hbody : L.body s with
      | inl s' =>
        rw [hbody] at h h'
        exact ih h h'
      | inr t =>
        rw [hbody] at h h'
        cases h
        cases h'
        rfl

theorem iterate_run (s : σ) : L.iterate (L.measure s + 1) s = some (L.run s) :=
  (Option.some_get _).symm

theorem run_of_stop {s : σ} {r : ρ} (h : L.body s = .inr r) : L.run s = r := by
  have hrun := L.iterate_run s
  rw [iterate, h] at hrun
  exact (Option.some.inj hrun).symm

theorem run_of_next {s s' : σ} (h : L.body s = .inl s') : L.run s = L.run s' := by
  have hrun := L.iterate_run s
  rw [iterate, h] at hrun
  exact L.iterate_unique hrun (L.iterate_run s')

end Loop

/-- A loop whose passes may fault and decrease a measure where they do not. -/
structure CheckedLoop (σ ρ : Type) where
  body : σ → Option (σ ⊕ ρ)
  measure : σ → Nat
  decreases : ∀ {s s'}, body s = some (.inl s') → measure s' < measure s

namespace CheckedLoop

variable {σ ρ : Type} (C : CheckedLoop σ ρ)

/-- The loop that is left with `none` where a pass faults. -/
def toLoop : Loop σ (Option ρ) where
  body s :=
    match C.body s with
    | none => .inr none
    | some (.inl s') => .inl s'
    | some (.inr r) => .inr (some r)
  measure := C.measure
  decreases {s s'} h := by
    cases hbody : C.body s with
    | none => rw [hbody] at h; cases h
    | some next =>
      rw [hbody] at h
      cases next with
      | inl t =>
        cases h
        exact C.decreases hbody
      | inr r => cases h

/-- The result of the loop, unless a pass faults. -/
def run (s : σ) : Option ρ := C.toLoop.run s

/-- A loop none of whose passes faults does what the loop without checks does. -/
theorem run_eq (L : Loop σ ρ) (h : ∀ s, C.body s = some (L.body s)) (s : σ) :
    C.run s = some (L.run s) := by
  refine C.toLoop.rule (fun _ => True) (fun s r => r = some (L.run s)) ?_ ?_ trivial
  · intro s r _ hbody
    simp only [toLoop, h s] at hbody
    cases hL : L.body s with
    | inl s' => rw [hL] at hbody; cases hbody
    | inr t =>
      rw [hL] at hbody
      cases hbody
      rw [L.run_of_stop hL]
  · intro s s' _ hbody
    simp only [toLoop, h s] at hbody
    cases hL : L.body s with
    | inl t =>
      rw [hL] at hbody
      cases hbody
      rw [L.run_of_next hL]
      exact ⟨trivial, fun _ hr => hr⟩
    | inr t => rw [hL] at hbody; cases hbody

end CheckedLoop

end Library
