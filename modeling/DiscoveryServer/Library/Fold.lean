import Mathlib.Data.List.Basic

/-!
# Loops that may stop

A loop over a list whose body may stop it is a `foldlM` in `Except`. `Reaches` says
in which state the loop meets an element; what is true of the whole loop is true of
the elements it reaches: a loop only stops the way one of its passes does
(`foldlM_error_iff`), and what every pass preserves holds wherever it gets to.
-/

namespace Library

universe u v

variable {σ : Type u} {ε : Type u} {α : Type v}

@[simp] theorem ok_bind {β : Type u} (a : σ) (f : σ → Except ε β) : (Except.ok a >>= f) = f a := rfl

theorem bind_eq_ok {β : Type u} {x : Except ε σ} {f : σ → Except ε β} {b : β} :
    (x >>= f) = .ok b ↔ ∃ a, x = .ok a ∧ f a = .ok b := by
  cases x with
  | error e => simp [bind, Except.bind]
  | ok a => simp [bind, Except.bind]

theorem bind_eq_error {β : Type u} {x : Except ε σ} {f : σ → Except ε β} {e : ε} :
    (x >>= f) = .error e ↔ x = .error e ∨ ∃ a, x = .ok a ∧ f a = .error e := by
  cases x with
  | error e => simp [bind, Except.bind]
  | ok a => simp [bind, Except.bind]

variable {f : σ → α → Except ε σ} {s t u : σ} {xs : List α} {x : α}

/-- The loop meets `x` in the state `t`. -/
def Reaches (f : σ → α → Except ε σ) (s : σ) (xs : List α) (x : α) (t : σ) : Prop :=
  ∃ done rest, xs = done ++ x :: rest ∧ done.foldlM f s = .ok t

theorem not_reaches_nil : ¬ Reaches f s [] x t := by
  rintro ⟨done, rest, h, _⟩
  exact absurd h.symm (List.append_ne_nil_of_right_ne_nil done (List.cons_ne_nil x rest))

theorem reaches_cons {y : α} :
    Reaches f s (y :: xs) x t ↔ (x = y ∧ t = s) ∨ ∃ s', f s y = .ok s' ∧ Reaches f s' xs x t := by
  constructor
  · rintro ⟨done, rest, h, hrun⟩
    cases done with
    | nil =>
      obtain ⟨rfl, _⟩ := List.cons.inj h
      cases hrun
      exact .inl ⟨rfl, rfl⟩
    | cons z done =>
      obtain ⟨rfl, htail⟩ := List.cons.inj h
      rw [List.foldlM_cons] at hrun
      obtain ⟨s', hs', hrun⟩ := bind_eq_ok.mp hrun
      exact .inr ⟨s', hs', done, rest, htail, hrun⟩
  · rintro (⟨rfl, rfl⟩ | ⟨s', hs', done, rest, rfl, hrun⟩)
    · exact ⟨[], xs, rfl, rfl⟩
    · refine ⟨y :: done, rest, rfl, ?_⟩
      rw [List.foldlM_cons]
      exact bind_eq_ok.mpr ⟨s', hs', hrun⟩

/-- What is left of a loop that has reached an element. -/
theorem Reaches.foldlM_eq (h : Reaches f s xs x t) :
    ∃ rest : List α, xs.foldlM f s = f t x >>= fun t' => rest.foldlM f t' := by
  obtain ⟨done, rest, rfl, hdone⟩ := h
  refine ⟨rest, ?_⟩
  rw [List.foldlM_append, hdone]
  show (x :: rest).foldlM f t = _
  rw [List.foldlM_cons]

/-- **A loop stops the way one of its passes does.** -/
theorem foldlM_error_iff (Q : ε → Prop) :
    (∀ e, xs.foldlM f s = .error e → Q e) ↔
      ∀ x t, Reaches f s xs x t → ∀ e, f t x = .error e → Q e := by
  induction xs generalizing s with
  | nil =>
    constructor
    · intro _ x t h
      exact absurd h not_reaches_nil
    · intro _ e h
      cases h
  | cons y xs ih =>
    rw [List.foldlM_cons]
    constructor
    · intro h x t hreach e he
      rcases reaches_cons.mp hreach with ⟨rfl, rfl⟩ | ⟨s', hs', hreach⟩
      · exact h e (bind_eq_error.mpr (.inl he))
      · exact ih.mp (fun e he => h e (bind_eq_error.mpr (.inr ⟨s', hs', he⟩))) x t hreach e he
    · intro h e he
      rcases bind_eq_error.mp he with he | ⟨s', hs', he⟩
      · exact h y s (reaches_cons.mpr (.inl ⟨rfl, rfl⟩)) e he
      · exact ih.mpr (fun x t hreach => h x t (reaches_cons.mpr (.inr ⟨s', hs', hreach⟩))) e he

/-- A relation to its start that every pass of a loop carries on holds at its end. -/
theorem foldlM_relation {R : σ → σ → Prop} (refl : ∀ s, R s s)
    (next : ∀ s x t u, f s x = .ok t → R t u → R s u) (hrun : xs.foldlM f s = .ok t) : R s t := by
  induction xs generalizing s with
  | nil =>
    cases hrun
    exact refl _
  | cons y xs ih =>
    rw [List.foldlM_cons] at hrun
    obtain ⟨s', hs', hrun⟩ := bind_eq_ok.mp hrun
    exact next s y s' t hs' (ih hrun)

theorem Reaches.relation {R : σ → σ → Prop} (refl : ∀ s, R s s)
    (next : ∀ s x t u, f s x = .ok t → R t u → R s u) (h : Reaches f s xs x t) : R s t := by
  obtain ⟨done, rest, rfl, hrun⟩ := h
  exact foldlM_relation refl next hrun

/-- Two loops over lists that correspond, with passes that do the same. -/
theorem foldlM_congr_of_forall₂ {β : Type v} {R : α → β → Prop} {g : σ → β → Except ε σ}
    {ys : List β} (h : ∀ s x y, R x y → f s x = g s y) (hl : List.Forall₂ R xs ys) (s : σ) :
    xs.foldlM f s = ys.foldlM g s := by
  induction hl generalizing s with
  | nil => rfl
  | cons hxy _ ih =>
    rw [List.foldlM_cons, List.foldlM_cons, h s _ _ hxy]
    refine congrArg _ ?_
    funext s'
    exact ih s'

/-- Nested loops as one loop. -/
theorem foldlM_flatMap {β : Type v} (f : σ → β → Except ε σ) (g : α → List β) (xs : List α)
    (s : σ) : (xs.flatMap g).foldlM f s = xs.foldlM (fun s x => (g x).foldlM f s) s := by
  induction xs generalizing s with
  | nil => rfl
  | cons x xs ih =>
    rw [List.flatMap_cons, List.foldlM_append, List.foldlM_cons]
    refine congrArg _ ?_
    funext s'
    exact ih s'

/-- A loop over elements that show something, each pass of which is a loop over what is
computed from it. -/
theorem foldlM_eq_flatMap {β γ : Type v} {R : α → β → Prop} {ys : List β}
    {body : σ → β → Except ε σ} {g : α → List γ} {step : σ → γ → Except ε σ}
    (hl : List.Forall₂ R xs ys) (h : ∀ s x y, R x y → body s y = (g x).foldlM step s) (s : σ) :
    ys.foldlM body s = (xs.flatMap g).foldlM step s := by
  rw [foldlM_flatMap]
  exact (foldlM_congr_of_forall₂ (fun s x y hxy => (h s x y hxy).symm) hl s).symm

/-- A loop with an element that always stops it stops, with the one exception there is. -/
theorem foldlM_eq_error {e : ε} (honly : ∀ y ∈ xs, ∀ s e', f s y = .error e' → e' = e)
    (hx : x ∈ xs) (hstop : ∀ s, f s x = .error e) (s : σ) : xs.foldlM f s = .error e := by
  induction xs generalizing s with
  | nil => cases hx
  | cons y xs ih =>
    rw [List.foldlM_cons]
    cases hy : f s y with
    | error e' => rw [honly y List.mem_cons_self s e' hy]; rfl
    | ok s' =>
      have hmem : x ∈ xs := by
        cases List.mem_cons.mp hx with
        | inl heq =>
          rw [heq] at hstop
          rw [hstop s] at hy
          cases hy
        | inr hmem => exact hmem
      exact ih (fun y hy => honly y (List.mem_cons_of_mem _ hy)) hmem s'

/-- What is computed of elements that show something. -/
theorem mapM_ok_of_forall₂ {β γ : Type u} {R : γ → α → Prop} {S : γ → β → Prop} {views : List γ}
    {l : List α} {f : α → Except ε β} (h : List.Forall₂ R views l)
    (hf : ∀ v ∈ views, ∀ e, R v e → ∃ b, f e = .ok b ∧ S v b) :
    ∃ results, l.mapM f = .ok results ∧ List.Forall₂ S views results := by
  induction h with
  | nil => exact ⟨[], rfl, .nil⟩
  | cons hR _ ih =>
    obtain ⟨b, hb, hS⟩ := hf _ List.mem_cons_self _ hR
    obtain ⟨results, hresults, hrest⟩ := ih fun v hv => hf v (List.mem_cons_of_mem _ hv)
    refine ⟨b :: results, ?_, .cons hS hrest⟩
    rw [List.mapM_cons, hb, hresults]
    rfl

end Library
