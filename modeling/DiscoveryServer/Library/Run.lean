import Mathlib.Data.List.Induction
import Mathlib.Order.Basic
import Mathlib.Tactic.SplitIfs

/-!
# Runs of a deterministic system and of its components

`run step s h` feeds the history `h` to a step function. `run_induction` is the
rule every invariant over histories uses: the property may mention the history
so far, and only one step has to be considered. `run?` is the same for steps
that may be undefined; `iff_since` says of a fact that steps establish and revoke
whether it holds at the end, `register_run` what a register holds that steps overwrite,
and `climbs_iff` when it is never put back.

`Simulates` says of two systems that each step of the one is a run of the other, and
`run?_filter` leaves out of a run what nobody looks at; what is left out keeps nothing from
going on (`run?_goes_on`).

`Components` describes a system that is a product of independent parts: every
input belongs to one key and changes only the part under that key. Then a part
depends on its own inputs alone (`Components.view_run`), so interleavings that
agree part by part cannot be told apart (`Components.run_congr`).
-/

namespace Library

variable {σ ι κ ς ρ τ : Type}

/-- The state after a history of inputs. -/
def run (step : σ → ι → σ) (s : σ) (h : List ι) : σ := h.foldl step s

@[simp] theorem run_nil (step : σ → ι → σ) (s : σ) : run step s [] = s := rfl

@[simp] theorem run_cons (step : σ → ι → σ) (s : σ) (i : ι) (h : List ι) :
    run step s (i :: h) = run step (step s i) h := rfl

theorem run_append (step : σ → ι → σ) (s : σ) (h₁ h₂ : List ι) :
    run step s (h₁ ++ h₂) = run step (run step s h₁) h₂ := List.foldl_append

@[simp] theorem run_snoc (step : σ → ι → σ) (s : σ) (h : List ι) (i : ι) :
    run step s (h ++ [i]) = step (run step s h) i := by
  rw [run_append, run_cons, run_nil]

/-- Induction along a history, one more input at its end. -/
theorem run_induction (step : σ → ι → σ) (s : σ) {P : List ι → σ → Prop} (init : P [] s)
    (next : ∀ h i, P h (run step s h) → P (h ++ [i]) (step (run step s h) i)) :
    ∀ h, P h (run step s h) := by
  intro h
  induction h using List.reverseRecOn with
  | nil => exact init
  | append_singleton h i ih =>
    rw [run_snoc]
    exact next h i ih

/-- A property kept by every step holds along every run. -/
theorem run_invariant {step : σ → ι → σ} {P : σ → Prop} (keep : ∀ s i, P s → P (step s i))
    {s : σ} (init : P s) (h : List ι) : P (run step s h) :=
  run_induction step s (P := fun _ t => P t) init (fun _ i => keep _ i) h

/-! ## Partial steps -/

/-- The state after a history whose inputs may have no effect defined. -/
def run? (step : σ → ι → Option σ) (s : σ) : List ι → Option σ
  | [] => some s
  | i :: h => (step s i).bind fun t => run? step t h

theorem run?_append (step : σ → ι → Option σ) (s : σ) (h₁ h₂ : List ι) :
    run? step s (h₁ ++ h₂) = (run? step s h₁).bind fun t => run? step t h₂ := by
  induction h₁ generalizing s with
  | nil => rfl
  | cons i h ih =>
    rw [List.cons_append, run?, run?]
    cases step s i with
    | none => rfl
    | some t => exact ih t

/-- A relation to the start that every step carries on holds at the end. -/
theorem run?_relation {step : σ → ι → Option σ} (R : σ → σ → Prop) (refl : ∀ s, R s s)
    (next : ∀ s i t u, step s i = some t → R t u → R s u) {s t : σ} {h : List ι}
    (hrun : run? step s h = some t) : R s t := by
  induction h generalizing s with
  | nil =>
    cases hrun
    exact refl _
  | cons i h ih =>
    obtain ⟨s', hs', hrest⟩ := Option.bind_eq_some_iff.mp hrun
    exact next s i s' t hs' (ih hrest)

/-- A property kept by every step that is defined holds after every run. -/
theorem run?_invariant {step : σ → ι → Option σ} {P : σ → Prop}
    (keep : ∀ s i t, P s → step s i = some t → P t) {s t : σ} {h : List ι} (init : P s)
    (hrun : run? step s h = some t) : P t :=
  run?_relation (fun s t => P s → P t) (fun _ hs => hs)
    (fun s i t _ hstep hrest hs => hrest (keep s i t hs hstep)) hrun init

/-! ## Facts that steps establish and revoke -/

section Since

variable (step : σ → ι → Option σ) (establish revoke : σ → ι → Prop)

/-- No step of the history revokes it. -/
def Unrevoked : σ → List ι → Prop
  | _, [] => True
  | s, i :: h => ¬ revoke s i ∧ ∀ t, step s i = some t → Unrevoked t h

/-- A step of the history establishes it, and no later one revokes it. -/
def Since : σ → List ι → Prop
  | _, [] => False
  | s, i :: h => ∃ t, step s i = some t ∧ ((establish s i ∧ Unrevoked step revoke t h) ∨ Since t h)

variable {step establish revoke}

/-- A fact that holds after a step when the step establishes it, or when it held
before and the step does not revoke it, holds after a run when it has been
established since the last step that revoked it, or all along. -/
theorem iff_since {P : σ → Prop} (I : σ → Prop) (keep : ∀ s i t, I s → step s i = some t → I t)
    (next : ∀ s i t, I s → step s i = some t → (P t ↔ establish s i ∨ (P s ∧ ¬ revoke s i)))
    {s t : σ} {h : List ι} (hs : I s) (hrun : run? step s h = some t) :
    P t ↔ (P s ∧ Unrevoked step revoke s h) ∨ Since step establish revoke s h := by
  induction h generalizing s with
  | nil =>
    cases hrun
    simp [Unrevoked, Since]
  | cons i h ih =>
    obtain ⟨s', hs', hrest⟩ := Option.bind_eq_some_iff.mp hrun
    rw [ih (keep s i s' hs hs') hrest, next s i s' hs hs']
    simp only [Unrevoked, Since, hs', Option.some.injEq, forall_eq', exists_eq_left']
    tauto

end Since

/-! ## What is observed along a run -/

section Observed

variable (step : σ → ι → Option σ) (observe : σ → ι → Option τ)

/-- What is observed along a history, in the order of its steps. -/
def observed : σ → List ι → List τ
  | _, [] => []
  | s, i :: h => (observe s i).toList ++
      match step s i with
      | none => []
      | some t => observed t h

variable {step observe}

theorem observed_cons {s t : σ} {i : ι} (hstep : step s i = some t) (h : List ι) :
    observed step observe s (i :: h) = (observe s i).toList ++ observed step observe t h := by
  rw [observed, hstep]

theorem observed_append {s t : σ} {h : List ι} (hrun : run? step s h = some t) (h' : List ι) :
    observed step observe s (h ++ h') =
      observed step observe s h ++ observed step observe t h' := by
  induction h generalizing s with
  | nil =>
    cases hrun
    rfl
  | cons i h ih =>
    obtain ⟨s', hs', hrest⟩ := Option.bind_eq_some_iff.mp hrun
    rw [List.cons_append, observed_cons hs', observed_cons hs', ih hrest, List.append_assoc]

/-- What is observed is observed at some step. -/
theorem mem_observed_iff {s t : σ} {h : List ι} (hrun : run? step s h = some t) {v : τ} :
    v ∈ observed step observe s h ↔ ∃ before i after u, h = before ++ i :: after ∧
      run? step s before = some u ∧ observe u i = some v := by
  induction h generalizing s with
  | nil =>
    constructor
    · intro hv
      cases hv
    · rintro ⟨before, i, after, u, hsplit, -⟩
      have hne := List.append_ne_nil_of_right_ne_nil before (List.cons_ne_nil i after)
      exact absurd hsplit.symm hne
  | cons j h ih =>
    obtain ⟨s', hs', hrest⟩ := Option.bind_eq_some_iff.mp hrun
    rw [observed_cons hs', List.mem_append, Option.mem_toList, ih hrest]
    constructor
    · rintro (hv | ⟨before, i, after, u, rfl, hbefore, hv⟩)
      · exact ⟨[], j, h, s, rfl, rfl, hv⟩
      · exact ⟨j :: before, i, after, u, rfl, Option.bind_eq_some_iff.mpr ⟨s', hs', hbefore⟩, hv⟩
    · rintro ⟨before, i, after, u, hsplit, hbefore, hv⟩
      cases before with
      | nil =>
        obtain ⟨rfl, rfl⟩ := List.cons.inj hsplit
        cases hbefore
        exact .inl hv
      | cons j' before =>
        obtain ⟨rfl, rfl⟩ := List.cons.inj hsplit
        obtain ⟨s'', hs'', hbefore⟩ := Option.bind_eq_some_iff.mp hbefore
        rw [hs'] at hs''
        cases hs''
        exact .inr ⟨before, i, after, u, rfl, hbefore, hv⟩

/-- A register that a step sets to what is observed holds the last observation. -/
theorem register_run {register : σ → τ}
    (hset : ∀ s i t, step s i = some t → register t = (observe s i).getD (register s)) {s t : σ}
    {h : List ι} (hrun : run? step s h = some t) :
    register t = (observed step observe s h).getLast?.getD (register s) := by
  induction h generalizing s with
  | nil =>
    cases hrun
    rfl
  | cons i h ih =>
    obtain ⟨s', hs', hrest⟩ := Option.bind_eq_some_iff.mp hrun
    rw [ih hrest, observed_cons hs', hset s i s' hs']
    cases observe s i with
    | none => rfl
    | some v =>
      show _ = ((v :: observed step observe s' h).getLast?).getD (register s)
      rw [List.getLast?_cons]
      rfl

/-- No step of the history puts the register back. -/
def Climbs [LE τ] (step : σ → ι → Option σ) (register : σ → τ) : σ → List ι → Prop
  | _, [] => True
  | s, i :: h => ∀ t, step s i = some t → register s ≤ register t ∧ Climbs step register t h

/-- Such a register is never put back exactly if the observations come in order. -/
theorem climbs_iff [Preorder τ] {register : σ → τ}
    (hset : ∀ s i t, step s i = some t → register t = (observe s i).getD (register s)) {s t : σ}
    {h : List ι} (hrun : run? step s h = some t) :
    Climbs step register s h ↔ (register s :: observed step observe s h).Pairwise (· ≤ ·) := by
  induction h generalizing s with
  | nil =>
    cases hrun
    exact iff_of_true trivial (List.pairwise_singleton _ _)
  | cons i h ih =>
    obtain ⟨s', hs', hrest⟩ := Option.bind_eq_some_iff.mp hrun
    have hnext : Climbs step register s (i :: h) ↔
        register s ≤ register s' ∧ Climbs step register s' h := by
      constructor
      · intro hclimbs
        exact hclimbs s' hs'
      · intro hclimbs t ht
        cases hs'.symm.trans ht
        exact hclimbs
    have hvalue := hset s i s' hs'
    rw [hnext, ih hrest, observed_cons hs']
    cases hobserved : observe s i with
    | none =>
      rw [hobserved] at hvalue
      have hsame : register s' = register s := hvalue
      rw [hsame, and_iff_right le_rfl]
      rfl
    | some v =>
      rw [hobserved] at hvalue
      have hsame : register s' = v := hvalue
      rw [hsame]
      show _ ↔ (register s :: v :: observed step observe s' h).Pairwise (· ≤ ·)
      constructor
      · rintro ⟨hle, hsorted⟩
        refine List.pairwise_cons.mpr ⟨fun u hu => ?_, hsorted⟩
        rcases List.mem_cons.mp hu with rfl | hu
        · exact hle
        · exact hle.trans (List.rel_of_pairwise_cons hsorted hu)
      · intro hsorted
        exact ⟨List.rel_of_pairwise_cons hsorted List.mem_cons_self, hsorted.of_cons⟩

end Observed

/-! ## Systems side by side -/

section Simulation

variable (step : σ → ι → Option σ) (parts : σ → ι → List κ)

/-- The parts of the steps of a history. -/
def expansion : σ → List ι → List κ
  | _, [] => []
  | s, i :: h => parts s i ++
      match step s i with
      | none => []
      | some t => expansion t h

/-- Each step of the one system is a run of the other: its parts. -/
def Simulates (step' : τ → κ → Option τ) (R : σ → τ → Prop) : Prop :=
  ∀ s i t u, R s u → step s i = some t → ∃ v, run? step' u (parts s i) = some v ∧ R t v

variable {step parts}

theorem expansion_cons {s t : σ} {i : ι} (hstep : step s i = some t) (h : List ι) :
    expansion step parts s (i :: h) = parts s i ++ expansion step parts t h := by
  rw [expansion, hstep]

/-- Runs of the one system are runs of the other. -/
theorem Simulates.run {step' : τ → κ → Option τ} {R : σ → τ → Prop}
    (hsim : Simulates step parts step' R) {s t : σ} {u : τ} (hR : R s u) {h : List ι}
    (hrun : run? step s h = some t) :
    ∃ v, run? step' u (expansion step parts s h) = some v ∧ R t v := by
  induction h generalizing s u with
  | nil =>
    cases hrun
    exact ⟨u, rfl, hR⟩
  | cons i h ih =>
    obtain ⟨s', hs', hrest⟩ := Option.bind_eq_some_iff.mp hrun
    obtain ⟨u', hu', hR'⟩ := hsim s i s' u hR hs'
    obtain ⟨v, hv, hRv⟩ := ih hR' hrest
    refine ⟨v, ?_, hRv⟩
    rw [expansion_cons hs', run?_append, hu']
    exact hv

/-- Of a run, the steps that are kept: they act alike on states that look alike, and what
is left out does not change the look of a state. -/
theorem run?_filter {keep : ι → Bool} {R : σ → σ → Prop}
    (hkeep : ∀ s i s' t, keep i = true → R s t → step s i = some s' →
      ∃ t', step t i = some t' ∧ R s' t')
    (hdrop : ∀ s i s' t, keep i = false → R s t → step s i = some s' → R s' t)
    {s s' t : σ} (hR : R s t) {h : List ι} (hrun : run? step s h = some s') :
    ∃ t', run? step t (h.filter keep) = some t' ∧ R s' t' := by
  induction h generalizing s t with
  | nil =>
    cases hrun
    exact ⟨t, rfl, hR⟩
  | cons i h ih =>
    obtain ⟨s₁, hs₁, hrest⟩ := Option.bind_eq_some_iff.mp hrun
    cases hi : keep i with
    | false =>
      rw [List.filter_cons_of_neg (by simp [hi])]
      exact ih (hdrop s i s₁ t hi hR hs₁) hrest
    | true =>
      obtain ⟨t₁, ht₁, hR₁⟩ := hkeep s i s₁ t hi hR hs₁
      obtain ⟨t', ht', hR'⟩ := ih hR₁ hrest
      refine ⟨t', ?_, hR'⟩
      rw [List.filter_cons_of_pos hi, run?, ht₁]
      exact ht'

/-- What is left out keeps nothing waiting: whatever can follow the steps that are kept, when
they are alone, can follow the whole run. -/
theorem run?_goes_on {keep : ι → Bool} {R : σ → σ → Prop}
    (hkeep : ∀ s i s' t, keep i = true → R s t → step s i = some s' →
      ∃ t', step t i = some t' ∧ R s' t')
    (hdrop : ∀ s i s' t, keep i = false → R s t → step s i = some s' → R s' t)
    (hsymm : ∀ s t, R s t → R t s) {s s' t : σ} (hR : R s s) {h rest : List ι}
    (hrun : run? step s h = some s') (hrest : ∀ i ∈ rest, keep i = true)
    (halone : run? step s (h.filter keep ++ rest) = some t) :
    ∃ u, run? step s' rest = some u ∧ R t u := by
  obtain ⟨t', ht', hR'⟩ := run?_filter hkeep hdrop hR hrun
  rw [run?_append, ht', Option.bind_some] at halone
  have hback := run?_filter hkeep hdrop (hsymm _ _ hR') halone
  rw [List.filter_eq_self.mpr hrest] at hback
  exact hback

end Simulation

/-! ## Components -/

/-- A system made of parts, one for each key, and a rest no input touches: an
input acts on the part of its owner and leaves the others alone. -/
structure Components (σ ι κ ς ρ : Type) [DecidableEq κ] where
  step : σ → ι → σ
  owner : ι → κ
  view : κ → σ → ς
  act : ι → ς → ς
  rest : σ → ρ
  view_step : ∀ s i k, view k (step s i) = if k = owner i then act i (view k s) else view k s
  rest_step : ∀ s i, rest (step s i) = rest s
  ext : ∀ s t, rest s = rest t → (∀ k, view k s = view k t) → s = t

namespace Components

variable [DecidableEq κ] (C : Components σ ι κ ς ρ)

/-- The inputs of a history that belong to one key. -/
def inputsOf (k : κ) (h : List ι) : List ι := h.filter fun i => k = C.owner i

theorem inputsOf_cons_self {k : κ} {i : ι} (hk : k = C.owner i) (h : List ι) :
    C.inputsOf k (i :: h) = i :: C.inputsOf k h :=
  List.filter_cons_of_pos (by simpa using hk)

theorem inputsOf_cons_ne {k : κ} {i : ι} (hk : k ≠ C.owner i) (h : List ι) :
    C.inputsOf k (i :: h) = C.inputsOf k h :=
  List.filter_cons_of_neg (by simpa using hk)

/-- One input leaves the parts of all other keys exactly as they were. -/
theorem view_step_ne {s : σ} {i : ι} {k : κ} (hk : k ≠ C.owner i) :
    C.view k (C.step s i) = C.view k s := by
  rw [C.view_step, if_neg hk]

/-- A part evolves by its own inputs alone. -/
theorem view_run (s : σ) (k : κ) (h : List ι) :
    C.view k (run C.step s h) = (C.inputsOf k h).foldl (fun c i => C.act i c) (C.view k s) := by
  induction h generalizing s with
  | nil => rfl
  | cons i h ih =>
    rw [run_cons, ih, C.view_step]
    by_cases hk : k = C.owner i
    · rw [if_pos hk, C.inputsOf_cons_self hk, List.foldl_cons]
    · rw [if_neg hk, C.inputsOf_cons_ne hk]

/-- An input leaves the whole system as it was when it leaves its own part so. -/
theorem step_eq_self_iff {s : σ} {i : ι} :
    C.step s i = s ↔ C.act i (C.view (C.owner i) s) = C.view (C.owner i) s := by
  constructor
  · intro h
    have hview := C.view_step s i (C.owner i)
    rw [h, if_pos rfl] at hview
    exact hview.symm
  · intro h
    refine C.ext _ _ (C.rest_step s i) fun k => ?_
    rw [C.view_step]
    split_ifs with hk
    · rw [hk]
      exact h
    · rfl

theorem rest_run (s : σ) (h : List ι) : C.rest (run C.step s h) = C.rest s :=
  run_invariant (P := fun t => C.rest t = C.rest s)
    (fun t i ht => (C.rest_step t i).trans ht) rfl h

/-- Histories with the same inputs for every key end in the same state, in
whatever order the inputs of different keys are interleaved. -/
theorem run_congr (s : σ) {h₁ h₂ : List ι} (same : ∀ k, C.inputsOf k h₁ = C.inputsOf k h₂) :
    run C.step s h₁ = run C.step s h₂ :=
  C.ext _ _ ((C.rest_run s h₁).trans (C.rest_run s h₂).symm)
    fun k => by rw [C.view_run, C.view_run, same k]

/-- The same up to an observation `f` of the parts, for inputs that agree up to
`tag`: what `f` sees depends on the tags alone. -/
theorem observe_congr {α : Type} (f : ς → τ) (tag : ι → α)
    (hact : ∀ i j c d, tag i = tag j → f c = f d → f (C.act i c) = f (C.act j d)) (s : σ)
    {h₁ h₂ : List ι} (same : ∀ k, (C.inputsOf k h₁).map tag = (C.inputsOf k h₂).map tag) (k : κ) :
    f (C.view k (run C.step s h₁)) = f (C.view k (run C.step s h₂)) := by
  rw [C.view_run, C.view_run]
  have hfold : ∀ (l₁ l₂ : List ι) (c d : ς), l₁.map tag = l₂.map tag → f c = f d →
      f (l₁.foldl (fun c i => C.act i c) c) = f (l₂.foldl (fun c i => C.act i c) d) := by
    intro l₁
    induction l₁ with
    | nil =>
      intro l₂ c d htag hcd
      rw [List.map_eq_nil_iff.mp htag.symm]
      exact hcd
    | cons i l₁ ih =>
      intro l₂ c d htag hcd
      cases l₂ with
      | nil => exact absurd htag (by simp)
      | cons j l₂ =>
        obtain ⟨hij, htl⟩ := List.cons.inj htag
        exact ih l₂ _ _ htl (hact i j c d hij hcd)
  exact hfold _ _ _ _ (same k) rfl

end Components

end Library
