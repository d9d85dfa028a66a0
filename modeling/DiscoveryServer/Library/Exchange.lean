import DiscoveryServer.Library.Run
import Mathlib.Data.List.Perm.Basic

/-!
# Runs in another order

A list may be sorted in several ways when some of its elements are equal in the order.
If neighbours that may stand either way round have the same effect either way round,
wherever a run gets to them, every sorted arrangement has the same run (`run?_perm`).
-/

namespace Library

variable {σ ι κ : Type}

theorem run?_map (step : σ → κ → Option σ) (f : ι → κ) (s : σ) (xs : List ι) :
    run? step s (xs.map f) = run? (fun s i => step s (f i)) s xs := by
  induction xs generalizing s with
  | nil => rfl
  | cons x xs ih =>
    show (step s (f x)).bind _ = (step s (f x)).bind _
    exact Option.bind_congr fun t _ => ih t

variable {step : σ → ι → Option σ} {R : ι → ι → Prop} {s : σ} {xs ys : List ι}

/-- Neighbours that may stand either way round have the same effect, wherever a run over
a sorted arrangement of `xs` gets to them. -/
def Exchanges (step : σ → ι → Option σ) (R : ι → ι → Prop) (s : σ) (xs : List ι) : Prop :=
  ∀ before i j after, (before ++ i :: j :: after).Perm xs →
    (before ++ i :: j :: after).Pairwise R → R j i → ∀ t, run? step s before = some t →
      run? step t [i, j] = run? step t [j, i]

/-- After the first step the rest exchanges. -/
theorem Exchanges.tail {x : ι} {t : σ} (h : Exchanges step R s (x :: xs))
    (hx : ∀ y ∈ xs, R x y) (hstep : step s x = some t) : Exchanges step R t xs := by
  intro before i j after hperm hsorted hij u hrun
  refine h (x :: before) i j after (hperm.cons x) ?_ hij u ?_
  · refine List.pairwise_cons.mpr ⟨fun y hy => hx y (hperm.mem_iff.mp hy), hsorted⟩
  · show (step s x).bind _ = some u
    rw [hstep]
    exact hrun

/-- Two neighbours that may stand either way round. -/
theorem pairwise_swap {before after : List ι} {i j : ι}
    (h : (before ++ i :: j :: after).Pairwise R) (hij : R j i) :
    (before ++ j :: i :: after).Pairwise R := by
  obtain ⟨hbefore, hrest, hcross⟩ := List.pairwise_append.mp h
  obtain ⟨hi, hrest⟩ := List.pairwise_cons.mp hrest
  obtain ⟨hj, hafter⟩ := List.pairwise_cons.mp hrest
  have hi' : ∀ k ∈ after, R i k := fun k hk => hi k (List.mem_cons_of_mem j hk)
  refine List.pairwise_append.mpr ⟨hbefore, List.pairwise_cons.mpr ⟨?_,
    List.pairwise_cons.mpr ⟨hi', hafter⟩⟩, fun k hk l hl => hcross k hk l ?_⟩
  · intro k hk
    rcases List.mem_cons.mp hk with rfl | hk
    · exact hij
    · exact hj k hk
  · exact (List.Perm.swap i j after).mem_iff.mp hl

/-- An element that may stand before all that precede it. -/
theorem run?_bubble (h : Exchanges step R s xs) (before : List ι) {x : ι} {after : List ι}
    (hperm : (before ++ x :: after).Perm xs) (hsorted : (before ++ x :: after).Pairwise R)
    (hbefore : ∀ y ∈ before, R x y) :
    run? step s (before ++ x :: after) = run? step s (x :: (before ++ after)) := by
  induction before using List.reverseRecOn generalizing after with
  | nil => rfl
  | append_singleton before y ih =>
    rw [List.append_assoc, List.singleton_append] at hperm hsorted ⊢
    have hxy : R x y := hbefore y (List.mem_append_right before (List.mem_singleton_self y))
    have hswap : (before ++ x :: y :: after).Perm xs :=
      ((List.Perm.swap y x after).append_left before).trans hperm
    have hexchange : run? step s (before ++ y :: x :: after) =
        run? step s (before ++ x :: y :: after) := by
      rw [run?_append, run?_append]
      refine Option.bind_congr fun t ht => ?_
      have hpair := h before y x after hperm hsorted hxy t ht
      show run? step t ([y, x] ++ after) = run? step t ([x, y] ++ after)
      rw [run?_append, run?_append, hpair]
    rw [hexchange, ih hswap (pairwise_swap hsorted hxy)
      fun z hz => hbefore z (List.mem_append_left [y] hz)]
    rw [List.append_assoc, List.singleton_append]

/-- **The order of what may stand either way round does not matter.** -/
theorem run?_perm (hperm : xs.Perm ys) (hxs : xs.Pairwise R) (hys : ys.Pairwise R)
    (h : Exchanges step R s xs) : run? step s xs = run? step s ys := by
  induction xs generalizing s ys with
  | nil => rw [hperm.nil_eq]
  | cons x xs ih =>
    obtain ⟨hx, hxs⟩ := List.pairwise_cons.mp hxs
    obtain ⟨before, after, rfl⟩ := List.append_of_mem (hperm.subset List.mem_cons_self)
    have hrest : xs.Perm (before ++ after) :=
      (hperm.trans List.perm_middle).cons_inv
    have hbefore : ∀ y ∈ before, R x y := fun y hy =>
      hx y (hrest.mem_iff.mpr (List.mem_append_left after hy))
    rw [run?_bubble h before hperm.symm hys hbefore]
    show (step s x).bind _ = (step s x).bind _
    refine Option.bind_congr fun t ht => ?_
    refine ih hrest hxs ?_ (h.tail hx ht)
    exact hys.sublist ((List.sublist_cons_self x after).append_left before)

end Library
