import DiscoveryServer.Library.ParsedXml
import Mathlib.Data.List.Perm.Basic
import Mathlib.Logic.Relation

/-!
# One-to-one correspondences of lists

Two lists correspond one to one under a relation if the second one, in some order, is
related to the first one element by element. Correspondences compose and can be turned
round. A dictionary whose keys are distinct corresponds to the list it is filled from
(`oneToOne_setAll`).
-/

namespace Library

variable {α β γ : Type}

/-- Each element of one list has its own partner in the other one. -/
def OneToOne (R : α → β → Prop) (l : List α) (l' : List β) : Prop :=
  ∃ m, List.Forall₂ R l m ∧ m.Perm l'

namespace OneToOne

variable {R : α → β → Prop} {l : List α} {l' : List β}

/-- Turned round. -/
theorem symm (h : OneToOne R l l') : OneToOne (flip R) l' l := by
  obtain ⟨m, hR, hperm⟩ := h
  exact List.perm_comp_forall₂ hperm.symm hR.flip

theorem forall₂_trans {S : β → γ → Prop} {m : List β} {n : List γ} (h : List.Forall₂ R l m)
    (h' : List.Forall₂ S m n) : List.Forall₂ (Relation.Comp R S) l n := by
  induction h generalizing n with
  | nil =>
    cases h'
    exact .nil
  | cons hR _ ih =>
    cases h' with
    | cons hS hrest => exact .cons ⟨_, hR, hS⟩ (ih hrest)

/-- One after the other. -/
theorem trans {S : β → γ → Prop} {l'' : List γ} (h : OneToOne R l l') (h' : OneToOne S l' l'') :
    OneToOne (Relation.Comp R S) l l'' := by
  obtain ⟨m, hR, hperm⟩ := h
  obtain ⟨n, hS, hperm'⟩ := h'
  obtain ⟨k, hS', hperm''⟩ := List.perm_comp_forall₂ hperm hS
  exact ⟨k, forall₂_trans hR hS', hperm''.trans hperm'⟩

theorem exists_right (h : OneToOne R l l') {a : α} (ha : a ∈ l) : ∃ b ∈ l', R a b := by
  obtain ⟨m, hR, hperm⟩ := h
  obtain ⟨i, hi, rfl⟩ := List.mem_iff_getElem.mp ha
  have hi' : i < m.length := hR.length_eq ▸ hi
  exact ⟨m[i], hperm.mem_iff.mp (List.getElem_mem hi'), hR.get hi hi'⟩

theorem forall₂_exists {m : List β} (h : List.Forall₂ R l m) {a : α} (ha : a ∈ l) :
    ∃ b ∈ m, R a b := by
  obtain ⟨i, hi, rfl⟩ := List.mem_iff_getElem.mp ha
  have hi' : i < m.length := h.length_eq ▸ hi
  exact ⟨m[i], List.getElem_mem hi', h.get hi hi'⟩

theorem forall₂_imp_mem {S : α → β → Prop} {m : List β} (h : List.Forall₂ R l m)
    (himp : ∀ a ∈ l, ∀ b ∈ m, R a b → S a b) : List.Forall₂ S l m := by
  induction h with
  | nil => exact .nil
  | cons hR _ ih =>
    refine .cons (himp _ List.mem_cons_self _ List.mem_cons_self hR) (ih fun a ha b hb => ?_)
    exact himp a (List.mem_cons_of_mem _ ha) b (List.mem_cons_of_mem _ hb)

/-- The relation only matters between the members. -/
theorem imp_mem {S : α → β → Prop} (h : OneToOne R l l')
    (himp : ∀ a ∈ l, ∀ b ∈ l', R a b → S a b) : OneToOne S l l' := by
  obtain ⟨m, hR, hperm⟩ := h
  exact ⟨m, forall₂_imp_mem hR fun a ha b hb => himp a ha b (hperm.mem_iff.mp hb), hperm⟩

/-- What partners have in common occurs as often in both lists. -/
theorem perm_map {f : α → γ} {g : β → γ} (h : OneToOne R l l') (heq : ∀ a b, R a b → f a = g b) :
    (l.map f).Perm (l'.map g) := by
  obtain ⟨m, hR, hperm⟩ := h
  have hmap : l.map f = m.map g := by
    induction hR generalizing l' with
    | nil => rfl
    | cons hab _ ih => rw [List.map_cons, List.map_cons, heq _ _ hab, ih (List.Perm.refl _)]
  rw [hmap]
  exact hperm.map g

end OneToOne

namespace OrdMap

variable {κ : Type} [LinearOrder κ]

theorem oneToOne_setAll {R : α → κ × β → Prop} {g : α → κ × β} {l : List α}
    (hnodup : (l.map fun a => (g a).1).Nodup) (h : ∀ a ∈ l, R a (g a)) :
    OneToOne R l ((∅ : OrdMap κ β).setAll (l.map g)).toList := by
  refine ⟨l.map g, ?_, ?_⟩
  · rw [List.forall₂_map_right_iff]
    exact List.forall₂_same.mpr h
  · refine (setAll_perm ?_).symm
    rw [List.map_map]
    exact hnodup

/-- What corresponds to the entries of a dictionary has distinct keys. -/
theorem nodup_of_oneToOne {R : α → κ × β → Prop} {f : α → κ} {l : List α} {m : OrdMap κ β}
    (h : OneToOne R l m.toList) (hkey : ∀ a pair, R a pair → f a = pair.1) : (l.map f).Nodup :=
  (h.perm_map hkey).nodup_iff.mpr m.nodup_keys

end OrdMap

end Library
