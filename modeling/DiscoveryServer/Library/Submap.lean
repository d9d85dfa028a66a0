import DiscoveryServer.Library.OrdMap

/-!
# Inclusion of maps

A map is within another one where every entry of it is in the other, with a value that is
below the other's. An order on the values makes this an order on the maps, so that two
maps are equal where each is within the other.
-/

namespace Library

namespace OrdMap

variable {κ β : Type} [LinearOrder κ] {below : β → β → Bool} {m m' : OrdMap κ β}

/-- Every entry of `m` is in `m'`, with a value that is below the one there. -/
def within (below : β → β → Bool) (m m' : OrdMap κ β) : Bool :=
  m.toList.all fun e =>
    match m'.get? e.1 with
    | none => false
    | some v => below e.2 v

theorem within_iff : within below m m' = true ↔
    ∀ k v, m.get? k = some v → ∃ v', m'.get? k = some v' ∧ below v v' = true := by
  unfold within
  rw [List.all_eq_true]
  constructor
  · intro h k v hget
    have hentry := h (k, v) (get?_eq_some_iff.mp hget)
    cases hother : m'.get? k with
    | none => simp [hother] at hentry
    | some v' => exact ⟨v', rfl, by simpa [hother] using hentry⟩
  · intro h e he
    obtain ⟨v', hother, hbelow⟩ := h e.1 e.2 (get?_eq_some_iff.mpr he)
    rw [hother]
    exact hbelow

theorem within_refl (hrefl : ∀ v, below v v = true) : within below m m = true := by
  rw [within_iff]
  intro k v hget
  exact ⟨v, hget, hrefl v⟩

/-- A map is its lookups. -/
theorem ext_get? (h : ∀ k, m.get? k = m'.get? k) : m = m' := by
  refine OrdSet.ext_find? fun k => ?_
  cases hfind : m.find? k with
  | none =>
    have hget := h k
    unfold get? at hget
    rw [hfind, Option.map_none] at hget
    exact (Option.map_eq_none_iff.mp hget.symm).symm
  | some a =>
    obtain ⟨hget, hkey⟩ := find?_eq_some_iff.mp hfind
    exact (find?_eq_some_iff.mpr ⟨(h k).symm.trans hget, hkey⟩).symm

theorem within_antisymm (hanti : ∀ v v', below v v' = true → below v' v = true → v = v')
    (h : within below m m' = true) (h' : within below m' m = true) : m = m' := by
  rw [within_iff] at h h'
  refine ext_get? fun k => ?_
  cases hget : m.get? k with
  | none =>
    cases hother : m'.get? k with
    | none => rfl
    | some v' =>
      obtain ⟨v, hv, -⟩ := h' k v' hother
      rw [hget] at hv
      cases hv
  | some v =>
    obtain ⟨v', hother, hbelow⟩ := h k v hget
    obtain ⟨w, hw, hbelow'⟩ := h' k v' hother
    rw [hget] at hw
    cases hw
    rw [hother, hanti v v' hbelow hbelow']

end OrdMap

end Library
