import DiscoveryServer.Library.OrdSet
import Mathlib.Data.List.Nodup

/-!
# Ordered maps

`std::map` as an ordered set of key–value pairs. The view that matters is
`get?`; each operation has its `get?_` equation, and a map is determined by what
it holds under every key.
-/

namespace Library

/-- `std::map<κ, β>`. -/
abbrev OrdMap (κ : Type) [LinearOrder κ] (β : Type) := OrdSet κ (κ × β)

namespace OrdMap

variable {κ β : Type} [LinearOrder κ]

/-- The value under a key: `it->second` for `it = m.find(k)`, or nothing. -/
def get? (m : OrdMap κ β) (k : κ) : Option β := (m.find? k).map Prod.snd

/-- `m[k] = v`. -/
def set (m : OrdMap κ β) (k : κ) (v : β) : OrdMap κ β := m.assign (k, v)

/-- What a reading `m[k]` leaves behind: an entry with the value `v`, built from
nothing, where there was none. -/
def touch (m : OrdMap κ β) (k : κ) (v : β) : OrdMap κ β := m.insert (k, v)

/-- The values in the order of their keys. -/
def values (m : OrdMap κ β) : List β := m.toList.map Prod.snd

theorem find?_eq_some_iff {m : OrdMap κ β} {k : κ} {a : κ × β} :
    m.find? k = some a ↔ m.get? k = some a.2 ∧ a.1 = k := by
  constructor
  · intro h
    exact ⟨by rw [get?, h]; rfl, OrdSet.find?_key h⟩
  · rintro ⟨hget, rfl⟩
    obtain ⟨b, hb, hval⟩ := Option.map_eq_some_iff.mp hget
    have hkey : b.1 = a.1 := OrdSet.find?_key hb
    rw [hb, Prod.ext hkey hval]

theorem get?_eq_some_iff {m : OrdMap κ β} {k : κ} {v : β} :
    m.get? k = some v ↔ (k, v) ∈ m.toList := by
  have hfind := OrdSet.find?_eq_some (s := m) (k := k) (a := (k, v))
  rw [find?_eq_some_iff] at hfind
  simp only [and_true, key_pair] at hfind
  exact hfind

@[simp] theorem get?_empty (k : κ) : (∅ : OrdMap κ β).get? k = none := rfl

theorem get?_set (m : OrdMap κ β) (k : κ) (v : β) (k' : κ) :
    (m.set k v).get? k' = if k' = k then some v else m.get? k' := by
  unfold get? set
  rw [OrdSet.find?_assign]
  by_cases h : k' = k
  · rw [if_pos h, key_pair, if_pos h]
    rfl
  · rw [if_neg h, key_pair, if_neg h]

theorem get?_touch (m : OrdMap κ β) (k : κ) (v : β) (k' : κ) :
    (m.touch k v).get? k' = if k' = k then some ((m.get? k).getD v) else m.get? k' := by
  unfold get? touch
  rw [OrdSet.find?_insert]
  by_cases h : k' = k
  · subst h
    rw [if_pos rfl, key_pair, if_pos rfl]
    cases m.find? k' <;> rfl
  · rw [if_neg h, key_pair, if_neg h]

theorem get?_erase (m : OrdMap κ β) (k k' : κ) :
    get? (m.erase k) k' = if k' = k then none else m.get? k' := by
  unfold get?
  rw [OrdSet.find?_erase]
  split_ifs <;> rfl

/-- Entries purged by their keys. -/
theorem get?_filter_key (m : OrdMap κ β) (p : κ → Bool) (k : κ) :
    get? (m.filter fun a => p a.1) k = if p k = true then m.get? k else none := by
  unfold get?
  rw [OrdSet.find?_filter]
  cases h : m.find? k with
  | none => simp
  | some a =>
    have hkey : a.1 = k := OrdSet.find?_key h
    rw [Option.filter_some, hkey]
    split_ifs <;> rfl

theorem mem_values {m : OrdMap κ β} {v : β} : v ∈ m.values ↔ ∃ k, m.get? k = some v := by
  unfold values
  rw [List.mem_map]
  constructor
  · rintro ⟨⟨k, w⟩, hmem, rfl⟩
    exact ⟨k, get?_eq_some_iff.mpr hmem⟩
  · rintro ⟨k, hk⟩
    exact ⟨(k, v), get?_eq_some_iff.mp hk, rfl⟩

/-- Values that determine their keys occur once each. -/
theorem nodup_values {m : OrdMap κ β} {f : β → κ} (hf : ∀ k v, m.get? k = some v → f v = k) :
    m.values.Nodup := by
  unfold values
  refine List.Nodup.map_on ?_ m.nodup_toList
  rintro ⟨k, v⟩ hv ⟨k', v'⟩ hv' (rfl : v = v')
  rw [← hf k v (get?_eq_some_iff.mpr hv), ← hf k' v (get?_eq_some_iff.mpr hv')]

end OrdMap

end Library
