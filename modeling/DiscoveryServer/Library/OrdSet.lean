import Mathlib.Order.Lattice
import Mathlib.Data.List.Basic
import Mathlib.Tactic.SplitIfs
import Mathlib.Tactic.Tauto

/-!
# Ordered sets of keyed records

`OrdSet κ α` is the strictly key-ordered list behind a `std::set` whose
comparison reads one key of each element, and behind a `std::map` (pairs keyed
by their first component). The order is a field, so an unsorted or duplicated
set cannot be built.

Every operation is described by what `find?` sees afterwards
(`find?_insert`, `find?_erase`, `find?_update`), and two sets with the same
`find?` are equal (`ext_find?`). `lowerBound` is the `std::lower_bound` every
lookup of a C++ client goes through; `locate_eq_find?` relates it to `find?`.
-/

namespace Library

/-- The key a record is ordered by. -/
class Keyed (κ : outParam Type) (α : Type) where
  key : α → κ

export Keyed (key)

instance Keyed.pair {κ β : Type} : Keyed κ (κ × β) := ⟨Prod.fst⟩

@[simp] theorem key_pair {κ β : Type} (k : κ) (b : β) : key (k, b) = k := rfl

/-- A list of records in strictly increasing key order. -/
structure OrdSet (κ : Type) [LinearOrder κ] (α : Type) [Keyed κ α] where
  toList : List α
  sorted : toList.Pairwise fun a b => key a < key b
deriving DecidableEq

namespace OrdSet

variable {κ α : Type} [LinearOrder κ] [Keyed κ α]

instance : Membership α (OrdSet κ α) := ⟨fun s a => a ∈ s.toList⟩

instance : EmptyCollection (OrdSet κ α) := ⟨⟨[], List.Pairwise.nil⟩⟩

theorem mem_def {s : OrdSet κ α} {a : α} : a ∈ s ↔ a ∈ s.toList := Iff.rfl

instance [DecidableEq α] (s : OrdSet κ α) (a : α) : Decidable (a ∈ s) :=
  inferInstanceAs (Decidable (a ∈ s.toList))

@[simp] theorem toList_empty : (∅ : OrdSet κ α).toList = [] := rfl

@[simp] theorem not_mem_empty (a : α) : a ∉ (∅ : OrdSet κ α) := List.not_mem_nil

/-- `s.empty()`. -/
def isEmpty (s : OrdSet κ α) : Bool := s.toList.isEmpty

/-- `s.size()`. -/
def size (s : OrdSet κ α) : Nat := s.toList.length

/-- The keys, in order. -/
def keys (s : OrdSet κ α) : List κ := s.toList.map key

/-- `s.find(k)`. -/
def find? (s : OrdSet κ α) (k : κ) : Option α := s.toList.find? fun a => key a = k

/-- `std::lower_bound(s.begin(), s.end(), k)`: the first element that is not
below `k`, `none` being `s.end()`. -/
def lowerBound (s : OrdSet κ α) (k : κ) : Option α := s.toList.find? fun a => ¬ key a < k

/-- The lookup idiom of a C++ client: `lower_bound`, then the test
`it == end || *it != k`. -/
def locate (s : OrdSet κ α) (k : κ) : Option α := (s.lowerBound k).filter fun a => key a = k

/-- Insertion in key order; an element with the same key stays. -/
def insertList (a : α) : List α → List α
  | [] => [a]
  | b :: l =>
    if key a < key b then a :: b :: l
    else if key b < key a then b :: insertList a l
    else b :: l

theorem mem_insertList {a x : α} {l : List α} :
    x ∈ insertList a l → x = a ∨ x ∈ l := by
  induction l with
  | nil => simp [insertList]
  | cons b l ih =>
    rw [insertList]
    split_ifs
    · simp
    · intro h
      rcases List.mem_cons.mp h with rfl | h
      · exact .inr List.mem_cons_self
      · exact (ih h).imp_right (List.mem_cons_of_mem b)
    · exact .inr

theorem sorted_insertList (a : α) {l : List α}
    (h : l.Pairwise fun a b => key a < key b) :
    (insertList a l).Pairwise fun a b => key a < key b := by
  induction l with
  | nil => exact List.pairwise_singleton _ a
  | cons b l ih =>
    rw [insertList]
    split_ifs with hab hba
    · refine List.pairwise_cons.mpr ⟨fun x hx => ?_, h⟩
      rcases List.mem_cons.mp hx with rfl | hx
      · exact hab
      · exact hab.trans (List.rel_of_pairwise_cons h hx)
    · refine List.pairwise_cons.mpr ⟨fun x hx => ?_, ih h.of_cons⟩
      rcases mem_insertList hx with rfl | hx
      · exact hba
      · exact List.rel_of_pairwise_cons h hx
    · exact h

/-- `s.emplace(a)`, `s.insert(a)` and, hints being advisory,
`s.emplace_hint(it, a)`. -/
def insert (s : OrdSet κ α) (a : α) : OrdSet κ α :=
  ⟨insertList a s.toList, sorted_insertList a s.sorted⟩

/-- What the iterator returned by `s.emplace_hint(it, a)` points at: the element
already stored under the key of `a`, or `a`. -/
def emplaced (s : OrdSet κ α) (a : α) : α := (s.find? (key a)).getD a

/-- `s.erase(k)`. -/
def erase (s : OrdSet κ α) (k : κ) : OrdSet κ α :=
  ⟨s.toList.filter fun a => key a ≠ k, s.sorted.filter _⟩

/-- A write through a reference to the stored element with the key of `a`: the
element becomes `a`. A set without that key is left alone. -/
def update (s : OrdSet κ α) (a : α) : OrdSet κ α :=
  ⟨s.toList.map fun b => if key b = key a then a else b, by
    refine List.Pairwise.map _ (fun x y h => ?_) s.sorted
    split_ifs with hx hy hy
    · exact absurd (hx.trans hy.symm) h.ne
    · exact hx ▸ h
    · exact hy ▸ h
    · exact h⟩

/-- `m[key a] = a` on a map: insert or overwrite. -/
def assign (s : OrdSet κ α) (a : α) : OrdSet κ α := (s.insert a).update a

/-- The elements kept by a predicate (`std::remove_copy_if` into a fresh set). -/
def filter (s : OrdSet κ α) (p : α → Bool) : OrdSet κ α :=
  ⟨s.toList.filter p, s.sorted.filter _⟩

/-- Every element replaced by one with the same key. -/
def mapValues (s : OrdSet κ α) (f : α → α) (hf : ∀ a, key (f a) = key a) : OrdSet κ α :=
  ⟨s.toList.map f, s.sorted.map f fun a b h => by rw [hf a, hf b]; exact h⟩

/-- `s.insert(first, last)`. -/
def insertAll (s : OrdSet κ α) (l : List α) : OrdSet κ α := l.foldl insert s

/-- `s == t` on sets whose elements compare by `eq`: as many elements, equal
position by position. -/
def equalBy (eq : α → α → Bool) (s t : OrdSet κ α) : Bool :=
  s.size == t.size && (s.toList.zip t.toList).all fun p => eq p.1 p.2

/-- Comparing element by element is comparing what the comparison reads. -/
theorem equalBy_iff {β : Type} {eq : α → α → Bool} {f : α → β}
    (heq : ∀ a b, eq a b = true ↔ f a = f b) {s t : OrdSet κ α} :
    s.equalBy eq t = true ↔ s.toList.map f = t.toList.map f := by
  obtain ⟨l, hl⟩ := s
  obtain ⟨m, hm⟩ := t
  simp only [equalBy, size, Bool.and_eq_true, beq_iff_eq]
  clear hl hm
  induction l generalizing m with
  | nil => cases m <;> simp
  | cons a l ih =>
    cases m with
    | nil => simp
    | cons b m =>
      simp only [List.length_cons, Nat.add_right_cancel_iff, List.zip_cons_cons, List.all_cons,
        Bool.and_eq_true, heq, List.map_cons, List.cons.injEq]
      rw [← ih m]
      tauto

/-! ## Lookups -/

theorem find?_eq_some {s : OrdSet κ α} {k : κ} {a : α} :
    s.find? k = some a ↔ a ∈ s ∧ key a = k := by
  obtain ⟨l, hl⟩ := s
  show l.find? _ = some a ↔ a ∈ l ∧ key a = k
  induction l with
  | nil => simp
  | cons b l ih =>
    by_cases hb : key b = k
    · simp only [List.find?_cons, hb, decide_true, Option.some.injEq, List.mem_cons]
      constructor
      · rintro rfl; exact ⟨.inl rfl, hb⟩
      · rintro ⟨rfl | ha, hk⟩
        · rfl
        · exact absurd (hb.trans hk.symm) (List.rel_of_pairwise_cons hl ha).ne
    · simp only [List.find?_cons, hb, decide_false, ih hl.of_cons, List.mem_cons]
      constructor
      · rintro ⟨ha, hk⟩; exact ⟨.inr ha, hk⟩
      · rintro ⟨rfl | ha, hk⟩
        · exact absurd hk hb
        · exact ⟨ha, hk⟩

theorem find?_eq_none {s : OrdSet κ α} {k : κ} :
    s.find? k = none ↔ ∀ a ∈ s, key a ≠ k := by
  simp only [find?, List.find?_eq_none, mem_def, decide_eq_true_eq, ne_eq]

theorem find?_key {s : OrdSet κ α} {k : κ} {a : α} (h : s.find? k = some a) : key a = k :=
  (find?_eq_some.mp h).2

theorem find?_mem {s : OrdSet κ α} {k : κ} {a : α} (h : s.find? k = some a) : a ∈ s :=
  (find?_eq_some.mp h).1

theorem find?_of_mem {s : OrdSet κ α} {a : α} (h : a ∈ s) : s.find? (key a) = some a :=
  find?_eq_some.mpr ⟨h, rfl⟩

theorem mem_keys {s : OrdSet κ α} {k : κ} : k ∈ s.keys ↔ (s.find? k).isSome := by
  constructor
  · intro h
    obtain ⟨a, ha, rfl⟩ := List.mem_map.mp h
    rw [find?_of_mem ha]
    rfl
  · intro h
    obtain ⟨a, ha⟩ := Option.isSome_iff_exists.mp h
    exact List.mem_map.mpr ⟨a, find?_mem ha, find?_key ha⟩

@[simp] theorem find?_empty (k : κ) : (∅ : OrdSet κ α).find? k = none := rfl

theorem nodup_toList (s : OrdSet κ α) : s.toList.Nodup :=
  s.sorted.imp fun hab heq => hab.ne (congrArg key heq)

theorem eq_of_key_eq {s : OrdSet κ α} {a b : α} (ha : a ∈ s) (hb : b ∈ s) (h : key a = key b) :
    a = b := by
  have hfind := find?_of_mem ha
  rw [h, find?_of_mem hb] at hfind
  exact (Option.some.inj hfind).symm

/-- A set is its lookups. -/
theorem ext_find? {s t : OrdSet κ α} (h : ∀ k, s.find? k = t.find? k) : s = t := by
  have hmem : ∀ a, a ∈ s.toList ↔ a ∈ t.toList := by
    intro a
    constructor
    · intro ha
      exact find?_mem ((h (key a)).symm.trans (find?_of_mem (mem_def.mpr ha)))
    · intro ha
      exact find?_mem ((h (key a)).trans (find?_of_mem (mem_def.mpr ha)))
  have hperm : s.toList.Perm t.toList :=
    (List.perm_ext_iff_of_nodup s.nodup_toList t.nodup_toList).mpr hmem
  have hlist : s.toList = t.toList :=
    hperm.eq_of_pairwise (fun a b _ _ hab hba => absurd hab hba.asymm) s.sorted t.sorted
  cases s; cases t
  simp only at hlist
  subst hlist
  rfl

theorem mem_insert {s : OrdSet κ α} {a x : α} :
    x ∈ s.insert a ↔ x ∈ s ∨ (x = a ∧ s.find? (key a) = none) := by
  obtain ⟨l, hl⟩ := s
  rw [find?_eq_none]
  show x ∈ insertList a l ↔ x ∈ l ∨ (x = a ∧ ∀ b ∈ l, key b ≠ key a)
  induction l with
  | nil => simp [insertList]
  | cons b l ih =>
    rw [insertList]
    split_ifs with hab hba
    · have hfresh : ∀ c ∈ b :: l, key c ≠ key a := by
        intro c hc
        rcases List.mem_cons.mp hc with rfl | hc
        · exact hab.ne'
        · exact (hab.trans (List.rel_of_pairwise_cons hl hc)).ne'
      constructor
      · intro h
        exact (List.mem_cons.mp h).elim (fun hx => .inr ⟨hx, hfresh⟩) .inl
      · rintro (hx | ⟨rfl, _⟩)
        · exact List.mem_cons_of_mem a hx
        · exact List.mem_cons_self
    · rw [List.mem_cons, ih hl.of_cons, List.mem_cons]
      constructor
      · rintro (hx | hx | ⟨rfl, hx⟩)
        · exact .inl (.inl hx)
        · exact .inl (.inr hx)
        · refine .inr ⟨rfl, fun c hc => ?_⟩
          rcases List.mem_cons.mp hc with rfl | hc
          · exact hba.ne
          · exact hx c hc
      · rintro ((hx | hx) | ⟨rfl, hx⟩)
        · exact .inl hx
        · exact .inr (.inl hx)
        · exact .inr (.inr ⟨rfl, fun c hc => hx c (List.mem_cons_of_mem b hc)⟩)
    · have hkey : key b = key a := le_antisymm (not_lt.mp hab) (not_lt.mp hba)
      constructor
      · exact .inl
      · rintro (hx | ⟨_, hx⟩)
        · exact hx
        · exact absurd hkey (hx b List.mem_cons_self)

/-- An insertion fills its own key when that was free and changes no other. -/
theorem find?_insert (s : OrdSet κ α) (a : α) (k : κ) :
    (s.insert a).find? k = if k = key a then some ((s.find? k).getD a) else s.find? k := by
  split_ifs with hk
  · subst hk
    rw [find?_eq_some, mem_insert]
    cases h : s.find? (key a) with
    | none => exact ⟨.inr ⟨rfl, rfl⟩, rfl⟩
    | some b => exact ⟨.inl (find?_mem h), find?_key h⟩
  · cases h : s.find? k with
    | none =>
      rw [find?_eq_none] at h ⊢
      intro x hx
      rcases mem_insert.mp hx with hx | ⟨rfl, _⟩
      · exact h x hx
      · exact Ne.symm hk
    | some b =>
      exact find?_eq_some.mpr ⟨mem_insert.mpr (.inl (find?_mem h)), find?_key h⟩

theorem find?_erase (s : OrdSet κ α) (k' k : κ) :
    (s.erase k').find? k = if k = k' then none else s.find? k := by
  have hmem : ∀ x, x ∈ s.erase k' ↔ x ∈ s ∧ key x ≠ k' := by
    intro x
    simp only [erase, mem_def, List.mem_filter, decide_eq_true_eq]
  split_ifs with hk
  · rw [find?_eq_none]
    intro x hx
    rw [hk]
    exact ((hmem x).mp hx).2
  · cases h : s.find? k with
    | none =>
      rw [find?_eq_none] at h ⊢
      exact fun x hx => h x ((hmem x).mp hx).1
    | some b =>
      have hkey := find?_key h
      exact find?_eq_some.mpr ⟨(hmem b).mpr ⟨find?_mem h, hkey ▸ hk⟩, hkey⟩

theorem mem_update {s : OrdSet κ α} {a x : α} :
    x ∈ s.update a ↔ (x ∈ s ∧ key x ≠ key a) ∨ (x = a ∧ (s.find? (key a)).isSome) := by
  simp only [update, mem_def, List.mem_map]
  constructor
  · rintro ⟨b, hb, rfl⟩
    split_ifs with hk
    · exact .inr ⟨rfl, by rw [← hk, find?_of_mem (mem_def.mpr hb)]; rfl⟩
    · exact .inl ⟨hb, hk⟩
  · rintro (⟨hx, hk⟩ | ⟨rfl, hs⟩)
    · exact ⟨x, hx, if_neg hk⟩
    · obtain ⟨b, hb⟩ := Option.isSome_iff_exists.mp hs
      exact ⟨b, find?_mem hb, if_pos (find?_key hb)⟩

/-- A write changes the element under its key, and only when there is one. -/
theorem find?_update (s : OrdSet κ α) (a : α) (k : κ) :
    (s.update a).find? k = if k = key a then (s.find? k).map fun _ => a else s.find? k := by
  split_ifs with hk
  · subst hk
    cases h : s.find? (key a) with
    | none =>
      rw [find?_eq_none] at h
      refine find?_eq_none.mpr fun x hx => ?_
      rcases mem_update.mp hx with ⟨hx, hk⟩ | ⟨_, hs⟩
      · exact hk
      · rw [find?_eq_none.mpr h] at hs
        exact absurd hs (by simp)
    | some b =>
      exact find?_eq_some.mpr ⟨mem_update.mpr (.inr ⟨rfl, by rw [h]; rfl⟩), rfl⟩
  · cases h : s.find? k with
    | none =>
      rw [find?_eq_none] at h
      refine find?_eq_none.mpr fun x hx => ?_
      rcases mem_update.mp hx with ⟨hx, _⟩ | ⟨rfl, _⟩
      · exact h x hx
      · exact Ne.symm hk
    | some b =>
      have hkey := find?_key h
      exact find?_eq_some.mpr ⟨mem_update.mpr (.inl ⟨find?_mem h, hkey ▸ hk⟩), hkey⟩

/-- An insertion followed by a write through the iterator it returned. -/
theorem find?_update_insert (s : OrdSet κ α) {a b : α} (hb : key b = key a) (k : κ) :
    ((s.insert a).update b).find? k = if k = key a then some b else s.find? k := by
  rw [find?_update, find?_insert, hb]
  split_ifs <;> rfl

theorem find?_assign (s : OrdSet κ α) (a : α) (k : κ) :
    (s.assign a).find? k = if k = key a then some a else s.find? k :=
  find?_update_insert s rfl k

theorem find?_filter (s : OrdSet κ α) (p : α → Bool) (k : κ) :
    (s.filter p).find? k = (s.find? k).filter p := by
  have hmem : ∀ x, x ∈ s.filter p ↔ x ∈ s ∧ p x = true := by
    intro x
    simp only [filter, mem_def, List.mem_filter]
  cases h : s.find? k with
  | none =>
    rw [find?_eq_none] at h
    exact find?_eq_none.mpr fun x hx => h x ((hmem x).mp hx).1
  | some b =>
    rw [Option.filter_some]
    split_ifs with hp
    · exact find?_eq_some.mpr ⟨(hmem b).mpr ⟨find?_mem h, hp⟩, find?_key h⟩
    · refine find?_eq_none.mpr fun x hx hk => ?_
      obtain ⟨hx, hpx⟩ := (hmem x).mp hx
      have hxb : x = b := Option.some.inj ((find?_eq_some.mpr ⟨hx, hk⟩).symm.trans h)
      exact hp (hxb ▸ hpx)

/-! ## Keys -/

theorem mem_keys_insert {s : OrdSet κ α} {a : α} {k : κ} :
    k ∈ (s.insert a).keys ↔ k = key a ∨ k ∈ s.keys := by
  rw [mem_keys, mem_keys, find?_insert]
  split_ifs with hk
  · simp [hk]
  · simp [hk]

theorem mem_keys_insertAll {s : OrdSet κ α} {l : List α} {k : κ} :
    k ∈ (s.insertAll l).keys ↔ k ∈ s.keys ∨ k ∈ l.map key := by
  induction l generalizing s with
  | nil => simp [insertAll]
  | cons a l ih =>
    show k ∈ ((s.insert a).insertAll l).keys ↔ _
    rw [ih, mem_keys_insert, List.map_cons, List.mem_cons]
    tauto

theorem mem_keys_of_mem_keys_erase {s : OrdSet κ α} {k' k : κ} (h : k ∈ (s.erase k').keys) :
    k ∈ s.keys := by
  rw [mem_keys, find?_erase] at h
  split_ifs at h with hk
  · exact absurd h (by simp)
  · exact mem_keys.mpr h

@[simp] theorem keys_update (s : OrdSet κ α) (a : α) : (s.update a).keys = s.keys := by
  show (s.toList.map _).map key = s.toList.map key
  rw [List.map_map]
  refine List.map_congr_left fun b _ => ?_
  show key (if key b = key a then a else b) = key b
  split_ifs with hk
  · exact hk.symm
  · rfl

/-! ## Maps that keep the keys -/

theorem find?_mapValues (s : OrdSet κ α) (f : α → α) (hf : ∀ a, key (f a) = key a) (k : κ) :
    (s.mapValues f hf).find? k = (s.find? k).map f := by
  show (s.toList.map f).find? _ = _
  rw [List.find?_map]
  simp only [Function.comp_def, hf, find?]

/-- The elements read as records of another type, under the same keys. -/
def read {β : Type} [Keyed κ β] (s : OrdSet κ α) (f : α → β) (hf : ∀ a, key (f a) = key a) :
    OrdSet κ β :=
  ⟨s.toList.map f, s.sorted.map f fun a b h => by rw [hf a, hf b]; exact h⟩

theorem find?_read {β : Type} [Keyed κ β] (s : OrdSet κ α) (f : α → β)
    (hf : ∀ a, key (f a) = key a) (k : κ) : (s.read f hf).find? k = (s.find? k).map f := by
  show (s.toList.map f).find? _ = _
  rw [List.find?_map]
  simp only [Function.comp_def, hf, find?]

/-! ## `std::lower_bound` -/

theorem lowerBound_mapValues (s : OrdSet κ α) (f : α → α) (hf : ∀ a, key (f a) = key a) (k : κ) :
    (s.mapValues f hf).lowerBound k = (s.lowerBound k).map f := by
  show (s.toList.map f).find? _ = _
  rw [List.find?_map]
  simp only [Function.comp_def, hf, lowerBound]

theorem lowerBound_eq_none {s : OrdSet κ α} {k : κ} :
    s.lowerBound k = none ↔ ∀ a ∈ s, key a < k := by
  simp only [lowerBound, List.find?_eq_none, mem_def, decide_not, Bool.not_eq_true',
    decide_eq_false_iff_not, not_not]

/-- The element `lowerBound` finds is the least one not below the key. -/
theorem lowerBound_eq_some {s : OrdSet κ α} {k : κ} {a : α} :
    s.lowerBound k = some a ↔ a ∈ s ∧ k ≤ key a ∧ ∀ b ∈ s, k ≤ key b → key a ≤ key b := by
  obtain ⟨l, hl⟩ := s
  show l.find? _ = some a ↔ a ∈ l ∧ k ≤ key a ∧ ∀ b ∈ l, k ≤ key b → key a ≤ key b
  induction l with
  | nil => simp
  | cons c l ih =>
    by_cases hc : key c < k
    · simp only [List.find?_cons, hc, not_true_eq_false, decide_false, ih hl.of_cons,
        List.mem_cons]
      constructor
      · rintro ⟨ha, hk, hmin⟩
        refine ⟨.inr ha, hk, fun b hb hkb => ?_⟩
        rcases hb with rfl | hb
        · exact absurd hc (not_lt.mpr hkb)
        · exact hmin b hb hkb
      · rintro ⟨rfl | ha, hk, hmin⟩
        · exact absurd hc (not_lt.mpr hk)
        · exact ⟨ha, hk, fun b hb => hmin b (.inr hb)⟩
    · simp only [List.find?_cons, hc, not_false_eq_true, decide_true, Option.some.injEq,
        List.mem_cons]
      constructor
      · rintro rfl
        refine ⟨.inl rfl, not_lt.mp hc, fun b hb _ => ?_⟩
        rcases hb with rfl | hb
        · exact le_refl _
        · exact (List.rel_of_pairwise_cons hl hb).le
      · rintro ⟨rfl | ha, _, hmin⟩
        · rfl
        · have hle := hmin c (.inl rfl) (not_lt.mp hc)
          exact absurd hle (not_le.mpr (List.rel_of_pairwise_cons hl ha))

/-- A key that is stored is where `lowerBound` stops. -/
theorem lowerBound_of_find? {s : OrdSet κ α} {k : κ} {a : α} (h : s.find? k = some a) :
    s.lowerBound k = some a := by
  have hkey := find?_key h
  exact lowerBound_eq_some.mpr ⟨find?_mem h, hkey.ge, fun b _ hb => hkey.le.trans hb⟩

/-- The lookup idiom finds what is stored under the key. -/
@[simp] theorem locate_eq_find? (s : OrdSet κ α) (k : κ) : s.locate k = s.find? k := by
  rw [locate]
  cases hf : s.find? k with
  | some a => rw [lowerBound_of_find? hf, Option.filter_some, if_pos (by simpa using find?_key hf)]
  | none =>
    cases hl : s.lowerBound k with
    | none => rfl
    | some a =>
      have hk := find?_eq_none.mp hf a (lowerBound_eq_some.mp hl).1
      rw [Option.filter_some, if_neg (by simpa using hk)]

theorem ext_toList {s t : OrdSet κ α} (h : s.toList = t.toList) : s = t := by
  cases s
  cases t
  cases h
  rfl

/-- An element above all others goes to the end. -/
theorem insertList_of_forall_lt {a : α} {l : List α} (h : ∀ b ∈ l, key b < key a) :
    insertList a l = l ++ [a] := by
  induction l with
  | nil => rfl
  | cons b l ih =>
    have hb := h b List.mem_cons_self
    rw [insertList, if_neg hb.asymm, if_pos hb, ih fun c hc => h c (List.mem_cons_of_mem b hc)]
    rfl

/-- The elements of a set, inserted one by one, give the set. -/
theorem insertAll_toList (s : OrdSet κ α) : (∅ : OrdSet κ α).insertAll s.toList = s := by
  have happend : ∀ (l : List α) (t : OrdSet κ α),
      (t.toList ++ l).Pairwise (fun a b => key a < key b) →
      (t.insertAll l).toList = t.toList ++ l := by
    intro l
    induction l with
    | nil => intro t _; exact (List.append_nil _).symm
    | cons a l ih =>
      intro t h
      have hins : (t.insert a).toList = t.toList ++ [a] :=
        insertList_of_forall_lt fun b hb =>
          (List.pairwise_append.mp h).2.2 b hb a List.mem_cons_self
      have htl := ih (t.insert a) (by rwa [hins, List.append_assoc])
      rw [hins, List.append_assoc] at htl
      exact htl
  exact ext_toList (happend s.toList ∅ s.sorted)

/-- Of two elements with one key the one that is there first stays. -/
theorem find?_insertAll (s : OrdSet κ α) (l : List α) (k : κ) :
    (s.insertAll l).find? k = (s.find? k).or (l.find? fun a => key a = k) := by
  induction l generalizing s with
  | nil => exact (Option.or_none).symm
  | cons a l ih =>
    show ((s.insert a).insertAll l).find? k = _
    rw [ih, find?_insert, List.find?_cons]
    by_cases hk : k = key a
    · rw [if_pos hk]
      cases s.find? k <;> simp [hk]
    · rw [if_neg hk]
      simp [Ne.symm hk]

/-- Sets without a common key can be inserted into each other. -/
theorem insertAll_comm {s t : OrdSet κ α} (h : ∀ k ∈ s.keys, k ∉ t.keys) :
    s.insertAll t.toList = t.insertAll s.toList := by
  apply ext_find?
  intro k
  rw [find?_insertAll, find?_insertAll]
  show (s.find? k).or (t.find? k) = (t.find? k).or (s.find? k)
  cases hs : s.find? k with
  | none => rw [Option.none_or, Option.or_none]
  | some a =>
    have ht : t.find? k = none := by
      have hk := h k (mem_keys.mpr (by rw [hs]; rfl))
      rwa [mem_keys, Bool.not_eq_true, Option.isSome_eq_false_iff, Option.isNone_iff_eq_none] at hk
    rw [ht, Option.or_none, Option.none_or]

/-- Sets whose lookups read alike read alike. -/
theorem map_toList_eq {β : Type} [Keyed κ β] {s t : OrdSet κ α} {f : α → β}
    (hf : ∀ a, key (f a) = key a) (h : ∀ k, (s.find? k).map f = (t.find? k).map f) :
    s.toList.map f = t.toList.map f := by
  have heq : s.read f hf = t.read f hf := ext_find? fun k => by rw [find?_read, find?_read, h k]
  exact congrArg toList heq

theorem key_emplaced (s : OrdSet κ α) (a : α) : key (s.emplaced a) = key a := by
  unfold emplaced
  cases h : s.find? (key a) with
  | none => rfl
  | some b => exact find?_key h

end OrdSet

end Library
