import DiscoveryServer.DiscoveryItem

/-!
# What two databases have to agree on

The comparison of two databases, said without cursors. A database is what it
knows about each participant: the `Info` of a live item, or nothing. `Agree`
lists the four things the comparison of the databases of `a < b` asks for.

`lookup` is the knowledge in an ordered list of live items. The lemmas about it
follow the passes of the comparison, one for each way a pass can go: what it
drops from the lists changes neither side of `Agree`, and where it stops,
`Agree` is decided.
-/

namespace DiscoveryServer

open Library ParticipantDiscoveryItem

/-- What a database has to say about each participant. -/
abbrev Knowledge := Guid → Option Info

/-- When the databases of `a` and `b`, `a < b`, compare equal. Third parties have
to be known alike. An owner may be missing on one side, with limits that come
from the order the comparison meets it in. -/
structure Agree (a b : Guid) (f g : Knowledge) : Prop where
  others : ∀ c, c ≠ a → c ≠ b → f c = g c
  owners : ∀ c, c = a ∨ c = b → (f c).isSome → (g c).isSome → f c = g c
  own_left : (f a).isSome → g a = none → ∀ c, a < c → f c = none ∧ g c = none
  own_right : (g b).isSome → f b = none →
    (∀ c, b < c → f c = none ∧ g c = none) ∧
      ((g a).isSome → f a = none → ∃ c, a < c ∧ (f c).isSome)

namespace Agree

variable {a b : Guid} {f f' g g' : Knowledge}

theorem refl (a b : Guid) (f : Knowledge) : Agree a b f f where
  others _ _ _ := rfl
  owners _ _ _ _ := rfl
  own_left hsome hnone := by simp [hnone] at hsome
  own_right hsome hnone := by simp [hnone] at hsome

/-- What the database of `b` says about `a` is free when that of `a` is silent
about `a` and knows somebody above. -/
theorem congr_left_owner (h : Agree a b f g) (hf : f a = none) (habove : ∃ c, a < c ∧ (f c).isSome)
    (hg : ∀ c, c ≠ a → g' c = g c) (hab : a < b) : Agree a b f g' where
  others c ha hb := by rw [hg c ha]; exact h.others c ha hb
  owners c hc hfc hgc := by
    have hca : c ≠ a := by
      intro hca
      simp [hca, hf] at hfc
    rw [hg c hca] at hgc ⊢
    exact h.owners c hc hfc hgc
  own_left hsome := by simp [hf] at hsome
  own_right hsome hnone := by
    rw [hg b hab.ne'] at hsome
    refine ⟨fun c hc => ?_, fun _ _ => habove⟩
    rw [hg c (hab.trans hc).ne']
    exact (h.own_right hsome hnone).1 c hc

/-- What the database of `a` says about `b` is free when that of `b` is silent
about `b` and that of `a` about `a`. -/
theorem congr_right_owner (h : Agree a b f g) (hg : g b = none) (hfa : f a = none)
    (hf : ∀ c, c ≠ b → f' c = f c) (hab : a < b) : Agree a b f' g where
  others c ha hb := by rw [hf c hb]; exact h.others c ha hb
  owners c hc hfc hgc := by
    have hcb : c ≠ b := by
      intro hcb
      simp [hcb, hg] at hgc
    rw [hf c hcb] at hfc ⊢
    exact h.owners c hc hfc hgc
  own_left hsome := by simp [hf a hab.ne, hfa] at hsome
  own_right hsome := by simp [hg] at hsome

/-- A participant both sides know alike does not matter when nobody below is known. -/
theorem congr_common {x : Guid} (h : Agree a b f g) (hf : ∀ c, c ≠ x → f' c = f c)
    (hg : ∀ c, c ≠ x → g' c = g c) (hx : f x = g x) (hx' : f' x = g' x)
    (habove : ∀ c, c ≠ x → (f c).isSome ∨ (g c).isSome → x < c) : Agree a b f' g' := by
  -- where one side is silent and the other is not, it is not about `x`
  have hne : ∀ c, (f' c).isSome → g' c = none → c ≠ x := by
    rintro c hsome hnone rfl
    rw [hx', hnone] at hsome
    cases hsome
  have hne' : ∀ c, (g' c).isSome → f' c = none → c ≠ x := by
    rintro c hsome hnone rfl
    rw [← hx', hnone] at hsome
    cases hsome
  refine ⟨fun c ha hb => ?_, fun c hc hsome hsome' => ?_, fun hsome hnone c hc => ?_,
    fun hsome hnone => ?_⟩
  · by_cases hcx : c = x
    · rw [hcx, hx']
    · rw [hf c hcx, hg c hcx]
      exact h.others c ha hb
  · by_cases hcx : c = x
    · rw [hcx, hx']
    · rw [hf c hcx] at hsome ⊢
      rw [hg c hcx] at hsome' ⊢
      exact h.owners c hc hsome hsome'
  · have hax := hne a hsome hnone
    rw [hf a hax] at hsome
    rw [hg a hax] at hnone
    have hlt := (habove a hax (.inl hsome)).trans hc
    rw [hf c hlt.ne', hg c hlt.ne']
    exact h.own_left hsome hnone c hc
  · have hbx := hne' b hsome hnone
    rw [hg b hbx] at hsome
    rw [hf b hbx] at hnone
    obtain ⟨hafter, hbetween⟩ := h.own_right hsome hnone
    refine ⟨fun c hc => ?_, fun hsome' hnone' => ?_⟩
    · have hlt := (habove b hbx (.inr hsome)).trans hc
      rw [hf c hlt.ne', hg c hlt.ne']
      exact hafter c hc
    · have hax := hne' a hsome' hnone'
      rw [hg a hax] at hsome'
      rw [hf a hax] at hnone'
      obtain ⟨c, hc, hfc⟩ := hbetween hsome' hnone'
      refine ⟨c, hc, ?_⟩
      rw [hf c ((habove a hax (.inr hsome')).trans hc).ne']
      exact hfc

end Agree

/-! ## Ordered lists of live items -/

/-- The knowledge in a list of live items. -/
def lookup (l : List Info) : Knowledge := fun c => l.find? fun x => x.guid = c

/-- The order of the items of a set. -/
def Ordered (l : List Info) : Prop := l.Pairwise fun x y => x.guid < y.guid

section Lists

variable {a b : Guid} {x y : Info} {l r : List Info}

@[simp] theorem lookup_nil (c : Guid) : lookup [] c = none := rfl

@[simp] theorem lookup_cons_self (x : Info) (l : List Info) :
    lookup (x :: l) x.guid = some x := by
  simp [lookup]

theorem lookup_cons_of_ne {c : Guid} (h : c ≠ x.guid) : lookup (x :: l) c = lookup l c :=
  List.find?_cons_of_neg (by simpa using h.symm)

theorem lookup_head_isSome : (lookup (x :: l) x.guid).isSome := by
  rw [lookup_cons_self]
  rfl

theorem lookup_cons_isSome {c : Guid} (h : (lookup l c).isSome) : (lookup (x :: l) c).isSome := by
  by_cases hc : c = x.guid
  · rw [hc]
    exact lookup_head_isSome
  · rwa [lookup_cons_of_ne hc]

theorem lookup_isSome_of_mem (hx : x ∈ l) : (lookup l x.guid).isSome :=
  List.find?_isSome.mpr ⟨x, hx, by simp⟩

namespace Ordered

theorem tail (h : Ordered (x :: l)) : Ordered l := List.Pairwise.of_cons h

/-- The tail knows nobody up to the head. -/
theorem lookup_tail (h : Ordered (x :: l)) {c : Guid} (hc : c ≤ x.guid) : lookup l c = none := by
  refine List.find?_eq_none.mpr fun y hy => ?_
  have hlt : x.guid < y.guid := List.rel_of_pairwise_cons h hy
  simpa using (hc.trans_lt hlt).ne'

/-- The list knows nobody below the head. -/
theorem lookup_below (h : Ordered (x :: l)) {c : Guid} (hc : c < x.guid) :
    lookup (x :: l) c = none := by
  rw [lookup_cons_of_ne hc.ne]
  exact h.lookup_tail hc.le

/-- Ordered lists with the same knowledge are equal. -/
theorem ext_lookup (hl : Ordered l) (hr : Ordered r) (h : ∀ c, lookup l c = lookup r c) :
    l = r := by
  induction l generalizing r with
  | nil =>
    cases r with
    | nil => rfl
    | cons y r => exact absurd (h y.guid) (by simp)
  | cons x l ih =>
    cases r with
    | nil => exact absurd (h x.guid) (by simp)
    | cons y r =>
      -- neither head is below the other, or it would be known on one side only
      have hguid : x.guid = y.guid := by
        rcases lt_trichotomy x.guid y.guid with hlt | heq | hgt
        · exact absurd (h x.guid) (by simp [hr.lookup_below hlt])
        · exact heq
        · exact absurd (h y.guid) (by simp [hl.lookup_below hgt])
      have hxy : x = y := by
        have hx := h x.guid
        rw [lookup_cons_self, hguid, lookup_cons_self] at hx
        exact Option.some.inj hx
      subst hxy
      rw [ih hl.tail hr.tail fun c => ?_]
      by_cases hc : c = x.guid
      · rw [hc, hl.lookup_tail le_rfl, hr.lookup_tail le_rfl]
      · rw [← lookup_cons_of_ne hc, h c, lookup_cons_of_ne hc]

end Ordered

/-! ### One list has run out -/

theorem owners_of_lt (hab : a < b) (hlt : x.guid < y.guid) (hx : x.guid = a ∨ x.guid = b)
    (hy : y.guid = a ∨ y.guid = b) : x.guid = a ∧ y.guid = b := by
  rcases hx with hx | hx <;> rcases hy with hy | hy <;> rw [hx, hy] at hlt
  · exact absurd hlt (lt_irrefl a)
  · exact ⟨hx, hy⟩
  · exact absurd hlt hab.asymm
  · exact absurd hlt (lt_irrefl b)

/-- An ordered list of owners is empty, has one of them or knows both. -/
theorem Ordered.owners (hab : a < b) (hl : Ordered l) (howner : ∀ x ∈ l, x.guid = a ∨ x.guid = b) :
    l = [] ∨ (∃ x, l = [x] ∧ (x.guid = a ∨ x.guid = b)) ∨
      (lookup l a).isSome ∧ (lookup l b).isSome := by
  cases l with
  | nil => exact .inl rfl
  | cons x l =>
    cases l with
    | nil => exact .inr (.inl ⟨x, rfl, howner x List.mem_cons_self⟩)
    | cons z l =>
      have hz : z ∈ x :: z :: l := List.mem_cons_of_mem x List.mem_cons_self
      have hlt : x.guid < z.guid := List.rel_of_pairwise_cons hl List.mem_cons_self
      obtain ⟨hxa, hzb⟩ := owners_of_lt hab hlt (howner x List.mem_cons_self) (howner z hz)
      have hknowsX := lookup_isSome_of_mem (l := x :: z :: l) List.mem_cons_self
      have hknowsZ := lookup_isSome_of_mem hz
      rw [hxa] at hknowsX
      rw [hzb] at hknowsZ
      exact .inr (.inr ⟨hknowsX, hknowsZ⟩)

theorem guid_of_lookup_singleton {c : Guid} (h : (lookup [x] c).isSome) : c = x.guid := by
  by_contra hne
  rw [lookup_cons_of_ne hne] at h
  cases h

theorem lookup_singleton_stranger {c : Guid} (hx : x.guid = a ∨ x.guid = b) (ha : c ≠ a)
    (hb : c ≠ b) : lookup [x] c = none := by
  refine lookup_cons_of_ne fun hc => ?_
  cases hx with
  | inl hxa => exact ha (hc.trans hxa)
  | inr hxb => exact hb (hc.trans hxb)

theorem agree_nil_left (hab : a < b) (hr : Ordered r) :
    Agree a b (lookup []) (lookup r) ↔
      r = [] ∨ ∃ y, r = [y] ∧ (y.guid = a ∨ y.guid = b) := by
  constructor
  · intro h
    -- everybody in `r` is one of the owners
    have howner : ∀ y ∈ r, y.guid = a ∨ y.guid = b := by
      intro y hy
      by_contra hne
      push Not at hne
      have hnone := h.others y.guid hne.1 hne.2
      exact absurd (lookup_isSome_of_mem hy) (by simp [← hnone])
    rcases hr.owners hab howner with hnil | hone | ⟨hknowsA, hknowsB⟩
    · exact .inl hnil
    · exact .inr hone
    · obtain ⟨c, _, hc⟩ := (h.own_right hknowsB rfl).2 hknowsA rfl
      cases hc
  · intro h
    rcases h with rfl | ⟨y, rfl, hy⟩
    · exact Agree.refl a b _
    · refine ⟨fun c ha hb => (lookup_singleton_stranger hy ha hb).symm,
        fun c _ hsome => (by cases hsome), fun hsome => (by cases hsome), fun hsome _ => ?_⟩
      have hyb : b = y.guid := guid_of_lookup_singleton hsome
      refine ⟨fun c hc => ⟨rfl, lookup_cons_of_ne (hyb ▸ hc.ne')⟩, fun ha => ?_⟩
      exact absurd (guid_of_lookup_singleton ha) (hyb ▸ hab.ne)

theorem agree_nil_right (hab : a < b) (hl : Ordered l) :
    Agree a b (lookup l) (lookup []) ↔
      l = [] ∨ ∃ x, l = [x] ∧ (x.guid = b ∨ x.guid = a) := by
  constructor
  · intro h
    have howner : ∀ x ∈ l, x.guid = a ∨ x.guid = b := by
      intro x hx
      by_contra hne
      push Not at hne
      have hnone := h.others x.guid hne.1 hne.2
      exact absurd (lookup_isSome_of_mem hx) (by simp [hnone])
    rcases hl.owners hab howner with hnil | ⟨x, hone, hx⟩ | ⟨hknowsA, hknowsB⟩
    · exact .inl hnil
    · exact .inr ⟨x, hone, hx.symm⟩
    · -- behind its own owner a database may not know anybody the other does not
      rw [(h.own_left hknowsA rfl b hab).1] at hknowsB
      cases hknowsB
  · intro h
    rcases h with rfl | ⟨x, rfl, hx⟩
    · exact Agree.refl a b _
    · refine ⟨fun c ha hb => lookup_singleton_stranger hx.symm ha hb,
        fun c _ _ hsome => (by cases hsome), fun hsome _ c hc => ?_,
        fun hsome => (by cases hsome)⟩
      have hxa : a = x.guid := guid_of_lookup_singleton hsome
      exact ⟨lookup_cons_of_ne (hxa ▸ hc.ne'), rfl⟩

/-! ### Both heads are the same participant -/

theorem agree_cons_cons (hl : Ordered (x :: l)) (hr : Ordered (x :: r)) :
    Agree a b (lookup (x :: l)) (lookup (x :: r)) ↔ Agree a b (lookup l) (lookup r) := by
  have hself : lookup (x :: l) x.guid = lookup (x :: r) x.guid := by simp
  have htail : lookup l x.guid = lookup r x.guid := by
    rw [hl.lookup_tail le_rfl, hr.lookup_tail le_rfl]
  have hf : ∀ c, c ≠ x.guid → lookup (x :: l) c = lookup l c := fun c hc => lookup_cons_of_ne hc
  have hg : ∀ c, c ≠ x.guid → lookup (x :: r) c = lookup r c := fun c hc => lookup_cons_of_ne hc
  -- the tails speak about participants above the head only
  have habove : ∀ c, (lookup l c).isSome ∨ (lookup r c).isSome → x.guid < c := by
    rintro c (hsome | hsome) <;> by_contra hc
    · simp [hl.lookup_tail (not_lt.mp hc)] at hsome
    · simp [hr.lookup_tail (not_lt.mp hc)] at hsome
  constructor
  · intro h
    refine h.congr_common (fun c hc => (hf c hc).symm) (fun c hc => (hg c hc).symm) hself htail ?_
    intro c hc hsome
    rw [hf c hc, hg c hc] at hsome
    exact habove c hsome
  · intro h
    exact h.congr_common hf hg htail hself fun c _ hsome => habove c hsome

theorem not_agree_of_ne (h : x.guid = y.guid) (hne : x ≠ y) :
    ¬ Agree a b (lookup (x :: l)) (lookup (y :: r)) := by
  intro hagree
  have hx : lookup (x :: l) x.guid = some x := lookup_cons_self x l
  have hy : lookup (y :: r) x.guid = some y := h ▸ lookup_cons_self y r
  have heq : lookup (x :: l) x.guid = lookup (y :: r) x.guid := by
    by_cases hc : x.guid = a ∨ x.guid = b
    · exact hagree.owners x.guid hc (by simp) (by simp [hy])
    · exact hagree.others x.guid (fun h => hc (.inl h)) (fun h => hc (.inr h))
  rw [hx, hy] at heq
  exact hne (Option.some.inj heq)

/-! ### An owner is swept over -/

/-- The owner `a` heads the list of `b`. -/
theorem agree_sweep_right (hab : a < b) (hl : Ordered (x :: l)) (hr : Ordered (y :: r))
    (hy : y.guid = a) (hx : x.guid ≠ a) :
    Agree a b (lookup (x :: l)) (lookup (y :: r)) ↔ Agree a b (lookup (x :: l)) (lookup r) := by
  rcases lt_or_gt_of_ne hx with hlt | hgt
  · -- `x` is a third party nobody on the other side knows
    have hxb : x.guid ≠ b := (hlt.trans hab).ne
    refine iff_of_false (fun h => ?_) fun h => ?_
    · have hxy := h.others x.guid hx hxb
      rw [hr.lookup_below (hy ▸ hlt)] at hxy
      simp at hxy
    · have hxy := h.others x.guid hx hxb
      rw [hr.lookup_tail (hy ▸ hlt.le)] at hxy
      simp at hxy
  · have hfa : lookup (x :: l) a = none := hl.lookup_below hgt
    have habove : ∃ c, a < c ∧ (lookup (x :: l) c).isSome := ⟨x.guid, hgt, by simp⟩
    have hg : ∀ c, c ≠ a → lookup r c = lookup (y :: r) c :=
      fun c hc => (lookup_cons_of_ne (hy ▸ hc)).symm
    exact ⟨fun h => h.congr_left_owner hfa habove hg hab,
      fun h => h.congr_left_owner hfa habove (fun c hc => (hg c hc).symm) hab⟩

/-- The owner `b` heads the list of `a`. -/
theorem agree_sweep_left (hab : a < b) (hl : Ordered (x :: l)) (hr : Ordered (y :: r))
    (hx : x.guid = b) (hya : y.guid ≠ a) (hyb : y.guid ≠ b) :
    Agree a b (lookup (x :: l)) (lookup (y :: r)) ↔ Agree a b (lookup l) (lookup (y :: r)) := by
  rcases lt_or_gt_of_ne hyb with hlt | hgt
  · refine iff_of_false (fun h => ?_) fun h => ?_
    · have hxy := h.others y.guid hya hyb
      rw [hl.lookup_below (hx ▸ hlt)] at hxy
      simp at hxy
    · have hxy := h.others y.guid hya hyb
      rw [hl.lookup_tail (hx ▸ hlt.le)] at hxy
      simp at hxy
  · have hgb : lookup (y :: r) b = none := hr.lookup_below hgt
    have hf : ∀ c, c ≠ b → lookup l c = lookup (x :: l) c :=
      fun c hc => (lookup_cons_of_ne (hx ▸ hc)).symm
    exact ⟨fun h => h.congr_right_owner hgb (hl.lookup_below (hx ▸ hab)) hf hab,
      fun h => h.congr_right_owner hgb (hl.lookup_tail (hx ▸ hab.le))
        (fun c hc => (hf c hc).symm) hab⟩

/-- Lists of one length that differ in owners only: the list of `b` cannot know
`b` when that of `a` does not. -/
theorem lookup_owner_eq_none (hab : a < b) (hl : Ordered l) (hr : Ordered r)
    (hlb : ∀ c ≤ b, lookup l c = none) (hra : ∀ c ≤ a, lookup r c = none)
    (hlen : l.length = r.length)
    (hothers : ∀ c, c ≠ a → c ≠ b → lookup l c = lookup r c) : lookup r b = none := by
  cases r with
  | nil => rfl
  | cons z r =>
    rcases lt_trichotomy z.guid b with hlt | heq | hgt
    · -- `z` lies below everybody in `l`
      have hza : z.guid ≠ a := fun hza => by simpa using hra z.guid hza.le
      have hz := hothers z.guid hza hlt.ne
      rw [hlb z.guid hlt.le] at hz
      simp at hz
    · -- behind `z` the lists are the same, so they cannot have one length
      have hsame : l = r := by
        refine hl.ext_lookup hr.tail fun c => ?_
        by_cases hc : c ≤ b
        · rw [hlb c hc, hr.lookup_tail (heq ▸ hc)]
        · have hca : c ≠ a := by
            intro hca
            exact hc (hca ▸ hab.le)
          rw [hothers c hca (fun h => hc h.le), lookup_cons_of_ne (heq ▸ fun h => hc h.le)]
      rw [hsame, List.length_cons] at hlen
      omega
    · exact hr.lookup_below hgt

/-- Both owners head the lists of each other, which have one length. -/
theorem agree_sweep_both (hab : a < b) (hl : Ordered (x :: l)) (hr : Ordered (y :: r))
    (hx : x.guid = b) (hy : y.guid = a) (hlen : l.length = r.length) :
    Agree a b (lookup (x :: l)) (lookup (y :: r)) ↔ Agree a b (lookup l) (lookup r) := by
  have hlb : ∀ c ≤ b, lookup l c = none := fun c hc => hl.lookup_tail (hx ▸ hc)
  have hra : ∀ c ≤ a, lookup r c = none := fun c hc => hr.lookup_tail (hy ▸ hc)
  have hf : ∀ c, c ≠ b → lookup l c = lookup (x :: l) c :=
    fun c hc => (lookup_cons_of_ne (hx ▸ hc)).symm
  have hg : ∀ c, c ≠ a → lookup r c = lookup (y :: r) c :=
    fun c hc => (lookup_cons_of_ne (hy ▸ hc)).symm
  have hfa : lookup (x :: l) a = none := hl.lookup_below (hx ▸ hab)
  have habove : ∃ c, a < c ∧ (lookup (x :: l) c).isSome := ⟨x.guid, hx ▸ hab, by simp⟩
  have hnone := fun h => lookup_owner_eq_none hab hl.tail hr.tail hlb hra hlen h
  constructor
  · intro h
    have hrb := hnone fun c ha hb => by rw [hf c hb, hg c ha]; exact h.others c ha hb
    exact (h.congr_left_owner hfa habove hg hab).congr_right_owner hrb hfa hf hab
  · intro h
    have hrb := hnone h.others
    exact (h.congr_right_owner hrb (hlb a hab.le) (fun c hc => (hf c hc).symm) hab).congr_left_owner
      hfa habove (fun c hc => (hg c hc).symm) hab

/-! ### A stranger heads one list -/

theorem not_agree_stranger (hl : Ordered (x :: l)) (hr : Ordered (y :: r))
    (hne : x.guid ≠ y.guid) (hxb : x.guid ≠ b) (hya : y.guid ≠ a) :
    ¬ Agree a b (lookup (x :: l)) (lookup (y :: r)) := by
  intro h
  have hx : lookup (x :: l) x.guid = some x := lookup_cons_self x l
  have hy : lookup (y :: r) y.guid = some y := lookup_cons_self y r
  rcases lt_or_gt_of_ne hne with hlt | hgt
  · have hxr : lookup (y :: r) x.guid = none := hr.lookup_below hlt
    by_cases hxa : x.guid = a
    · rw [hxa] at hx hxr hlt
      exact absurd (h.own_left (by simp [hx]) hxr y.guid hlt).2 (by simp)
    · exact absurd (h.others x.guid hxa hxb) (by simp [hxr])
  · have hyl : lookup (x :: l) y.guid = none := hl.lookup_below hgt
    by_cases hyb : y.guid = b
    · rw [hyb] at hy hyl hgt
      exact absurd ((h.own_right (by simp [hy]) hyl).1 x.guid hgt).1 (by simp)
    · exact absurd (h.others y.guid hya hyb) (by simp [hyl])

end Lists

end DiscoveryServer
