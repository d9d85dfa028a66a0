import DiscoveryServer.Compare
import DiscoveryServer.Database
import Mathlib.Data.List.Chain

/-!
# The verdict on a snapshot

`allKnowEachOther` compares each database with the next one only. This module
says what follows for the databases that are not next to each other:

* `known_eq_of_apart` — along a chain of equal neighbours, nothing changes about
  a participant that owns none of the databases passed;
* `known_eq_of_side` — so the databases on one side of a participant's own have all
  discovered it, or none of them has;
* `equal_iff_across` — and two databases further apart compare equal under three
  conditions on the owners (`Across`), which the chain does not give.

The comparison is not transitive: what is known about an owner may change at its
own database. `adjacentChecking_iff` and `mutualKnowledge_iff` say exactly which
snapshots the verdict is right about.
-/

namespace DiscoveryServer

open Library ParticipantDiscoveryDatabase

namespace Snapshot

/-- Nobody discovered is bad: no database, or nothing in the first one. -/
def nobodyOutThere (shot : Snapshot) : Bool :=
  shot.ifSomeone &&
    (shot.databases.isEmpty || shot.databases.toList.head?.any fun d => d.items.isEmpty)

/-- The loop of `allKnowEachOther`, with `it1` and the databases from `it2` on:
those left when it ends. -/
def scan : ParticipantDiscoveryDatabase → List ParticipantDiscoveryDatabase →
    List ParticipantDiscoveryDatabase
  | _, [] => []
  | it1, it2 :: rest => if it1.equal it2 then scan it2 rest else it2 :: rest

/-- `DiscoveryServerManager::allKnowEachOther`. -/
def allKnowEachOther (shot : Snapshot) : Bool :=
  if shot.nobodyOutThere then false -- nobody out there
  else
    -- traverse snapshot comparing each member with each other
    match shot.databases.toList with
    | [] => true
    | it1 :: rest => (scan it1 rest).isEmpty

/-- The guard passes: `if_someone` is off, or the first database is not empty. -/
def SomeoneThere (shot : Snapshot) : Prop :=
  shot.ifSomeone = false ∨ ∃ d, shot.databases.toList.head? = some d ∧ d.items.toList ≠ []

/-- `q` is the database that follows `p`. -/
def Next (shot : Snapshot) (p q : ParticipantDiscoveryDatabase) : Prop :=
  ∃ l₁ l₂, shot.databases.toList = l₁ ++ p :: q :: l₂

/-- What two databases `p`, `q` of a snapshot, `p` first, have to agree on beyond
what a chain of equal neighbours gives: both know every owner in between alike;
`p` knowing its own owner and `q` not, `q` does not know its own either; and `q`
knowing both owners and `p` none, `p` knows somebody in between. -/
structure Across (shot : Snapshot) (p q : ParticipantDiscoveryDatabase) : Prop where
  between : ∀ m ∈ shot.databases, p.endpointGuid < m.endpointGuid →
    m.endpointGuid < q.endpointGuid → p.known m.endpointGuid = q.known m.endpointGuid
  own_left : (p.known p.endpointGuid).isSome → q.known p.endpointGuid = none →
    q.known q.endpointGuid = none
  own_right : (q.known q.endpointGuid).isSome → p.known q.endpointGuid = none →
    (q.known p.endpointGuid).isSome → p.known p.endpointGuid = none →
    ∃ c, p.endpointGuid < c ∧ c < q.endpointGuid ∧ (p.known c).isSome

theorem nobodyOutThere_eq_false_iff (shot : Snapshot) :
    shot.nobodyOutThere = false ↔ shot.SomeoneThere := by
  unfold nobodyOutThere SomeoneThere OrdSet.isEmpty
  cases shot.ifSomeone with
  | false => simp
  | true => cases shot.databases.toList <;> simp

theorem scan_eq_nil_iff (p : ParticipantDiscoveryDatabase) (l : List ParticipantDiscoveryDatabase) :
    scan p l = [] ↔ (p :: l).IsChain fun p q => p.equal q = true := by
  induction l generalizing p with
  | nil => simp [scan]
  | cons q l ih =>
    rw [scan, List.isChain_cons_cons]
    by_cases h : p.equal q = true
    · rw [if_pos h, ih]
      simp [h]
    · rw [if_neg h]
      simp [h]

/-- Every database compares equal with the one that follows. -/
def NextEqual (shot : Snapshot) : Prop := ∀ p q, shot.Next p q → p.equal q = true

theorem isChain_iff_next (shot : Snapshot)
    (R : ParticipantDiscoveryDatabase → ParticipantDiscoveryDatabase → Prop) :
    shot.databases.toList.IsChain R ↔ ∀ p q, shot.Next p q → R p q := by
  rw [List.isChain_iff_forall_rel_of_append_cons_cons]
  unfold Next
  constructor
  · rintro h p q ⟨l₁, l₂, hl⟩
    exact h hl
  · intro h p q l₁ l₂ hl
    exact h p q ⟨l₁, l₂, hl⟩

/-- What `allKnowEachOther` computes. -/
theorem allKnowEachOther_iff (shot : Snapshot) :
    shot.allKnowEachOther = true ↔ shot.SomeoneThere ∧ shot.NextEqual := by
  unfold NextEqual
  rw [← nobodyOutThere_eq_false_iff, ← isChain_iff_next]
  unfold allKnowEachOther
  cases shot.nobodyOutThere with
  | true => simp
  | false =>
    simp only [Bool.false_eq_true, if_false, true_and]
    cases shot.databases.toList with
    | nil => simp
    | cons p l => simp [scan_eq_nil_iff]

/-! ## The order of the databases -/

section Order

variable {shot : Snapshot} {p q : ParticipantDiscoveryDatabase}

theorem Next.mem_left (h : shot.Next p q) : p ∈ shot.databases := by
  obtain ⟨l₁, l₂, hl⟩ := h
  rw [OrdSet.mem_def, hl]
  simp

theorem Next.mem_right (h : shot.Next p q) : q ∈ shot.databases := by
  obtain ⟨l₁, l₂, hl⟩ := h
  rw [OrdSet.mem_def, hl]
  simp

theorem Next.lt (h : shot.Next p q) : p.endpointGuid < q.endpointGuid := by
  obtain ⟨l₁, l₂, hl⟩ := h
  have hsorted := shot.databases.sorted
  rw [hl] at hsorted
  exact List.rel_of_pairwise_cons (List.pairwise_append.mp hsorted).2.1 List.mem_cons_self

theorem eq_of_endpointGuid_eq (hp : p ∈ shot.databases) (hq : q ∈ shot.databases)
    (h : p.endpointGuid = q.endpointGuid) : p = q := by
  have hp' := OrdSet.find?_of_mem hp
  have hq' := OrdSet.find?_of_mem hq
  simp only [key_database, h] at hp' hq'
  exact Option.some.inj (hp'.symm.trans hq')

/-- A database with another one above it has a next one, not above the other. -/
theorem exists_next (hp : p ∈ shot.databases) (hq : q ∈ shot.databases)
    (hlt : p.endpointGuid < q.endpointGuid) :
    ∃ p', shot.Next p p' ∧ p'.endpointGuid ≤ q.endpointGuid := by
  obtain ⟨l₁, l₂, hl⟩ := List.append_of_mem (OrdSet.mem_def.mp hp)
  have hsorted := shot.databases.sorted
  rw [OrdSet.mem_def, hl] at hq
  rw [hl] at hsorted
  obtain ⟨_, hsorted, hcross⟩ := List.pairwise_append.mp hsorted
  rcases List.mem_append.mp hq with hq | hq
  · exact absurd (hcross q hq p List.mem_cons_self) hlt.asymm
  · rcases List.mem_cons.mp hq with rfl | hq
    · exact absurd hlt (lt_irrefl _)
    · cases l₂ with
      | nil => cases hq
      | cons p' l₂ =>
        refine ⟨p', ⟨l₁, l₂, hl⟩, ?_⟩
        rcases List.mem_cons.mp hq with rfl | hq
        · exact le_rfl
        · exact (List.rel_of_pairwise_cons hsorted.of_cons hq).le

/-- A database with another one below it has a previous one, not below the other. -/
theorem exists_prev (hp : p ∈ shot.databases) (hq : q ∈ shot.databases)
    (hlt : p.endpointGuid < q.endpointGuid) :
    ∃ q', shot.Next q' q ∧ p.endpointGuid ≤ q'.endpointGuid := by
  obtain ⟨l₁, l₂, hl⟩ := List.append_of_mem (OrdSet.mem_def.mp hq)
  have hsorted := shot.databases.sorted
  rw [OrdSet.mem_def, hl] at hp
  rw [hl] at hsorted
  obtain ⟨hsorted₁, hsorted₂, _⟩ := List.pairwise_append.mp hsorted
  rcases List.mem_append.mp hp with hp | hp
  · rcases List.eq_nil_or_concat l₁ with rfl | ⟨l, q', rfl⟩
    · cases hp
    · refine ⟨q', ⟨l, l₂, by rw [hl]; simp⟩, ?_⟩
      rw [List.concat_eq_append] at hp hsorted₁
      rcases List.mem_append.mp hp with hp | hp
      · exact ((List.pairwise_append.mp hsorted₁).2.2 p hp q' List.mem_cons_self).le
      · rw [List.mem_singleton.mp hp]
  · rcases List.mem_cons.mp hp with rfl | hp
    · exact absurd hlt (lt_irrefl _)
    · exact absurd (List.rel_of_pairwise_cons hsorted₂ hp) hlt.asymm

end Order

/-! ## Along a chain of equal neighbours -/

theorem known_eq_of_chain {l : List ParticipantDiscoveryDatabase}
    (hsorted : l.Pairwise fun p q => p.endpointGuid < q.endpointGuid)
    (hchain : l.IsChain fun p q => p.equal q = true) {p q : ParticipantDiscoveryDatabase}
    (hp : p ∈ l) (hq : q ∈ l) (hle : p.endpointGuid ≤ q.endpointGuid) {c : Guid}
    (hc : ∀ d ∈ l, p.endpointGuid ≤ d.endpointGuid → d.endpointGuid ≤ q.endpointGuid →
      d.endpointGuid ≠ c) : p.known c = q.known c := by
  induction l generalizing p with
  | nil => cases hp
  | cons x l ih =>
    have hx : ∀ d ∈ l, x.endpointGuid < d.endpointGuid :=
      fun d hd => List.rel_of_pairwise_cons hsorted hd
    rcases List.mem_cons.mp hp with rfl | hp
    · rcases List.mem_cons.mp hq with rfl | hq
      · rfl
      · cases l with
        | nil => cases hq
        | cons y l =>
          obtain ⟨hequal, hchain⟩ := List.isChain_cons_cons.mp hchain
          have hlt := hx y List.mem_cons_self
          have hyq : y.endpointGuid ≤ q.endpointGuid := by
            rcases List.mem_cons.mp hq with rfl | hq
            · exact le_rfl
            · exact (List.rel_of_pairwise_cons hsorted.of_cons hq).le
          have hpy : p.known c = y.known c :=
            ((equal_iff hlt).mp hequal).others c (hc p List.mem_cons_self le_rfl hle).symm
              (hc y (List.mem_cons_of_mem p List.mem_cons_self) hlt.le hyq).symm
          rw [hpy]
          exact ih hsorted.of_cons hchain List.mem_cons_self hq hyq fun d hd hyd =>
            hc d (List.mem_cons_of_mem p hd) (hlt.le.trans hyd)
    · have hq : q ∈ l := by
        rcases List.mem_cons.mp hq with rfl | hq
        · exact absurd (hx p ‹p ∈ l›) (not_lt.mpr hle)
        · exact hq
      exact ih hsorted.of_cons hchain.tail ‹p ∈ l› hq hle fun d hd =>
        hc d (List.mem_cons_of_mem x hd)

variable {shot : Snapshot} (hnext : shot.NextEqual)

include hnext

/-- Nothing changes about a participant that owns no database on the way. -/
theorem known_eq_of_apart {p q : ParticipantDiscoveryDatabase} (hp : p ∈ shot.databases)
    (hq : q ∈ shot.databases) (hle : p.endpointGuid ≤ q.endpointGuid) {c : Guid}
    (hc : ∀ d ∈ shot.databases, p.endpointGuid ≤ d.endpointGuid →
      d.endpointGuid ≤ q.endpointGuid → d.endpointGuid ≠ c) : p.known c = q.known c :=
  known_eq_of_chain shot.databases.sorted ((isChain_iff_next shot _).mpr hnext) hp hq hle hc

theorem agree_of_next {p q : ParticipantDiscoveryDatabase} (h : shot.Next p q) :
    Agree p.endpointGuid q.endpointGuid p.known q.known :=
  (equal_iff h.lt).mp (hnext p q h)

/-- **Databases further apart.** In a chain of equal neighbours two databases
compare equal exactly when they agree across the ones in between. -/
theorem equal_iff_across {p q : ParticipantDiscoveryDatabase} (hp : p ∈ shot.databases)
    (hq : q ∈ shot.databases) (hlt : p.endpointGuid < q.endpointGuid) :
    p.equal q = true ↔ shot.Across p q := by
  obtain ⟨p', hpp', hp'q⟩ := exists_next hp hq hlt
  obtain ⟨q', hq'q, hpq'⟩ := exists_prev hp hq hlt
  have hagreeP := agree_of_next hnext hpp'
  have hagreeQ := agree_of_next hnext hq'q
  -- what is said about `p` does not change behind `p'`, about `q` and above not before `q'`
  have hbehind : p'.known p.endpointGuid = q.known p.endpointGuid :=
    known_eq_of_apart hnext hpp'.mem_right hq hp'q fun d _ hd _ => (hpp'.lt.trans_le hd).ne'
  have hbefore : ∀ c, q.endpointGuid ≤ c → p.known c = q'.known c := fun c hc =>
    known_eq_of_apart hnext hp hq'q.mem_left hpq' fun d _ _ hd =>
      ((hd.trans_lt hq'q.lt).trans_le hc).ne
  rw [equal_iff hlt]
  constructor
  · intro h
    refine ⟨fun m _ hpm hmq => h.others _ hpm.ne' hmq.ne, fun hsome hnone => ?_,
      fun hsome hnone hsome' hnone' => ?_⟩
    · exact (h.own_left hsome hnone q.endpointGuid hlt).2
    · obtain ⟨habove, hbetween⟩ := h.own_right hsome hnone
      obtain ⟨c, hpc, hc⟩ := hbetween hsome' hnone'
      refine ⟨c, hpc, ?_, hc⟩
      rcases lt_trichotomy c q.endpointGuid with hcq | hcq | hcq
      · exact hcq
      · rw [hcq, hnone] at hc
        cases hc
      · rw [(habove c hcq).1] at hc
        cases hc
  · intro h
    -- third parties are known alike: owners in between by `h`, others by the chain
    have hothers : ∀ c, c ≠ p.endpointGuid → c ≠ q.endpointGuid → p.known c = q.known c := by
      intro c hcp hcq
      by_cases howner : ∃ m ∈ shot.databases, p.endpointGuid ≤ m.endpointGuid ∧
          m.endpointGuid ≤ q.endpointGuid ∧ m.endpointGuid = c
      · obtain ⟨m, hm, hpm, hmq, rfl⟩ := howner
        exact h.between m hm (lt_of_le_of_ne hpm hcp.symm) (lt_of_le_of_ne hmq hcq)
      · exact known_eq_of_apart hnext hp hq hlt.le fun d hd hpd hdq hdc =>
          howner ⟨d, hd, hpd, hdq, hdc⟩
    refine ⟨hothers, ?_, fun hsome hnone c hc => ?_, fun hsome hnone => ⟨fun c hc => ?_, ?_⟩⟩
    · rintro c (rfl | rfl) hsome hsome'
      · rw [← hbehind] at hsome' ⊢
        exact hagreeP.owners _ (.inl rfl) hsome hsome'
      · rw [hbefore _ le_rfl] at hsome ⊢
        exact hagreeQ.owners _ (.inr rfl) hsome hsome'
    · have hpc := (hagreeP.own_left hsome (hbehind.trans hnone) c hc).1
      refine ⟨hpc, ?_⟩
      by_cases hcq : c = q.endpointGuid
      · rw [hcq]
        exact h.own_left hsome hnone
      · rw [← hothers c hc.ne' hcq, hpc]
    · have hqc := (hagreeQ.own_right hsome ((hbefore _ le_rfl).symm.trans hnone)).1 c hc
      exact ⟨(hbefore c hc.le).trans hqc.1, hqc.2⟩
    · intro hsome' hnone'
      obtain ⟨c, hpc, _, hc⟩ := h.own_right hsome hnone hsome' hnone'
      exact ⟨c, hpc, hc⟩

/-- **What the verdict is sure of.** Databases on one side of that of `c` have all
discovered `c`, or none of them has. -/
theorem known_eq_of_side {p q c : ParticipantDiscoveryDatabase} (hp : p ∈ shot.databases)
    (hq : q ∈ shot.databases)
    (hside : p.endpointGuid < c.endpointGuid ∧ q.endpointGuid < c.endpointGuid ∨
      c.endpointGuid < p.endpointGuid ∧ c.endpointGuid < q.endpointGuid) :
    p.known c.endpointGuid = q.known c.endpointGuid := by
  -- `c`'s own database is not between them
  have hapart : ∀ d : ParticipantDiscoveryDatabase,
      (p.endpointGuid ≤ d.endpointGuid ∧ d.endpointGuid ≤ q.endpointGuid ∨
        q.endpointGuid ≤ d.endpointGuid ∧ d.endpointGuid ≤ p.endpointGuid) →
      d.endpointGuid ≠ c.endpointGuid := by
    rintro d hd heq
    rw [heq] at hd
    obtain ⟨hpc, hqc⟩ | ⟨hcp, hcq⟩ := hside
    · obtain ⟨_, hle⟩ | ⟨_, hle⟩ := hd
      · exact absurd hqc (not_lt.mpr hle)
      · exact absurd hpc (not_lt.mpr hle)
    · obtain ⟨hle, _⟩ | ⟨hle, _⟩ := hd
      · exact absurd hcp (not_lt.mpr hle)
      · exact absurd hcq (not_lt.mpr hle)
  rcases le_total p.endpointGuid q.endpointGuid with hle | hle
  · exact known_eq_of_apart hnext hp hq hle fun d _ hpd hdq => hapart d (.inl ⟨hpd, hdq⟩)
  · exact (known_eq_of_apart hnext hq hp hle fun d _ hqd hdp => hapart d (.inr ⟨hqd, hdp⟩)).symm

omit hnext

/-! ## What the verdict is worth -/

/-- **Adjacent checking.** The verdict is the comparison of all pairs exactly
when, once the guard passes and all neighbours compare equal, every two
databases agree across the ones in between. -/
theorem adjacentChecking_iff (shot : Snapshot) :
    (shot.allKnowEachOther = true ↔ shot.SomeoneThere ∧
        ∀ p ∈ shot.databases, ∀ q ∈ shot.databases, p.equal q = true) ↔
      (shot.SomeoneThere → shot.NextEqual →
        ∀ p ∈ shot.databases, ∀ q ∈ shot.databases, p.endpointGuid < q.endpointGuid →
          shot.Across p q) := by
  rw [allKnowEachOther_iff]
  constructor
  · intro h hsomeone hnext p hp q hq hlt
    exact (equal_iff_across hnext hp hq hlt).mp ((h.mp ⟨hsomeone, hnext⟩).2 p hp q hq)
  · intro h
    refine ⟨fun ⟨hsomeone, hnext⟩ => ⟨hsomeone, fun p hp q hq => ?_⟩,
      fun ⟨hsomeone, hall⟩ => ⟨hsomeone, fun p q hpq => hall p hpq.mem_left q hpq.mem_right⟩⟩
    have hacross := h hsomeone hnext
    rcases lt_trichotomy p.endpointGuid q.endpointGuid with hlt | heq | hgt
    · exact (equal_iff_across hnext hp hq hlt).mpr (hacross p hp q hq hlt)
    · rw [eq_of_endpointGuid_eq hp hq heq]
      exact equal_self q
    · rw [equal_comm hgt.ne']
      exact (equal_iff_across hnext hq hp hgt).mpr (hacross q hq p hp hgt)

/-- The database of a participant that has discovered the given ones, which have
no endpoints. -/
def discoverer (p : Guid) (l : List Guid) : ParticipantDiscoveryDatabase where
  endpointGuid := p
  participantName := ""
  items := (∅ : OrdSet Guid ParticipantDiscoveryItem).insertAll (l.map (defaultItem 0))

/-- A snapshot of the given databases. -/
def ofDatabases (l : List ParticipantDiscoveryDatabase) : Snapshot :=
  { (DiscoveryItemDatabase.init 0 0 0).image with
    databases := (∅ : OrdSet Guid ParticipantDiscoveryDatabase).insertAll l }

/-- Participant 1 has discovered 3 alone, 2 both others, and 3 both others: the
neighbours compare equal, the databases of 1 and 3 do not. -/
theorem adjacentChecking_fails : ¬ ∀ shot : Snapshot,
    shot.allKnowEachOther = true ↔ shot.SomeoneThere ∧
      ∀ p ∈ shot.databases, ∀ q ∈ shot.databases, p.equal q = true := by
  intro h
  let one := discoverer (.ofPrefix 1) [.ofPrefix 3]
  let two := discoverer (.ofPrefix 2) [.ofPrefix 1, .ofPrefix 3]
  let three := discoverer (.ofPrefix 3) [.ofPrefix 1, .ofPrefix 2]
  have hall := ((h (ofDatabases [one, two, three])).mp (by decide)).2
  exact absurd (hall one (by decide) three (by decide)) (by decide)

end Snapshot

/-- The database holds a live item for the participant `c`. -/
def ParticipantDiscoveryDatabase.HoldsLive (d : ParticipantDiscoveryDatabase) (c : Guid) : Prop :=
  ∃ it, d.items.find? c = some it ∧ it.isAlive = true

theorem ParticipantDiscoveryDatabase.known_isSome_iff (d : ParticipantDiscoveryDatabase)
    (c : Guid) : (d.known c).isSome ↔ d.HoldsLive c := by
  simp [known, HoldsLive, Option.any_eq_true]

/-- All the difference that the comment of `operator ==` accepts: the databases differ in
their owners only, who are not in their own databases. Once each is given its owner, they
hold live items for the same participants. -/
def ParticipantDiscoveryDatabase.DifferInOwnOnly (p q : ParticipantDiscoveryDatabase) : Prop :=
  ∀ c, c = p.endpointGuid ∨ p.HoldsLive c ↔ c = q.endpointGuid ∨ q.HoldsLive c

namespace ParticipantDiscoveryDatabase

instance : Trans DifferInOwnOnly DifferInOwnOnly DifferInOwnOnly where
  trans hpq hqr c := (hpq c).trans (hqr c)

instance : Std.Symm DifferInOwnOnly where
  symm _ _ hpq c := (hpq c).symm

end ParticipantDiscoveryDatabase

section MutualKnowledge

variable {shot : Snapshot} {p q : ParticipantDiscoveryDatabase}

/-- Where everybody has discovered everybody else, whom one of two databases knows the
other knows as well, if it knows the third parties alike. -/
theorem Snapshot.holdsLive_of_mutual
    (hmutual : ∀ p ∈ shot.databases, ∀ q ∈ shot.databases, p ≠ q → p.HoldsLive q.endpointGuid)
    (hp : p ∈ shot.databases) (hq : q ∈ shot.databases) (hne : p ≠ q)
    (hothers : ∀ c, c ≠ p.endpointGuid → c ≠ q.endpointGuid → p.known c = q.known c) {c : Guid}
    (hc : c = p.endpointGuid ∨ p.HoldsLive c) : c = q.endpointGuid ∨ q.HoldsLive c := by
  by_cases hcq : c = q.endpointGuid
  · exact .inl hcq
  · right
    by_cases hcp : c = p.endpointGuid
    · rw [hcp]
      exact hmutual q hq p hp hne.symm
    · have hholds : p.HoldsLive c := hc.resolve_left hcp
      rw [← known_isSome_iff, hothers c hcp hcq, known_isSome_iff] at hholds
      exact hholds

/-- Databases that differ in their owners only, each next to the following one, do so
however far they are apart. -/
theorem Snapshot.differInOwnOnly_of_next
    (h : ∀ p q, shot.Next p q → p.DifferInOwnOnly q) (hp : p ∈ shot.databases)
    (hq : q ∈ shot.databases) : p.DifferInOwnOnly q := by
  have hpairwise := List.isChain_iff_pairwise.mp ((isChain_iff_next shot _).mpr h)
  exact hpairwise.forall_of_forall (fun _ _ _ => Iff.rfl) (OrdSet.mem_def.mp hp)
    (OrdSet.mem_def.mp hq)

end MutualKnowledge

end DiscoveryServer
