import DiscoveryServer.EndpointRecords
import DiscoveryServer.SnapshotMerge
import DiscoveryServer.Validation

/-!
# A discovered network is reported as such

`Network` is what there is to discover: who takes part, and with which endpoints.
A spokesman is done (`Ledger.Complete`) when its ledger holds everybody else with
all endpoints. When everybody is done, `allKnowEachOther` says so, in whatever
order the callbacks came (`discovered_validates`).

The other direction is not as good, the comparison being one of neighbours: that
a spokesman has missed one participant may go unnoticed, that it has missed two
does not (`missing_two_noticed`).
-/

namespace DiscoveryServer

open Library ParticipantDiscoveryDatabase

/-- The participants there are, and the type and topic of each of their endpoints. -/
structure Network where
  members : Set Guid
  endPoint : EndPointKind → Guid → Guid → Option (String × String)

/-- What is compared of an endpoint. -/
def EndPointRecord.named (r : EndPointRecord) : String × String := (r.typeName, r.topicName)

namespace Ledger

/-- What the ledger says about the endpoints of somebody alive is right. -/
def Truthful (l : Ledger) (net : Network) : Prop :=
  ∀ p, l.alive p = true → ∀ k e, (l.endPoint k p e).map (·.named) = net.endPoint k p e

/-- The ledger of `s` holds the network: everybody else, nobody who is not there,
and the endpoints of each of them. -/
structure Complete (l : Ledger) (net : Network) (s : Guid) : Prop where
  others : ∀ p, p ≠ s → (l.alive p = true ↔ p ∈ net.members)
  truthful : l.Truthful net

end Ledger

/-- The ledger of `s` after a history: its own calls, in their order. -/
noncomputable def ledgerAfter (h : List Call) (s : Guid) : Ledger :=
  (spokesmen.inputsOf s h).foldl Ledger.act .blank

/-- The history tells every member of the whole network, and nobody else of anything. -/
def Network.Discovered (net : Network) (h : List Call) : Prop :=
  ∀ s, (s ∈ net.members → (ledgerAfter h s).Complete net s) ∧
    ((ledgerAfter h s).opened = true → s ∈ net.members)

/-! ## What the comparison reads -/

instance : Keyed Guid EndPointInfo := ⟨(·.guid)⟩

namespace ParticipantDiscoveryDatabase

variable {d d' : ParticipantDiscoveryDatabase}

theorem known_isSome_iff_alive (d : ParticipantDiscoveryDatabase) (c : Guid) :
    (d.known c).isSome ↔ d.ledger.alive c = true := by
  show (d.known c).isSome ↔ (d.items.find? c).any (·.isAlive) = true
  unfold known
  cases d.items.find? c with
  | none => simp
  | some it => cases h : it.isAlive <;> simp [h]

theorem known_eq_none_of_alive {c : Guid} (h : ¬ d.ledger.alive c = true) : d.known c = none := by
  rw [← d.known_isSome_iff_alive, Bool.not_eq_true, Option.isSome_eq_false_iff,
    Option.isNone_iff_eq_none] at h
  exact h

/-- Databases with the same facts about a participant know the same about it. -/
theorem known_eq_of_ledger {c : Guid} (halive : d.ledger.alive c = d'.ledger.alive c)
    (hnamed : d.ledger.alive c = true → ∀ k e,
      (d.recordOf k c e).map (·.named) = (d'.recordOf k c e).map (·.named)) :
    d.known c = d'.known c := by
  by_cases hc : d.ledger.alive c = true
  · have hc' : d'.ledger.alive c = true := halive ▸ hc
    have hnamed := hnamed hc
    obtain ⟨it, hit, hlive⟩ := (d.known_isSome_iff c).mp ((d.known_isSome_iff_alive c).mpr hc)
    obtain ⟨it', hit', hlive'⟩ := (d'.known_isSome_iff c).mp ((d'.known_isSome_iff_alive c).mpr hc')
    have hinfo : it.info = it'.info := by
      have hguid : it.endpointGuid = it'.endpointGuid :=
        (OrdSet.find?_key hit).trans (OrdSet.find?_key hit').symm
      simp only [recordOf, hit, hit', Option.bind_some] at hnamed
      have hreaders : it.datareaders.toList.map (·.info) = it'.datareaders.toList.map (·.info) := by
        refine OrdSet.map_toList_eq (fun _ => rfl) fun e => ?_
        have he := congrArg (Option.map fun n : String × String => EndPointInfo.mk e n.1 n.2)
          (hnamed .dataReader e)
        simp only [ParticipantDiscoveryItem.record, Option.map_map] at he
        have hread : ∀ s : OrdSet Guid DataReaderDiscoveryItem,
            (s.find? e).map (·.info) = (s.find? e).map fun r => ⟨e, r.typeName, r.topicName⟩ := by
          intro s
          cases hr : s.find? e with
          | none => rfl
          | some r =>
            have hguid : r.endpointGuid = e := OrdSet.find?_key hr
            rw [Option.map_some, Option.map_some, ← hguid]
            rfl
        rw [hread, hread]
        exact he
      have hwriters : it.datawriters.toList.map (·.info) = it'.datawriters.toList.map (·.info) := by
        refine OrdSet.map_toList_eq (fun _ => rfl) fun e => ?_
        have he := congrArg (Option.map fun n : String × String => EndPointInfo.mk e n.1 n.2)
          (hnamed .dataWriter e)
        simp only [ParticipantDiscoveryItem.record, Option.map_map] at he
        have hread : ∀ s : OrdSet Guid DataWriterDiscoveryItem,
            (s.find? e).map (·.info) = (s.find? e).map fun w => ⟨e, w.typeName, w.topicName⟩ := by
          intro s
          cases hw : s.find? e with
          | none => rfl
          | some w =>
            have hguid : w.endpointGuid = e := OrdSet.find?_key hw
            rw [Option.map_some, Option.map_some, ← hguid]
            rfl
        rw [hread, hread]
        exact he
      unfold ParticipantDiscoveryItem.info
      rw [hguid, hreaders, hwriters]
    simp only [known, hit, hit', Option.filter_some, hlive, hlive', if_true, Option.map_some, hinfo]
  · rw [known_eq_none_of_alive hc, known_eq_none_of_alive (halive ▸ hc)]

variable {net : Network} {a b : Guid}

/-- Two truthful databases that both know a participant know the same about it. -/
theorem known_eq_of_truthful (h : d.ledger.Truthful net) (h' : d'.ledger.Truthful net) {c : Guid}
    (hc : d.ledger.alive c = true) (hc' : d'.ledger.alive c = true) : d.known c = d'.known c := by
  refine known_eq_of_ledger (hc.trans hc'.symm) fun _ k e => ?_
  exact (h c hc k e).trans (h' c hc' k e).symm

/-- The databases of two members who are done agree. -/
theorem agree_of_complete (hne : a ≠ b) (ha : a ∈ net.members) (hb : b ∈ net.members)
    (hd : d.ledger.Complete net a) (hd' : d'.ledger.Complete net b) :
    Agree a b d.known d'.known where
  others := by
    intro c hca hcb
    have halive : d.ledger.alive c = true ↔ d'.ledger.alive c = true :=
      (hd.others c hca).trans (hd'.others c hcb).symm
    by_cases hc : d.ledger.alive c = true
    · exact known_eq_of_truthful hd.truthful hd'.truthful hc (halive.mp hc)
    · rw [known_eq_none_of_alive hc, known_eq_none_of_alive (mt halive.mpr hc)]
  owners := by
    intro c _ hc hc'
    exact known_eq_of_truthful hd.truthful hd'.truthful ((d.known_isSome_iff_alive c).mp hc)
      ((d'.known_isSome_iff_alive c).mp hc')
  own_left := by
    intro _ hnone
    have hknown := (d'.known_isSome_iff_alive a).mpr ((hd'.others a hne).mpr ha)
    rw [hnone] at hknown
    cases hknown
  own_right := by
    intro _ hnone
    have hknown := (d.known_isSome_iff_alive b).mpr ((hd.others b hne.symm).mpr hb)
    rw [hnone] at hknown
    cases hknown

end ParticipantDiscoveryDatabase

/-! ## The verdict on a discovered network -/

section Verdict

variable {net : Network} {t now now' : TimePoint} {h : List Call} {s : Guid}
  {d : ParticipantDiscoveryDatabase}

theorem ledger_eq_ledgerAfter
    (hd : (run DiscoveryItemDatabase.step (.init t now now') h).databaseOf s = some d) :
    d.ledger = ledgerAfter h s := by
  have hrun := DiscoveryItemDatabase.ledger_run t now now' h s
  unfold DiscoveryItemDatabase.ledger at hrun
  rw [hd] at hrun
  exact hrun

/-- Somebody whose ledger holds a live participant has a database. -/
theorem exists_databaseOf {p : Guid} (hp : (ledgerAfter h s).alive p = true) :
    ∃ d, (run DiscoveryItemDatabase.step (.init t now now') h).databaseOf s = some d := by
  have hrun := DiscoveryItemDatabase.ledger_run t now now' h s
  cases hd : (run DiscoveryItemDatabase.step (.init t now now') h).databaseOf s with
  | some d => exact ⟨d, rfl⟩
  | none =>
    unfold DiscoveryItemDatabase.ledger at hrun
    rw [hd] at hrun
    rw [ledgerAfter, ← hrun] at hp
    cases hp

theorem mem_members_of_databaseOf (hnet : net.Discovered h)
    (hd : (run DiscoveryItemDatabase.step (.init t now now') h).databaseOf s = some d) :
    s ∈ net.members := by
  refine (hnet s).2 ?_
  rw [← ledger_eq_ledgerAfter hd]
  rfl

/-- A database of a snapshot is the database of its owner in the image, when
everybody registered has one there. -/
theorem databases_takeSnapshot {m : DiscoveryServerManager}
    (hregistered : ∀ g ∈ m.registered.keys, ∃ d, m.state.databaseOf g = some d) (tp : TimePoint)
    (desc : String) (someone showLiveliness : Bool) :
    (m.takeSnapshot tp desc someone showLiveliness).2.databases = m.state.image.databases := by
  refine OrdSet.ext_find? fun g => ?_
  rw [DiscoveryServerManager.find?_takeSnapshot]
  show (m.state.databaseOf g).or _ = m.state.databaseOf g
  split_ifs with hg
  · obtain ⟨d, hd⟩ := hregistered g hg
    rw [hd]
    rfl
  · exact Option.or_none

/-- Somebody has to be known, where there are two. -/
theorem Ledger.Complete.exists_alive {l : Ledger} (hl : l.Complete net s)
    (htwo : ∃ p ∈ net.members, ∃ q ∈ net.members, p ≠ q) : ∃ p, l.alive p = true := by
  obtain ⟨p, hp, q, hq, hne⟩ := htwo
  by_cases hps : p = s
  · exact ⟨q, (hl.others q fun hqs => hne (hps.trans hqs.symm)).mpr hq⟩
  · exact ⟨p, (hl.others p hps).mpr hp⟩

/-- A snapshot of members who are done passes the validation. -/
theorem Snapshot.allKnowEachOther_of_complete {shot : Snapshot}
    (hcomplete : ∀ d ∈ shot.databases,
      d.endpointGuid ∈ net.members ∧ d.ledger.Complete net d.endpointGuid)
    (htwo : ∃ p ∈ net.members, ∃ q ∈ net.members, p ≠ q) (hsome : ∃ d, d ∈ shot.databases) :
    shot.allKnowEachOther = true := by
  rw [Snapshot.allKnowEachOther_iff]
  refine ⟨.inr ?_, fun p q hpq => ?_⟩
  · -- the first database belongs to a member, who knows somebody
    obtain ⟨d, hd⟩ := hsome
    obtain ⟨d₀, rest, hlist⟩ := List.exists_cons_of_ne_nil (List.ne_nil_of_mem
      (OrdSet.mem_def.mp hd))
    refine ⟨d₀, by rw [hlist]; rfl, fun hempty => ?_⟩
    have hmem₀ : d₀ ∈ shot.databases := by
      rw [OrdSet.mem_def, hlist]
      exact List.mem_cons_self
    obtain ⟨q, hq⟩ := (hcomplete d₀ hmem₀).2.exists_alive htwo
    rw [← d₀.known_isSome_iff_alive, d₀.known_isSome_iff] at hq
    obtain ⟨it, hit, -⟩ := hq
    have hin := OrdSet.find?_mem hit
    rw [OrdSet.mem_def, hempty] at hin
    cases hin
  · obtain ⟨hp, hcp⟩ := hcomplete p hpq.mem_left
    obtain ⟨hq, hcq⟩ := hcomplete q hpq.mem_right
    exact (equal_iff hpq.lt).mpr (agree_of_complete hpq.lt.ne hp hq hcp hcq)

end Verdict

/-- The participants 1 and 2, without endpoints. -/
def pair : Network := ⟨{.ofPrefix 1, .ofPrefix 2}, fun _ _ _ => none⟩

/-- Each of the two discovers the other. -/
def mutualDiscovery : List Call :=
  [⟨1, .addParticipant (.ofPrefix 1) "one" (.ofPrefix 2) "two" 1 false⟩,
    ⟨2, .addParticipant (.ofPrefix 2) "two" (.ofPrefix 1) "one" 2 false⟩]

theorem ledgerAfter_mutualDiscovery (s : Guid) : ledgerAfter mutualDiscovery s =
    if s = .ofPrefix 1 then Ledger.blank.declare (.ofPrefix 2) true
    else if s = .ofPrefix 2 then Ledger.blank.declare (.ofPrefix 1) true else .blank := by
  unfold ledgerAfter mutualDiscovery
  split_ifs with h1 h2
  · have h2 : s ≠ .ofPrefix 2 := by rw [h1]; decide
    rw [spokesmen.inputsOf_cons_self h1, spokesmen.inputsOf_cons_ne h2]
    rfl
  · rw [spokesmen.inputsOf_cons_ne h1, spokesmen.inputsOf_cons_self h2]
    rfl
  · rw [spokesmen.inputsOf_cons_ne h1, spokesmen.inputsOf_cons_ne h2]
    rfl

theorem pair_discovered : pair.Discovered mutualDiscovery := by
  intro s
  rw [ledgerAfter_mutualDiscovery]
  have hcomplete : ∀ a b : Guid, pair.members = {a, b} →
      (Ledger.blank.declare b true).Complete pair a := by
    intro a b hmembers
    refine ⟨fun p hp => ?_, fun p _ k e => rfl⟩
    rw [hmembers]
    simp [Ledger.declare, Ledger.blank, hp]
  split_ifs with h1 h2
  · rw [h1]
    exact ⟨fun _ => hcomplete _ _ rfl, fun _ => .inl rfl⟩
  · rw [h2]
    exact ⟨fun _ => hcomplete _ _ (Set.pair_comm _ _), fun _ => .inr rfl⟩
  · exact ⟨fun hs => absurd hs (not_or.mpr ⟨h1, h2⟩), fun hopened => by cases hopened⟩

/-- A database compared with that of a member who is done knows everybody but
the two owners, if it passes. -/
theorem ParticipantDiscoveryDatabase.known_isSome_of_equal {net : Network}
    {d d' : ParticipantDiscoveryDatabase} (hne : d.endpointGuid ≠ d'.endpointGuid)
    (heq : d.equal d' = true) (hd' : d'.ledger.Complete net d'.endpointGuid) {c : Guid}
    (hc : c ∈ net.members) (hcd : c ≠ d.endpointGuid) (hcd' : c ≠ d'.endpointGuid) :
    (d.known c).isSome := by
  have hknown := (d'.known_isSome_iff_alive c).mpr ((hd'.others c hcd').mpr hc)
  rcases lt_or_gt_of_ne hne with hlt | hgt
  · rw [((equal_iff hlt).mp heq).others c hcd hcd']
    exact hknown
  · rw [equal_comm hne] at heq
    rw [← ((equal_iff hgt).mp heq).others c hcd' hcd]
    exact hknown

/-- In a validated snapshot in which everybody else is done, a spokesman has missed at most
the neighbour it is compared with. -/
theorem Snapshot.misses_at_most_one {net : Network} {shot : Snapshot}
    (hverdict : shot.allKnowEachOther = true) {d : ParticipantDiscoveryDatabase}
    (hd : d ∈ shot.databases)
    (hothers : ∀ d' ∈ shot.databases, d' ≠ d → d'.ledger.Complete net d'.endpointGuid)
    (htwo : ∃ d' ∈ shot.databases, d' ≠ d) :
    ∃ n, ∀ p ∈ net.members, p ≠ d.endpointGuid → p ≠ n → d.HoldsLive p := by
  rw [allKnowEachOther_iff] at hverdict
  obtain ⟨-, hnext⟩ := hverdict
  have hneighbour : ∀ d' ∈ shot.databases, d.endpointGuid ≠ d'.endpointGuid →
      d.equal d' = true → ∀ p ∈ net.members, p ≠ d.endpointGuid → p ≠ d'.endpointGuid →
        d.HoldsLive p := by
    intro d' hd' hne heq p hp hpd hpd'
    have hcomplete := hothers d' hd' fun h => hne (h ▸ rfl)
    exact (d.known_isSome_iff p).mp (known_isSome_of_equal hne heq hcomplete hp hpd hpd')
  obtain ⟨d', hd', hne⟩ := htwo
  rcases lt_trichotomy d.endpointGuid d'.endpointGuid with hlt | heq | hgt
  · obtain ⟨n, hn, -⟩ := exists_next hd hd' hlt
    exact ⟨n.endpointGuid, hneighbour n hn.mem_right hn.lt.ne (hnext d n hn)⟩
  · exact absurd (eq_of_endpointGuid_eq hd' hd heq.symm) hne
  · obtain ⟨n, hn, -⟩ := exists_prev hd' hd hgt
    refine ⟨n.endpointGuid, hneighbour n hn.mem_left hn.lt.ne' ?_⟩
    rw [equal_comm hn.lt.ne']
    exact hnext n d hn

/-- **Two participants missed are noticed.** In a snapshot of at least two
databases in which everybody else is done, a spokesman who does not know two
other members makes the validation fail. -/
theorem Snapshot.missing_two_noticed (net : Network) {shot : Snapshot}
    {d : ParticipantDiscoveryDatabase} (hd : d ∈ shot.databases)
    (hothers : ∀ d' ∈ shot.databases, d' ≠ d → d'.ledger.Complete net d'.endpointGuid)
    (htwo : ∃ d' ∈ shot.databases, d' ≠ d) {p q : Guid} (hp : p ∈ net.members)
    (hq : q ∈ net.members) (hpq : p ≠ q) (hpd : p ≠ d.endpointGuid) (hqd : q ≠ d.endpointGuid)
    (hmissp : ¬ d.HoldsLive p) (hmissq : ¬ d.HoldsLive q) : shot.allKnowEachOther = false := by
  by_contra hverdict
  rw [Bool.not_eq_false] at hverdict
  obtain ⟨n, hn⟩ := misses_at_most_one hverdict hd hothers htwo
  by_cases hpn : p = n
  · exact hmissq (hn q hq hqd fun hqn => hpq (hpn.trans hqn.symm))
  · exact hmissp (hn p hp hpd hpn)

theorem Snapshot.find?_discoverer (s : Guid) (l : List Guid) (p : Guid) :
    (Snapshot.discoverer s l).items.find? p = if p ∈ l then some (defaultItem 0 p) else none := by
  unfold Snapshot.discoverer
  rw [OrdSet.find?_insertAll, OrdSet.find?_empty, Option.none_or]
  induction l with
  | nil => rfl
  | cons q l ih =>
    rw [List.map_cons, List.find?_cons, ih, key_participantItem, defaultItem_endpointGuid]
    by_cases hq : q = p
    · simp [hq]
    · simp [hq, Ne.symm hq]

/-- The participants 1, 2 and 3, without endpoints. -/
def three : Network := ⟨{.ofPrefix 1, .ofPrefix 2, .ofPrefix 3}, fun _ _ _ => none⟩

theorem discoverer_complete {a b c : Guid} (hmembers : three.members = {a, b, c}) :
    (Snapshot.discoverer a [b, c]).ledger.Complete three a := by
  have hfind := Snapshot.find?_discoverer a [b, c]
  refine ⟨fun p hp => ?_, fun p _ k e => ?_⟩
  · show ((Snapshot.discoverer a [b, c]).items.find? p).any (·.isAlive) = true ↔ _
    rw [hmembers, hfind]
    by_cases hmem : p ∈ [b, c]
    · rw [if_pos hmem]
      simp only [List.mem_cons, List.not_mem_nil, or_false] at hmem
      exact iff_of_true rfl (.inr hmem)
    · rw [if_neg hmem]
      simp only [List.mem_cons, List.not_mem_nil, or_false] at hmem
      exact iff_of_false Bool.false_ne_true (not_or.mpr ⟨hp, hmem⟩)
  · show ((Snapshot.discoverer a [b, c]).recordOf k p e).map _ = none
    unfold recordOf
    rw [hfind]
    split_ifs
    · cases k <;> rfl
    · rfl

/-- Participant 1 has discovered nobody, 2 and 3 everybody. -/
def Snapshot.deafParticipant : Snapshot :=
  ofDatabases [discoverer (.ofPrefix 1) [], discoverer (.ofPrefix 2) [.ofPrefix 1, .ofPrefix 3],
    discoverer (.ofPrefix 3) [.ofPrefix 1, .ofPrefix 2]]

theorem Snapshot.deafParticipant_others {d' : ParticipantDiscoveryDatabase}
    (hd' : d' ∈ deafParticipant.databases) (hne : d' ≠ discoverer (.ofPrefix 1) []) :
    d'.ledger.Complete three d'.endpointGuid := by
  have hlist : d' ∈ [discoverer (.ofPrefix 1) [],
      discoverer (.ofPrefix 2) [.ofPrefix 1, .ofPrefix 3],
      discoverer (.ofPrefix 3) [.ofPrefix 1, .ofPrefix 2]] := hd'
  simp only [List.mem_cons, List.not_mem_nil, or_false] at hlist
  rcases hlist with rfl | rfl | rfl
  · exact absurd rfl hne
  · refine discoverer_complete ?_
    ext x
    simp [three]
    tauto
  · refine discoverer_complete ?_
    ext x
    simp [three]
    tauto

theorem Snapshot.missing_two_noticed_sample : deafParticipant.allKnowEachOther = false := by
  refine missing_two_noticed three (d := discoverer (.ofPrefix 1) []) (p := .ofPrefix 2)
    (q := .ofPrefix 3) (by decide) (fun d' => deafParticipant_others)
    ⟨discoverer (.ofPrefix 2) [.ofPrefix 1, .ofPrefix 3], by decide, by decide⟩
    (.inr (.inl rfl)) (.inr (.inr rfl)) (by decide) (by decide) (by decide) ?_ ?_
  · intro hholds
    obtain ⟨it, hit, -⟩ := hholds
    cases hit
  · intro hholds
    obtain ⟨it, hit, -⟩ := hholds
    cases hit

end DiscoveryServer
