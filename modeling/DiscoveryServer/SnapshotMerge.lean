import DiscoveryServer.Spokesman
import DiscoveryServer.Manager

/-!
# The isolated participants of a snapshot

`takeSnapshot` copies the image and walks through the participants and the
databases with `std::mismatch`. A participant at which they part gets an empty
database, and the walk goes on from there: databases of nobody known stop it as
well as participants without a database do.

What carries the loop is that the participants left behind have a database
(`mem_or_of_mismatch`); the order of the two sequences does not matter for that.
-/

namespace DiscoveryServer

open Library

namespace DiscoveryServerManager

/-- The participants `takeSnapshot` goes through, `temp` in the source. -/
def registered (m : DiscoveryServerManager) : OrdMap Guid DomainParticipant :=
  (m.servers.insertAll m.clients.toList).insertAll m.simples.toList

/-- The copy of the image that `takeSnapshot` works on. -/
def imageCopy (m : DiscoveryServerManager) (tp : TimePoint) (desc : String)
    (someone showLiveliness : Bool) : Snapshot :=
  { m.state.image with
    time := tp
    lastPDPCallback := m.lastPDPCallback
    lastEDPCallback := m.lastEDPCallback
    des := desc
    ifSomeone := someone
    showLiveliness := showLiveliness }

/-- Where the loop starts: after the first `std::mismatch`. -/
def mergeStart (m : DiscoveryServerManager) (shot : Snapshot) : List Guid × Snapshot :=
  ((mismatch m.registered.keys shot.databases.toList).1, shot)

theorem takeSnapshot_snd (m : DiscoveryServerManager) (tp : TimePoint) (desc : String)
    (someone showLiveliness : Bool) :
    (m.takeSnapshot tp desc someone showLiveliness).2 =
      addIsolated.run (m.mergeStart (m.imageCopy tp desc someone showLiveliness)) := rfl

theorem mem_keys_registered {m : DiscoveryServerManager} {g : Guid} :
    g ∈ m.registered.keys ↔
      g ∈ m.servers.keys ∨ g ∈ m.clients.keys ∨ g ∈ m.simples.keys := by
  unfold registered
  rw [OrdSet.mem_keys_insertAll, OrdSet.mem_keys_insertAll, or_assoc]
  rfl

/-- A participant `std::mismatch` passes has one of the databases. -/
theorem mem_or_of_mismatch {ps : List Guid} {ds : List ParticipantDiscoveryDatabase} {g : Guid}
    (h : g ∈ ps) : g ∈ (mismatch ps ds).1 ∨ ∃ d ∈ ds, d.endpointGuid = g := by
  fun_induction mismatch ps ds with
  | case1 ps d ds ih =>
    rcases List.mem_cons.mp h with rfl | h
    · exact .inr ⟨d, List.mem_cons_self, rfl⟩
    · rcases ih h with hleft | ⟨d', hd', hkey⟩
      · exact .inl hleft
      · exact .inr ⟨d', List.mem_cons_of_mem d hd', hkey⟩
  | case2 => exact .inl h
  | case3 => exact .inl h

theorem mem_of_mem_mismatch {ps : List Guid} {ds : List ParticipantDiscoveryDatabase} {g : Guid}
    (h : g ∈ (mismatch ps ds).1) : g ∈ ps := by
  fun_induction mismatch ps ds with
  | case1 ps d ds ih => exact List.mem_cons_of_mem _ (ih h)
  | case2 => exact h
  | case3 => exact h

/-- A participant that the second cursor has passed has a database. -/
theorem isSome_of_mem_fromDatabase {shot : Snapshot} {id g : Guid}
    (h : ∃ d ∈ fromDatabase shot id, d.endpointGuid = g) : (shot.databases.find? g).isSome := by
  obtain ⟨d, hd, rfl⟩ := h
  have hmem : d ∈ shot.databases := (List.dropWhile_sublist _).subset hd
  rw [show shot.databases.find? d.endpointGuid = some d from OrdSet.find?_of_mem hmem]
  rfl

/-- What the loop makes of the database of `g`: an empty one where there is none
and the participant is still to come. -/
def merged (s : List Guid × Snapshot) (g : Guid) : Option ParticipantDiscoveryDatabase :=
  (s.2.databases.find? g).or (if g ∈ s.1 then some ⟨g, "", ∅⟩ else none)

/-- A pass adds the database of the first participant and changes nothing else. -/
theorem merged_isolatedPass {s s' : List Guid × Snapshot} (h : isolatedPass s = .inl s')
    (g : Guid) : merged s' g = merged s g := by
  obtain ⟨ids, shot⟩ := s
  cases ids with
  | nil => cases h
  | cons id ids =>
    cases h
    have hfind := OrdSet.find?_insert shot.databases ⟨id, "", ∅⟩ g
    rw [key_database] at hfind
    unfold merged
    dsimp only
    cases hd : shot.databases.find? g with
    | some d =>
      rw [hd] at hfind
      have hsame : (shot.databases.insert ⟨id, "", ∅⟩).find? g = some d := by
        rw [hfind]
        exact ite_self _
      rw [hsame]
      rfl
    | none =>
      rw [hd] at hfind
      by_cases hg : g = id
      · subst hg
        rw [if_pos rfl] at hfind
        rw [hfind, if_pos (c := g ∈ g :: ids) List.mem_cons_self]
        rfl
      · rw [if_neg hg] at hfind
        rw [hfind]
        -- whoever the walk passes has a database by then, and `g` has none
        have hleft : g ∈ (mismatch (id :: ids) (fromDatabase
            { shot with databases := shot.databases.insert ⟨id, "", ∅⟩ } id)).1 ↔
              g ∈ id :: ids := by
          refine ⟨mem_of_mem_mismatch, fun hmem => ?_⟩
          rcases mem_or_of_mismatch hmem with hleft | hpassed
          · exact hleft
          · have hsome := isSome_of_mem_fromDatabase hpassed
            rw [show OrdSet.find? _ g = none from hfind] at hsome
            cases hsome
        simp only [hleft]

theorem isolatedPass_stop {s : List Guid × Snapshot} {shot : Snapshot}
    (h : isolatedPass s = .inr shot) : s = ([], shot) := by
  obtain ⟨ids, shot'⟩ := s
  cases ids with
  | nil =>
    cases h
    rfl
  | cons => cases h

/-- The loop adds an empty database for everybody left without one. -/
theorem find?_addIsolated (s : List Guid × Snapshot) (g : Guid) :
    (addIsolated.run s).databases.find? g = merged s g := by
  refine addIsolated.rule (fun _ => True)
    (fun s shot => shot.databases.find? g = merged s g) ?_ ?_ trivial
  · intro s shot _ hstop
    rw [isolatedPass_stop hstop]
    exact (Option.or_none ..).symm
  · intro s s' _ hpass
    refine ⟨trivial, fun shot hshot => ?_⟩
    rw [hshot, merged_isolatedPass hpass]

/-- **The databases of a snapshot**: those of the image, and an empty one without
a name for everybody registered who has none there. -/
theorem find?_takeSnapshot (m : DiscoveryServerManager) (tp : TimePoint) (desc : String)
    (someone showLiveliness : Bool) (g : Guid) :
    (m.takeSnapshot tp desc someone showLiveliness).2.databases.find? g =
      (m.state.databaseOf g).or
        (if g ∈ m.registered.keys then some ⟨g, "", ∅⟩ else none) := by
  rw [takeSnapshot_snd, find?_addIsolated]
  unfold merged mergeStart
  show (m.state.databaseOf g).or _ = _
  cases hd : m.state.databaseOf g with
  | some d => rfl
  | none =>
    have hleft : g ∈ (mismatch m.registered.keys m.state.image.databases.toList).1 ↔
        g ∈ m.registered.keys := by
      refine ⟨mem_of_mem_mismatch, fun hmem => ?_⟩
      rcases mem_or_of_mismatch hmem with hleft | ⟨d, hd', rfl⟩
      · exact hleft
      · have hfind : m.state.databaseOf d.endpointGuid = some d := OrdSet.find?_of_mem hd'
        rw [hd] at hfind
        cases hfind
    exact congrArg _ (by simp only [imageCopy, hleft])

/-- **The merge.** The loop is left after at most one pass more than there are
participants, and the snapshot has a database for `g` exactly if the image has
one or `g` is registered in a role; the image's databases are in it as they are,
and the others are empty. -/
theorem takeSnapshot_merges (m : DiscoveryServerManager) (tp : TimePoint) (desc : String)
    (someone showLiveliness : Bool) :
    let shot := (m.takeSnapshot tp desc someone showLiveliness).2
    addIsolated.iterate (m.registered.keys.length + 1)
        (m.mergeStart (m.imageCopy tp desc someone showLiveliness)) = some shot ∧
      (∀ g, (shot.databases.find? g).isSome ↔ (m.state.databaseOf g).isSome ∨
        g ∈ m.servers.keys ∨ g ∈ m.clients.keys ∨ g ∈ m.simples.keys) ∧
      (∀ g d, m.state.databaseOf g = some d → shot.databases.find? g = some d) ∧
      (∀ g d, m.state.databaseOf g = none → shot.databases.find? g = some d →
        d = ⟨g, "", ∅⟩) := by
  intro shot
  have hfind := m.find?_takeSnapshot tp desc someone showLiveliness
  refine ⟨?_, fun g => ?_, fun g d hd => ?_, fun g d hnone hd => ?_⟩
  · let start := m.mergeStart (m.imageCopy tp desc someone showLiveliness)
    have hmeasure : addIsolated.measure start ≤ m.registered.keys.length :=
      mismatch_length_le ..
    obtain ⟨r, hr⟩ := Option.isSome_iff_exists.mp
      (addIsolated.iterate_isSome (s := start) (Nat.lt_succ_of_le hmeasure))
    have hrun : r = shot := addIsolated.iterate_unique hr (addIsolated.iterate_run start)
    exact hrun ▸ hr
  · rw [hfind, mem_keys_registered.symm]
    cases m.state.databaseOf g with
    | some d => simp
    | none =>
      by_cases hg : g ∈ m.registered.keys
      · simp [hg]
      · simp [hg]
  · exact (hfind g).trans (by rw [hd]; rfl)
  · have hadded := (hfind g).symm.trans hd
    rw [hnone, Option.none_or] at hadded
    split_ifs at hadded
    exact (Option.some.inj hadded).symm

end DiscoveryServerManager

end DiscoveryServer
