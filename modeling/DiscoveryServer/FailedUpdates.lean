import DiscoveryServer.Spokesman

/-!
# Failed updates

What a removal or a liveliness update leaves behind when it finds nothing.

`RemoveEndPoint` and `UpdateSubLiveliness` look the spokesman up with `find`
before they take its database out of the image; `RemoveParticipant` takes it out
with `operator []`, which emplaces a nameless empty database when there is none.
So a failed call changes nothing unless it removes a participant on behalf of a
spokesman without a database (`failed_unchanged_iff`).
-/

namespace DiscoveryServer

open Library ParticipantDiscoveryDatabase

namespace ParticipantDiscoveryDatabase

variable (d : ParticipantDiscoveryDatabase)

theorem removeParticipant_of_false {p : Guid} (h : (d.removeParticipant p).2 = false) :
    (d.removeParticipant p).1 = d := by
  unfold removeParticipant at h ⊢
  cases hp : d.items.locate p with
  | none => rfl
  | some it =>
    simp only [hp] at h
    split_ifs at h

theorem removeEndPoint_of_false {ε : Type} [Keyed Guid ε] (m : EndPointContainer ε) {p e : Guid}
    (h : (d.removeEndPoint m p e).2 = false) : (d.removeEndPoint m p e).1 = d := by
  unfold removeEndPoint at h ⊢
  cases hp : d.items.locate p with
  | none => rfl
  | some it =>
    simp only [hp] at h ⊢
    cases he : (m.get it).locate e with
    | none => rfl
    | some sit =>
      simp only [he] at h
      split_ifs at h

/-- The item of the reader's participant is there, and the reader in it. -/
def holdsReader (r : Guid) : Prop :=
  ∃ it ∈ d.items.find? r.participant, r ∈ it.datareaders.keys

theorem updateSubLiveliness_of_not_holdsReader {r : Guid} (h : ¬ d.holdsReader r) (a n : Int) :
    d.updateSubLiveliness r a n = d := by
  unfold updateSubLiveliness
  simp only [OrdSet.locate_eq_find?]
  cases hp : d.items.find? r.participant with
  | none => rfl
  | some it =>
    dsimp only
    cases hr : it.datareaders.find? r with
    | none => rfl
    | some sub => exact absurd ⟨it, hp, OrdSet.mem_keys.mpr (by rw [hr]; rfl)⟩ h

end ParticipantDiscoveryDatabase

namespace DiscoveryItemDatabase

/-- What the call returns; `UpdateSubLiveliness` returns nothing. -/
def result (db : DiscoveryItemDatabase) (c : Call) : Option Bool :=
  match c.op with
  | .addParticipant s src p name tp server =>
    some (db.addParticipant c.now s src p name tp server).2
  | .removeSpokesman s => some (db.removeSpokesman s).2
  | .removeParticipant s p => some (db.removeParticipant s p).2
  | .addDataReader s src p e type topic tp =>
    some (db.addDataReader c.now s src p e type topic tp).2
  | .addDataWriter s src p e type topic tp =>
    some (db.addDataWriter c.now s src p e type topic tp).2
  | .removeDataReader s p e => some (db.removeDataReader s p e).2
  | .removeDataWriter s p e => some (db.removeDataWriter s p e).2
  | .updateSubLiveliness .. => none

/-- The call fails: it returns false, or it is a liveliness update and does not
find the participant or the reader it is about. -/
def Fails (db : DiscoveryItemDatabase) (c : Call) : Prop :=
  db.result c = some false ∨
    ∃ r a n, c.op = .updateSubLiveliness r a n ∧
      ∀ d, db.databaseOf r.participant = some d → ¬ d.holdsReader r

/-- The call removes a participant on behalf of a spokesman without a database. -/
def RemovesForUnknown (db : DiscoveryItemDatabase) (c : Call) : Prop :=
  ∃ s p, c.op = .removeParticipant s p ∧ db.databaseOf s = none

theorem removeParticipant_snd (db : DiscoveryItemDatabase) (s p : Guid) :
    (db.removeParticipant s p).2 =
      ((databaseOr s "" (db.databaseOf s)).removeParticipant p).2 := by
  show ((db.image.accessSnapshot s "").2.removeParticipant p).2 = _
  rw [Snapshot.accessSnapshot_snd]
  rfl

theorem removeEndPoint_snd_of_some {ε : Type} [Keyed Guid ε] (m : EndPointContainer ε)
    {db : DiscoveryItemDatabase} {s : Guid} {d : ParticipantDiscoveryDatabase}
    (hd : db.databaseOf s = some d) (p e : Guid) :
    (db.removeEndPoint m s p e).2 = (d.removeEndPoint m p e).2 := by
  have hfind : db.image.databases.find? s = some d := hd
  unfold removeEndPoint
  simp only [hfind]
  show ((db.image.accessSnapshot s "").2.removeEndPoint m p e).2 = _
  rw [Snapshot.accessSnapshot_snd, hfind]
  rfl

/-- A failed endpoint removal leaves the database of its spokesman alone. -/
theorem map_removeEndPoint_of_false {ε : Type} [Keyed Guid ε] (m : EndPointContainer ε)
    {db : DiscoveryItemDatabase} {s p e : Guid} (h : (db.removeEndPoint m s p e).2 = false) :
    ((db.databaseOf s).map fun d => (d.removeEndPoint m p e).1) = db.databaseOf s := by
  cases hd : db.databaseOf s with
  | none => rfl
  | some d =>
    rw [removeEndPoint_snd_of_some m hd] at h
    rw [Option.map_some, d.removeEndPoint_of_false m h]

/-- A call changes nothing when it acts on its spokesman's database as the identity. -/
theorem step_eq_self_iff {db : DiscoveryItemDatabase} {c : Call} :
    db.step c = db ↔ c.act (db.databaseOf c.op.spokesman) = db.databaseOf c.op.spokesman :=
  spokesmen.step_eq_self_iff (s := db) (i := c)

/-- A failed call acts on the database of its spokesman as the identity, unless
it removes a participant and there is no such database. -/
theorem act_eq_self_of_fails {db : DiscoveryItemDatabase} {c : Call} (hfails : db.Fails c)
    (hknown : ¬ db.RemovesForUnknown c) :
    c.act (db.databaseOf c.op.spokesman) = db.databaseOf c.op.spokesman := by
  obtain ⟨now, op⟩ := c
  rcases hfails with hresult | ⟨r, a, n, hop, hmissing⟩
  · cases op with
    | addParticipant => cases hresult
    | removeSpokesman s =>
      have habsent : (db.databaseOf s).isSome = false := Option.some.inj hresult
      exact (Option.isNone_iff_eq_none.mp (Option.isSome_eq_false_iff.mp habsent)).symm
    | removeParticipant s p =>
      cases hd : db.databaseOf s with
      | none => exact absurd ⟨s, p, rfl, hd⟩ hknown
      | some d =>
        have hfalse : (d.removeParticipant p).2 = false := by
          have hsnd := db.removeParticipant_snd s p
          rw [hd] at hsnd
          exact hsnd.symm.trans (Option.some.inj hresult)
        show some ((databaseOr s "" (db.databaseOf s)).removeParticipant p).1 = db.databaseOf s
        rw [hd]
        exact congrArg some (d.removeParticipant_of_false hfalse)
    | addDataReader => cases hresult
    | addDataWriter => cases hresult
    | removeDataReader s p e => exact map_removeEndPoint_of_false _ (Option.some.inj hresult)
    | removeDataWriter s p e => exact map_removeEndPoint_of_false _ (Option.some.inj hresult)
    | updateSubLiveliness => cases hresult
  · cases hop
    show ((db.databaseOf r.participant).map fun d => d.updateSubLiveliness r a n) =
      db.databaseOf r.participant
    cases hd : db.databaseOf r.participant with
    | none => rfl
    | some d => exact congrArg some (d.updateSubLiveliness_of_not_holdsReader (hmissing d hd) a n)

/-- Removing a participant for a spokesman without a database fails, and leaves
the spokesman with one. -/
theorem fails_and_changes_of_removesForUnknown {db : DiscoveryItemDatabase} {c : Call}
    (h : db.RemovesForUnknown c) : db.Fails c ∧ db.step c ≠ db := by
  obtain ⟨now, op⟩ := c
  obtain ⟨s, p, hop, hunknown⟩ := h
  cases hop
  constructor
  · have hsnd := db.removeParticipant_snd s p
    rw [hunknown] at hsnd
    exact .inl (congrArg some hsnd)
  · intro hstep
    have hact := step_eq_self_iff.mp hstep
    have hcreated : (db.databaseOf s).isSome = true :=
      congrArg Option.isSome hact.symm
    rw [hunknown] at hcreated
    cases hcreated

/-- **Failed updates.** A failed call leaves the whole image as it was, except
when a participant is removed for a spokesman that has no database. -/
theorem failed_unchanged_iff (db : DiscoveryItemDatabase) (c : Call) :
    (db.Fails c → db.step c = db) ↔ ¬ db.RemovesForUnknown c := by
  constructor
  · intro hunchanged hunknown
    obtain ⟨hfails, hchanges⟩ := fails_and_changes_of_removesForUnknown hunknown
    exact hchanges (hunchanged hfails)
  · intro hknown hfails
    exact step_eq_self_iff.mpr (act_eq_self_of_fails hfails hknown)

/-- A participant discovers another and is removed with its database; its late
callback about the other fails and leaves an empty database behind. -/
theorem failed_changes :
    let g := Guid.ofPrefix 1
    let q := Guid.ofPrefix 2
    let db := run step (init 0 0 0)
      [⟨1, .addParticipant g "server" q "client" 1 false⟩, ⟨2, .removeSpokesman g⟩]
    let late : Call := ⟨3, .removeParticipant g q⟩
    db.Fails late ∧ db.databaseOf g = none ∧
      (db.step late).databaseOf g = some ⟨g, "", ∅⟩ ∧ db.step late ≠ db := by
  refine ⟨.inl ?_, ?_, ?_, ?_⟩ <;> decide

end DiscoveryItemDatabase

end DiscoveryServer
