import DiscoveryServer.ItemEffects
import DiscoveryServer.Library.Run

/-!
# One database for each spokesman

The abstract model of `DiscoveryItemDatabase`: independent machines, one for
each spokesman, whose state is the spokesman's database or nothing. An
operation acts on the machine of its spokesman (`Call.act`). The image with its
shared outer set refines this product (`databaseOf_step`), which makes it an
instance of `Library.Components`; `spokesmen` is that instance, and every result
about histories is proved on one machine at a time.
-/

namespace DiscoveryServer

open Library

/-- The spokesman an operation speaks for: a liveliness update belongs to the
participant that owns the reader. -/
def Operation.spokesman : Operation → Guid
  | .addParticipant s .. => s
  | .removeSpokesman s => s
  | .removeParticipant s _ => s
  | .addDataReader s .. => s
  | .addDataWriter s .. => s
  | .removeDataReader s .. => s
  | .removeDataWriter s .. => s
  | .updateSubLiveliness r .. => r.participant

/-- The database a callback of `s` works on: the stored one, or a fresh one with
the given name. -/
def databaseOr (s : Guid) (name : String) (d : Option ParticipantDiscoveryDatabase) :
    ParticipantDiscoveryDatabase :=
  d.getD ⟨s, name, ∅⟩

/-- What a call does to the machine of its spokesman. -/
def Call.act (c : Call) (d : Option ParticipantDiscoveryDatabase) :
    Option ParticipantDiscoveryDatabase :=
  match c.op with
  | .addParticipant s src p name tp server =>
    some ((databaseOr s src d).addParticipant c.now p name tp server)
  | .removeSpokesman _ => none
  | .removeParticipant s p => some ((databaseOr s "" d).removeParticipant p).1
  | .addDataReader s src p e type topic tp =>
    some ((databaseOr s src d).addEndPoint getDataReaders c.now s p e type topic tp)
  | .addDataWriter s src p e type topic tp =>
    some ((databaseOr s src d).addEndPoint getDataWriters c.now s p e type topic tp)
  | .removeDataReader _ p e => d.map fun d => (d.removeEndPoint getDataReaders p e).1
  | .removeDataWriter _ p e => d.map fun d => (d.removeEndPoint getDataWriters p e).1
  | .updateSubLiveliness r a n => d.map fun d => d.updateSubLiveliness r a n

/-! ## The operations keep the spokesman and the name of the database they work on -/

namespace ParticipantDiscoveryDatabase

variable {ε : Type} [Keyed Guid ε] (m : EndPointContainer ε)
  (database : ParticipantDiscoveryDatabase)

/-- Two databases of one spokesman. -/
def SameSpokesman (database database' : ParticipantDiscoveryDatabase) : Prop :=
  database'.endpointGuid = database.endpointGuid ∧
    database'.participantName = database.participantName

theorem addParticipant_sameSpokesman (now : TimePoint) (p : Guid) (name : String)
    (tp : TimePoint) (server : Bool) :
    database.SameSpokesman (database.addParticipant now p name tp server) := by
  unfold addParticipant
  split
  · exact ⟨rfl, rfl⟩
  · split <;> exact ⟨rfl, rfl⟩

theorem removeParticipant_sameSpokesman (p : Guid) :
    database.SameSpokesman (database.removeParticipant p).1 := by
  unfold removeParticipant
  split
  · exact ⟨rfl, rfl⟩
  · split <;> exact ⟨rfl, rfl⟩

theorem addEndPoint_sameSpokesman (now : TimePoint) (s p e : Guid)
    (type topic : String) (tp : TimePoint) :
    database.SameSpokesman (database.addEndPoint m now s p e type topic tp) := by
  unfold addEndPoint
  dsimp only
  split <;> exact ⟨rfl, rfl⟩

theorem removeEndPoint_sameSpokesman (p e : Guid) :
    database.SameSpokesman (database.removeEndPoint m p e).1 := by
  unfold removeEndPoint
  split
  · exact ⟨rfl, rfl⟩
  · split
    · exact ⟨rfl, rfl⟩
    · dsimp only
      split <;> exact ⟨rfl, rfl⟩

theorem updateSubLiveliness_sameSpokesman (r : Guid) (a n : Int) :
    database.SameSpokesman (database.updateSubLiveliness r a n) := by
  unfold updateSubLiveliness
  split
  · exact ⟨rfl, rfl⟩
  · split <;> exact ⟨rfl, rfl⟩

@[simp] theorem addParticipant_endpointGuid (now : TimePoint) (p : Guid) (name : String)
    (tp : TimePoint) (server : Bool) :
    (database.addParticipant now p name tp server).endpointGuid = database.endpointGuid :=
  (database.addParticipant_sameSpokesman now p name tp server).1

@[simp] theorem removeParticipant_endpointGuid (p : Guid) :
    (database.removeParticipant p).1.endpointGuid = database.endpointGuid :=
  (database.removeParticipant_sameSpokesman p).1

@[simp] theorem addEndPoint_endpointGuid (now : TimePoint) (s p e : Guid)
    (type topic : String) (tp : TimePoint) :
    (database.addEndPoint m now s p e type topic tp).endpointGuid = database.endpointGuid :=
  (database.addEndPoint_sameSpokesman m now s p e type topic tp).1

@[simp] theorem removeEndPoint_endpointGuid (p e : Guid) :
    (database.removeEndPoint m p e).1.endpointGuid = database.endpointGuid :=
  (database.removeEndPoint_sameSpokesman m p e).1

@[simp] theorem updateSubLiveliness_endpointGuid (r : Guid) (a n : Int) :
    (database.updateSubLiveliness r a n).endpointGuid = database.endpointGuid :=
  (database.updateSubLiveliness_sameSpokesman r a n).1

@[simp] theorem addParticipant_participantName (now : TimePoint) (p : Guid) (name : String)
    (tp : TimePoint) (server : Bool) :
    (database.addParticipant now p name tp server).participantName = database.participantName :=
  (database.addParticipant_sameSpokesman now p name tp server).2

@[simp] theorem removeParticipant_participantName (p : Guid) :
    (database.removeParticipant p).1.participantName = database.participantName :=
  (database.removeParticipant_sameSpokesman p).2

@[simp] theorem addEndPoint_participantName (now : TimePoint) (s p e : Guid)
    (type topic : String) (tp : TimePoint) :
    (database.addEndPoint m now s p e type topic tp).participantName = database.participantName :=
  (database.addEndPoint_sameSpokesman m now s p e type topic tp).2

@[simp] theorem removeEndPoint_participantName (p e : Guid) :
    (database.removeEndPoint m p e).1.participantName = database.participantName :=
  (database.removeEndPoint_sameSpokesman m p e).2

@[simp] theorem updateSubLiveliness_participantName (r : Guid) (a n : Int) :
    (database.updateSubLiveliness r a n).participantName = database.participantName :=
  (database.updateSubLiveliness_sameSpokesman r a n).2

end ParticipantDiscoveryDatabase

/-! ## The image refines the product of the machines -/

/-- The database of a spokesman in the image. -/
def DiscoveryItemDatabase.databaseOf (s : Guid) (db : DiscoveryItemDatabase) :
    Option ParticipantDiscoveryDatabase :=
  db.image.databases.find? s

namespace Snapshot

/-- Taking the database of `s` out of the image, changing it and writing it back
is one change under the key `s`. -/
theorem find?_store_accessSnapshot (shot : Snapshot) (s : Guid) (name : String)
    {database : ParticipantDiscoveryDatabase}
    (hd : database.endpointGuid = (shot.accessSnapshot s name).2.endpointGuid) (k : Guid) :
    ((shot.accessSnapshot s name).1.store database).databases.find? k =
      if k = s then some database else shot.databases.find? k := by
  unfold accessSnapshot at hd ⊢
  rw [OrdSet.locate_eq_find?] at hd ⊢
  cases hf : shot.databases.find? s with
  | none =>
    simp only [hf] at hd
    simp only [store, OrdSet.find?_update, OrdSet.find?_insert, key_database, hd]
    split_ifs <;> rfl
  | some p =>
    have hp : p.endpointGuid = s := OrdSet.find?_key hf
    simp only [hf, hp] at hd
    simp only [store, OrdSet.find?_update, key_database, hd]
    split_ifs with hk
    · rw [hk, hf]; rfl
    · rfl

theorem accessSnapshot_snd (shot : Snapshot) (s : Guid) (name : String) :
    (shot.accessSnapshot s name).2 = databaseOr s name (shot.databases.find? s) := by
  unfold accessSnapshot
  rw [OrdSet.locate_eq_find?]
  cases shot.databases.find? s <;> rfl

end Snapshot

namespace DiscoveryItemDatabase

/-- What an operation leaves alone in the image: everything but the databases. -/
def rest (db : DiscoveryItemDatabase) : Snapshot := { db.image with databases := ∅ }

@[simp] theorem rest_store_accessSnapshot (db : DiscoveryItemDatabase) (s : Guid) (name : String)
    (database : ParticipantDiscoveryDatabase) :
    rest ⟨(db.image.accessSnapshot s name).1.store database⟩ = db.rest := by
  unfold Snapshot.accessSnapshot
  split <;> rfl

theorem rest_step (db : DiscoveryItemDatabase) (c : Call) : (db.step c).rest = db.rest := by
  obtain ⟨now, op⟩ := c
  cases op with
  | addParticipant => exact rest_store_accessSnapshot ..
  | removeSpokesman => rfl
  | removeParticipant => exact rest_store_accessSnapshot ..
  | addDataReader => exact rest_store_accessSnapshot ..
  | addDataWriter => exact rest_store_accessSnapshot ..
  | removeDataReader s p e =>
    show (db.removeEndPoint getDataReaders s p e).1.rest = db.rest
    unfold removeEndPoint
    split
    · rfl
    · exact rest_store_accessSnapshot ..
  | removeDataWriter s p e =>
    show (db.removeEndPoint getDataWriters s p e).1.rest = db.rest
    unfold removeEndPoint
    split
    · rfl
    · exact rest_store_accessSnapshot ..
  | updateSubLiveliness r a n =>
    show (db.updateSubLiveliness r a n).rest = db.rest
    unfold updateSubLiveliness
    split
    · rfl
    · exact rest_store_accessSnapshot ..

/-- A database changed by a function that keeps its spokesman. -/
theorem databaseOf_store (db : DiscoveryItemDatabase) (s : Guid) (name : String)
    {f : ParticipantDiscoveryDatabase → ParticipantDiscoveryDatabase}
    (hf : ∀ d, (f d).endpointGuid = d.endpointGuid) (k : Guid) :
    databaseOf k
        ⟨(db.image.accessSnapshot s name).1.store (f (db.image.accessSnapshot s name).2)⟩ =
      if k = s then some (f (databaseOr s name (db.databaseOf k))) else db.databaseOf k := by
  unfold databaseOf
  rw [Snapshot.find?_store_accessSnapshot _ _ _ (hf _), Snapshot.accessSnapshot_snd]
  split_ifs with hk
  · rw [hk]
  · rfl

/-- The same for an operation that does nothing without a database of `s`. -/
theorem databaseOf_store_of_some {db db' : DiscoveryItemDatabase} {s : Guid}
    {f : ParticipantDiscoveryDatabase → ParticipantDiscoveryDatabase}
    (hf : ∀ d, (f d).endpointGuid = d.endpointGuid) (hnone : db.databaseOf s = none → db' = db)
    (hsome : ∀ d, db.databaseOf s = some d →
      db' = ⟨(db.image.subscript s).1.store (f (db.image.subscript s).2)⟩) (k : Guid) :
    db'.databaseOf k = if k = s then (db.databaseOf k).map f else db.databaseOf k := by
  cases hs : db.databaseOf s with
  | none =>
    rw [hnone hs]
    split_ifs with hk
    · rw [hk, hs]; rfl
    · rfl
  | some d =>
    rw [hsome d hs]
    refine (databaseOf_store db s "" hf k).trans ?_
    split_ifs with hk
    · rw [hk, hs]; rfl
    · rfl

theorem databaseOf_removeEndPoint {ε : Type} [Keyed Guid ε] (m : EndPointContainer ε)
    (db : DiscoveryItemDatabase) (s p e k : Guid) :
    (db.removeEndPoint m s p e).1.databaseOf k =
      if k = s then (db.databaseOf k).map fun d => (d.removeEndPoint m p e).1
      else db.databaseOf k := by
  refine databaseOf_store_of_some (fun d => d.removeEndPoint_endpointGuid m p e) ?_ ?_ k
  · intro h
    unfold databaseOf at h
    simp only [removeEndPoint, h]
  · intro d h
    unfold databaseOf at h
    simp only [removeEndPoint, h]

theorem databaseOf_updateSubLiveliness (db : DiscoveryItemDatabase) (r : Guid) (a n : Int)
    (k : Guid) :
    (db.updateSubLiveliness r a n).databaseOf k =
      if k = r.participant then (db.databaseOf k).map fun d => d.updateSubLiveliness r a n
      else db.databaseOf k := by
  refine databaseOf_store_of_some (fun d => d.updateSubLiveliness_endpointGuid r a n) ?_ ?_ k
  · intro h
    unfold databaseOf at h
    simp only [updateSubLiveliness, h]
  · intro d h
    unfold databaseOf at h
    simp only [updateSubLiveliness, h]

/-- **The image refines the product.** A call acts on the database of its
spokesman as on a machine of its own, and on no other database. -/
theorem databaseOf_step (db : DiscoveryItemDatabase) (c : Call) (k : Guid) :
    (db.step c).databaseOf k =
      if k = c.op.spokesman then c.act (db.databaseOf k) else db.databaseOf k := by
  obtain ⟨now, op⟩ := c
  cases op with
  | addParticipant s src p name tp server =>
    exact databaseOf_store db s src (f := fun d => d.addParticipant now p name tp server)
      (fun d => d.addParticipant_endpointGuid ..) k
  | removeSpokesman s =>
    show (db.image.databases.erase s).find? k = _
    rw [OrdSet.find?_erase]
    rfl
  | removeParticipant s p =>
    exact databaseOf_store db s "" (f := fun d => (d.removeParticipant p).1)
      (fun d => d.removeParticipant_endpointGuid ..) k
  | addDataReader s src p e type topic tp =>
    exact databaseOf_store db s src
      (f := fun d => d.addEndPoint getDataReaders now s p e type topic tp)
      (fun d => d.addEndPoint_endpointGuid ..) k
  | addDataWriter s src p e type topic tp =>
    exact databaseOf_store db s src
      (f := fun d => d.addEndPoint getDataWriters now s p e type topic tp)
      (fun d => d.addEndPoint_endpointGuid ..) k
  | removeDataReader s p e => exact databaseOf_removeEndPoint getDataReaders db s p e k
  | removeDataWriter s p e => exact databaseOf_removeEndPoint getDataWriters db s p e k
  | updateSubLiveliness r a n => exact databaseOf_updateSubLiveliness db r a n k

theorem ext_databaseOf {db db' : DiscoveryItemDatabase} (hrest : db.rest = db'.rest)
    (h : ∀ k, db.databaseOf k = db'.databaseOf k) : db = db' := by
  obtain ⟨image⟩ := db
  obtain ⟨image'⟩ := db'
  have hdatabases : image.databases = image'.databases := OrdSet.ext_find? h
  simp only [rest, Snapshot.mk.injEq] at hrest
  cases image
  cases image'
  simp_all

end DiscoveryItemDatabase

/-- The database as the product of its spokesmen's machines. -/
def spokesmen : Components DiscoveryItemDatabase Call Guid (Option ParticipantDiscoveryDatabase)
    Snapshot where
  step := DiscoveryItemDatabase.step
  owner c := c.op.spokesman
  view := DiscoveryItemDatabase.databaseOf
  act := Call.act
  rest := DiscoveryItemDatabase.rest
  view_step := DiscoveryItemDatabase.databaseOf_step
  rest_step := DiscoveryItemDatabase.rest_step
  ext _ _ := DiscoveryItemDatabase.ext_databaseOf

end DiscoveryServer
