import DiscoveryServer.Spokesman

/-!
# Callbacks of different spokesmen commute

Callbacks of different participants run on different threads. Each operation
holds `database_mutex`, so a concurrent run is an interleaving of the
spokesmen's own sequences (`IsInterleaving`).

The product of machines makes the order between spokesmen irrelevant. Only the
clock is left: `now` is read when the call happens, so two interleavings may
take different readings. `forgetClock` blanks the one field a reading is stored
in, and the rest of the image does not depend on any reading.
-/

namespace DiscoveryServer

open Library ParticipantDiscoveryDatabase

/-! ## Forgetting the clock -/

/-- The item without its discovery timestamp. -/
def ParticipantDiscoveryItem.forgetClock (it : ParticipantDiscoveryItem) :
    ParticipantDiscoveryItem :=
  { it with discoveredTimestamp := 0 }

/-- The database without the discovery timestamps of its items. -/
def ParticipantDiscoveryDatabase.forgetClock (d : ParticipantDiscoveryDatabase) :
    ParticipantDiscoveryDatabase :=
  { d with items := d.items.mapValues (·.forgetClock) fun _ => rfl }

/-- The image without the discovery timestamps of its items. -/
def DiscoveryItemDatabase.forgetClock (db : DiscoveryItemDatabase) : DiscoveryItemDatabase :=
  ⟨{ db.image with
      databases := db.image.databases.mapValues (·.forgetClock) fun _ => rfl }⟩

/-- Items look the same without the clock when only the timestamp differs. -/
theorem ParticipantDiscoveryItem.forgetClock_eq_iff {it it' : ParticipantDiscoveryItem} :
    it.forgetClock = it'.forgetClock ↔
      ∃ tp, it' = { it with discoveredTimestamp := tp } := by
  constructor
  · intro h
    refine ⟨it'.discoveredTimestamp, ?_⟩
    cases it
    cases it'
    simp only [forgetClock, mk.injEq] at h ⊢
    tauto
  · rintro ⟨tp, rfl⟩
    rfl

/-! ## The effects on an item do not look at its timestamp -/

section Effects

variable {it it' : ParticipantDiscoveryItem}

theorem announced_forgetClock (now now' : TimePoint) (p : Guid) (name : String) (tp : TimePoint)
    (server : Bool) {it it' : Option ParticipantDiscoveryItem}
    (h : it.map (·.forgetClock) = it'.map (·.forgetClock)) :
    (announced now p name tp server it).forgetClock =
      (announced now' p name tp server it').forgetClock := by
  cases it with
  | none =>
    cases it' with
    | none => rfl
    | some i' => exact absurd h (by simp)
  | some i =>
    cases it' with
    | none => exact absurd h (by simp)
    | some i' =>
      obtain ⟨stamp, rfl⟩ := ParticipantDiscoveryItem.forgetClock_eq_iff.mp (Option.some.inj h)
      simp only [announced]
      split_ifs <;> rfl

theorem buried_forgetClock (h : it.forgetClock = it'.forgetClock) :
    (buried it).map (·.forgetClock) = (buried it').map (·.forgetClock) := by
  obtain ⟨stamp, rfl⟩ := ParticipantDiscoveryItem.forgetClock_eq_iff.mp h
  show _ = (if 0 < it.countEndpoints then _ else _ : Option _).map _
  unfold buried
  split_ifs <;> rfl

theorem relived_forgetClock (r : Guid) (a n : Int) (h : it.forgetClock = it'.forgetClock) :
    (relived r a n it).forgetClock = (relived r a n it').forgetClock := by
  obtain ⟨stamp, rfl⟩ := ParticipantDiscoveryItem.forgetClock_eq_iff.mp h
  simp only [relived]
  split <;> rfl

variable {ε : Type} [Keyed Guid ε] (m : EndPointContainer ε)

theorem filed_forgetClock (e : Guid) (type topic : String) (tp : TimePoint)
    (h : it.forgetClock = it'.forgetClock) :
    (filed m e type topic tp it).forgetClock = (filed m e type topic tp it').forgetClock := by
  obtain ⟨stamp, rfl⟩ := ParticipantDiscoveryItem.forgetClock_eq_iff.mp h
  simp only [filed, m.get_stamp it stamp, m.set_stamp it stamp]
  split <;> rfl

theorem unfiled_forgetClock (e : Guid) (h : it.forgetClock = it'.forgetClock) :
    (unfiled m e it).map (·.forgetClock) = (unfiled m e it').map (·.forgetClock) := by
  obtain ⟨stamp, rfl⟩ := ParticipantDiscoveryItem.forgetClock_eq_iff.mp h
  simp only [unfiled, m.get_stamp it stamp, m.set_stamp it stamp]
  split
  · rfl
  · show _ = (if (m.set it ((m.get it).erase e)).countEndpoints = 0 &&
      !(m.set it ((m.get it).erase e)).isAlive then _ else _ : Option _).map _
    split_ifs <;> rfl

end Effects

/-! ## The operations on a database -/

/-- Two databases that differ at most in the timestamps of their items. -/
structure Alike (d d' : ParticipantDiscoveryDatabase) : Prop where
  endpointGuid : d.endpointGuid = d'.endpointGuid
  participantName : d.participantName = d'.participantName
  item : ∀ p, (d.items.find? p).map (·.forgetClock) = (d'.items.find? p).map (·.forgetClock)

theorem alike_iff {d d' : ParticipantDiscoveryDatabase} :
    Alike d d' ↔ d.forgetClock = d'.forgetClock := by
  have hfind : ∀ (d : ParticipantDiscoveryDatabase) p,
      d.forgetClock.items.find? p = (d.items.find? p).map (·.forgetClock) :=
    fun d p => OrdSet.find?_mapValues d.items ParticipantDiscoveryItem.forgetClock (fun _ => rfl) p
  constructor
  · rintro ⟨hguid, hname, hitem⟩
    have hset : d.forgetClock.items = d'.forgetClock.items :=
      OrdSet.ext_find? fun p => by rw [hfind, hfind, hitem]
    show ParticipantDiscoveryDatabase.mk _ _ d.forgetClock.items = ⟨_, _, d'.forgetClock.items⟩
    rw [hguid, hname, hset]
  · intro h
    refine ⟨?_, ?_, fun p => ?_⟩
    · show d.forgetClock.endpointGuid = d'.forgetClock.endpointGuid
      rw [h]
    · show d.forgetClock.participantName = d'.forgetClock.participantName
      rw [h]
    · rw [← hfind, ← hfind, h]

namespace Alike

variable {d d' : ParticipantDiscoveryDatabase}

/-- `lower_bound` stops at the same participant. -/
theorem lowerBound (h : Alike d d') (p : Guid) :
    (d.items.lowerBound p).map (·.forgetClock) = (d'.items.lowerBound p).map (·.forgetClock) := by
  have hmap : ∀ d : ParticipantDiscoveryDatabase,
      (d.items.lowerBound p).map (·.forgetClock) = d.forgetClock.items.lowerBound p :=
    fun d => (OrdSet.lowerBound_mapValues d.items ParticipantDiscoveryItem.forgetClock
      (fun _ => rfl) p).symm
  rw [hmap, hmap, alike_iff.mp h]

theorem addParticipant (h : Alike d d') (now now' : TimePoint) (p : Guid) (name : String)
    (tp : TimePoint) (server : Bool) :
    Alike (d.addParticipant now p name tp server) (d'.addParticipant now' p name tp server) := by
  refine ⟨by simpa using h.endpointGuid, by simpa using h.participantName, fun q => ?_⟩
  rw [find?_addParticipant, find?_addParticipant]
  split_ifs with hq
  · exact congrArg some (announced_forgetClock now now' p name tp server (h.item p))
  · exact h.item q

/-- The same change to the item of one participant keeps databases alike. -/
theorem bind_item (h : Alike d d') {f : ParticipantDiscoveryItem → Option ParticipantDiscoveryItem}
    (hf : ∀ it it' : ParticipantDiscoveryItem, it.forgetClock = it'.forgetClock →
      (f it).map (·.forgetClock) = (f it').map (·.forgetClock)) (p : Guid) :
    ((d.items.find? p).bind f).map (·.forgetClock) =
      ((d'.items.find? p).bind f).map (·.forgetClock) := by
  have hitem := h.item p
  cases hd : d.items.find? p with
  | none =>
    rw [hd] at hitem
    rw [Option.map_eq_none_iff.mp hitem.symm]
  | some it =>
    rw [hd, Option.map_some] at hitem
    obtain ⟨it', hd', hforget⟩ := Option.map_eq_some_iff.mp hitem.symm
    rw [hd']
    exact hf it it' hforget.symm

theorem removeParticipant (h : Alike d d') (p : Guid) :
    Alike (d.removeParticipant p).1 (d'.removeParticipant p).1 := by
  refine ⟨by simpa using h.endpointGuid, by simpa using h.participantName, fun q => ?_⟩
  rw [find?_removeParticipant, find?_removeParticipant]
  split_ifs with hq
  · exact h.bind_item (fun _ _ => buried_forgetClock) p
  · exact h.item q

theorem updateSubLiveliness (h : Alike d d') (r : Guid) (a n : Int) :
    Alike (d.updateSubLiveliness r a n) (d'.updateSubLiveliness r a n) := by
  refine ⟨by simpa using h.endpointGuid, by simpa using h.participantName, fun q => ?_⟩
  rw [find?_updateSubLiveliness, find?_updateSubLiveliness]
  split_ifs with hq
  · have hbind := h.bind_item (f := some ∘ relived r a n)
      (fun it it' hit => congrArg some (relived_forgetClock r a n hit)) q
    simpa only [Option.map_eq_bind] using hbind
  · exact h.item q

variable {ε : Type} [Keyed Guid ε] (m : EndPointContainer ε)

theorem removeEndPoint (h : Alike d d') (p e : Guid) :
    Alike (d.removeEndPoint m p e).1 (d'.removeEndPoint m p e).1 := by
  refine ⟨by simpa using h.endpointGuid, by simpa using h.participantName, fun q => ?_⟩
  rw [find?_removeEndPoint, find?_removeEndPoint]
  split_ifs with hq
  · exact h.bind_item (fun _ _ => unfiled_forgetClock m e) p
  · exact h.item q

theorem emplacedOwner (h : Alike d d') (now now' : TimePoint) (s p : Guid) :
    (d.emplacedOwner now s p).forgetClock = (d'.emplacedOwner now' s p).forgetClock := by
  have hitem := h.item p
  cases hd : d.items.find? p with
  | none =>
    rw [hd] at hitem
    rw [d.emplacedOwner_of_none hd, d'.emplacedOwner_of_none (Option.map_eq_none_iff.mp hitem.symm)]
    rfl
  | some it =>
    rw [hd, Option.map_some] at hitem
    obtain ⟨it', hd', hforget⟩ := Option.map_eq_some_iff.mp hitem.symm
    obtain ⟨stamp, rfl⟩ := ParticipantDiscoveryItem.forgetClock_eq_iff.mp hforget.symm
    rw [d.emplacedOwner_of_some hd, d'.emplacedOwner_of_some hd']
    rfl

/-- An endpoint is filed under the same participant, in items that look the same. -/
theorem filing (h : Alike d d') (now now' : TimePoint) (s p : Guid) :
    d.filedUnder s p = d'.filedUnder s p ∧
    (d.filingItem now s p).forgetClock = (d'.filingItem now' s p).forgetClock := by
  have hbound := h.lowerBound p
  unfold filedUnder filingItem
  cases hd : d.items.lowerBound p with
  | none =>
    rw [hd] at hbound
    rw [Option.map_eq_none_iff.mp hbound.symm]
    exact ⟨rfl, h.emplacedOwner now now' s p⟩
  | some it =>
    rw [hd, Option.map_some] at hbound
    obtain ⟨it', hd', hforget⟩ := Option.map_eq_some_iff.mp hbound.symm
    rw [hd']
    have hguid : it.endpointGuid = it'.endpointGuid := by
      show it.forgetClock.endpointGuid = it'.forgetClock.endpointGuid
      rw [hforget]
    simp only
    split_ifs with hs
    · exact ⟨rfl, h.emplacedOwner now now' s p⟩
    · exact ⟨hguid, hforget.symm⟩

theorem addEndPoint (h : Alike d d') (now now' : TimePoint) (s p e : Guid) (type topic : String)
    (tp : TimePoint) :
    Alike (d.addEndPoint m now s p e type topic tp)
      (d'.addEndPoint m now' s p e type topic tp) := by
  obtain ⟨hunder, hitem⟩ := h.filing now now' s p
  refine ⟨by simpa using h.endpointGuid, by simpa using h.participantName, fun q => ?_⟩
  rw [find?_addEndPoint, find?_addEndPoint, hunder]
  split_ifs with hq
  · exact congrArg some (filed_forgetClock m e type topic tp hitem)
  · exact h.item q

end Alike

/-- **A clock reading shows in a timestamp only.** Two calls with the same
arguments take databases that look the same to databases that look the same. -/
theorem Call.act_forgetClock {c c' : Call} {d d' : Option ParticipantDiscoveryDatabase}
    (hop : c.op = c'.op) (h : d.map (·.forgetClock) = d'.map (·.forgetClock)) :
    (c.act d).map (·.forgetClock) = (c'.act d').map (·.forgetClock) := by
  have hor : ∀ s name, Alike (databaseOr s name d) (databaseOr s name d') := by
    intro s name
    cases d with
    | none =>
      cases d' with
      | none => exact alike_iff.mpr rfl
      | some d' => exact absurd h (by simp)
    | some d =>
      cases d' with
      | none => exact absurd h (by simp)
      | some d' => exact alike_iff.mpr (Option.some.inj h)
  have hmap : ∀ f : ParticipantDiscoveryDatabase → ParticipantDiscoveryDatabase,
      (∀ d d', Alike d d' → Alike (f d) (f d')) →
      (d.map f).map (·.forgetClock) = (d'.map f).map (·.forgetClock) := by
    intro f hf
    cases d with
    | none =>
      cases d' with
      | none => rfl
      | some d' => exact absurd h (by simp)
    | some d =>
      cases d' with
      | none => exact absurd h (by simp)
      | some d' =>
        exact congrArg some (alike_iff.mp (hf d d' (alike_iff.mpr (Option.some.inj h))))
  obtain ⟨now, op⟩ := c
  obtain ⟨now', op'⟩ := c'
  subst hop
  cases op with
  | addParticipant s src p name tp server =>
    exact congrArg some (alike_iff.mp ((hor s src).addParticipant now now' p name tp server))
  | removeSpokesman s => rfl
  | removeParticipant s p =>
    exact congrArg some (alike_iff.mp ((hor s "").removeParticipant p))
  | addDataReader s src p e type topic tp =>
    exact congrArg some
      (alike_iff.mp ((hor s src).addEndPoint getDataReaders now now' s p e type topic tp))
  | addDataWriter s src p e type topic tp =>
    exact congrArg some
      (alike_iff.mp ((hor s src).addEndPoint getDataWriters now now' s p e type topic tp))
  | removeDataReader s p e => exact hmap _ fun _ _ h => h.removeEndPoint getDataReaders p e
  | removeDataWriter s p e => exact hmap _ fun _ _ h => h.removeEndPoint getDataWriters p e
  | updateSubLiveliness r a n => exact hmap _ fun _ _ h => h.updateSubLiveliness r a n

/-! ## Interleavings -/

/-- The calls of a history made for one spokesman, in its own order. -/
def callsOf (s : Guid) (h : List Call) : List Call := h.filter fun c => s = c.op.spokesman

/-- `h` interleaves the spokesmen's sequences and keeps the order of each; the
clock readings are the run's own. -/
def IsInterleaving (sequences : Guid → List Operation) (h : List Call) : Prop :=
  ∀ s, (callsOf s h).map (·.op) = sequences s

namespace DiscoveryItemDatabase

/-- Whatever readings two interleavings take, the image is the same without the
clock. -/
theorem forgetClock_run_congr (db : DiscoveryItemDatabase) {h₁ h₂ : List Call}
    (same : ∀ s, (callsOf s h₁).map (·.op) = (callsOf s h₂).map (·.op)) :
    (run step db h₁).forgetClock = (run step db h₂).forgetClock := by
  have hview : ∀ s, ((run step db h₁).databaseOf s).map (·.forgetClock) =
      ((run step db h₂).databaseOf s).map (·.forgetClock) :=
    spokesmen.observe_congr (Option.map (·.forgetClock)) (·.op)
      (fun _ _ _ _ hop h => Call.act_forgetClock hop h) db same
  have hfind : ∀ (db : DiscoveryItemDatabase) s,
      db.forgetClock.databaseOf s = (db.databaseOf s).map (·.forgetClock) :=
    fun db s => OrdSet.find?_mapValues db.image.databases ParticipantDiscoveryDatabase.forgetClock
      (fun _ => rfl) s
  refine ext_databaseOf ?_ fun s => ?_
  · show (run step db h₁).rest = (run step db h₂).rest
    exact (spokesmen.rest_run db h₁).trans (spokesmen.rest_run db h₂).symm
  · rw [hfind, hfind, hview]

end DiscoveryItemDatabase

/-- **Callbacks of different spokesmen commute.** Any two interleavings of the
same sequences end in the same image, timestamps from the clock aside; they end
in the very same image when every call takes the same reading in both; and a
call leaves the databases of all other spokesmen exactly as they were. -/
theorem interleavings_agree (db : DiscoveryItemDatabase) :
    (∀ (sequences : Guid → List Operation) (h₁ h₂ : List Call),
      IsInterleaving sequences h₁ → IsInterleaving sequences h₂ →
      (run DiscoveryItemDatabase.step db h₁).forgetClock =
        (run DiscoveryItemDatabase.step db h₂).forgetClock) ∧
    (∀ h₁ h₂ : List Call, (∀ s, callsOf s h₁ = callsOf s h₂) →
      run DiscoveryItemDatabase.step db h₁ = run DiscoveryItemDatabase.step db h₂) ∧
    (∀ (c : Call) (s : Guid), s ≠ c.op.spokesman →
      (db.step c).databaseOf s = db.databaseOf s) := by
  refine ⟨fun sequences h₁ h₂ hi₁ hi₂ => ?_, fun h₁ h₂ same => ?_, fun c s hs => ?_⟩
  · exact db.forgetClock_run_congr fun s => (hi₁ s).trans (hi₂ s).symm
  · exact spokesmen.run_congr db same
  · exact spokesmen.view_step_ne hs

/-- Two participants that announce each other, interleaved in the two possible
ways with different clock readings. -/
theorem interleavings_agree_two_spokesmen :
    (run DiscoveryItemDatabase.step (.init 0 0 0)
      [⟨1, .addParticipant (.ofPrefix 1) "a" (.ofPrefix 2) "b" 1 false⟩,
        ⟨2, .addParticipant (.ofPrefix 2) "b" (.ofPrefix 1) "a" 2 false⟩]).forgetClock =
    (run DiscoveryItemDatabase.step (.init 0 0 0)
      [⟨5, .addParticipant (.ofPrefix 2) "b" (.ofPrefix 1) "a" 2 false⟩,
        ⟨7, .addParticipant (.ofPrefix 1) "a" (.ofPrefix 2) "b" 1 false⟩]).forgetClock := by
  refine (interleavings_agree (.init 0 0 0)).1 (fun s =>
    (callsOf s [⟨1, .addParticipant (.ofPrefix 1) "a" (.ofPrefix 2) "b" 1 false⟩,
      ⟨2, .addParticipant (.ofPrefix 2) "b" (.ofPrefix 1) "a" 2 false⟩]).map (·.op))
    _ _ (fun s => rfl) (fun s => ?_)
  by_cases h₁ : s = .ofPrefix 1#96
  · rw [h₁]
    decide
  · by_cases h₂ : s = .ofPrefix 2#96
    · rw [h₂]
      decide
    · simp [callsOf, Operation.spokesman, h₁, h₂]

end DiscoveryServer
