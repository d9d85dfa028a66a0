import DiscoveryServer.Callbacks
import DiscoveryServer.Library.Run
import DiscoveryServer.Spokesman

/-!
# Destroying a participant while its callbacks run

`DelayedParticipantDestruction` calls `removeParticipant`, which drops the
database of the participant, and then `deleteParticipant`. Callbacks of the
participant check `getParticipant` in one critical section and update the database
in another, and `getParticipant` finds the participant in `entity_map` until
`deleteParticipant` has erased it there. `Destruction.step` is one step of either
side.

`no_database_iff` says what is left at the end: nothing exactly when no callback
has made an update that creates a database after the database was dropped.
-/

namespace DiscoveryServer

open Library

/-- How far the destroying thread has got. -/
inductive Destruction.Progress where
  | ready
  /-- In `removeParticipant`, holding `management_mutex`. -/
  | databaseRemoved
  /-- Back from `removeParticipant` with a participant. -/
  | removed (p : DomainParticipant)
  /-- The listener is cleared and `entity_map` has forgotten the participant. -/
  | forgotten (p : DomainParticipant)
  | destroyed
deriving DecidableEq

/-- A participant being destroyed: the manager, whether it still calls its
listener, and the callbacks started. -/
structure Destruction where
  manager : DiscoveryServerManager
  listening : Bool
  progress : Destruction.Progress
  callbacks : List (Callback × Callback.Progress)

namespace Destruction

inductive Action where
  /-- The destroying thread takes its next step. -/
  | destroy
  /-- The participant calls its listener. -/
  | enter (notice : DiscoveryNotice)
  /-- A callback takes its next step. -/
  | advance (i : Nat) (now : TimePoint)
deriving DecidableEq

/-- `DelayedParticipantDestruction::operator ()`, up to the next point another
thread can run. -/
def destroy (id : Guid) (s : Destruction) : Option Destruction :=
  match s.progress with
  | .ready =>
    some { s with manager := s.manager.removeDatabase id, progress := .databaseRemoved }
  | .databaseRemoved =>
    let (m, p) := s.manager.removeEntities id
    match p with
    | none => some { s with manager := m, progress := .destroyed }
    | some p => some { s with manager := m, progress := .removed p }
  | .removed p =>
    some { s with
      manager := { s.manager with entityMap := s.manager.entityMap.erase p.guid }
      listening := false
      progress := .forgotten p }
  | .forgotten _ => some { s with progress := .destroyed }
  | .destroyed => none

/-- A callback takes its next step, unless the mutex it needs is taken. -/
def advance (s : Destruction) (i : Nat) (now : TimePoint) : Option Destruction :=
  match s.callbacks[i]? with
  | none => none
  | some (c, progress) =>
    if s.progress = .databaseRemoved ∧ progress.locks then none
    else
      let (m, progress) := c.step s.manager now progress
      some { s with manager := m, callbacks := s.callbacks.set i (c, progress) }

/-- One step of the destruction of `p` or of its callbacks. -/
def step (p : DomainParticipant) (s : Destruction) : Action → Option Destruction
  | .destroy => s.destroy p.guid
  | .enter notice =>
    if s.listening then
      some { s with callbacks := s.callbacks ++ [(⟨p, notice⟩, .entered)] }
    else none
  | .advance i now => s.advance i now

/-- Before the destruction, and before any callback. -/
def start (m : DiscoveryServerManager) : Destruction := ⟨m, true, .ready, []⟩

/-- The destruction is over and all callbacks have returned. -/
def Completed (s : Destruction) : Prop :=
  s.progress = .destroyed ∧ ∀ c ∈ s.callbacks, c.2 = .returned

/-- A database is there after the operation, whether or not there was one. -/
def creates : Operation → Bool
  | .addParticipant .. => true
  | .removeParticipant .. => true
  | .addDataReader .. => true
  | .addDataWriter .. => true
  | _ => false

/-- The step is a late update: the database has been dropped, and a callback is
about to make an update that creates one. -/
def Late (s : Destruction) (a : Action) : Prop :=
  s.progress ≠ .ready ∧ ∃ i now c callbackTime server op, a = .advance i now ∧
    s.callbacks[i]? = some (c, .noted callbackTime server) ∧
      c.operation callbackTime server = some op ∧ creates op = true

/-- A run with a late update. -/
def LateUpdate (p : DomainParticipant) (s : Destruction) (actions : List Action) : Prop :=
  ∃ done a rest t, actions = done ++ a :: rest ∧ run? (step p) s done = some t ∧ t.Late a

/-! ## One step -/

/-- What an operation of a callback leaves of the database of its spokesman. -/
theorem act_eq_none_iff (now : TimePoint) {op : Operation} (hop : ∀ g, op ≠ .removeSpokesman g)
    (d : Option ParticipantDiscoveryDatabase) :
    Call.act ⟨now, op⟩ d = none ↔ d = none ∧ creates op = false := by
  cases op with
  | removeSpokesman g => exact absurd rfl (hop g)
  | addParticipant => simp [Call.act, creates]
  | removeParticipant => simp [Call.act, creates]
  | addDataReader => simp [Call.act, creates]
  | addDataWriter => simp [Call.act, creates]
  | removeDataReader => simp [Call.act, creates]
  | removeDataWriter => simp [Call.act, creates]
  | updateSubLiveliness => simp [Call.act, creates]

/-- The database of the participant being destroyed. -/
def database (p : DomainParticipant) (s : Destruction) : Option ParticipantDiscoveryDatabase :=
  s.manager.state.databaseOf p.guid

/-- The callbacks are callbacks of `p`. -/
def Own (p : DomainParticipant) (s : Destruction) : Prop :=
  ∀ c ∈ s.callbacks, c.1.participant = p

variable {p : DomainParticipant} {s s' : Destruction} {a : Action}

theorem state_unfile (m : DiscoveryServerManager) (id : Guid) : (m.unfile id).state = m.state := by
  unfold DiscoveryServerManager.unfile
  cases m.clients.get? id with
  | some c => rfl
  | none => cases m.servers.get? id <;> rfl

/-- The steps of the destroying thread: the first one drops the database. -/
theorem destroy_spec (h : s.destroy p.guid = some s') :
    s'.callbacks = s.callbacks ∧ s'.progress ≠ .ready ∧
      s'.database p = if s.progress = .ready then none else s.database p := by
  unfold destroy at h
  cases hprogress : s.progress with
  | ready =>
    rw [hprogress] at h
    cases h
    refine ⟨rfl, nofun, ?_⟩
    rw [if_pos rfl]
    show (s.manager.state.image.databases.erase p.guid).find? p.guid = none
    rw [OrdSet.find?_erase, if_pos rfl]
  | databaseRemoved =>
    rw [hprogress] at h
    have hstate : (s.manager.removeEntities p.guid).1.state = s.manager.state := state_unfile _ _
    rw [if_neg nofun]
    dsimp only at h
    cases hp : (s.manager.removeEntities p.guid).2 with
    | none =>
      rw [hp] at h
      cases h
      exact ⟨rfl, nofun, congrArg (DiscoveryItemDatabase.databaseOf p.guid) hstate⟩
    | some q =>
      rw [hp] at h
      cases h
      exact ⟨rfl, nofun, congrArg (DiscoveryItemDatabase.databaseOf p.guid) hstate⟩
  | removed q =>
    rw [hprogress] at h
    cases h
    exact ⟨rfl, nofun, rfl⟩
  | forgotten q =>
    rw [hprogress] at h
    cases h
    exact ⟨rfl, nofun, rfl⟩
  | destroyed =>
    rw [hprogress] at h
    cases h

/-- What the last step of a callback leaves of the database. -/
theorem database_update (c : Callback) (m : DiscoveryServerManager) (now t : TimePoint)
    (server : Bool) :
    (Callback.update m now (c.operation t server)).state.databaseOf c.participant.guid = none ↔
      m.state.databaseOf c.participant.guid = none ∧
        ¬ ∃ op, c.operation t server = some op ∧ creates op = true := by
  cases hop : c.operation t server with
  | none => simp [Callback.update]
  | some op =>
    obtain ⟨hspokesman, hkind⟩ := Callback.spokesman_operation hop
    show (m.state.step ⟨now, op⟩).databaseOf c.participant.guid = none ↔ _
    rw [DiscoveryItemDatabase.databaseOf_step, if_pos hspokesman.symm, act_eq_none_iff now hkind]
    simp

/-- A callback that takes a step is late exactly if it stands before an update that
creates a database. -/
theorem late_advance_iff (hprogress : s.progress ≠ .ready) {i : Nat} {now : TimePoint}
    {c : Callback} {progress : Callback.Progress} (hc : s.callbacks[i]? = some (c, progress)) :
    s.Late (.advance i now) ↔ ∃ t server op, progress = .noted t server ∧
      c.operation t server = some op ∧ creates op = true := by
  constructor
  · rintro ⟨_, _, _, c', t, server, op, ⟨⟩, hc', hop, hcreates⟩
    rw [hc] at hc'
    cases hc'
    exact ⟨t, server, op, rfl, hop, hcreates⟩
  · rintro ⟨t, server, op, rfl, hop, hcreates⟩
    exact ⟨hprogress, i, now, c, t, server, op, rfl, hc, hop, hcreates⟩

/-- The steps of the callbacks: only a creating update makes a database. -/
theorem advance_spec {i : Nat} {now : TimePoint} (hown : s.Own p) (h : s.advance i now = some s') :
    s'.Own p ∧ s'.progress = s.progress ∧
      (s.progress ≠ .ready →
        (s'.database p = none ↔ s.database p = none ∧ ¬ s.Late (.advance i now))) := by
  unfold advance at h
  cases hc : s.callbacks[i]? with
  | none =>
    rw [hc] at h
    cases h
  | some entry =>
    obtain ⟨c, progress⟩ := entry
    rw [hc] at h
    have hcp : c.participant = p := hown _ (List.mem_of_getElem? hc)
    dsimp only at h
    by_cases hlock : s.progress = .databaseRemoved ∧ progress.locks = true
    · rw [if_pos hlock] at h
      cases h
    · rw [if_neg hlock] at h
      cases h
      refine ⟨?_, rfl, fun hprogress => ?_⟩
      · intro d hd
        rcases List.mem_or_eq_of_mem_set hd with hd | rfl
        · exact hown d hd
        · exact hcp
      · show ((c.step s.manager now progress).1.state.databaseOf p.guid = none) ↔ _
        rw [Callback.state_step, late_advance_iff hprogress hc]
        cases progress with
        | noted t server =>
          rw [← hcp, database_update]
          refine and_congr_right fun _ => not_congr ⟨?_, ?_⟩
          · rintro ⟨op, hop, hcreates⟩
            exact ⟨t, server, op, rfl, hop, hcreates⟩
          · rintro ⟨_, _, op, ⟨⟩, hop, hcreates⟩
            exact ⟨op, hop, hcreates⟩
        | entered => simp [database]
        | known => simp [database]
        | timed t => simp [database]
        | returned => simp [database]

/-- **One step.** Once the database is dropped, it stays dropped until a late
update. -/
theorem step_spec (hown : s.Own p) (h : step p s a = some s') :
    s'.Own p ∧ (s.progress = .ready → s'.progress ≠ .ready → s'.database p = none) ∧
      (s.progress ≠ .ready →
        s'.progress ≠ .ready ∧ (s'.database p = none ↔ s.database p = none ∧ ¬ s.Late a)) := by
  cases a with
  | destroy =>
    obtain ⟨hcallbacks, hprogress, hdatabase⟩ := destroy_spec h
    refine ⟨?_, fun hready _ => ?_, fun hready => ⟨hprogress, ?_⟩⟩
    · unfold Own
      rw [hcallbacks]
      exact hown
    · rw [hdatabase, if_pos hready]
    · rw [hdatabase, if_neg hready]
      refine ⟨fun hnone => ⟨hnone, ?_⟩, And.left⟩
      rintro ⟨_, i, now, c, t, server, op, heq, _⟩
      cases heq
  | enter notice =>
    unfold step at h
    dsimp only at h
    by_cases hlistening : s.listening = true
    · rw [if_pos hlistening] at h
      cases h
      refine ⟨?_, fun hready hnot => absurd hready hnot, fun hready => ⟨hready, ?_⟩⟩
      · intro c hc
        rcases List.mem_append.mp hc with hc | hc
        · exact hown c hc
        · rw [List.mem_singleton.mp hc]
      · refine ⟨fun hnone => ⟨hnone, ?_⟩, And.left⟩
        rintro ⟨_, i, now, c, t, server, op, heq, _⟩
        cases heq
    · rw [if_neg hlistening] at h
      cases h
  | advance i now =>
    obtain ⟨hown', hprogress, hdatabase⟩ := advance_spec hown h
    refine ⟨hown', fun hready hnot => absurd (hprogress.trans hready) hnot, fun hready => ⟨?_, ?_⟩⟩
    · rw [hprogress]
      exact hready
    · exact hdatabase hready

/-! ## Runs -/

theorem lateUpdate_nil : ¬ LateUpdate p s [] := by
  rintro ⟨done, a, rest, t, heq, _⟩
  exact absurd heq.symm (List.append_ne_nil_of_right_ne_nil done (List.cons_ne_nil a rest))

theorem lateUpdate_cons (h : step p s a = some s') (actions : List Action) :
    LateUpdate p s (a :: actions) ↔ s.Late a ∨ LateUpdate p s' actions := by
  constructor
  · rintro ⟨done, b, rest, t, heq, hrun, hlate⟩
    cases done with
    | nil =>
      obtain ⟨rfl, _⟩ := List.cons.inj heq
      cases hrun
      exact .inl hlate
    | cons c done =>
      obtain ⟨rfl, htail⟩ := List.cons.inj heq
      obtain ⟨s'', hs'', hrun⟩ := Option.bind_eq_some_iff.mp hrun
      rw [h] at hs''
      cases hs''
      exact .inr ⟨done, b, rest, t, htail, hrun, hlate⟩
  · rintro (hlate | ⟨done, b, rest, t, rfl, hrun, hlate⟩)
    · exact ⟨[], a, actions, s, rfl, rfl, hlate⟩
    · exact ⟨a :: done, b, rest, t, rfl, Option.bind_eq_some_iff.mpr ⟨s', h, hrun⟩, hlate⟩

/-- From a state in which the database has been dropped already. -/
theorem database_run {t : Destruction} {actions : List Action} (hown : s.Own p)
    (hprogress : s.progress ≠ .ready) (hrun : run? (step p) s actions = some t) :
    t.database p = none ↔ s.database p = none ∧ ¬ LateUpdate p s actions := by
  induction actions generalizing s with
  | nil =>
    cases hrun
    exact ⟨fun hnone => ⟨hnone, lateUpdate_nil⟩, And.left⟩
  | cons a actions ih =>
    obtain ⟨s', hs', hrest⟩ := Option.bind_eq_some_iff.mp hrun
    obtain ⟨hown', _, hafter⟩ := step_spec hown hs'
    obtain ⟨hprogress', hdatabase⟩ := hafter hprogress
    rw [ih hown' hprogress' hrest, hdatabase, lateUpdate_cons hs', not_or, and_assoc]

/-- From a state in which it has not, to one in which it has. -/
theorem database_run_of_ready {t : Destruction} {actions : List Action} (hown : s.Own p)
    (hready : s.progress = .ready) (hrun : run? (step p) s actions = some t)
    (hprogress : t.progress ≠ .ready) :
    t.database p = none ↔ ¬ LateUpdate p s actions := by
  induction actions generalizing s with
  | nil =>
    cases hrun
    exact absurd hready hprogress
  | cons a actions ih =>
    obtain ⟨s', hs', hrest⟩ := Option.bind_eq_some_iff.mp hrun
    obtain ⟨hown', hdrop, _⟩ := step_spec hown hs'
    have hnot : ¬ s.Late a := fun hlate => hlate.1 hready
    rw [lateUpdate_cons hs', or_iff_right hnot]
    by_cases hready' : s'.progress = .ready
    · exact ih hown' hready' hrest
    · rw [database_run hown' hready' hrest, and_iff_right (hdrop hready hready')]

end Destruction

/-- **What a destroyed participant leaves behind.** In every run that ends with
the participant destroyed and all its callbacks returned, there is no database of
it exactly when no late update has been made. -/
theorem no_database_iff (p : DomainParticipant) (m : DiscoveryServerManager)
    (actions : List Destruction.Action) (s : Destruction)
    (hrun : run? (Destruction.step p) (.start m) actions = some s) (hcompleted : s.Completed) :
    s.manager.state.databaseOf p.guid = none ↔ ¬ Destruction.LateUpdate p (.start m) actions := by
  refine Destruction.database_run_of_ready (nofun : (Destruction.start m).Own p) rfl hrun ?_
  rw [hcompleted.1]
  exact nofun

/-- A client as it is while it runs. -/
def sampleClient : DomainParticipant := ⟨0, .ofPrefix 1, "client"⟩

def managerOfClient : DiscoveryServerManager :=
  ((DiscoveryServerManager.initial 0 0 0).addClient sampleClient).setParticipantInfo
    sampleClient.guid { participant := some sampleClient }

/-- A callback that has returned before the destruction starts. -/
def callbackFirst : List Destruction.Action :=
  [.enter (.participant .discoveredParticipant (.ofPrefix 2) "other"), .advance 0 0,
    .advance 0 0, .advance 0 0, .advance 0 0, .destroy, .destroy, .destroy, .destroy]

theorem no_database_iff_sample :
    ∃ s, run? (Destruction.step sampleClient) (.start managerOfClient) callbackFirst = some s ∧
      (s.manager.state.databaseOf sampleClient.guid = none ↔
        ¬ Destruction.LateUpdate sampleClient (.start managerOfClient) callbackFirst) := by
  refine ⟨_, rfl, no_database_iff sampleClient managerOfClient _ _ rfl ⟨rfl, ?_⟩⟩
  intro c hc
  rw [List.mem_singleton.mp hc]

/-- The callback has checked that its participant is known, the participant is
removed, and only then the callback gets to its update. -/
theorem database_outlives_participant : ¬ ∀ (p : DomainParticipant) (m : DiscoveryServerManager)
    (actions : List Destruction.Action) (s : Destruction),
    m.getParticipant p.guid = some p → run? (Destruction.step p) (.start m) actions = some s →
      s.Completed → s.manager.state.databaseOf p.guid = none := by
  intro h
  have hnone := h sampleClient managerOfClient
    [.enter (.participant .discoveredParticipant (.ofPrefix 2) "other"), .advance 0 0, .destroy,
      .destroy, .advance 0 0, .advance 0 0, .advance 0 0, .destroy, .destroy] _ rfl rfl
    ⟨rfl, fun c hc => by rw [List.mem_singleton.mp hc]⟩
  cases hnone

end DiscoveryServer
