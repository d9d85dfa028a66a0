import DiscoveryServer.Destruction
import DiscoveryServer.Execution

/-!
# A manager while its participants call back

`runEvents` creates participants, removes them and takes snapshots on one thread.
Every participant it has created calls its listener on threads of Fast DDS, so any
number of callbacks may be under way. `Session.step` is one step of either side: the
thread of `runEvents` stops wherever it lets go of `management_mutex`, a callback goes
from one of its atomic steps to the next.

What a step does to the database is a call of one operation (`state_step`); the times
of the last callbacks change in the steps of callbacks only (`main_spec`).
-/

namespace DiscoveryServer

open Library

/-- How far the thread of `runEvents` has got with the event it executes. -/
inductive Session.Progress where
  /-- Between two events. -/
  | idle
  /-- A participant is created, and no map files it. -/
  | created (role : ParticipantRole) (p : DomainParticipant) (info : ParticipantCreatedEntityInfo)
  /-- `participant_creation_function` has filed the participant. -/
  | filed (p : DomainParticipant) (info : ParticipantCreatedEntityInfo)
  /-- In `removeParticipant`, holding `management_mutex`. -/
  | databaseRemoved (id : Guid)
  /-- Back from `removeParticipant` with a participant. -/
  | removed (p : DomainParticipant)

/-- The manager, the event being executed, the participants that call their
listeners, and the callbacks started. -/
structure Session where
  manager : DiscoveryServerManager
  progress : Session.Progress
  listening : List DomainParticipant
  callbacks : List (Callback × Callback.Progress)

namespace Session

/-- What the events that create and remove endpoints ask of the manager. -/
inductive Request where
  | getPubSubEntityFromParticipantGuid (kind : ReaderWriter) (id : Guid)
  | setParticipantTopic (p : Option DomainParticipant) (t : Option Topic)
  | setDomainEntityTopic (entity : Option Endpoint) (t : Option Topic)
  | addEndpoint (kind : ReaderWriter) (e : Option Endpoint)
  | removeEndpoint (kind : ReaderWriter) (id : Guid)

def Request.execute (m : DiscoveryServerManager) : Request → DiscoveryServerManager
  | .getPubSubEntityFromParticipantGuid kind id =>
    (DiscoveryServerManager.getPubSubEntityFromParticipantGuid kind m id).1
  | .setParticipantTopic p t => m.setParticipantTopic p t
  | .setDomainEntityTopic entity t => m.setDomainEntityTopic entity t
  | .addEndpoint kind e => DiscoveryServerManager.addEndpoint kind m e
  | .removeEndpoint kind id => (DiscoveryServerManager.removeEndpoint kind m id).1

inductive Action where
  /-- `create_participant` returns a participant, which gets what it is to have. -/
  | create (role : ParticipantRole) (p : DomainParticipant) (publisher subscriber : Bool)
  /-- `removeParticipant` drops the database. -/
  | destroy (id : Guid)
  /-- The thread goes on with the creation or the destruction it is in. -/
  | proceed
  | request (r : Request)
  | takeSnapshot (tp : TimePoint) (desc : String) (someone showLiveliness : Bool)
  /-- A participant calls its listener. -/
  | enter (p : DomainParticipant) (notice : DiscoveryNotice)
  /-- A callback takes its next step. -/
  | advance (i : Nat) (now : TimePoint)
  /-- `on_liveliness_changed`. -/
  | changeLiveliness (now : TimePoint) (reader : Guid) (alive notAlive : Int)

/-- The thread of `runEvents` goes on, up to the next point another thread can run. -/
def proceed (s : Session) : Option Session :=
  match s.progress with
  | .idle => none
  | .created role p info =>
    some { s with manager := role.creationFunction s.manager p, progress := .filed p info }
  | .filed p info =>
    some { s with manager := s.manager.setParticipantInfo p.guid info, progress := .idle }
  | .databaseRemoved id =>
    let (m, p) := s.manager.removeEntities id
    match p with
    | none => some { s with manager := m, progress := .idle }
    | some p => some { s with manager := m, progress := .removed p }
  | .removed p =>
    some { s with
      manager := { s.manager with entityMap := s.manager.entityMap.erase p.guid }
      progress := .idle
      listening := s.listening.erase p }

/-- The thread of `runEvents` starts something. -/
def whenIdle (s : Session) (next : Session) : Option Session :=
  match s.progress with
  | .idle => some next
  | _ => none

/-- `management_mutex` is held across steps. -/
def Progress.locks : Progress → Bool
  | .databaseRemoved _ => true
  | _ => false

/-- A callback takes its next step, unless the mutex it needs is taken. -/
def advance (s : Session) (i : Nat) (now : TimePoint) : Option Session :=
  match s.callbacks[i]? with
  | none => none
  | some (c, progress) =>
    if s.progress.locks ∧ progress.locks then none
    else
      let (m, progress) := c.step s.manager now progress
      some { s with manager := m, callbacks := s.callbacks.set i (c, progress) }

def step (s : Session) : Action → Option Session
  | .create role p publisher subscriber =>
    let info : ParticipantCreatedEntityInfo :=
      { participant := some p
        publisher := if publisher then some ⟨.dataWriter, p⟩ else none
        subscriber := if subscriber then some ⟨.dataReader, p⟩ else none }
    s.whenIdle { s with progress := .created role p info, listening := p :: s.listening }
  | .destroy id =>
    s.whenIdle { s with manager := s.manager.removeDatabase id, progress := .databaseRemoved id }
  | .proceed => s.proceed
  | .request r => s.whenIdle { s with manager := r.execute s.manager }
  | .takeSnapshot tp desc someone showLiveliness =>
    s.whenIdle { s with manager := (s.manager.takeSnapshot tp desc someone showLiveliness).1 }
  | .enter p notice =>
    if p ∈ s.listening then
      some { s with callbacks := s.callbacks ++ [(⟨p, notice⟩, .entered)] }
    else none
  | .advance i now => s.advance i now
  | .changeLiveliness now reader alive notAlive =>
    let state := s.manager.state.step ⟨now, .updateSubLiveliness reader alive notAlive⟩
    some { s with manager := { s.manager with state := state } }

/-- Before the first event. -/
def start (m : DiscoveryServerManager) : Session := ⟨m, .idle, [], []⟩

/-- No callback is in progress. -/
def Quiet (s : Session) : Prop := ∀ c ∈ s.callbacks, c.2 = .returned

/-- The operation on the database that a step performs. -/
def call (s : Session) : Action → Option Call
  | .destroy id => some ⟨0, .removeSpokesman id⟩
  | .advance i now =>
    match s.callbacks[i]? with
    | some (c, .noted callbackTime server) =>
      (c.operation callbackTime server).map fun op => ⟨now, op⟩
    | _ => none
  | .changeLiveliness now reader alive notAlive =>
    some ⟨now, .updateSubLiveliness reader alive notAlive⟩
  | _ => none

/-! ## One step -/

/-- What the thread of `runEvents` leaves alone most of the time: the database and
the times of the last callbacks. -/
structure SameNews (m m' : DiscoveryServerManager) : Prop where
  state : m'.state = m.state
  lastPDPCallback : m'.lastPDPCallback = m.lastPDPCallback
  lastEDPCallback : m'.lastEDPCallback = m.lastEDPCallback

theorem SameNews.refl (m : DiscoveryServerManager) : SameNews m m := ⟨rfl, rfl, rfl⟩

theorem sameNews_creationFunction (role : ParticipantRole) (m : DiscoveryServerManager)
    (p : DomainParticipant) : SameNews m (role.creationFunction m p) := by
  cases role with
  | server => exact ⟨rfl, rfl, rfl⟩
  | client => exact ⟨rfl, rfl, rfl⟩
  | simple => exact ⟨rfl, rfl, rfl⟩

theorem sameNews_unfile (m : DiscoveryServerManager) (id : Guid) : SameNews m (m.unfile id) := by
  unfold DiscoveryServerManager.unfile
  cases m.clients.get? id with
  | some c => exact ⟨rfl, rfl, rfl⟩
  | none =>
    cases m.servers.get? id with
    | some c => exact ⟨rfl, rfl, rfl⟩
    | none => exact ⟨rfl, rfl, rfl⟩

theorem sameNews_setEndpoints (m : DiscoveryServerManager) (kind : ReaderWriter)
    (endpoints : OrdMap Guid Endpoint) : SameNews m (m.setEndpoints kind endpoints) := by
  cases kind with
  | dataReader => exact ⟨rfl, rfl, rfl⟩
  | dataWriter => exact ⟨rfl, rfl, rfl⟩

theorem sameNews_setParticipantTopic (m : DiscoveryServerManager) (p : Option DomainParticipant)
    (t : Option Topic) : SameNews m (m.setParticipantTopic p t) := by
  cases p with
  | none => exact .refl m
  | some p =>
    cases t with
    | none => exact .refl m
    | some t =>
      unfold DiscoveryServerManager.setParticipantTopic
      dsimp only
      cases m.entityMap.get? p.guid with
      | none => exact .refl m
      | some info => exact ⟨rfl, rfl, rfl⟩

theorem sameNews_request (m : DiscoveryServerManager) (r : Request) :
    SameNews m (r.execute m) := by
  cases r with
  | getPubSubEntityFromParticipantGuid kind id => exact ⟨rfl, rfl, rfl⟩
  | setParticipantTopic p t => exact sameNews_setParticipantTopic m p t
  | setDomainEntityTopic entity t =>
    cases entity with
    | none => exact .refl m
    | some entity =>
      cases t with
      | none => exact .refl m
      | some t => exact ⟨rfl, rfl, rfl⟩
  | addEndpoint kind e =>
    cases e with
    | none => exact .refl m
    | some e => exact sameNews_setEndpoints m kind _
  | removeEndpoint kind id =>
    unfold Request.execute DiscoveryServerManager.removeEndpoint
    dsimp only
    cases (m.endpoints kind).get? id with
    | none => exact .refl m
    | some e => exact sameNews_setEndpoints m kind _

variable {s s' : Session} {a : Action}

theorem whenIdle_eq_some {next : Session} (h : s.whenIdle next = some s') : s' = next := by
  unfold whenIdle at h
  cases hprogress : s.progress with
  | idle =>
    rw [hprogress] at h
    exact (Option.some.inj h).symm
  | _ =>
    rw [hprogress] at h
    cases h

/-- Going on with a creation or a destruction concerns the maps only. -/
theorem proceed_spec (h : s.proceed = some s') :
    SameNews s.manager s'.manager ∧ s'.callbacks = s.callbacks := by
  unfold proceed at h
  cases hprogress : s.progress with
  | idle =>
    rw [hprogress] at h
    cases h
  | created role p info =>
    rw [hprogress] at h
    cases h
    exact ⟨sameNews_creationFunction role s.manager p, rfl⟩
  | filed p info =>
    rw [hprogress] at h
    cases h
    exact ⟨⟨rfl, rfl, rfl⟩, rfl⟩
  | databaseRemoved id =>
    rw [hprogress] at h
    have hunfile : SameNews s.manager (s.manager.removeEntities id).1 :=
      { sameNews_unfile _ id with }
    dsimp only at h
    cases hp : (s.manager.removeEntities id).2 with
    | none =>
      rw [hp] at h
      cases h
      exact ⟨hunfile, rfl⟩
    | some p =>
      rw [hp] at h
      cases h
      exact ⟨hunfile, rfl⟩
  | removed p =>
    rw [hprogress] at h
    cases h
    exact ⟨⟨rfl, rfl, rfl⟩, rfl⟩

/-- The step of a callback. -/
theorem advance_spec {i : Nat} {now : TimePoint} (h : s.advance i now = some s') :
    ∃ c progress, s.callbacks[i]? = some (c, progress) ∧
      s'.manager = (c.step s.manager now progress).1 ∧
      s'.callbacks = s.callbacks.set i (c, (c.step s.manager now progress).2) := by
  unfold advance at h
  cases hc : s.callbacks[i]? with
  | none =>
    rw [hc] at h
    cases h
  | some entry =>
    obtain ⟨c, progress⟩ := entry
    rw [hc] at h
    dsimp only at h
    by_cases hlock : s.progress.locks = true ∧ progress.locks = true
    · rw [if_pos hlock] at h
      cases h
    · rw [if_neg hlock] at h
      cases h
      exact ⟨c, progress, rfl, rfl, rfl⟩

/-- All other steps: at most one operation on the database, the times of the last
callbacks as they were, and callbacks only just entered added. -/
theorem main_spec (h : s.step a = some s') (ha : ∀ i now, a ≠ .advance i now) :
    s'.manager.state = (s.call a).elim s.manager.state s.manager.state.step ∧
      s'.manager.lastPDPCallback = s.manager.lastPDPCallback ∧
      s'.manager.lastEDPCallback = s.manager.lastEDPCallback ∧
      ∃ entered : List Callback,
        s'.callbacks = s.callbacks ++ entered.map fun c => (c, .entered) := by
  have hnone : s.callbacks = s.callbacks ++
      ([] : List Callback).map fun c => (c, Callback.Progress.entered) :=
    (List.append_nil _).symm
  cases a with
  | create role p publisher subscriber =>
    rw [whenIdle_eq_some h]
    exact ⟨rfl, rfl, rfl, [], hnone⟩
  | destroy id =>
    rw [whenIdle_eq_some h]
    exact ⟨rfl, rfl, rfl, [], hnone⟩
  | proceed =>
    obtain ⟨hsame, hcallbacks⟩ := proceed_spec h
    exact ⟨hsame.state, hsame.lastPDPCallback, hsame.lastEDPCallback, [],
      hcallbacks.trans hnone⟩
  | request r =>
    rw [whenIdle_eq_some h]
    have hsame := sameNews_request s.manager r
    exact ⟨hsame.state, hsame.lastPDPCallback, hsame.lastEDPCallback, [], hnone⟩
  | takeSnapshot tp desc someone showLiveliness =>
    rw [whenIdle_eq_some h]
    exact ⟨rfl, rfl, rfl, [], hnone⟩
  | enter p notice =>
    obtain ⟨_, hs'⟩ := Option.ite_none_right_eq_some.mp h
    cases hs'
    exact ⟨rfl, rfl, rfl, [⟨p, notice⟩], rfl⟩
  | advance i now => exact absurd rfl (ha i now)
  | changeLiveliness now reader alive notAlive =>
    cases h
    exact ⟨rfl, rfl, rfl, [], hnone⟩

/-- **The database changes by one operation at a time.** -/
theorem state_step (h : s.step a = some s') :
    s'.manager.state = (s.call a).elim s.manager.state s.manager.state.step := by
  by_cases ha : ∃ i now, a = .advance i now
  · obtain ⟨i, now, rfl⟩ := ha
    obtain ⟨c, progress, hc, hmanager, _⟩ := advance_spec h
    rw [hmanager, Callback.state_step]
    simp only [call, hc]
    cases progress with
    | noted t server =>
      dsimp only
      cases c.operation t server with
      | none => rfl
      | some op => rfl
    | _ => rfl
  · exact (main_spec h fun i now hi => ha ⟨i, now, hi⟩).1

end Session

end DiscoveryServer
