import DiscoveryServer.Manager
import DiscoveryServer.Spokesman

/-!
# Discovery callbacks

`on_participant_discovery`, `on_data_reader_discovery` and
`on_data_writer_discovery` run on threads of Fast DDS. Each checks that its
participant is still known, reads the clock, notes the time of the callback and
then updates the database. The check and the note hold `management_mutex`, the
update holds `database_mutex`; in between other threads may run, so a callback is
a sequence of atomic steps (`Callback.step`).
-/

namespace DiscoveryServer

inductive ParticipantDiscoveryStatus where
  | discoveredParticipant
  | changedQosParticipant
  | removedParticipant
  | droppedParticipant
deriving DecidableEq

/-- `ReaderDiscoveryStatus` and `WriterDiscoveryStatus`. -/
inductive EndpointDiscoveryStatus where
  | discovered
  | changedQos
  | removed
deriving DecidableEq

/-- What a callback reports. -/
inductive DiscoveryNotice where
  | participant (status : ParticipantDiscoveryStatus) (guid : Guid) (participantName : String)
  | endpoint (kind : ReaderWriter) (reason : EndpointDiscoveryStatus)
      (guid participantGuid : Guid) (typeName topicName : String)
deriving DecidableEq

/-- A call of the listener for a participant. -/
structure Callback where
  participant : DomainParticipant
  notice : DiscoveryNotice
deriving DecidableEq

/-- How far a callback has got, with its local variables. -/
inductive Callback.Progress where
  | entered
  /-- The participant is known. -/
  | known
  | timed (callbackTime : TimePoint)
  /-- The time is noted; `server` tells whether a server was reported. -/
  | noted (callbackTime : TimePoint) (server : Bool)
  | returned
deriving DecidableEq

namespace Callback

/-- Store the time of the callback and see whether the participant is a server. -/
def note (c : Callback) (m : DiscoveryServerManager) (callbackTime : TimePoint) :
    DiscoveryServerManager × Bool :=
  match c.notice with
  | .participant _ guid _ =>
    -- DiscoveryServerManager info still valid?
    ({ m with lastPDPCallback := callbackTime },
      !m.noCallbacks && (m.servers.get? guid).isSome)
  | .endpoint .. => ({ m with lastEDPCallback := callbackTime }, false)

/-- The operation on the database, if there is one. -/
def operation (c : Callback) (callbackTime : TimePoint) (server : Bool) : Option Operation :=
  let srcGuid := c.participant.guid
  let srcName := c.participant.name
  match c.notice with
  | .participant .discoveredParticipant guid name =>
    some (.addParticipant srcGuid srcName guid name callbackTime server)
  | .participant .removedParticipant guid _ => some (.removeParticipant srcGuid guid)
  | .participant .droppedParticipant guid _ => some (.removeParticipant srcGuid guid)
  | .participant .changedQosParticipant _ _ => none
  | .endpoint .dataReader .discovered guid partid typeName topicName =>
    some (.addDataReader srcGuid srcName partid guid typeName topicName callbackTime)
  | .endpoint .dataReader .removed guid partid _ _ => some (.removeDataReader srcGuid partid guid)
  | .endpoint .dataWriter .discovered guid partid typeName topicName =>
    some (.addDataWriter srcGuid srcName partid guid typeName topicName callbackTime)
  | .endpoint .dataWriter .removed guid partid _ _ => some (.removeDataWriter srcGuid partid guid)
  | .endpoint _ .changedQos _ _ _ _ => none

/-- The database after an operation, if there is one. -/
def update (m : DiscoveryServerManager) (now : TimePoint) (op : Option Operation) :
    DiscoveryServerManager :=
  match op with
  | none => m
  | some op => { m with state := m.state.step ⟨now, op⟩ }

/-- The next atomic step of a callback; `now` is the clock reading taken in it. -/
def step (c : Callback) (m : DiscoveryServerManager) (now : TimePoint) :
    Progress → DiscoveryServerManager × Progress
  | .entered =>
    -- if the callback origin was removed ignore
    match m.getParticipant c.participant.guid with
    | none => (m, .returned)
    | some _ => (m, .known)
  | .known => (m, .timed now)
  | .timed callbackTime =>
    let (m, server) := c.note m callbackTime
    (m, .noted callbackTime server)
  | .noted callbackTime server => (update m now (c.operation callbackTime server), .returned)
  | .returned => (m, .returned)

/-- The next step holds `management_mutex`. -/
def Progress.locks : Progress → Bool
  | .entered => true
  | .timed _ => true
  | _ => false

/-- A callback works on the database of its own participant. -/
theorem spokesman_operation {c : Callback} {t : TimePoint} {server : Bool} {op : Operation}
    (h : c.operation t server = some op) :
    op.spokesman = c.participant.guid ∧ ∀ g, op ≠ .removeSpokesman g := by
  unfold operation at h
  dsimp only at h
  split at h <;> first | (cases h; exact ⟨rfl, nofun⟩) | cases h

/-- A step of a callback changes the database in its last step only. -/
theorem state_step (c : Callback) (m : DiscoveryServerManager) (now : TimePoint)
    (progress : Progress) :
    (c.step m now progress).1.state =
      match progress with
      | .noted t server => (update m now (c.operation t server)).state
      | _ => m.state := by
  cases progress with
  | entered =>
    unfold step
    dsimp only
    cases m.getParticipant c.participant.guid <;> rfl
  | known => rfl
  | timed t =>
    unfold step note
    dsimp only
    cases c.notice <;> rfl
  | noted t server => rfl
  | returned => rfl

end Callback

end DiscoveryServer
