import DiscoveryServer.Callbacks
import DiscoveryServer.Library.Run
import DiscoveryServer.Spokesman

/-!
# Creating a server while the others discover it

`DelayedParticipantCreation` calls `create_participant` and files the new server
with `addServer` afterwards. In between the listeners of the other participants may
report it already, and a callback that looks it up in `servers` then takes it for
no server. `AddParticipant` stores what the callback has found once, when it makes
the item live; while the item is live nothing corrects it.

`Recognition.step` is one step of the creating thread or of a callback.
`recognised_iff` says for every run when the live items are right: exactly if every
callback that has made one without the flag was followed by the removal of it.
-/

namespace DiscoveryServer

open Library

/-- How far the creating thread has got. -/
inductive Recognition.Progress where
  | ready
  /-- `create_participant` has created the server. -/
  | created
  /-- The server is in `servers`. -/
  | added
  /-- The server is in `entity_map` as well. -/
  | registered
deriving DecidableEq

/-- A server being created: the manager, and the callbacks started on the other
participants. -/
structure Recognition where
  manager : DiscoveryServerManager
  progress : Recognition.Progress
  callbacks : List (Callback × Callback.Progress)

/-- The participant a callback reports something about. -/
def DiscoveryNotice.subject : DiscoveryNotice → Guid
  | participant _ guid _ => guid
  | endpoint _ _ _ participantGuid _ _ => participantGuid

namespace Recognition

inductive Action where
  /-- The creating thread takes its next step. -/
  | create
  /-- A participant calls its listener. -/
  | enter (participant : DomainParticipant) (notice : DiscoveryNotice)
  /-- A callback takes its next step. -/
  | advance (i : Nat) (now : TimePoint)
deriving DecidableEq

/-- `DelayedParticipantCreation::operator ()` of the server, up to the next point
another thread can run. -/
def create (server : DomainParticipant) (s : Recognition) : Option Recognition :=
  match s.progress with
  | .ready => some { s with progress := .created }
  | .created => some { s with manager := s.manager.addServer server, progress := .added }
  | .added =>
    some { s with
      manager := s.manager.setParticipantInfo server.guid
        { participant := some server
          publisher := some ⟨.dataWriter, server⟩
          subscriber := some ⟨.dataReader, server⟩ }
      progress := .registered }
  | .registered => none

/-- The listener of another participant is called; nobody reports the server
before it is created. -/
def enter (server : DomainParticipant) (s : Recognition) (participant : DomainParticipant)
    (notice : DiscoveryNotice) : Option Recognition :=
  if participant.guid = server.guid then none
  else if notice.subject = server.guid ∧ s.progress = .ready then none
  else some { s with callbacks := s.callbacks ++ [(⟨participant, notice⟩, .entered)] }

/-- A callback takes its next step. -/
def advance (s : Recognition) (i : Nat) (now : TimePoint) : Option Recognition :=
  match s.callbacks[i]? with
  | none => none
  | some (c, progress) =>
    let (m, progress) := c.step s.manager now progress
    some { s with manager := m, callbacks := s.callbacks.set i (c, progress) }

/-- One step of the creation of `server` or of the callbacks of the others. -/
def step (server : DomainParticipant) (s : Recognition) : Action → Option Recognition
  | .create => s.create server
  | .enter participant notice => s.enter server participant notice
  | .advance i now => s.advance i now

/-- Before the creation, and before any callback. -/
def start (m : DiscoveryServerManager) : Recognition := ⟨m, .ready, []⟩

/-- The server is registered and all callbacks have returned. -/
def Completed (s : Recognition) : Prop :=
  s.progress = .registered ∧ ∀ c ∈ s.callbacks, c.2 = .returned

/-- The item of a participant in a database that may not exist. -/
def itemOf (g : Guid) (d : Option ParticipantDiscoveryDatabase) :
    Option ParticipantDiscoveryItem :=
  d.bind fun d => d.items.find? g

/-- The item of the server in the database of `q`. -/
def item (server : DomainParticipant) (q : Guid) (s : Recognition) :
    Option ParticipantDiscoveryItem :=
  itemOf server.guid (s.manager.state.databaseOf q)

/-- There is a live item. -/
def Live (it : Option ParticipantDiscoveryItem) : Prop := ∃ i ∈ it, i.isAlive = true

/-- There is a live item, and it is not known to be of a server. -/
def Unflagged (it : Option ParticipantDiscoveryItem) : Prop :=
  ∃ i ∈ it, i.isAlive = true ∧ i.isServer = false

/-- Every live item of the server in the database of another participant says that
it is a server. -/
def Recognised (server : DomainParticipant) (s : Recognition) : Prop :=
  ∀ q ≠ server.guid, ∀ it ∈ s.item server q, it.isAlive = true → it.isServer = true

/-- The callback reports that the participant has been discovered. -/
def Announces (g : Guid) (c : Callback) : Prop :=
  ∃ name, c.notice = .participant .discoveredParticipant g name

/-- The callback reports that the participant has gone. -/
def Buries (g : Guid) (c : Callback) : Prop :=
  ∃ status name, c.notice = .participant status g name ∧
    (status = .removedParticipant ∨ status = .droppedParticipant)

/-- The step updates the database of `q` with a report that the server has been
discovered, made by a callback that did not find it in `servers`; there is no live
item yet. -/
def Misses (server : DomainParticipant) (q : Guid) (s : Recognition) (a : Action) : Prop :=
  ¬ Live (s.item server q) ∧ ∃ i now c t, a = .advance i now ∧
    s.callbacks[i]? = some (c, .noted t false) ∧ c.participant.guid = q ∧ Announces server.guid c

/-- The step updates the database of `q` with a report that the server has gone. -/
def Withdraws (server : DomainParticipant) (q : Guid) (s : Recognition) (a : Action) : Prop :=
  ∃ i now c t flag, a = .advance i now ∧ s.callbacks[i]? = some (c, .noted t flag) ∧
    c.participant.guid = q ∧ Buries server.guid c

/-! ## What operations do to an item -/

theorem find?_databaseOr (s : Guid) (name : String) (d : Option ParticipantDiscoveryDatabase)
    (g : Guid) : (databaseOr s name d).items.find? g = itemOf g d := by
  cases d <;> rfl

theorem unflagged_some {i : ParticipantDiscoveryItem} :
    Unflagged (some i) ↔ i.isAlive = true ∧ i.isServer = false := by
  simp [Unflagged]

/-- Items with the same flags. -/
theorem unflagged_congr {i i' : ParticipantDiscoveryItem} (halive : i'.isAlive = i.isAlive)
    (hserver : i'.isServer = i.isServer) : Unflagged (some i') ↔ Unflagged (some i) := by
  rw [unflagged_some, unflagged_some, halive, hserver]

/-- The flag is stored when the item becomes live, and not touched while it is. -/
theorem unflagged_announced (now : TimePoint) (g : Guid) (name : String) (tp : TimePoint)
    (flag : Bool) (it : Option ParticipantDiscoveryItem) :
    Unflagged (some (announced now g name tp flag it)) ↔
      (¬ Live it ∧ flag = false) ∨ Unflagged it := by
  cases it with
  | none => simp [Unflagged, Live, announced, ParticipantDiscoveryDatabase.defaultItem]
  | some i =>
    cases halive : i.isAlive with
    | true => simp [Unflagged, Live, announced, halive]
    | false => simp [Unflagged, Live, announced, halive]

theorem not_unflagged_buried (it : Option ParticipantDiscoveryItem) :
    ¬ Unflagged (it.bind buried) := by
  rintro ⟨i, hi, halive, _⟩
  obtain ⟨i', _, hburied⟩ := Option.bind_eq_some_iff.mp hi
  rw [buried_isAlive hburied] at halive
  cases halive

/-- A report that a participant has gone leaves the items of the others alone. -/
theorem unflagged_removeParticipant (d : ParticipantDiscoveryDatabase) (p g : Guid) :
    Unflagged ((d.removeParticipant p).1.items.find? g) ↔
      Unflagged (d.items.find? g) ∧ p ≠ g := by
  rw [ParticipantDiscoveryDatabase.find?_removeParticipant]
  by_cases hg : g = p
  · rw [if_pos hg]
    exact iff_of_false (not_unflagged_buried _) fun h => h.2 hg.symm
  · rw [if_neg hg]
    exact (and_iff_left (Ne.symm hg)).symm

section EndPoints

variable {ε : Type} [Keyed Guid ε] {m : EndPointContainer ε}
  (hset : ∀ it c, (m.set it c).isServer = it.isServer)

include hset

theorem filed_isServer (e : Guid) (type topic : String) (tp : TimePoint)
    (it : ParticipantDiscoveryItem) : (filed m e type topic tp it).isServer = it.isServer := by
  unfold filed
  split
  · exact hset ..
  · rfl

theorem unfiled_isServer {e : Guid} {it it' : ParticipantDiscoveryItem}
    (h : unfiled m e it = some it') : it'.isServer = it.isServer := by
  unfold unfiled at h
  cases hfind : (m.get it).find? e with
  | none =>
    simp only [hfind] at h
    cases h
    rfl
  | some sit =>
    simp only [hfind] at h
    split_ifs at h
    cases h
    exact hset ..

/-- An endpoint is filed: at most a zombie is made for another participant. -/
theorem unflagged_addEndPoint {q g : Guid} (hne : q ≠ g) (d : ParticipantDiscoveryDatabase)
    (now : TimePoint) (p e : Guid) (type topic : String) (tp : TimePoint) :
    Unflagged ((d.addEndPoint m now q p e type topic tp).items.find? g) ↔
      Unflagged (d.items.find? g) := by
  rw [d.find?_addEndPoint m]
  by_cases hg : g = d.filedUnder q p
  · rw [if_pos hg, unflagged_congr (filed_isAlive m ..) (filed_isServer hset ..)]
    rcases d.filingItem_cases now q p with ⟨it, hit, ⟨heq, _⟩ | ⟨_, rfl⟩⟩ | ⟨hnone, hp, heq⟩
    · rw [heq, hg, hit]
    · exact absurd (hg.trans (d.filedUnder_self p)).symm hne
    · rw [heq, hg, hnone, unflagged_some]
      have hpq : p ≠ q := fun heq => hne (heq.symm.trans (hp.symm.trans hg.symm))
      simp [hpq, Unflagged]
  · rw [if_neg hg]

theorem unflagged_unfiled (e : Guid) (it : Option ParticipantDiscoveryItem) :
    Unflagged (it.bind (unfiled m e)) ↔ Unflagged it := by
  cases it with
  | none => rfl
  | some i =>
    rw [Option.bind_some]
    cases h : unfiled m e i with
    | none => simp [Unflagged, isAlive_of_unfiled m h]
    | some i' => exact unflagged_congr (unfiled_isAlive m h) (unfiled_isServer hset h)

theorem unflagged_removeEndPoint (d : ParticipantDiscoveryDatabase) (p e g : Guid) :
    Unflagged ((d.removeEndPoint m p e).1.items.find? g) ↔ Unflagged (d.items.find? g) := by
  rw [d.find?_removeEndPoint m]
  by_cases hg : g = p
  · rw [if_pos hg, unflagged_unfiled hset, hg]
  · rw [if_neg hg]

end EndPoints

/-! ## One step -/

/-- The operation of a callback on the database it belongs to. -/
theorem unflagged_act {g : Guid} {c : Callback} (hne : c.participant.guid ≠ g) {t : TimePoint}
    {flag : Bool} {op : Operation} (hop : c.operation t flag = some op) (now : TimePoint)
    (d : Option ParticipantDiscoveryDatabase) :
    Unflagged (itemOf g (Call.act ⟨now, op⟩ d)) ↔
      (¬ Live (itemOf g d) ∧ flag = false ∧ Announces g c) ∨
        (Unflagged (itemOf g d) ∧ ¬ Buries g c) := by
  obtain ⟨p, notice⟩ := c
  have hitem := fun name => find?_databaseOr p.guid name d g
  cases notice with
  | participant status guid name =>
    cases status with
    | discoveredParticipant =>
      cases hop
      show Unflagged
        (((databaseOr p.guid p.name d).addParticipant now guid name t flag).items.find? g) ↔ _
      rw [ParticipantDiscoveryDatabase.find?_addParticipant]
      by_cases hg : g = guid
      · subst hg
        rw [if_pos rfl, hitem, unflagged_announced]
        simp [Announces, Buries]
      · rw [if_neg hg, hitem]
        simp [Announces, Buries, Ne.symm hg]
    | changedQosParticipant => cases hop
    | removedParticipant =>
      cases hop
      show Unflagged (((databaseOr p.guid "" d).removeParticipant guid).1.items.find? g) ↔ _
      rw [unflagged_removeParticipant, hitem]
      simp [Announces, Buries]
    | droppedParticipant =>
      cases hop
      show Unflagged (((databaseOr p.guid "" d).removeParticipant guid).1.items.find? g) ↔ _
      rw [unflagged_removeParticipant, hitem]
      simp [Announces, Buries]
  | endpoint kind reason guid partid typeName topicName =>
    have hsame : (¬ Live (itemOf g d) ∧ flag = false ∧
        Announces g ⟨p, .endpoint kind reason guid partid typeName topicName⟩) ∨
        (Unflagged (itemOf g d) ∧
          ¬ Buries g ⟨p, .endpoint kind reason guid partid typeName topicName⟩) ↔
        Unflagged (itemOf g d) := by
      simp [Announces, Buries]
    rw [hsame]
    cases kind with
    | dataReader =>
      cases reason with
      | discovered =>
        cases hop
        rw [← hitem p.name]
        exact unflagged_addEndPoint (m := getDataReaders) (fun _ _ => rfl) hne ..
      | changedQos => cases hop
      | removed =>
        cases hop
        cases d with
        | none => rfl
        | some d => exact unflagged_removeEndPoint (m := getDataReaders) (fun _ _ => rfl) d ..
    | dataWriter =>
      cases reason with
      | discovered =>
        cases hop
        rw [← hitem p.name]
        exact unflagged_addEndPoint (m := getDataWriters) (fun _ _ => rfl) hne ..
      | changedQos => cases hop
      | removed =>
        cases hop
        cases d with
        | none => rfl
        | some d => exact unflagged_removeEndPoint (m := getDataWriters) (fun _ _ => rfl) d ..

/-- The callbacks are callbacks of other participants. -/
def Others (server : DomainParticipant) (s : Recognition) : Prop :=
  ∀ c ∈ s.callbacks, c.1.participant.guid ≠ server.guid

variable {server : DomainParticipant} {s s' : Recognition} {a : Action} {q : Guid}

/-- The steps of the creating thread leave the databases alone. -/
theorem create_spec (h : s.create server = some s') :
    s'.callbacks = s.callbacks ∧ s'.manager.state = s.manager.state := by
  unfold create at h
  cases hprogress : s.progress with
  | ready =>
    rw [hprogress] at h
    cases h
    exact ⟨rfl, rfl⟩
  | created =>
    rw [hprogress] at h
    cases h
    exact ⟨rfl, rfl⟩
  | added =>
    rw [hprogress] at h
    cases h
    exact ⟨rfl, rfl⟩
  | registered =>
    rw [hprogress] at h
    cases h

theorem enter_spec {participant : DomainParticipant} {notice : DiscoveryNotice}
    (h : s.enter server participant notice = some s') :
    participant.guid ≠ server.guid ∧
      s' = { s with callbacks := s.callbacks ++ [(⟨participant, notice⟩, .entered)] } := by
  unfold enter at h
  split_ifs at h with hself hearly
  exact ⟨hself, (Option.some.inj h).symm⟩

theorem advance_spec {i : Nat} {now : TimePoint} (h : s.advance i now = some s') :
    ∃ c progress, s.callbacks[i]? = some (c, progress) ∧
      s' = { s with
        manager := (c.step s.manager now progress).1
        callbacks := s.callbacks.set i (c, (c.step s.manager now progress).2) } := by
  unfold advance at h
  cases hc : s.callbacks[i]? with
  | none =>
    rw [hc] at h
    cases h
  | some entry =>
    rw [hc] at h
    exact ⟨entry.1, entry.2, rfl, (Option.some.inj h).symm⟩

theorem others_step (hothers : s.Others server) (h : step server s a = some s') :
    s'.Others server := by
  cases a with
  | create =>
    unfold Others
    rw [(create_spec h).1]
    exact hothers
  | enter participant notice =>
    obtain ⟨hself, rfl⟩ := enter_spec h
    intro c hc
    rcases List.mem_append.mp hc with hc | hc
    · exact hothers c hc
    · rw [List.mem_singleton.mp hc]
      exact hself
  | advance i now =>
    obtain ⟨c, progress, hc, rfl⟩ := advance_spec h
    intro d hd
    rcases List.mem_or_eq_of_mem_set hd with hd | rfl
    · exact hothers d hd
    · exact hothers (c, progress) (List.mem_of_getElem? hc)

/-- The update of a callback that has noted the time. -/
theorem unflagged_update {c : Callback} (hne : c.participant.guid ≠ server.guid)
    (m : DiscoveryServerManager) (now t : TimePoint) (flag : Bool) :
    Unflagged (itemOf server.guid
        ((Callback.update m now (c.operation t flag)).state.databaseOf q)) ↔
      (¬ Live (itemOf server.guid (m.state.databaseOf q)) ∧
        flag = false ∧ c.participant.guid = q ∧ Announces server.guid c) ∨
      (Unflagged (itemOf server.guid (m.state.databaseOf q)) ∧
        ¬ (c.participant.guid = q ∧ Buries server.guid c)) := by
  cases hop : c.operation t flag with
  | none =>
    -- a callback without an operation reports nothing about participants
    have hsilent : ¬ Announces server.guid c ∧ ¬ Buries server.guid c := by
      refine ⟨?_, ?_⟩
      · rintro ⟨name, hnotice⟩
        simp [Callback.operation, hnotice] at hop
      · rintro ⟨status, name, hnotice, rfl | rfl⟩
        · simp [Callback.operation, hnotice] at hop
        · simp [Callback.operation, hnotice] at hop
    show Unflagged (itemOf server.guid (m.state.databaseOf q)) ↔ _
    simp [hsilent.1, hsilent.2]
  | some op =>
    have hspokesman := (Callback.spokesman_operation hop).1
    show Unflagged (itemOf server.guid ((m.state.step ⟨now, op⟩).databaseOf q)) ↔ _
    rw [DiscoveryItemDatabase.databaseOf_step, hspokesman]
    by_cases hq : q = c.participant.guid
    · rw [if_pos hq, unflagged_act hne hop]
      simp [hq]
    · rw [if_neg hq]
      simp [Ne.symm hq]

/-- **One step.** An item of the server becomes live without the flag in a step
that misses the server, and stops being so in one that withdraws it. -/
theorem step_spec (hothers : s.Others server) (h : step server s a = some s') (q : Guid) :
    Unflagged (s'.item server q) ↔
      s.Misses server q a ∨ (Unflagged (s.item server q) ∧ ¬ s.Withdraws server q a) := by
  have hidle : s'.manager.state = s.manager.state → (∀ i now, a ≠ .advance i now) →
      (Unflagged (s'.item server q) ↔
        s.Misses server q a ∨ (Unflagged (s.item server q) ∧ ¬ s.Withdraws server q a)) := by
    intro hstate hne
    have hmisses : ¬ s.Misses server q a := by
      rintro ⟨_, i, now, c, t, rfl, _⟩
      exact hne i now rfl
    have hwithdraws : ¬ s.Withdraws server q a := by
      rintro ⟨i, now, c, t, flag, rfl, _⟩
      exact hne i now rfl
    unfold item
    rw [hstate, or_iff_right hmisses, and_iff_left hwithdraws]
  cases a with
  | create => exact hidle (create_spec h).2 nofun
  | enter participant notice =>
    obtain ⟨_, rfl⟩ := enter_spec h
    exact hidle rfl nofun
  | advance i now =>
    obtain ⟨c, progress, hc, rfl⟩ := advance_spec h
    have hmisses : s.Misses server q (.advance i now) ↔
        ¬ Live (s.item server q) ∧ ∃ t, progress = .noted t false ∧ c.participant.guid = q ∧
          Announces server.guid c := by
      constructor
      · rintro ⟨hlive, _, _, c', t, ⟨⟩, hc', hrest⟩
        rw [hc] at hc'
        cases hc'
        exact ⟨hlive, t, rfl, hrest⟩
      · rintro ⟨hlive, t, rfl, hrest⟩
        exact ⟨hlive, i, now, c, t, rfl, hc, hrest⟩
    have hwithdraws : s.Withdraws server q (.advance i now) ↔
        ∃ t flag, progress = .noted t flag ∧ c.participant.guid = q ∧ Buries server.guid c := by
      constructor
      · rintro ⟨_, _, c', t, flag, ⟨⟩, hc', hrest⟩
        rw [hc] at hc'
        cases hc'
        exact ⟨t, flag, rfl, hrest⟩
      · rintro ⟨t, flag, rfl, hrest⟩
        exact ⟨i, now, c, t, flag, rfl, hc, hrest⟩
    rw [hmisses, hwithdraws]
    show Unflagged (itemOf server.guid
      ((c.step s.manager now progress).1.state.databaseOf q)) ↔ _
    rw [Callback.state_step]
    cases progress with
    | noted t flag =>
      rw [unflagged_update (hothers (c, _) (List.mem_of_getElem? hc))]
      simp [item]
    | entered => simp [item]
    | known => simp [item]
    | timed t => simp [item]
    | returned => simp [item]

end Recognition

/-- **When servers are recognised as servers.** In every run from a manager in
which nobody has a live item of the server yet, the live items the others have of it
are all flagged exactly if every update that made one live after its callback had not
found the server in `servers` has been followed by the report that the server has
gone. -/
theorem recognised_iff (server : DomainParticipant) (m : DiscoveryServerManager)
    (hnew : ∀ q ≠ server.guid,
      ¬ Recognition.Live (Recognition.itemOf server.guid (m.state.databaseOf q)))
    (actions : List Recognition.Action) (s : Recognition)
    (hrun : run? (Recognition.step server) (.start m) actions = some s) :
    s.Recognised server ↔ ∀ q ≠ server.guid, ¬ Since (Recognition.step server)
      (Recognition.Misses server q) (Recognition.Withdraws server q) (.start m) actions := by
  have hsince := fun q => iff_since (P := fun s => Recognition.Unflagged (s.item server q))
    (Recognition.Others server) (fun s a t => Recognition.others_step)
    (fun s a t hothers h => Recognition.step_spec hothers h q)
    (nofun : (Recognition.start m).Others server) hrun
  refine forall₂_congr fun q hq => ?_
  have hfresh : ¬ Recognition.Unflagged ((Recognition.start m).item server q) := by
    rintro ⟨i, hi, halive, _⟩
    exact hnew q hq ⟨i, hi, halive⟩
  have hq := hsince q
  rw [or_iff_right fun h => hfresh h.1] at hq
  rw [← hq]
  simp [Recognition.Unflagged]

/-- A server about to be created, and a client that is already there. -/
def arrivingServer : DomainParticipant := ⟨1, .ofPrefix 2, "server"⟩

def witnessClient : DomainParticipant := ⟨0, .ofPrefix 1, "client"⟩

def managerOfWitness : DiscoveryServerManager :=
  ((DiscoveryServerManager.initial 0 0 0).addClient witnessClient).setParticipantInfo
    witnessClient.guid { participant := some witnessClient }

/-- The client reports the server. -/
def reportArrival : Recognition.Action :=
  .enter witnessClient (.participant .discoveredParticipant arrivingServer.guid "server")

theorem recognised_iff_sample :
    ∃ s, run? (Recognition.step arrivingServer) (.start managerOfWitness)
        [.create, .create, .create, reportArrival, .advance 0 0, .advance 0 0, .advance 0 0,
          .advance 0 0] = some s ∧
      (s.Recognised arrivingServer ↔ ∀ q ≠ arrivingServer.guid,
        ¬ Since (Recognition.step arrivingServer) (Recognition.Misses arrivingServer q)
          (Recognition.Withdraws arrivingServer q) (.start managerOfWitness)
          [.create, .create, .create, reportArrival, .advance 0 0, .advance 0 0, .advance 0 0,
            .advance 0 0]) := by
  refine ⟨_, rfl, recognised_iff arrivingServer managerOfWitness ?_ _ _ rfl⟩
  rintro q _ ⟨i, hi, _⟩
  cases hi

/-- The client reports the server and looks it up before it is filed; its item stays
as it is when the server is registered. -/
theorem server_taken_for_none : ¬ ∀ (server : DomainParticipant) (m : DiscoveryServerManager)
    (actions : List Recognition.Action) (s : Recognition), m.noCallbacks = false →
    (∀ q ≠ server.guid,
      ¬ Recognition.Live (Recognition.itemOf server.guid (m.state.databaseOf q))) →
    run? (Recognition.step server) (.start m) actions = some s → s.Completed →
      s.Recognised server := by
  intro h
  have hrecognised := h arrivingServer managerOfWitness
    [.create, reportArrival, .advance 0 0, .advance 0 0, .advance 0 0, .advance 0 0, .create,
      .create] _ rfl (by rintro q _ ⟨i, hi, _⟩; cases hi) rfl
    ⟨rfl, fun c hc => by rw [List.mem_singleton.mp hc]⟩
  have hflag := hrecognised witnessClient.guid (by decide) _ rfl rfl
  cases hflag

end DiscoveryServer
