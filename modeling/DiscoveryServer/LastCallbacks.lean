import DiscoveryServer.Session
import DiscoveryServer.SnapshotMerge
import Mathlib.Data.List.Pairwise
import Mathlib.Data.List.Sort

/-!
# The times of the last callbacks

A callback reads the steady clock and stores the reading in a critical section it
enters later (`Callback.step`), so another callback may read after it and store before
it. What has been read is what has been stored and what is still to be stored
(`readings_perm`); with a clock that never goes back, the times stored never go back
exactly if they are stored in the order in which they were read (`lastCallbacks_iff`).
-/

namespace DiscoveryServer

open Library

/-- The two times the manager keeps. -/
inductive DiscoveryKind where
  | pdp
  | edp
deriving DecidableEq

/-- `on_participant_discovery`, or one of the callbacks for endpoints. -/
def Callback.kind (c : Callback) : DiscoveryKind :=
  match c.notice with
  | .participant .. => .pdp
  | .endpoint .. => .edp

def DiscoveryServerManager.lastCallback (k : DiscoveryKind) (m : DiscoveryServerManager) :
    TimePoint :=
  match k with
  | .pdp => m.lastPDPCallback
  | .edp => m.lastEDPCallback

def Snapshot.lastCallback (k : DiscoveryKind) (shot : Snapshot) : TimePoint :=
  match k with
  | .pdp => shot.lastPDPCallback
  | .edp => shot.lastEDPCallback

namespace Session

/-- The clock reading a callback of kind `k` has to store. -/
def held (k : DiscoveryKind) : Callback × Callback.Progress → Option TimePoint
  | (c, .timed callbackTime) => if c.kind = k then some callbackTime else none
  | _ => none

/-- The clock reading a callback of kind `k` takes in its next step. -/
def taken (k : DiscoveryKind) (now : TimePoint) : Callback × Callback.Progress → Option TimePoint
  | (c, .known) => if c.kind = k then some now else none
  | _ => none

/-- The clock reading that a step takes for a callback of kind `k`. -/
def reads (k : DiscoveryKind) (s : Session) : Action → Option TimePoint
  | .advance i now => s.callbacks[i]?.bind (taken k now)
  | _ => none

/-- The clock reading that a step stores for a callback of kind `k`. -/
def stores (k : DiscoveryKind) (s : Session) : Action → Option TimePoint
  | .advance i _ => s.callbacks[i]?.bind (held k)
  | _ => none

/-- The readings taken in a run, in that order. -/
def readings (k : DiscoveryKind) (s : Session) (actions : List Action) : List TimePoint :=
  observed step (reads k) s actions

/-- The readings stored in a run, in that order. -/
def stored (k : DiscoveryKind) (s : Session) (actions : List Action) : List TimePoint :=
  observed step (stores k) s actions

/-- The readings still to be stored. -/
def pending (k : DiscoveryKind) (s : Session) : List TimePoint := s.callbacks.filterMap (held k)

/-- Along the run, no reading stored is later than the time of the last callback; when no
callback is in progress this time is the last reading taken, and a snapshot records it. -/
def ShowsLatest (k : DiscoveryKind) (s : Session) (actions : List Action) : Prop :=
  ∀ done rest t, actions = done ++ rest → run? step s done = some t →
    (∀ u ∈ stored k s done, u ≤ t.manager.lastCallback k) ∧
      (t.Quiet → t.manager.lastCallback k =
        (readings k s done).getLast?.getD (s.manager.lastCallback k)) ∧
      ∀ tp desc someone showLiveliness,
        (t.manager.takeSnapshot tp desc someone showLiveliness).2.lastCallback k =
          t.manager.lastCallback k

/-! ## One step -/

variable {k : DiscoveryKind} {s s' : Session} {a : Action}

/-- A callback changes the time it stores, and no other. -/
theorem lastCallback_callback (k : DiscoveryKind) (c : Callback) (m : DiscoveryServerManager)
    (now : TimePoint) (progress : Callback.Progress) :
    (c.step m now progress).1.lastCallback k = (held k (c, progress)).getD (m.lastCallback k) := by
  cases progress with
  | entered =>
    unfold Callback.step
    dsimp only
    cases m.getParticipant c.participant.guid with
    | none => rfl
    | some p => rfl
  | known => rfl
  | timed t =>
    unfold Callback.step Callback.note held Callback.kind
    dsimp only
    cases c.notice with
    | participant status guid name => cases k <;> rfl
    | endpoint kind reason guid participantGuid typeName topicName => cases k <;> rfl
  | noted t server =>
    show (Callback.update m now (c.operation t server)).lastCallback k = m.lastCallback k
    cases c.operation t server with
    | none => rfl
    | some op => cases k <;> rfl
  | returned => rfl

/-- A callback has to store what it has just read. -/
theorem held_callback (k : DiscoveryKind) (c : Callback) (m : DiscoveryServerManager)
    (now : TimePoint) (progress : Callback.Progress) :
    held k (c, (c.step m now progress).2) = taken k now (c, progress) := by
  cases progress with
  | entered =>
    unfold Callback.step
    dsimp only
    cases m.getParticipant c.participant.guid with
    | none => rfl
    | some p => rfl
  | known => rfl
  | timed t => rfl
  | noted t server => rfl
  | returned => rfl

/-- Only a callback that takes a step reads or stores anything. -/
theorem observes_nothing (ha : ∀ i now, a ≠ .advance i now) :
    s.reads k a = none ∧ s.stores k a = none := by
  cases a with
  | advance i now => exact absurd rfl (ha i now)
  | _ => exact ⟨rfl, rfl⟩

/-- The time of the last callback is what was stored last. -/
theorem lastCallback_step (k : DiscoveryKind) (s : Session) (a : Action) (s' : Session)
    (h : s.step a = some s') :
    s'.manager.lastCallback k = (s.stores k a).getD (s.manager.lastCallback k) := by
  by_cases ha : ∃ i now, a = .advance i now
  · obtain ⟨i, now, rfl⟩ := ha
    obtain ⟨c, progress, hc, hmanager, _⟩ := advance_spec h
    rw [hmanager, lastCallback_callback]
    simp only [stores, hc, Option.bind_some]
  · have hmain : ∀ i now, a ≠ .advance i now := fun i now hi => ha ⟨i, now, hi⟩
    obtain ⟨_, hpdp, hedp, _⟩ := main_spec h hmain
    rw [(observes_nothing hmain).2]
    cases k with
    | pdp => exact hpdp
    | edp => exact hedp

/-- What is kept of a list, split at one of its elements; and when the element is replaced. -/
theorem filterMap_set {α β : Type} (f : α → Option β) {l : List α} {i : Nat} {x : α}
    (h : l[i]? = some x) :
    l.filterMap f = (l.take i).filterMap f ++ ((f x).toList ++ (l.drop (i + 1)).filterMap f) ∧
      ∀ y, (l.set i y).filterMap f =
        (l.take i).filterMap f ++ ((f y).toList ++ (l.drop (i + 1)).filterMap f) := by
  have hset : ∀ y, (l.set i y).filterMap f =
      (l.take i).filterMap f ++ ((f y).toList ++ (l.drop (i + 1)).filterMap f) := by
    intro y
    rw [List.set_eq_take_append_cons_drop, if_pos (List.getElem?_eq_some_iff.mp h).1,
      List.filterMap_append, List.filterMap_cons]
    cases f y <;> rfl
  refine ⟨?_, hset⟩
  obtain ⟨hi, hget⟩ := List.getElem?_eq_some_iff.mp h
  rw [← hset x, ← hget, List.set_getElem_self]

/-- A reading taken joins those to be stored, a reading stored leaves them. -/
theorem pending_step (h : s.step a = some s') :
    (s.pending k ++ (s.reads k a).toList).Perm ((s.stores k a).toList ++ s'.pending k) := by
  by_cases ha : ∃ i now, a = .advance i now
  · obtain ⟨i, now, rfl⟩ := ha
    obtain ⟨c, progress, hc, _, hcallbacks⟩ := advance_spec h
    obtain ⟨hold, hset⟩ := filterMap_set (held k) hc
    have hreads : s.reads k (.advance i now) = taken k now (c, progress) := by
      simp only [reads, hc, Option.bind_some]
    have hstores : s.stores k (.advance i now) = held k (c, progress) := by
      simp only [stores, hc, Option.bind_some]
    have hnew : s'.pending k = (s.callbacks.take i).filterMap (held k) ++
        ((taken k now (c, progress)).toList ++
          (s.callbacks.drop (i + 1)).filterMap (held k)) := by
      unfold pending
      rw [hcallbacks, hset, held_callback]
    rw [hreads, hstores, hnew, show s.pending k = _ from hold]
    grind
  · have hmain : ∀ i now, a ≠ .advance i now := fun i now hi => ha ⟨i, now, hi⟩
    obtain ⟨_, _, _, entered, hcallbacks⟩ := main_spec h hmain
    obtain ⟨hreads, hstores⟩ := observes_nothing (s := s) (k := k) hmain
    have hentered : (entered.map fun c => (c, Callback.Progress.entered)).filterMap (held k) =
        [] := by
      rw [List.filterMap_map]
      exact List.filterMap_eq_nil_iff.mpr fun c _ => rfl
    have hpending : s'.pending k = s.pending k := by
      unfold pending
      rw [hcallbacks, List.filterMap_append, hentered, List.append_nil]
    rw [hreads, hstores, hpending]
    exact .of_eq (List.append_nil _)

/-! ## A run -/

/-- **What is read is stored sooner or later**: the readings of a run, with those
there were to store before, are those stored and those still to be stored. -/
theorem readings_perm {actions : List Action} (hrun : run? step s actions = some s') :
    (s.pending k ++ readings k s actions).Perm (stored k s actions ++ s'.pending k) := by
  induction actions generalizing s with
  | nil =>
    cases hrun
    exact .of_eq (List.append_nil _)
  | cons a actions ih =>
    obtain ⟨t, ht, hrest⟩ := Option.bind_eq_some_iff.mp hrun
    have hreadings : readings k s (a :: actions) = (s.reads k a).toList ++ readings k t actions :=
      observed_cons ht actions
    have hstored : stored k s (a :: actions) = (s.stores k a).toList ++ stored k t actions :=
      observed_cons ht actions
    have hstep := (pending_step (k := k) ht).append_right (readings k t actions)
    have hnext := (ih hrest).append_left (s.stores k a).toList
    rw [hreadings, hstored, ← List.append_assoc, List.append_assoc (s.stores k a).toList]
    rw [List.append_assoc (s.stores k a).toList] at hstep
    exact hstep.trans hnext

theorem pending_of_quiet (h : s.Quiet) : s.pending k = [] := by
  refine List.filterMap_eq_nil_iff.mpr fun e he => ?_
  obtain ⟨c, progress⟩ := e
  have hreturned : progress = .returned := h _ he
  rw [hreturned]
  rfl

/-- A snapshot records the times of the last callbacks as they are. -/
theorem lastCallback_takeSnapshot (m : DiscoveryServerManager) (tp : TimePoint) (desc : String)
    (someone showLiveliness : Bool) :
    (m.takeSnapshot tp desc someone showLiveliness).2.lastCallback k = m.lastCallback k := by
  have hloop := DiscoveryServerManager.addIsolated.rule (fun _ => True)
    (fun s shot => shot.lastCallback k = s.2.lastCallback k)
    (fun s shot _ hstop => by rw [DiscoveryServerManager.isolatedPass_stop hstop])
    (fun s s' _ hpass => by
      obtain ⟨ids, shot⟩ := s
      cases ids with
      | nil => cases hpass
      | cons id ids =>
        cases hpass
        exact ⟨trivial, fun r hr => by rw [hr]; cases k <;> rfl⟩)
    (s := m.mergeStart (m.imageCopy tp desc someone showLiveliness)) trivial
  rw [DiscoveryServerManager.takeSnapshot_snd, hloop]
  cases k <;> rfl

/-- With a clock that never goes back, what is read comes in order. -/
theorem sublist_of_sorted {actions : List Action} (hpending : s.pending k = [])
    (hrun : run? step s actions = some s') (hclock : (readings k s actions).Pairwise (· ≤ ·))
    (hsorted : (stored k s actions).Pairwise (· ≤ ·)) :
    (stored k s actions).Sublist (readings k s actions) := by
  have hperm := readings_perm (k := k) hrun
  rw [hpending, List.nil_append] at hperm
  have hsubperm : (stored k s actions).Subperm (readings k s actions) :=
    (List.sublist_append_left _ _).subperm.trans hperm.symm.subperm
  exact List.sublist_of_subperm_of_pairwise hsubperm hsorted hclock

/-- The times of the last callbacks never go back exactly if they are stored in the
order in which they were read. -/
theorem climbs_lastCallback_iff {actions : List Action} (hpending : s.pending k = [])
    (hrun : run? step s actions = some s')
    (hclock : (s.manager.lastCallback k :: readings k s actions).Pairwise (· ≤ ·)) :
    Climbs step (fun s => s.manager.lastCallback k) s actions ↔
      (stored k s actions).Sublist (readings k s actions) := by
  have hregister : Climbs step (fun s => s.manager.lastCallback k) s actions ↔
      (s.manager.lastCallback k :: stored k s actions).Pairwise (· ≤ ·) :=
    climbs_iff (lastCallback_step k) hrun
  rw [hregister]
  constructor
  · intro hsorted
    exact sublist_of_sorted hpending hrun hclock.of_cons hsorted.of_cons
  · intro hsublist
    exact hclock.sublist (hsublist.cons_cons _)

/-- Then the last reading taken is shown as soon as no callback is in progress. -/
theorem showsLatest_of_sublist {actions : List Action} (hpending : s.pending k = [])
    (hclock : (s.manager.lastCallback k :: readings k s actions).Pairwise (· ≤ ·))
    (hsublist : (stored k s actions).Sublist (readings k s actions)) :
    ShowsLatest k s actions := by
  intro done rest t hactions hdone
  have hvalue : t.manager.lastCallback k =
      (stored k s done).getLast?.getD (s.manager.lastCallback k) :=
    register_run (lastCallback_step k) hdone
  have hreadings : readings k s actions = readings k s done ++ readings k t rest := by
    rw [hactions]
    exact observed_append hdone rest
  have hstored : stored k s actions = stored k s done ++ stored k t rest := by
    rw [hactions]
    exact observed_append hdone rest
  have hsorted : (stored k s done).Pairwise (· ≤ ·) := by
    have hall : (stored k s actions).Pairwise (· ≤ ·) := hclock.of_cons.sublist hsublist
    rw [hstored] at hall
    exact hall.sublist (List.sublist_append_left _ _)
  have hread : (readings k s done).Pairwise (· ≤ ·) := by
    have hall := hclock.of_cons
    rw [hreadings] at hall
    exact hall.sublist (List.sublist_append_left _ _)
  refine ⟨?_, ?_, fun tp desc someone showLiveliness => lastCallback_takeSnapshot ..⟩
  · intro u hu
    rw [hvalue]
    rw [List.getLast?_eq_some_getLast (List.ne_nil_of_mem hu)]
    exact hsorted.rel_getLast hu
  · intro hquiet
    have hperm := readings_perm (k := k) hdone
    rw [hpending, pending_of_quiet hquiet, List.nil_append, List.append_nil] at hperm
    rw [hvalue, hperm.eq_of_pairwise' hread hsorted]

end Session

/-- **When last-callback times are right.** Whatever the interleaving of callbacks on
the threads of any participants, with a steady clock: the times never go back and show
the latest callback exactly if the callbacks of each kind store their readings in the
order in which they took them. -/
theorem lastCallbacks_iff (m : DiscoveryServerManager) (actions : List Session.Action)
    (s : Session) (hrun : run? Session.step (.start m) actions = some s)
    (hclock : ∀ k,
      (m.lastCallback k :: Session.readings k (.start m) actions).Pairwise (· ≤ ·)) :
    (∀ k, Climbs Session.step (fun s => s.manager.lastCallback k) (.start m) actions ∧
        Session.ShowsLatest k (.start m) actions) ↔
      ∀ k, (Session.stored k (.start m) actions).Sublist
        (Session.readings k (.start m) actions) := by
  constructor
  · intro hright k
    exact (Session.climbs_lastCallback_iff rfl hrun (hclock k)).mp (hright k).1
  · intro hsublist k
    exact ⟨(Session.climbs_lastCallback_iff rfl hrun (hclock k)).mpr (hsublist k),
      Session.showsLatest_of_sublist rfl (hclock k) (hsublist k)⟩

def peerClient : DomainParticipant := ⟨1, .ofPrefix 2, "peer"⟩

/-- Two clients are created and discover the same participant. -/
def twoCallbacks : List Session.Action :=
  [.create .client sampleClient true true, .proceed, .proceed,
    .create .client peerClient true true, .proceed, .proceed,
    .enter sampleClient (.participant .discoveredParticipant (.ofPrefix 3) "other"),
    .enter peerClient (.participant .discoveredParticipant (.ofPrefix 3) "other")]

/-- The second callback reads the clock after the first has stored its reading. -/
def inOrder : List Session.Action :=
  twoCallbacks ++ [.advance 0 0, .advance 1 0, .advance 0 1, .advance 0 1, .advance 1 2,
    .advance 1 2, .advance 0 3, .advance 1 3]

theorem lastCallbacks_iff_sample : ∃ s : Session,
    run? Session.step (.start (.initial 0 0 0)) inOrder = some s ∧
      ((∀ k, Climbs Session.step (fun s => s.manager.lastCallback k)
          (.start (.initial 0 0 0)) inOrder ∧
          Session.ShowsLatest k (.start (.initial 0 0 0)) inOrder) ↔
        ∀ k, (Session.stored k (.start (.initial 0 0 0)) inOrder).Sublist
          (Session.readings k (.start (.initial 0 0 0)) inOrder)) := by
  refine ⟨_, rfl, lastCallbacks_iff (.initial 0 0 0) inOrder _ rfl fun k => ?_⟩
  cases k with
  | pdp =>
    show List.Pairwise (· ≤ ·) [(0 : TimePoint), 1, 2]
    decide
  | edp =>
    show List.Pairwise (· ≤ ·) [(0 : TimePoint)]
    decide

/-- The second callback reads the clock after the first and stores its reading before
it: with both returned, the manager shows the earlier one. -/
theorem overtaken_callback_shown : ¬ ∀ (m : DiscoveryServerManager)
    (actions : List Session.Action) (s : Session),
    run? Session.step (.start m) actions = some s →
      (∀ k, (m.lastCallback k :: Session.readings k (.start m) actions).Pairwise (· ≤ ·)) →
        ∀ k, Climbs Session.step (fun s => s.manager.lastCallback k) (.start m) actions ∧
          Session.ShowsLatest k (.start m) actions := by
  intro h
  let overtaking : List Session.Action :=
    twoCallbacks ++ [.advance 0 0, .advance 1 0, .advance 0 1, .advance 1 2, .advance 1 2,
      .advance 0 2, .advance 0 3, .advance 1 3]
  have hclock : ∀ k, (DiscoveryServerManager.lastCallback k (.initial 0 0 0) ::
      Session.readings k (.start (.initial 0 0 0)) overtaking).Pairwise (· ≤ ·) := by
    intro k
    cases k with
    | pdp =>
      show List.Pairwise (· ≤ ·) [(0 : TimePoint), 1, 2]
      decide
    | edp =>
      show List.Pairwise (· ≤ ·) [(0 : TimePoint)]
      decide
  obtain ⟨_, hshows⟩ := h (.initial 0 0 0) overtaking _ rfl hclock .pdp
  have hquiet := (hshows overtaking [] _ (List.append_nil _).symm rfl).2.1 (by
    intro c hc
    rcases List.mem_cons.mp hc with rfl | hc
    · rfl
    · rw [List.mem_singleton.mp hc])
  have hlast : (1 : TimePoint) = 2 := hquiet
  exact absurd hlast (by decide)

end DiscoveryServer
