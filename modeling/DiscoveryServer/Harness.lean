import DiscoveryServer.GroundTruth
import DiscoveryServer.Library.Run

/-!
# The test harness

`execute_validate_test` runs each process of a test in a thread of its own. A thread
reports by appending its verdict to a list that starts as `[True]`; the verdict of the
test is the conjunction of the list once all threads have been joined. A thread that an
exception ends appends nothing.

`execute_returns` says, for every interleaving of the threads, that the test passes
exactly when no thread has appended `False`. So the verdict is sound exactly when no
thread dies or one of the others fails anyway (`execute_sound_iff`).
-/

namespace DiscoveryServer

open Library GroundTruthValidator

/-! ## The thread of a process -/

/-- The validators, in the order of `get_validators`. -/
inductive Validator where
  | exitCodeValidation
  | countLinesValidator
  | generateValidator
  | groundTruthValidator
  | stderrOutputValidation
deriving DecidableEq

def getValidators : List Validator :=
  [.exitCodeValidation, .countLinesValidator, .generateValidator, .groundTruthValidator,
    .stderrOutputValidation]

/-- The parameters under `validation`: which tags they have, and what `_validate` makes
of each. -/
structure Validation where
  tagged : Validator → Bool
  result : Validator → Except PyError ReturnCode

/-- What the thread of a process finds: the keys of its parameters, and what becomes of
the parts of its work that may raise an exception. -/
structure Process where
  /-- Reading the times and the environment variables. -/
  parameters : Except PyError Unit
  xmlConfigFile : Bool
  toolConfig : Bool
  /-- From the flags to the end of `run_command`. -/
  execution : Except PyError Unit
  validation : Option Validation
  /-- Removing the file of a test that has passed. -/
  clearFile : Except PyError Unit
  /-- Stopping the server of a domain. -/
  stopServer : Except PyError Unit

/-- `Validator.validate`. -/
def Validation.validate (v : Validation) (validator : Validator) : Except PyError ReturnCode :=
  if v.tagged validator then v.result validator else .ok .skip

/-- `validate_test`. -/
def validateTest (v : Validation) : Except PyError Bool :=
  getValidators.foldlM (fun finalResult validator => do
    let result ← v.validate validator
    return if result ≠ .ok ∧ result ≠ .skip then false else finalResult) true

/-- `execute_validate_thread_test`. Every return is of the value that has just been
appended to the list of results. -/
def executeValidateThreadTest (fdsPath clear : Bool) (p : Process) : Except PyError Bool := do
  p.parameters
  if !p.xmlConfigFile && !p.toolConfig then return false -- incorrect process parameters
  else if !p.xmlConfigFile && !fdsPath then return false -- no tool given and needed
  else
    p.execution
    match p.validation with
    | none => return true
    | some v =>
      let result ← validateTest v
      if result && clear then p.clearFile
      p.stopServer
      return result

/-! ## The threads of a test -/

inductive ThreadState where
  | ready
  | running
  | ended
deriving DecidableEq

/-- The harness: how many threads it has started and joined, the state of each, the
shared list, and the verdict once it has returned. -/
structure Harness where
  started : Nat
  joined : Nat
  threads : List ThreadState
  resultList : List Bool
  returned : Option Bool
deriving DecidableEq

inductive HarnessStep where
  | start
  /-- The thread comes to its end. -/
  | finish (i : Nat)
  | join
  | conclude
deriving DecidableEq

/-- `functools.reduce(lambda a, b: a and b, l)`, which needs a nonempty list. -/
def reduceAnd : List Bool → Option Bool
  | [] => none
  | b :: l => some (l.foldl (fun a b => a && b) b)

/-- The threads have been made. A test without `processes` returns at once. -/
def Harness.initial (processes : Option (List Process)) : Harness :=
  match processes with
  | none => ⟨0, 0, [], [true], some false⟩
  | some processes => ⟨0, 0, processes.map fun _ => .ready, [true], none⟩

/-- One step of `execute_validate_test` or of one of its threads, by what becomes of each
thread. -/
def Harness.step (outcomes : List (Except PyError Bool)) (s : Harness) :
    HarnessStep → Option Harness
  | .start =>
    if s.started < s.threads.length then
      some { s with threads := s.threads.set s.started .running, started := s.started + 1 }
    else none
  | .finish i =>
    match s.threads[i]?, outcomes[i]? with
    | some .running, some (.ok result) =>
      some { s with threads := s.threads.set i .ended, resultList := s.resultList ++ [result] }
    | some .running, some (.error _) => some { s with threads := s.threads.set i .ended }
    | _, _ => none
  | .join =>
    if s.started = s.threads.length ∧ s.threads[s.joined]? = some .ended then
      some { s with joined := s.joined + 1 }
    else none
  | .conclude =>
    if s.started = s.threads.length ∧ s.joined = s.threads.length ∧ s.returned = none then
      (reduceAnd s.resultList).map fun result => { s with returned := some result }
    else none

/-- What becomes of the threads. -/
def threadOutcomes (fdsPath clear : Bool) (processes : Option (List Process)) :
    List (Except PyError Bool) :=
  (processes.getD []).map (executeValidateThreadTest fdsPath clear)

/-! ## What holds all along -/

theorem reduceAnd_eq_some_iff {l : List Bool} {b : Bool} (h : reduceAnd l = some b) :
    b = true ↔ ∀ a ∈ l, a = true := by
  cases l with
  | nil => cases h
  | cons a l =>
    cases h
    induction l generalizing a with
    | nil => simp
    | cons c l ih =>
      rw [List.foldl_cons, ih (a && c)]
      simp [and_assoc]

/-- The list has the verdicts of the threads that have ended. Threads are joined once they
have, and a test that has returned has joined all of them. -/
structure Harness.Consistent (outcomes : List (Except PyError Bool)) (s : Harness) : Prop where
  length : s.threads.length = outcomes.length
  unstarted : ∀ i state, s.started ≤ i → s.threads[i]? = some state → state = .ready
  ended : ∀ i < s.joined, s.threads[i]? = some .ended
  results : ∀ b, b ∈ s.resultList ↔
    b = true ∨ ∃ i : Nat, s.threads[i]? = some ThreadState.ended ∧ outcomes[i]? = some (.ok b)
  returned : ∀ v, s.returned = some v → s.threads = [] ∧ v = false ∨
    s.joined = s.threads.length ∧ (v = true ↔ ∀ b ∈ s.resultList, b = true)

namespace Harness

variable {outcomes : List (Except PyError Bool)} {s t : Harness}

theorem consistent_initial (fdsPath clear : Bool) (processes : Option (List Process)) :
    Consistent (threadOutcomes fdsPath clear processes) (initial processes) := by
  cases processes with
  | none =>
    refine ⟨rfl, ?_, fun i hi => absurd hi (Nat.not_lt_zero i), ?_, ?_⟩
    · intro i state _ hstate
      cases hstate
    · intro b
      simp [initial]
    · intro v hv
      cases hv
      exact .inl ⟨rfl, rfl⟩
  | some processes =>
    refine ⟨?_, ?_, fun i hi => absurd hi (Nat.not_lt_zero i), ?_, ?_⟩
    · simp [initial, threadOutcomes]
    · intro i state _ hstate
      rw [initial, List.getElem?_map] at hstate
      obtain ⟨p, -, rfl⟩ := Option.map_eq_some_iff.mp hstate
      rfl
    · intro b
      constructor
      · intro hb
        exact .inl (List.mem_singleton.mp hb)
      · rintro (rfl | ⟨i, hi, -⟩)
        · exact List.mem_singleton.mpr rfl
        · rw [initial, List.getElem?_map] at hi
          obtain ⟨p, -, hp⟩ := Option.map_eq_some_iff.mp hi
          cases hp
    · intro v hv
      cases hv

/-- Nothing runs any more when the test has returned. -/
theorem Consistent.all_ended (h : s.Consistent outcomes) {v : Bool} (hv : s.returned = some v)
    {i : Nat} {state : ThreadState} (hstate : s.threads[i]? = some state) : state = .ended := by
  cases h.returned v hv with
  | inl hnil =>
    rw [hnil.1] at hstate
    cases hstate
  | inr hjoined =>
    have hi : i < s.joined := by
      rw [hjoined.1]
      exact (List.getElem?_eq_some_iff.mp hstate).1
    have hended := h.ended i hi
    rw [hstate] at hended
    exact Option.some.inj hended

theorem Consistent.step_of_returned (h : s.Consistent outcomes) {v : Bool}
    (hv : s.returned = some v) (a : HarnessStep) : s.step outcomes a = none := by
  cases a with
  | start =>
    refine if_neg fun hlt => ?_
    have hstate := List.getElem?_eq_getElem hlt
    have hended := h.all_ended hv hstate
    rw [h.unstarted _ _ (Nat.le_refl _) hstate] at hended
    cases hended
  | finish i =>
    simp only [Harness.step]
    cases hstate : s.threads[i]? with
    | none => rfl
    | some state => rw [h.all_ended hv hstate]
  | join =>
    refine if_neg fun hjoin => ?_
    cases h.returned v hv with
    | inl hnil => exact absurd hjoin.2 (by simp [hnil.1])
    | inr hjoined =>
      have hlt := (List.getElem?_eq_some_iff.mp hjoin.2).1
      omega
  | conclude =>
    refine if_neg fun hconclude => ?_
    exact absurd (hv.symm.trans hconclude.2.2) (by simp)

/-- What a step does to a thread. -/
theorem getElem?_set_thread (threads : List ThreadState) (i j : Nat) (state : ThreadState) :
    (threads.set i state)[j]? =
      if i = j then (if i < threads.length then some state else none) else threads[j]? :=
  List.getElem?_set

theorem Consistent.start (h : s.Consistent outcomes) (hreturned : s.returned = none)
    (hlt : s.started < s.threads.length) :
    Consistent outcomes
      { s with threads := s.threads.set s.started .running, started := s.started + 1 } := by
  have hready : s.threads[s.started]? = some .ready := by
    have hstate := List.getElem?_eq_getElem hlt
    rw [hstate, h.unstarted _ _ (Nat.le_refl _) hstate]
  have hended : ∀ i : Nat, (s.threads.set s.started .running)[i]? = some .ended ↔
      s.threads[i]? = some .ended := by
    intro i
    rw [getElem?_set_thread]
    split_ifs with hi
    · subst hi
      simp [hready]
    · exact Iff.rfl
  refine ⟨?_, ?_, fun i hi => (hended i).mpr (h.ended i hi), fun b => ?_, ?_⟩
  · rw [List.length_set]
    exact h.length
  · intro i state hi hstate
    rw [getElem?_set_thread, if_neg (by show s.started ≠ i; exact by simp at hi; omega)] at hstate
    exact h.unstarted i state (by simp at hi; omega) hstate
  · rw [h.results b]
    simp only [hended]
  · intro v hv
    rw [hreturned] at hv
    cases hv

/-- A thread comes to its end, with a verdict or without. -/
theorem Consistent.finish (h : s.Consistent outcomes) (hreturned : s.returned = none) {i : Nat}
    (hrunning : s.threads[i]? = some .running) {l : List Bool}
    (hl : ∀ b, b ∈ l ↔ b ∈ s.resultList ∨ outcomes[i]? = some (.ok b)) :
    Consistent outcomes { s with threads := s.threads.set i .ended, resultList := l } := by
  have hi : i < s.threads.length := (List.getElem?_eq_some_iff.mp hrunning).1
  have hended : ∀ j : Nat, (s.threads.set i .ended)[j]? = some .ended ↔
      j = i ∨ s.threads[j]? = some .ended := by
    intro j
    rw [getElem?_set_thread]
    split_ifs with hj
    · simp [hj]
    · simp [Ne.symm hj]
  refine ⟨?_, ?_, fun j hj => (hended j).mpr (.inr (h.ended j hj)), fun b => ?_, ?_⟩
  · rw [List.length_set]
    exact h.length
  · intro j state hj hstate
    rw [getElem?_set_thread] at hstate
    split_ifs at hstate with hij
    · subst hij
      cases h.unstarted i _ hj hrunning
    · exact h.unstarted j state hj hstate
  · rw [hl b, h.results b]
    simp only [hended]
    constructor
    · rintro ((hb | ⟨j, hj, hout⟩) | hout)
      · exact .inl hb
      · exact .inr ⟨j, .inr hj, hout⟩
      · exact .inr ⟨i, .inl rfl, hout⟩
    · rintro (hb | ⟨j, rfl | hj, hout⟩)
      · exact .inl (.inl hb)
      · exact .inr hout
      · exact .inl (.inr ⟨j, hj, hout⟩)
  · intro v hv
    rw [hreturned] at hv
    cases hv

theorem Consistent.join (h : s.Consistent outcomes) (hreturned : s.returned = none)
    (hended : s.threads[s.joined]? = some .ended) :
    Consistent outcomes { s with joined := s.joined + 1 } := by
  refine ⟨h.length, h.unstarted, fun i hi => ?_, h.results, fun v hv => ?_⟩
  · cases Nat.lt_succ_iff_lt_or_eq.mp hi with
    | inl hlt => exact h.ended i hlt
    | inr heq =>
      rw [heq]
      exact hended
  · rw [hreturned] at hv
    cases hv

theorem Consistent.conclude (h : s.Consistent outcomes) (hjoined : s.joined = s.threads.length)
    {b : Bool} (hb : reduceAnd s.resultList = some b) :
    Consistent outcomes { s with returned := some b } := by
  refine ⟨h.length, h.unstarted, h.ended, h.results, fun v hv => ?_⟩
  cases hv
  exact .inr ⟨hjoined, reduceAnd_eq_some_iff hb⟩

/-- **Every step keeps the state consistent.** -/
theorem Consistent.step (h : s.Consistent outcomes) {a : HarnessStep}
    (hstep : s.step outcomes a = some t) : t.Consistent outcomes := by
  have hreturned : s.returned = none := by
    cases hv : s.returned with
    | none => rfl
    | some v =>
      rw [h.step_of_returned hv a] at hstep
      cases hstep
  cases a with
  | start =>
    simp only [Harness.step] at hstep
    split_ifs at hstep with hlt
    cases hstep
    exact h.start hreturned hlt
  | finish i =>
    simp only [Harness.step] at hstep
    split at hstep
    · rename_i result hstate hout
      cases hstep
      refine h.finish hreturned hstate fun b => ?_
      rw [hout, List.mem_append, List.mem_singleton]
      simp [eq_comm]
    · rename_i err hstate hout
      cases hstep
      refine h.finish hreturned hstate fun b => ?_
      rw [hout]
      simp
    · cases hstep
  | join =>
    simp only [Harness.step] at hstep
    split_ifs at hstep with hjoin
    cases hstep
    exact h.join hreturned hjoin.2
  | conclude =>
    simp only [Harness.step] at hstep
    split_ifs at hstep with hconclude
    obtain ⟨b, hb, rfl⟩ := Option.map_eq_some_iff.mp hstep
    exact h.conclude hconclude.2.1 hb

/-- A test that has returned has passed exactly when no thread has appended `False`. -/
theorem Consistent.verdict (h : s.Consistent outcomes) {v : Bool} (hv : s.returned = some v) :
    v = true → ∀ o ∈ outcomes, o ≠ .ok false := by
  intro htrue o ho hfalse
  rw [hfalse] at ho
  obtain ⟨i, hout⟩ := List.mem_iff_getElem?.mp ho
  have hlt : i < s.threads.length := by
    rw [h.length]
    exact (List.getElem?_eq_some_iff.mp hout).1
  have hended := h.all_ended hv (List.getElem?_eq_getElem hlt)
  have hstate : s.threads[i]? = some .ended := by
    rw [List.getElem?_eq_getElem hlt, hended]
  cases h.returned v hv with
  | inl hnil => exact absurd hstate (by simp [hnil.1])
  | inr hjoined =>
    have hmem := (h.results false).mpr (.inr ⟨i, hstate, hout⟩)
    cases hjoined.2.mp htrue false hmem

theorem Consistent.verdict_true (h : s.Consistent outcomes) {v : Bool} (hv : s.returned = some v)
    (hne : s.threads ≠ []) (hgood : ∀ o ∈ outcomes, o ≠ .ok false) : v = true := by
  cases h.returned v hv with
  | inl hnil => exact absurd hnil.1 hne
  | inr hjoined =>
    refine hjoined.2.mpr fun b hb => ?_
    cases (h.results b).mp hb with
    | inl htrue => exact htrue
    | inr hthread =>
      obtain ⟨i, -, hout⟩ := hthread
      cases b with
      | true => rfl
      | false => exact absurd rfl (hgood _ (List.mem_of_getElem? hout))

end Harness

variable {fdsPath clear : Bool} {processes : Option (List Process)} {steps : List HarnessStep}
  {s : Harness}

/-- A run of a test, from the start to the return of a verdict. -/
def Returns (fdsPath clear : Bool) (processes : Option (List Process)) (steps : List HarnessStep)
    (v : Bool) : Prop :=
  ∃ s, run? (Harness.step (threadOutcomes fdsPath clear processes)) (.initial processes) steps =
    some s ∧ s.returned = some v

/-- The verdict of a thread that ran to completion was `True`. -/
def CompletesTrue (fdsPath clear : Bool) (p : Process) : Prop :=
  executeValidateThreadTest fdsPath clear p = .ok true

theorem Returns.consistent {v : Bool} (h : Returns fdsPath clear processes steps v) :
    ∃ s, Harness.Consistent (threadOutcomes fdsPath clear processes) s ∧ s.returned = some v ∧
      s.threads.length = (processes.getD []).length := by
  obtain ⟨s, hrun, hv⟩ := h
  have hconsistent := run?_invariant
    (P := Harness.Consistent (threadOutcomes fdsPath clear processes))
    (fun s a t hs hstep => hs.step hstep) (Harness.consistent_initial fdsPath clear processes) hrun
  refine ⟨s, hconsistent, hv, ?_⟩
  rw [hconsistent.length]
  exact List.length_map _

/-- **The verdict is sound** in a run exactly when all threads complete, or one of those
that do has the verdict `False`. -/
theorem execute_sound_iff {v : Bool} (h : Returns fdsPath clear processes steps v) :
    (v = true → ∀ p ∈ processes.getD [], CompletesTrue fdsPath clear p) ↔
      (∀ p ∈ processes.getD [], ∃ b, executeValidateThreadTest fdsPath clear p = .ok b) ∨
        ∃ p ∈ processes.getD [], executeValidateThreadTest fdsPath clear p = .ok false := by
  obtain ⟨s, hs, hv, hlength⟩ := h.consistent
  constructor
  · intro hsound
    by_cases hfalse : ∃ p ∈ processes.getD [], executeValidateThreadTest fdsPath clear p = .ok false
    · exact .inr hfalse
    · refine .inl fun p hp => ⟨true, hsound ?_ p hp⟩
      refine hs.verdict_true hv (fun hnil => ?_) fun o ho => ?_
      · rw [hnil] at hlength
        rw [List.length_eq_zero_iff.mp hlength.symm] at hp
        cases hp
      · obtain ⟨q, hq, rfl⟩ := List.mem_map.mp ho
        exact fun heq => hfalse ⟨q, hq, heq⟩
  · rintro (hall | ⟨p, hp, hfalse⟩) htrue
    · intro p hp
      obtain ⟨b, hb⟩ := hall p hp
      have hne := hs.verdict hv htrue _ (List.mem_map.mpr ⟨p, hp, rfl⟩)
      cases b with
      | true => exact hb
      | false => exact absurd hb hne
    · exact absurd hfalse (hs.verdict hv htrue _ (List.mem_map.mpr ⟨p, hp, rfl⟩))

/-! ## A thread that dies -/

/-- A process whose result is compared with a file; the other validators are skipped. -/
def groundTruthProcess (expected produced : XMLDocument) : Process where
  parameters := .ok ()
  xmlConfigFile := true
  toolConfig := false
  execution := .ok ()
  validation := some
    { tagged := fun validator => validator = .groundTruthValidator
      result := fun _ =>
        GroundTruthValidator.validate (fun _ => "") (some false) (.ok expected) (.ok produced) }
  clearFile := .ok ()
  stopServer := .ok ()

/-- A process that saves no snapshot: the file has no `DS_Snapshot`. -/
def withoutSnapshots : Process :=
  groundTruthProcess (describedFile ["one"])
    ((DiscoveryServerManager.initial 0 0 0).parsedFile bareHost)

/-- The thread of the only process dies, and the test passes. -/
theorem died_and_passed : ¬ ∀ (fdsPath clear : Bool) (processes : Option (List Process))
    (steps : List HarnessStep), Returns fdsPath clear processes steps true →
      ∀ p ∈ processes.getD [], CompletesTrue fdsPath clear p := by
  intro h
  have hreturns : Returns true true (some [withoutSnapshots])
      [.start, .finish 0, .join, .conclude] true := ⟨_, rfl, rfl⟩
  have hcompletes := h _ _ _ _ hreturns withoutSnapshots List.mem_cons_self
  have hdies : executeValidateThreadTest true true withoutSnapshots = .error .keyError := rfl
  rw [CompletesTrue, hdies] at hcompletes
  cases hcompletes

theorem execute_sound_iff_sample :
    (true = true → ∀ p ∈ (some [groundTruthProcess (describedFile ["one"]) (describedFile ["one"]),
        groundTruthProcess (describedFile ["two"]) (describedFile ["two"])]).getD [],
      CompletesTrue true true p) ↔
    (∀ p ∈ (some [groundTruthProcess (describedFile ["one"]) (describedFile ["one"]),
        groundTruthProcess (describedFile ["two"]) (describedFile ["two"])]).getD [],
      ∃ b, executeValidateThreadTest true true p = .ok b) ∨
    ∃ p ∈ (some [groundTruthProcess (describedFile ["one"]) (describedFile ["one"]),
        groundTruthProcess (describedFile ["two"]) (describedFile ["two"])]).getD [],
      executeValidateThreadTest true true p = .ok false :=
  execute_sound_iff (show Returns true true _
    [.start, .start, .finish 1, .finish 0, .join, .join, .conclude] true from ⟨_, rfl, rfl⟩)

end DiscoveryServer
