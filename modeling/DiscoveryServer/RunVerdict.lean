import DiscoveryServer.OfflineRuns
import DiscoveryServer.SnapshotHistory

/-!
# The verdict on a run

From the callbacks to the exit code: what the spokesmen have been told when a snapshot is
taken decides its verdict, whatever interleaving has told them and whatever follows, and
the program started on the saved file says the same.

A run in which everybody was done at every snapshot is a success
(`discovered_runs_succeed`); a run in which at one snapshot somebody had missed two others,
the rest being done, is a failure (`missed_runs_fail`).
-/

namespace DiscoveryServer

open Library ParticipantDiscoveryDatabase

/-! ## Snapshots by their ledgers -/

section Holds

variable {shot : Snapshot} {h : List Call} {m : DiscoveryServerManager} {tp : TimePoint}
  {desc : String} {someone showLiveliness : Bool} {net : Network} {g : Guid}
  {d : ParticipantDiscoveryDatabase}

theorem Snapshot.Holds.alive_eq (hshot : shot.Holds h m tp desc someone showLiveliness)
    (hd : shot.databases.find? g = some d) (p : Guid) :
    d.ledger.alive p = (ledgerAfter h g).alive p := by
  show (d.items.find? p).any (·.isAlive) = _
  cases hit : d.items.find? p with
  | some it => exact hshot.alive g d hd p it hit
  | none =>
    have hunknown : ¬ (ledgerAfter h g).Known p := by
      rw [← hshot.items g d hd p, OrdSet.mem_keys, hit]
      exact Bool.false_ne_true
    unfold Ledger.Known at hunknown
    exact (Bool.eq_false_iff.mpr fun halive => hunknown (.inl halive)).symm

/-- A database of a snapshot is done when the ledger of its spokesman is. -/
theorem Snapshot.Holds.complete (hshot : shot.Holds h m tp desc someone showLiveliness)
    (hd : shot.databases.find? g = some d) (hnet : (ledgerAfter h g).Complete net g) :
    d.ledger.Complete net g where
  others := by
    intro p hp
    rw [hshot.alive_eq hd]
    exact hnet.others p hp
  truthful := by
    intro p hp k e
    rw [hshot.alive_eq hd] at hp
    show (d.recordOf k p e).map _ = _
    rw [hshot.endPoints g d hd k p e]
    exact hnet.truthful p hp k e

end Holds

namespace Session

/-- The spokesmen a snapshot is of: who has been told something, and who is registered. -/
def Present (h : List Call) (m : DiscoveryServerManager) (g : Guid) : Prop :=
  (ledgerAfter h g).opened = true ∨ g ∈ m.registered.keys

/-- Everybody present is one of at least two who are done. -/
structure AllDone (h : List Call) (m : DiscoveryServerManager) (net : Network) : Prop where
  done : ∀ g, Present h m g → g ∈ net.members ∧ (ledgerAfter h g).Complete net g
  two : ∃ p ∈ net.members, ∃ q ∈ net.members, p ≠ q
  some : ∃ g, Present h m g

/-- Somebody present has missed two others; everybody else present is done. -/
structure Misses (h : List Call) (m : DiscoveryServerManager) (net : Network) (a : Guid) :
    Prop where
  present : Present h m a
  others : ∀ g, Present h m g → g ≠ a → (ledgerAfter h g).Complete net g
  somebody : ∃ g, Present h m g ∧ g ≠ a
  missed : ∃ p ∈ net.members, ∃ q ∈ net.members, p ≠ q ∧ p ≠ a ∧ q ≠ a ∧
    (ledgerAfter h a).alive p = false ∧ (ledgerAfter h a).alive q = false

end Session

section Verdicts

variable {shot : Snapshot} {h : List Call} {m : DiscoveryServerManager} {tp : TimePoint}
  {desc : String} {someone showLiveliness : Bool} {net : Network}

/-- A snapshot of everybody done passes. -/
theorem Snapshot.Holds.validates (hshot : shot.Holds h m tp desc someone showLiveliness)
    (hdone : Session.AllDone h m net) : shot.allKnowEachOther = true := by
  have hcomplete : ∀ d ∈ shot.databases,
      d.endpointGuid ∈ net.members ∧ d.ledger.Complete net d.endpointGuid := by
    intro d hd
    have hfind : shot.databases.find? d.endpointGuid = some d := OrdSet.find?_of_mem hd
    have hpresent := (hshot.databases d.endpointGuid).mp (by rw [hfind]; rfl)
    obtain ⟨hmember, hcomplete⟩ := hdone.done _ hpresent
    exact ⟨hmember, hshot.complete hfind hcomplete⟩
  obtain ⟨g, hg⟩ := hdone.some
  obtain ⟨d, hd⟩ := Option.isSome_iff_exists.mp ((hshot.databases g).mpr hg)
  exact allKnowEachOther_of_complete hcomplete hdone.two ⟨d, OrdSet.find?_mem hd⟩

/-- A snapshot of somebody who has missed two does not. -/
theorem Snapshot.Holds.fails (hshot : shot.Holds h m tp desc someone showLiveliness) {a : Guid}
    (hmisses : Session.Misses h m net a) : shot.allKnowEachOther = false := by
  obtain ⟨d, hd⟩ := Option.isSome_iff_exists.mp ((hshot.databases a).mpr hmisses.present)
  have hguid : d.endpointGuid = a := OrdSet.find?_key hd
  by_contra hverdict
  rw [Bool.not_eq_false] at hverdict
  have hothers : ∀ d' ∈ shot.databases, d' ≠ d → d'.ledger.Complete net d'.endpointGuid := by
    intro d' hd' hne
    have hfind : shot.databases.find? d'.endpointGuid = some d' := OrdSet.find?_of_mem hd'
    have hpresent := (hshot.databases d'.endpointGuid).mp (by rw [hfind]; rfl)
    have hother : d'.endpointGuid ≠ a := by
      intro heq
      rw [heq, hd] at hfind
      exact hne (Option.some.inj hfind).symm
    exact hshot.complete hfind (hmisses.others _ hpresent hother)
  have hsomebody : ∃ d' ∈ shot.databases, d' ≠ d := by
    obtain ⟨g, hpresent, hg⟩ := hmisses.somebody
    obtain ⟨d', hd'⟩ := Option.isSome_iff_exists.mp ((hshot.databases g).mpr hpresent)
    have hguid' : d'.endpointGuid = g := OrdSet.find?_key hd'
    refine ⟨d', OrdSet.find?_mem hd', fun heq => hg ?_⟩
    rw [← hguid', heq, hguid]
  obtain ⟨n, hn⟩ := misses_at_most_one hverdict (OrdSet.find?_mem hd) hothers hsomebody
  have hknown : ∀ p, d.HoldsLive p → (ledgerAfter h a).alive p = true := by
    intro p hp
    rw [← hshot.alive_eq hd, ← d.known_isSome_iff_alive, d.known_isSome_iff]
    exact hp
  obtain ⟨p, hp, q, hq, hpq, hpa, hqa, hmissp, hmissq⟩ := hmisses.missed
  rw [hguid] at hn
  by_cases hpn : p = n
  · have halive := hknown q (hn q hq hqa fun hqn => hpq (hpn.trans hqn.symm))
    rw [hmissq] at halive
    cases halive
  · have halive := hknown p (hn p hp hpa hpn)
    rw [hmissp] at halive
    cases halive

end Verdicts

/-! ## Runs -/

section Runs

variable {m : DiscoveryServerManager} {t now now' : TimePoint} {actions : List Session.Action}
  {s' : Session}

/-- The snapshots of a run are those its steps have taken. -/
theorem Session.mem_snapshots_iff (hnew : m.snapshots = [])
    (hrun : run? Session.step (.start m) actions = some s') {shot : Snapshot} :
    shot ∈ s'.manager.snapshots ↔ ∃ before tp desc someone showLiveliness after u,
      actions = before ++ .takeSnapshot tp desc someone showLiveliness :: after ∧
        run? Session.step (.start m) before = some u ∧
          (u.manager.takeSnapshot tp desc someone showLiveliness).2 = shot := by
  have hsnapshots : s'.manager.snapshots = recorded (.start m) actions := by
    rw [snapshots_run hrun]
    show m.snapshots ++ _ = _
    rw [hnew, List.nil_append]
  rw [hsnapshots]
  unfold recorded
  rw [mem_observed_iff hrun]
  constructor
  · rintro ⟨before, a, after, u, hsplit, hbefore, hshot⟩
    cases a with
    | takeSnapshot tp desc someone showLiveliness =>
      exact ⟨before, tp, desc, someone, showLiveliness, after, u, hsplit, hbefore,
        Option.some.inj hshot⟩
    | _ => cases hshot
  · rintro ⟨before, tp, desc, someone, showLiveliness, after, u, hsplit, hbefore, hshot⟩
    exact ⟨before, _, after, u, hsplit, hbefore, congrArg some hshot⟩

/-- What a step of the run has recorded. -/
theorem Session.holds_recorded (hinit : m.state = .init t now now') {before : List Action}
    {u : Session} (hbefore : run? Session.step (.start m) before = some u) (tp : TimePoint)
    (desc : String) (someone showLiveliness : Bool) :
    (u.manager.takeSnapshot tp desc someone showLiveliness).2.Holds (history (.start m) before)
      u.manager tp desc someone showLiveliness := by
  have hstate : u.manager.state = run DiscoveryItemDatabase.step (.init t now now')
      (history (.start m) before) := by
    rw [← hinit]
    exact state_run hbefore
  exact holds_takeSnapshot hstate tp desc someone showLiveliness

/-- Every run on a saved file has the verdict of the manager it comes from: those that save
it again, and one on what the last of them has saved. -/
theorem Chain.verdict {f : TextFormat} {host : Host} {m : DiscoveryServerManager}
    {outcomes : List (Int × XMLDocument)} {last : XMLDocument} (hf : f.Lossless)
    (hformat : host.format = f) (hdes : ∀ s ∈ m.snapshots, isBlank s.des = false)
    (hchain : Chain f (m.saveSnapshots host) outcomes last) :
    (∀ o ∈ outcomes, o.1 = m.verdictCode) ∧
      ∀ run : OfflineRun, run.host.format = f → run.Reads last →
        run.exitCode = some m.verdictCode := by
  generalize hdoc : m.saveSnapshots host = doc at hchain
  induction hchain generalizing host m with
  | nil doc =>
    subst hdoc hformat
    exact ⟨fun o ho => absurd ho List.not_mem_nil,
      fun run hrun hreads => exitCode_of_reads hf hrun hdes hreads⟩
  | @cons run doc doc' last code outcomes hrun houtcome _ ih =>
    subst hdoc
    have hsame : run.host.format = host.format := hrun.trans hformat.symm
    have hlossless : host.format.Lossless := hformat ▸ hf
    obtain ⟨rfl, rfl⟩ := houtcome.unique
      (outcome_of_reads hlossless hsame hdes houtcome.reads houtcome.hasOutput)
    have hnext := ih hrun (described_loaded run host hdes) rfl
    have hverdict : (run.loaded host m).verdictCode = m.verdictCode := by
      unfold DiscoveryServerManager.verdictCode
      rw [validateAllSnapshots_loaded]
    rw [hverdict] at hnext
    refine ⟨fun o ho => ?_, hnext.2⟩
    cases List.mem_cons.mp ho with
    | inl heq => rw [heq]
    | inr hmem => exact hnext.1 o hmem

/-- Later runs of the program end with a code: those of any chain of runs on the snapshots
that have been saved, and any run on what the chain has saved in the end. -/
def LaterRuns (host : Host) (m : DiscoveryServerManager) (code : Int) : Prop :=
  ∀ (outcomes : List (Int × XMLDocument)) (last : XMLDocument),
    Chain host.format (m.saveSnapshots host) outcomes last →
      (∀ o ∈ outcomes, o.1 = code) ∧
        ∀ run : OfflineRun, run.host.format = host.format → run.Reads last →
          run.exitCode = some code

theorem laterRuns_of {host : Host} {m : DiscoveryServerManager} {valid : Bool}
    (hvalid : m.validateAllSnapshots = valid) (hf : host.format.Lossless)
    (hdes : ∀ s ∈ m.snapshots, isBlank s.des = false) :
    LaterRuns host m (if valid then 1 else -1) := by
  intro outcomes last hchain
  have hverdict := hchain.verdict hf rfl hdes
  unfold DiscoveryServerManager.verdictCode at hverdict
  rw [hvalid] at hverdict
  exact hverdict

/-- Everybody done at every snapshot: the validation succeeds. -/
theorem Session.validates_run (hinit : m.state = .init t now now') (hnew : m.snapshots = [])
    (hrun : run? Session.step (.start m) actions = some s')
    (hdone : ∀ before tp desc someone showLiveliness after u,
      actions = before ++ .takeSnapshot tp desc someone showLiveliness :: after →
        run? Session.step (.start m) before = some u →
          ∃ net, AllDone (history (.start m) before) u.manager net) :
    s'.manager.validateAllSnapshots = true := by
  rw [DiscoveryServerManager.validateAllSnapshots_iff]
  intro shot hshot
  obtain ⟨before, tp, desc, someone, showLiveliness, after, u, hsplit, hbefore, rfl⟩ :=
    (mem_snapshots_iff hnew hrun).mp hshot
  obtain ⟨net, hnet⟩ := hdone before tp desc someone showLiveliness after u hsplit hbefore
  exact (holds_recorded hinit hbefore tp desc someone showLiveliness).validates hnet

/-- Two missed at some snapshot: it fails. -/
theorem Session.fails_run (hinit : m.state = .init t now now') (hnew : m.snapshots = [])
    (hrun : run? Session.step (.start m) actions = some s') {before after : List Session.Action}
    {tp : TimePoint} {desc : String} {someone showLiveliness : Bool}
    (hsplit : actions = before ++ .takeSnapshot tp desc someone showLiveliness :: after)
    {u : Session} (hbefore : run? Session.step (.start m) before = some u) {net : Network}
    {a : Guid} (hmisses : Misses (history (.start m) before) u.manager net a) :
    s'.manager.validateAllSnapshots = false := by
  rw [Bool.eq_false_iff, Ne, DiscoveryServerManager.validateAllSnapshots_iff]
  intro hall
  have hshot := hall _ ((mem_snapshots_iff hnew hrun).mpr
    ⟨before, tp, desc, someone, showLiveliness, after, u, hsplit, hbefore, rfl⟩)
  rw [(holds_recorded hinit hbefore tp desc someone showLiveliness).fails hmisses] at hshot
  cases hshot

/-- **Done at every snapshot.** If, in a run of events and callbacks interleaved in any way,
everybody present is done whenever a snapshot is taken, the snapshots pass, and so they do
in every run on the file they are saved in. -/
theorem discovered_runs_succeed (hinit : m.state = .init t now now') (hnew : m.snapshots = [])
    (hrun : run? Session.step (.start m) actions = some s')
    (hdone : ∀ before tp desc someone showLiveliness after u,
      actions = before ++ .takeSnapshot tp desc someone showLiveliness :: after →
        run? Session.step (.start m) before = some u →
          ∃ net, Session.AllDone (Session.history (.start m) before) u.manager net) :
    s'.manager.validateAllSnapshots = true ∧
      ∀ host : Host, host.format.Lossless →
        (∀ s ∈ s'.manager.snapshots, isBlank s.des = false) →
          LaterRuns host s'.manager 1 := by
  have hvalid := Session.validates_run hinit hnew hrun hdone
  exact ⟨hvalid, fun host hf hdes => laterRuns_of hvalid hf hdes⟩

/-- **Two missed at some snapshot.** If at one of the snapshots of a run somebody present has
missed two others and the rest is done, the validation fails, and so it does in every run
on the file, whatever the other snapshots are. -/
theorem missed_runs_fail (hinit : m.state = .init t now now') (hnew : m.snapshots = [])
    (hrun : run? Session.step (.start m) actions = some s') {before after : List Session.Action}
    {tp : TimePoint} {desc : String} {someone showLiveliness : Bool}
    (hsplit : actions = before ++ .takeSnapshot tp desc someone showLiveliness :: after)
    {u : Session} (hbefore : run? Session.step (.start m) before = some u) {net : Network}
    {a : Guid} (hmisses : Session.Misses (Session.history (.start m) before) u.manager net a) :
    s'.manager.validateAllSnapshots = false ∧
      ∀ host : Host, host.format.Lossless →
        (∀ s ∈ s'.manager.snapshots, isBlank s.des = false) →
          LaterRuns host s'.manager (-1) := by
  have hfails := Session.fails_run hinit hnew hrun hsplit hbefore hmisses
  exact ⟨hfails, fun host hf hdes => laterRuns_of hfails hf hdes⟩

end Runs

/-! ## Two runs -/

/-- Clients told about participants. -/
def discoveries (pairs : List (Guid × Guid)) : List Call :=
  pairs.map fun pair => ⟨1, .addParticipant pair.1 "client" pair.2 "" 1 false⟩

/-- Who has been told about somebody knows exactly whom it has been told about. -/
theorem ledgerAfter_discoveries (pairs : List (Guid × Guid)) (s : Guid) :
    (ledgerAfter (discoveries pairs) s).opened = pairs.any (fun pair => pair.1 = s) ∧
      (∀ p, (ledgerAfter (discoveries pairs) s).alive p = decide ((s, p) ∈ pairs)) ∧
      ∀ k p e, (ledgerAfter (discoveries pairs) s).endPoint k p e = none := by
  have hfold : ∀ l : Ledger,
      let l' := (spokesmen.inputsOf s (discoveries pairs)).foldl Ledger.act l
      l'.opened = (l.opened || pairs.any (fun pair => pair.1 = s)) ∧
        (∀ p, l'.alive p = (l.alive p || decide ((s, p) ∈ pairs))) ∧ l'.endPoint = l.endPoint := by
    induction pairs with
    | nil =>
      intro l
      refine ⟨(Bool.or_false _).symm, fun p => ?_, rfl⟩
      rw [decide_eq_false List.not_mem_nil, Bool.or_false]
      rfl
    | cons pair pairs ih =>
      intro l
      obtain ⟨a, b⟩ := pair
      have hcons : discoveries ((a, b) :: pairs) =
          ⟨1, .addParticipant a "client" b "" 1 false⟩ :: discoveries pairs := rfl
      rw [hcons]
      by_cases ha : s = a
      · subst ha
        have howner : s = spokesmen.owner ⟨1, .addParticipant s "client" b "" 1 false⟩ := rfl
        rw [spokesmen.inputsOf_cons_self howner, List.foldl_cons]
        obtain ⟨hopened, halive, hend⟩ := ih (l.declare b true)
        refine ⟨?_, fun p => ?_, hend⟩
        · exact hopened.trans (by simp [Ledger.declare])
        · refine (halive p).trans ?_
          by_cases hp : p = b <;> simp [Ledger.declare, hp]
      · have howner : s ≠ spokesmen.owner ⟨1, .addParticipant a "client" b "" 1 false⟩ := ha
        rw [spokesmen.inputsOf_cons_ne howner]
        obtain ⟨hopened, halive, hend⟩ := ih l
        refine ⟨?_, fun p => ?_, hend⟩
        · exact hopened.trans (by simp [Ne.symm ha])
        · exact (halive p).trans (by simp [ha])
  obtain ⟨hopened, halive, hend⟩ := hfold .blank
  refine ⟨hopened, halive, fun k p e => ?_⟩
  exact congrFun (congrFun (congrFun hend k) p) e

/-- Somebody who has been told about all the others of a network without endpoints is done. -/
theorem complete_discoveries {pairs : List (Guid × Guid)} {members : Set Guid} {g : Guid}
    (h : ∀ p, p ≠ g → ((g, p) ∈ pairs ↔ p ∈ members)) :
    (ledgerAfter (discoveries pairs) g).Complete ⟨members, fun _ _ _ => none⟩ g := by
  obtain ⟨-, halive, hend⟩ := ledgerAfter_discoveries pairs g
  refine ⟨fun p hp => ?_, fun p _ k e => ?_⟩
  · rw [halive, decide_eq_true_iff]
    exact h p hp
  · rw [hend]
    rfl

namespace Session

variable {m : DiscoveryServerManager} {pairs : List (Guid × Guid)} {a b c : Guid}

/-- Present are those who are registered, if only they have been told something. -/
theorem present_discoveries {g : Guid} (hg : Present (discoveries pairs) m g)
    (htold : ∀ pair ∈ pairs, pair.1 ∈ m.registered.keys) : g ∈ m.registered.keys := by
  cases hg with
  | inl hopened =>
    rw [(ledgerAfter_discoveries pairs g).1, List.any_eq_true] at hopened
    obtain ⟨x, hx, hg⟩ := hopened
    rw [← of_decide_eq_true hg]
    exact htold x hx
  | inr hregistered => exact hregistered

/-- Two who have been told about each other are done. -/
theorem allDone_pair (hab : a ≠ b) (hkeys : m.registered.keys = [a, b]) :
    AllDone (discoveries [(a, b), (b, a)]) m ⟨{a, b}, fun _ _ _ => none⟩ where
  done := by
    intro g hg
    have hmember : g = a ∨ g = b := by
      have hregistered := present_discoveries hg (by simp [hkeys])
      rw [hkeys] at hregistered
      simpa using hregistered
    refine ⟨hmember, complete_discoveries fun p hp => ?_⟩
    show _ ↔ p = a ∨ p = b
    rcases hmember with rfl | rfl
    · simp [hab, hp]
    · simp [hab.symm, hp]
  two := ⟨a, .inl rfl, b, .inr rfl, hab⟩
  some := ⟨a, .inr (by simp [hkeys])⟩

/-- The first has been told about nobody, the second about the first and about a third who
is not here. -/
theorem misses_two (hab : a ≠ b) (hac : a ≠ c) (hbc : b ≠ c)
    (hkeys : m.registered.keys = [a, b]) :
    Misses (discoveries [(b, a), (b, c)]) m ⟨{a, b, c}, fun _ _ _ => none⟩ a where
  present := .inr (by simp [hkeys])
  others := by
    intro g hg hne
    have hmember : g = b := by
      have hregistered := present_discoveries hg (by simp [hkeys])
      rw [hkeys] at hregistered
      simpa [hne] using hregistered
    subst hmember
    refine complete_discoveries fun p hp => ?_
    show _ ↔ p = a ∨ p = g ∨ p = c
    simp [hp]
  somebody := ⟨b, .inr (by simp [hkeys]), hab.symm⟩
  missed := by
    obtain ⟨-, halive, -⟩ := ledgerAfter_discoveries [(b, a), (b, c)] a
    refine ⟨b, .inr (.inl rfl), c, .inr (.inr rfl), hbc, hab.symm, hac.symm, ?_, ?_⟩
    · rw [halive]
      simp [hab]
    · rw [halive]
      simp [hab]

/-- The steps of a client's creation. -/
def joins (p : DomainParticipant) : List Action := [.create .client p true true, .proceed, .proceed]

/-- The steps of callback `i`, which tells `p` about `q`. -/
def meets (i : Nat) (p q : DomainParticipant) : List Action :=
  [.enter p (.participant .discoveredParticipant q.guid ""), .advance i 1, .advance i 1,
    .advance i 1, .advance i 1]

/-- Two clients discover each other. -/
def pairMeets (p q : DomainParticipant) : List Action :=
  joins p ++ joins q ++ meets 0 p q ++ meets 1 q p

/-- Two clients, of which the second discovers the first and somebody elsewhere. -/
def oneDeaf (p q r : DomainParticipant) : List Action :=
  joins p ++ joins q ++ meets 0 q p ++ meets 1 q r

end Session

/-- The last step is the only one of its kind. -/
theorem eq_of_snoc {α : Type} {p : α → Bool} {xs before after : List α} {a b : α}
    (h : xs ++ [a] = before ++ b :: after) (hxs : ∀ x ∈ xs, p x = false) (hb : p b = true) :
    before = xs := by
  induction xs generalizing before with
  | nil =>
    cases before with
    | nil => rfl
    | cons y before =>
      have hnil : before ++ b :: after = [] := (List.cons.inj h).2.symm
      exact absurd hnil (List.append_ne_nil_of_right_ne_nil before (List.cons_ne_nil b after))
  | cons x xs ih =>
    cases before with
    | nil =>
      obtain ⟨rfl, -⟩ := List.cons.inj h
      rw [hxs x List.mem_cons_self] at hb
      cases hb
    | cons y before =>
      obtain ⟨rfl, htail⟩ := List.cons.inj h
      rw [ih htail fun x hx => hxs x (List.mem_cons_of_mem _ hx)]

def memberOne : DomainParticipant := ⟨1, .ofPrefix 1, "client"⟩

def memberTwo : DomainParticipant := ⟨2, .ofPrefix 2, "client"⟩

def memberThree : DomainParticipant := ⟨3, .ofPrefix 3, "client"⟩

theorem discovered_runs_succeed_sample : ∃ s',
    run? Session.step (.start (.initial 0 0 0))
        (Session.pairMeets memberOne memberTwo ++ [.takeSnapshot 5 "pair" true false]) = some s' ∧
      s'.manager.validateAllSnapshots = true := by
  obtain ⟨s', hrun⟩ : ∃ s', run? Session.step (.start (.initial 0 0 0))
      (Session.pairMeets memberOne memberTwo ++ [.takeSnapshot 5 "pair" true false]) = some s' :=
    ⟨_, rfl⟩
  refine ⟨s', hrun, (discovered_runs_succeed rfl rfl hrun ?_).1⟩
  intro before tp desc someone showLiveliness after u hsplit hbefore
  have heq : before = Session.pairMeets memberOne memberTwo :=
    eq_of_snoc hsplit (p := Session.Action.isSnapshot) (by decide) rfl
  subst heq
  have hkeys : u.manager.registered.keys = [.ofPrefix 1, .ofPrefix 2] := by
    cases hbefore
    rfl
  exact ⟨_, Session.allDone_pair (by decide) hkeys⟩

theorem missed_runs_fail_sample : ∃ s',
    run? Session.step (.start (.initial 0 0 0))
        (Session.oneDeaf memberOne memberTwo memberThree ++
          [.takeSnapshot 5 "deaf" true false]) = some s' ∧
      s'.manager.validateAllSnapshots = false := by
  obtain ⟨s', hrun⟩ : ∃ s', run? Session.step (.start (.initial 0 0 0))
      (Session.oneDeaf memberOne memberTwo memberThree ++
        [.takeSnapshot 5 "deaf" true false]) = some s' := ⟨_, rfl⟩
  obtain ⟨u, hbefore, hkeys⟩ : ∃ u, run? Session.step (.start (.initial 0 0 0))
      (Session.oneDeaf memberOne memberTwo memberThree) = some u ∧
        u.manager.registered.keys = [.ofPrefix 1, .ofPrefix 2] := ⟨_, rfl, rfl⟩
  have hmisses :=
    Session.misses_two (c := memberThree.guid) (by decide) (by decide) (by decide) hkeys
  exact ⟨s', hrun, (missed_runs_fail rfl rfl hrun rfl hbefore hmisses).1⟩

end DiscoveryServer
