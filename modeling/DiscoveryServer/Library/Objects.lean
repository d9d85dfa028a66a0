import Mathlib.Data.List.Basic
import Mathlib.Tactic.SplitIfs

/-!
# Objects behind an interface

A client creates objects through an interface, calls them and has them deleted.
`Objects` says of every call which object it opens, which ones it uses and which
ones it closes; a call may close objects it does not name, as an owner going
takes what it owns along. Logs of calls have the latest call first.

`Sound` logs open no object twice and use open objects only. In such a log a
deletion, a call that uses the object it closes, happens once:
`not_mem_of_live` and, as an account, `count_closes`.
-/

namespace Library

/-- What the calls of an interface do to its objects. -/
structure Objects (γ ο : Type) where
  opens : γ → Option ο
  uses : γ → ο → Prop
  closes : γ → ο → Bool

namespace Objects

variable {γ ο : Type} (I : Objects γ ο)

/-- The objects open after a log. -/
def live : List γ → List ο
  | [] => []
  | c :: calls => (I.opens c).toList ++ (live calls).filter fun o => ¬ I.closes c o

/-- No object is opened twice, and only open objects are used. -/
def Sound : List γ → Prop
  | [] => True
  | c :: calls =>
    (∀ o ∈ I.opens c, ∀ d ∈ calls, I.opens d ≠ some o) ∧ (∀ o, I.uses c o → o ∈ live I calls) ∧
      Sound calls

theorem mem_live_cons {c : γ} {calls : List γ} {o : ο} :
    o ∈ I.live (c :: calls) ↔
      I.opens c = some o ∨ (o ∈ I.live calls ∧ I.closes c o = false) := by
  simp [live]

/-- A call that neither opens nor closes anything. -/
theorem live_cons_of_idle {c : γ} (hopens : I.opens c = none) (hcloses : ∀ o, I.closes c o = false)
    (calls : List γ) : I.live (c :: calls) = I.live calls := by
  rw [live, hopens]
  simp [hcloses]

/-- An open object has been opened. -/
theorem opened_of_live {calls : List γ} {o : ο} (h : o ∈ I.live calls) :
    ∃ c ∈ calls, I.opens c = some o := by
  induction calls with
  | nil => cases h
  | cons c calls ih =>
    rcases I.mem_live_cons.mp h with hopens | ⟨hlive, _⟩
    · exact ⟨c, List.mem_cons_self, hopens⟩
    · obtain ⟨d, hd, hopens⟩ := ih hlive
      exact ⟨d, List.mem_cons_of_mem c hd, hopens⟩

/-- A used object has been opened before. -/
theorem opened_of_uses {calls : List γ} (hsound : I.Sound calls) {c : γ} (hc : c ∈ calls) {o : ο}
    (huses : I.uses c o) : ∃ d ∈ calls, I.opens d = some o := by
  induction calls with
  | nil => cases hc
  | cons d calls ih =>
    obtain ⟨_, hused, hsound⟩ := hsound
    rcases List.mem_cons.mp hc with rfl | hc
    · obtain ⟨d, hd, hopens⟩ := I.opened_of_live (hused o huses)
      exact ⟨d, List.mem_cons_of_mem _ hd, hopens⟩
    · obtain ⟨d', hd', hopens⟩ := ih hsound hc
      exact ⟨d', List.mem_cons_of_mem d hd', hopens⟩

/-- **No second deletion.** An open object has not been deleted. -/
theorem not_mem_of_live {calls : List γ} (hsound : I.Sound calls) {o : ο} (h : o ∈ I.live calls)
    {c : γ} (huses : I.uses c o) (hcloses : I.closes c o = true) : c ∉ calls := by
  induction calls with
  | nil => exact List.not_mem_nil
  | cons d calls ih =>
    intro hc
    obtain ⟨hfresh, hused, hsound⟩ := hsound
    rcases I.mem_live_cons.mp h with hopens | ⟨hlive, hopen⟩
    · -- the object has just been opened, so nothing has been done to it before
      have hnever : ∀ d' ∈ calls, I.opens d' ≠ some o := hfresh o hopens
      have hopened : ∃ d' ∈ calls, I.opens d' = some o := by
        rcases List.mem_cons.mp hc with rfl | hc
        · exact I.opened_of_live (hused o huses)
        · exact I.opened_of_uses hsound hc huses
      obtain ⟨d', hd', heq⟩ := hopened
      exact hnever d' hd' heq
    · rcases List.mem_cons.mp hc with rfl | hc
      · rw [hopen] at hcloses
        cases hcloses
      · exact ih hsound hlive hc

/-- **The account of one object.** Where every closing call is a deletion, an
object is opened as often as it is deleted, once more while it is open. -/
theorem count_closes [DecidableEq ο] (hdeletion : ∀ c o, I.closes c o = true → I.uses c o)
    (hopen : ∀ c o, I.opens c = some o → I.closes c o = false) {calls : List γ}
    (hsound : I.Sound calls) (o : ο) :
    calls.countP (fun c => I.opens c = some o) =
      calls.countP (fun c => I.closes c o) + if o ∈ I.live calls then 1 else 0 := by
  induction calls with
  | nil => rfl
  | cons c calls ih =>
    obtain ⟨hfresh, hused, hsound⟩ := hsound
    have hcount := ih hsound
    rw [List.countP_cons, List.countP_cons]
    by_cases hopens : I.opens c = some o
    · have hnotlive : o ∉ I.live calls := fun hlive => by
        obtain ⟨d, hd, heq⟩ := I.opened_of_live hlive
        exact hfresh o hopens d hd heq
      rw [if_neg hnotlive] at hcount
      rw [if_pos (I.mem_live_cons.mpr (.inl hopens)), hopen c o hopens]
      simp only [hopens, decide_true, if_true, Bool.false_eq_true, if_false]
      omega
    · have hlive : o ∈ I.live (c :: calls) ↔ o ∈ I.live calls ∧ I.closes c o = false := by
        rw [I.mem_live_cons, or_iff_right hopens]
      simp only [hopens, decide_false, hlive]
      cases hcloses : I.closes c o with
      | false => simpa using hcount
      | true =>
        rw [if_pos (hused o (hdeletion c o hcloses))] at hcount
        simpa using hcount

/-- Nothing is opened more than once. -/
theorem count_opens_le_one [DecidableEq ο] {calls : List γ} (hsound : I.Sound calls) (o : ο) :
    calls.countP (fun c => I.opens c = some o) ≤ 1 := by
  induction calls with
  | nil => exact Nat.zero_le 1
  | cons c calls ih =>
    obtain ⟨hfresh, _, hsound⟩ := hsound
    rw [List.countP_cons]
    by_cases hopens : I.opens c = some o
    · have hzero : calls.countP (fun d => I.opens d = some o) = 0 := by
        rw [List.countP_eq_zero]
        intro d hd
        simpa using hfresh o hopens d hd
      rw [hzero]
      split_ifs <;> omega
    · rw [if_neg (by simpa using hopens)]
      exact ih hsound

end Objects

end Library
