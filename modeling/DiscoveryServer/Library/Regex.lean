import Mathlib.Logic.Function.Basic
import Mathlib.Data.List.TakeWhile

/-!
# Regular expressions that backtrack

Matching as ECMAScript defines it: a pattern is run with a continuation for what
comes after it, tries its alternatives in their order, and the first one with which
the continuation succeeds is the match. A quantifier is greedy, so it tries one more
repetition before it gives back what it has.

`greedy_eq` is the rule for a greedy repetition that never has to give anything back:
where the continuation fails, it also fails with one more character of the class
before it. `run_congr` says that a pattern hands over only ends of its input, and
`run_opt` that an optional pattern which needs a character is tried, then left out.
-/

namespace Library

/-- What is left of the input, and what the groups have captured. -/
structure Match where
  rest : List Char
  captures : Nat → Option (List Char)

/-- A pattern; `chars p min max` is a class with a quantifier. -/
inductive Regex where
  | char (p : Char → Bool)
  | chars (p : Char → Bool) (min : Nat) (max : Option Nat)
  | seq (r s : Regex)
  | opt (r : Regex)
  | group (n : Nat) (r : Regex)

namespace Regex

variable {β : Type}

/-- A repetition of a class: one character more, or else the continuation. -/
def greedy (p : Char → Bool) (k : List Char → Option β) : Nat → Option Nat → List Char → Option β
  | min, _, [] => if min = 0 then k [] else none
  | min, max, c :: cs =>
    (if p c ∧ max ≠ some 0 then greedy p k (min - 1) (max.map (· - 1)) cs else none).or
      (if min = 0 then k (c :: cs) else none)

/-- A pattern before a continuation. An optional pattern must not match nothing. -/
def run : Regex → (Match → Option β) → Match → Option β
  | char p, k, m =>
    match m.rest with
    | c :: cs => if p c then k { m with rest := cs } else none
    | [] => none
  | chars p min max, k, m => greedy p (fun rest => k { m with rest := rest }) min max m.rest
  | seq r s, k, m => run r (run s k) m
  | opt r, k, m =>
    (run r (fun m' => if m'.rest.length < m.rest.length then k m' else none) m).or (k m)
  | group n r, k, m =>
    run r (fun m' => k { m' with
      captures := Function.update m'.captures n
        (some (m.rest.take (m.rest.length - m'.rest.length))) }) m

/-- `regex_match`: the captures of the first match of the whole input. -/
def fullMatch (r : Regex) (s : List Char) : Option (Nat → Option (List Char)) :=
  run r (fun m => if m.rest = [] then some m.captures else none) ⟨s, fun _ => none⟩

/-- A pattern can match nothing. -/
def nullable : Regex → Bool
  | char _ => false
  | chars _ min _ => min = 0
  | seq r s => r.nullable && s.nullable
  | opt _ => true
  | group _ r => r.nullable

/-! ## What a continuation is given -/

theorem greedy_congr {p : Char → Bool} {k k' : List Char → Option β} {min : Nat}
    {max : Option Nat} {s : List Char}
    (h : ∀ rest, rest.length ≤ s.length → (min ≠ 0 → rest.length < s.length) →
      k rest = k' rest) :
    greedy p k min max s = greedy p k' min max s := by
  induction s generalizing min max with
  | nil =>
    unfold greedy
    by_cases hmin : min = 0
    · rw [if_pos hmin, if_pos hmin, h [] (Nat.le_refl _) (fun hne => absurd hmin hne)]
    · rw [if_neg hmin, if_neg hmin]
  | cons c cs ih =>
    have hmore : greedy p k (min - 1) (max.map (· - 1)) cs =
        greedy p k' (min - 1) (max.map (· - 1)) cs := by
      apply ih
      intro rest hle _
      exact h rest (Nat.le_succ_of_le hle) fun _ => Nat.lt_succ_of_le hle
    have hstop : (if min = 0 then k (c :: cs) else none) =
        if min = 0 then k' (c :: cs) else none := by
      by_cases hmin : min = 0
      · rw [if_pos hmin, if_pos hmin, h _ (Nat.le_refl _) (fun hne => absurd hmin hne)]
      · rw [if_neg hmin, if_neg hmin]
    simp only [greedy, hmore, hstop]

/-- **Locality**: continuations that agree on the ends of the input, on the proper
ones where the pattern needs a character, cannot be told apart. -/
theorem run_congr {r : Regex} {k k' : Match → Option β} {m : Match}
    (h : ∀ m', m'.rest.length ≤ m.rest.length →
      (r.nullable = false → m'.rest.length < m.rest.length) → k m' = k' m') :
    run r k m = run r k' m := by
  induction r generalizing k k' m with
  | char p =>
    simp only [run]
    cases hrest : m.rest with
    | nil => rfl
    | cons c cs =>
      have hlt : cs.length < m.rest.length := by simp [hrest]
      dsimp only
      rw [h { m with rest := cs } (Nat.le_of_lt hlt) fun _ => hlt]
  | chars p min max =>
    simp only [run]
    apply greedy_congr
    intro rest hle hlt
    exact h _ hle fun hnull => hlt (of_decide_eq_false hnull)
  | seq r s ihr ihs =>
    simp only [run]
    apply ihr
    intro m' hle hlt
    apply ihs
    intro m'' hle' hlt'
    refine h m'' (Nat.le_trans hle' hle) fun hnull => ?_
    rw [nullable, Bool.and_eq_false_iff] at hnull
    cases hnull with
    | inl hr => exact Nat.lt_of_le_of_lt hle' (hlt hr)
    | inr hs => exact Nat.lt_of_lt_of_le (hlt' hs) hle
  | opt r ih =>
    simp only [run]
    rw [h m (Nat.le_refl _) nofun]
    congr 1
    apply ih
    intro m' hle _
    by_cases hlt : m'.rest.length < m.rest.length
    · rw [if_pos hlt, if_pos hlt, h m' hle nofun]
    · rw [if_neg hlt, if_neg hlt]
  | group n r ih =>
    simp only [run]
    apply ih
    intro m' hle hlt
    exact h _ hle hlt

/-- An optional pattern that needs a character. -/
theorem run_opt {r : Regex} (hr : r.nullable = false) (k : Match → Option β) (m : Match) :
    run (opt r) k m = (run r k m).or (k m) := by
  rw [run]
  congr 1
  apply run_congr
  intro m' _ hlt
  rw [if_pos (hlt hr)]

/-! ## Repetitions that give nothing back -/

/-- The characters of a class at the start of a text, at most `max`. -/
def longest (p : Char → Bool) (max : Option Nat) (s : List Char) : List Char :=
  (match max with
    | some n => s.take n
    | none => s).takeWhile p

theorem longest_cons (p : Char → Bool) (max : Option Nat) (c : Char) (cs : List Char) :
    longest p max (c :: cs) =
      if p c ∧ max ≠ some 0 then c :: longest p (max.map (· - 1)) cs else [] := by
  unfold longest
  cases max with
  | none => by_cases hp : p c <;> simp [hp]
  | some n =>
    cases n with
    | zero => simp
    | succ n => by_cases hp : p c <;> simp [hp]

/-- The continuation fails with any more characters of the class before a text it
fails on. -/
theorem absorbs_append {p : Char → Bool} {k : List Char → Option β}
    (habsorbs : ∀ c cs, p c → k cs = none → k (c :: cs) = none) {taken rest : List Char}
    (htaken : ∀ c ∈ taken, p c) (hrest : k rest = none) : k (taken ++ rest) = none := by
  induction taken with
  | nil => exact hrest
  | cons c cs ih =>
    have hcs := ih fun d hd => htaken d (List.mem_cons_of_mem _ hd)
    exact habsorbs c _ (htaken c List.mem_cons_self) hcs

theorem longest_append_drop (p : Char → Bool) (max : Option Nat) (s : List Char) :
    longest p max s ++ s.drop (longest p max s).length = s := by
  induction s generalizing max with
  | nil => cases max <;> simp [longest]
  | cons c cs ih =>
    rw [longest_cons]
    split_ifs with h
    · simp only [List.length_cons, List.drop_succ_cons, List.cons_append, ih]
    · rfl

theorem of_mem_longest {p : Char → Bool} {max : Option Nat} {s : List Char} {c : Char}
    (h : c ∈ longest p max s) : p c := List.mem_takeWhile_imp h

/-- **A greedy repetition that gives nothing back** takes the longest run of its
class, if that is long enough. -/
theorem greedy_eq {p : Char → Bool} {k : List Char → Option β}
    (habsorbs : ∀ c cs, p c → k cs = none → k (c :: cs) = none) (min : Nat)
    (max : Option Nat) (s : List Char) :
    greedy p k min max s =
      if min ≤ (longest p max s).length then k (s.drop (longest p max s).length) else none := by
  induction s generalizing min max with
  | nil =>
    have hnil : longest p max [] = [] := by cases max <;> simp [longest]
    simp [greedy, hnil]
  | cons c cs ih =>
    rw [greedy, ih, longest_cons]
    by_cases hmore : p c ∧ max ≠ some 0
    · simp only [if_pos hmore, List.length_cons, List.drop_succ_cons]
      have hwhole := longest_append_drop p (max.map (· - 1)) cs
      generalize hl : longest p (max.map (· - 1)) cs = taken at *
      by_cases hlen : min ≤ taken.length + 1
      · rw [if_pos (show min - 1 ≤ taken.length by omega), if_pos hlen]
        cases hk : k (cs.drop taken.length) with
        | some b => rfl
        | none =>
          -- giving characters back does not help
          have hcs : k cs = none := by
            rw [← hwhole]
            exact absorbs_append habsorbs (fun c hc => of_mem_longest (hl ▸ hc)) hk
          rw [habsorbs c cs hmore.1 hcs]
          simp
      · rw [if_neg (show ¬ min - 1 ≤ taken.length by omega), if_neg hlen,
          if_neg (show min ≠ 0 by omega)]
        rfl
    · simp only [if_neg hmore, List.length_nil, Nat.le_zero_eq, List.drop_zero, Option.none_or]

end Regex

end Library
