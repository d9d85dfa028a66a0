import DiscoveryServer.Library.Regex
import DiscoveryServer.ListeningTransports

/-!
# The syntax of listening ports

`ipv4_regular_expression` as the pattern it is, matched by backtracking: whatever the
attribute, `Ipv4RegularExpression.regexMatch` is what `regex_match` gives
(`regexMatch_eq`). All three parts of the pattern are optional, so it also accepts
texts without a port, and an address and a port with nothing between them; and its
octets have any three digits. `listening_port_iff` says for which attributes `loadClient`
keeps to the syntax `[a.b.c.d:]p` all the same.
-/

namespace DiscoveryServer

open Library

namespace Ipv4RegularExpression

/-! ## The pattern -/

/-- `[0-9]{1,3}`. -/
def octet : Regex := .chars Char.isDigit 1 (some 3)

/-- `[0-9]{1,3}\.`. -/
def dotted : Regex := .seq octet (.char (· = '.'))

/-- `(?:[0-9]{1,3}\.){3}[0-9]{1,3}`. -/
def quad : Regex := .seq dotted (.seq dotted (.seq dotted octet))

/-- `(?:(\d+))?`. -/
def portGroup : Regex := .opt (.group 2 (.chars Char.isDigit 1 none))

/-- `:?(?:(\d+))?`. -/
def suffix : Regex := .seq (.opt (.char (· = ':'))) portGroup

/-- `^((?:[0-9]{1,3}\.){3}[0-9]{1,3})?:?(?:(\d+))?$`. -/
def pattern : Regex := .seq (.opt (.group 1 quad)) suffix

/-! ## Its parts -/

section Parts

variable {β : Type} {k : Match → Option β} {m : Match}

theorem ne_of_isDigit {c d : Char} (hc : c.isDigit) (hd : d.isDigit = false) : c ≠ d := by
  intro h
  rw [h, hd] at hc
  cases hc

theorem longest_none (s : List Char) :
    Regex.longest Char.isDigit none s = s.takeWhile Char.isDigit := rfl

theorem longest_three (s : List Char) :
    Regex.longest Char.isDigit (some 3) s = (s.take 3).takeWhile Char.isDigit := rfl

/-- A text is its digits and what is left of it, which starts with no digit. -/
theorem digits_cases (s : List Char) : ∃ digits rest, s = digits ++ rest ∧
    s.takeWhile Char.isDigit = digits ∧ s.dropWhile Char.isDigit = rest ∧
    (∀ c ∈ digits, c.isDigit) ∧ ∀ c ∈ rest.head?, c.isDigit = false := by
  refine ⟨s.takeWhile Char.isDigit, s.dropWhile Char.isDigit, ?_, rfl, rfl, ?_, ?_⟩
  · exact List.takeWhile_append_dropWhile.symm
  · intro c hc
    exact List.mem_takeWhile_imp hc
  · intro c hc
    have hhead := List.head?_dropWhile_not Char.isDigit s
    rw [Option.mem_def.mp hc] at hhead
    simpa using hhead

/-- An octet with its dot is what `dottedOctet` takes. -/
theorem run_dotted :
    Regex.run dotted k m = (dottedOctet m.rest).bind fun r => k { m with rest := r.2 } := by
  unfold dotted octet
  rw [Regex.run, Regex.run, Regex.greedy_eq, longest_three, ← List.take_takeWhile]
  · obtain ⟨digits, rest, hs, htake, hdrop, hdigits, hrest⟩ := digits_cases m.rest
    unfold dottedOctet
    rw [htake, hdrop, hs]
    simp only [Regex.run]
    by_cases hlen : digits.length ≤ 3
    · rw [List.take_of_length_le hlen, List.drop_left]
      cases rest with
      | nil => simp
      | cons c cs =>
        by_cases hdot : c = '.'
        · subst hdot
          by_cases hpos : 1 ≤ digits.length
          · simp [hpos, hlen]
          · simp [hpos]
        · simp [hdot]
    · -- a fourth digit stands where the dot should be
      have hthree : (digits.take 3).length = 3 := by
        rw [List.length_take]
        omega
      rw [hthree, List.drop_append_of_le_length (by omega)]
      cases hmore : digits.drop 3 with
      | nil =>
        have hnone := List.drop_eq_nil_iff.mp hmore
        omega
      | cons d ds =>
        have hd : d.isDigit := hdigits d (List.mem_of_mem_drop (hmore ▸ List.mem_cons_self))
        have hdot : d ≠ '.' := ne_of_isDigit hd rfl
        cases rest with
        | nil => simp [hdot]
        | cons c cs =>
          by_cases hc : c = '.'
          · subst hc
            simp [hdot, hlen]
          · simp [hdot, hc]
  · intro c cs hc _
    have hdot : c ≠ '.' := ne_of_isDigit hc rfl
    simp only [Regex.run, decide_eq_true_eq, if_neg hdot]

/-- An octet takes as many digits as it may where giving one back does not help. -/
theorem run_octet
    (habsorbs : ∀ c cs, c.isDigit → k { m with rest := cs } = none →
      k { m with rest := c :: cs } = none) :
    Regex.run octet k m = (lastOctet m.rest).bind fun r => k { m with rest := r.2 } := by
  unfold octet
  rw [Regex.run, Regex.greedy_eq habsorbs, longest_three]
  unfold lastOctet
  by_cases hnil : (m.rest.take 3).takeWhile Char.isDigit = []
  · simp [hnil]
  · have hlen : 1 ≤ ((m.rest.take 3).takeWhile Char.isDigit).length :=
      List.length_pos_iff.mpr hnil
    simp [hnil, hlen]

theorem run_quad
    (habsorbs : ∀ c cs, c.isDigit → k { m with rest := cs } = none →
      k { m with rest := c :: cs } = none) :
    Regex.run quad k m = (address m.rest).bind fun r => k { m with rest := r.2 } := by
  unfold quad
  simp only [Regex.run, run_dotted]
  have hoctet : ∀ s, Regex.run octet k { m with rest := s } =
      (lastOctet s).bind fun r => k { m with rest := r.2 } := fun s => run_octet habsorbs
  simp only [hoctet]
  unfold address
  simp only [Option.bind_eq_bind, Option.bind_assoc, Option.pure_def, Option.bind_some]

end Parts

/-! ## The whole -/

/-- What `regex_match` does at the end of the pattern. -/
def accept (m : Match) : Option (Nat → Option (List Char)) :=
  if m.rest = [] then some m.captures else none

/-- The groups when the second one has matched `digits`, if it has matched at all. -/
def withPort (captures : Nat → Option (List Char)) (digits : List Char) :
    Nat → Option (List Char) :=
  if digits = [] then captures else Function.update captures 2 (some digits)

theorem run_portGroup (m : Match) :
    Regex.run portGroup accept m =
      if m.rest.all Char.isDigit then some (withPort m.captures m.rest) else none := by
  unfold portGroup
  rw [Regex.run_opt rfl, Regex.run, Regex.run, Regex.greedy_eq, longest_none]
  · obtain ⟨digits, rest, hs, htake, hdrop, hdigits, hrest⟩ := digits_cases m.rest
    have hall : digits.all Char.isDigit = true := List.all_eq_true.mpr hdigits
    rw [htake, hs, List.drop_left]
    unfold accept withPort
    rw [hs]
    cases rest with
    | nil =>
      cases digits with
      | nil => simp
      | cons d ds => simp [hall]
    | cons c cs =>
      have hc : c.isDigit = false := hrest c rfl
      simp [hc]
  · intro c cs _ _
    rfl

theorem port_colon (ds : List Char) :
    port (':' :: ds) = if ds.all Char.isDigit then some ds else none := rfl

theorem port_of_ne {s : List Char} (h : s.head? ≠ some ':') :
    port s = if s.all Char.isDigit then some s else none := by
  unfold port
  cases s with
  | nil => rfl
  | cons c cs =>
    have hc : c ≠ ':' := fun hc => h (congrArg some hc)
    simp [hc]

theorem run_suffix (m : Match) :
    Regex.run suffix accept m = (port m.rest).map (withPort m.captures) := by
  unfold suffix
  rw [Regex.run, Regex.run_opt rfl, run_portGroup, Regex.run]
  cases hrest : m.rest with
  | nil => rfl
  | cons c cs =>
    by_cases hcolon : c = ':'
    · subst hcolon
      have hfirst : (':' :: cs).all Char.isDigit = false := rfl
      simp only [decide_true, ↓reduceIte, run_portGroup, hfirst, Bool.false_eq_true,
        Option.or_none, port_colon]
      split_ifs <;> rfl
    · have hne : (c :: cs).head? ≠ some ':' := fun h => hcolon (Option.some.inj h)
      simp only [decide_eq_true_eq, if_neg hcolon, Option.none_or, port_of_ne hne]
      split_ifs <;> rfl

/-- A digit in front of a text does not make it a suffix. -/
theorem port_absorbs {c : Char} {cs : List Char} (hc : c.isDigit) (hcs : port cs = none) :
    port (c :: cs) = none := by
  have hcolon : (c :: cs).head? ≠ some ':' := fun h => ne_of_isDigit hc rfl (Option.some.inj h)
  rw [port_of_ne hcolon]
  rw [if_neg]
  intro hall
  rw [List.all_cons, Bool.and_eq_true] at hall
  have hhead : cs.head? ≠ some ':' := by
    intro hhead
    have hmem := List.mem_of_mem_head? (Option.mem_def.mpr hhead)
    exact absurd (List.all_eq_true.mp hall.2 _ hmem) (by decide)
  rw [port_of_ne hhead, if_pos hall.2] at hcs
  cases hcs

/-- An octet with its dot. -/
theorem dottedOctet_eq_some {s a rest : List Char} (h : dottedOctet s = some (a, rest)) :
    ∃ digits, a = digits ++ ['.'] ∧ s = a ++ rest ∧ 1 ≤ digits.length ∧ digits.length ≤ 3 ∧
      ∀ c ∈ digits, c.isDigit := by
  obtain ⟨digits, tail, hs, htake, hdrop, hdigits, _⟩ := digits_cases s
  unfold dottedOctet at h
  rw [htake, hdrop] at h
  cases tail with
  | nil => cases h
  | cons c cs =>
    by_cases hc : c = '.'
    · subst hc
      by_cases hlen : 1 ≤ digits.length ∧ digits.length ≤ 3
      · simp only [if_pos hlen, Option.some.injEq, Prod.mk.injEq] at h
        obtain ⟨rfl, rfl⟩ := h
        exact ⟨digits, rfl, by simp [hs], hlen.1, hlen.2, hdigits⟩
      · simp only [if_neg hlen] at h
        cases h
    · simp [hc] at h

theorem lastOctet_eq_some {s a rest : List Char} (h : lastOctet s = some (a, rest)) :
    s = a ++ rest ∧ 1 ≤ a.length ∧ a.length ≤ 3 ∧ ∀ c ∈ a, c.isDigit := by
  unfold lastOctet at h
  dsimp only at h
  split_ifs at h with hnil
  cases h
  refine ⟨?_, List.length_pos_iff.mpr hnil, ?_, fun c hc => List.mem_takeWhile_imp hc⟩
  · exact (Regex.longest_append_drop Char.isDigit (some 3) s).symm
  · rw [← List.take_takeWhile, List.length_take]
    omega

/-- `a.b.c.d`, each part of one to three digits. -/
def IsAddress (a : List Char) : Prop :=
  ∃ w x y z : List Char, a = w ++ '.' :: (x ++ '.' :: (y ++ '.' :: z)) ∧
    ∀ part ∈ [w, x, y, z], 1 ≤ part.length ∧ part.length ≤ 3 ∧ ∀ c ∈ part, c.isDigit

theorem address_eq_some {s a rest : List Char} (h : address s = some (a, rest)) :
    s = a ++ rest ∧ IsAddress a := by
  unfold address at h
  simp only [Option.bind_eq_bind, Option.bind_eq_some_iff, Option.pure_def, Option.some.injEq,
    Prod.exists, Prod.mk.injEq] at h
  obtain ⟨a₁, s₁, h₁, a₂, s₂, h₂, a₃, s₃, h₃, a₄, s₄, h₄, rfl, rfl⟩ := h
  obtain ⟨w, rfl, hs, hw⟩ := dottedOctet_eq_some h₁
  obtain ⟨x, rfl, hs₁, hx⟩ := dottedOctet_eq_some h₂
  obtain ⟨y, rfl, hs₂, hy⟩ := dottedOctet_eq_some h₃
  obtain ⟨hs₃, hz⟩ := lastOctet_eq_some h₄
  refine ⟨?_, w, x, y, a₄, ?_, ?_⟩
  · simp only [hs, hs₁, hs₂, hs₃, List.append_assoc]
  · simp only [List.append_assoc, List.cons_append, List.nil_append]
  · simp only [List.forall_mem_cons, List.not_mem_nil, IsEmpty.forall_iff, implies_true, and_true]
    exact ⟨hw, hx, hy, hz⟩

/-- A text that starts with an address has a dot, so it is no suffix. -/
theorem port_of_address {s a rest : List Char} (h : address s = some (a, rest)) :
    port s = none := by
  obtain ⟨hs, w, x, y, z, ha, hparts⟩ := address_eq_some h
  obtain ⟨hlen, _, hw⟩ := hparts w List.mem_cons_self
  have hhead : s.head? ≠ some ':' := by
    rw [hs, ha]
    cases w with
    | nil => cases hlen
    | cons c cs =>
      exact fun hc => ne_of_isDigit (hw c List.mem_cons_self) rfl (Option.some.inj hc)
  rw [port_of_ne hhead, if_neg]
  intro hall
  have hdot : '.' ∈ s := by
    rw [hs, ha]
    simp
  exact absurd (List.all_eq_true.mp hall _ hdot) (by decide)

/-- The groups of an address. -/
def withAddress (a : List Char) : Nat → Option (List Char) :=
  Function.update (fun _ => none) 1 (some a)

theorem fullMatch_pattern (s : List Char) :
    pattern.fullMatch s =
      match address s with
      | some (a, rest) => (port rest).map (withPort (withAddress a))
      | none => (port s).map (withPort fun _ => none) := by
  have hfull : pattern.fullMatch s = Regex.run pattern accept ⟨s, fun _ => none⟩ := rfl
  rw [hfull, pattern, Regex.run, Regex.run_opt rfl, Regex.run, run_suffix, run_quad]
  · cases haddress : address s with
    | none => rfl
    | some r =>
      obtain ⟨a, rest⟩ := r
      obtain ⟨hs, _⟩ := address_eq_some haddress
      have htaken : s.take (s.length - rest.length) = a := by
        rw [hs, List.length_append, Nat.add_sub_cancel, List.take_left]
      dsimp only [Option.bind_some]
      rw [port_of_address haddress, run_suffix, htaken, Option.map_none, Option.or_none]
      rfl
  · intro c cs hc hcs
    rw [run_suffix, Option.map_eq_none_iff] at hcs ⊢
    exact port_absorbs hc hcs

theorem withPort_one (captures : Nat → Option (List Char)) (digits : List Char) :
    withPort captures digits 1 = captures 1 := by
  unfold withPort
  split_ifs
  · rfl
  · rw [Function.update_of_ne (by decide)]

theorem withPort_two {captures : Nat → Option (List Char)} (h : captures 2 = none)
    (digits : List Char) : (withPort captures digits 2).getD [] = digits := by
  unfold withPort
  split_ifs with hnil
  · rw [h, hnil]
    rfl
  · rw [Function.update_self]
    rfl

/-- **The deterministic match is the one of the pattern.** -/
theorem regexMatch_eq (s : String) :
    regexMatch s = (pattern.fullMatch s.toList).map fun captures =>
      (String.ofList ((captures 1).getD []), (captures 2).getD []) := by
  rw [fullMatch_pattern]
  unfold regexMatch
  cases address s.toList with
  | none =>
    cases port s.toList with
    | none => rfl
    | some digits =>
      simp only [Option.map_some, withPort_one, withPort_two]
      rfl
  | some r =>
    obtain ⟨a, rest⟩ := r
    cases hport : port rest with
    | none => simp only [hport, Option.map_none]
    | some digits =>
      have htwo : withAddress a 2 = none := rfl
      simp only [hport, Option.map_some, withPort_one, withPort_two htwo]
      rfl

theorem port_eq_some {s digits : List Char} (h : port s = some digits) :
    (∀ c ∈ digits, c.isDigit) ∧ (s = digits ∨ s = ':' :: digits) := by
  by_cases hcolon : s.head? = some ':'
  · obtain ⟨ds, rfl⟩ := List.head?_eq_some_iff.mp hcolon
    rw [port_colon] at h
    split_ifs at h with hall
    cases h
    exact ⟨List.all_eq_true.mp hall, .inr rfl⟩
  · rw [port_of_ne hcolon] at h
    split_ifs at h with hall
    cases h
    exact ⟨List.all_eq_true.mp hall, .inl rfl⟩

/-- What a text that matches looks like. -/
theorem regexMatch_eq_some {s a : String} {digits : List Char}
    (h : regexMatch s = some (a, digits)) :
    (∀ c ∈ digits, c.isDigit) ∧ (a = "" ∨ IsAddress a.toList) ∧
      (s.toList = a.toList ++ digits ∨ s.toList = a.toList ++ ':' :: digits) := by
  unfold regexMatch at h
  cases haddress : address s.toList with
  | none =>
    rw [haddress] at h
    obtain ⟨ds, hport, hds⟩ := Option.map_eq_some_iff.mp h
    cases hds
    obtain ⟨hdigits, hs⟩ := port_eq_some hport
    exact ⟨hdigits, .inl rfl, hs⟩
  | some r =>
    obtain ⟨w, rest⟩ := r
    rw [haddress] at h
    obtain ⟨ds, hport, hds⟩ := Option.map_eq_some_iff.mp h
    cases hds
    obtain ⟨hs, hw⟩ := address_eq_some haddress
    obtain ⟨hdigits, hrest⟩ := port_eq_some hport
    rw [String.toList_ofList]
    refine ⟨hdigits, .inr hw, ?_⟩
    cases hrest with
    | inl hrest => exact .inl (by rw [hs, hrest])
    | inr hrest => exact .inr (by rw [hs, hrest])

/-! ## Well-formed texts match -/

theorem takeWhile_digits {ds rest : List Char} (hds : ∀ c ∈ ds, c.isDigit)
    (hrest : ∀ c ∈ rest.head?, c.isDigit = false) :
    (ds ++ rest).takeWhile Char.isDigit = ds ∧ (ds ++ rest).dropWhile Char.isDigit = rest := by
  rw [List.takeWhile_append_of_pos hds, List.dropWhile_append_of_pos hds]
  cases rest with
  | nil => simp
  | cons c cs =>
    have hc := hrest c rfl
    simp [hc]

theorem dottedOctet_eq {w rest : List Char} (hlen : 1 ≤ w.length ∧ w.length ≤ 3)
    (hw : ∀ c ∈ w, c.isDigit) : dottedOctet (w ++ '.' :: rest) = some (w ++ ['.'], rest) := by
  have hdot : ∀ c ∈ ('.' :: rest).head?, c.isDigit = false := by
    intro c hc
    cases hc
    rfl
  obtain ⟨htake, hdrop⟩ := takeWhile_digits hw hdot
  unfold dottedOctet
  simp only [htake, hdrop, if_pos hlen]

theorem lastOctet_eq {z rest : List Char} (hlen : 1 ≤ z.length ∧ z.length ≤ 3)
    (hz : ∀ c ∈ z, c.isDigit) (hrest : ∀ c ∈ rest.head?, c.isDigit = false) :
    lastOctet (z ++ rest) = some (z, rest) := by
  obtain ⟨htake, _⟩ := takeWhile_digits hz hrest
  have hne : z ≠ [] := List.length_pos_iff.mp hlen.1
  unfold lastOctet
  rw [← List.take_takeWhile, htake, List.take_of_length_le hlen.2]
  simp only [if_neg hne, List.drop_left]

/-- An address in front of what is no digit. -/
theorem address_eq {a rest : List Char} (ha : IsAddress a)
    (hrest : ∀ c ∈ rest.head?, c.isDigit = false) : address (a ++ rest) = some (a, rest) := by
  obtain ⟨w, x, y, z, rfl, hparts⟩ := ha
  simp only [List.forall_mem_cons, List.not_mem_nil, IsEmpty.forall_iff, implies_true,
    and_true] at hparts
  obtain ⟨⟨hw, hw', hwd⟩, ⟨hx, hx', hxd⟩, ⟨hy, hy', hyd⟩, ⟨hz, hz', hzd⟩⟩ := hparts
  unfold address
  simp only [List.append_assoc, List.cons_append, dottedOctet_eq ⟨hw, hw'⟩ hwd,
    dottedOctet_eq ⟨hx, hx'⟩ hxd, dottedOctet_eq ⟨hy, hy'⟩ hyd,
    lastOctet_eq ⟨hz, hz'⟩ hzd hrest, Option.bind_eq_bind, Option.bind_some, Option.pure_def,
    List.nil_append]

/-- Digits alone are no address. -/
theorem address_digits {ds : List Char} (hds : ∀ c ∈ ds, c.isDigit) : address ds = none := by
  have hwhole : ds.dropWhile Char.isDigit = [] := by
    have hempty := (takeWhile_digits hds
      (show ∀ c ∈ ([] : List Char).head?, c.isDigit = false from nofun)).2
    rwa [List.append_nil] at hempty
  have hfirst : dottedOctet ds = none := by
    unfold dottedOctet
    rw [hwhole]
  unfold address
  rw [hfirst]
  rfl

end Ipv4RegularExpression

open Ipv4RegularExpression

/-! ## `[a.b.c.d:]p` -/

/-- A decimal number in 1..65535. -/
structure IsPort (digits : List Char) (p : Nat) : Prop where
  nonempty : digits ≠ []
  decimal : ∀ c ∈ digits, c.isDigit
  value : leadingNumber digits = p
  lower : 1 ≤ p
  upper : p ≤ 65535

/-- A text is `p`, with no address, or `a.b.c.d:p`. -/
def IsListeningPort (s a : String) (digits : List Char) (p : Nat) : Prop :=
  IsPort digits p ∧
    (a = "" ∧ s.toList = digits ∨ IsAddress a.toList ∧ s.toList = a.toList ++ ':' :: digits)

/-- A well-formed text matches with its parts. -/
theorem IsListeningPort.regexMatch {s a : String} {digits : List Char} {p : Nat}
    (h : IsListeningPort s a digits p) : regexMatch s = some (a, digits) := by
  obtain ⟨hport, hs⟩ := h
  have hall : digits.all Char.isDigit = true := List.all_eq_true.mpr hport.decimal
  unfold Ipv4RegularExpression.regexMatch
  cases hs with
  | inl hs =>
    obtain ⟨rfl, hs⟩ := hs
    have hcolon : digits.head? ≠ some ':' := by
      intro hhead
      have hmem := List.mem_of_mem_head? (Option.mem_def.mpr hhead)
      exact absurd (hport.decimal _ hmem) (by decide)
    rw [hs, address_digits hport.decimal, port_of_ne hcolon, if_pos hall]
    rfl
  | inr hs =>
    obtain ⟨ha, hs⟩ := hs
    have hcolon : ∀ c ∈ (':' :: digits).head?, c.isDigit = false := by
      intro c hc
      cases hc
      rfl
    rw [hs, address_eq ha hcolon]
    simp only [port_colon, if_pos hall, Option.map_some, String.ofList_toList]

/-- An address has characters. -/
theorem isAddress_ne_nil {a : List Char} (h : IsAddress a) : a ≠ [] := by
  obtain ⟨w, x, y, z, rfl, _⟩ := h
  simp

/-- What the pattern accepts besides `[a.b.c.d:]p`: no port, a port that is zero or
needs more than 16 bits, a colon without an address, an address and a port with
nothing between them. -/
def Slips (lp : String) : Prop :=
  ∃ a digits, regexMatch lp = some (a, digits) ∧
    (digits = [] ∨ leadingNumber digits = 0 ∨ 65535 < leadingNumber digits ∨
      (a = "" ∧ lp.toList.head? = some ':') ∨ (a ≠ "" ∧ lp.toList = a.toList ++ digits))

theorem not_slips_of_isListeningPort {lp a : String} {digits : List Char} {p : Nat}
    (h : IsListeningPort lp a digits p) : ¬ Slips lp := by
  intro hslips
  obtain ⟨a', digits', hmatch, hslip⟩ := hslips
  rw [h.regexMatch] at hmatch
  cases hmatch
  obtain ⟨hport, hs⟩ := h
  have hvalue := hport.value
  have hlower := hport.lower
  have hupper := hport.upper
  obtain hnil | hzero | hlarge | ⟨hnone, hhead⟩ | ⟨hsome, htext⟩ := hslip
  · exact hport.nonempty hnil
  · omega
  · omega
  · cases hs with
    | inl hs =>
      rw [hs.2] at hhead
      have hmem := List.mem_of_mem_head? (Option.mem_def.mpr hhead)
      exact absurd (hport.decimal _ hmem) (by decide)
    | inr hs =>
      rw [hnone] at hs
      exact isAddress_ne_nil hs.1 rfl
  · cases hs with
    | inl hs => exact hsome hs.1
    | inr hs =>
      rw [hs.2] at htext
      have hlen := congrArg List.length (List.append_cancel_left htext)
      rw [List.length_cons] at hlen
      omega

theorem isListeningPort_of_not_slips {lp a : String} {digits : List Char}
    (hmatch : regexMatch lp = some (a, digits)) (h : ¬ Slips lp) :
    IsListeningPort lp a digits (leadingNumber digits) := by
  obtain ⟨hdigits, haddress, hs⟩ := regexMatch_eq_some hmatch
  have hno : ¬ (digits = [] ∨ leadingNumber digits = 0 ∨ 65535 < leadingNumber digits ∨
      (a = "" ∧ lp.toList.head? = some ':') ∨ (a ≠ "" ∧ lp.toList = a.toList ++ digits)) :=
    fun hslip => h ⟨a, digits, hmatch, hslip⟩
  simp only [not_or] at hno
  obtain ⟨hnil, hzero, hlarge, hcolon, hseparated⟩ := hno
  refine ⟨⟨hnil, hdigits, rfl, by omega, by omega⟩, ?_⟩
  by_cases hempty : a = ""
  · subst hempty
    cases hs with
    | inl hs => exact .inl ⟨rfl, hs⟩
    | inr hs => exact absurd ⟨rfl, by rw [hs]; rfl⟩ hcolon
  · cases hs with
    | inl hs => exact absurd ⟨hempty, hs⟩ hseparated
    | inr hs => exact .inr ⟨haddress.resolve_left hempty, hs⟩

/-- A number of the address needs more than 8 bits. -/
def LargeOctet (lp : String) : Prop :=
  ∃ a digits, regexMatch lp = some (a, digits) ∧ ∃ n ∈ addressNumbers a, 255 < n

/-- What is documented of `set_WAN_address`: it stores the octets that an address
spells. -/
def StoresOctets (readWan : String → WanAddress) : Prop :=
  ∀ a : String, IsAddress a.toList → (∀ n ∈ addressNumbers a, n ≤ 255) →
    (readWan a).numbers = addressNumbers a

/-- An octet is at most 255. -/
theorem numbers_le (wan : WanAddress) : ∀ n ∈ wan.numbers, n ≤ 255 := by
  unfold WanAddress.numbers
  simp only [List.forall_mem_cons, List.not_mem_nil, IsEmpty.forall_iff, implies_true, and_true]
  omega

/-- An address has four numbers. -/
theorem addressNumbers_of_isAddress {a : String} (h : IsAddress a.toList) :
    ∃ n₁ n₂ n₃ n₄, addressNumbers a = [n₁, n₂, n₃, n₄] := by
  obtain ⟨w, x, y, z, ha, hparts⟩ := h
  have hdot : ∀ part ∈ [w, x, y, z], '.' ∉ part := by
    intro part hpart hmem
    exact absurd ((hparts part hpart).2.2 _ hmem) (by decide)
  simp only [List.forall_mem_cons] at hdot
  obtain ⟨hw, hx, hy, hz, _⟩ := hdot
  unfold addressNumbers
  rw [ha, List.splitOn_append_cons_self, List.splitOn_append_cons_self,
    List.splitOn_append_cons_self, List.splitOn_eq_singleton hw, List.splitOn_eq_singleton hx,
    List.splitOn_eq_singleton hy, List.splitOn_eq_singleton hz]
  exact ⟨_, _, _, _, rfl⟩

theorem storesOctets_ofText : StoresOctets WanAddress.ofText := by
  intro a haddress hle
  obtain ⟨n₁, n₂, n₃, n₄, hnumbers⟩ := addressNumbers_of_isAddress haddress
  rw [hnumbers] at hle ⊢
  simp only [List.forall_mem_cons, List.not_mem_nil, IsEmpty.forall_iff, implies_true,
    and_true] at hle
  have hmod : ∀ n ≤ 255, n % 2 ^ 8 = n := by
    intro n hn
    omega
  unfold WanAddress.ofText WanAddress.numbers
  simp only [hnumbers, List.getD_cons_zero, List.getD_cons_succ, BitVec.toNat_ofNat]
  rw [hmod n₁ hle.1, hmod n₂ hle.2.1, hmod n₃ hle.2.2.1, hmod n₄ hle.2.2.2]

/-! ## `loadClient` -/

namespace TransportDescriptor

def listeningPorts : TransportDescriptor → List (BitVec 16)
  | tcpv4 ports _ => ports
  | tcpv6 ports => ports
  | _ => []

def wanAddress : TransportDescriptor → Option WanAddress
  | tcpv4 _ wan => some wan
  | _ => none

theorem listening_ports {d : TransportDescriptor} (htcp : d.isTcp = true)
    (hnone : d.listeningPorts = []) (readWan : String → WanAddress) (a : String)
    (port : BitVec 16) : (d.listening readWan a port).listeningPorts = [port] := by
  unfold listening
  cases d with
  | tcpv4 ports wan =>
    cases hnone
    split_ifs <;> rfl
  | tcpv6 ports =>
    cases hnone
    split_ifs <;> rfl
  | udpv4 => cases htcp
  | other => cases htcp

end TransportDescriptor

namespace Environment

variable {env : Environment} {l : Loading} {client : XMLElement} {qos : DomainParticipantQos}
  {lp : String}

/-- A client whose profile is loaded and accepted, with the attribute. -/
structure ListeningClient (env : Environment) (l : Loading) (client : XMLElement)
    (qos : DomainParticipantQos) (lp : String) : Prop where
  profile : ∃ profileName, client.attributeValue "profile_name" = some profileName ∧
    env.participantQos l.profiles profileName = some qos
  protocol : qos.discoveryProtocol = .client ∨ qos.discoveryProtocol = .superClient
  listeningPort : client.attributeValue "listening_port" = some lp

/-- The message about a text that does not match. -/
def invalidListeningPort (client : XMLElement) (qos : DomainParticipantQos) : String :=
  "invalid listening port for server (" ++ (qos.setName (client.attributeValue "name")).name ++ ")"

/-- What the reading of the attribute should come to: no exception; where no client is
created, an error and nothing else; otherwise a text `[a.b.c.d:]p` whose parts are the
ones that the selected descriptor has. -/
structure ListeningPortParsed (env : Environment) (l : Loading) (client : XMLElement)
    (qos : DomainParticipantQos) (lp : String) : Prop where
  neverThrows : ∀ fault, env.acceptClient l client ≠ .error fault
  rejected : ∀ l', env.acceptClient l client = .ok (l', none) →
    env.loadClient l client = .ok l' ∧ l' = l.logError (invalidListeningPort client qos)
  accepted : ∀ l' qos', env.acceptClient l client = .ok (l', some qos') →
    ∃ a digits p, IsListeningPort lp a digits p ∧
      ∃ pT d d' transports, Selected l.descriptors qos.userTransports a pT d transports ∧
        transports <+: qos'.userTransports ∧ pT ∈ qos'.userTransports ∧
        l'.descriptors[pT]? = some d' ∧
        (d.listeningPorts = [] → d'.listeningPorts.map BitVec.toNat = [p]) ∧
        (a ≠ "" → ∃ wan, d'.wanAddress = some wan ∧ wan.numbers = addressNumbers a)

/-- The reading of the attribute of an accepted profile. -/
theorem acceptClient_listening (h : ListeningClient env l client qos lp) :
    env.acceptClient l client =
      match env.listen l client (qos.setName (client.attributeValue "name")) with
      | .error fault => .error fault
      | .ok (l, none) => .ok (l, none)
      | .ok (l, some qos) =>
        let (l, qos) := l.disableSharedMemory qos
        .ok (l, some qos) := by
  obtain ⟨profileName, hname, hqos⟩ := h.profile
  have hprotocol : ¬ (qos.discoveryProtocol ≠ .client ∧ qos.discoveryProtocol ≠ .superClient) := by
    intro hneither
    cases h.protocol with
    | inl hclient => exact hneither.1 hclient
    | inr hsuper => exact hneither.2 hsuper
  unfold acceptClient
  cases hlisten : env.listen l client (qos.setName (client.attributeValue "name")) with
  | error fault => simp only [hname, hqos, if_neg hprotocol, hlisten]
  | ok listened =>
    obtain ⟨l', _ | qos'⟩ := listened
    · simp only [hname, hqos, if_neg hprotocol, hlisten]
    · simp only [hname, hqos, if_neg hprotocol, hlisten]

/-- A text that does not match is refused. -/
theorem acceptClient_no_match (h : ListeningClient env l client qos lp)
    (hmatch : regexMatch lp = none) :
    env.acceptClient l client = .ok (l.logError (invalidListeningPort client qos), none) := by
  rw [acceptClient_listening h]
  unfold listen
  simp only [h.listeningPort, hmatch]
  rfl

/-- A port `stol` cannot read ends the program. -/
theorem acceptClient_no_number (h : ListeningClient env l client qos lp) {a : String}
    {digits : List Char} (hmatch : regexMatch lp = some (a, digits))
    (hport : stol digits = none) : env.acceptClient l client = .error .exception := by
  rw [acceptClient_listening h]
  unfold listen
  simp only [h.listeningPort, hmatch, hport]

/-- Any other port is taken, with a descriptor that listens on its last 16 bits. -/
theorem acceptClient_number (h : ListeningClient env l client qos lp) {a : String}
    {digits : List Char} {n : Nat} (hmatch : regexMatch lp = some (a, digits))
    (hport : stol digits = some n) :
    ∃ l' qos' d transports, env.acceptClient l client = .ok (l', some qos') ∧
      Selected l.descriptors qos.userTransports a l.descriptors.length d transports ∧
      transports <+: qos'.userTransports ∧ l.descriptors.length ∈ qos'.userTransports ∧
      l'.descriptors[l.descriptors.length]? = some (d.listening env.readWan a (.ofNat 16 n)) ∧
      d.isTcp = true ∧ (a ≠ "" → d.isTcpv4 = true) := by
  obtain ⟨d, hselected, hmem, hobjects, htcp, h4⟩ :=
    listeningTransport_selected env.readWan l.descriptors qos.userTransports a (.ofNat 16 n)
  have hplace : l.descriptors.length <
      (l.descriptors ++ [d.listening env.readWan a (.ofNat 16 n)]).length := by
    rw [List.length_append]
    exact Nat.lt_succ_self _
  have hname : (qos.setName (client.attributeValue "name")).userTransports =
      qos.userTransports := rfl
  rw [acceptClient_listening h]
  unfold listen Loading.disableSharedMemory
  simp only [h.listeningPort, hmatch, hport]
  by_cases hoff : l.sharedMemoryOff = true
  · simp only [if_pos hoff]
    refine ⟨_, _, d, _, rfl, hselected, List.prefix_append _ _, List.mem_append_left _ hmem, ?_,
      htcp, h4⟩
    simp only [hname, hobjects, List.getElem?_append_left hplace, List.getElem?_concat_length]
  · simp only [if_neg hoff]
    refine ⟨_, _, d, _, rfl, hselected, List.prefix_rfl, hmem, ?_, htcp, h4⟩
    simp only [hname, hobjects, List.getElem?_concat_length]

/-- A text that slips is converted or thrown at, and is no port. -/
theorem not_parsed_of_slips (h : ListeningClient env l client qos lp) (hslips : Slips lp) :
    ¬ ListeningPortParsed env l client qos lp := by
  intro hparsed
  obtain ⟨a, digits, hmatch, _⟩ := id hslips
  cases hport : stol digits with
  | none => exact hparsed.neverThrows _ (acceptClient_no_number h hmatch hport)
  | some n =>
    obtain ⟨l', qos', _, _, haccept, _⟩ := acceptClient_number h hmatch hport
    obtain ⟨_, _, _, htext, _⟩ := hparsed.accepted l' qos' haccept
    exact not_slips_of_isListeningPort htext hslips

/-- No descriptor has an octet above 255. -/
theorem not_parsed_of_largeOctet (h : ListeningClient env l client qos lp) (hslips : ¬ Slips lp)
    (hlarge : LargeOctet lp) : ¬ ListeningPortParsed env l client qos lp := by
  intro hparsed
  obtain ⟨a, digits, hmatch, n, hn, hgreater⟩ := hlarge
  obtain ⟨hdecimal, _⟩ := isListeningPort_of_not_slips hmatch hslips
  have hupper := hdecimal.upper
  have hport : stol digits = some (leadingNumber digits) := by
    unfold stol
    rw [if_neg hdecimal.nonempty, if_pos (by omega)]
  obtain ⟨l', qos', _, _, haccept, _⟩ := acceptClient_number h hmatch hport
  obtain ⟨a', _, _, htext, _, _, _, _, _, _, _, _, _, hwan⟩ := hparsed.accepted l' qos' haccept
  have hsame := htext.regexMatch
  rw [hmatch] at hsame
  cases hsame
  have hempty : a ≠ "" := by
    rintro rfl
    have hzero : n = 0 := List.mem_singleton.mp hn
    omega
  obtain ⟨wan, _, hnumbers⟩ := hwan hempty
  rw [← hnumbers] at hn
  have hle := numbers_le wan n hn
  omega

/-- A text that does not match is refused and told. -/
theorem parsed_of_no_match (h : ListeningClient env l client qos lp)
    (hmatch : regexMatch lp = none) : ListeningPortParsed env l client qos lp := by
  have haccept := acceptClient_no_match h hmatch
  have hload : env.loadClient l client = .ok (l.logError (invalidListeningPort client qos)) := by
    unfold loadClient
    rw [haccept]
    rfl
  refine ⟨fun fault hfault => ?_, fun l' hnone => ?_, fun l' qos' hsome => ?_⟩
  · rw [haccept] at hfault
    cases hfault
  · rw [haccept] at hnone
    cases hnone
    exact ⟨hload, rfl⟩
  · rw [haccept] at hsome
    cases hsome

/-- A text that matches and does not slip is a port, which is entered, and so is the
address. -/
theorem parsed_of_match (hwan : StoresOctets env.readWan)
    (h : ListeningClient env l client qos lp) {a : String} {digits : List Char}
    (hmatch : regexMatch lp = some (a, digits)) (hslips : ¬ Slips lp)
    (hlarge : ¬ LargeOctet lp) : ListeningPortParsed env l client qos lp := by
  have htext := isListeningPort_of_not_slips hmatch hslips
  have hupper := htext.1.upper
  have hport : stol digits = some (leadingNumber digits) := by
    unfold stol
    rw [if_neg htext.1.nonempty, if_pos (by omega)]
  obtain ⟨l₁, qos₁, d, transports, haccept, hselected, hpref, hmem, hobject, htcp, h4⟩ :=
    acceptClient_number h hmatch hport
  refine ⟨fun fault hfault => ?_, fun l' hnone => ?_, fun l' qos' hsome => ?_⟩
  · rw [haccept] at hfault
    cases hfault
  · rw [haccept] at hnone
    cases hnone
  · rw [haccept] at hsome
    cases hsome
    refine ⟨a, digits, _, htext, _, d, _, transports, hselected, hpref, hmem, hobject, ?_, ?_⟩
    · intro hnone
      have hlt : leadingNumber digits < 2 ^ 16 := by omega
      rw [d.listening_ports htcp hnone, List.map_singleton, BitVec.toNat_ofNat,
        Nat.mod_eq_of_lt hlt]
    · intro haddress
      obtain ⟨ports, hports⟩ := listening_tcpv4 (.ofNat 16 (leadingNumber digits))
        (h4 haddress) haddress
      rw [hports]
      have ha : IsAddress a.toList := by
        cases htext.2 with
        | inl hnone => exact absurd hnone.1 haddress
        | inr hsome => exact hsome.1
      refine ⟨_, rfl, hwan a ha fun n hn => ?_⟩
      exact Nat.le_of_not_lt fun hgreater => hlarge ⟨a, digits, hmatch, n, hn, hgreater⟩

/-- **The syntax of listening ports is kept to** where the pattern does not slip and the
numbers of the address are octets, and only there. -/
theorem listening_port_iff (hwan : StoresOctets env.readWan)
    (h : ListeningClient env l client qos lp) :
    ListeningPortParsed env l client qos lp ↔ ¬ Slips lp ∧ ¬ LargeOctet lp := by
  constructor
  · intro hparsed
    have hslips : ¬ Slips lp := fun hslips => not_parsed_of_slips h hslips hparsed
    exact ⟨hslips, fun hlarge => not_parsed_of_largeOctet h hslips hlarge hparsed⟩
  · rintro ⟨hslips, hlarge⟩
    cases hmatch : regexMatch lp with
    | none => exact parsed_of_no_match h hmatch
    | some parts => exact parsed_of_match hwan h hmatch hslips hlarge

/-- A client with a listening port, over a profile with nothing else. -/
def portClient (lp : String) : XMLElement :=
  ⟨"client", [("profile_name", "client"), ("listening_port", lp)], none, []⟩

/-- The loading of a file whose profiles are `sampleEnvironment`'s. -/
def portLoading : Loading := sampleEnvironment.initial false (.new "DS") (.initial 0 0 0)

theorem listeningClient_sample (lp : String) :
    ListeningClient sampleEnvironment portLoading (portClient lp)
      { name := "client", discoveryProtocol := .client } lp :=
  ⟨⟨"client", rfl, rfl⟩, .inl rfl, rfl⟩

/-- The text of `transportClient`, address and port. -/
theorem isListeningPort_sample :
    IsListeningPort "192.168.1.10:5100" "192.168.1.10" ['5', '1', '0', '0'] 5100 := by
  refine ⟨⟨by decide, List.all_eq_true.mp rfl, rfl, by decide, by decide⟩, .inr ⟨?_, rfl⟩⟩
  refine ⟨['1', '9', '2'], ['1', '6', '8'], ['1'], ['1', '0'], rfl, ?_⟩
  simp [Char.isDigit]

theorem listening_port_iff_sample :
    ListeningPortParsed sampleEnvironment portLoading (portClient "192.168.1.10:5100")
      { name := "client", discoveryProtocol := .client } "192.168.1.10:5100" := by
  refine (listening_port_iff storesOctets_ofText (listeningClient_sample _)).mpr ⟨?_, ?_⟩
  · exact not_slips_of_isListeningPort isListeningPort_sample
  · rintro ⟨a, digits, hmatch, n, hn, hlarge⟩
    rw [isListeningPort_sample.regexMatch] at hmatch
    cases hmatch
    have hle : ∀ n ∈ addressNumbers "192.168.1.10", n ≤ 255 := by decide
    have hsmall := hle n hn
    omega

/-- An empty attribute matches, and then there is no number to convert. -/
theorem empty_listening_port_throws : ¬ ∀ (env : Environment) (l : Loading) (client : XMLElement)
    (qos : DomainParticipantQos) (lp : String), StoresOctets env.readWan →
      ListeningClient env l client qos lp → ListeningPortParsed env l client qos lp := by
  intro h
  have hparsed := h sampleEnvironment portLoading (portClient "") _ "" storesOctets_ofText
    (listeningClient_sample "")
  have hthrows : sampleEnvironment.acceptClient portLoading (portClient "") =
      .error .exception :=
    acceptClient_no_number (listeningClient_sample "") (show _ = some ("", []) by decide) rfl
  exact hparsed.neverThrows _ hthrows

end Environment

end DiscoveryServer
