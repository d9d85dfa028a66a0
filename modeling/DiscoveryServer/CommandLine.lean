import DiscoveryServer.OptionParser
import DiscoveryServer.Main
import Mathlib.Data.List.Find
import Mathlib.Data.List.TakeWhile

/-!
# Command lines

A command line is a list of words, each an option or a group of short ones in one of its
spellings, and what ends the options. `CommandLine.render` writes it down as an argument
vector; the parser reads every command line back (`workhorse_commandLine`) and stops with
an error exactly at an option whose argument is missing (`commandLine_or_lacks`).

For the table of the tool this says what `main` gets to know of its arguments
(`ofArgv_reads`).
-/

namespace DiscoveryServer

namespace OptionParser

/-! ## Words -/

/-- A spelling of an option, or of a group of short ones. -/
inductive Word where
  /-- `--name` -/
  | long (name : CString)
  /-- `--name=value` -/
  | longAttached (name value : CString)
  /-- `--name value` -/
  | longSeparate (name value : CString)
  /-- `-abc` -/
  | group (flags : List Char)
  /-- `-abcvalue` -/
  | groupAttached (flags : List Char) (ch : Char) (value : CString)
  /-- `-abc value` -/
  | groupSeparate (flags : List Char) (ch : Char) (value : CString)

/-- The element that names the options. -/
def Word.head : Word → CString
  | .long name => '-' :: '-' :: name
  | .longAttached name value => '-' :: '-' :: (name ++ '=' :: value)
  | .longSeparate name _ => '-' :: '-' :: name
  | .group flags => '-' :: flags
  | .groupAttached flags ch value => '-' :: (flags ++ ch :: value)
  | .groupSeparate flags ch _ => '-' :: (flags ++ [ch])

/-- The argument that is an element of its own. -/
def Word.separate : Word → Option CString
  | .longSeparate _ value => some value
  | .groupSeparate _ _ value => some value
  | _ => none

def Word.render (w : Word) : List CString := w.head :: w.separate.toList

/-- The entry an option of that name is filed under. -/
def longDescriptor (usage : List Descriptor) (name : CString) : Option Descriptor :=
  (usage.find? fun d => d.longopt = name).or (findDummy usage)

def shortDescriptor (usage : List Descriptor) (ch : Char) : Option Descriptor :=
  (findShortopt usage ch).or (findDummy usage)

/-- The option is not accepted without an argument. -/
def requiresArg (d : Option Descriptor) : Bool := d.any fun d => d.checkArg [] none = .illegal

/-- The options of flags that `rest` follows in the group. -/
def flagOptions (usage : List Descriptor) (rest : CString) : List Char → List ParsedOption
  | [] => []
  | ch :: flags =>
    (shortDescriptor usage ch).toList.map (fun d => ⟨d, ch :: (flags ++ rest), none⟩) ++
      flagOptions usage rest flags

def Word.options (usage : List Descriptor) (w : Word) : List ParsedOption :=
  match w with
  | .long name => (longDescriptor usage name).toList.map fun d => ⟨d, w.head, none⟩
  | .longAttached name value => (longDescriptor usage name).toList.map fun d =>
    ⟨d, w.head, if requiresArg (some d) then some value else none⟩
  | .longSeparate name value => (longDescriptor usage name).toList.map fun d =>
    ⟨d, w.head, some value⟩
  | .group flags => flagOptions usage [] flags
  | .groupAttached flags ch value => flagOptions usage (ch :: value) flags ++
    (shortDescriptor usage ch).toList.map fun d => ⟨d, ch :: value, some value⟩
  | .groupSeparate flags ch value => flagOptions usage [ch] flags ++
    (shortDescriptor usage ch).toList.map fun d => ⟨d, [ch], some value⟩

/-- Flags of a group, none of which takes the rest of the group for its argument. -/
def AreFlags (usage : List Descriptor) (flags : List Char) : Prop :=
  ∀ ch ∈ flags, requiresArg (shortDescriptor usage ch) = false

/-- A word that reads as what it is: an option has a separate argument, or in a group an
attached one, if and only if it requires one. -/
def Word.Valid (usage : List Descriptor) : Word → Prop
  | .long name => name ≠ [] ∧ '=' ∉ name ∧ requiresArg (longDescriptor usage name) = false
  | .longAttached name _ => '=' ∉ name
  | .longSeparate name _ => name ≠ [] ∧ '=' ∉ name ∧
    requiresArg (longDescriptor usage name) = true
  | .group flags => flags ≠ [] ∧ flags.head? ≠ some '-' ∧ AreFlags usage flags
  | .groupAttached flags ch value => value ≠ [] ∧ (flags ++ [ch]).head? ≠ some '-' ∧
    AreFlags usage flags ∧ requiresArg (shortDescriptor usage ch) = true
  | .groupSeparate flags ch _ => (flags ++ [ch]).head? ≠ some '-' ∧
    AreFlags usage flags ∧ requiresArg (shortDescriptor usage ch) = true

/-- What ends the options. -/
inductive Ending where
  | done
  /-- `--` and non-options. -/
  | terminated (rest : List CString)
  /-- The first non-option. -/
  | stopped (first : CString) (rest : List CString)

def Ending.render : Ending → List CString
  | .done => []
  | .terminated rest => ['-', '-'] :: rest
  | .stopped first rest => first :: rest

def Ending.nonOptions : Ending → List CString
  | .done => []
  | .terminated rest => rest
  | .stopped first rest => first :: rest

structure CommandLine where
  words : List Word
  ending : Ending

namespace CommandLine

def render (cl : CommandLine) : List CString :=
  cl.words.flatMap Word.render ++ cl.ending.render

def options (usage : List Descriptor) (cl : CommandLine) : List ParsedOption :=
  cl.words.flatMap (Word.options usage)

structure Valid (usage : List Descriptor) (cl : CommandLine) : Prop where
  words : ∀ w ∈ cl.words, w.Valid usage
  ending : ∀ first rest, cl.ending = .stopped first rest → isNonOption first = true

end CommandLine

/-- A table with options that require an argument and options that take none. -/
structure PlainUsage (usage : List Descriptor) : Prop where
  checks : ∀ d ∈ usage, d.checkArg = Arg.none ∨ d.checkArg = Arg.checkInp
  longopts : ∀ d ∈ usage, '=' ∉ d.longopt

/-! ## Names and arguments -/

section Options

variable {usage : List Descriptor}

theorem streq_iff {longopt : CString} (hopt : '=' ∉ longopt) (param : CString) :
    streq longopt param = true ↔ longopt = param.takeWhile (· ≠ '=') := by
  induction longopt generalizing param with
  | nil =>
    cases param with
    | nil => simp [streq, endsName]
    | cons d param => by_cases hd : d = '=' <;> simp [streq, endsName, hd]
  | cons c longopt ih =>
    obtain ⟨hc, hopt⟩ := not_or.mp (fun h => hopt (List.mem_cons.mpr h))
    cases param with
    | nil => simp [streq]
    | cons d param =>
      have ih := ih hopt param
      by_cases hd : d = '='
      · subst hd
        simp [streq, Ne.symm hc]
      · simp [streq, hd, ih]

theorem findLongopt_eq (h : PlainUsage usage) (longoptName : CString) :
    (findLongopt usage 0 longoptName).or (findDummy usage) =
      longDescriptor usage (longoptName.takeWhile (· ≠ '=')) := by
  have hfind : (usage.find? fun d => streq d.longopt longoptName) =
      usage.find? fun d => d.longopt = longoptName.takeWhile (· ≠ '=') := by
    apply List.find?_congr
    intro d hd
    rw [Bool.eq_iff_iff, streq_iff (h.longopts d hd), decide_eq_true_iff]
  unfold findLongopt longDescriptor
  rw [hfind]
  cases usage.find? fun d => d.longopt = longoptName.takeWhile (· ≠ '=') with
  | some d => rfl
  | none => rfl

/-- A name, alone or with an attached argument. -/
theorem name_cases (longoptName : CString) :
    ('=' ∉ longoptName ∧ longoptName.takeWhile (· ≠ '=') = longoptName ∧
        ∀ next, longArg longoptName next = .ofNext next) ∨
      ∃ name value, longoptName = name ++ '=' :: value ∧ '=' ∉ name := by
  induction longoptName with
  | nil => exact .inl ⟨List.not_mem_nil, rfl, fun next => rfl⟩
  | cons c longoptName ih =>
    by_cases hc : c = '='
    · subst hc
      exact .inr ⟨[], longoptName, rfl, List.not_mem_nil⟩
    · rcases ih with ⟨hmem, htake, harg⟩ | ⟨name, value, rfl, hname⟩
      · refine .inl ⟨?_, ?_, ?_⟩
        · simp [hmem, Ne.symm hc]
        · rw [List.takeWhile_cons_of_pos (by simp [hc]), htake]
        · intro next
          rw [← harg next]
          unfold longArg
          rw [List.dropWhile_cons_of_pos (by simp [hc])]
      · exact .inr ⟨c :: name, value, rfl, by simp [hname, Ne.symm hc]⟩

theorem takeWhile_attached {name : CString} (hname : '=' ∉ name) (value : CString) :
    (name ++ '=' :: value).takeWhile (· ≠ '=') = name := by
  rw [List.takeWhile_append_of_pos (fun c hc => by simp; rintro rfl; exact hname hc)]
  simp

theorem longArg_attached {name : CString} (hname : '=' ∉ name) (value : CString)
    (next : Option CString) : longArg (name ++ '=' :: value) next = .attached value := by
  unfold longArg
  rw [List.dropWhile_append_of_pos (fun c hc => by simp; rintro rfl; exact hname hc)]
  simp

/-- The entry an option is filed under is one of the table. -/
theorem longDescriptor_mem {name : CString} {d : Descriptor}
    (h : longDescriptor usage name = some d) : d ∈ usage := by
  unfold longDescriptor at h
  cases hfind : usage.find? fun d => d.longopt = name with
  | some d' =>
    rw [hfind] at h
    cases h
    exact List.mem_of_find?_eq_some hfind
  | none =>
    rw [hfind] at h
    exact List.mem_of_find?_eq_some h

theorem shortDescriptor_mem {ch : Char} {d : Descriptor} (h : shortDescriptor usage ch = some d) :
    d ∈ usage := by
  unfold shortDescriptor at h
  cases hfind : findShortopt usage ch with
  | some d' =>
    rw [hfind] at h
    cases h
    exact List.mem_of_find?_eq_some hfind
  | none =>
    rw [hfind] at h
    exact List.mem_of_find?_eq_some h

theorem checkArg_of_requires (h : PlainUsage usage) {d : Descriptor} (hd : d ∈ usage)
    (hrequires : requiresArg (some d) = true) : d.checkArg = Arg.checkInp := by
  cases h.checks d hd with
  | inl hnone =>
    unfold requiresArg at hrequires
    rw [Option.any_some, hnone] at hrequires
    exact absurd hrequires (by decide)
  | inr hcheck => exact hcheck

theorem checkArg_of_not_requires (h : PlainUsage usage) {d : Descriptor} (hd : d ∈ usage)
    (hrequires : requiresArg (some d) = false) : d.checkArg = Arg.none := by
  cases h.checks d hd with
  | inl hnone => exact hnone
  | inr hcheck =>
    unfold requiresArg at hrequires
    rw [Option.any_some, hcheck] at hrequires
    exact absurd hrequires (by decide)

/-- Without an argument to ask for, what could be one is left alone. -/
theorem processOption_flag (h : PlainUsage usage) {found : Option Descriptor}
    (hmem : ∀ d, found.or (findDummy usage) = some d → d ∈ usage)
    (hrequires : requiresArg (found.or (findDummy usage)) = false) (name : CString)
    (optarg : OptArg) (r : Reading) :
    processOption usage recordAction found name optarg r =
      .ok (⟨r.options ++ (found.or (findDummy usage)).toList.map fun d => ⟨d, name, none⟩,
        r.nonOptions⟩, false) := by
  unfold processOption
  cases hd : found.or (findDummy usage) with
  | none =>
    show Except.ok (r, false) = .ok (⟨r.options ++ [], r.nonOptions⟩, false)
    rw [List.append_nil]
  | some d =>
    rw [hd] at hrequires
    dsimp only
    rw [checkArg_of_not_requires h (hmem d hd) hrequires]
    rfl

/-- An option that requires an argument takes what there is. -/
theorem processOption_required (h : PlainUsage usage) {found : Option Descriptor}
    (hmem : ∀ d, found.or (findDummy usage) = some d → d ∈ usage)
    (hrequires : requiresArg (found.or (findDummy usage)) = true) (name : CString)
    (optarg : OptArg) (r : Reading) :
    processOption usage recordAction found name optarg r =
      match optarg.value with
      | none => .error r
      | some value => .ok (⟨r.options ++ (found.or (findDummy usage)).toList.map fun d =>
          ⟨d, name, some value⟩, r.nonOptions⟩, true) := by
  unfold processOption
  cases hd : found.or (findDummy usage) with
  | none =>
    rw [hd] at hrequires
    cases hrequires
  | some d =>
    rw [hd] at hrequires
    dsimp only
    rw [checkArg_of_requires h (hmem d hd) hrequires]
    cases optarg.value <;> rfl

/-! ## One element -/

/-- The flags of a group, up to what follows them. -/
theorem shortOptions_flags (h : PlainUsage usage) (next : Option CString) {flags : List Char}
    (hflags : AreFlags usage flags) (rest : CString) (r : Reading) :
    shortOptions usage recordAction next (flags ++ rest) r =
      shortOptions usage recordAction next rest
        ⟨r.options ++ flagOptions usage rest flags, r.nonOptions⟩ := by
  induction flags generalizing r with
  | nil =>
    show _ = shortOptions usage recordAction next rest ⟨r.options ++ [], r.nonOptions⟩
    rw [List.append_nil]
    rfl
  | cons ch flags ih =>
    have hflag := processOption_flag h (fun d hd => shortDescriptor_mem hd)
      (hflags ch List.mem_cons_self) (ch :: (flags ++ rest)) (shortArg (flags ++ rest) next) r
    rw [List.cons_append, shortOptions, hflag]
    dsimp only
    rw [ih fun c hc => hflags c (List.mem_cons_of_mem ch hc), List.append_assoc]
    rfl

/-- The option of a group that takes an argument. -/
theorem shortOptions_required (h : PlainUsage usage) (next : Option CString) {ch : Char}
    (hrequires : requiresArg (shortDescriptor usage ch) = true) (rest : CString) (r : Reading) :
    shortOptions usage recordAction next (ch :: rest) r =
      match (shortArg rest next).value with
      | none => .error r
      | some value => .ok (⟨r.options ++ (shortDescriptor usage ch).toList.map fun d =>
          ⟨d, ch :: rest, some value⟩, r.nonOptions⟩, (shortArg rest next).isSeparate) := by
  have hrequired := processOption_required h (fun d hd => shortDescriptor_mem hd) hrequires
    (ch :: rest) (shortArg rest next) r
  rw [shortOptions, hrequired]
  cases (shortArg rest next).value <;> rfl

/-- A group is flags, or flags and an option with the rest of the group. -/
theorem group_cases (usage : List Descriptor) (group : CString) :
    AreFlags usage group ∨ ∃ flags ch rest, group = flags ++ ch :: rest ∧
      AreFlags usage flags ∧ requiresArg (shortDescriptor usage ch) = true := by
  induction group with
  | nil => exact .inl fun ch hch => absurd hch List.not_mem_nil
  | cons c group ih =>
    cases hc : requiresArg (shortDescriptor usage c) with
    | true => exact .inr ⟨[], c, group, rfl, fun ch hch => absurd hch List.not_mem_nil, hc⟩
    | false =>
      have hcons : ∀ {flags : List Char}, AreFlags usage flags → AreFlags usage (c :: flags) := by
        intro flags hflags ch hch
        cases List.mem_cons.mp hch with
        | inl heq =>
          rw [heq]
          exact hc
        | inr hch => exact hflags ch hch
      rcases ih with hflags | ⟨flags, ch, rest, rfl, hflags, hch⟩
      · exact .inl (hcons hflags)
      · exact .inr ⟨c :: flags, ch, rest, rfl, hcons hflags, hch⟩

theorem processParam_long (h : PlainUsage usage) (next : Option CString)
    (longoptName : CString) :
    processParam usage recordAction next false 0 ('-' :: '-' :: longoptName) .blank =
      let d := longDescriptor usage (longoptName.takeWhile (· ≠ '='))
      let optarg := longArg longoptName next
      if requiresArg d then
        match optarg.value with
        | none => .error .blank
        | some value => .ok (⟨d.toList.map fun d => ⟨d, '-' :: '-' :: longoptName, some value⟩, []⟩,
            optarg.isSeparate)
      else .ok (⟨d.toList.map fun d => ⟨d, '-' :: '-' :: longoptName, none⟩, []⟩, false) := by
  have hmem : ∀ d, (findLongopt usage 0 longoptName).or (findDummy usage) = some d →
      d ∈ usage := by
    intro d hd
    rw [findLongopt_eq h] at hd
    exact longDescriptor_mem hd
  show longOption usage recordAction next (findLongopt usage 0 longoptName)
    ('-' :: '-' :: longoptName) longoptName .blank = _
  unfold longOption
  dsimp only
  cases hrequires : requiresArg (longDescriptor usage (longoptName.takeWhile (· ≠ '='))) with
  | true =>
    rw [← findLongopt_eq h] at hrequires
    rw [processOption_required h hmem hrequires, findLongopt_eq h]
    cases (longArg longoptName next).value <;> rfl
  | false =>
    rw [← findLongopt_eq h] at hrequires
    rw [processOption_flag h hmem hrequires, findLongopt_eq h]
    rfl

/-- An element with a single minus is a group. -/
theorem processParam_group (next : Option CString) {group : CString}
    (hminus : group.head? ≠ some '-') (r : Reading) :
    processParam usage recordAction next false 0 ('-' :: group) r =
      shortOptions usage recordAction next group r := by
  cases group with
  | nil => rfl
  | cons c group =>
    have hc : c ≠ '-' := fun heq => hminus (congrArg some heq)
    unfold processParam
    split
    · rename_i heq
      exact absurd (List.cons.inj (List.cons.inj heq).2).1 hc
    · rfl

/-- **A word reads as what it is**, its separate argument being the next element. -/
theorem processParam_word (h : PlainUsage usage) {w : Word} (hw : w.Valid usage)
    {next : Option CString} (hnext : ∀ value ∈ w.separate, next = some value) :
    processParam usage recordAction next false 0 w.head .blank =
      .ok (⟨w.options usage, []⟩, w.separate.isSome) := by
  cases w with
  | long name =>
    obtain ⟨-, hname, hrequires⟩ := hw
    rcases name_cases name with ⟨-, htake, -⟩ | ⟨n, v, rfl, -⟩
    · show processParam usage recordAction next false 0 ('-' :: '-' :: name) .blank = _
      rw [processParam_long h]
      dsimp only
      rw [htake, hrequires]
      rfl
    · exact absurd (by simp) hname
  | longAttached name value =>
    show processParam usage recordAction next false 0 ('-' :: '-' :: (name ++ '=' :: value))
      .blank = _
    rw [processParam_long h]
    dsimp only
    rw [takeWhile_attached hw, longArg_attached hw]
    unfold Word.options
    dsimp only
    cases longDescriptor usage name with
    | none => rfl
    | some d =>
      simp only [Option.toList_some, List.map_cons, List.map_nil]
      cases requiresArg (some d) <;> rfl
  | longSeparate name value =>
    obtain ⟨-, hname, hrequires⟩ := hw
    have hnext := hnext value rfl
    subst hnext
    rcases name_cases name with ⟨-, htake, harg⟩ | ⟨n, v, rfl, -⟩
    · show processParam usage recordAction (some value) false 0 ('-' :: '-' :: name) .blank = _
      rw [processParam_long h]
      dsimp only
      rw [htake, hrequires, harg]
      rfl
    · exact absurd (by simp) hname
  | group flags =>
    obtain ⟨-, hminus, hflags⟩ := hw
    show processParam usage recordAction next false 0 ('-' :: flags) .blank = _
    rw [processParam_group next hminus]
    have hread := shortOptions_flags h next hflags [] .blank
    rw [List.append_nil] at hread
    exact hread
  | groupAttached flags ch value =>
    obtain ⟨hvalue, hminus, hflags, hrequires⟩ := hw
    have hminus' : (flags ++ ch :: value).head? ≠ some '-' := by
      cases flags <;> exact hminus
    show processParam usage recordAction next false 0 ('-' :: (flags ++ ch :: value)) .blank = _
    rw [processParam_group next hminus', shortOptions_flags h next hflags,
      shortOptions_required h next hrequires]
    cases value with
    | nil => exact absurd rfl hvalue
    | cons c value => rfl
  | groupSeparate flags ch value =>
    obtain ⟨hminus, hflags, hrequires⟩ := hw
    have hnext := hnext value rfl
    subst hnext
    show processParam usage recordAction (some value) false 0 ('-' :: (flags ++ [ch])) .blank = _
    rw [processParam_group _ hminus, shortOptions_flags h _ hflags,
      shortOptions_required h _ hrequires]
    rfl

/-- Without its argument it is an error. -/
theorem processParam_lacks (h : PlainUsage usage) {w : Word} (hw : w.Valid usage)
    (hseparate : w.separate.isSome = true) :
    ∃ r, processParam usage recordAction none false 0 w.head .blank = .error r := by
  cases w with
  | long name => cases hseparate
  | longAttached name value => cases hseparate
  | longSeparate name value =>
    obtain ⟨-, hname, hrequires⟩ := hw
    rcases name_cases name with ⟨-, htake, harg⟩ | ⟨n, v, rfl, -⟩
    · refine ⟨.blank, ?_⟩
      show processParam usage recordAction none false 0 ('-' :: '-' :: name) .blank = _
      rw [processParam_long h]
      dsimp only
      rw [htake, hrequires, harg]
      rfl
    · exact absurd (by simp) hname
  | group flags => cases hseparate
  | groupAttached flags ch value => cases hseparate
  | groupSeparate flags ch value =>
    obtain ⟨hminus, hflags, hrequires⟩ := hw
    refine ⟨⟨flagOptions usage [ch] flags, []⟩, ?_⟩
    show processParam usage recordAction none false 0 ('-' :: (flags ++ [ch])) .blank = _
    rw [processParam_group _ hminus, shortOptions_flags h _ hflags,
      shortOptions_required h _ hrequires]
    rfl

/-- A word is neither a non-option nor `--`. -/
theorem Word.Valid.head_spec {w : Word} (hw : w.Valid usage) :
    isNonOption w.head = false ∧ w.head ≠ ['-', '-'] := by
  cases w with
  | long name => exact ⟨rfl, fun heq => hw.1 (List.cons.inj (List.cons.inj heq).2).2⟩
  | longAttached name value =>
    refine ⟨rfl, fun heq => ?_⟩
    have hnil : name ++ '=' :: value = [] := (List.cons.inj (List.cons.inj heq).2).2
    exact absurd (List.append_eq_nil_iff.mp hnil).2 (List.cons_ne_nil _ _)
  | longSeparate name value => exact ⟨rfl, fun heq => hw.1 (List.cons.inj (List.cons.inj heq).2).2⟩
  | group flags =>
    obtain ⟨hne, hminus, -⟩ := hw
    cases flags with
    | nil => exact absurd rfl hne
    | cons c flags =>
      refine ⟨rfl, fun heq => hminus ?_⟩
      rw [(List.cons.inj heq).2]
      rfl
  | groupAttached flags ch value =>
    obtain ⟨-, hminus, -⟩ := hw
    cases flags with
    | nil =>
      refine ⟨rfl, fun heq => hminus ?_⟩
      rw [(List.cons.inj (List.cons.inj heq).2).1]
      rfl
    | cons c flags =>
      refine ⟨rfl, fun heq => hminus ?_⟩
      rw [(List.cons.inj (List.cons.inj heq).2).1]
      rfl
  | groupSeparate flags ch value =>
    obtain ⟨hminus, -⟩ := hw
    cases flags with
    | nil =>
      refine ⟨rfl, fun heq => hminus ?_⟩
      rw [(List.cons.inj (List.cons.inj heq).2).1]
      rfl
    | cons c flags =>
      refine ⟨rfl, fun heq => hminus ?_⟩
      rw [(List.cons.inj (List.cons.inj heq).2).1]
      rfl

/-- **Every element with options is a word**, with the next element for its argument if it
needs one and there is one. -/
theorem word_cases (usage : List Descriptor) {param : CString} (hoption : isNonOption param = false)
    (hdash : param ≠ ['-', '-']) (next : Option CString) :
    ∃ w : Word, w.Valid usage ∧ w.head = param ∧
      ((∀ value ∈ w.separate, next = some value) ∨ w.separate.isSome = true ∧ next = none) := by
  obtain ⟨rest, rfl⟩ : ∃ rest, param = '-' :: rest := by
    cases param with
    | nil => exact absurd hoption (by decide)
    | cons c rest =>
      by_cases hc : c = '-'
      · exact ⟨rest, by rw [hc]⟩
      · exact absurd hoption (by simp [isNonOption, hc])
  have hrest : rest ≠ [] := by
    rintro rfl
    exact absurd hoption (by decide)
  by_cases hminus : rest.head? = some '-'
  · obtain ⟨name, rfl⟩ : ∃ name, rest = '-' :: name := by
      cases rest with
      | nil => cases hminus
      | cons c rest => exact ⟨rest, by rw [Option.some.inj hminus]⟩
    rcases name_cases name with ⟨hname, -, -⟩ | ⟨n, value, rfl, hn⟩
    · have hne : name ≠ [] := fun heq => hdash (by rw [heq])
      cases hrequires : requiresArg (longDescriptor usage name) with
      | false => exact ⟨.long name, ⟨hne, hname, hrequires⟩, rfl, .inl fun v hv => by cases hv⟩
      | true =>
        cases next with
        | none => exact ⟨.longSeparate name [], ⟨hne, hname, hrequires⟩, rfl, .inr ⟨rfl, rfl⟩⟩
        | some value =>
          exact ⟨.longSeparate name value, ⟨hne, hname, hrequires⟩, rfl, .inl fun v hv => hv⟩
    · exact ⟨.longAttached n value, hn, rfl, .inl fun v hv => by cases hv⟩
  · rcases group_cases usage rest with hflags | ⟨flags, ch, tail, rfl, hflags, hrequires⟩
    · exact ⟨.group rest, ⟨hrest, hminus, hflags⟩, rfl, .inl fun v hv => by cases hv⟩
    · have hminus' : (flags ++ [ch]).head? ≠ some '-' := by
        cases flags <;> exact hminus
      cases tail with
      | cons c tail =>
        exact ⟨.groupAttached flags ch (c :: tail),
          ⟨List.cons_ne_nil c tail, hminus', hflags, hrequires⟩, rfl,
          .inl fun v hv => by cases hv⟩
      | nil =>
        cases next with
        | none =>
          exact ⟨.groupSeparate flags ch [], ⟨hminus', hflags, hrequires⟩, rfl, .inr ⟨rfl, rfl⟩⟩
        | some value =>
          exact ⟨.groupSeparate flags ch value, ⟨hminus', hflags, hrequires⟩, rfl,
            .inl fun v hv => hv⟩

end Options

/-! ## The argument vector -/

section Vector

variable {usage : List Descriptor}

/-- What an action is told of a vector, when it has been told of something before. -/
theorem workhorse_append (args : List CString) (r : Reading) :
    workhorse false usage recordAction false 0 [] args r =
      match workhorse false usage recordAction false 0 [] args .blank with
      | .error t => .error ⟨r.options ++ t.options, r.nonOptions⟩
      | .ok t => .ok ⟨r.options ++ t.options, t.nonOptions⟩ := by
  rw [workhorse_eq]
  cases workhorse false usage recordAction false 0 [] args .blank with
  | error t =>
    unfold Action.replayAll
    dsimp only
    rw [foldlM_record]
    rfl
  | ok t =>
    unfold Action.replayAll
    dsimp only
    rw [foldlM_record]
    rfl

/-- A word, and then the rest. -/
theorem workhorse_word (h : PlainUsage usage) {w : Word} (hw : w.Valid usage)
    (rest : List CString) :
    workhorse false usage recordAction false 0 [] (w.render ++ rest) .blank =
      match workhorse false usage recordAction false 0 [] rest .blank with
      | .error t => .error ⟨w.options usage ++ t.options, []⟩
      | .ok t => .ok ⟨w.options usage ++ t.options, t.nonOptions⟩ := by
  obtain ⟨hoption, hdash⟩ := hw.head_spec
  have hnext : ∀ value ∈ w.separate, (w.separate.toList ++ rest).head? = some value := by
    intro value hvalue
    rw [Option.mem_def.mp hvalue]
    rfl
  have hrest : (if w.separate.isSome then (w.separate.toList ++ rest).tail
      else w.separate.toList ++ rest) = rest := by
    cases w.separate <;> rfl
  show workhorse false usage recordAction false 0 [] (w.head :: (w.separate.toList ++ rest))
    .blank = _
  rw [workhorse_param _ _ _ _ _ _ _ _ hoption hdash, processParam_word h hw hnext]
  dsimp only
  rw [hrest, workhorse_append]

/-- **A command line is read back**: its options and its non-options. -/
theorem workhorse_commandLine (h : PlainUsage usage) {cl : CommandLine} (hcl : cl.Valid usage) :
    workhorse false usage recordAction false 0 [] cl.render .blank =
      .ok ⟨cl.options usage, cl.ending.nonOptions⟩ := by
  obtain ⟨words, ending⟩ := cl
  induction words with
  | nil =>
    cases ending with
    | done => rfl
    | terminated rest =>
      show workhorse false usage recordAction false 0 [] (['-', '-'] :: rest) .blank = _
      rw [workhorse, if_neg (by decide), if_pos rfl]
      rfl
    | stopped first rest =>
      show workhorse false usage recordAction false 0 [] (first :: rest) .blank = _
      rw [workhorse, hcl.ending first rest rfl]
      rfl
  | cons w words ih =>
    have hword : w.Valid usage := hcl.words w List.mem_cons_self
    have hrest := ih ⟨fun w' hw' => hcl.words w' (List.mem_cons_of_mem w hw'), hcl.ending⟩
    have hrender : CommandLine.render ⟨w :: words, ending⟩ =
        w.render ++ CommandLine.render ⟨words, ending⟩ := List.append_assoc _ _ _
    rw [hrender, workhorse_word h hword, hrest]
    rfl

/-- An option that lacks its argument, behind other words. -/
theorem workhorse_lacks (h : PlainUsage usage) {words : List Word} {w : Word}
    (hwords : ∀ w ∈ words, w.Valid usage) (hw : w.Valid usage)
    (hseparate : w.separate.isSome = true) :
    ∃ r, workhorse false usage recordAction false 0 [] (words.flatMap Word.render ++ [w.head])
      .blank = .error r := by
  induction words with
  | nil =>
    obtain ⟨hoption, hdash⟩ := hw.head_spec
    obtain ⟨r, hr⟩ := processParam_lacks h hw hseparate
    refine ⟨r, ?_⟩
    show workhorse false usage recordAction false 0 [] [w.head] .blank = _
    rw [workhorse_param _ _ _ _ _ _ _ _ hoption hdash, List.head?_nil, hr]
  | cons w' words ih =>
    obtain ⟨r, hr⟩ := ih fun w hw => hwords w (List.mem_cons_of_mem w' hw)
    refine ⟨⟨w'.options usage ++ r.options, []⟩, ?_⟩
    rw [List.flatMap_cons, List.append_assoc, workhorse_word h (hwords w' List.mem_cons_self), hr]

/-- **Every argument vector is a command line**, unless its last element is an option that
lacks its argument. -/
theorem commandLine_or_lacks (usage : List Descriptor) (args : List CString) :
    (∃ cl : CommandLine, cl.Valid usage ∧ cl.render = args) ∨
      ∃ (words : List Word) (w : Word), (∀ w' ∈ words, w'.Valid usage) ∧ w.Valid usage ∧
        w.separate.isSome = true ∧ args = words.flatMap Word.render ++ [w.head] := by
  induction hlength : args.length using Nat.strongRecOn generalizing args with
  | ind n ih =>
    cases args with
    | nil =>
      exact .inl ⟨⟨[], .done⟩, ⟨fun w hw => absurd hw List.not_mem_nil, fun _ _ h => by cases h⟩,
        rfl⟩
    | cons param args =>
      cases hoption : isNonOption param with
      | true =>
        refine .inl ⟨⟨[], .stopped param args⟩, ⟨fun w hw => absurd hw List.not_mem_nil, ?_⟩, rfl⟩
        intro first rest heq
        cases heq
        exact hoption
      | false =>
        by_cases hdash : param = ['-', '-']
        · subst hdash
          exact .inl ⟨⟨[], .terminated args⟩,
            ⟨fun w hw => absurd hw List.not_mem_nil, fun _ _ h => by cases h⟩, rfl⟩
        · obtain ⟨w, hw, rfl, hnext | ⟨hseparate, hnone⟩⟩ :=
            word_cases usage hoption hdash args.head?
          · obtain ⟨rest, hargs⟩ : ∃ rest, args = w.separate.toList ++ rest := by
              cases hseparate : w.separate with
              | none => exact ⟨args, rfl⟩
              | some value =>
                obtain ⟨rest, hrest⟩ := List.head?_eq_some_iff.mp (hnext value hseparate)
                exact ⟨rest, hrest⟩
            have hshorter : rest.length < n := by
              rw [hargs, List.length_cons, List.length_append] at hlength
              omega
            have hrender : w.head :: args = w.render ++ rest := by
              rw [hargs]
              rfl
            rw [hrender]
            rcases ih rest.length hshorter rest rfl with ⟨cl, hcl, rfl⟩ |
              ⟨words, w', hwords, hw', hseparate, rfl⟩
            · refine .inl ⟨⟨w :: cl.words, cl.ending⟩, ⟨?_, hcl.ending⟩, ?_⟩
              · exact List.forall_mem_cons.mpr ⟨hw, hcl.words⟩
              · exact List.append_assoc _ _ _
            · have hall := List.forall_mem_cons.mpr ⟨hw, hwords⟩
              refine .inr ⟨w :: words, w', hall, hw', hseparate, ?_⟩
              exact (List.append_assoc _ _ _).symm
          · have hargs : args = [] := List.head?_eq_none_iff.mp hnone
            subst hargs
            exact .inr ⟨[], w, fun w' hw' => absurd hw' List.not_mem_nil, hw, hseparate, rfl⟩

end Vector

end OptionParser

open OptionParser

/-! ## The command line of the tool -/

/-- `optionIndex`. -/
inductive OptionIndex where
  | unknown
  | help
  | configFile
  | outputFile
  | shm
deriving DecidableEq

def OptionIndex.toNat : OptionIndex → Nat
  | .unknown => 0
  | .help => 1
  | .configFile => 2
  | .outputFile => 3
  | .shm => 4

theorem OptionIndex.toNat_lt (i : OptionIndex) : i.toNat < 2147483648 := by
  cases i <;> decide

def usage : List Descriptor :=
  [⟨_, "".toList, "".toList, Arg.none, OptionIndex.unknown.toNat_lt⟩,
    ⟨_, "h".toList, "help".toList, Arg.none, OptionIndex.help.toNat_lt⟩,
    ⟨_, "c".toList, "config-file".toList, Arg.checkInp, OptionIndex.configFile.toNat_lt⟩,
    ⟨_, "o".toList, "output-file".toList, Arg.checkInp, OptionIndex.outputFile.toNat_lt⟩,
    ⟨_, "s".toList, "disabled-shared-memory".toList, Arg.none, OptionIndex.shm.toNat_lt⟩]

/-- What `main` gets to know of its arguments. -/
def Arguments.ofArgv (argv : List CString) : Arguments :=
  -- skip program name argv[0] if present
  let args := argv.tail
  let stats := Stats.ofArgs false usage false 0 args
  let parse := (Parser.ofSize stats.optionsMax).parse false usage args 0 false (-1)
  let options (i : OptionIndex) := parse.options.getD i.toNat []
  { error := parse.err
    nonOptions := parse.nonOptions.map String.ofList
    help := options .help ≠ []
    argc := args.length
    configFile := (options .configFile).map fun o => String.ofList (o.arg.getD [])
    outputFile := (options .outputFile).head?.map fun o => String.ofList (o.arg.getD [])
    shm := options .shm ≠ [] }

/-- The arguments of the options of an index, in order. -/
def OptionParser.CommandLine.argsOf (cl : CommandLine) (i : OptionIndex) : List (Option String) :=
  ((cl.options usage).filter fun o => o.desc.index = i.toNat).map fun o =>
    o.arg.map String.ofList

/-- What `main` is to know of a command line. -/
def OptionParser.CommandLine.arguments (cl : CommandLine) : Arguments where
  error := false
  nonOptions := cl.ending.nonOptions.map String.ofList
  help := cl.argsOf .help ≠ []
  argc := cl.render.length
  configFile := (cl.argsOf .configFile).filterMap id
  outputFile := ((cl.argsOf .outputFile).filterMap id).head?
  shm := cl.argsOf .shm ≠ []

theorem plainUsage : PlainUsage usage where
  checks := by
    intro d hd
    simp only [usage, List.mem_cons, List.not_mem_nil, or_false] at hd
    rcases hd with rfl | rfl | rfl | rfl | rfl
    · exact .inl rfl
    · exact .inl rfl
    · exact .inr rfl
    · exact .inr rfl
    · exact .inl rfl
  longopts := by decide

/-- Options have an argument exactly if they require one. -/
theorem arg_isSome {w : Word} (hw : w.Valid usage) {o : ParsedOption} (ho : o ∈ w.options usage) :
    o.arg.isSome = requiresArg (some o.desc) := by
  have hflags : ∀ (rest : CString) (flags : List Char), AreFlags usage flags →
      ∀ o ∈ flagOptions usage rest flags, o.arg.isSome = requiresArg (some o.desc) := by
    intro rest flags
    induction flags with
    | nil => exact fun _ o ho => absurd ho List.not_mem_nil
    | cons ch flags ih =>
      intro hare o ho
      cases List.mem_append.mp ho with
      | inl ho =>
        obtain ⟨d, hd, rfl⟩ := List.mem_map.mp ho
        rw [← Option.mem_toList.mp hd, hare ch List.mem_cons_self]
        rfl
      | inr ho => exact ih (fun c hc => hare c (List.mem_cons_of_mem ch hc)) o ho
  cases w with
  | long name =>
    obtain ⟨d, hd, rfl⟩ := List.mem_map.mp ho
    rw [← Option.mem_toList.mp hd, hw.2.2]
    rfl
  | longAttached name value =>
    obtain ⟨d, hd, rfl⟩ := List.mem_map.mp ho
    cases requiresArg (some d) <;> simp
  | longSeparate name value =>
    obtain ⟨d, hd, rfl⟩ := List.mem_map.mp ho
    rw [← Option.mem_toList.mp hd, hw.2.2]
    rfl
  | group flags => exact hflags [] flags hw.2.2 o ho
  | groupAttached flags ch value =>
    cases List.mem_append.mp ho with
    | inl ho => exact hflags _ flags hw.2.2.1 o ho
    | inr ho =>
      obtain ⟨d, hd, rfl⟩ := List.mem_map.mp ho
      rw [← Option.mem_toList.mp hd, hw.2.2.2]
      rfl
  | groupSeparate flags ch value =>
    cases List.mem_append.mp ho with
    | inl ho => exact hflags _ flags hw.2.1 o ho
    | inr ho =>
      obtain ⟨d, hd, rfl⟩ := List.mem_map.mp ho
      rw [← Option.mem_toList.mp hd, hw.2.2]
      rfl

theorem map_args {os : List ParsedOption} (h : ∀ o ∈ os, o.arg.isSome = true) :
    (os.map fun o => String.ofList (o.arg.getD [])) =
      (os.map fun o => o.arg.map String.ofList).filterMap id := by
  induction os with
  | nil => rfl
  | cons o os ih =>
    obtain ⟨value, hvalue⟩ := Option.isSome_iff_exists.mp (h o List.mem_cons_self)
    rw [List.map_cons, List.map_cons, ih fun o' ho' => h o' (List.mem_cons_of_mem o ho'), hvalue]
    rfl

section Reads

variable {argv : List CString} {cl : CommandLine}

/-- The command line has the options that are stored. -/
theorem CommandLine.Valid.desc_mem (hcl : cl.Valid usage) {o : ParsedOption}
    (ho : o ∈ cl.options usage) : o.desc ∈ usage := by
  have hmem : Described usage (outcome
      (workhorse false usage recordAction false 0 [] cl.render .blank)).options :=
    workhorse_described false false 0 [] cl.render
  rw [workhorse_commandLine plainUsage hcl] at hmem
  exact hmem o ho

/-- The files that are asked for have names. -/
theorem CommandLine.Valid.isSome_of_file (hcl : cl.Valid usage) {o : ParsedOption}
    (ho : o ∈ cl.options usage) {i : OptionIndex} (hi : i = .configFile ∨ i = .outputFile)
    (hindex : o.desc.index = i.toNat) : o.arg.isSome = true := by
  obtain ⟨w, hw, how⟩ := List.mem_flatMap.mp ho
  rw [arg_isSome (hcl.words w hw) how]
  have hdesc := CommandLine.Valid.desc_mem hcl ho
  generalize o.desc = d at hindex hdesc
  simp only [usage, List.mem_cons, List.not_mem_nil, or_false] at hdesc
  rcases hi with rfl | rfl <;> rcases hdesc with rfl | rfl | rfl | rfl | rfl <;>
    first | rfl | exact absurd hindex (by decide)

theorem getD_stored (os : List ParsedOption) (i : OptionIndex) :
    (Parser.stored 6 os).options.getD i.toNat [] =
      os.filter fun o => o.desc.index = i.toNat := by
  cases i <;> rfl

/-- A command line is what `main` gets to know. -/
theorem ofArgv_commandLine (hcl : cl.Valid usage) (hfits : (cl.options usage).length ≤ maxCount)
    (hrender : cl.render = argv.tail) : Arguments.ofArgv argv = cl.arguments := by
  have hparse : (Parser.ofSize 6).parse false usage argv.tail 0 false (-1) =
      { Parser.stored 6 (cl.options usage) with nonOptions := cl.ending.nonOptions } := by
    rw [parse_eq, ← hrender, workhorse_commandLine plainUsage hcl]
    exact if_pos hfits
  have hfiles : ∀ i, i = .configFile ∨ i = .outputFile →
      (((cl.options usage).filter fun o => o.desc.index = i.toNat).map fun o =>
        String.ofList (o.arg.getD [])) = (cl.argsOf i).filterMap id := by
    intro i hi
    apply map_args
    intro o ho
    obtain ⟨ho, hindex⟩ := List.mem_filter.mp ho
    exact CommandLine.Valid.isSome_of_file hcl ho hi (of_decide_eq_true hindex)
  have hflag : ∀ i, (((cl.options usage).filter fun o => o.desc.index = i.toNat) ≠ []) ↔
      cl.argsOf i ≠ [] := by
    intro i
    unfold CommandLine.argsOf
    rw [Ne, Ne, List.map_eq_nil_iff]
  have hstats : (Stats.ofArgs false usage false 0 argv.tail).optionsMax = 6 := rfl
  unfold Arguments.ofArgv CommandLine.arguments
  dsimp only
  rw [hstats, hparse]
  simp only [getD_stored, hfiles .configFile (.inl rfl), hflag]
  rw [← List.head?_map, hfiles .outputFile (.inr rfl), hrender]
  rfl

/-- The last argument is an option that lacks its own. -/
def Lacks (args : List CString) : Prop :=
  ∃ (words : List Word) (w : Word), (∀ w' ∈ words, w'.Valid usage) ∧ w.Valid usage ∧
    w.separate.isSome = true ∧ args = words.flatMap Word.render ++ [w.head]

theorem ofArgv_lacks (h : Lacks argv.tail) : (Arguments.ofArgv argv).error = true := by
  obtain ⟨words, w, hwords, hw, hseparate, hargs⟩ := h
  obtain ⟨r, hr⟩ := workhorse_lacks plainUsage hwords hw hseparate
  show ((Parser.ofSize _).parse false usage argv.tail 0 false (-1)).err = true
  rw [parse_eq, hargs, hr]

theorem ofArgv_overflows (hcl : cl.Valid usage) (hfits : ¬ (cl.options usage).length ≤ maxCount)
    (hrender : cl.render = argv.tail) : (Arguments.ofArgv argv).error = true := by
  show ((Parser.ofSize _).parse false usage argv.tail 0 false (-1)).err = true
  rw [parse_eq, ← hrender, workhorse_commandLine plainUsage hcl]
  exact congrArg Parser.err (if_neg hfits)

/-- What `argv` is, if it is not an error. -/
theorem commandLine_of_ok (hok : (Arguments.ofArgv argv).error = false) :
    ∃ cl : CommandLine, cl.Valid usage ∧ (cl.options usage).length ≤ maxCount ∧
      cl.render = argv.tail := by
  rcases commandLine_or_lacks usage argv.tail with ⟨cl, hcl, hrender⟩ | hlacks
  · by_cases hfits : (cl.options usage).length ≤ maxCount
    · exact ⟨cl, hcl, hfits, hrender⟩
    · rw [ofArgv_overflows hcl hfits hrender] at hok
      cases hok
  · rw [ofArgv_lacks hlacks] at hok
    cases hok

/-- **`main` reads what is written.** A command line is written with every option and flag
in any of its spellings; whatever the spelling, `main` gets to know its options, their
arguments and the non-options. The only errors are an option at the end that lacks its
argument, and more options than an `int` can count. -/
theorem ofArgv_reads (argv : List CString) :
    (∀ cl : CommandLine, cl.Valid usage → (cl.options usage).length ≤ maxCount →
      cl.render = argv.tail → Arguments.ofArgv argv = cl.arguments) ∧
      ((Arguments.ofArgv argv).error = false → ∃ cl : CommandLine, cl.Valid usage ∧
        (cl.options usage).length ≤ maxCount ∧ cl.render = argv.tail) ∧
      ((Arguments.ofArgv argv).error = true ↔ Lacks argv.tail ∨
        ∃ cl : CommandLine, cl.Valid usage ∧ maxCount < (cl.options usage).length ∧
          cl.render = argv.tail) := by
  refine ⟨fun cl hcl hfits hrender => ofArgv_commandLine hcl hfits hrender, commandLine_of_ok, ?_⟩
  constructor
  · intro herror
    rcases commandLine_or_lacks usage argv.tail with ⟨cl, hcl, hrender⟩ | hlacks
    · by_cases hfits : (cl.options usage).length ≤ maxCount
      · rw [ofArgv_commandLine hcl hfits hrender] at herror
        cases herror
      · exact .inr ⟨cl, hcl, Nat.lt_of_not_le hfits, hrender⟩
    · exact .inl hlacks
  · rintro (hlacks | ⟨cl, hcl, hmany, hrender⟩)
    · exact ofArgv_lacks hlacks
    · exact ofArgv_overflows hcl (Nat.not_le_of_lt hmany) hrender

/-- Shared memory off, a configuration file and a call for help. -/
def sampleCommandLine : CommandLine :=
  ⟨[.groupSeparate ['s'] 'c' "config.xml".toList, .longAttached "help".toList "me".toList], .done⟩

theorem ofArgv_reads_sample :
    Arguments.ofArgv (["tool", "-sc", "config.xml", "--help=me"].map String.toList) =
      ⟨false, [], true, 3, ["config.xml"], none, true⟩ := by
  have hvalid : sampleCommandLine.Valid usage := by
    refine ⟨List.forall_mem_cons.mpr ⟨?_, List.forall_mem_cons.mpr ⟨?_, ?_⟩⟩, ?_⟩
    · refine ⟨by decide, ?_, rfl⟩
      intro ch hch
      rw [List.mem_singleton.mp hch]
      rfl
    · show '=' ∉ "help".toList
      decide
    · exact fun w hw => absurd hw List.not_mem_nil
    · exact fun _ _ h => by cases h
  have hfits : (sampleCommandLine.options usage).length ≤ maxCount := by
    show 3 ≤ maxCount
    decide
  rw [(ofArgv_reads _).1 sampleCommandLine hvalid hfits rfl]
  rfl

theorem checkArguments_eq_file_iff {args : Arguments} {file : String} :
    checkArguments args = .inr file ↔ args.error = false ∧ args.nonOptions = [] ∧
      args.help = false ∧ args.argc ≠ 0 ∧ args.configFile = [file] := by
  unfold checkArguments
  cases args.error with
  | true => simp
  | false =>
    by_cases hnone : args.nonOptions = []
    · by_cases hhelp : args.help = true ∨ args.argc = 0
      · rw [if_neg Bool.false_ne_true, if_neg (not_not_intro hnone), if_pos hhelp]
        constructor
        · intro h
          cases h
        · rintro ⟨-, -, hfalse, hargc, -⟩
          rcases hhelp with htrue | hzero
          · rw [hfalse] at htrue
            cases htrue
          · exact absurd hzero hargc
      · obtain ⟨hfalse, hargc⟩ := not_or.mp hhelp
        rw [if_neg Bool.false_ne_true, if_neg (not_not_intro hnone), if_neg hhelp]
        have hfalse : args.help = false := Bool.eq_false_iff.mpr hfalse
        match args.configFile with
        | [] => simp
        | [f] => simp [hnone, hfalse, hargc]
        | f :: f' :: files => simp
    · simp [hnone]

/-- The configuration files that are asked for have names. -/
theorem CommandLine.Valid.argsOf_configFile (hcl : cl.Valid usage) :
    ((cl.argsOf .configFile).filterMap id).map some = cl.argsOf .configFile := by
  have hargs : ∀ arg ∈ cl.argsOf .configFile, arg.isSome = true := by
    intro arg harg
    obtain ⟨o, ho, rfl⟩ := List.mem_map.mp harg
    obtain ⟨ho, hindex⟩ := List.mem_filter.mp ho
    rw [Option.isSome_map]
    exact CommandLine.Valid.isSome_of_file hcl ho (.inl rfl) (of_decide_eq_true hindex)
  generalize cl.argsOf .configFile = args at hargs
  induction args with
  | nil => rfl
  | cons arg args ih =>
    obtain ⟨value, rfl⟩ := Option.isSome_iff_exists.mp (hargs arg List.mem_cons_self)
    have ih := ih fun a ha => hargs a (List.mem_cons_of_mem _ ha)
    show some value :: (args.filterMap id).map some = _
    rw [ih]

/-- **When the tool starts.** It goes on with a configuration file exactly if the command
line has nothing but options, names that file and no other, and does not ask for help;
options nobody knows are let pass. -/
theorem starts_iff (argv : List CString) (file : String) :
    checkArguments (.ofArgv argv) = .inr file ↔ ∃ cl : CommandLine, cl.Valid usage ∧
      (cl.options usage).length ≤ maxCount ∧ cl.render = argv.tail ∧
      cl.ending.nonOptions = [] ∧ cl.argsOf .help = [] ∧
      cl.argsOf .configFile = [some file] := by
  rw [checkArguments_eq_file_iff]
  constructor
  · rintro ⟨hok, hnone, hhelp, -, hconfig⟩
    obtain ⟨cl, hcl, hfits, hrender⟩ := commandLine_of_ok hok
    rw [ofArgv_commandLine hcl hfits hrender] at hnone hhelp hconfig
    refine ⟨cl, hcl, hfits, hrender, List.map_eq_nil_iff.mp hnone, ?_, ?_⟩
    · exact not_not.mp (of_decide_eq_false hhelp)
    · have hconfig : (cl.argsOf .configFile).filterMap id = [file] := hconfig
      rw [← CommandLine.Valid.argsOf_configFile hcl, hconfig]
      rfl
  · rintro ⟨cl, hcl, hfits, hrender, hnone, hhelp, hconfig⟩
    have hwords : cl.words ≠ [] := by
      intro hnil
      unfold CommandLine.argsOf CommandLine.options at hconfig
      rw [hnil] at hconfig
      cases hconfig
    have hargc : cl.render.length ≠ 0 := by
      obtain ⟨w, words, heq⟩ := List.exists_cons_of_ne_nil hwords
      unfold CommandLine.render
      rw [heq]
      exact Nat.succ_ne_zero _
    rw [ofArgv_commandLine hcl hfits hrender]
    refine ⟨rfl, ?_, ?_, hargc, ?_⟩
    · show cl.ending.nonOptions.map String.ofList = []
      rw [hnone]
      rfl
    · show decide (cl.argsOf .help ≠ []) = false
      rw [hhelp]
      rfl
    · show (cl.argsOf .configFile).filterMap id = [file]
      rw [hconfig]
      rfl

end Reads

end DiscoveryServer
