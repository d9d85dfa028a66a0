import DiscoveryServer.Library.Fold

/-!
# The option parser

The parser `main` hands its command line to. `workhorse` walks through the argument
vector and tells an action about every option it finds. It is run twice: `Stats` counts
the options for the size of a buffer, `Parser` stores them in it, without looking at the
size again.

Neither action changes what is found (`workhorse_eq`), so the count is the one the
buffer needs (`stats_suffice`).
-/

namespace DiscoveryServer.OptionParser

open Library

/-- A string of the argument vector: its bytes up to the terminator, so that it is `[]` where
`*s == 0`. -/
abbrev CString := List Char

/-- Results of checking an argument. -/
inductive ArgStatus where
  | none
  | ok
  | ignore
  | illegal
deriving DecidableEq

/-- `option::Descriptor`, with a check that is given the name and the argument of an
option. The index is `unsigned`, and `StoreOptionAction` keeps it in an `int`: it is one
that fits, so that it does not become negative there and `index + 1` does not wrap. -/
structure Descriptor where
  index : Nat
  shortopt : CString
  longopt : CString
  checkArg : CString → Option CString → ArgStatus
  fitsInt : index < 2147483648

/-- `option::Option`. Its links are the order of the list it is stored in. -/
structure ParsedOption where
  desc : Descriptor
  name : CString
  arg : Option CString

/-- `option::Arg::None`. -/
def Arg.none (_ : CString) (_ : Option CString) : ArgStatus := .none

/-- `Arg::check_inp`: the argument is required. -/
def Arg.checkInp (_ : CString) (arg : Option CString) : ArgStatus :=
  match arg with
  | some _ => .ok
  | .none => .illegal

/-- `Parser::Action`. Either way out says what has become of the state. -/
structure Action (σ : Type) where
  perform : σ → ParsedOption → Except σ σ
  finished : σ → List CString → σ

/-! ## Names -/

/-- End of the string, or `=`. -/
def endsName (st : CString) : Bool := st = [] ∨ st.head? = some '='

def streq : CString → CString → Bool
  | [], st2 => endsName st2
  | _ :: _, [] => false
  | c :: st1, d :: st2 => c == d && streq st1 st2

/-- `streqabbr`, when `count` characters have been the same. -/
def streqabbr (min : Int) (count : Nat) : CString → CString → Bool
  | [], st2 => endsName st2
  | _ :: _, [] => 0 < min ∧ min ≤ count
  | c :: st1, d :: st2 =>
    if c = d then streqabbr min (count + 1) st1 st2
    else (0 < min ∧ min ≤ count) ∧ d = '='

def instr (ch : Char) (st : CString) : Bool := st.contains ch

/-- The long option of a name or, if abbreviations are allowed, the only one that the name
abbreviates. -/
def findLongopt (usage : List Descriptor) (minAbbrLen : Int) (longoptName : CString) :
    Option Descriptor :=
  match usage.find? fun d => streq d.longopt longoptName with
  | some d => some d
  | none =>
    if 0 < minAbbrLen then
      match usage.filter fun d => streqabbr minAbbrLen 0 d.longopt longoptName with
      | [d] => some d
      | _ => none
    else none

def findShortopt (usage : List Descriptor) (ch : Char) : Option Descriptor :=
  usage.find? fun d => instr ch d.shortopt

/-- The dummy entry for unknown options. -/
def findDummy (usage : List Descriptor) : Option Descriptor :=
  usage.find? fun d => d.shortopt = [] ∧ d.longopt = []

/-! ## Options -/

/-- `optarg`, by where it points. -/
inductive OptArg where
  | attached (arg : CString)
  /-- The next element of the argument vector. -/
  | separate (arg : CString)
  | missing

def OptArg.ofNext : Option CString → OptArg
  | some arg => .separate arg
  | none => .missing

def OptArg.value : OptArg → Option CString
  | .attached arg => some arg
  | .separate arg => some arg
  | .missing => none

def OptArg.isSeparate : OptArg → Bool
  | .separate _ => true
  | _ => false

/-- The potential argument of a long option. -/
def longArg (longoptName : CString) (next : Option CString) : OptArg :=
  match longoptName.dropWhile (· ≠ '=') with
  | _ :: arg => .attached arg
  | [] => .ofNext next

/-- The potential argument of a short option that `rest` follows. -/
def shortArg (rest : CString) (next : Option CString) : OptArg :=
  match rest with
  | [] => .ofNext next
  | _ :: _ => .attached rest

section Workhorse

variable {σ : Type} (usage : List Descriptor) (action : Action σ) (next : Option CString)

/-- One option: whether it has an argument, or the parse ends. -/
def processOption (found : Option Descriptor) (name : CString) (optarg : OptArg) (s : σ) :
    Except σ (σ × Bool) :=
  match found.or (findDummy usage) with
  | none => .ok (s, false)
  | some descriptor =>
    match descriptor.checkArg name optarg.value with
    | .illegal => .error s
    | .ok => (action.perform s ⟨descriptor, name, optarg.value⟩).map fun s => (s, true)
    | .ignore => (action.perform s ⟨descriptor, name, none⟩).map fun s => (s, false)
    | .none => (action.perform s ⟨descriptor, name, none⟩).map fun s => (s, false)

/-- The body of the loop for a long option: whether the next element is its argument. -/
def longOption (found : Option Descriptor) (param longoptName : CString) (s : σ) :
    Except σ (σ × Bool) :=
  let optarg := longArg longoptName next
  (processOption usage action found param optarg s).map fun (s, taken) =>
    (s, taken && optarg.isSeparate)

/-- The loop over the short options of a group. An argument ends the group. -/
def shortOptions : CString → σ → Except σ (σ × Bool)
  | [], s => .ok (s, false)
  | ch :: rest, s =>
    let optarg := shortArg rest next
    match processOption usage action (findShortopt usage ch) (ch :: rest) optarg s with
    | .error s => .error s
    | .ok (s, true) => .ok (s, optarg.isSeparate)
    | .ok (s, false) => shortOptions rest s

/-- What an element with options is: `--long-option`, `-srto` or, where they are allowed,
`-long-option`. -/
def processParam (singleMinusLongopt : Bool) (minAbbrLen : Int) (param : CString) (s : σ) :
    Except σ (σ × Bool) :=
  match param with
  | _ :: '-' :: longoptName =>
    longOption usage action next (findLongopt usage minAbbrLen longoptName) param longoptName s
  | _ =>
    let longoptName := param.tail
    match if singleMinusLongopt then findLongopt usage minAbbrLen longoptName else none with
    | some d => longOption usage action next (some d) param longoptName s
    | none => shortOptions usage action next longoptName s

end Workhorse

/-- A lone minus character is a non-option argument. -/
def isNonOption (param : CString) : Bool := param.head? ≠ some '-' ∨ param = ['-']

/-- `Parser::workhorse`. The non-options that `shift` moves behind the options are
collected in `nonops`. -/
def workhorse {σ : Type} (gnu : Bool) (usage : List Descriptor) (action : Action σ)
    (singleMinusLongopt : Bool) (minAbbrLen : Int) (nonops : List CString) :
    List CString → σ → Except σ σ
  | [], s => .ok (action.finished s nonops)
  | param :: args, s =>
    if isNonOption param then
      if gnu then
        workhorse gnu usage action singleMinusLongopt minAbbrLen (nonops ++ [param]) args s
      else .ok (action.finished s (nonops ++ param :: args))
    else if param = ['-', '-'] then .ok (action.finished s (nonops ++ args))
    else
      match processParam usage action args.head? singleMinusLongopt minAbbrLen param s with
      | .error s => .error s
      | .ok (s, consumed) =>
        match args with
        | [] => .ok (action.finished s nonops)
        | next :: rest =>
          if consumed then
            workhorse gnu usage action singleMinusLongopt minAbbrLen nonops rest s
          else
            workhorse gnu usage action singleMinusLongopt minAbbrLen nonops (next :: rest) s

/-! ## The two passes -/

/-- What does not fit a signed `int`. -/
def maxCount : Nat := 0x7fffffff

/-- The state, whichever way out was taken. -/
def outcome {σ : Type} : Except σ σ → σ
  | .error s => s
  | .ok s => s

structure Stats where
  bufferMax : Nat
  optionsMax : Nat

/-- `Stats::CountOptionsAction`. -/
def countOptionsAction : Action Nat where
  perform bufferMax _ := if bufferMax = maxCount then .error bufferMax else .ok (bufferMax + 1)
  finished bufferMax _ := bufferMax

/-- The greatest index used in the table, plus one and a sentinel. -/
def Stats.addIndex (optionsMax : Nat) (d : Descriptor) : Nat :=
  if d.index + 1 ≥ optionsMax then d.index + 1 + 1 else optionsMax

/-- `Stats::add` to new counts, each with its sentinel. -/
def Stats.ofArgs (gnu : Bool) (usage : List Descriptor) (singleMinusLongopt : Bool)
    (minAbbrLen : Int) (args : List CString) : Stats where
  bufferMax := outcome
    (workhorse gnu usage countOptionsAction singleMinusLongopt minAbbrLen [] args 1)
  optionsMax := usage.foldl Stats.addIndex 1

/-- The arrays of options, by their used slots: `options` has the list that starts in each
slot, and `op_count` is the length of `buffer`. -/
structure Parser where
  options : List (List ParsedOption)
  buffer : List ParsedOption
  nonOptions : List CString
  err : Bool

/-- A new parser with a new array of `optionsMax` options and a new buffer. -/
def Parser.ofSize (optionsMax : Nat) : Parser := ⟨List.replicate optionsMax [], [], [], false⟩

/-- `Parser::StoreOptionAction`. A `bufmax` below 0 means "large enough". -/
def storeOptionAction (bufmax : Int) : Action Parser where
  perform p option :=
    if bufmax < 0 ∨ p.buffer.length < bufmax then
      if p.buffer.length = maxCount then .error p
      else .ok { p with
        buffer := p.buffer ++ [option]
        options := p.options.modify option.desc.index (· ++ [option]) }
    else .ok p
  finished p args := if args = [] then p else { p with nonOptions := args }

def Parser.parse (p : Parser) (gnu : Bool) (usage : List Descriptor) (args : List CString)
    (minAbbrLen : Int) (singleMinusLongopt : Bool) (bufmax : Int) : Parser :=
  match workhorse gnu usage (storeOptionAction bufmax) singleMinusLongopt minAbbrLen [] args p with
  | .ok p => { p with err := false }
  | .error p => { p with err := true }

/-! ## What the actions are told -/

/-- The options of an argument vector, and the non-options after them. -/
structure Reading where
  options : List ParsedOption
  nonOptions : List CString

/-- An action that writes down what it is told. -/
def recordAction : Action Reading where
  perform r option := .ok ⟨r.options ++ [option], r.nonOptions⟩
  finished r args := ⟨r.options, args⟩

@[simp] theorem foldlM_record (os : List ParsedOption) (r : Reading) :
    os.foldlM recordAction.perform r = .ok ⟨r.options ++ os, r.nonOptions⟩ := by
  induction os generalizing r with
  | nil => simp [pure, Except.pure]
  | cons o os ih =>
    rw [List.foldlM_cons]
    show os.foldlM recordAction.perform ⟨r.options ++ [o], r.nonOptions⟩ = _
    rw [ih, List.append_assoc]
    rfl

section Replay

variable {σ : Type} (action : Action σ) (s : σ)

/-- The action is told what has been written down about an element. -/
def Action.replay : Except Reading (Reading × Bool) → Except σ (σ × Bool)
  | .error r => r.options.foldlM action.perform s >>= .error
  | .ok (r, b) => (r.options.foldlM action.perform s).map fun s => (s, b)

/-- The action is told what has been written down about an argument vector. -/
def Action.replayAll : Except Reading Reading → Except σ σ
  | .error r => r.options.foldlM action.perform s >>= .error
  | .ok r => (r.options.foldlM action.perform s).map fun s => action.finished s r.nonOptions

end Replay

/-- Nothing has been written down yet. -/
def Reading.blank : Reading := ⟨[], []⟩

section Told

variable {σ : Type} (usage : List Descriptor) (action : Action σ) (next : Option CString)

theorem replay_one (s : σ) (o : ParsedOption) (b : Bool) :
    action.replay s ((recordAction.perform .blank o).map fun r => (r, b)) =
      (action.perform s o).map fun s => (s, b) := by
  show ([o].foldlM action.perform s).map _ = _
  rw [List.foldlM_cons]
  cases action.perform s o <;> rfl

theorem processOption_eq (found : Option Descriptor) (name : CString) (optarg : OptArg) (s : σ) :
    processOption usage action found name optarg s =
      action.replay s (processOption usage recordAction found name optarg .blank) := by
  unfold processOption
  cases found.or (findDummy usage) with
  | none => rfl
  | some d =>
    dsimp only
    cases d.checkArg name optarg.value with
    | illegal => rfl
    | ok => exact (replay_one action s _ _).symm
    | ignore => exact (replay_one action s _ _).symm
    | none => exact (replay_one action s _ _).symm

theorem replay_map (s : σ) (x : Except Reading (Reading × Bool)) (f : Bool → Bool) :
    action.replay s (x.map fun (r, b) => (r, f b)) =
      (action.replay s x).map fun (s, b) => (s, f b) := by
  cases x with
  | error r =>
    show action.replay s (.error r) = (action.replay s (.error r)).map _
    unfold Action.replay
    dsimp only
    cases r.options.foldlM action.perform s <;> rfl
  | ok x =>
    show action.replay s (.ok (x.1, f x.2)) = (action.replay s (.ok x)).map _
    unfold Action.replay
    dsimp only
    cases x.1.options.foldlM action.perform s <;> rfl

theorem longOption_eq (found : Option Descriptor) (param longoptName : CString) (s : σ) :
    longOption usage action next found param longoptName s =
      action.replay s (longOption usage recordAction next found param longoptName .blank) := by
  unfold longOption
  dsimp only
  rw [processOption_eq]
  exact (replay_map action s _ fun taken => taken && (longArg longoptName next).isSeparate).symm

/-- What is written down after `r` is written down behind it. -/
theorem replay_record (r : Reading) (x : Except Reading (Reading × Bool)) :
    recordAction.replay r x = match x with
      | .error t => .error ⟨r.options ++ t.options, r.nonOptions⟩
      | .ok (t, b) => .ok (⟨r.options ++ t.options, r.nonOptions⟩, b) := by
  cases x with
  | error t =>
    unfold Action.replay
    dsimp only
    rw [foldlM_record]
    rfl
  | ok x =>
    unfold Action.replay
    dsimp only
    rw [foldlM_record]
    rfl

/-- Written down in one go or with a stop, it is told the same. -/
theorem replay_replay (s : σ) (r : Reading) (x : Except Reading (Reading × Bool)) :
    action.replay s (recordAction.replay r x) =
      r.options.foldlM action.perform s >>= fun s => action.replay s x := by
  rw [replay_record]
  cases x with
  | error t =>
    unfold Action.replay
    dsimp only
    rw [List.foldlM_append]
    cases r.options.foldlM action.perform s <;> rfl
  | ok x =>
    unfold Action.replay
    dsimp only
    rw [List.foldlM_append]
    cases r.options.foldlM action.perform s <;> rfl

theorem shortOptions_eq (group : CString) (s : σ) :
    shortOptions usage action next group s =
      action.replay s (shortOptions usage recordAction next group .blank) := by
  induction group generalizing σ with
  | nil => rfl
  | cons ch rest ih =>
    unfold shortOptions
    dsimp only
    rw [processOption_eq]
    cases processOption usage recordAction (findShortopt usage ch) (ch :: rest)
        (shortArg rest next) .blank with
    | error r =>
      unfold Action.replay
      dsimp only
      cases r.options.foldlM action.perform s <;> rfl
    | ok x =>
      obtain ⟨r, taken⟩ := x
      cases taken with
      | true =>
        unfold Action.replay
        dsimp only
        cases r.options.foldlM action.perform s <;> rfl
      | false =>
        dsimp only
        rw [ih recordAction r, replay_replay]
        unfold Action.replay
        dsimp only
        cases r.options.foldlM action.perform s with
        | error e => rfl
        | ok s' => exact ih action s'

theorem processParam_eq (singleMinusLongopt : Bool) (minAbbrLen : Int) (param : CString) (s : σ) :
    processParam usage action next singleMinusLongopt minAbbrLen param s =
      action.replay s
        (processParam usage recordAction next singleMinusLongopt minAbbrLen param .blank) := by
  unfold processParam
  split
  · exact longOption_eq usage action next _ _ _ s
  · dsimp only
    cases if singleMinusLongopt then findLongopt usage minAbbrLen param.tail else none with
    | some d => exact longOption_eq usage action next _ _ _ s
    | none => exact shortOptions_eq usage action next _ s

end Told

section Passes

variable {σ : Type} (gnu : Bool) (usage : List Descriptor) (action : Action σ)
  (singleMinusLongopt : Bool) (minAbbrLen : Int)

/-- An element with options: the parse goes on behind it, or behind its argument. -/
theorem workhorse_param (nonops args : List CString) {param : CString} (s : σ)
    (hoption : isNonOption param = false) (hdash : param ≠ ['-', '-']) :
    workhorse gnu usage action singleMinusLongopt minAbbrLen nonops (param :: args) s =
      match processParam usage action args.head? singleMinusLongopt minAbbrLen param s with
      | .error s => .error s
      | .ok (s, consumed) => workhorse gnu usage action singleMinusLongopt minAbbrLen nonops
          (if consumed then args.tail else args) s := by
  rw [workhorse, hoption, if_neg Bool.false_ne_true, if_neg hdash]
  cases processParam usage action args.head? singleMinusLongopt minAbbrLen param s with
  | error s => rfl
  | ok x =>
    obtain ⟨s, consumed⟩ := x
    cases args with
    | nil => cases consumed <;> rfl
    | cons next rest => cases consumed <;> rfl

/-- What the parse of the rest writes down comes behind what has been written down. -/
theorem replayAll_record (s : σ) (r : Reading) (x : Except Reading Reading) :
    action.replayAll s (recordAction.replayAll r x) =
      r.options.foldlM action.perform s >>= fun s => action.replayAll s x := by
  cases x with
  | error t =>
    unfold Action.replayAll
    dsimp only
    rw [foldlM_record]
    show (((r.options ++ t.options).foldlM action.perform s) >>= Except.error) = _
    rw [List.foldlM_append]
    cases r.options.foldlM action.perform s <;> rfl
  | ok t =>
    unfold Action.replayAll
    dsimp only
    rw [foldlM_record]
    show ((r.options ++ t.options).foldlM action.perform s).map _ = _
    rw [List.foldlM_append]
    cases r.options.foldlM action.perform s <;> rfl

/-- **An action does not change what is found**: every action is told what is written down. -/
theorem workhorse_eq (nonops args : List CString) (s : σ) :
    workhorse gnu usage action singleMinusLongopt minAbbrLen nonops args s =
      action.replayAll s
        (workhorse gnu usage recordAction singleMinusLongopt minAbbrLen nonops args .blank) := by
  induction hlength : args.length using Nat.strongRecOn generalizing σ nonops args s with
  | ind n ih =>
    cases args with
    | nil => rfl
    | cons param args =>
      cases hoption : isNonOption param with
      | true =>
        rw [workhorse, workhorse, hoption, if_pos rfl, if_pos rfl]
        cases gnu with
        | false => rfl
        | true => exact ih args.length (by simp at hlength; omega) action _ args s rfl
      | false =>
        by_cases hdash : param = ['-', '-']
        · rw [workhorse, workhorse, hoption, if_neg Bool.false_ne_true, if_neg Bool.false_ne_true,
            if_pos hdash, if_pos hdash]
          rfl
        · rw [workhorse_param gnu usage action _ _ _ _ _ hoption hdash,
            workhorse_param gnu usage recordAction _ _ _ _ _ hoption hdash, processParam_eq]
          cases processParam usage recordAction args.head? singleMinusLongopt minAbbrLen param
              .blank with
          | error r =>
            unfold Action.replay Action.replayAll
            dsimp only
            cases r.options.foldlM action.perform s <;> rfl
          | ok x =>
            obtain ⟨r, consumed⟩ := x
            have hrest : (if consumed then args.tail else args).length < n := by
              cases consumed <;> simp at hlength ⊢ <;> omega
            dsimp only
            rw [ih _ hrest recordAction nonops _ r rfl, replayAll_record]
            unfold Action.replay
            dsimp only
            cases r.options.foldlM action.perform s with
            | error e => rfl
            | ok s' => exact ih _ hrest action nonops _ s' rfl

end Passes

/-! ## Descriptors -/

section Described

variable {usage : List Descriptor}

/-- The options have descriptors of the table. -/
def Described (usage : List Descriptor) (os : List ParsedOption) : Prop :=
  ∀ o ∈ os, o.desc ∈ usage

/-- The options written down about an element. -/
def told : Except Reading (Reading × Bool) → List ParsedOption
  | .error r => r.options
  | .ok (r, _) => r.options

theorem Described.append {os os' : List ParsedOption} (h : Described usage os)
    (h' : Described usage os') : Described usage (os ++ os') := by
  intro o ho
  cases List.mem_append.mp ho with
  | inl ho => exact h o ho
  | inr ho => exact h' o ho

theorem findLongopt_mem {minAbbrLen : Int} {longoptName : CString} {d : Descriptor}
    (h : findLongopt usage minAbbrLen longoptName = some d) : d ∈ usage := by
  unfold findLongopt at h
  cases hfind : usage.find? fun d => streq d.longopt longoptName with
  | some d' =>
    rw [hfind] at h
    cases h
    exact List.mem_of_find?_eq_some hfind
  | none =>
    rw [hfind] at h
    obtain ⟨-, h⟩ := Option.ite_none_right_eq_some.mp h
    split at h
    · rename_i d' hfilter
      cases h
      have hmem : d ∈ usage.filter fun d => streqabbr minAbbrLen 0 d.longopt longoptName := by
        rw [hfilter]
        exact List.mem_singleton.mpr rfl
      exact (List.mem_filter.mp hmem).1
    · cases h

theorem processOption_described {found : Option Descriptor} (hfound : ∀ d ∈ found, d ∈ usage)
    (name : CString) (optarg : OptArg) :
    Described usage (told (processOption usage recordAction found name optarg .blank)) := by
  have hmem : ∀ d, found.or (findDummy usage) = some d → d ∈ usage := by
    intro d hd
    cases found with
    | some d' => exact hfound d hd
    | none => exact List.mem_of_find?_eq_some hd
  unfold processOption
  cases hd : found.or (findDummy usage) with
  | none =>
    intro o ho
    cases ho
  | some d =>
    have hone : ∀ arg, Described usage [⟨d, name, arg⟩] := by
      intro arg o ho
      rw [List.mem_singleton.mp ho]
      exact hmem d hd
    dsimp only
    cases d.checkArg name optarg.value with
    | illegal =>
      intro o ho
      cases ho
    | ok => exact hone _
    | ignore => exact hone _
    | none => exact hone _

theorem shortOptions_described (next : Option CString) (group : CString) :
    Described usage (told (shortOptions usage recordAction next group .blank)) := by
  induction group with
  | nil =>
    intro o ho
    cases ho
  | cons ch rest ih =>
    have hfound : ∀ d ∈ findShortopt usage ch, d ∈ usage := fun d hd =>
      List.mem_of_find?_eq_some hd
    have hone := processOption_described hfound (ch :: rest) (shortArg rest next)
    unfold shortOptions
    dsimp only
    cases hx : processOption usage recordAction (findShortopt usage ch) (ch :: rest)
        (shortArg rest next) .blank with
    | error r =>
      rw [hx] at hone
      exact hone
    | ok x =>
      obtain ⟨r, taken⟩ := x
      rw [hx] at hone
      cases taken with
      | true => exact hone
      | false =>
        dsimp only
        rw [shortOptions_eq, replay_record]
        revert ih
        cases shortOptions usage recordAction next rest .blank with
        | error t => exact fun ih => hone.append ih
        | ok t => exact fun ih => hone.append ih

theorem longOption_described {found : Option Descriptor} (hfound : ∀ d ∈ found, d ∈ usage)
    (next : Option CString) (param longoptName : CString) :
    Described usage
      (told (longOption usage recordAction next found param longoptName .blank)) := by
  have hone := processOption_described hfound param (longArg longoptName next)
  unfold longOption
  dsimp only
  revert hone
  cases processOption usage recordAction found param (longArg longoptName next) .blank with
  | error r => exact fun hone => hone
  | ok x => exact fun hone => hone

theorem processParam_described (next : Option CString) (singleMinusLongopt : Bool)
    (minAbbrLen : Int) (param : CString) :
    Described usage
      (told (processParam usage recordAction next singleMinusLongopt minAbbrLen param .blank)) := by
  unfold processParam
  split
  · exact longOption_described (fun d hd => findLongopt_mem hd) next _ _
  · dsimp only
    cases hfound : if singleMinusLongopt then findLongopt usage minAbbrLen param.tail else none with
    | some d =>
      refine longOption_described (fun d' hd' => ?_) next _ _
      cases hd'
      split at hfound
      · exact findLongopt_mem hfound
      · cases hfound
    | none => exact shortOptions_described next _

theorem workhorse_described (gnu : Bool) (singleMinusLongopt : Bool) (minAbbrLen : Int)
    (nonops args : List CString) :
    Described usage (outcome (workhorse gnu usage recordAction singleMinusLongopt minAbbrLen
      nonops args .blank)).options := by
  induction hlength : args.length using Nat.strongRecOn generalizing nonops args with
  | ind n ih =>
    have hnone : Described usage [] := by
      intro o ho
      cases ho
    cases args with
    | nil => exact hnone
    | cons param args =>
      cases hoption : isNonOption param with
      | true =>
        rw [workhorse, hoption, if_pos rfl]
        cases gnu with
        | false => exact hnone
        | true => exact ih args.length (by simp at hlength; omega) _ args rfl
      | false =>
        by_cases hdash : param = ['-', '-']
        · rw [workhorse, hoption, if_neg Bool.false_ne_true, if_pos hdash]
          exact hnone
        · have hone : Described usage (told (processParam usage recordAction args.head?
              singleMinusLongopt minAbbrLen param .blank)) :=
            processParam_described args.head? singleMinusLongopt minAbbrLen param
          rw [workhorse_param gnu usage recordAction _ _ _ _ _ hoption hdash]
          cases hx : processParam usage recordAction args.head? singleMinusLongopt minAbbrLen param
              .blank with
          | error r =>
            rw [hx] at hone
            exact hone
          | ok x =>
            obtain ⟨r, consumed⟩ := x
            rw [hx] at hone
            have hrest : (if consumed then args.tail else args).length < n := by
              cases consumed <;> simp at hlength ⊢ <;> omega
            have ih := ih _ hrest nonops _ rfl
            dsimp only
            rw [workhorse_eq]
            revert ih
            cases workhorse gnu usage recordAction singleMinusLongopt minAbbrLen nonops
                (if consumed then args.tail else args) .blank with
            | error t =>
              intro ih
              unfold Action.replayAll
              dsimp only
              rw [foldlM_record]
              exact hone.append ih
            | ok t =>
              intro ih
              unfold Action.replayAll
              dsimp only
              rw [foldlM_record]
              exact hone.append ih

end Described

/-! ## What the passes leave behind -/

/-- A parser that has stored options. -/
def Parser.stored (optionsMax : Nat) (os : List ParsedOption) : Parser where
  options := (List.range optionsMax).map fun i => os.filter fun o => o.desc.index = i
  buffer := os
  nonOptions := []
  err := false

theorem Parser.ofSize_eq (optionsMax : Nat) : ofSize optionsMax = stored optionsMax [] := by
  unfold ofSize stored
  simp

theorem foldlM_count (os : List ParsedOption) {n : Nat} (hn : n ≤ maxCount) :
    os.foldlM countOptionsAction.perform n =
      if n + os.length ≤ maxCount then .ok (n + os.length) else .error maxCount := by
  induction os generalizing n with
  | nil => exact (if_pos hn).symm
  | cons o os ih =>
    rw [List.foldlM_cons]
    show (if n = maxCount then Except.error n else .ok (n + 1)) >>= _ = _
    by_cases hmax : n = maxCount
    · subst hmax
      rw [if_pos rfl, if_neg (by simp)]
      rfl
    · have hlength : n + (o :: os).length = n + 1 + os.length := by
        rw [List.length_cons]
        omega
      rw [if_neg hmax, hlength]
      exact ih (by omega)

theorem perform_store (p : Parser) (o : ParsedOption) :
    (storeOptionAction (-1)).perform p o =
      if p.buffer.length = maxCount then .error p
      else .ok { p with
        buffer := p.buffer ++ [o]
        options := p.options.modify o.desc.index (· ++ [o]) } := by
  unfold storeOptionAction
  dsimp only
  exact if_pos (.inl (by decide))

/-- One more option is stored: in the buffer, and last in the list of its index. -/
theorem perform_stored (optionsMax : Nat) (os : List ParsedOption) (o : ParsedOption)
    (hlength : os.length ≠ maxCount) :
    (storeOptionAction (-1)).perform (.stored optionsMax os) o =
      .ok (.stored optionsMax (os ++ [o])) := by
  have hlists : (Parser.stored optionsMax os).options.modify o.desc.index (· ++ [o]) =
      (Parser.stored optionsMax (os ++ [o])).options := by
    apply List.ext_getElem?
    intro i
    unfold Parser.stored
    simp only [List.getElem?_modify, List.getElem?_map, List.filter_append, List.filter_cons,
      List.filter_nil]
    cases hi : (List.range optionsMax)[i]? with
    | none => rfl
    | some j =>
      obtain ⟨-, rfl⟩ := List.getElem?_eq_some_iff.mp hi
      by_cases hindex : o.desc.index = i <;> simp [hindex]
  rw [perform_store, hlists]
  exact if_neg hlength

theorem foldlM_store (optionsMax : Nat) (os : List ParsedOption) {done : List ParsedOption}
    (hdone : done.length ≤ maxCount) :
    os.foldlM (storeOptionAction (-1)).perform (.stored optionsMax done) =
      if done.length + os.length ≤ maxCount then .ok (.stored optionsMax (done ++ os))
      else .error (.stored optionsMax ((done ++ os).take maxCount)) := by
  induction os generalizing done with
  | nil =>
    rw [List.append_nil]
    exact (if_pos hdone).symm
  | cons o os ih =>
    rw [List.foldlM_cons]
    by_cases hmax : done.length = maxCount
    · have hstop : (storeOptionAction (-1)).perform (.stored optionsMax done) o =
          .error (.stored optionsMax done) := by
        rw [perform_store]
        exact if_pos hmax
      rw [hstop, if_neg (by rw [hmax, List.length_cons]; omega), ← hmax, List.take_left]
      rfl
    · have hlength : done.length + (o :: os).length = (done ++ [o]).length + os.length := by
        simp only [List.length_cons, List.length_append, List.length_nil]
        omega
      rw [perform_stored optionsMax done o hmax, ok_bind, ih (by simp; omega), hlength,
        List.append_assoc]
      rfl

/-- What the parser of a new pair of arrays has found. -/
theorem parse_eq (optionsMax : Nat) (gnu : Bool) (usage : List Descriptor) (args : List CString)
    (minAbbrLen : Int) (singleMinusLongopt : Bool) :
    (Parser.ofSize optionsMax).parse gnu usage args minAbbrLen singleMinusLongopt (-1) =
      match workhorse gnu usage recordAction singleMinusLongopt minAbbrLen [] args .blank with
      | .error r => { Parser.stored optionsMax (r.options.take maxCount) with err := true }
      | .ok r =>
        if r.options.length ≤ maxCount then
          { Parser.stored optionsMax r.options with nonOptions := r.nonOptions }
        else { Parser.stored optionsMax (r.options.take maxCount) with err := true } := by
  unfold Parser.parse
  rw [workhorse_eq, Parser.ofSize_eq]
  cases workhorse gnu usage recordAction singleMinusLongopt minAbbrLen [] args .blank with
  | error r =>
    unfold Action.replayAll
    dsimp only
    rw [foldlM_store optionsMax r.options (Nat.zero_le _), List.nil_append, List.length_nil,
      Nat.zero_add]
    by_cases hlength : r.options.length ≤ maxCount
    · rw [if_pos hlength, List.take_of_length_le hlength]
      rfl
    · rw [if_neg hlength]
      rfl
  | ok r =>
    unfold Action.replayAll
    dsimp only
    rw [foldlM_store optionsMax r.options (Nat.zero_le _), List.nil_append, List.length_nil,
      Nat.zero_add]
    by_cases hlength : r.options.length ≤ maxCount
    · rw [if_pos hlength, if_pos hlength]
      show { (if r.nonOptions = [] then _ else _ : Parser) with err := false } = _
      by_cases hnone : r.nonOptions = []
      · rw [if_pos hnone, hnone]
        rfl
      · rw [if_neg hnone]
        rfl
    · rw [if_neg hlength, if_neg hlength]
      rfl

/-- What `Stats` has counted: one for the sentinel and one for each option, up to the
largest number. -/
theorem bufferMax_eq (gnu : Bool) (usage : List Descriptor) (singleMinusLongopt : Bool)
    (minAbbrLen : Int) (args : List CString) :
    (Stats.ofArgs gnu usage singleMinusLongopt minAbbrLen args).bufferMax =
      min (1 + (outcome (workhorse gnu usage recordAction singleMinusLongopt minAbbrLen [] args
        .blank)).options.length) maxCount := by
  unfold Stats.ofArgs
  dsimp only
  rw [workhorse_eq]
  have hone : 1 ≤ maxCount := by decide
  cases workhorse gnu usage recordAction singleMinusLongopt minAbbrLen [] args .blank with
  | error r =>
    unfold Action.replayAll
    dsimp only
    rw [foldlM_count r.options hone]
    by_cases hlength : 1 + r.options.length ≤ maxCount
    · rw [if_pos hlength]
      exact (Nat.min_eq_left hlength).symm
    · rw [if_neg hlength]
      exact (Nat.min_eq_right (Nat.le_of_not_le hlength)).symm
  | ok r =>
    unfold Action.replayAll
    dsimp only
    rw [foldlM_count r.options hone]
    by_cases hlength : 1 + r.options.length ≤ maxCount
    · rw [if_pos hlength]
      exact (Nat.min_eq_left hlength).symm
    · rw [if_neg hlength]
      exact (Nat.min_eq_right (Nat.le_of_not_le hlength)).symm

/-- Every index of the table fits, with a sentinel after it. -/
theorem index_lt_optionsMax (gnu : Bool) (usage : List Descriptor) (singleMinusLongopt : Bool)
    (minAbbrLen : Int) (args : List CString) {d : Descriptor} (hd : d ∈ usage) :
    d.index + 1 < (Stats.ofArgs gnu usage singleMinusLongopt minAbbrLen args).optionsMax := by
  have hstep : ∀ (n : Nat) (d : Descriptor), n ≤ Stats.addIndex n d ∧
      d.index + 1 < Stats.addIndex n d := by
    intro n d
    unfold Stats.addIndex
    split <;> omega
  have hmono : ∀ (l : List Descriptor) (n : Nat), n ≤ l.foldl Stats.addIndex n := by
    intro l
    induction l with
    | nil => exact fun n => Nat.le_refl n
    | cons d l ih => exact fun n => Nat.le_trans (hstep n d).1 (ih _)
  have hmem : ∀ (l : List Descriptor) (n : Nat),
      d ∈ l → d.index + 1 < l.foldl Stats.addIndex n := by
    intro l
    induction l with
    | nil => exact fun n hd => absurd hd List.not_mem_nil
    | cons d' l ih =>
      intro n hd
      cases List.mem_cons.mp hd with
      | inl heq =>
        subst heq
        exact Nat.lt_of_lt_of_le (hstep n d).2 (hmono l _)
      | inr hd => exact ih _ hd
  exact hmem usage 1 hd

/-- The size of the array of options is an `unsigned`: it has not wrapped. -/
theorem optionsMax_lt (gnu : Bool) (usage : List Descriptor) (singleMinusLongopt : Bool)
    (minAbbrLen : Int) (args : List CString) :
    (Stats.ofArgs gnu usage singleMinusLongopt minAbbrLen args).optionsMax < 4294967296 := by
  have hfold : ∀ (l : List Descriptor) (n : Nat), n ≤ 2147483649 →
      l.foldl Stats.addIndex n ≤ 2147483649 := by
    intro l
    induction l with
    | nil => exact fun n hn => hn
    | cons d l ih =>
      intro n hn
      apply ih
      have hfits := d.fitsInt
      unfold Stats.addIndex
      split <;> omega
  have hle := hfold usage 1 (by decide)
  show usage.foldl Stats.addIndex 1 < 4294967296
  omega

/-- **The arrays are large enough.** For every table and every argument vector, the buffer
that `Stats` asks for has room for all the options the parser stores, with one to spare
unless the number does not fit an `int`; the options go to existing slots, and each slot
has the options of its index in the order of the command line. -/
theorem stats_suffice (usage : List Descriptor) (args : List CString) (minAbbrLen : Int)
    (singleMinusLongopt : Bool) :
    let stats := Stats.ofArgs false usage singleMinusLongopt minAbbrLen args
    let parse := (Parser.ofSize stats.optionsMax).parse false usage args minAbbrLen
      singleMinusLongopt (-1)
    parse.buffer.length ≤ stats.bufferMax ∧
      (stats.bufferMax < maxCount → parse.buffer.length + 1 = stats.bufferMax) ∧
      stats.optionsMax < 4294967296 ∧
      (∀ o ∈ parse.buffer, o.desc ∈ usage ∧ o.desc.index + 1 < stats.optionsMax) ∧
      parse.options.length = stats.optionsMax ∧
      ∀ i < stats.optionsMax, parse.options[i]? =
        some (parse.buffer.filter fun o => o.desc.index = i) := by
  intro stats parse
  have hparse : ∃ err nonOptions, parse =
      { Parser.stored stats.optionsMax
          ((outcome (workhorse false usage recordAction singleMinusLongopt minAbbrLen [] args
            .blank)).options.take maxCount) with
        nonOptions := nonOptions, err := err } := by
    unfold parse
    rw [parse_eq]
    cases workhorse false usage recordAction singleMinusLongopt minAbbrLen [] args .blank with
    | error r => exact ⟨true, [], rfl⟩
    | ok r =>
      dsimp only
      by_cases hlength : r.options.length ≤ maxCount
      · rw [if_pos hlength]
        refine ⟨false, r.nonOptions, ?_⟩
        unfold outcome
        dsimp only
        rw [List.take_of_length_le hlength]
        rfl
      · rw [if_neg hlength]
        exact ⟨true, [], rfl⟩
  obtain ⟨err, nonOptions, hparse⟩ := hparse
  have hbuffer : parse.buffer = (outcome (workhorse false usage recordAction singleMinusLongopt
      minAbbrLen [] args .blank)).options.take maxCount := by
    rw [hparse]
    rfl
  have hcount := bufferMax_eq false usage singleMinusLongopt minAbbrLen args
  refine ⟨?_, ?_, optionsMax_lt false usage singleMinusLongopt minAbbrLen args, ?_, ?_, ?_⟩
  · rw [hbuffer, hcount, List.length_take]
    omega
  · intro hlt
    rw [hcount] at hlt ⊢
    rw [hbuffer, List.length_take]
    omega
  · intro o ho
    rw [hbuffer] at ho
    have hmem : o.desc ∈ usage := workhorse_described false singleMinusLongopt minAbbrLen [] args
      o (List.mem_of_mem_take ho)
    exact ⟨hmem, index_lt_optionsMax false usage singleMinusLongopt minAbbrLen args hmem⟩
  · rw [hparse]
    show ((List.range stats.optionsMax).map _).length = _
    rw [List.length_map, List.length_range]
  · intro i hi
    rw [hparse]
    show ((List.range stats.optionsMax).map _)[i]? = _
    rw [List.getElem?_map, List.getElem?_range hi]
    rfl

end DiscoveryServer.OptionParser
