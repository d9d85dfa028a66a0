import DiscoveryServer.Library.Fold
import DiscoveryServer.Library.OrdMap
import DiscoveryServer.Library.Xml

/-!
# Parsed XML

A file as a script gets it from `xmltodict.parse`: an element with attributes or child
elements is a dictionary, with `@name` for an attribute, and with the element, or the
list of the elements, under the name of its children; an element without either is its
text, or `None`. The accesses of a script are defined on the element itself, with the
exception each of them raises where the key or the dictionary is missing.

`fill` is a loop that enters a pair of key and value for each element; `fill_eq_ok_iff`
separates the reading of the pairs from the dictionary they make (`OrdMap.setAll`).
-/

namespace Library

/-- The exceptions a script tells apart, and any other one. -/
inductive PyError where
  | keyError
  | typeError
  | attributeError
  | valueError
  | assertionError
  | other (text : String)
deriving DecidableEq

/-- `str.isspace` of a character. -/
def pyIsSpace (c : Char) : Bool :=
  let n := c.toNat
  (9 ≤ n && n ≤ 13) || (28 ≤ n && n ≤ 32) || n = 0x85 || n = 0xa0 || n = 0x1680 ||
    (0x2000 ≤ n && n ≤ 0x200a) || n = 0x2028 || n = 0x2029 || n = 0x202f || n = 0x205f || n = 0x3000

/-- `str.strip`. -/
def pyStrip (s : String) : String :=
  .ofList ((s.toList.dropWhile pyIsSpace).reverse.dropWhile pyIsSpace).reverse

namespace XMLElement

/-- The element is parsed to a dictionary. -/
def isDict (e : XMLElement) : Bool := !e.attributes.isEmpty || !e.children.isEmpty

/-- `e['@name']`. -/
def pyAttribute (e : XMLElement) (name : String) : Except PyError String :=
  if e.isDict then
    match e.attributeValue name with
    | some value => .ok value
    | none => .error .keyError
  else .error .typeError

/-- `e['name']`, as a list also where there is one element only. -/
def pyElements (e : XMLElement) (name : String) : Except PyError (List XMLElement) :=
  if e.isDict then
    if (e.childElements name).isEmpty then .error .keyError else .ok (e.childElements name)
  else .error .typeError

/-- The same under `try`, with `handler` and an empty list for a missing key. -/
def pyElementsOr (e : XMLElement) (name : String) (handler : Except PyError Unit) :
    Except PyError (List XMLElement) :=
  match e.pyElements name with
  | .ok l => .ok l
  | .error .keyError => handler.map fun _ => []
  | .error err => .error err

/-- `name in (x.lower() for x in e.keys())`. -/
def pyHasKey (e : XMLElement) (name : String) : Except PyError Bool :=
  if e.isDict then .ok (e.children.any fun c => c.name.toList.map Char.toLower = name.toList)
  else .error .attributeError

/-- `f"{e['name']}"`, where `repr` prints dictionaries and lists. -/
def pyText (repr : List XMLElement → String) (e : XMLElement) (name : String) :
    Except PyError String :=
  (e.pyElements name).map fun l =>
    match l with
    | [c] =>
      if c.isDict then repr [c]
      else
        match c.text with
        | none => "None"
        | some s => if pyStrip s = "" then "None" else pyStrip s
    | l => repr l

/-! ## What the accesses give -/

variable {e : XMLElement} {name : String}

theorem isDict_of_attributeValue {m v : String} (h : e.attributeValue m = some v) :
    e.isDict = true := by
  have hmem := mem_attributes_of_attributeValue h
  cases hattr : e.attributes with
  | nil =>
    rw [hattr] at hmem
    cases hmem
  | cons a l =>
    unfold isDict
    rw [hattr]
    rfl

theorem pyAttribute_eq_ok_iff {v : String} :
    e.pyAttribute name = .ok v ↔ e.attributeValue name = some v := by
  unfold pyAttribute
  constructor
  · intro h
    by_cases hdict : e.isDict = true
    · rw [if_pos hdict] at h
      cases hattr : e.attributeValue name with
      | none =>
        rw [hattr] at h
        cases h
      | some w =>
        rw [hattr] at h
        cases h
        rfl
    · rw [if_neg hdict] at h
      cases h
  · intro h
    rw [if_pos (isDict_of_attributeValue h), h]

theorem pyElements_eq_ok_iff {l : List XMLElement} :
    e.pyElements name = .ok l ↔ e.childElements name = l ∧ l ≠ [] := by
  unfold pyElements
  constructor
  · intro h
    split_ifs at h with hdict hempty
    cases h
    exact ⟨rfl, fun hnil => hempty (List.isEmpty_iff.mpr hnil)⟩
  · rintro ⟨rfl, hne⟩
    have hchild : e.children ≠ [] := by
      intro hnil
      refine hne ?_
      unfold childElements
      rw [hnil]
      rfl
    have hdict : e.isDict = true := by
      unfold isDict
      rw [Bool.or_eq_true]
      refine .inr ?_
      simpa using hchild
    have hempty : (e.childElements name).isEmpty = false := by
      simpa using hne
    rw [if_pos hdict, hempty]
    rfl

theorem pyElements_of_empty (hdict : e.isDict = true) (h : e.childElements name = []) :
    e.pyElements name = .error .keyError := by
  unfold pyElements
  rw [if_pos hdict, h]
  rfl

theorem isDict_of_pyElements {l : List XMLElement} (h : e.pyElements name = .ok l) :
    e.isDict = true := by
  unfold pyElements at h
  split_ifs at h with hdict
  exact hdict

theorem pyElements_eq_error (hdict : e.isDict = true) {err : PyError}
    (h : e.pyElements name = .error err) : err = .keyError := by
  unfold pyElements at h
  rw [if_pos hdict] at h
  split_ifs at h
  cases h
  rfl

theorem pyAttribute_eq_error (hdict : e.isDict = true) {err : PyError}
    (h : e.pyAttribute name = .error err) : err = .keyError := by
  unfold pyAttribute at h
  rw [if_pos hdict] at h
  cases hattr : e.attributeValue name with
  | none =>
    rw [hattr] at h
    cases h
    rfl
  | some v =>
    rw [hattr] at h
    cases h

theorem isDict_of_pyText {repr : List XMLElement → String} {s : String}
    (h : e.pyText repr name = .ok s) : e.isDict = true := by
  unfold pyText at h
  cases helements : e.pyElements name with
  | error err =>
    rw [helements] at h
    cases h
  | ok l => exact isDict_of_pyElements helements

theorem pyElementsOr_of_isDict (hdict : e.isDict = true) {handler : Except PyError Unit}
    (hhandler : handler = .ok ()) : e.pyElementsOr name handler = .ok (e.childElements name) := by
  unfold pyElementsOr
  by_cases hnil : e.childElements name = []
  · rw [pyElements_of_empty hdict hnil, hhandler, hnil]
    rfl
  · rw [pyElements_eq_ok_iff.mpr ⟨rfl, hnil⟩]

theorem pyElementsOr_eq_ok {handler : Except PyError Unit} {l : List XMLElement}
    (h : e.pyElementsOr name handler = .ok l) : e.isDict = true ∧ l = e.childElements name := by
  unfold pyElementsOr pyElements at h
  by_cases hdict : e.isDict = true
  · refine ⟨hdict, ?_⟩
    rw [if_pos hdict] at h
    by_cases hnil : (e.childElements name).isEmpty = true
    · rw [if_pos hnil] at h
      cases handler with
      | error err => cases h
      | ok u =>
        cases h
        exact (List.isEmpty_iff.mp hnil).symm
    · rw [if_neg hnil] at h
      cases h
      rfl
  · rw [if_neg hdict] at h
    cases h

end XMLElement

/-! ## Dictionaries filled in a loop -/

namespace OrdMap

variable {κ β : Type} [LinearOrder κ]

/-- The pairs of a list entered one after the other. -/
def setAll (m : OrdMap κ β) (l : List (κ × β)) : OrdMap κ β := l.foldl (fun m a => m.set a.1 a.2) m

/-- The last value that a list has for a key. -/
def lastValue (l : List (κ × β)) (k : κ) : Option β :=
  (l.reverse.find? fun a => a.1 = k).map Prod.snd

theorem get?_setAll (m : OrdMap κ β) (l : List (κ × β)) (k : κ) :
    (m.setAll l).get? k = (lastValue l k).or (m.get? k) := by
  unfold setAll lastValue
  induction l generalizing m with
  | nil => rfl
  | cons a l ih =>
    rw [List.foldl_cons, ih, get?_set, List.reverse_cons, List.find?_append]
    cases hfind : l.reverse.find? fun b => b.1 = k with
    | some b => rfl
    | none =>
      by_cases hk : k = a.1
      · simp [hk]
      · have hk' : ¬ a.1 = k := fun h => hk h.symm
        simp [hk, hk']

theorem lastValue_isSome_iff {l : List (κ × β)} {k : κ} :
    (lastValue l k).isSome ↔ k ∈ l.map Prod.fst := by
  unfold lastValue
  rw [Option.isSome_map, List.find?_isSome, List.mem_map]
  simp only [List.mem_reverse, decide_eq_true_eq]

theorem mem_of_lastValue {l : List (κ × β)} {k : κ} {v : β} (h : lastValue l k = some v) :
    (k, v) ∈ l := by
  obtain ⟨a, ha, rfl⟩ := Option.map_eq_some_iff.mp h
  have hkey : a.1 = k := by simpa using List.find?_some ha
  rw [← hkey]
  exact List.mem_reverse.mp (List.mem_of_find?_eq_some ha)

theorem mem_keys_setAll {l : List (κ × β)} {k : κ} :
    k ∈ ((∅ : OrdMap κ β).setAll l).keys ↔ k ∈ l.map Prod.fst := by
  rw [OrdSet.mem_keys, ← lastValue_isSome_iff]
  have hget := get?_setAll ∅ l k
  rw [get?_empty, Option.or_none] at hget
  rw [← hget, get?, Option.isSome_map]

/-- A list that has one value for each key loses nothing. -/
theorem lastValue_eq_some_iff {l : List (κ × β)} (hone : ∀ a ∈ l, ∀ b ∈ l, a.1 = b.1 → a.2 = b.2)
    {k : κ} {v : β} : lastValue l k = some v ↔ (k, v) ∈ l := by
  constructor
  · exact mem_of_lastValue
  · intro h
    have hsome : (lastValue l k).isSome :=
      lastValue_isSome_iff.mpr (List.mem_map.mpr ⟨(k, v), h, rfl⟩)
    obtain ⟨w, hw⟩ := Option.isSome_iff_exists.mp hsome
    have heq : w = v := hone _ (mem_of_lastValue hw) _ h rfl
    rw [hw, heq]

omit [LinearOrder κ] in
theorem one_value_of_nodup {l : List (κ × β)} (hnodup : (l.map Prod.fst).Nodup) :
    ∀ a ∈ l, ∀ b ∈ l, a.1 = b.1 → a.2 = b.2 := by
  intro a ha b hb heq
  rw [List.inj_on_of_nodup_map hnodup ha hb heq]

/-- What is entered for a member of a list. -/
theorem get?_setAll_map {α : Type} {g : α → κ × β} {l : List α}
    (hone : ∀ a ∈ l, ∀ b ∈ l, (g a).1 = (g b).1 → (g a).2 = (g b).2) {k : κ} {v : β} :
    ((∅ : OrdMap κ β).setAll (l.map g)).get? k = some v ↔ ∃ a ∈ l, g a = (k, v) := by
  rw [get?_setAll, get?_empty, Option.or_none, lastValue_eq_some_iff, List.mem_map]
  intro a ha b hb heq
  obtain ⟨x, hx, rfl⟩ := List.mem_map.mp ha
  obtain ⟨y, hy, rfl⟩ := List.mem_map.mp hb
  exact hone x hx y hy heq

theorem setAll_perm {l : List (κ × β)} (hnodup : (l.map Prod.fst).Nodup) :
    ((∅ : OrdMap κ β).setAll l).toList.Perm l := by
  rw [List.perm_ext_iff_of_nodup (OrdSet.nodup_toList _) (.of_map _ hnodup)]
  rintro ⟨k, v⟩
  rw [← get?_eq_some_iff, get?_setAll, get?_empty, Option.or_none]
  exact lastValue_eq_some_iff (one_value_of_nodup hnodup)

theorem nodup_keys (m : OrdMap κ β) : m.keys.Nodup :=
  m.nodup_toList.map_on fun _ ha _ hb heq => OrdSet.eq_of_key_eq ha hb heq

/-- A loop that enters a pair for each element. -/
def fill {ε α : Type} (entry : α → Except ε (κ × β)) (l : List α) (m : OrdMap κ β) :
    Except ε (OrdMap κ β) :=
  l.foldlM (fun m a => do
    let pair ← entry a
    return m.set pair.1 pair.2) m

theorem fill_cons {ε α : Type} (entry : α → Except ε (κ × β)) (a : α) (l : List α)
    (m : OrdMap κ β) :
    fill entry (a :: l) m = entry a >>= fun pair => fill entry l (m.set pair.1 pair.2) := by
  unfold fill
  rw [List.foldlM_cons]
  cases entry a <;> rfl

theorem fill_eq_ok_iff {ε α : Type} {entry : α → Except ε (κ × β)} {l : List α}
    {m m' : OrdMap κ β} :
    fill entry l m = .ok m' ↔
      ∃ pairs, List.Forall₂ (fun a pair => entry a = .ok pair) l pairs ∧ m' = m.setAll pairs := by
  induction l generalizing m with
  | nil =>
    constructor
    · intro h
      cases h
      exact ⟨[], .nil, rfl⟩
    · rintro ⟨pairs, hpairs, rfl⟩
      cases hpairs
      rfl
  | cons a l ih =>
    rw [fill_cons, bind_eq_ok]
    constructor
    · rintro ⟨pair, hentry, hrest⟩
      obtain ⟨pairs, hpairs, rfl⟩ := ih.mp hrest
      exact ⟨pair :: pairs, .cons hentry hpairs, rfl⟩
    · rintro ⟨pairs, hpairs, rfl⟩
      cases hpairs with
      | cons hentry hpairs => exact ⟨_, hentry, ih.mpr ⟨_, hpairs, rfl⟩⟩

/-- The loop over elements that show something, where the pair of each element is known
from what it shows and is read under a condition on this. -/
theorem fill_eq_ok_of_forall₂ {ε α γ : Type} {R : α → γ → Prop} {views : List α} {l : List γ}
    {entry : γ → Except ε (κ × β)} {P : α → Prop} {g : α → κ × β} (h : List.Forall₂ R views l)
    (hentry : ∀ v e, R v e → ∀ pair, entry e = .ok pair ↔ P v ∧ pair = g v) {m m' : OrdMap κ β} :
    fill entry l m = .ok m' ↔ (∀ v ∈ views, P v) ∧ m' = m.setAll (views.map g) := by
  induction h generalizing m with
  | nil =>
    constructor
    · intro h
      cases h
      exact ⟨fun v hv => absurd hv List.not_mem_nil, rfl⟩
    · rintro ⟨-, rfl⟩
      rfl
  | @cons v e views l hR _ ih =>
    rw [fill_cons, bind_eq_ok, List.forall_mem_cons]
    constructor
    · rintro ⟨pair, hok, hrest⟩
      obtain ⟨hv, rfl⟩ := (hentry v e hR pair).mp hok
      obtain ⟨hviews, rfl⟩ := ih.mp hrest
      exact ⟨⟨hv, hviews⟩, rfl⟩
    · rintro ⟨⟨hv, hviews⟩, rfl⟩
      exact ⟨g v, (hentry v e hR _).mpr ⟨hv, rfl⟩, ih.mpr ⟨hviews, rfl⟩⟩

/-- The same for a loop that fills two dictionaries, each under a condition. -/
theorem foldlM_setBoth {κ' β' ε α γ : Type} [LinearOrder κ'] {R : α → γ → Prop} {views : List α}
    {l : List γ} (p q : α → Bool) (g : α → κ × β) (g' : α → κ' × β')
    {body : OrdMap κ β × OrdMap κ' β' → γ → Except ε (OrdMap κ β × OrdMap κ' β')}
    (h : List.Forall₂ R views l)
    (hbody : ∀ v e, R v e → ∀ m m', body (m, m') e = .ok
      (if p v then m.set (g v).1 (g v).2 else m, if q v then m'.set (g' v).1 (g' v).2 else m'))
    (m : OrdMap κ β) (m' : OrdMap κ' β') :
    l.foldlM body (m, m') =
      .ok (m.setAll ((views.filter p).map g), m'.setAll ((views.filter q).map g')) := by
  induction h generalizing m m' with
  | nil => rfl
  | @cons v e views l hR _ ih =>
    rw [List.foldlM_cons, hbody v e hR, ok_bind, ih]
    refine congrArg Except.ok (Prod.ext ?_ ?_)
    · cases hp : p v <;> simp [hp, setAll]
    · cases hq : q v <;> simp [hq, setAll]

end OrdMap

end Library
