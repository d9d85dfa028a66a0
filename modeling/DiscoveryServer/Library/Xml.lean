import Mathlib.Tactic.SplitIfs

/-!
# XML elements

The part of a DOM that writing and reading records needs: an element has a name,
attributes with string values, at most one text and child elements. It is the
element as a saved file keeps it, so an empty text is no text.

`XMLUtil` converts numbers and truth values to attribute values and back;
`XMLUtil.Lossless` is what a client that reads back its own files relies on.
`attributeValue_setAttribute` and the lemmas around it say what each read finds after
each write, whatever has been written in between.
-/

namespace Library

/-- An element of a document. -/
structure XMLElement where
  name : String
  attributes : List (String × String)
  text : Option String
  children : List XMLElement

/-- A document, by its top-level elements. -/
structure XMLDocument where
  elements : List XMLElement

/-- `FirstChildElement` of a document. -/
def XMLDocument.firstChildElement (doc : XMLDocument) (name : String) : Option XMLElement :=
  doc.elements.find? fun c => c.name = name

/-- The elements a loop over `FirstChildElement` and `NextSiblingElement` of a
document visits. -/
def XMLDocument.childElements (doc : XMLDocument) (name : String) : List XMLElement :=
  doc.elements.filter fun c => c.name = name

/-- What a query for an attribute reports. -/
inductive XMLError where
  | success
  | noAttribute
  | wrongAttributeType
deriving DecidableEq

/-- Conversions between values and attribute strings. -/
structure XMLUtil where
  int64ToStr : Int → String
  toInt64 : String → Option Int
  intToStr : Int → String
  toInt : String → Option Int
  boolToStr : Bool → String
  toBool : String → Option Bool

/-- Every value survives being written to a string. The integers stand for the values of
`int64_t`, from -2⁶³ to 2⁶³ - 1, and of `int`; nothing else is ever written. -/
structure XMLUtil.Lossless (u : XMLUtil) : Prop where
  int64 : ∀ v, u.toInt64 (u.int64ToStr v) = some v
  int : ∀ v, u.toInt (u.intToStr v) = some v
  bool : ∀ v, u.toBool (u.boolToStr v) = some v

/-- `isspace`, of every character. -/
def isBlank (s : String) : Bool :=
  s.toList.all fun c => c ∈ [' ', '\t', '\n', '\x0b', '\x0c', '\r']

namespace XMLElement

/-- `NewElement`. -/
def new (name : String) : XMLElement := ⟨name, [], none, []⟩

/-- `SetAttribute`: the attribute is replaced, or appended when there is none. -/
def setAttribute (e : XMLElement) (name value : String) : XMLElement :=
  { e with
    attributes :=
      if e.attributes.any fun a => a.1 = name then
        e.attributes.map fun a => if a.1 = name then (name, value) else a
      else e.attributes ++ [(name, value)] }

/-- `SetText`; an empty text leaves no trace in a file. -/
def setText (e : XMLElement) (text : String) : XMLElement :=
  { e with text := if text = "" then none else some text }

/-- `InsertEndChild`. -/
def insertEndChild (e child : XMLElement) : XMLElement :=
  { e with children := e.children ++ [child] }

/-- `InsertEndChild` in a loop. -/
def insertEndChildren (e : XMLElement) (l : List XMLElement) : XMLElement :=
  l.foldl insertEndChild e

/-- `Attribute`, `none` being the null pointer. -/
def attributeValue (e : XMLElement) (name : String) : Option String :=
  (e.attributes.find? fun a => a.1 = name).map Prod.snd

/-- `GetText`, `none` being the null pointer. -/
def getText (e : XMLElement) : Option String := e.text

/-- `FirstChildElement`. -/
def firstChildElement (e : XMLElement) (name : String) : Option XMLElement :=
  e.children.find? fun c => c.name = name

/-- The elements a loop over `FirstChildElement` and `NextSiblingElement` visits. -/
def childElements (e : XMLElement) (name : String) : List XMLElement :=
  e.children.filter fun c => c.name = name

/-- A query for an attribute through a conversion: the value is kept when there
is no attribute or it does not convert. -/
def query {α : Type} (e : XMLElement) (convert : String → Option α) (name : String) (value : α) :
    XMLError × α :=
  match e.attributeValue name with
  | none => (.noAttribute, value)
  | some s =>
    match convert s with
    | none => (.wrongAttributeType, value)
    | some v => (.success, v)

/-- `QueryIntAttribute`. -/
def queryIntAttribute (u : XMLUtil) (e : XMLElement) (name : String) (value : Int) :
    XMLError × Int :=
  e.query u.toInt name value

/-- `QueryBoolAttribute`. -/
def queryBoolAttribute (u : XMLUtil) (e : XMLElement) (name : String) (value : Bool) :
    XMLError × Bool :=
  e.query u.toBool name value

/-- `Int64Attribute`, with the default value 0. -/
def int64Attribute (u : XMLUtil) (e : XMLElement) (name : String) : Int :=
  (e.query u.toInt64 name 0).2

/-- `BoolAttribute`. -/
def boolAttribute (u : XMLUtil) (e : XMLElement) (name : String) (defaultValue : Bool) : Bool :=
  (e.query u.toBool name defaultValue).2

mutual

/-- The element as it is parsed from the file it was saved in: white space alone
is no text. -/
def reread : XMLElement → XMLElement
  | ⟨name, attributes, text, children⟩ =>
    ⟨name, attributes, text.filter fun s => !isBlank s, rereadAll children⟩

def rereadAll : List XMLElement → List XMLElement
  | [] => []
  | e :: l => e.reread :: rereadAll l

end

/-! ## What is read after what is written -/

variable (e : XMLElement)

@[simp] theorem attributeValue_new (name m : String) : (new name).attributeValue m = none := rfl

@[simp] theorem attributeValue_setAttribute (n v m : String) :
    (e.setAttribute n v).attributeValue m = if m = n then some v else e.attributeValue m := by
  have hmap : ∀ l : List (String × String),
      (l.map fun a => if a.1 = n then (n, v) else a).find? (fun a => a.1 = m) =
        (l.find? fun a => a.1 = m).map fun a => if a.1 = n then (n, v) else a := by
    intro l
    rw [List.find?_map]
    congr 2
    funext a
    by_cases ha : a.1 = n <;> simp [ha]
  unfold attributeValue setAttribute
  by_cases hany : e.attributes.any fun a => a.1 = n
  · rw [if_pos hany]
    simp only [hmap]
    by_cases hm : m = n
    · obtain ⟨a, ha, han⟩ := List.any_eq_true.mp hany
      have hsome : (e.attributes.find? fun a => a.1 = n).isSome :=
        List.find?_isSome.mpr ⟨a, ha, han⟩
      obtain ⟨b, hb⟩ := Option.isSome_iff_exists.mp hsome
      have hbn : b.1 = n := by simpa using List.find?_some hb
      simp [hm, hb, hbn]
    · cases hfind : e.attributes.find? fun a => a.1 = m with
      | none => simp [hm]
      | some b =>
        have hbm : b.1 = m := by simpa using List.find?_some hfind
        have hbn : b.1 ≠ n := fun h => hm (hbm.symm.trans h)
        simp [hm, hbn]
  · rw [if_neg hany]
    have hnone : (e.attributes.find? fun a => a.1 = n) = none := by
      refine List.find?_eq_none.mpr fun a ha han => hany ?_
      exact List.any_eq_true.mpr ⟨a, ha, han⟩
    simp only [List.find?_append]
    by_cases hm : m = n
    · simp [hm, hnone]
    · have hnm : n ≠ m := fun h => hm h.symm
      simp [hm, hnm]

variable {e} in
theorem mem_attributes_of_attributeValue {n v : String} (h : e.attributeValue n = some v) :
    (n, v) ∈ e.attributes := by
  obtain ⟨a, ha, rfl⟩ := Option.map_eq_some_iff.mp h
  have hname : a.1 = n := by simpa using List.find?_some ha
  rw [← hname]
  exact List.mem_of_find?_eq_some ha

@[simp] theorem attributeValue_setText (s m : String) :
    (e.setText s).attributeValue m = e.attributeValue m := rfl

@[simp] theorem attributeValue_insertEndChild (c : XMLElement) (m : String) :
    (e.insertEndChild c).attributeValue m = e.attributeValue m := rfl

theorem insertEndChildren_eq (l : List XMLElement) :
    e.insertEndChildren l = { e with children := e.children ++ l } := by
  unfold insertEndChildren
  induction l generalizing e with
  | nil => cases e; simp
  | cons c l ih => simp [ih, insertEndChild]

@[simp] theorem attributeValue_insertEndChildren (l : List XMLElement) (m : String) :
    (e.insertEndChildren l).attributeValue m = e.attributeValue m := by
  rw [insertEndChildren_eq]
  rfl

@[simp] theorem name_new (name : String) : (new name).name = name := rfl

@[simp] theorem name_setAttribute (n v : String) : (e.setAttribute n v).name = e.name := rfl

@[simp] theorem name_setText (s : String) : (e.setText s).name = e.name := rfl

@[simp] theorem name_insertEndChild (c : XMLElement) : (e.insertEndChild c).name = e.name := rfl

@[simp] theorem name_insertEndChildren (l : List XMLElement) :
    (e.insertEndChildren l).name = e.name := by
  rw [insertEndChildren_eq]

@[simp] theorem children_new (name : String) : (new name).children = [] := rfl

@[simp] theorem children_setAttribute (n v : String) :
    (e.setAttribute n v).children = e.children := rfl

@[simp] theorem children_setText (s : String) : (e.setText s).children = e.children := rfl

@[simp] theorem children_insertEndChild (c : XMLElement) :
    (e.insertEndChild c).children = e.children ++ [c] := rfl

@[simp] theorem children_insertEndChildren (l : List XMLElement) :
    (e.insertEndChildren l).children = e.children ++ l := by
  rw [insertEndChildren_eq]

theorem getText_setText {s : String} (h : s ≠ "") : (e.setText s).getText = some s := if_neg h

theorem query_eq_of_attributeValue {α : Type} {convert : String → Option α} {name s : String}
    {v : α} (hattr : e.attributeValue name = some s) (hconv : convert s = some v) (value : α) :
    e.query convert name value = (.success, v) := by
  simp only [query, hattr, hconv]

theorem query_eq_of_none {α : Type} {convert : String → Option α} {name : String}
    (hattr : e.attributeValue name = none) (value : α) :
    e.query convert name value = (.noAttribute, value) := by
  simp only [query, hattr]

/-! ## What is read after the file has been parsed -/

theorem rereadAll_eq (l : List XMLElement) : rereadAll l = l.map reread := by
  induction l with
  | nil => rfl
  | cons e l ih => rw [rereadAll, ih, List.map_cons]

@[simp] theorem name_reread : e.reread.name = e.name := by
  cases e
  rfl

@[simp] theorem attributeValue_reread (m : String) :
    e.reread.attributeValue m = e.attributeValue m := by
  cases e
  rfl

@[simp] theorem getText_reread :
    e.reread.getText = e.getText.filter fun s => !isBlank s := by
  cases e
  rfl

@[simp] theorem children_reread : e.reread.children = e.children.map reread := by
  cases e
  exact rereadAll_eq _

theorem childElements_reread (m : String) :
    e.reread.childElements m = (e.childElements m).map reread := by
  unfold childElements
  rw [children_reread, List.filter_map]
  refine congrArg _ (List.filter_congr fun c _ => ?_)
  simp

theorem firstChildElement_reread (m : String) :
    e.reread.firstChildElement m = (e.firstChildElement m).map reread := by
  unfold firstChildElement
  rw [children_reread, List.find?_map]
  refine congrArg _ (congrFun (congrArg _ ?_) _)
  funext c
  simp

@[simp] theorem getText_new (name : String) : (new name).getText = none := rfl

@[simp] theorem getText_setAttribute (n v : String) : (e.setAttribute n v).getText = e.getText :=
  rfl

@[simp] theorem getText_insertEndChild (c : XMLElement) :
    (e.insertEndChild c).getText = e.getText := rfl

@[simp] theorem getText_insertEndChildren (l : List XMLElement) :
    (e.insertEndChildren l).getText = e.getText := by
  rw [insertEndChildren_eq]
  rfl

/-- An element without blank texts is parsed as it was written. -/
theorem reread_eq_self {e : XMLElement} (htext : ∀ s, e.getText = some s → isBlank s = false)
    (hchildren : ∀ c ∈ e.children, c.reread = c) : e.reread = e := by
  obtain ⟨name, attributes, text, children⟩ := e
  have htext' : text.filter (fun s => !isBlank s) = text := by
    cases text with
    | none => rfl
    | some s => simp [Option.filter, htext s rfl]
  have hchildren' : rereadAll children = children := by
    rw [rereadAll_eq]
    exact (List.map_congr_left hchildren).trans (List.map_id' _)
  rw [reread, htext', hchildren']

end XMLElement

/-- The document as it is parsed from the file it was saved in. -/
def XMLDocument.reread (doc : XMLDocument) : XMLDocument := ⟨doc.elements.map XMLElement.reread⟩

theorem XMLDocument.firstChildElement_reread (doc : XMLDocument) (m : String) :
    doc.reread.firstChildElement m = (doc.firstChildElement m).map XMLElement.reread := by
  unfold firstChildElement reread
  rw [List.find?_map]
  refine congrArg _ (congrFun (congrArg _ ?_) _)
  funext c
  simp

end Library
