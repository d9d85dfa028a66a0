import DiscoveryServer.Library.Xml
import Mathlib.Algebra.Group.Int.Defs
import Mathlib.Data.List.Nodup

/-!
# Schemas of XML elements

The part of XML Schema that describes records: simple types, which say which
strings are values, and complex types with attributes and a sequence of child
elements. Types are predicates, so a schema is a value one reads next to the
schema document, and what a valid element has to offer a reader follows from the
declarations: the required attributes (`ComplexType.Valid.required`) and the
type of each child (`Particle.type_of_name`).

An element is seen as it stands in a document of one namespace, declared as the
default one.
-/

namespace Library

/-! ## Simple types -/

/-- XML white space. -/
def isXmlSpace (c : Char) : Bool := c = ' ' || c = '\t' || c = '\n' || c = '\r'

/-- The characters of a value without the white space around it. -/
def collapsed (s : String) : List Char :=
  ((s.toList.dropWhile isXmlSpace).reverse.dropWhile isXmlSpace).reverse

/-- A number in decimal digits. -/
def digitsValue (cs : List Char) : Option Nat :=
  if !cs.isEmpty && cs.all Char.isDigit then some (Nat.ofDigitChars 10 cs 0) else none

/-- `xs:integer`: an optional sign and digits. -/
def integerValue (s : String) : Option Int :=
  match collapsed s with
  | '-' :: cs => (digitsValue cs).map fun n => -(n : Int)
  | '+' :: cs => (digitsValue cs).map Int.ofNat
  | cs => (digitsValue cs).map Int.ofNat

namespace SimpleType

/-- `xs:string`. -/
def string (_ : String) : Bool := true

/-- `xs:integer`. -/
def integer (s : String) : Bool := (integerValue s).isSome

/-- `xs:unsignedLong`. -/
def unsignedLong (s : String) : Bool := (integerValue s).any fun v => 0 ≤ v && v < 2 ^ 64

/-- `xs:boolean`. -/
def boolean (s : String) : Bool :=
  collapsed s ∈ ["true".toList, "false".toList, "1".toList, "0".toList]

end SimpleType

theorem collapsed_of_digits {s : String} (h : ∀ c ∈ s.toList, isXmlSpace c = false) :
    collapsed s = s.toList := by
  have hdrop : ∀ l : List Char, (∀ c ∈ l, isXmlSpace c = false) → l.dropWhile isXmlSpace = l := by
    intro l hl
    cases l with
    | nil => rfl
    | cons c l => exact List.dropWhile_cons_of_neg (by simp [hl c List.mem_cons_self])
  unfold collapsed
  rw [hdrop _ h, hdrop _ fun c hc => h c (List.mem_reverse.mp hc), List.reverse_reverse]

theorem isXmlSpace_of_isDigit {c : Char} (h : c.isDigit = true) : isXmlSpace c = false := by
  have hne : ∀ d : Char, d.isDigit = false → c ≠ d := by
    intro d hd hcd
    rw [hcd, hd] at h
    cases h
  simp [isXmlSpace, hne ' ' rfl, hne '\t' rfl, hne '\n' rfl, hne '\r' rfl]

theorem digitsValue_toDigits (n : Nat) : digitsValue (Nat.toDigits 10 n) = some n := by
  have hall : (Nat.toDigits 10 n).all Char.isDigit = true :=
    List.all_eq_true.mpr fun c hc => Nat.isDigit_of_mem_toDigits (by omega) (by omega) hc
  have hne : (Nat.toDigits 10 n).isEmpty = false := by
    simp [Nat.toDigits_ne_nil]
  unfold digitsValue
  rw [hall, hne, Nat.ofDigitChars_toDigits (by omega) (by omega)]
  rfl

/-- The decimal form of an integer is an `xs:integer` with that value. -/
theorem integerValue_repr (v : Int) : integerValue v.repr = some v := by
  have hdigit : ∀ n, ∀ c ∈ Nat.toDigits 10 n, c.isDigit = true := fun n c hc =>
    Nat.isDigit_of_mem_toDigits (by omega) (by omega) hc
  have hspace : ∀ n, ∀ c ∈ Nat.toDigits 10 n, isXmlSpace c = false := fun n c hc =>
    isXmlSpace_of_isDigit (hdigit n c hc)
  unfold integerValue
  cases v with
  | ofNat n =>
    have hlist : (Int.ofNat n).repr.toList = Nat.toDigits 10 n := Nat.toList_repr
    rw [collapsed_of_digits (by rw [hlist]; exact hspace n), hlist]
    split
    · -- a digit is no sign
      rename_i cs hcs
      exact absurd (hdigit n '-' (hcs ▸ List.mem_cons_self)) (by decide)
    · rename_i cs hcs
      exact absurd (hdigit n '+' (hcs ▸ List.mem_cons_self)) (by decide)
    · rw [digitsValue_toDigits]
      rfl
  | negSucc n =>
    have hlist : (Int.negSucc n).repr.toList = '-' :: Nat.toDigits 10 (n + 1) := by
      show ("-" ++ (n + 1).repr).toList = _
      simp
    rw [collapsed_of_digits, hlist]
    · simp only [digitsValue_toDigits]
      rfl
    · rw [hlist]
      intro c hc
      rcases List.mem_cons.mp hc with rfl | hc
      · decide
      · exact hspace _ c hc

/-! ## Complex types -/

/-- `xs:attribute` with a simple type. -/
structure AttributeUse where
  name : String
  type : String → Bool
  required : Bool

/-- `xs:element` in a sequence; `none` is `unbounded`. -/
structure Particle where
  name : String
  type : XMLElement → Prop
  minOccurs : Nat
  maxOccurs : Option Nat

/-- The elements one particle stands for. -/
structure Particle.Matches (p : Particle) (own : List XMLElement) : Prop where
  min : p.minOccurs ≤ own.length
  max : ∀ m ∈ p.maxOccurs, own.length ≤ m
  elements : ∀ e ∈ own, e.name = p.name ∧ p.type e

/-- `xs:sequence`: the children are those of the first particle, then those of
the second one, and so on. -/
def Sequence : List Particle → List XMLElement → Prop
  | [], children => children = []
  | p :: ps, children => ∃ own rest, children = own ++ rest ∧ p.Matches own ∧ Sequence ps rest

/-- `xs:complexType` with element-only content. -/
structure ComplexType where
  attributes : List AttributeUse
  sequence : List Particle

/-- Namespace declarations and attributes of the schema instance are not
attributes in the sense of a schema. -/
def isNamespaceAttribute (name : String) : Bool :=
  name = "xmlns" || "xmlns:".toList.isPrefixOf name.toList || "xsi:".toList.isPrefixOf name.toList

/-- The element has a text that is not white space. -/
def XMLElement.hasContent (e : XMLElement) : Bool := e.text.any fun s => !(collapsed s).isEmpty

/-- What makes an element valid. -/
structure ComplexType.Valid (t : ComplexType) (e : XMLElement) : Prop where
  declared : ∀ a ∈ e.attributes, isNamespaceAttribute a.1 = false →
    ∃ u ∈ t.attributes, u.name = a.1 ∧ u.type a.2 = true
  required : ∀ u ∈ t.attributes, u.required = true → (e.attributeValue u.name).isSome
  text : e.hasContent = false
  children : Sequence t.sequence e.children

/-- An element with a simple type: a text and nothing else. -/
structure SimpleType.Valid (type : String → Bool) (e : XMLElement) : Prop where
  attributes : ∀ a ∈ e.attributes, isNamespaceAttribute a.1 = true
  text : type (e.text.getD "") = true
  children : e.children = []

/-! ## What validity gives a reader -/

namespace Sequence

theorem mem {ps : List Particle} {children : List XMLElement} (h : Sequence ps children)
    {e : XMLElement} (he : e ∈ children) : ∃ p ∈ ps, e.name = p.name ∧ p.type e := by
  induction ps generalizing children with
  | nil =>
    rw [h] at he
    cases he
  | cons p ps ih =>
    obtain ⟨own, rest, rfl, hown, hrest⟩ := h
    rcases List.mem_append.mp he with he | he
    · exact ⟨p, List.mem_cons_self, hown.elements e he⟩
    · obtain ⟨q, hq, htype⟩ := ih hrest he
      exact ⟨q, List.mem_cons_of_mem p hq, htype⟩

/-- The name of a child decides its type, where the particles have different names. -/
theorem type_of_name {ps : List Particle} {children : List XMLElement} (h : Sequence ps children)
    (hnodup : (ps.map Particle.name).Nodup) {p : Particle} (hp : p ∈ ps) {e : XMLElement}
    (he : e ∈ children) (hname : e.name = p.name) : p.type e := by
  obtain ⟨q, hq, hqname, hqtype⟩ := h.mem he
  have hqp : q = p := List.inj_on_of_nodup_map hnodup hq hp (hqname.symm.trans hname)
  rw [← hqp]
  exact hqtype

/-- An element of a later particle is not followed by one of an earlier particle. -/
theorem not_swapped {p q : Particle} {l : List XMLElement} {e c : XMLElement}
    (h : Sequence [p, q] (e :: l)) (hpq : p.name ≠ q.name) (he : e.name = q.name) (hc : c ∈ l) :
    c.name = q.name := by
  obtain ⟨own, rest, hsplit, hown, own', rest', rfl, hown', rfl⟩ := h
  cases own with
  | nil =>
    refine (hown'.elements c ?_).1
    rw [List.append_nil, List.nil_append] at hsplit
    rw [← hsplit]
    exact List.mem_cons_of_mem e hc
  | cons f own =>
    cases hsplit
    exact absurd ((hown.elements e List.mem_cons_self).1.symm.trans he) hpq

theorem single {p : Particle} {children : List XMLElement} :
    Sequence [p] children ↔ p.Matches children := by
  constructor
  · rintro ⟨own, rest, rfl, hown, rfl⟩
    rwa [List.append_nil]
  · intro h
    exact ⟨children, [], (List.append_nil children).symm, h, rfl⟩

end Sequence

namespace ComplexType.Valid

variable {t : ComplexType} {e : XMLElement}

/-- The value of a declared attribute has the declared type. -/
theorem type_of_attribute (h : t.Valid e) (hnodup : (t.attributes.map AttributeUse.name).Nodup)
    {u : AttributeUse} (hu : u ∈ t.attributes) (hspace : isNamespaceAttribute u.name = false)
    {v : String} (hv : (u.name, v) ∈ e.attributes) : u.type v = true := by
  obtain ⟨w, hw, hname, htype⟩ := h.declared (u.name, v) hv hspace
  have hwu : w = u := List.inj_on_of_nodup_map hnodup hw hu hname
  rw [← hwu]
  exact htype

/-- The child elements a reader visits have the type of their particle. -/
theorem childElements_type (h : t.Valid e) (hnodup : (t.sequence.map Particle.name).Nodup)
    {p : Particle} (hp : p ∈ t.sequence) {c : XMLElement} (hc : c ∈ e.childElements p.name) :
    p.type c := by
  obtain ⟨hmem, hname⟩ := List.mem_filter.mp hc
  exact h.children.type_of_name hnodup hp hmem (of_decide_eq_true hname)

end ComplexType.Valid

end Library
