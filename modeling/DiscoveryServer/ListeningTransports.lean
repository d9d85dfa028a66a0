import DiscoveryServer.Construction

/-!
# The transport of a listening port

`loadClient` looks for the TCP descriptors of a profile in one loop and replaces the
one it has chosen by a copy in another, which changes the pointer it compares with.
The loops are here as they stand in the source. `listenOnSelected_eq` says that they
come to `listeningTransport`, whatever the list: `pT`, which the search leaves at the
last element whether that is TCP or not, is assigned again in every branch.
-/

namespace DiscoveryServer

open Library

/-! ## The loops -/

def TransportDescriptor.isTcp (d : TransportDescriptor) : Bool := d.isTcpv4 || d.isTcpv6

open TransportDescriptor (isTcp isTcpv4 isTcpv6)

/-- Whether a pointer is one to an object of a class. -/
def pointsTo (descriptors : List TransportDescriptor) (isClass : TransportDescriptor → Bool)
    (sp : TransportPtr) : Bool := descriptors[sp]?.any isClass

/-- `dynamic_cast` of a pointer: the pointer, or null where its object is of another
class. -/
def dynamicCast (descriptors : List TransportDescriptor) (isClass : TransportDescriptor → Bool)
    (sp : TransportPtr) : Option TransportPtr :=
  if pointsTo descriptors isClass sp then some sp else none

/-- The variables of the search. -/
structure TransportSearch where
  pT : Option TransportPtr := none
  p4 : Option TransportPtr := none
  p6 : Option TransportPtr := none

/-- An iteration of the search. -/
def TransportSearch.visit (descriptors : List TransportDescriptor) (v : TransportSearch)
    (sp : TransportPtr) : TransportSearch :=
  let v := { v with pT := dynamicCast descriptors isTcp sp }
  if v.pT = none then v
  else if v.p4 = none ∧ dynamicCast descriptors isTcpv4 sp ≠ none then
    -- the assignment in the condition, and `continue`
    { v with p4 := dynamicCast descriptors isTcpv4 sp }
  else if v.p6 = none then { v with p6 := dynamicCast descriptors isTcpv6 sp }
  else v

/-- What the search and the branches after it leave. -/
structure TransportSelection where
  descriptors : List TransportDescriptor
  userTransports : List TransportPtr
  pT : Option TransportPtr
  p4 : Option TransportPtr

/-- The loop that puts a copy of `*p` where the list has `p`. It points `p` and `pT`
to the copy and goes on. -/
def replaceByCopy (descriptors : List TransportDescriptor) (p pT : Option TransportPtr) :
    List TransportPtr → TransportSelection
  | [] => ⟨descriptors, [], pT, p⟩
  | sp :: rest =>
    if p = some sp then
      let copy := descriptors.length
      let loop := replaceByCopy (descriptors ++ [descriptors[sp]?.getD .other]) (some copy)
        (some copy) rest
      { loop with userTransports := copy :: loop.userTransports }
    else
      let loop := replaceByCopy descriptors p pT rest
      { loop with userTransports := sp :: loop.userTransports }

/-- The choice of the descriptor `pT` that is to listen. -/
def selectTransport (descriptors : List TransportDescriptor) (transports : List TransportPtr)
    (address : String) : TransportSelection :=
  let v := transports.foldl (TransportSearch.visit descriptors) {}
  if (address = "" ∧ v.p4 = none ∧ v.p6 = none) ∨ (address ≠ "" ∧ v.p4 = none) then
    -- create a new tcp4 one
    let p4 := descriptors.length
    ⟨descriptors ++ [.tcpv4 [] .zero], transports ++ [p4], some p4, some p4⟩
  else if v.p4 ≠ none then replaceByCopy descriptors v.p4 v.pT transports
  else
    -- the variable of this loop is `p6`
    { replaceByCopy descriptors v.p6 v.pT transports with p4 := none }

/-- The port and the WAN address are set through `pT` and `p4`. The last component is
`pT`; nothing is left where it is null, for then `pT->listening_ports` is undefined. -/
def listenOnSelected (readWan : String → WanAddress) (s : TransportSelection) (address : String)
    (port : BitVec 16) : Option (List TransportDescriptor × List TransportPtr × TransportPtr) :=
  match s.pT with
  | none => none
  | some pT =>
    let descriptors := s.descriptors.modify pT (·.listenOn port)
    let descriptors :=
      match s.p4 with
      | some p4 => if address ≠ "" then descriptors.modify p4 (·.setWanAddress (readWan address))
        else descriptors
      | none => descriptors
    some (descriptors, s.userTransports, pT)

/-! ## What the loops come to -/

section Loops

variable {readWan : String → WanAddress} {descriptors : List TransportDescriptor}
  {transports : List TransportPtr}

theorem visit_p4 (v : TransportSearch) (sp : TransportPtr) :
    (v.visit descriptors sp).p4 = v.p4.or (dynamicCast descriptors isTcpv4 sp) := by
  unfold TransportSearch.visit dynamicCast pointsTo
  cases hobject : descriptors[sp]? with
  | none => simp
  | some d =>
    cases d <;> cases hp4 : v.p4 <;> cases hp6 : v.p6 <;> simp [isTcp, isTcpv4, isTcpv6]

theorem visit_p6 (v : TransportSearch) (sp : TransportPtr) :
    (v.visit descriptors sp).p6 = v.p6.or (dynamicCast descriptors isTcpv6 sp) := by
  unfold TransportSearch.visit dynamicCast pointsTo
  cases hobject : descriptors[sp]? with
  | none => simp
  | some d =>
    cases d <;> cases hp4 : v.p4 <;> cases hp6 : v.p6 <;> simp [isTcp, isTcpv4, isTcpv6]

theorem or_dynamicCast (p : Option TransportPtr) (isClass : TransportDescriptor → Bool)
    (sp : TransportPtr) (rest : List TransportPtr) :
    (p.or (dynamicCast descriptors isClass sp)).or (rest.find? (pointsTo descriptors isClass)) =
      p.or ((sp :: rest).find? (pointsTo descriptors isClass)) := by
  unfold dynamicCast
  rw [Option.or_assoc, List.find?_cons]
  cases pointsTo descriptors isClass sp <;> rfl

/-- The search finds the first descriptor of either class. -/
theorem search_spec (descriptors : List TransportDescriptor) (transports : List TransportPtr)
    (v : TransportSearch) :
    (transports.foldl (TransportSearch.visit descriptors) v).p4 =
        v.p4.or (transports.find? (pointsTo descriptors isTcpv4)) ∧
      (transports.foldl (TransportSearch.visit descriptors) v).p6 =
        v.p6.or (transports.find? (pointsTo descriptors isTcpv6)) := by
  induction transports generalizing v with
  | nil => simp
  | cons sp rest ih =>
    obtain ⟨h4, h6⟩ := ih (v.visit descriptors sp)
    rw [List.foldl_cons, h4, h6, visit_p4, visit_p6, or_dynamicCast, or_dynamicCast]
    exact ⟨rfl, rfl⟩

/-- A pointer that is not in the list is not replaced. -/
theorem replaceByCopy_of_not_mem {p : TransportPtr} (pT : Option TransportPtr)
    (hp : p ∉ transports) :
    replaceByCopy descriptors (some p) pT transports = ⟨descriptors, transports, pT, some p⟩ := by
  induction transports with
  | nil => rfl
  | cons sp rest ih =>
    have hne : some p ≠ some sp := fun h => hp (by cases h; exact List.mem_cons_self)
    have hrest : p ∉ rest := fun h => hp (List.mem_cons_of_mem _ h)
    simp only [replaceByCopy, if_neg hne, ih hrest]

/-- The loop replaces the first occurrence only: the copy it compares with from then
on is no element of the list. -/
theorem replaceByCopy_eq {p : TransportPtr} (pT : Option TransportPtr)
    (hvalid : ∀ sp ∈ transports, sp < descriptors.length) (hp : p ∈ transports) :
    replaceByCopy descriptors (some p) pT transports =
      ⟨descriptors ++ [descriptors[p]?.getD .other], transports.replace p descriptors.length,
        some descriptors.length, some descriptors.length⟩ := by
  induction transports with
  | nil => cases hp
  | cons sp rest ih =>
    have hvalidRest : ∀ sp ∈ rest, sp < descriptors.length :=
      fun sp hsp => hvalid sp (List.mem_cons_of_mem _ hsp)
    by_cases heq : p = sp
    · subst heq
      have hcopy : descriptors.length ∉ rest := fun h => (hvalidRest _ h).false
      simp only [replaceByCopy, ↓reduceIte, replaceByCopy_of_not_mem _ hcopy,
        List.replace_cons_self]
    · have hrest : p ∈ rest := (List.mem_cons.mp hp).resolve_left heq
      have hne : some p ≠ some sp := fun h => heq (Option.some.inj h)
      have hbeq : (p == sp) = false := beq_false_of_ne heq
      simp only [replaceByCopy, if_neg hne, ih hvalidRest hrest, List.replace_cons, hbeq]

theorem modify_last (f : TransportDescriptor → TransportDescriptor) (d : TransportDescriptor) :
    (descriptors ++ [d]).modify descriptors.length f = descriptors ++ [f d] := by
  simp [List.modify_eq_take_cons_drop]

/-- What the new object is in the end. -/
def TransportDescriptor.listening (readWan : String → WanAddress) (address : String)
    (port : BitVec 16) (d : TransportDescriptor) : TransportDescriptor :=
  if address = "" then d.listenOn port else (d.listenOn port).setWanAddress (readWan address)

/-- The port and the address of a selection whose `pT` is the new object. -/
theorem listenOnSelected_new (d : TransportDescriptor) (address : String) (port : BitVec 16)
    {p4 : Option TransportPtr}
    (hp4 : p4 = some descriptors.length ∨ p4 = none ∧ address = "") :
    listenOnSelected readWan ⟨descriptors ++ [d], transports, some descriptors.length, p4⟩ address
        port =
      some (descriptors ++ [d.listening readWan address port], transports, descriptors.length) := by
  unfold listenOnSelected TransportDescriptor.listening
  cases hp4 with
  | inl hp4 =>
    subst hp4
    by_cases haddress : address = ""
    · simp only [haddress, modify_last, ne_eq, not_true_eq_false, ↓reduceIte]
    · simp only [haddress, modify_last, ne_eq, not_false_eq_true, ↓reduceIte]
  | inr hnone =>
    obtain ⟨rfl, rfl⟩ := hnone
    simp only [modify_last, ↓reduceIte]

/-! ## The three results -/

variable {p : TransportPtr} {address : String} {port : BitVec 16}

theorem listeningTransport_tcpv4
    (h4 : transports.find? (pointsTo descriptors isTcpv4) = some p) :
    listeningTransport readWan descriptors transports address port =
      (descriptors ++ [(descriptors[p]?.getD .other).listening readWan address port],
        transports.replace p descriptors.length) := by
  unfold pointsTo at h4
  simp only [listeningTransport, h4]
  rfl

theorem listeningTransport_tcpv6 (h4 : transports.find? (pointsTo descriptors isTcpv4) = none)
    (h6 : transports.find? (pointsTo descriptors isTcpv6) = some p) (haddress : address = "") :
    listeningTransport readWan descriptors transports address port =
      (descriptors ++ [(descriptors[p]?.getD .other).listening readWan address port],
        transports.replace p descriptors.length) := by
  unfold pointsTo at h4 h6
  simp only [listeningTransport, h4, h6, if_pos haddress]
  simp only [TransportDescriptor.listening, if_pos haddress]

theorem listeningTransport_new (h4 : transports.find? (pointsTo descriptors isTcpv4) = none)
    (h6 : address = "" → transports.find? (pointsTo descriptors isTcpv6) = none) :
    listeningTransport readWan descriptors transports address port =
      (descriptors ++ [(TransportDescriptor.tcpv4 [] .zero).listening readWan address port],
        transports ++ [descriptors.length]) := by
  unfold pointsTo at h4 h6
  simp only [listeningTransport, h4]
  cases hp6 : transports.find? (fun sp => descriptors[sp]?.any isTcpv6) with
  | none => rfl
  | some p6 =>
    have haddress : address ≠ "" := fun h => by rw [h6 h] at hp6; cases hp6
    simp only [if_neg haddress]
    simp only [TransportDescriptor.listening, if_neg haddress]

/-- **The loops come to the summary**: whatever pointers to descriptors the list has,
`pT` is not null and is the new object. -/
theorem listenOnSelected_eq (hvalid : ∀ sp ∈ transports, sp < descriptors.length) :
    listenOnSelected readWan (selectTransport descriptors transports address) address port =
      some ((listeningTransport readWan descriptors transports address port).1,
        (listeningTransport readWan descriptors transports address port).2,
        descriptors.length) := by
  obtain ⟨h4, h6⟩ := search_spec descriptors transports {}
  rw [Option.none_or] at h4 h6
  unfold selectTransport
  dsimp only
  rw [h4, h6]
  cases hv4 : transports.find? (pointsTo descriptors isTcpv4) with
  | some p4 =>
    have hmem := List.mem_of_find?_eq_some hv4
    rw [if_neg (by simp), if_pos (by simp), replaceByCopy_eq _ hvalid hmem,
      listenOnSelected_new _ _ _ (.inl rfl), listeningTransport_tcpv4 hv4]
  | none =>
    by_cases hcopy : address = "" ∧ transports.find? (pointsTo descriptors isTcpv6) ≠ none
    · obtain ⟨haddress, hsome⟩ := hcopy
      obtain ⟨p6, hv6⟩ := Option.ne_none_iff_exists'.mp hsome
      have hmem := List.mem_of_find?_eq_some hv6
      rw [hv6, if_neg (by simp [haddress]), if_neg (by simp), replaceByCopy_eq _ hvalid hmem,
        listenOnSelected_new _ _ _ (.inr ⟨rfl, haddress⟩),
        listeningTransport_tcpv6 hv4 hv6 haddress]
    · have hv6 : address = "" → transports.find? (pointsTo descriptors isTcpv6) = none :=
        fun haddress => by_contra fun h => hcopy ⟨haddress, h⟩
      have hnew : (address = "" ∧ (none : Option TransportPtr) = none ∧
          transports.find? (pointsTo descriptors isTcpv6) = none) ∨
          (address ≠ "" ∧ (none : Option TransportPtr) = none) := by
        by_cases haddress : address = ""
        · exact .inl ⟨haddress, rfl, hv6 haddress⟩
        · exact .inr ⟨haddress, rfl⟩
      rw [if_pos hnew, listenOnSelected_new _ _ _ (.inl rfl), listeningTransport_new hv4 hv6]

end Loops

/-! ## The selected descriptor -/

section Selected

variable {readWan : String → WanAddress} {descriptors : List TransportDescriptor}
  {transports : List TransportPtr}

/-- No element of the list is of a class. -/
def NoneOf (descriptors : List TransportDescriptor) (transports : List TransportPtr)
    (isClass : TransportDescriptor → Bool) : Prop :=
  ∀ sp ∈ transports, pointsTo descriptors isClass sp = false

/-- Position `i` is the first of a class, and its object is `d`. -/
structure FirstOf (descriptors : List TransportDescriptor) (transports : List TransportPtr)
    (isClass : TransportDescriptor → Bool) (i : Nat) (d : TransportDescriptor) : Prop where
  place : transports.findIdx? (pointsTo descriptors isClass) = some i
  object : (transports[i]?.bind fun sp => descriptors[sp]?) = some d
  ofClass : isClass d = true

/-- The list of a client with the new pointer `pT`, and the descriptor that the new
object has been made from. -/
inductive Selected (descriptors : List TransportDescriptor) (transports : List TransportPtr)
    (address : String) (pT : TransportPtr) : TransportDescriptor → List TransportPtr → Prop
  | created (h4 : NoneOf descriptors transports isTcpv4)
      (h6 : address = "" → NoneOf descriptors transports isTcpv6) :
      Selected descriptors transports address pT (.tcpv4 [] .zero) (transports ++ [pT])
  | copiedTcpv4 {i : Nat} {d : TransportDescriptor}
      (h4 : FirstOf descriptors transports isTcpv4 i d) :
      Selected descriptors transports address pT d (transports.set i pT)
  | copiedTcpv6 {i : Nat} {d : TransportDescriptor}
      (h4 : NoneOf descriptors transports isTcpv4) (haddress : address = "")
      (h6 : FirstOf descriptors transports isTcpv6 i d) :
      Selected descriptors transports address pT d (transports.set i pT)

theorem noneOf_of_find? {isClass : TransportDescriptor → Bool}
    (h : transports.find? (pointsTo descriptors isClass) = none) :
    NoneOf descriptors transports isClass := by
  intro sp hsp
  exact Bool.eq_false_of_not_eq_true (List.find?_eq_none.mp h sp hsp)

/-- The first occurrence of the first pointer to a class is the first place of it. -/
theorem firstOf_of_find? {isClass : TransportDescriptor → Bool} {p : TransportPtr}
    (h : transports.find? (pointsTo descriptors isClass) = some p) (pT : TransportPtr) :
    ∃ i, FirstOf descriptors transports isClass i (descriptors[p]?.getD .other) ∧
      i < transports.length ∧ transports.replace p pT = transports.set i pT := by
  induction transports with
  | nil => cases h
  | cons sp rest ih =>
    rw [List.find?_cons] at h
    cases hclass : pointsTo descriptors isClass sp with
    | true =>
      rw [hclass] at h
      cases h
      obtain ⟨d, hd, hof⟩ := (Option.any_eq_true ..).mp hclass
      refine ⟨0, ⟨?_, ?_, ?_⟩, Nat.succ_pos _, List.replace_cons_self⟩
      · simp only [List.findIdx?_cons, hclass, ↓reduceIte]
      · simp only [List.getElem?_cons_zero, Option.bind_some, hd, Option.getD_some]
      · simpa only [hd, Option.getD_some] using hof
    | false =>
      rw [hclass] at h
      obtain ⟨i, hfirst, hi, hreplace⟩ := ih h
      have hne : (p == sp) = false := by
        refine beq_false_of_ne fun heq => ?_
        have hp := List.find?_some h
        rw [heq, hclass] at hp
        cases hp
      refine ⟨i + 1, ⟨?_, ?_, hfirst.ofClass⟩, Nat.succ_lt_succ hi, ?_⟩
      · simp only [List.findIdx?_cons, hclass, hfirst.place, Bool.false_eq_true, ↓reduceIte,
          Option.map_some]
      · simpa only [List.getElem?_cons_succ] using hfirst.object
      · simp only [List.replace_cons, hne, hreplace, List.set_cons_succ]

/-- What the summary does, case by case of `Selected`. -/
theorem listeningTransport_selected (readWan : String → WanAddress)
    (descriptors : List TransportDescriptor) (transports : List TransportPtr) (address : String)
    (port : BitVec 16) :
    ∃ d, Selected descriptors transports address descriptors.length d
        (listeningTransport readWan descriptors transports address port).2 ∧
      descriptors.length ∈ (listeningTransport readWan descriptors transports address port).2 ∧
      (listeningTransport readWan descriptors transports address port).1 =
        descriptors ++ [d.listening readWan address port] ∧
      d.isTcp = true ∧ (address ≠ "" → d.isTcpv4 = true) := by
  cases hv4 : transports.find? (pointsTo descriptors isTcpv4) with
  | some p4 =>
    obtain ⟨i, hfirst, hi, hreplace⟩ := firstOf_of_find? hv4 descriptors.length
    refine ⟨descriptors[p4]?.getD .other, ?_, ?_, ?_, ?_, fun _ => hfirst.ofClass⟩
    · rw [listeningTransport_tcpv4 hv4, hreplace]
      exact .copiedTcpv4 hfirst
    · rw [listeningTransport_tcpv4 hv4, hreplace]
      exact List.mem_set hi _
    · rw [listeningTransport_tcpv4 hv4]
    · rw [isTcp, hfirst.ofClass, Bool.true_or]
  | none =>
    by_cases hcopy : address = "" ∧ transports.find? (pointsTo descriptors isTcpv6) ≠ none
    · obtain ⟨haddress, hsome⟩ := hcopy
      obtain ⟨p6, hv6⟩ := Option.ne_none_iff_exists'.mp hsome
      obtain ⟨i, hfirst, hi, hreplace⟩ := firstOf_of_find? hv6 descriptors.length
      refine ⟨descriptors[p6]?.getD .other, ?_, ?_, ?_, ?_, fun h => absurd haddress h⟩
      · rw [listeningTransport_tcpv6 hv4 hv6 haddress, hreplace]
        exact .copiedTcpv6 (noneOf_of_find? hv4) haddress hfirst
      · rw [listeningTransport_tcpv6 hv4 hv6 haddress, hreplace]
        exact List.mem_set hi _
      · rw [listeningTransport_tcpv6 hv4 hv6 haddress]
      · rw [isTcp, hfirst.ofClass, Bool.or_true]
    · have hv6 : address = "" → transports.find? (pointsTo descriptors isTcpv6) = none :=
        fun haddress => by_contra fun h => hcopy ⟨haddress, h⟩
      refine ⟨.tcpv4 [] .zero, ?_, ?_, ?_, rfl, fun _ => rfl⟩
      · rw [listeningTransport_new hv4 hv6]
        exact .created (noneOf_of_find? hv4) fun h => noneOf_of_find? (hv6 h)
      · rw [listeningTransport_new hv4 hv6]
        exact List.mem_append_right _ (List.mem_singleton.mpr rfl)
      · rw [listeningTransport_new hv4 hv6]

/-- A TCPv4 descriptor receives the address. -/
theorem listening_tcpv4 {d : TransportDescriptor} {address : String} (port : BitVec 16)
    (h4 : d.isTcpv4 = true) (haddress : address ≠ "") :
    ∃ ports, d.listening readWan address port = .tcpv4 ports (readWan address) := by
  unfold TransportDescriptor.listening
  rw [if_neg haddress]
  cases d with
  | tcpv4 ports wan =>
    cases ports with
    | nil => exact ⟨_, rfl⟩
    | cons p rest => exact ⟨_, rfl⟩
  | tcpv6 ports => cases h4
  | udpv4 => cases h4
  | other => cases h4

end Selected

/-! ## `loadClient` -/

namespace Environment

variable {env : Environment} {l : Loading} {client : XMLElement} {qos : DomainParticipantQos}

/-- **TCP descriptor selection**: for an accepted listening port the loops end with a
`pT` that is an element of the new list. The list is the old one with one pointer
appended or with its first TCPv4 (or TCPv6) position set to a copy, and the objects
there were are the ones there are, in front of the new one. -/
theorem listen_selects {lp address : String} {digits : List Char} {n : Nat}
    (hvalid : ∀ sp ∈ qos.userTransports, sp < l.descriptors.length)
    (hlp : client.attributeValue "listening_port" = some lp)
    (hmatch : Ipv4RegularExpression.regexMatch lp = some (address, digits))
    (hport : stol digits = some n) :
    ∃ l' qos' pT d, env.listen l client qos = .ok (l', some qos') ∧
      listenOnSelected env.readWan (selectTransport l.descriptors qos.userTransports address)
        address (.ofNat 16 n) = some (l'.descriptors, qos'.userTransports, pT) ∧
      pT ∈ qos'.userTransports ∧
      Selected l.descriptors qos.userTransports address pT d qos'.userTransports ∧
      l'.descriptors = l.descriptors ++ [d.listening env.readWan address (.ofNat 16 n)] ∧
      pT = l.descriptors.length ∧ d.isTcp = true ∧
      (address ≠ "" →
        ∃ ports, l'.descriptors[pT]? = some (.tcpv4 ports (env.readWan address))) := by
  obtain ⟨d, hselected, hmem, hobjects, htcp, h4⟩ :=
    listeningTransport_selected env.readWan l.descriptors qos.userTransports address (.ofNat 16 n)
  let result :=
    listeningTransport env.readWan l.descriptors qos.userTransports address (.ofNat 16 n)
  refine ⟨{ l with descriptors := result.1 }, { qos with userTransports := result.2 },
    l.descriptors.length, d, ?_, listenOnSelected_eq hvalid, hmem, hselected, hobjects, rfl, htcp,
    fun haddress => ?_⟩
  · unfold listen
    rw [hlp]
    simp only [hmatch, hport]
    rfl
  · obtain ⟨ports, hports⟩ := listening_tcpv4 (.ofNat 16 n) (h4 haddress) haddress
    refine ⟨ports, ?_⟩
    dsimp only
    rw [hobjects, List.getElem?_concat_length, hports]

end Environment

/-- Profiles with transports of three classes. -/
def transportEnvironment : Environment where
  __ := sampleEnvironment
  descriptors := [.udpv4, .tcpv6 [], .tcpv4 [] .zero]

/-- A client behind a router. -/
def transportClient : XMLElement :=
  ⟨"client", [("profile_name", "client"), ("listening_port", "192.168.1.10:5100")], none, []⟩

theorem listen_selects_sample :
    ∃ l' qos' pT d, transportEnvironment.listen
        (transportEnvironment.initial false (.new "DS") (.initial 0 0 0)) transportClient
        { name := "client", userTransports := [0, 1, 2] } = .ok (l', some qos') ∧
      listenOnSelected WanAddress.ofText
          (selectTransport [.udpv4, .tcpv6 [], .tcpv4 [] .zero] [0, 1, 2] "192.168.1.10")
          "192.168.1.10" (.ofNat 16 5100) =
        some (l'.descriptors, qos'.userTransports, pT) ∧
      pT ∈ qos'.userTransports ∧
      Selected [.udpv4, .tcpv6 [], .tcpv4 [] .zero] [0, 1, 2] "192.168.1.10" pT d
        qos'.userTransports ∧
      l'.descriptors =
        [.udpv4, .tcpv6 [], .tcpv4 [] .zero] ++
          [d.listening WanAddress.ofText "192.168.1.10" (.ofNat 16 5100)] ∧
      pT = 3 ∧ d.isTcp = true ∧
      ("192.168.1.10" ≠ "" →
        ∃ ports, l'.descriptors[pT]? = some (.tcpv4 ports ⟨192, 168, 1, 10⟩)) :=
  Environment.listen_selects (by decide)
    (show transportClient.attributeValue "listening_port" = some "192.168.1.10:5100" by decide)
    (show _ = some (_, ['5', '1', '0', '0']) by decide) (by decide)

end DiscoveryServer
