import DiscoveryServer.RoundTrip
import DiscoveryServer.SnapshotFiles
import DiscoveryServer.Library.Schema

/-!
# Snapshots and their schema

`ds-snapshot.xsd`, type by type, against what the program writes and reads.

What it writes conforms only as long as there is nothing to write: a database
carries a name the schema does not declare (`saveSnapshots_valid_iff`). What it
reads back is defined where every attribute a reader turns into a string is
there (`Readable`); the schema and the writer both see to that, and neither sees
to the text of the description (`loadSnapshots_isSome_iff`).
-/

namespace DiscoveryServer

open Library

/-! ## ds-snapshot.xsd -/

namespace Schema

def stringType : String → Bool := SimpleType.string

def uint64Type : String → Bool := SimpleType.unsignedLong

def boolType : String → Bool := SimpleType.boolean

/-- `([0-9a-fA-F]{1,2}\.){groups - 1}[0-9a-fA-F]{1,2}`. -/
def dottedHex (groups : Nat) (s : String) : Bool :=
  let parts := (collapsed s).splitOn '.'
  parts.length = groups && parts.all fun part =>
    1 ≤ part.length && part.length ≤ 2 && part.all fun c =>
      c.isDigit || ('a' ≤ c && c ≤ 'f') || ('A' ≤ c && c ≤ 'F')

def guidPrefix : String → Bool := dottedHex 12

def guidEntity : String → Bool := dottedHex 4

def pubsub : ComplexType where
  attributes :=
    [⟨"guid_prefix", guidPrefix, true⟩, ⟨"guid_entity", guidEntity, true⟩,
      ⟨"type", stringType, true⟩, ⟨"topic", stringType, true⟩,
      ⟨"alive_count", SimpleType.integer, false⟩, ⟨"not_alive_count", SimpleType.integer, false⟩,
      ⟨"discovered_timestamp", uint64Type, true⟩]
  sequence := []

def ptdiType : ComplexType where
  attributes :=
    [⟨"guid_prefix", guidPrefix, true⟩, ⟨"guid_entity", guidEntity, true⟩,
      ⟨"server", boolType, true⟩, ⟨"alive", boolType, true⟩, ⟨"name", stringType, true⟩,
      ⟨"discovered_timestamp", uint64Type, true⟩]
  sequence := [⟨"publisher", pubsub.Valid, 0, none⟩, ⟨"subscriber", pubsub.Valid, 0, none⟩]

def ptdbType : ComplexType where
  attributes := [⟨"guid_prefix", guidPrefix, true⟩, ⟨"guid_entity", guidEntity, true⟩]
  sequence := [⟨"ptdi", ptdiType.Valid, 0, none⟩]

def dsSnapshotType : ComplexType where
  attributes :=
    [⟨"timestamp", uint64Type, true⟩, ⟨"process_time", uint64Type, true⟩,
      ⟨"last_pdp_callback_time", uint64Type, true⟩, ⟨"last_edp_callback_time", uint64Type, true⟩,
      ⟨"someone", SimpleType.boolean, false⟩]
  sequence :=
    [⟨"description", SimpleType.Valid stringType, 0, some 1⟩, ⟨"ptdb", ptdbType.Valid, 0, none⟩]

def dsSnapshots : ComplexType where
  attributes := []
  sequence := [⟨"DS_Snapshot", dsSnapshotType.Valid, 0, none⟩]

/-- A document of the schema, whose namespace is the default one. -/
structure ValidDocument (doc : XMLDocument) (root : XMLElement) : Prop where
  elements : doc.elements = [root]
  name : root.name = "DS_Snapshots"
  xmlns : root.attributeValue "xmlns" = some "http://www.eprosima.com/XMLSchemas/ds-snapshot"
  valid : dsSnapshots.Valid root

end Schema

open Schema

/-! ## What is written -/

/-- Numbers are written in decimal and truth values as the schema has them. -/
structure TextFormat.Decimal (f : TextFormat) : Prop where
  int64 : ∀ v, integerValue (f.xml.int64ToStr v) = some v
  bool : ∀ b, SimpleType.boolean (f.xml.boolToStr b) = true

/-- The times of a snapshot, in whole milliseconds, are values of `uint64Type`. -/
def Snapshot.Recordable (clock : ProcessClock) (s : Snapshot) : Prop :=
  ∀ d ∈ [clock.getSystemTime s.time, s.time - s.processStartup,
      s.lastPDPCallback - s.processStartup, s.lastEDPCallback - s.processStartup],
    0 ≤ toMilliseconds d ∧ toMilliseconds d < 2 ^ 64

section Written

variable {f : TextFormat} (clock : ProcessClock) (s : Snapshot)

/-- A database is written with a name the schema does not know. -/
theorem not_valid_writeDatabase (d : ParticipantDiscoveryDatabase) :
    ¬ ptdbType.Valid (writeDatabase f s d) := by
  intro h
  have hname : (writeDatabase f s d).attributeValue "name" = some d.participantName := by
    simp [writeDatabase]
  have hspace : isNamespaceAttribute "name" = false := by decide
  obtain ⟨u, hu, hun, -⟩ :=
    h.declared _ (XMLElement.mem_attributes_of_attributeValue hname) hspace
  have hundeclared : "name" ∉ ptdbType.attributes.map AttributeUse.name := by decide
  exact hundeclared (List.mem_map.mpr ⟨u, hu, hun⟩)

/-- Readers are written before writers, which the schema has the other way round. -/
theorem not_valid_writeParticipantItem {owner : Guid} {it : ParticipantDiscoveryItem}
    (hreaders : it.datareaders.toList ≠ []) (hwriters : it.datawriters.toList ≠ []) :
    ¬ ptdiType.Valid (writeParticipantItem f s owner it) := by
  intro h
  obtain ⟨r, readers, hr⟩ := List.exists_cons_of_ne_nil hreaders
  obtain ⟨w, writers, hw⟩ := List.exists_cons_of_ne_nil hwriters
  have hrname : (writeDataReader f s owner r).name = "subscriber" := by
    unfold writeDataReader
    dsimp only
    split_ifs <;> rfl
  have hchildren := h.children
  simp only [writeParticipantItem, XMLElement.children_insertEndChildren, hr, hw, List.map_cons,
    XMLElement.children_setAttribute, setDuration, setGuid, XMLElement.children_new,
    List.nil_append, List.cons_append] at hchildren
  have hname := Sequence.not_swapped (c := writeDataWriter f s w) hchildren (by decide) hrname
    (List.mem_append_right _ List.mem_cons_self)
  have hwname : (writeDataWriter f s w).name = "publisher" := rfl
  rw [hwname] at hname
  exact absurd hname (by decide)

theorem unsignedLong_int64ToStr (hf : f.Decimal) (v : Int) :
    uint64Type (f.xml.int64ToStr v) = true ↔ 0 ≤ v ∧ v < 2 ^ 64 := by
  simp [uint64Type, SimpleType.unsignedLong, hf.int64]

/-- The attributes of a snapshot, in the order they are written. -/
theorem attributes_toXml :
    (s.toXml f clock (.new "DS_Snapshot")).attributes =
      [("timestamp", f.xml.int64ToStr (toMilliseconds (clock.getSystemTime s.time))),
        ("process_time", f.xml.int64ToStr (toMilliseconds (s.time - s.processStartup))),
        ("last_pdp_callback_time",
          f.xml.int64ToStr (toMilliseconds (s.lastPDPCallback - s.processStartup))),
        ("last_edp_callback_time",
          f.xml.int64ToStr (toMilliseconds (s.lastEDPCallback - s.processStartup))),
        ("someone", f.xml.boolToStr s.ifSomeone)] := by
  unfold Snapshot.toXml
  rw [XMLElement.insertEndChildren_eq]
  simp [XMLElement.insertEndChild, setDuration, XMLElement.setAttribute, XMLElement.new]

theorem valid_description (des : String) :
    SimpleType.Valid stringType ((XMLElement.new "description").setText des) where
  attributes a ha := by cases ha
  text := rfl
  children := rfl

/-- The times of a snapshot, each with the name of its attribute. -/
def Snapshot.times : List (String × Int) :=
  [("timestamp", clock.getSystemTime s.time), ("process_time", s.time - s.processStartup),
    ("last_pdp_callback_time", s.lastPDPCallback - s.processStartup),
    ("last_edp_callback_time", s.lastEDPCallback - s.processStartup)]

theorem recordable_iff : s.Recordable clock ↔
    ∀ time ∈ s.times clock, 0 ≤ toMilliseconds time.2 ∧ toMilliseconds time.2 < 2 ^ 64 := by
  show (∀ d ∈ (s.times clock).map Prod.snd, 0 ≤ toMilliseconds d ∧ toMilliseconds d < 2 ^ 64) ↔ _
  exact List.forall_mem_map

/-- A time, and the truth value, are all there is. -/
theorem mem_attributes_toXml {a : String × String} :
    a ∈ (s.toXml f clock (.new "DS_Snapshot")).attributes ↔
      (∃ time ∈ s.times clock, a = (time.1, f.xml.int64ToStr (toMilliseconds time.2))) ∨
        a = ("someone", f.xml.boolToStr s.ifSomeone) := by
  rw [attributes_toXml]
  simp [Snapshot.times, or_assoc]

variable {clock s}

/-- The schema declares the times. -/
theorem declared_of_mem_times {time : String × Int} (h : time ∈ s.times clock) :
    (⟨time.1, uint64Type, true⟩ : AttributeUse) ∈ dsSnapshotType.attributes ∧
      isNamespaceAttribute time.1 = false := by
  simp only [Snapshot.times, List.mem_cons, List.not_mem_nil, or_false] at h
  rcases h with rfl | rfl | rfl | rfl <;> dsimp only <;>
    exact ⟨by simp [dsSnapshotType], by decide⟩

/-- A snapshot that conforms holds no database. -/
theorem databases_of_valid_toXml (h : dsSnapshotType.Valid (s.toXml f clock (.new "DS_Snapshot"))) :
    s.databases.toList = [] := by
  refine List.eq_nil_iff_forall_not_mem.mpr fun d hd => ?_
  refine not_valid_writeDatabase s d (f := f) ?_
  refine h.children.type_of_name (p := ⟨"ptdb", ptdbType.Valid, 0, none⟩) (by decide)
    (List.mem_cons_of_mem _ List.mem_cons_self) ?_ ?_
  · rw [children_toXml]
    exact List.mem_cons_of_mem _ (List.mem_map_of_mem hd)
  · simp [writeDatabase, setGuid]

/-- The times of a snapshot that conforms are written as values of their type. -/
theorem recordable_of_valid_toXml (hf : f.Decimal)
    (h : dsSnapshotType.Valid (s.toXml f clock (.new "DS_Snapshot"))) : s.Recordable clock := by
  rw [recordable_iff]
  intro time htime
  obtain ⟨hu, hspace⟩ := declared_of_mem_times htime
  refine (unsignedLong_int64ToStr hf _).mp (h.type_of_attribute (by decide) hu hspace ?_)
  exact (mem_attributes_toXml clock s).mpr (.inl ⟨time, htime, rfl⟩)

/-- A snapshot without databases conforms. -/
theorem valid_toXml (hf : f.Decimal) (hdatabases : s.databases.toList = [])
    (htimes : s.Recordable clock) :
    dsSnapshotType.Valid (s.toXml f clock (.new "DS_Snapshot")) where
  declared a ha _ := by
    rcases (mem_attributes_toXml clock s).mp ha with ⟨time, htime, rfl⟩ | rfl
    · refine ⟨_, (declared_of_mem_times htime).1, rfl, ?_⟩
      exact (unsignedLong_int64ToStr hf _).mpr ((recordable_iff clock s).mp htimes time htime)
    · exact ⟨⟨"someone", SimpleType.boolean, false⟩, by simp [dsSnapshotType], rfl, hf.bool _⟩
  required u hu _ := by
    simp only [dsSnapshotType, List.mem_cons, List.not_mem_nil, or_false] at hu
    rcases hu with rfl | rfl | rfl | rfl | rfl <;>
      simp [XMLElement.attributeValue, attributes_toXml]
  text := by
    have htext : (s.toXml f clock (.new "DS_Snapshot")).text = none := by
      unfold Snapshot.toXml
      rw [XMLElement.insertEndChildren_eq]
      rfl
    simp [XMLElement.hasContent, htext]
  children := by
    rw [children_toXml, hdatabases]
    refine ⟨[_], [], rfl, ⟨Nat.zero_le 1, ?_, ?_⟩, [], [], rfl, ⟨le_rfl, ?_, ?_⟩, rfl⟩
    · intro m hm
      cases hm
      exact le_rfl
    · intro e he
      rw [List.mem_singleton.mp he]
      exact ⟨rfl, valid_description s.des⟩
    · intro m hm
      cases hm
    · intro e he
      cases he

variable (clock s)

/-- A snapshot conforms when there is no database in it. -/
theorem valid_toXml_iff (hf : f.Decimal) :
    dsSnapshotType.Valid (s.toXml f clock (.new "DS_Snapshot")) ↔
      s.databases.toList = [] ∧ s.Recordable clock :=
  ⟨fun h => ⟨databases_of_valid_toXml h, recordable_of_valid_toXml hf h⟩,
    fun h => valid_toXml hf h.1 h.2⟩

end Written

/-- **When a written document conforms to the schema.** Exactly as long as no
snapshot holds a database, and the four times of each are recordable. -/
theorem saveSnapshots_valid_iff {host : Host} (hf : host.format.Decimal)
    (m : DiscoveryServerManager) :
    (∃ root, ValidDocument (m.saveSnapshots host) root) ↔
      ∀ s ∈ m.snapshots, s.databases = ∅ ∧ s.Recordable host.clock := by
  have hempty : ∀ s : Snapshot, s.databases = ∅ ↔ s.databases.toList = [] := fun s =>
    ⟨fun h => by rw [h]; rfl, fun h => OrdSet.ext_toList h⟩
  have hname : ∀ s : Snapshot,
      (s.toXml host.format host.clock (.new "DS_Snapshot")).name = "DS_Snapshot" := fun s => by
    simp [Snapshot.toXml, setDuration]
  constructor
  · rintro ⟨root, hdoc⟩ s hs
    have hchildren := hdoc.valid.children
    rw [← List.singleton_inj.mp hdoc.elements, XMLElement.children_insertEndChildren] at hchildren
    rw [hempty]
    refine (valid_toXml_iff host.clock s hf).mp ?_
    exact hchildren.type_of_name (p := ⟨"DS_Snapshot", dsSnapshotType.Valid, 0, none⟩) (by decide)
      List.mem_cons_self (List.mem_append_right _ (List.mem_map_of_mem hs)) (hname s)
  · intro h
    refine ⟨_, rfl, ?_, ?_, ⟨fun a ha hspace => ?_, fun u hu => ?_, ?_, ?_⟩⟩
    · rw [XMLElement.name_insertEndChildren]
      rfl
    · rw [XMLElement.attributeValue_insertEndChildren]
      rfl
    · rw [XMLElement.insertEndChildren_eq] at ha
      rw [List.mem_singleton.mp ha] at hspace
      exact absurd hspace (by decide)
    · cases hu
    · rw [XMLElement.insertEndChildren_eq]
      rfl
    · rw [XMLElement.children_insertEndChildren]
      refine Sequence.single.mpr ⟨Nat.zero_le _, fun m hm => (by cases hm), fun e he => ?_⟩
      obtain ⟨s, hs, rfl⟩ := List.mem_map.mp he
      refine ⟨hname s, (valid_toXml_iff host.clock s hf).mpr ?_⟩
      rw [← hempty]
      exact h s hs

theorem sampleFormat_decimal : sampleFormat.Decimal where
  int64 v := integerValue_repr v
  bool b := by cases b <;> decide

/-- A manager that has taken one snapshot. -/
def snapshotManager (s : Snapshot) : DiscoveryServerManager :=
  { DiscoveryServerManager.initial 0 0 0 with snapshots := [s] }

/-- The program with some file to read. -/
def fileHost (doc : XMLDocument) : Host where
  format := sampleFormat
  clock := ⟨0, 0⟩
  loadFile _ := some doc

theorem saveSnapshots_valid_iff_sample :
    (∃ root, ValidDocument
        ((snapshotManager (sampleSnapshot "one")).saveSnapshots (fileHost ⟨[]⟩)) root) ↔
      ∀ s ∈ [sampleSnapshot "one"], s.databases = ∅ ∧ s.Recordable ⟨0, 0⟩ :=
  @saveSnapshots_valid_iff (fileHost ⟨[]⟩) sampleFormat_decimal
    (snapshotManager (sampleSnapshot "one"))

/-- One database makes a document that does not conform. -/
theorem saveSnapshots_not_valid : ¬ ∀ (host : Host) (m : DiscoveryServerManager),
    host.format.Decimal → ∃ root, ValidDocument (m.saveSnapshots host) root := by
  intro h
  obtain ⟨root, hdoc⟩ := h (fileHost ⟨[]⟩) (snapshotManager (sampleSnapshot "one"))
    sampleFormat_decimal
  have hchildren := hdoc.valid.children
  rw [← List.singleton_inj.mp hdoc.elements, XMLElement.children_insertEndChildren] at hchildren
  have hvalid : dsSnapshotType.Valid
      ((sampleSnapshot "one").toXml sampleFormat ⟨0, 0⟩ (.new "DS_Snapshot")) :=
    hchildren.type_of_name (p := ⟨"DS_Snapshot", dsSnapshotType.Valid, 0, none⟩) (by decide)
      List.mem_cons_self (List.mem_append_right _ (List.mem_map_of_mem List.mem_cons_self))
      (by simp [Snapshot.toXml, setDuration])
  have hempty := ((valid_toXml_iff ⟨0, 0⟩ _ sampleFormat_decimal).mp hvalid).1
  exact absurd hempty (by decide)

/-! ## What is read -/

/-- The reader finds these attributes. -/
def HasAttributes (names : List String) (e : XMLElement) : Prop :=
  ∀ n ∈ names, (e.attributeValue n).isSome

/-- An endpoint that can be read. -/
def ReadableEndPoint : XMLElement → Prop :=
  HasAttributes ["guid_prefix", "guid_entity", "type", "topic"]

structure ReadableItem (e : XMLElement) : Prop where
  attributes : HasAttributes ["guid_prefix", "guid_entity", "name"] e
  subscribers : ∀ c ∈ e.childElements "subscriber", ReadableEndPoint c
  publishers : ∀ c ∈ e.childElements "publisher", ReadableEndPoint c

structure ReadableDatabase (e : XMLElement) : Prop where
  attributes : HasAttributes ["guid_prefix", "guid_entity"] e
  items : ∀ c ∈ e.childElements "ptdi", ReadableItem c

/-- A snapshot whose databases can be read. -/
def Readable (e : XMLElement) : Prop := ∀ c ∈ e.childElements "ptdb", ReadableDatabase c

/-- The description that is read, where there is one, has a text. -/
def Described (e : XMLElement) : Prop :=
  ∀ d ∈ e.firstChildElement "description", d.getText.isSome

theorem insertEach_isSome {κ α : Type} [LinearOrder κ] [Keyed κ α]
    {read : XMLElement → Option (α × Bool)} {l : List XMLElement} {a : OrdSet κ α × Bool} :
    (insertEach read l a).isSome ↔ ∀ e ∈ l, (read e).isSome := by
  induction l generalizing a with
  | nil => simp [insertEach]
  | cons e l ih =>
    obtain ⟨set, seen⟩ := a
    rw [List.forall_mem_cons]
    cases he : read e with
    | none => simp [insertEach, he]
    | some it => simp [insertEach, he, ih]

section Read

variable (f : TextFormat) (startup : TimePoint) (e : XMLElement)

theorem readGuid_isSome :
    (readGuid f e).isSome ↔ HasAttributes ["guid_prefix", "guid_entity"] e := by
  have hnames : HasAttributes ["guid_prefix", "guid_entity"] e ↔
      (e.attributeValue "guid_prefix").isSome ∧ (e.attributeValue "guid_entity").isSome := by
    simp [HasAttributes]
  rw [hnames]
  unfold readGuid
  cases e.attributeValue "guid_prefix" with
  | none => simp
  | some guidPrefix =>
    cases e.attributeValue "guid_entity" with
    | none => simp
    | some entityId => simp

theorem readableEndPoint_iff :
    ReadableEndPoint e ↔ (readGuid f e).isSome ∧ (e.attributeValue "type").isSome ∧
      (e.attributeValue "topic").isSome := by
  rw [readGuid_isSome]
  simp [ReadableEndPoint, HasAttributes, and_assoc]

theorem readDataReader_isSome : (readDataReader f startup e).isSome ↔ ReadableEndPoint e := by
  rw [readableEndPoint_iff f]
  unfold readDataReader
  cases readGuid f e with
  | none => simp
  | some guid =>
    cases e.attributeValue "type" with
    | none => simp
    | some type =>
      cases e.attributeValue "topic" with
      | none => simp
      | some topic =>
        simp only [Option.bind_eq_bind, Option.bind_some, Option.isSome_some, and_true, iff_true]
        split_ifs <;> rfl

theorem readDataWriter_isSome : (readDataWriter f startup e).isSome ↔ ReadableEndPoint e := by
  rw [readableEndPoint_iff f]
  unfold readDataWriter
  cases readGuid f e with
  | none => simp
  | some guid =>
    cases e.attributeValue "type" with
    | none => simp
    | some type =>
      cases e.attributeValue "topic" with
      | none => simp
      | some topic => simp

theorem readParticipantItem_isSome :
    (readParticipantItem f startup e).isSome ↔ ReadableItem e := by
  have hitem : ReadableItem e ↔ (readGuid f e).isSome ∧ (e.attributeValue "name").isSome ∧
      (∀ c ∈ e.childElements "subscriber", (readDataReader f startup c).isSome) ∧
      ∀ c ∈ e.childElements "publisher", (readDataWriter f startup c).isSome := by
    simp only [readDataReader_isSome, readDataWriter_isSome, readGuid_isSome]
    constructor
    · rintro ⟨hattributes, hsubscribers, hpublishers⟩
      simp only [HasAttributes, List.forall_mem_cons] at hattributes ⊢
      tauto
    · rintro ⟨hguid, hname, hsubscribers, hpublishers⟩
      refine ⟨?_, hsubscribers, hpublishers⟩
      simp only [HasAttributes, List.forall_mem_cons] at hguid ⊢
      tauto
  rw [hitem, ← insertEach_isSome (a := (∅, false))]
  unfold readParticipantItem
  cases readGuid f e with
  | none => simp
  | some guid =>
    cases e.attributeValue "name" with
    | none => simp
    | some name =>
      simp only [Option.bind_eq_bind, Option.bind_some]
      cases insertEach (readDataReader f startup) (e.childElements "subscriber") (∅, false) with
      | none => simp
      | some subs =>
        rw [← insertEach_isSome (a := (∅, subs.2)), Option.bind_some]
        generalize insertEach (readDataWriter f startup) (e.childElements "publisher") _ = pubs
        cases pubs with
        | none => simp
        | some pubs => simp

theorem readDatabase_isSome : (readDatabase f startup e).isSome ↔ ReadableDatabase e := by
  have hdatabase : ReadableDatabase e ↔ (readGuid f e).isSome ∧
      ∀ c ∈ e.childElements "ptdi", (readParticipantItem f startup c).isSome := by
    simp only [readParticipantItem_isSome, readGuid_isSome]
    exact ⟨fun h => ⟨h.attributes, h.items⟩, fun h => ⟨h.1, h.2⟩⟩
  rw [hdatabase, ← insertEach_isSome (a := (∅, false))]
  unfold readDatabase
  cases readGuid f e with
  | none => simp
  | some guid =>
    simp only [Option.bind_eq_bind, Option.bind_some]
    generalize insertEach (readParticipantItem f startup) (e.childElements "ptdi") _ = items
    cases items with
    | none => simp
    | some items => simp

/-- Reading a snapshot is defined where nothing that becomes a string is missing. -/
theorem fromXml_isSome (clock : ProcessClock) (sh : Snapshot) :
    (sh.fromXml f clock (some e)).isSome ↔ Described e ∧ Readable e := by
  have hreadable : ∀ startup acc,
      (insertEach (readDatabase f startup) (e.childElements "ptdb") acc).isSome ↔ Readable e := by
    intro startup acc
    rw [insertEach_isSome]
    exact forall₂_congr fun c _ => readDatabase_isSome f startup c
  unfold Snapshot.fromXml Described
  dsimp only
  rw [← hreadable _ (sh.databases, sh.showLiveliness)]
  cases e.firstChildElement "description" with
  | none =>
    simp only [Option.bind_eq_bind, Option.bind_some]
    generalize insertEach (readDatabase f _) (e.childElements "ptdb") _ = databases
    cases databases with
    | none => simp
    | some databases => simp
  | some d =>
    dsimp only
    cases hd : d.getText with
    | none => simp [hd]
    | some des =>
      simp only [Option.bind_eq_bind, Option.bind_some]
      generalize insertEach (readDatabase f _) (e.childElements "ptdb") _ = databases
      cases databases with
      | none => simp
      | some databases => simp [hd]

end Read

/-! ### A whole file -/

/-- The elements of a file that are read: one too many is read before the file is
given up. -/
def DiscoveryServerManager.visited {α : Type} (m : DiscoveryServerManager) (elements : List α) :
    List α :=
  if m.snapshots.isEmpty then elements else elements.take (m.snapshots.length + 1)

theorem loadAll_isSome (host : Host) (l : List XMLElement) :
    (Snapshot.loadAll host l).isSome ↔ ∀ e ∈ l, Described e ∧ Readable e := by
  induction l with
  | nil => simp [Snapshot.loadAll]
  | cons e l ih =>
    rw [Snapshot.loadAll, Snapshot.load, List.forall_mem_cons, ← ih,
      ← fromXml_isSome host.format e host.clock (.default host.clock)]
    cases Snapshot.fromXml host.format host.clock (.default host.clock) (some e) with
    | none => simp
    | some sh => simp

theorem mergeAll_isSome (host : Host) (shots : List Snapshot) (l : List XMLElement) :
    (Snapshot.mergeAll host shots l).isSome ↔
      ∀ e ∈ l.take (shots.length + 1), Described e ∧ Readable e := by
  induction l generalizing shots with
  | nil => simp [Snapshot.mergeAll]
  | cons e l ih =>
    rw [List.take_succ_cons, List.forall_mem_cons,
      ← fromXml_isSome host.format e host.clock (.default host.clock)]
    unfold Snapshot.mergeAll Snapshot.load
    cases Snapshot.fromXml host.format host.clock (.default host.clock) (some e) with
    | none => simp
    | some sh =>
      cases shots with
      | nil => simp
      | cons s shots =>
        have hrest := ih shots
        simp only [Option.isSome_map, Option.isSome_some, true_and, List.length_cons]
        exact hrest

theorem loadSnapshots_isSome {host : Host} {file : String} {doc : XMLDocument} {root : XMLElement}
    (m : DiscoveryServerManager) (hfile : host.loadFile file = some doc)
    (hroot : doc.firstChildElement "DS_Snapshots" = some root) :
    (m.loadSnapshots host file).isSome ↔
      ∀ e ∈ m.visited (root.childElements "DS_Snapshot"), Described e ∧ Readable e := by
  unfold DiscoveryServerManager.loadSnapshots DiscoveryServerManager.visited
  simp only [hfile, hroot, Option.isSome_map]
  split_ifs with hempty
  · exact loadAll_isSome host _
  · exact mergeAll_isSome host _ _

theorem DiscoveryServerManager.mem_of_mem_visited {α : Type} {m : DiscoveryServerManager}
    {elements : List α} {e : α} (h : e ∈ m.visited elements) : e ∈ elements := by
  unfold visited at h
  split_ifs at h with hempty
  · exact h
  · exact List.mem_of_mem_take h

theorem DiscoveryServerManager.visited_map {α β : Type} (m : DiscoveryServerManager) (g : α → β)
    (l : List α) : m.visited (l.map g) = (m.visited l).map g := by
  unfold visited
  split_ifs with hempty
  · rfl
  · rw [List.map_take]

/-! ### Valid documents -/

theorem readableEndPoint_of_valid {e : XMLElement} (h : pubsub.Valid e) : ReadableEndPoint e := by
  intro n hn
  simp only [List.mem_cons, List.not_mem_nil, or_false] at hn
  rcases hn with rfl | rfl | rfl | rfl
  · exact h.required ⟨"guid_prefix", guidPrefix, true⟩ (by simp [pubsub]) rfl
  · exact h.required ⟨"guid_entity", guidEntity, true⟩ (by simp [pubsub]) rfl
  · exact h.required ⟨"type", stringType, true⟩ (by simp [pubsub]) rfl
  · exact h.required ⟨"topic", stringType, true⟩ (by simp [pubsub]) rfl

theorem readableItem_of_valid {e : XMLElement} (h : ptdiType.Valid e) : ReadableItem e where
  attributes n hn := by
    simp only [List.mem_cons, List.not_mem_nil, or_false] at hn
    rcases hn with rfl | rfl | rfl
    · exact h.required ⟨"guid_prefix", guidPrefix, true⟩ (by simp [ptdiType]) rfl
    · exact h.required ⟨"guid_entity", guidEntity, true⟩ (by simp [ptdiType]) rfl
    · exact h.required ⟨"name", stringType, true⟩ (by simp [ptdiType]) rfl
  subscribers c hc :=
    readableEndPoint_of_valid (h.childElements_type (p := ⟨"subscriber", pubsub.Valid, 0, none⟩)
      (by decide) (List.mem_cons_of_mem _ List.mem_cons_self) hc)
  publishers c hc :=
    readableEndPoint_of_valid (h.childElements_type (p := ⟨"publisher", pubsub.Valid, 0, none⟩)
      (by decide) List.mem_cons_self hc)

theorem readableDatabase_of_valid {e : XMLElement} (h : ptdbType.Valid e) :
    ReadableDatabase e where
  attributes n hn := by
    simp only [List.mem_cons, List.not_mem_nil, or_false] at hn
    rcases hn with rfl | rfl
    · exact h.required ⟨"guid_prefix", guidPrefix, true⟩ (by simp [ptdbType]) rfl
    · exact h.required ⟨"guid_entity", guidEntity, true⟩ (by simp [ptdbType]) rfl
  items c hc :=
    readableItem_of_valid (h.childElements_type (p := ⟨"ptdi", ptdiType.Valid, 0, none⟩)
      (by decide) List.mem_cons_self hc)

/-- The schema asks for everything a reader turns into a string, but for the
text of the description. -/
theorem readable_of_valid {e : XMLElement} (h : dsSnapshotType.Valid e) : Readable e :=
  fun _ hc => readableDatabase_of_valid
    (h.childElements_type (p := ⟨"ptdb", ptdbType.Valid, 0, none⟩) (by decide)
      (List.mem_cons_of_mem _ List.mem_cons_self) hc)

/-! ### Written documents -/

theorem hasAttributes_reread {names : List String} {e : XMLElement} (h : HasAttributes names e) :
    HasAttributes names e.reread := by
  intro n hn
  rw [XMLElement.attributeValue_reread]
  exact h n hn

/-- What can be read as it was written can be read from the file. -/
theorem readable_reread {e : XMLElement} (h : Readable e) : Readable e.reread := by
  have hchild : ∀ {P : XMLElement → Prop} {n : String} {e : XMLElement},
      (∀ c ∈ e.childElements n, P c.reread) → ∀ c ∈ e.reread.childElements n, P c := by
    intro P n e hall c hc
    rw [XMLElement.childElements_reread] at hc
    obtain ⟨c₀, hc₀, rfl⟩ := List.mem_map.mp hc
    exact hall c₀ hc₀
  refine hchild fun d hd => ⟨hasAttributes_reread (h d hd).attributes, ?_⟩
  refine hchild fun i hi => ?_
  have hitem := (h d hd).items i hi
  exact
    { attributes := hasAttributes_reread hitem.attributes
      subscribers := hchild fun c hc => hasAttributes_reread (hitem.subscribers c hc)
      publishers := hchild fun c hc => hasAttributes_reread (hitem.publishers c hc) }

section Saved

variable (f : TextFormat) (clock : ProcessClock) (s : Snapshot)

theorem mem_childElements {e c : XMLElement} {n : String} (h : c ∈ e.childElements n) :
    c ∈ e.children := (List.mem_filter.mp h).1

theorem readableEndPoint_writeDataReader (owner : Guid) (sub : DataReaderDiscoveryItem) :
    ReadableEndPoint (writeDataReader f s owner sub) := by
  unfold writeDataReader
  dsimp only
  split_ifs <;> simp [ReadableEndPoint, HasAttributes, setDuration, setGuid]

theorem readableEndPoint_writeDataWriter (pub : DataWriterDiscoveryItem) :
    ReadableEndPoint (writeDataWriter f s pub) := by
  simp [ReadableEndPoint, HasAttributes, writeDataWriter, setDuration, setGuid]

theorem readableItem_writeParticipantItem (owner : Guid) (it : ParticipantDiscoveryItem) :
    ReadableItem (writeParticipantItem f s owner it) := by
  have hall : ∀ c ∈ (writeParticipantItem f s owner it).children, ReadableEndPoint c := by
    intro c hc
    simp only [writeParticipantItem, XMLElement.children_insertEndChildren,
      XMLElement.children_setAttribute, setDuration, setGuid, XMLElement.children_new,
      List.nil_append, List.mem_append, List.mem_map] at hc
    rcases hc with ⟨sub, _, rfl⟩ | ⟨pub, _, rfl⟩
    · exact readableEndPoint_writeDataReader f s owner sub
    · exact readableEndPoint_writeDataWriter f s pub
  refine ⟨?_, fun c hc => hall c (mem_childElements hc), fun c hc => hall c (mem_childElements hc)⟩
  simp [HasAttributes, writeParticipantItem, setDuration, setGuid]

theorem readable_toXml : Readable (s.toXml f clock (.new "DS_Snapshot")) := by
  have hdatabase : ∀ d, ReadableDatabase (writeDatabase f s d) := by
    intro d
    refine ⟨by simp [HasAttributes, writeDatabase, setGuid], fun c hc => ?_⟩
    have hmem := mem_childElements hc
    simp only [writeDatabase, XMLElement.children_insertEndChildren,
      XMLElement.children_setAttribute, setGuid, XMLElement.children_new, List.nil_append,
      List.mem_map] at hmem
    obtain ⟨it, _, rfl⟩ := hmem
    exact readableItem_writeParticipantItem f s d.endpointGuid it
  intro c hc
  obtain ⟨hmem, hname⟩ := List.mem_filter.mp hc
  rw [children_toXml, List.mem_cons] at hmem
  rcases hmem with rfl | hmem
  · rw [XMLElement.name_setText] at hname
    exact absurd hname (by decide)
  · obtain ⟨d, _, rfl⟩ := List.mem_map.mp hmem
    exact hdatabase d

/-- The description survives the file unless it is white space. -/
theorem described_reread_toXml :
    Described (s.toXml f clock (.new "DS_Snapshot")).reread ↔ isBlank s.des = false := by
  have hfirst : (s.toXml f clock (.new "DS_Snapshot")).firstChildElement "description" =
      some ((XMLElement.new "description").setText s.des) := by
    unfold XMLElement.firstChildElement
    rw [children_toXml]
    exact List.find?_cons_of_pos rfl
  unfold Described
  rw [XMLElement.firstChildElement_reread, hfirst]
  simp only [Option.map_some, Option.mem_def, Option.some.injEq, forall_eq',
    XMLElement.getText_reread]
  by_cases hdes : s.des = ""
  · rw [hdes]
    decide
  · rw [XMLElement.getText_setText _ hdes]
    cases hblank : isBlank s.des <;> simp [Option.filter, hblank]

end Saved

/-- The elements read from a saved file are the ones written. -/
theorem childElements_saveSnapshots (host : Host) (m : DiscoveryServerManager) :
    ∃ root, (m.saveSnapshots host).reread.firstChildElement "DS_Snapshots" = some root ∧
      root.childElements "DS_Snapshot" = m.snapshots.map fun s =>
        (s.toXml host.format host.clock (.new "DS_Snapshot")).reread := by
  let root := ((XMLElement.new "DS_Snapshots").setAttribute "xmlns"
    "http://www.eprosima.com/XMLSchemas/ds-snapshot").insertEndChildren
      (m.snapshots.map fun s => s.toXml host.format host.clock (.new "DS_Snapshot"))
  have hroot : root.name = "DS_Snapshots" := by
    rw [XMLElement.name_insertEndChildren]
    rfl
  have hname : ∀ s : Snapshot,
      (s.toXml host.format host.clock (.new "DS_Snapshot")).name = "DS_Snapshot" := fun s => by
    simp [Snapshot.toXml, setDuration]
  have hdoc : (m.saveSnapshots host).firstChildElement "DS_Snapshots" = some root :=
    List.find?_cons_of_pos (by rw [hroot]; rfl)
  refine ⟨root.reread, ?_, ?_⟩
  · rw [XMLDocument.firstChildElement_reread, hdoc, Option.map_some]
  · rw [XMLElement.childElements_reread]
    unfold XMLElement.childElements
    rw [XMLElement.children_insertEndChildren, XMLElement.children_setAttribute,
      XMLElement.children_new, List.nil_append, filter_name_map hname, if_pos rfl, List.map_map]
    rfl

/-- **When a file is read without a null string.** A valid document is, exactly
when each description that is read has a text. A document the program wrote is,
exactly when no description that is read is white space. -/
theorem loadSnapshots_isSome_iff (host : Host) (m : DiscoveryServerManager) (file : String) :
    (∀ doc root, host.loadFile file = some doc → ValidDocument doc root →
      ((m.loadSnapshots host file).isSome ↔
        ∀ e ∈ m.visited (root.childElements "DS_Snapshot"), Described e)) ∧
    (∀ (writer : Host) (w : DiscoveryServerManager),
      host.loadFile file = some (w.saveSnapshots writer).reread →
        ((m.loadSnapshots host file).isSome ↔
          ∀ s ∈ m.visited w.snapshots, isBlank s.des = false)) := by
  constructor
  · intro doc root hfile hdoc
    have hroot : doc.firstChildElement "DS_Snapshots" = some root := by
      unfold XMLDocument.firstChildElement
      rw [hdoc.elements]
      exact List.find?_cons_of_pos (by rw [hdoc.name]; rfl)
    rw [loadSnapshots_isSome m hfile hroot]
    refine forall₂_congr fun e he => and_iff_left ?_
    refine readable_of_valid ?_
    exact hdoc.valid.childElements_type (p := ⟨"DS_Snapshot", dsSnapshotType.Valid, 0, none⟩)
      (by decide) List.mem_cons_self (DiscoveryServerManager.mem_of_mem_visited he)
  · intro writer w hfile
    obtain ⟨root, hroot, hchildren⟩ := childElements_saveSnapshots writer w
    rw [loadSnapshots_isSome m hfile hroot, hchildren, m.visited_map, List.forall_mem_map]
    refine forall₂_congr fun s _ => ?_
    rw [described_reread_toXml]
    exact and_iff_left (readable_reread (readable_toXml writer.format writer.clock s))

/-- A snapshot as it is taken without a description. -/
def undescribed : Snapshot := { sampleSnapshot "one" with des := "" }

/-- The program with the file it has written. -/
def savedHost (s : Snapshot) : Host :=
  fileHost ((snapshotManager s).saveSnapshots (fileHost ⟨[]⟩)).reread

theorem loadSnapshots_isSome_iff_sample :
    ((DiscoveryServerManager.initial 0 0 0).loadSnapshots (savedHost (sampleSnapshot "one"))
      "snapshots.xml").isSome ↔ ∀ s ∈ [sampleSnapshot "one"], isBlank s.des = false :=
  (loadSnapshots_isSome_iff (savedHost (sampleSnapshot "one")) (.initial 0 0 0)
    "snapshots.xml").2 (fileHost ⟨[]⟩) (snapshotManager (sampleSnapshot "one")) rfl

/-- The program cannot read what it wrote. -/
theorem loadSnapshots_undefined : ¬ ∀ (host : Host) (m : DiscoveryServerManager) (file : String),
    (∀ doc root, host.loadFile file = some doc → ValidDocument doc root →
      (m.loadSnapshots host file).isSome) ∧
    (∀ (writer : Host) (w : DiscoveryServerManager),
      host.loadFile file = some (w.saveSnapshots writer).reread →
        (m.loadSnapshots host file).isSome) := by
  intro h
  have hsome := (h (savedHost undescribed) (.initial 0 0 0) "snapshots.xml").2
    (fileHost ⟨[]⟩) (snapshotManager undescribed) rfl
  obtain ⟨root, hroot, hchildren⟩ :=
    childElements_saveSnapshots (fileHost ⟨[]⟩) (snapshotManager undescribed)
  have hfile : (savedHost undescribed).loadFile "snapshots.xml" = some _ := rfl
  have hall := (loadSnapshots_isSome (.initial 0 0 0) hfile hroot).mp hsome
  rw [hchildren] at hall
  have hdescribed := (hall _ List.mem_cons_self).1
  rw [described_reread_toXml] at hdescribed
  exact absurd hdescribed (by decide)

end DiscoveryServer
