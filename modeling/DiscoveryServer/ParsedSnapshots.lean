import DiscoveryServer.Library.ParsedXml
import DiscoveryServer.SnapshotSchema

/-!
# Snapshot files as the validators read them

The validators parse a snapshot file and use, of each element, its prefix, name, entity
id and topic, the flag of a server and the description and timestamp of a snapshot. A
view is that much of an element. `ShownBy` relates the views to the elements of a parsed
file, and `saveSnapshots_shownBy` says that a file the program has written shows the
snapshots it was written from.
-/

namespace DiscoveryServer

open Library

/-! ## Views -/

/-- A `publisher` or `subscriber`. -/
structure EndpointView where
  guidPrefix : String
  guidEntity : String
  topic : String
deriving DecidableEq

/-- A `ptdi`. -/
structure ItemView where
  guidPrefix : String
  name : String
  server : String
  publishers : List EndpointView
  subscribers : List EndpointView
deriving DecidableEq

/-- A `ptdb`. -/
structure DatabaseView where
  guidPrefix : String
  name : String
  items : List ItemView
deriving DecidableEq

/-- A `DS_Snapshot`. -/
structure SnapshotView where
  timestamp : String
  description : String
  databases : List DatabaseView
deriving DecidableEq

/-- `dict2list(doc['DS_Snapshots']['DS_Snapshot'])`: a parsed file has its root as the
only key. -/
def snapshotElements (doc : XMLDocument) : Except PyError (List XMLElement) :=
  match doc.firstChildElement "DS_Snapshots" with
  | none => .error .keyError
  | some root => root.pyElements "DS_Snapshot"

structure EndpointView.ShownBy (v : EndpointView) (e : XMLElement) : Prop where
  guidPrefix : e.attributeValue "guid_prefix" = some v.guidPrefix
  guidEntity : e.attributeValue "guid_entity" = some v.guidEntity
  topic : e.attributeValue "topic" = some v.topic

structure ItemView.ShownBy (v : ItemView) (e : XMLElement) : Prop where
  guidPrefix : e.attributeValue "guid_prefix" = some v.guidPrefix
  name : e.attributeValue "name" = some v.name
  server : e.attributeValue "server" = some v.server
  publishers : List.Forall₂ EndpointView.ShownBy v.publishers (e.childElements "publisher")
  subscribers : List.Forall₂ EndpointView.ShownBy v.subscribers (e.childElements "subscriber")
  children : ∀ c ∈ e.children, c.name = "publisher" ∨ c.name = "subscriber"

structure DatabaseView.ShownBy (v : DatabaseView) (e : XMLElement) : Prop where
  guidPrefix : e.attributeValue "guid_prefix" = some v.guidPrefix
  name : e.attributeValue "name" = some v.name
  items : List.Forall₂ ItemView.ShownBy v.items (e.childElements "ptdi")

structure SnapshotView.ShownBy (v : SnapshotView) (e : XMLElement) : Prop where
  timestamp : e.attributeValue "timestamp" = some v.timestamp
  description : ∀ repr, e.pyText repr "description" = .ok v.description
  databases : List.Forall₂ DatabaseView.ShownBy v.databases (e.childElements "ptdb")

/-- The root of a parsed file shows the snapshots. -/
def ShownBy (views : List SnapshotView) (doc : XMLDocument) : Prop :=
  ∃ root, doc.firstChildElement "DS_Snapshots" = some root ∧ root.isDict = true ∧
    List.Forall₂ SnapshotView.ShownBy views (root.childElements "DS_Snapshot")

/-! ## What the accesses give -/

theorem ShownBy.snapshotElements {views : List SnapshotView} {doc : XMLDocument}
    (h : ShownBy views doc) (hne : views ≠ []) :
    ∃ snapshots, DiscoveryServer.snapshotElements doc = .ok snapshots ∧
      List.Forall₂ SnapshotView.ShownBy views snapshots := by
  obtain ⟨root, hroot, -, hsnapshots⟩ := h
  refine ⟨_, ?_, hsnapshots⟩
  unfold DiscoveryServer.snapshotElements
  rw [hroot]
  refine XMLElement.pyElements_eq_ok_iff.mpr ⟨rfl, fun hnil => ?_⟩
  rw [hnil] at hsnapshots
  cases hsnapshots
  exact hne rfl

namespace ItemView.ShownBy

variable {v : ItemView} {e : XMLElement}

theorem isDict (h : v.ShownBy e) : e.isDict = true :=
  XMLElement.isDict_of_attributeValue h.guidPrefix

/-- The keys of an item are its attributes, `publisher` and `subscriber`. -/
theorem pyHasKey (h : v.ShownBy e) (kind : String) :
    e.pyHasKey kind = .ok (!(e.childElements kind).isEmpty) := by
  unfold XMLElement.pyHasKey
  rw [if_pos h.isDict]
  have hlower : ∀ c ∈ e.children,
      decide (c.name.toList.map Char.toLower = kind.toList) = decide (c.name = kind) := by
    intro c hc
    have hpub : "publisher".toList.map Char.toLower = "publisher".toList := by decide
    have hsub : "subscriber".toList.map Char.toLower = "subscriber".toList := by decide
    rw [decide_eq_decide, ← String.toList_inj]
    cases h.children c hc with
    | inl hname => rw [hname, hpub]
    | inr hname => rw [hname, hsub]
  have hany : (e.children.any fun c => c.name.toList.map Char.toLower = kind.toList) =
      e.children.any fun c => c.name = kind := by
    rw [Bool.eq_iff_iff, List.any_eq_true, List.any_eq_true]
    constructor
    · rintro ⟨c, hc, hkey⟩
      exact ⟨c, hc, by rw [← hlower c hc]; exact hkey⟩
    · rintro ⟨c, hc, hkey⟩
      exact ⟨c, hc, by rw [hlower c hc]; exact hkey⟩
  rw [hany]
  unfold XMLElement.childElements
  refine congrArg _ ?_
  rw [Bool.eq_iff_iff, List.any_eq_true, Bool.not_eq_true', ← Bool.not_eq_true, List.isEmpty_iff,
    List.filter_eq_nil_iff]
  simp

end ItemView.ShownBy

/-! ## What the program writes -/

/-- What `f"{…}"` gives for a description. -/
def descriptionText (des : String) : String := if pyStrip des = "" then "None" else pyStrip des

section Written

variable (f : TextFormat)

def DataWriterDiscoveryItem.view (pub : DataWriterDiscoveryItem) : EndpointView where
  guidPrefix := f.prefixToStr pub.endpointGuid.guidPrefix
  guidEntity := f.entityIdToStr pub.endpointGuid.entityId
  topic := pub.topicName

def DataReaderDiscoveryItem.view (sub : DataReaderDiscoveryItem) : EndpointView where
  guidPrefix := f.prefixToStr sub.endpointGuid.guidPrefix
  guidEntity := f.entityIdToStr sub.endpointGuid.entityId
  topic := sub.topicName

def ParticipantDiscoveryItem.view (item : ParticipantDiscoveryItem) : ItemView where
  guidPrefix := f.prefixToStr item.endpointGuid.guidPrefix
  name := item.participantName
  server := f.xml.boolToStr item.isServer
  publishers := item.datawriters.toList.map (·.view f)
  subscribers := item.datareaders.toList.map (·.view f)

def ParticipantDiscoveryDatabase.view (database : ParticipantDiscoveryDatabase) : DatabaseView where
  guidPrefix := f.prefixToStr database.endpointGuid.guidPrefix
  name := database.participantName
  items := database.items.toList.map (·.view f)

def Snapshot.view (clock : ProcessClock) (shot : Snapshot) : SnapshotView where
  timestamp := f.xml.int64ToStr (toMilliseconds (clock.getSystemTime shot.time))
  description := descriptionText shot.des
  databases := shot.databases.toList.map (·.view f)

theorem attributeValue_setGuid (e : XMLElement) (id : Guid) (m : String) :
    (setGuid f e id).attributeValue m =
      if m = "guid_entity" then some (f.entityIdToStr id.entityId)
      else if m = "guid_prefix" then some (f.prefixToStr id.guidPrefix)
      else e.attributeValue m := by
  simp only [setGuid, XMLElement.attributeValue_setAttribute]

theorem shownBy_writeDataWriter (shot : Snapshot) (pub : DataWriterDiscoveryItem) :
    (pub.view f).ShownBy (writeDataWriter f shot pub).reread := by
  refine ⟨?_, ?_, ?_⟩ <;>
    simp [DataWriterDiscoveryItem.view, writeDataWriter, setDuration, attributeValue_setGuid]

theorem shownBy_writeDataReader (shot : Snapshot) (owner : Guid) (sub : DataReaderDiscoveryItem) :
    (sub.view f).ShownBy (writeDataReader f shot owner sub).reread := by
  unfold writeDataReader
  dsimp only
  -- the counts of liveliness do not matter
  split_ifs <;> refine ⟨?_, ?_, ?_⟩ <;>
    simp [DataReaderDiscoveryItem.view, setDuration, attributeValue_setGuid]

/-- The elements of a list are shown by what is written for them. -/
theorem forall₂_written {α β : Type} {view : α → β} {R : β → XMLElement → Prop}
    {write : α → XMLElement} (h : ∀ a, R (view a) (write a).reread) (l : List α) :
    List.Forall₂ R (l.map view) ((l.map write).map XMLElement.reread) := by
  induction l with
  | nil => exact .nil
  | cons a l ih => exact .cons (h a) ih

theorem shownBy_writeParticipantItem (shot : Snapshot) (owner : Guid)
    (item : ParticipantDiscoveryItem) :
    (item.view f).ShownBy (writeParticipantItem f shot owner item).reread where
  guidPrefix := by
    simp [ParticipantDiscoveryItem.view, writeParticipantItem, setDuration, attributeValue_setGuid]
  name := by simp [ParticipantDiscoveryItem.view, writeParticipantItem, setDuration]
  server := by simp [ParticipantDiscoveryItem.view, writeParticipantItem, setDuration]
  publishers := by
    rw [XMLElement.childElements_reread, publishers_writeParticipantItem]
    exact forall₂_written (shownBy_writeDataWriter f shot) _
  subscribers := by
    rw [XMLElement.childElements_reread, subscribers_writeParticipantItem]
    exact forall₂_written (shownBy_writeDataReader f shot owner) _
  children := by
    intro c hc
    rw [XMLElement.children_reread, children_writeParticipantItem, List.mem_map] at hc
    obtain ⟨x, hx, rfl⟩ := hc
    rw [XMLElement.name_reread]
    cases List.mem_append.mp hx with
    | inl hsub =>
      obtain ⟨sub, _, rfl⟩ := List.mem_map.mp hsub
      exact .inr (name_writeDataReader f shot owner sub)
    | inr hpub =>
      obtain ⟨pub, _, rfl⟩ := List.mem_map.mp hpub
      exact .inl rfl

theorem shownBy_writeDatabase (shot : Snapshot) (database : ParticipantDiscoveryDatabase) :
    (database.view f).ShownBy (writeDatabase f shot database).reread where
  guidPrefix := by simp [ParticipantDiscoveryDatabase.view, writeDatabase, attributeValue_setGuid]
  name := by simp [ParticipantDiscoveryDatabase.view, writeDatabase]
  items := by
    rw [XMLElement.childElements_reread, items_writeDatabase]
    exact forall₂_written (shownBy_writeParticipantItem f shot database.endpointGuid) _

/-- Blank to XML is blank to Python. -/
theorem pyStrip_of_isBlank {s : String} (h : isBlank s = true) : pyStrip s = "" := by
  have hall : ∀ c ∈ s.toList, pyIsSpace c = true := by
    intro c hc
    have hmem := of_decide_eq_true (List.all_eq_true.mp h c hc)
    simp only [List.mem_cons, List.not_mem_nil, or_false] at hmem
    rcases hmem with rfl | rfl | rfl | rfl | rfl | rfl <;> decide
  unfold pyStrip
  rw [List.dropWhile_eq_nil_iff.mpr hall]
  rfl

theorem pyText_description (repr : List XMLElement → String) (clock : ProcessClock)
    (shot : Snapshot) (name : String) :
    (shot.toXml f clock (.new name)).reread.pyText repr "description" =
      .ok (descriptionText shot.des) := by
  have helements : (shot.toXml f clock (.new name)).reread.childElements "description" =
      [((XMLElement.new "description").setText shot.des).reread] := by
    have hname : ∀ d, (writeDatabase f shot d).name = "ptdb" := by
      intro d
      simp [writeDatabase, setGuid]
    rw [XMLElement.childElements_reread]
    unfold XMLElement.childElements
    rw [children_toXml, List.filter_cons_of_pos (by simp), filter_name_map hname]
    simp
  have hok := XMLElement.pyElements_eq_ok_iff.mpr ⟨helements, List.cons_ne_nil _ _⟩
  have htext : ((XMLElement.new "description").setText shot.des).reread.text =
      (((XMLElement.new "description").setText shot.des).text.filter fun s => !isBlank s) := rfl
  have hdict : ((XMLElement.new "description").setText shot.des).reread.isDict = false := by
    simp [XMLElement.isDict, XMLElement.setText, XMLElement.new, XMLElement.reread,
      XMLElement.rereadAll]
  unfold XMLElement.pyText
  rw [hok]
  refine congrArg Except.ok ?_
  show (if _ then _ else _) = _
  rw [if_neg (by rw [hdict]; exact Bool.false_ne_true), htext]
  unfold descriptionText XMLElement.setText
  dsimp only
  by_cases hempty : shot.des = ""
  · rw [if_pos hempty, hempty]
    rfl
  · rw [if_neg hempty]
    by_cases hblank : isBlank shot.des = true
    · rw [if_pos (pyStrip_of_isBlank hblank), Option.filter_some, hblank]
      rfl
    · rw [Option.filter_some, if_pos (by simp [hblank])]

theorem shownBy_toXml (clock : ProcessClock) (shot : Snapshot) :
    (shot.view f clock).ShownBy (shot.toXml f clock (.new "DS_Snapshot")).reread where
  timestamp := by simp [Snapshot.view, Snapshot.toXml, setDuration]
  description := by
    intro repr
    simp only [Snapshot.view]
    exact pyText_description f repr clock shot "DS_Snapshot"
  databases := by
    rw [XMLElement.childElements_reread, databases_toXml]
    exact forall₂_written (shownBy_writeDatabase f shot) _

end Written

namespace DiscoveryServerManager

/-- The views of the snapshots of a manager. -/
def views (host : Host) (m : DiscoveryServerManager) : List SnapshotView :=
  m.snapshots.map fun s => s.view host.format host.clock

/-- The file that `saveSnapshots` writes, as it is parsed. -/
def parsedFile (host : Host) (m : DiscoveryServerManager) : XMLDocument :=
  (m.saveSnapshots host).reread

/-- **A file shows the snapshots it was written from.** -/
theorem parsedFile_shownBy (host : Host) (m : DiscoveryServerManager) :
    ShownBy (m.views host) (m.parsedFile host) := by
  obtain ⟨root, hroot, helements⟩ := childElements_saveSnapshots host m
  refine ⟨root, hroot, ?_, ?_⟩
  · have hfound := hroot
    rw [XMLDocument.firstChildElement_reread] at hfound
    obtain ⟨written, hwritten, rfl⟩ := Option.map_eq_some_iff.mp hfound
    have hmem := List.mem_of_find?_eq_some hwritten
    rw [List.mem_singleton.mp hmem]
    refine XMLElement.isDict_of_attributeValue (m := "xmlns")
      (v := "http://www.eprosima.com/XMLSchemas/ds-snapshot") ?_
    simp
  · rw [helements]
    have hmap := forall₂_written (shownBy_toXml host.format host.clock) m.snapshots
    rw [List.map_map] at hmap
    exact hmap

end DiscoveryServerManager

end DiscoveryServer
