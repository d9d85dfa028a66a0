import DiscoveryServer.SnapshotSchema

/-!
# Liveliness counters in saved snapshots

`to_xml` writes both counters of a reader of the database's own participant.
`from_xml` queries them in one condition, `alive_count` absent or else
`not_alive_count` absent: where the first is there the second is never read.
So the counters survive exactly where every count of writers not alive is zero
(`countersSurvive_iff`); that liveliness is shown survives with any own reader.

Reading commutes with the file in between (`fromXml_reread`) as long as there is
a description to read.
-/

namespace DiscoveryServer

open Library

/-! ## Reading an element from its file -/

section Reread

variable (f : TextFormat)

theorem query_reread {α : Type} (e : XMLElement) (convert : String → Option α) (name : String)
    (value : α) : e.reread.query convert name value = e.query convert name value := by
  unfold XMLElement.query
  rw [XMLElement.attributeValue_reread]

theorem readGuid_reread (e : XMLElement) : readGuid f e.reread = readGuid f e := by
  unfold readGuid
  rw [XMLElement.attributeValue_reread, XMLElement.attributeValue_reread]

theorem readDuration_reread (e : XMLElement) (name : String) :
    readDuration f e.reread name = readDuration f e name := by
  unfold readDuration XMLElement.int64Attribute
  rw [query_reread]

/-- A loop over the elements of a file reads what the loop over the elements
written reads. -/
theorem insertEach_reread {κ α : Type} [LinearOrder κ] [Keyed κ α]
    {read : XMLElement → Option (α × Bool)} (h : ∀ e, read e.reread = read e)
    (l : List XMLElement) (acc : OrdSet κ α × Bool) :
    insertEach read (l.map XMLElement.reread) acc = insertEach read l acc := by
  induction l generalizing acc with
  | nil => rfl
  | cons e l ih =>
    rw [List.map_cons, insertEach, insertEach, h e]
    cases read e with
    | none => rfl
    | some a => exact ih _

theorem readDataReader_reread (startup : TimePoint) (e : XMLElement) :
    readDataReader f startup e.reread = readDataReader f startup e := by
  unfold readDataReader XMLElement.queryIntAttribute
  simp only [readGuid_reread, XMLElement.attributeValue_reread, readDuration_reread, query_reread]

theorem readDataWriter_reread (startup : TimePoint) (e : XMLElement) :
    readDataWriter f startup e.reread = readDataWriter f startup e := by
  unfold readDataWriter
  simp only [readGuid_reread, XMLElement.attributeValue_reread, readDuration_reread]

theorem readParticipantItem_reread (startup : TimePoint) (e : XMLElement) :
    readParticipantItem f startup e.reread = readParticipantItem f startup e := by
  unfold readParticipantItem XMLElement.boolAttribute XMLElement.queryBoolAttribute
  simp only [readGuid_reread, XMLElement.attributeValue_reread, readDuration_reread, query_reread,
    XMLElement.childElements_reread, insertEach_reread (readDataReader_reread f startup),
    insertEach_reread (readDataWriter_reread f startup)]

theorem readDatabase_reread (startup : TimePoint) (e : XMLElement) :
    readDatabase f startup e.reread = readDatabase f startup e := by
  unfold readDatabase
  simp only [readGuid_reread, XMLElement.childElements_reread,
    insertEach_reread (readParticipantItem_reread f startup)]

/-- Reading a snapshot from a file, where no text of a description is lost. -/
theorem fromXml_reread (clock : ProcessClock) (sh : Snapshot) {e : XMLElement}
    (htext : ∀ d, e.firstChildElement "description" = some d → d.reread.getText = d.getText) :
    sh.fromXml f clock (some e.reread) = sh.fromXml f clock (some e) := by
  unfold Snapshot.fromXml XMLElement.boolAttribute
  simp only [readDuration_reread, query_reread, XMLElement.childElements_reread,
    XMLElement.firstChildElement_reread, insertEach_reread (readDatabase_reread f _)]
  cases hd : e.firstChildElement "description" with
  | none => rfl
  | some d =>
    simp only [Option.map_some]
    rw [htext d hd]

end Reread

theorem isBlank_empty : isBlank "" = true := by decide

/-- **Loading what was saved to a file.** -/
theorem fromXml_reread_toXml {f : TextFormat} (hf : f.Lossless) (writer reader : ProcessClock)
    {s : Snapshot} (hdes : isBlank s.des = false) :
    Snapshot.fromXml f reader (.default reader)
        (some (s.toXml f writer (.new "DS_Snapshot")).reread) =
      some (reload writer reader s) := by
  have hne : s.des ≠ "" := by
    intro h
    rw [h, isBlank_empty] at hdes
    cases hdes
  rw [fromXml_reread f reader (.default reader), fromXml_toXml hf writer reader s hne]
  intro d hd
  have hfirst : (s.toXml f writer (.new "DS_Snapshot")).firstChildElement "description" =
      some ((XMLElement.new "description").setText s.des) := by
    unfold XMLElement.firstChildElement
    rw [children_toXml]
    exact List.find?_cons_of_pos rfl
  rw [hfirst] at hd
  cases hd
  rw [XMLElement.getText_reread, XMLElement.getText_setText _ hne, Option.filter_some, hdes]
  rfl

/-! ## The counters -/

namespace Snapshot

/-- The reader `sub` is in the item `it` of the database `d`, and belongs to the
participant whose database it is. -/
structure OwnReader (s : Snapshot) (d : ParticipantDiscoveryDatabase)
    (it : ParticipantDiscoveryItem) (sub : DataReaderDiscoveryItem) : Prop where
  database : d ∈ s.databases
  item : it ∈ d.items
  reader : sub ∈ it.datareaders
  own : sub.endpointGuid.guidPrefix = d.endpointGuid.guidPrefix

/-- The reader under three GUIDs. -/
def readerOf (s : Snapshot) (owner p r : Guid) : Option DataReaderDiscoveryItem :=
  ((s.databases.find? owner).bind fun d => d.items.find? p).bind fun it => it.datareaders.find? r

theorem OwnReader.readerOf {s : Snapshot} {d : ParticipantDiscoveryDatabase}
    {it : ParticipantDiscoveryItem} {sub : DataReaderDiscoveryItem} (h : s.OwnReader d it sub) :
    s.readerOf d.endpointGuid it.endpointGuid sub.endpointGuid = some sub := by
  have hdatabase : s.databases.find? d.endpointGuid = some d := OrdSet.find?_of_mem h.database
  have hitem : d.items.find? it.endpointGuid = some it := OrdSet.find?_of_mem h.item
  have hreader : it.datareaders.find? sub.endpointGuid = some sub := OrdSet.find?_of_mem h.reader
  unfold Snapshot.readerOf
  rw [hdatabase, Option.bind_some, hitem, Option.bind_some, hreader]

theorem readerOf_reload (writer reader : ProcessClock) (s : Snapshot) (owner p r : Guid) :
    (reload writer reader s).readerOf owner p r =
      (s.readerOf owner p r).map
        (reloadDataReader s (reloadStartup writer reader s) owner) := by
  let startup := reloadStartup writer reader s
  have hdatabase : (reload writer reader s).databases.find? owner =
      (s.databases.find? owner).map (reloadDatabase s startup) :=
    OrdSet.find?_mapValues s.databases (reloadDatabase s startup) (fun _ => rfl) owner
  unfold readerOf
  rw [hdatabase]
  cases hd : s.databases.find? owner with
  | none => rfl
  | some d =>
    have hguid : d.endpointGuid = owner := OrdSet.find?_key hd
    have hitem : (reloadDatabase s startup d).items.find? p =
        (d.items.find? p).map (reloadItem s startup owner) :=
      hguid ▸ OrdSet.find?_mapValues d.items (reloadItem s startup d.endpointGuid)
        (fun _ => rfl) p
    rw [Option.map_some, Option.bind_some, Option.bind_some, hitem]
    cases d.items.find? p with
    | none => rfl
    | some it =>
      exact OrdSet.find?_mapValues it.datareaders (reloadDataReader s startup owner)
        (fun _ => rfl) r

/-- The counters of the own readers are in the snapshot that is loaded from the
file the snapshot was saved to, and so is that liveliness is shown. -/
def CountersSurvive (f : TextFormat) (writer reader : ProcessClock) (s : Snapshot) : Prop :=
  ∃ t, Snapshot.fromXml f reader (.default reader)
      (some (s.toXml f writer (.new "DS_Snapshot")).reread) = some t ∧
    (∀ d it sub, s.OwnReader d it sub →
      ∃ sub', t.readerOf d.endpointGuid it.endpointGuid sub.endpointGuid = some sub' ∧
        sub'.aliveCount = sub.aliveCount ∧ sub'.notAliveCount = sub.notAliveCount) ∧
    ((∃ d it sub, s.OwnReader d it sub) → t.showLiveliness = true)

variable {s : Snapshot} {d : ParticipantDiscoveryDatabase} {it : ParticipantDiscoveryItem}
  {sub : DataReaderDiscoveryItem}

theorem OwnReader.shown (h : s.OwnReader d it sub) (hshow : s.showLiveliness = true) :
    shown s d.endpointGuid sub = true := by
  simp [DiscoveryServer.shown, hshow, h.own]

/-- What is loaded of an own reader: the first counter. -/
theorem OwnReader.reload (h : s.OwnReader d it sub) (hshow : s.showLiveliness = true)
    (writer reader : ProcessClock) :
    ∃ sub', (reload writer reader s).readerOf d.endpointGuid it.endpointGuid sub.endpointGuid =
        some sub' ∧ sub'.aliveCount = sub.aliveCount ∧ sub'.notAliveCount = 0 := by
  refine ⟨reloadDataReader s (reloadStartup writer reader s) d.endpointGuid sub, ?_, ?_, rfl⟩
  · rw [readerOf_reload, h.readerOf, Option.map_some]
  · exact if_pos (h.shown hshow)

theorem OwnReader.showLiveliness_reload (h : s.OwnReader d it sub)
    (hshow : s.showLiveliness = true) (writer reader : ProcessClock) :
    (DiscoveryServer.reload writer reader s).showLiveliness = true := by
  have hitem : itemShown s d.endpointGuid it = true :=
    List.any_eq_true.mpr ⟨sub, h.reader, h.shown hshow⟩
  have hdatabase : databaseShown s d = true := List.any_eq_true.mpr ⟨it, h.item, hitem⟩
  exact List.any_eq_true.mpr ⟨d, h.database, hdatabase⟩

end Snapshot

open Snapshot

/-- **When the counters survive**: the snapshot can be loaded at all, and no
own reader has lost a writer. -/
theorem countersSurvive_iff {f : TextFormat} (hf : f.Lossless) (writer reader : ProcessClock)
    (s : Snapshot) (hshow : s.showLiveliness = true) :
    s.CountersSurvive f writer reader ↔
      isBlank s.des = false ∧ ∀ d it sub, s.OwnReader d it sub → sub.notAliveCount = 0 := by
  constructor
  · rintro ⟨t, hload, hcounters, _⟩
    have hsome : (Snapshot.fromXml f reader (.default reader)
        (some (s.toXml f writer (.new "DS_Snapshot")).reread)).isSome := by
      rw [hload]
      rfl
    have hdes := (described_reread_toXml f writer s).mp ((fromXml_isSome f _ _ _).mp hsome).1
    refine ⟨hdes, fun d it sub hown => ?_⟩
    rw [fromXml_reread_toXml hf writer reader hdes] at hload
    cases hload
    obtain ⟨sub', hsub', _, hsame⟩ := hcounters d it sub hown
    obtain ⟨sub'', hsub'', _, hzero⟩ := hown.reload hshow writer reader
    rw [hsub'] at hsub''
    cases hsub''
    exact hsame.symm.trans hzero
  · rintro ⟨hdes, hzero⟩
    refine ⟨reload writer reader s, fromXml_reread_toXml hf writer reader hdes, ?_, ?_⟩
    · intro d it sub hown
      obtain ⟨sub', hsub', halive, hnone⟩ := hown.reload hshow writer reader
      exact ⟨sub', hsub', halive, hnone.trans (hzero d it sub hown).symm⟩
    · rintro ⟨d, it, sub, hown⟩
      exact hown.showLiveliness_reload hshow writer reader

/-- A participant with a reader that matches three writers alive, and so many
that are not. -/
def watchedReader (notAlive : Int) : DataReaderDiscoveryItem :=
  ⟨⟨1, 4⟩, "HelloWorld", "HelloWorldTopic", 0, 3, notAlive⟩

def watchedItem (notAlive : Int) : ParticipantDiscoveryItem :=
  ⟨.ofPrefix 1, false, true, "watcher", 0, ∅, (∅ : OrdSet _ _).insert (watchedReader notAlive)⟩

def watchedDatabase (notAlive : Int) : ParticipantDiscoveryDatabase :=
  ⟨.ofPrefix 1, "watcher", (∅ : OrdSet _ _).insert (watchedItem notAlive)⟩

def watchedSnapshot (notAlive : Int) : Snapshot :=
  { Snapshot.ofDatabases [watchedDatabase notAlive] with
    des := "liveliness"
    showLiveliness := true }

theorem countersSurvive_sample :
    (watchedSnapshot 0).CountersSurvive sampleFormat ⟨5, 2⟩ ⟨9, 4⟩ ↔
      isBlank (watchedSnapshot 0).des = false ∧
        ∀ d it sub, (watchedSnapshot 0).OwnReader d it sub → sub.notAliveCount = 0 :=
  countersSurvive_iff sampleFormat_lossless ⟨5, 2⟩ ⟨9, 4⟩ (watchedSnapshot 0) rfl

/-- Two writers that are not alive are forgotten. -/
theorem counters_lost : ¬ ∀ f : TextFormat, f.Lossless → ∀ (writer reader : ProcessClock)
    (s : Snapshot), s.showLiveliness = true → s.CountersSurvive f writer reader := by
  intro h
  obtain ⟨t, hload, hcounters, _⟩ :=
    h sampleFormat sampleFormat_lossless ⟨0, 0⟩ ⟨0, 0⟩ (watchedSnapshot 2) rfl
  have hown : (watchedSnapshot 2).OwnReader (watchedDatabase 2) (watchedItem 2)
      (watchedReader 2) :=
    ⟨List.mem_cons_self, List.mem_cons_self, List.mem_cons_self, rfl⟩
  rw [fromXml_reread_toXml sampleFormat_lossless ⟨0, 0⟩ ⟨0, 0⟩ (by decide)] at hload
  cases hload
  obtain ⟨sub', hsub', _, hsame⟩ := hcounters _ _ _ hown
  obtain ⟨sub'', hsub'', _, hzero⟩ := hown.reload rfl ⟨0, 0⟩ ⟨0, 0⟩
  rw [hsub'] at hsub''
  cases hsub''
  exact absurd (hzero.symm.trans hsame) (by decide)

end DiscoveryServer
