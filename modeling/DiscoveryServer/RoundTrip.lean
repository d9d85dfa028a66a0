import DiscoveryServer.SnapshotXml
import DiscoveryServer.Validation
import Mathlib.Algebra.Group.Basic
import Mathlib.Algebra.Group.Int.Defs

/-!
# Saving and loading a snapshot

`fromXml_toXml` computes what a process reads from the element another process
wrote: the snapshot `reload` describes, level by level. Everything the verdict
looks at survives (`content`). Times survive in milliseconds from the process
start. The name of a database does not survive: `from_xml` never reads it.
-/

namespace DiscoveryServer

open Library

/-! ## What is read back -/

section Reload

variable (s : Snapshot) (startup : TimePoint)

/-- A time of `s` as a process that started at `startup` has it. -/
def rebase (tp : TimePoint) : TimePoint :=
  startup + milliseconds (toMilliseconds (tp - s.processStartup))

/-- The counters of a reader are written. -/
def shown (owner : Guid) (sub : DataReaderDiscoveryItem) : Bool :=
  s.showLiveliness && sub.endpointGuid.guidPrefix = owner.guidPrefix

def reloadDataReader (owner : Guid) (sub : DataReaderDiscoveryItem) : DataReaderDiscoveryItem :=
  { sub with
    discoveredTimestamp := rebase s startup sub.discoveredTimestamp
    aliveCount := if shown s owner sub then sub.aliveCount else 0
    notAliveCount := 0 }

def reloadDataWriter (pub : DataWriterDiscoveryItem) : DataWriterDiscoveryItem :=
  { pub with discoveredTimestamp := rebase s startup pub.discoveredTimestamp }

def reloadItem (owner : Guid) (it : ParticipantDiscoveryItem) : ParticipantDiscoveryItem :=
  { it with
    discoveredTimestamp := rebase s startup it.discoveredTimestamp
    datareaders := it.datareaders.mapValues (reloadDataReader s startup owner) fun _ => rfl
    datawriters := it.datawriters.mapValues (reloadDataWriter s startup) fun _ => rfl }

def reloadDatabase (d : ParticipantDiscoveryDatabase) : ParticipantDiscoveryDatabase where
  endpointGuid := d.endpointGuid
  participantName := ""
  items := d.items.mapValues (reloadItem s startup d.endpointGuid) fun _ => rfl

/-- Some reader of the item has its counters written. -/
def itemShown (owner : Guid) (it : ParticipantDiscoveryItem) : Bool :=
  it.datareaders.toList.any (shown s owner)

def databaseShown (d : ParticipantDiscoveryDatabase) : Bool :=
  d.items.toList.any (itemShown s d.endpointGuid)

end Reload

/-- The time of `s` in the process that reads it. -/
def reloadTime (writer reader : ProcessClock) (s : Snapshot) : TimePoint :=
  milliseconds (toMilliseconds (writer.getSystemTime s.time)) - reader.system + reader.steady

/-- The start of the process that took `s`, in the process that reads it. -/
def reloadStartup (writer reader : ProcessClock) (s : Snapshot) : TimePoint :=
  reloadTime writer reader s - milliseconds (toMilliseconds (s.time - s.processStartup))

/-- The snapshot one process reads from the element another one wrote. -/
def reload (writer reader : ProcessClock) (s : Snapshot) : Snapshot :=
  let startup := reloadStartup writer reader s
  { databases := s.databases.mapValues (reloadDatabase s startup) fun _ => rfl
    processStartup := startup
    time := reloadTime writer reader s
    lastPDPCallback := rebase s startup s.lastPDPCallback
    lastEDPCallback := rebase s startup s.lastEDPCallback
    ifSomeone := s.ifSomeone
    showLiveliness := s.databases.toList.any (databaseShown s)
    des := s.des }

/-! ## Loops -/

theorem insertEach_map {κ α β : Type} [LinearOrder κ] [Keyed κ α]
    {read : XMLElement → Option (α × Bool)} {write : β → XMLElement} {g : β → α} {b : β → Bool}
    {l : List β} (h : ∀ x ∈ l, read (write x) = some (g x, b x)) (set : OrdSet κ α) (seen : Bool) :
    insertEach read (l.map write) (set, seen) =
      some (set.insertAll (l.map g), seen || l.any b) := by
  induction l generalizing set seen with
  | nil => simp [insertEach, OrdSet.insertAll]
  | cons x l ih =>
    have hx := h x List.mem_cons_self
    have htl := ih (fun y hy => h y (List.mem_cons_of_mem x hy)) (set.insert (g x)) (seen || b x)
    simp only [List.map_cons, insertEach, hx, Option.bind_eq_bind, Option.bind_some]
    rw [htl, List.any_cons, Bool.or_assoc]
    rfl

/-- A set written element by element is read back element by element. -/
theorem insertEach_write {κ α : Type} [LinearOrder κ] [Keyed κ α]
    {read : XMLElement → Option (α × Bool)} {write : α → XMLElement} {g : α → α} {b : α → Bool}
    (h : ∀ x, read (write x) = some (g x, b x)) (hg : ∀ x, key (g x) = key x) (s : OrdSet κ α)
    (seen : Bool) :
    insertEach read (s.toList.map write) ((∅ : OrdSet κ α), seen) =
      some (s.mapValues g hg, seen || s.toList.any b) := by
  rw [insertEach_map fun x _ => h x]
  have hset : (∅ : OrdSet κ α).insertAll (s.mapValues g hg).toList = s.mapValues g hg :=
    OrdSet.insertAll_toList _
  rw [← hset]
  rfl

theorem filter_name_map {β : Type} {write : β → XMLElement} {n : String}
    (h : ∀ x, (write x).name = n) (m : String) (l : List β) :
    (l.map write).filter (fun c => c.name = m) = if n = m then l.map write else [] := by
  split_ifs with hm
  · refine List.filter_eq_self.mpr fun c hc => ?_
    obtain ⟨x, _, rfl⟩ := List.mem_map.mp hc
    simp [h x, hm]
  · refine List.filter_eq_nil_iff.mpr fun c hc => ?_
    obtain ⟨x, _, rfl⟩ := List.mem_map.mp hc
    simp [h x, hm]

/-! ## The children written -/

section Children

variable (f : TextFormat) (s : Snapshot) (owner : Guid)

theorem name_writeDataReader (sub : DataReaderDiscoveryItem) :
    (writeDataReader f s owner sub).name = "subscriber" := by
  unfold writeDataReader
  dsimp only
  split_ifs <;> rfl

/-- The children are the readers, then the writers. -/
theorem children_writeParticipantItem (it : ParticipantDiscoveryItem) :
    (writeParticipantItem f s owner it).children =
      it.datareaders.toList.map (writeDataReader f s owner) ++
        it.datawriters.toList.map (writeDataWriter f s) := by
  simp [writeParticipantItem, setDuration, setGuid]

theorem subscribers_writeParticipantItem (it : ParticipantDiscoveryItem) :
    (writeParticipantItem f s owner it).childElements "subscriber" =
      it.datareaders.toList.map (writeDataReader f s owner) := by
  unfold XMLElement.childElements
  rw [children_writeParticipantItem, List.filter_append,
    filter_name_map (name_writeDataReader f s owner),
    filter_name_map (show ∀ pub, (writeDataWriter f s pub).name = "publisher" from fun _ => rfl)]
  simp

theorem publishers_writeParticipantItem (it : ParticipantDiscoveryItem) :
    (writeParticipantItem f s owner it).childElements "publisher" =
      it.datawriters.toList.map (writeDataWriter f s) := by
  unfold XMLElement.childElements
  rw [children_writeParticipantItem, List.filter_append,
    filter_name_map (name_writeDataReader f s owner),
    filter_name_map (show ∀ pub, (writeDataWriter f s pub).name = "publisher" from fun _ => rfl)]
  simp

theorem items_writeDatabase (d : ParticipantDiscoveryDatabase) :
    (writeDatabase f s d).childElements "ptdi" =
      d.items.toList.map (writeParticipantItem f s d.endpointGuid) := by
  have hname : ∀ it, (writeParticipantItem f s d.endpointGuid it).name = "ptdi" := by
    intro it
    simp [writeParticipantItem, setDuration, setGuid]
  have hchildren : (writeDatabase f s d).children =
      d.items.toList.map (writeParticipantItem f s d.endpointGuid) := by
    simp [writeDatabase, setGuid]
  unfold XMLElement.childElements
  rw [hchildren, filter_name_map hname, if_pos rfl]

theorem children_toXml (clock : ProcessClock) (name : String) :
    (s.toXml f clock (.new name)).children =
      (XMLElement.new "description").setText s.des ::
        s.databases.toList.map (writeDatabase f s) := by
  simp [Snapshot.toXml, setDuration]

theorem databases_toXml (clock : ProcessClock) (name : String) :
    (s.toXml f clock (.new name)).childElements "ptdb" =
      s.databases.toList.map (writeDatabase f s) := by
  have hname : ∀ d, (writeDatabase f s d).name = "ptdb" := by
    intro d
    simp [writeDatabase, setGuid]
  unfold XMLElement.childElements
  rw [children_toXml, List.filter_cons_of_neg (by simp), filter_name_map hname, if_pos rfl]

end Children

/-! ## Each level -/

section Levels

variable {f : TextFormat} (hf : f.Lossless) (s : Snapshot) (startup : TimePoint) (owner : Guid)

include hf

theorem readGuid_of_attributeValue {e : XMLElement} {id : Guid}
    (hp : e.attributeValue "guid_prefix" = some (f.prefixToStr id.guidPrefix))
    (he : e.attributeValue "guid_entity" = some (f.entityIdToStr id.entityId)) :
    readGuid f e = some id := by
  simp only [readGuid, hp, he, Option.bind_eq_bind, Option.bind_some, hf.guidPrefix, hf.entityId]

theorem readDuration_of_attributeValue {e : XMLElement} {name : String} {d : Int}
    (h : e.attributeValue name = some (f.xml.int64ToStr (toMilliseconds d))) :
    readDuration f e name = milliseconds (toMilliseconds d) := by
  unfold readDuration XMLElement.int64Attribute
  rw [e.query_eq_of_attributeValue h (hf.xml.int64 _)]

theorem readDataReader_writeDataReader (sub : DataReaderDiscoveryItem) :
    readDataReader f startup (writeDataReader f s owner sub) =
      some (reloadDataReader s startup owner sub, shown s owner sub) := by
  have hattr : ∀ m, m ≠ "alive_count" → m ≠ "not_alive_count" →
      (writeDataReader f s owner sub).attributeValue m =
        (setDuration f (setGuid f (((XMLElement.new "subscriber").setAttribute "type"
          sub.typeName).setAttribute "topic" sub.topicName) sub.endpointGuid) "discovered_timestamp"
          (sub.discoveredTimestamp - s.processStartup)).attributeValue m := by
    intro m ha hn
    unfold writeDataReader
    dsimp only
    split_ifs <;> simp [ha, hn]
  have hguid : readGuid f (writeDataReader f s owner sub) = some sub.endpointGuid := by
    refine readGuid_of_attributeValue hf ?_ ?_ <;>
      simp [hattr, setDuration, setGuid]
  have hdisc : readDuration f (writeDataReader f s owner sub) "discovered_timestamp" =
      milliseconds (toMilliseconds (sub.discoveredTimestamp - s.processStartup)) :=
    readDuration_of_attributeValue hf (by simp [hattr, setDuration])
  have htype : (writeDataReader f s owner sub).attributeValue "type" = some sub.typeName := by
    simp [hattr, setDuration, setGuid]
  have htopic : (writeDataReader f s owner sub).attributeValue "topic" = some sub.topicName := by
    simp [hattr, setDuration, setGuid]
  unfold readDataReader
  simp only [hguid, hdisc, htype, htopic, Option.bind_eq_bind, Option.bind_some]
  cases hshown : shown s owner sub with
  | true =>
    have halive : (writeDataReader f s owner sub).attributeValue "alive_count" =
        some (f.xml.intToStr sub.aliveCount) := by
      simp only [shown] at hshown
      simp [writeDataReader, hshown]
    simp only [XMLElement.queryIntAttribute,
      XMLElement.query_eq_of_attributeValue _ halive (hf.xml.int _)]
    simp [reloadDataReader, hshown, rebase]
  | false =>
    have hnone : ∀ m, m = "alive_count" ∨ m = "not_alive_count" →
        (writeDataReader f s owner sub).attributeValue m = none := by
      simp only [shown] at hshown
      rintro m (rfl | rfl) <;>
        simp [writeDataReader, hshown, setDuration, setGuid]
    simp only [XMLElement.queryIntAttribute, XMLElement.query_eq_of_none _ (hnone _ (.inl rfl)),
      XMLElement.query_eq_of_none _ (hnone _ (.inr rfl))]
    simp [reloadDataReader, hshown, rebase]

theorem readDataWriter_writeDataWriter (pub : DataWriterDiscoveryItem) :
    readDataWriter f startup (writeDataWriter f s pub) =
      some (reloadDataWriter s startup pub, false) := by
  have hguid : readGuid f (writeDataWriter f s pub) = some pub.endpointGuid := by
    refine readGuid_of_attributeValue hf ?_ ?_ <;>
      simp [writeDataWriter, setDuration, setGuid]
  have hdisc : readDuration f (writeDataWriter f s pub) "discovered_timestamp" =
      milliseconds (toMilliseconds (pub.discoveredTimestamp - s.processStartup)) :=
    readDuration_of_attributeValue hf (by simp [writeDataWriter, setDuration])
  have htype : (writeDataWriter f s pub).attributeValue "type" = some pub.typeName := by
    simp [writeDataWriter, setDuration, setGuid]
  have htopic : (writeDataWriter f s pub).attributeValue "topic" = some pub.topicName := by
    simp [writeDataWriter, setDuration, setGuid]
  unfold readDataWriter
  simp only [hguid, hdisc, htype, htopic, Option.bind_eq_bind, Option.bind_some]
  rfl

theorem readParticipantItem_writeParticipantItem (it : ParticipantDiscoveryItem) :
    readParticipantItem f startup (writeParticipantItem f s owner it) =
      some (reloadItem s startup owner it, itemShown s owner it) := by
  have hguid : readGuid f (writeParticipantItem f s owner it) = some it.endpointGuid := by
    refine readGuid_of_attributeValue hf ?_ ?_ <;>
      simp [writeParticipantItem, setDuration, setGuid]
  have hdisc : readDuration f (writeParticipantItem f s owner it) "discovered_timestamp" =
      milliseconds (toMilliseconds (it.discoveredTimestamp - s.processStartup)) :=
    readDuration_of_attributeValue hf (by simp [writeParticipantItem, setDuration])
  have hname : (writeParticipantItem f s owner it).attributeValue "name" =
      some it.participantName := by
    simp [writeParticipantItem, setDuration, setGuid]
  have hserver : (writeParticipantItem f s owner it).attributeValue "server" =
      some (f.xml.boolToStr it.isServer) := by
    simp [writeParticipantItem, setDuration, setGuid]
  have halive : (writeParticipantItem f s owner it).attributeValue "alive" =
      some (f.xml.boolToStr it.isAlive) := by
    simp [writeParticipantItem, setDuration, setGuid]
  unfold readParticipantItem XMLElement.boolAttribute XMLElement.queryBoolAttribute
  simp only [hguid, hdisc, hname, subscribers_writeParticipantItem, publishers_writeParticipantItem,
    Option.bind_eq_bind, Option.bind_some,
    XMLElement.query_eq_of_attributeValue _ hserver (hf.xml.bool _),
    XMLElement.query_eq_of_attributeValue _ halive (hf.xml.bool _),
    insertEach_write (readDataReader_writeDataReader hf s startup owner) (fun _ => rfl),
    insertEach_write (readDataWriter_writeDataWriter hf s startup) (fun _ => rfl)]
  simp [reloadItem, itemShown, rebase]

theorem readDatabase_writeDatabase (d : ParticipantDiscoveryDatabase) :
    readDatabase f startup (writeDatabase f s d) =
      some (reloadDatabase s startup d, databaseShown s d) := by
  have hguid : readGuid f (writeDatabase f s d) = some d.endpointGuid := by
    refine readGuid_of_attributeValue hf ?_ ?_ <;> simp [writeDatabase, setGuid]
  unfold readDatabase
  simp only [hguid, items_writeDatabase, Option.bind_eq_bind, Option.bind_some,
    insertEach_write (readParticipantItem_writeParticipantItem hf s startup d.endpointGuid)
      (fun _ => rfl)]
  simp [reloadDatabase, databaseShown]

end Levels

/-- **Loading what was saved.** -/
theorem fromXml_toXml {f : TextFormat} (hf : f.Lossless) (writer reader : ProcessClock)
    (s : Snapshot) (hdes : s.des ≠ "") (name : String) :
    Snapshot.fromXml f reader (.default reader) (some (s.toXml f writer (.new name))) =
      some (reload writer reader s) := by
  have hduration : ∀ (m : String) (d : Int),
      (s.toXml f writer (.new name)).attributeValue m =
        some (f.xml.int64ToStr (toMilliseconds d)) →
      readDuration f (s.toXml f writer (.new name)) m = milliseconds (toMilliseconds d) :=
    fun m d h => readDuration_of_attributeValue hf h
  have htime := hduration "timestamp" (writer.getSystemTime s.time)
    (by simp [Snapshot.toXml, setDuration])
  have hprocess := hduration "process_time" (s.time - s.processStartup)
    (by simp [Snapshot.toXml, setDuration])
  have hpdp := hduration "last_pdp_callback_time" (s.lastPDPCallback - s.processStartup)
    (by simp [Snapshot.toXml, setDuration])
  have hedp := hduration "last_edp_callback_time" (s.lastEDPCallback - s.processStartup)
    (by simp [Snapshot.toXml, setDuration])
  have hsomeone : (s.toXml f writer (.new name)).attributeValue "someone" =
      some (f.xml.boolToStr s.ifSomeone) := by
    simp [Snapshot.toXml, setDuration]
  have hdescription : (s.toXml f writer (.new name)).firstChildElement "description" =
      some ((XMLElement.new "description").setText s.des) := by
    unfold XMLElement.firstChildElement
    rw [children_toXml]
    exact List.find?_cons_of_pos rfl
  unfold Snapshot.fromXml XMLElement.boolAttribute
  simp only [htime, hprocess, hpdp, hedp, hdescription, databases_toXml,
    XMLElement.getText_setText _ hdes, Option.bind_eq_bind, Option.bind_some,
    XMLElement.query_eq_of_attributeValue _ hsomeone (hf.xml.bool _), Snapshot.default]
  have hreload := insertEach_write (readDatabase_writeDatabase hf s (reloadStartup writer reader s))
    (fun _ => rfl) s.databases false
  unfold reloadStartup reloadTime at hreload
  rw [hreload]
  simp [reload, reloadStartup, reloadTime, rebase]

/-! ## What survives -/

/-- What is kept of an endpoint, times measured by `clock`. -/
structure EndPointContent where
  info : EndPointInfo
  discovered : Int
deriving DecidableEq

/-- What is kept of a participant item. -/
structure ItemContent where
  guid : Guid
  isServer : Bool
  isAlive : Bool
  participantName : String
  discovered : Int
  readers : List EndPointContent
  writers : List EndPointContent
deriving DecidableEq

def ParticipantDiscoveryItem.content (clock : TimePoint → Int) (it : ParticipantDiscoveryItem) :
    ItemContent where
  guid := it.endpointGuid
  isServer := it.isServer
  isAlive := it.isAlive
  participantName := it.participantName
  discovered := clock it.discoveredTimestamp
  readers := it.datareaders.toList.map fun r => ⟨r.info, clock r.discoveredTimestamp⟩
  writers := it.datawriters.toList.map fun w => ⟨w.info, clock w.discoveredTimestamp⟩

/-- The databases by GUID, the items in them, and their readers and writers. -/
def Snapshot.content (clock : TimePoint → Int) (shot : Snapshot) : List (Guid × List ItemContent) :=
  shot.databases.toList.map fun d => (d.endpointGuid, d.items.toList.map (·.content clock))

/-- What the comparison reads of an item. -/
def ItemContent.info (c : ItemContent) : ParticipantDiscoveryItem.Info where
  guid := c.guid
  writers := c.writers.map (·.info)
  readers := c.readers.map (·.info)

/-- What a database with this content knows. -/
def knownOf (c : List ItemContent) : Knowledge := lookup ((c.filter (·.isAlive)).map (·.info))

theorem knownOf_content (clock : TimePoint → Int) (d : ParticipantDiscoveryDatabase) :
    knownOf (d.items.toList.map (·.content clock)) = d.known := by
  have hinfo : ∀ it : ParticipantDiscoveryItem, (it.content clock).info = it.info := by
    intro it
    simp [ItemContent.info, ParticipantDiscoveryItem.content, ParticipantDiscoveryItem.info,
      Function.comp_def]
  funext c
  rw [← d.lookup_live_sbegin c]
  unfold knownOf ParticipantDiscoveryDatabase.sbegin
  rw [live_skipZombies]
  unfold live
  rw [List.filter_map, List.map_map]
  simp only [Function.comp_def, hinfo]
  rfl

/-- **The verdict reads the content alone**, whatever clock measures the times. -/
theorem allKnowEachOther_congr {s t : Snapshot} {clock clock' : TimePoint → Int}
    (hcontent : s.content clock = t.content clock') (hsomeone : s.ifSomeone = t.ifSomeone) :
    s.allKnowEachOther = t.allKnowEachOther := by
  have hguard : ∀ (s : Snapshot) clock, s.SomeoneThere ↔
      s.ifSomeone = false ∨ ∃ c, (s.content clock).head? = some c ∧ c.2 ≠ [] := by
    intro s clock
    unfold Snapshot.SomeoneThere Snapshot.content
    simp
  have hchain : ∀ (s : Snapshot) clock, s.NextEqual ↔ (s.content clock).IsChain fun c d =>
      Agree c.1 d.1 (knownOf c.2) (knownOf d.2) := by
    intro s clock
    unfold Snapshot.content
    rw [List.isChain_map, s.isChain_iff_next]
    simp only [knownOf_content]
    exact forall_congr' fun p => forall_congr' fun q => forall_congr' fun hpq =>
      ParticipantDiscoveryDatabase.equal_iff hpq.lt
  rw [Bool.eq_iff_iff, s.allKnowEachOther_iff, t.allKnowEachOther_iff, hguard s clock,
    hguard t clock', hchain s clock, hchain t clock', hcontent, hsomeone]

/-- A time since the process start, in whole milliseconds. -/
def Snapshot.sinceStartup (shot : Snapshot) (tp : TimePoint) : Int :=
  milliseconds (toMilliseconds (tp - shot.processStartup))

theorem reload_content (writer reader : ProcessClock) (s : Snapshot) :
    (reload writer reader s).content (· - (reload writer reader s).processStartup) =
      s.content s.sinceStartup := by
  have hrebase : ∀ startup tp, rebase s startup tp - startup = s.sinceStartup tp := by
    intro startup tp
    exact add_sub_cancel_left startup _
  simp [Snapshot.content, reload, reloadDatabase, reloadItem, reloadDataReader, reloadDataWriter,
    OrdSet.mapValues, ParticipantDiscoveryItem.content, DataReaderDiscoveryItem.info,
    DataWriterDiscoveryItem.info, hrebase]

/-! ### A text format -/

/-- The number a decimal string spells. -/
def readDecimal (s : String) : Int :=
  match s.toList with
  | '-' :: digits => -(Nat.ofDigitChars 10 digits 0 : Int)
  | digits => Nat.ofDigitChars 10 digits 0

/-- Decimal numbers, and the printed forms of the GUID parts in the samples below. -/
def sampleFormat : TextFormat where
  xml :=
    { int64ToStr := Int.repr
      toInt64 := fun s => some (readDecimal s)
      intToStr := Int.repr
      toInt := fun s => some (readDecimal s)
      boolToStr := fun b => if b then "true" else "false"
      toBool := fun s =>
        if s = "true" then some true else if s = "false" then some false else none }
  prefixToStr p := if p = 1 then "00.00.00.00.00.00.00.00.00.00.00.01" else p.toNat.repr
  strToPrefix s := if s = "00.00.00.00.00.00.00.00.00.00.00.01" then 1
    else .ofInt 96 (readDecimal s)
  entityIdToStr e := if e = Guid.cEntityIdRTPSParticipant then "0.0.1.c1" else e.toNat.repr
  strToEntityId s := if s = "0.0.1.c1" then Guid.cEntityIdRTPSParticipant
    else .ofInt 32 (readDecimal s)

theorem isDigit_of_mem_repr {n : Nat} {c : Char} (h : c ∈ n.repr.toList) : c.isDigit := by
  rw [Nat.toList_repr] at h
  exact Nat.isDigit_of_mem_toDigits (by omega) (by omega) h

theorem repr_ne_of_dot {s : String} (h : '.' ∈ s.toList) (n : Nat) : n.repr ≠ s := by
  intro hs
  exact absurd (isDigit_of_mem_repr (hs ▸ h)) (by decide)

theorem readDecimal_repr (n : Nat) : readDecimal n.repr = n := by
  unfold readDecimal
  split
  · -- a digit is no sign
    rename_i digits hlist
    exact absurd (isDigit_of_mem_repr (hlist ▸ List.mem_cons_self)) (by decide)
  · rw [Nat.toList_repr, Nat.ofDigitChars_toDigits (by omega) (by omega)]

theorem readDecimal_intRepr (v : Int) : readDecimal v.repr = v := by
  cases v with
  | ofNat n => exact readDecimal_repr n
  | negSucc n =>
    have hlist : (Int.negSucc n).repr.toList = '-' :: Nat.toDigits 10 (n + 1) := by
      show ("-" ++ (n + 1).repr).toList = _
      simp
    simp only [readDecimal, hlist, Nat.ofDigitChars_toDigits (b := 10) (by omega) (by omega)]
    rfl

theorem sampleFormat_lossless : sampleFormat.Lossless where
  xml :=
    { int64 := fun v => congrArg some (readDecimal_intRepr v)
      int := fun v => congrArg some (readDecimal_intRepr v)
      bool := fun v => by cases v <;> rfl }
  guidPrefix p := by
    by_cases hp : p = 1
    · simp [sampleFormat, hp]
    · have hdot : p.toNat.repr ≠ "00.00.00.00.00.00.00.00.00.00.00.01" :=
        repr_ne_of_dot (by decide) _
      simp only [sampleFormat, if_neg hp, if_neg hdot, readDecimal_repr]
      simp
  entityId e := by
    by_cases he : e = Guid.cEntityIdRTPSParticipant
    · simp [sampleFormat, he]
    · have hdot : e.toNat.repr ≠ "0.0.1.c1" := repr_ne_of_dot (by decide) _
      simp only [sampleFormat, if_neg he, if_neg hdot, readDecimal_repr]
      simp

/-- Participant 1, which has discovered itself, in a database of the given name. -/
def sampleSnapshot (name : String) : Snapshot :=
  { Snapshot.ofDatabases
      [{ Snapshot.discoverer (.ofPrefix 1) [.ofPrefix 1] with participantName := name }] with
    des := "sample" }

/-- **Saving and loading preserves content and verdict.** The loaded snapshot has
the same databases, items, readers and writers, description and `if_someone`;
all its times, counted from its process start, are those of the saved one in
whole milliseconds; and it gets the same verdict. -/
theorem load_save_preserves {f : TextFormat} (hf : f.Lossless) (writer reader : ProcessClock)
    (s : Snapshot) (hdes : s.des ≠ "") (name : String) :
    ∃ t, Snapshot.fromXml f reader (.default reader) (some (s.toXml f writer (.new name))) =
        some t ∧
      t.content (· - t.processStartup) = s.content s.sinceStartup ∧
      t.des = s.des ∧ t.ifSomeone = s.ifSomeone ∧
      t.time - t.processStartup = s.sinceStartup s.time ∧
      t.lastPDPCallback - t.processStartup = s.sinceStartup s.lastPDPCallback ∧
      t.lastEDPCallback - t.processStartup = s.sinceStartup s.lastEDPCallback ∧
      t.allKnowEachOther = s.allKnowEachOther := by
  have hcontent := reload_content writer reader s
  refine ⟨reload writer reader s, fromXml_toXml hf writer reader s hdes name, hcontent, rfl, rfl,
    ?_, add_sub_cancel_left _ _, add_sub_cancel_left _ _, allKnowEachOther_congr hcontent rfl⟩
  exact sub_sub_cancel _ _

/-- Participant `id` with a data writer and a data reader, as it was discovered. -/
def recordedItem (id : GuidPrefix) : ParticipantDiscoveryItem where
  endpointGuid := .ofPrefix id
  isServer := false
  isAlive := true
  participantName := "client"
  discoveredTimestamp := 4100000321
  datawriters :=
    (∅ : OrdSet _ _).insert ⟨⟨id, 3⟩, "HelloWorld", "HelloWorldTopic", 4200000456⟩
  datareaders :=
    (∅ : OrdSet _ _).insert ⟨⟨id, 4⟩, "HelloWorld", "HelloWorldTopic", 4200000789, 2, 1⟩

/-- Two spokesmen that have discovered each other, in nanoseconds. -/
def recordedSnapshot : Snapshot :=
  let database (id : GuidPrefix) : ParticipantDiscoveryDatabase :=
    ⟨.ofPrefix id, "client", (∅ : OrdSet _ _).insertAll [recordedItem 1, recordedItem 2]⟩
  { databases := (∅ : OrdSet _ _).insertAll [database 1, database 2]
    processStartup := 4000000111
    time := 5000000222
    lastPDPCallback := 4100000333
    lastEDPCallback := 4200000999
    ifSomeone := true
    showLiveliness := true
    des := "recorded" }

theorem load_save_preserves_sample :
    ∃ t, Snapshot.fromXml sampleFormat ⟨9, 4⟩ (.default ⟨9, 4⟩)
        (some (recordedSnapshot.toXml sampleFormat ⟨5, 2⟩ (.new "DS_Snapshot"))) = some t ∧
      t.content (· - t.processStartup) = recordedSnapshot.content recordedSnapshot.sinceStartup ∧
      t.des = recordedSnapshot.des ∧ t.ifSomeone = recordedSnapshot.ifSomeone ∧
      t.time - t.processStartup = recordedSnapshot.sinceStartup recordedSnapshot.time ∧
      t.lastPDPCallback - t.processStartup =
        recordedSnapshot.sinceStartup recordedSnapshot.lastPDPCallback ∧
      t.lastEDPCallback - t.processStartup =
        recordedSnapshot.sinceStartup recordedSnapshot.lastEDPCallback ∧
      t.allKnowEachOther = recordedSnapshot.allKnowEachOther :=
  load_save_preserves sampleFormat_lossless ⟨5, 2⟩ ⟨9, 4⟩ recordedSnapshot (by decide)
    "DS_Snapshot"

/-! ## Saving again -/

section Resave

variable {f : TextFormat} {s t : Snapshot}

theorem toMilliseconds_rebase (startup tp : TimePoint) :
    toMilliseconds (rebase s startup tp - startup) = toMilliseconds (tp - s.processStartup) := by
  have hsub : rebase s startup tp - startup =
      milliseconds (toMilliseconds (tp - s.processStartup)) := add_sub_cancel_left startup _
  rw [hsub, toMilliseconds_milliseconds]

/-- Without liveliness info a loaded item is written as it was read. -/
theorem writeParticipantItem_reloadItem (hs : s.showLiveliness = false)
    (ht : t.showLiveliness = false) (owner : Guid) (it : ParticipantDiscoveryItem) :
    writeParticipantItem f t owner (reloadItem s t.processStartup owner it) =
      writeParticipantItem f s owner it := by
  have hsub : ∀ sub, writeDataReader f t owner (reloadDataReader s t.processStartup owner sub) =
      writeDataReader f s owner sub := by
    intro sub
    simp [writeDataReader, reloadDataReader, hs, ht, setDuration, toMilliseconds_rebase]
  have hpub : ∀ pub, writeDataWriter f t (reloadDataWriter s t.processStartup pub) =
      writeDataWriter f s pub := by
    intro pub
    simp [writeDataWriter, reloadDataWriter, setDuration, toMilliseconds_rebase]
  simp [writeParticipantItem, reloadItem, setDuration, toMilliseconds_rebase, OrdSet.mapValues,
    hsub, hpub, Function.comp_def]

/-- A loaded database is written as it was read exactly when it had no name. -/
theorem writeDatabase_reloadDatabase (hs : s.showLiveliness = false) (ht : t.showLiveliness = false)
    (d : ParticipantDiscoveryDatabase) :
    writeDatabase f t (reloadDatabase s t.processStartup d) = writeDatabase f s d ↔
      d.participantName = "" := by
  have hitems : (reloadDatabase s t.processStartup d).items.toList.map
      (writeParticipantItem f t d.endpointGuid) =
        d.items.toList.map (writeParticipantItem f s d.endpointGuid) := by
    simp [reloadDatabase, OrdSet.mapValues, writeParticipantItem_reloadItem hs ht,
      Function.comp_def]
  constructor
  · intro h
    have hname := congrArg (·.attributeValue "name") h
    simpa [writeDatabase, setGuid, reloadDatabase] using hname.symm
  · intro h
    unfold writeDatabase
    dsimp only
    rw [h, ← hitems]
    rfl

theorem reload_showLiveliness (hs : s.showLiveliness = false) (writer reader : ProcessClock) :
    (reload writer reader s).showLiveliness = false := by
  simp [reload, databaseShown, itemShown, shown, hs]

theorem toXml_reload_iff (hs : s.showLiveliness = false) (writer reader : ProcessClock)
    (name : String) :
    (reload writer reader s).toXml f reader (.new name) = s.toXml f writer (.new name) ↔
      ∀ d ∈ s.databases, d.participantName = "" := by
  have ht := reload_showLiveliness hs writer reader
  have hdatabase := fun d => writeDatabase_reloadDatabase (f := f) hs ht d
  -- the attributes of the root are the same
  have htime : toMilliseconds (reader.getSystemTime (reload writer reader s).time) =
      toMilliseconds (writer.getSystemTime s.time) := by
    have hsystem : reader.getSystemTime (reload writer reader s).time =
        milliseconds (toMilliseconds (writer.getSystemTime s.time)) := by
      have hcancel : ∀ a b c : Int, a + (b - a + c - c) = b := by
        intro a b c
        omega
      exact hcancel reader.system _ reader.steady
    rw [hsystem, toMilliseconds_milliseconds]
  have hprocess : toMilliseconds ((reload writer reader s).time -
      (reload writer reader s).processStartup) = toMilliseconds (s.time - s.processStartup) := by
    have hsub : (reload writer reader s).time - (reload writer reader s).processStartup =
        milliseconds (toMilliseconds (s.time - s.processStartup)) := sub_sub_cancel _ _
    rw [hsub, toMilliseconds_milliseconds]
  have hpdp : toMilliseconds ((reload writer reader s).lastPDPCallback -
      (reload writer reader s).processStartup) =
        toMilliseconds (s.lastPDPCallback - s.processStartup) := toMilliseconds_rebase _ _
  have hedp : toMilliseconds ((reload writer reader s).lastEDPCallback -
      (reload writer reader s).processStartup) =
        toMilliseconds (s.lastEDPCallback - s.processStartup) := toMilliseconds_rebase _ _
  have hchildren : (reload writer reader s).databases.toList.map
      (writeDatabase f (reload writer reader s)) =
        s.databases.toList.map fun d => writeDatabase f (reload writer reader s)
          (reloadDatabase s (reload writer reader s).processStartup d) :=
    List.map_map
  -- so the elements differ in the databases only
  have hdatabases : (reload writer reader s).toXml f reader (.new name) =
        s.toXml f writer (.new name) ↔
      (reload writer reader s).databases.toList.map (writeDatabase f (reload writer reader s)) =
        s.databases.toList.map (writeDatabase f s) := by
    unfold Snapshot.toXml setDuration
    dsimp only
    rw [htime, hprocess, hpdp, hedp]
    constructor
    · intro h
      have hl := congrArg XMLElement.children h
      simp only [XMLElement.children_insertEndChildren, XMLElement.children_insertEndChild,
        XMLElement.children_setAttribute, XMLElement.children_new] at hl
      exact (List.append_cancel_left hl)
    · intro h
      rw [h]
      rfl
  rw [hdatabases, hchildren, List.map_inj_left]
  exact forall_congr' fun d => imp_congr_right fun _ => hdatabase d

end Resave

/-- **Saving a loaded snapshot.** Without liveliness info, the element written,
read and written again is the first one exactly when no database has a name. -/
theorem resave_iff {f : TextFormat} (hf : f.Lossless) (writer reader : ProcessClock) (s : Snapshot)
    (hshow : s.showLiveliness = false) (hdes : s.des ≠ "") (name : String) :
    (Snapshot.fromXml f reader (.default reader) (some (s.toXml f writer (.new name)))).map
        (fun t => t.toXml f reader (.new name)) = some (s.toXml f writer (.new name)) ↔
      ∀ d ∈ s.databases, d.participantName = "" := by
  rw [fromXml_toXml hf writer reader s hdes name, Option.map_some, Option.some.injEq]
  exact toXml_reload_iff hshow writer reader name

theorem resave_iff_sample :
    (Snapshot.fromXml sampleFormat ⟨9, 4⟩ (.default ⟨9, 4⟩)
        (some ((sampleSnapshot "").toXml sampleFormat ⟨5, 2⟩ (.new "DS_Snapshot")))).map
        (fun t => t.toXml sampleFormat ⟨9, 4⟩ (.new "DS_Snapshot")) =
      some ((sampleSnapshot "").toXml sampleFormat ⟨5, 2⟩ (.new "DS_Snapshot")) ↔
      ∀ d ∈ (sampleSnapshot "").databases, d.participantName = "" :=
  resave_iff sampleFormat_lossless ⟨5, 2⟩ ⟨9, 4⟩ (sampleSnapshot "") (by decide) (by decide)
    "DS_Snapshot"

/-- The name of the database is lost. -/
theorem resave_loses_name : ¬ ∀ f : TextFormat, f.Lossless →
    ∀ (writer reader : ProcessClock) (s : Snapshot), s.showLiveliness = false → s.des ≠ "" →
      (Snapshot.fromXml f reader (.default reader)
          (some (s.toXml f writer (.new "DS_Snapshot")))).map
          (fun t => t.toXml f reader (.new "DS_Snapshot")) =
        some (s.toXml f writer (.new "DS_Snapshot")) := by
  intro h
  have hdes : (sampleSnapshot "one").des ≠ "" := by decide
  have hsame := h sampleFormat sampleFormat_lossless ⟨0, 0⟩ ⟨0, 0⟩ (sampleSnapshot "one") rfl hdes
  rw [fromXml_toXml sampleFormat_lossless _ _ _ hdes, Option.map_some, Option.some.injEq,
    toXml_reload_iff rfl] at hsame
  exact absurd (hsame _ (List.mem_cons_self)) (by decide)

end DiscoveryServer
