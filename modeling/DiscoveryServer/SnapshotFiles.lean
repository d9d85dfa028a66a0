import DiscoveryServer.Manager
import DiscoveryServer.SnapshotXml
import DiscoveryServer.Validation

/-!
# Snapshot files

`loadSnapshots` and the validation of the snapshots a manager holds. The first
file fills the list of snapshots; a further one is merged into it, position by
position (`Snapshot.merge`). A snapshot whose reading is undefined leaves the
loading undefined. `saveSnapshots` gives the document that is written.
-/

namespace DiscoveryServer

open Library

/-- What the program finds around it: the files, the two clock readings it starts
with, and how values are written as text. -/
structure Host where
  format : TextFormat
  clock : ProcessClock
  /-- `LoadFile`, nothing if it fails. -/
  loadFile : String → Option XMLDocument

namespace Snapshot

/-- `operator +=`. -/
def merge (s sh : Snapshot) : Snapshot where
  databases := s.databases.insertAll sh.databases.toList
  processStartup := s.processStartup
  time := s.time
  -- we keep the later last call in the merging
  lastPDPCallback :=
    if s.lastPDPCallback - s.processStartup < sh.lastPDPCallback - sh.processStartup then
      sh.lastPDPCallback
    else s.lastPDPCallback
  lastEDPCallback :=
    if s.lastEDPCallback - s.processStartup < sh.lastEDPCallback - sh.processStartup then
      sh.lastEDPCallback
    else s.lastEDPCallback
  ifSomeone := s.ifSomeone && sh.ifSomeone
  showLiveliness := s.showLiveliness || sh.showLiveliness
  des := s.des

/-- `Snapshot sh; sh.from_xml(pSh);` -/
def load (host : Host) (pSh : XMLElement) : Option Snapshot :=
  fromXml host.format host.clock (.default host.clock) (some pSh)

/-- The snapshots of a file, as the loop of `loadSnapshots` appends them. -/
def loadAll (host : Host) : List XMLElement → Option (List Snapshot)
  | [] => some []
  | pSh :: rest =>
    match load host pSh with
    | none => none
    | some sh => (loadAll host rest).map fun shots => sh :: shots

/-- The snapshots of a further file, added to the ones there are. -/
def mergeAll (host : Host) : List Snapshot → List XMLElement → Option (List Snapshot)
  | shots, [] => some shots
  | shots, pSh :: rest =>
    match load host pSh with
    | none => none
    | some sh =>
      match shots with
      | [] => some [] -- number of snapshots doesn't match
      | s :: shots => (mergeAll host shots rest).map fun merged => s.merge sh :: merged

end Snapshot

namespace DiscoveryServerManager

/-- `loadSnapshots`. -/
def loadSnapshots (host : Host) (m : DiscoveryServerManager) (file : String) :
    Option (DiscoveryServerManager × Bool) :=
  match host.loadFile file with
  | none => some (m, false)
  | some xmlDoc =>
    match xmlDoc.firstChildElement "DS_Snapshots" with
    | none => some (m, false)
    | some pRoot =>
      let elements := pRoot.childElements "DS_Snapshot"
      let shots :=
        if m.snapshots.isEmpty then Snapshot.loadAll host elements
        else Snapshot.mergeAll host m.snapshots elements
      shots.map fun shots => ({ m with snapshots := shots }, true)

/-- `saveSnapshots`: the document that is saved. -/
def saveSnapshots (host : Host) (m : DiscoveryServerManager) : XMLDocument :=
  let pRoot := XMLElement.new "DS_Snapshots"
  -- add the specific schema
  let pRoot := pRoot.setAttribute "xmlns" "http://www.eprosima.com/XMLSchemas/ds-snapshot"
  let pRoot := pRoot.insertEndChildren
    (m.snapshots.map fun sh => sh.toXml host.format host.clock (.new "DS_Snapshot"))
  ⟨[pRoot]⟩

def shouldValidate (m : DiscoveryServerManager) : Bool := m.validate && !m.snapshots.isEmpty

/-- `validateAllSnapshots`: the loop does not stop at a failure. -/
def validateAllSnapshots (m : DiscoveryServerManager) : Bool :=
  m.snapshots.foldl (fun workItAll sh => if sh.allKnowEachOther then workItAll else false) true

def successMessage (m : DiscoveryServerManager) : String :=
  if m.snapshots.isEmpty then "Discovery Server run succeeded!"
  else "Output file validation succeeded!"

theorem validateAllSnapshots_iff (m : DiscoveryServerManager) :
    m.validateAllSnapshots = true ↔ ∀ sh ∈ m.snapshots, sh.allKnowEachOther = true := by
  have hfold : ∀ (l : List Snapshot) (workItAll : Bool),
      l.foldl (fun workItAll sh => if sh.allKnowEachOther then workItAll else false) workItAll =
        true ↔ workItAll = true ∧ ∀ sh ∈ l, sh.allKnowEachOther = true := by
    intro l
    induction l with
    | nil => simp
    | cons sh l ih =>
      intro workItAll
      rw [List.foldl_cons, ih, List.forall_mem_cons]
      cases sh.allKnowEachOther <;> simp
  unfold validateAllSnapshots
  rw [hfold, and_iff_right rfl]

end DiscoveryServerManager

end DiscoveryServer
