import DiscoveryServer.Configuration
import DiscoveryServer.Main

/-!
# Constructing the manager

`DiscoveryServerManager::DiscoveryServerManager` for a configuration: what it reads
in each `DS` element, and the two places where it returns without having been
correctly created. `Environment.setup` is what `main` makes of it.

The constructor is a sequence of small steps (`ConfigItem`), one for each element it
visits: `loadDS_eq` unrolls its loops, and what is proved about the constructor is
proved one item at a time.
-/

namespace DiscoveryServer

open Library

/-- Why a constructor stops before its end. -/
inductive Stop where
  | fault (fault : Fault)
  | returned (l : Loading)

/-- A loader in the constructor: nothing catches a fault. -/
def Stop.lift (x : Except Fault Loading) : Except Stop Loading :=
  match x with
  | .ok l => .ok l
  | .error f => .error (.fault f)

namespace Environment

variable (env : Environment)

/-- The servers, in two passes: first each server is mapped with its locators, then
the servers are created. -/
def loadServers (l : Loading) (child : XMLElement) : Except Stop Loading :=
  match child.firstChildElement "servers" with
  | some servers => do
    let l ← (servers.childElements "server").foldlM
      (fun l server => Stop.lift (env.mapServerInfo l server)) l
    (servers.childElements "server").foldlM
      (fun l server => Stop.lift (env.loadServer l server)) l
  | none =>
    if !l.manager.autoShutdown then .error (.returned (l.logError "No servers found!"))
    else .ok l

/-- Clients have only testing purposes. -/
def loadClients (l : Loading) (child : XMLElement) : Except Stop Loading :=
  match child.firstChildElement "clients" with
  | some clients => (clients.childElements "client").foldlM
      (fun l client => Stop.lift (env.loadClient l client)) l
  | none => .ok l

/-- So have simples. -/
def loadSimples (l : Loading) (child : XMLElement) : Except Stop Loading :=
  match child.firstChildElement "simples" with
  | some simples => (simples.childElements "simple").foldlM
      (fun l simple => Stop.lift (env.loadSimple l simple)) l
  | none => .ok l

/-- The attribute `file` of the snapshots: with an output file nothing is validated. -/
def loadSnapshotsFile (l : Loading) (snapshots : XMLElement) : Loading :=
  match snapshots.attributeValue "file" with
  | some file => l.withManager { l.manager with snapshotsOutputFile := file, validate := false }
  | none => l

/-- The snapshot events. -/
def loadSnapshotEvents (l : Loading) (child : XMLElement) : Except Stop Loading :=
  match child.firstChildElement "snapshots" with
  | some snapshots => (snapshots.childElements "snapshot").foldlM
      (fun l snapshot => Stop.lift (env.loadSnapshot l snapshot)) (loadSnapshotsFile l snapshots)
  | none => .ok l

/-- The environment changes, which need a file to be written to. -/
def loadEnvironment (l : Loading) (child : XMLElement) : Except Stop Loading :=
  match child.firstChildElement "environment" with
  | some environment =>
    if env.environmentFile then
      (environment.childElements "change").foldlM
        (fun l change => Stop.lift (env.loadEnvironmentChange l change)) l
    else .error (.returned (l.logError "Empty FASTDDS_ENVIRONMENT_FILE variable"))
  | none => .ok l

/-- What the constructor does for one `DS` element. -/
def loadDS (l : Loading) (child : XMLElement) : Except Stop Loading := do
  let l := match child.firstChildElement "profiles" with
    | some profiles => env.loadProfiles l profiles
    | none => l
  let l ← env.loadServers l child
  let l ← env.loadClients l child
  let l ← env.loadSimples l child
  let l ← env.loadSnapshotEvents l child
  env.loadEnvironment l child

/-- The manager when the loops start: configurations are validated, and the
attributes of the root are read. -/
def initial (sharedMemoryOff : Bool) (root : XMLElement) (w : World) : Loading :=
  let m := w.manager
  { world := w.withManager { m with
      validate := true
      autoShutdown := !root.boolAttribute env.format.xml "user_shutdown" (!m.autoShutdown) }
    profiles := []
    topicDescriptionProfilesMap := fun _ => none
    serverLocators := ∅
    descriptors := env.descriptors
    enablePrefixValidation := root.boolAttribute env.format.xml "prefix_validation" true
    sharedMemoryOff := sharedMemoryOff
    errors := [] }

/-- The constructor for a document with a `DS` root. -/
def loadConfig (sharedMemoryOff : Bool) (doc : XMLDocument) (root : XMLElement) (w : World) :
    Except Stop Loading :=
  (doc.childElements "DS").foldlM env.loadDS (env.initial sharedMemoryOff root w)

/-- What `main` sees: the manager, and whether the constructor has got to its end. -/
def setup (sort : ∀ events, Arrangement events) (reply : EventPtr → Reply) : Setup where
  sort := sort
  reply := reply
  loadConfig sharedMemoryOff doc w :=
    (doc.firstChildElement "DS").bind fun root =>
      match env.loadConfig sharedMemoryOff doc root w with
      | .ok l => some (l.world, true)
      | .error (.returned l) => some (l.world, false)
      | .error (.fault _) => none

end Environment

/-! ## Item by item -/

/-- What the constructor visits. -/
inductive ConfigItem where
  | profiles (e : XMLElement)
  | locators (server : XMLElement)
  | server (e : XMLElement)
  /-- There is no `servers` element. -/
  | noServers
  | client (e : XMLElement)
  | simple (e : XMLElement)
  | snapshots (e : XMLElement)
  | snapshot (e : XMLElement)
  /-- The `environment` element. -/
  | environment
  | change (e : XMLElement)

namespace Environment

variable (env : Environment)

/-- The step of the constructor for an item. -/
def loadItem (l : Loading) : ConfigItem → Except Stop Loading
  | .profiles e => .ok (env.loadProfiles l e)
  | .locators server => Stop.lift (env.mapServerInfo l server)
  | .server e => Stop.lift (env.loadServer l e)
  | .noServers =>
    if !l.manager.autoShutdown then .error (.returned (l.logError "No servers found!"))
    else .ok l
  | .client e => Stop.lift (env.loadClient l e)
  | .simple e => Stop.lift (env.loadSimple l e)
  | .snapshots e => .ok (loadSnapshotsFile l e)
  | .snapshot e => Stop.lift (env.loadSnapshot l e)
  | .environment =>
    if env.environmentFile then .ok l
    else .error (.returned (l.logError "Empty FASTDDS_ENVIRONMENT_FILE variable"))
  | .change e => Stop.lift (env.loadEnvironmentChange l e)

end Environment

namespace ConfigItem

def ofServers (child : XMLElement) : List ConfigItem :=
  match child.firstChildElement "servers" with
  | some servers =>
    (servers.childElements "server").map locators ++ (servers.childElements "server").map server
  | none => [noServers]

def ofClients (child : XMLElement) : List ConfigItem :=
  match child.firstChildElement "clients" with
  | some clients => (clients.childElements "client").map client
  | none => []

def ofSimples (child : XMLElement) : List ConfigItem :=
  match child.firstChildElement "simples" with
  | some simples => (simples.childElements "simple").map simple
  | none => []

def ofSnapshots (child : XMLElement) : List ConfigItem :=
  match child.firstChildElement "snapshots" with
  | some e => snapshots e :: (e.childElements "snapshot").map snapshot
  | none => []

def ofEnvironment (child : XMLElement) : List ConfigItem :=
  match child.firstChildElement "environment" with
  | some e => environment :: (e.childElements "change").map change
  | none => []

/-- The items of a `DS` element, in the order they are visited. -/
def ofDS (child : XMLElement) : List ConfigItem :=
  ((child.firstChildElement "profiles").toList.map profiles) ++ ofServers child ++
    ofClients child ++ ofSimples child ++ ofSnapshots child ++ ofEnvironment child

/-- The items of a document. -/
def ofDocument (doc : XMLDocument) : List ConfigItem := (doc.childElements "DS").flatMap ofDS

end ConfigItem

namespace Environment

variable (env : Environment) (l : Loading) (child : XMLElement)

theorem loadServers_eq :
    env.loadServers l child = (ConfigItem.ofServers child).foldlM env.loadItem l := by
  unfold loadServers ConfigItem.ofServers
  cases child.firstChildElement "servers" with
  | none =>
    show (if _ then _ else _) = ((if _ then _ else _) >>= fun l => pure l)
    rw [bind_pure]
  | some servers =>
    dsimp only
    rw [List.foldlM_append]
    simp only [List.foldlM_map, loadItem]

theorem loadClients_eq :
    env.loadClients l child = (ConfigItem.ofClients child).foldlM env.loadItem l := by
  unfold loadClients ConfigItem.ofClients
  cases child.firstChildElement "clients" with
  | none => rfl
  | some clients => simp only [List.foldlM_map, loadItem]

theorem loadSimples_eq :
    env.loadSimples l child = (ConfigItem.ofSimples child).foldlM env.loadItem l := by
  unfold loadSimples ConfigItem.ofSimples
  cases child.firstChildElement "simples" with
  | none => rfl
  | some simples => simp only [List.foldlM_map, loadItem]

theorem loadSnapshotEvents_eq :
    env.loadSnapshotEvents l child = (ConfigItem.ofSnapshots child).foldlM env.loadItem l := by
  unfold loadSnapshotEvents ConfigItem.ofSnapshots
  cases child.firstChildElement "snapshots" with
  | none => rfl
  | some snapshots =>
    simp only [List.foldlM_cons, List.foldlM_map, loadItem]
    rfl

theorem loadEnvironment_eq :
    env.loadEnvironment l child = (ConfigItem.ofEnvironment child).foldlM env.loadItem l := by
  unfold loadEnvironment ConfigItem.ofEnvironment
  cases child.firstChildElement "environment" with
  | none => rfl
  | some environment =>
    simp only [List.foldlM_cons, List.foldlM_map, loadItem]
    split_ifs <;> rfl

/-- **The constructor visits its items one after the other.** -/
theorem loadDS_eq : env.loadDS l child = (ConfigItem.ofDS child).foldlM env.loadItem l := by
  unfold loadDS ConfigItem.ofDS
  simp only [List.foldlM_append, ← loadServers_eq, ← loadClients_eq, ← loadSimples_eq,
    ← loadSnapshotEvents_eq, ← loadEnvironment_eq, bind_assoc]
  cases child.firstChildElement "profiles" <;> rfl

theorem loadConfig_eq (sharedMemoryOff : Bool) (doc : XMLDocument) (root : XMLElement)
    (w : World) :
    env.loadConfig sharedMemoryOff doc root w =
      (ConfigItem.ofDocument doc).foldlM env.loadItem (env.initial sharedMemoryOff root w) := by
  unfold loadConfig ConfigItem.ofDocument
  generalize env.initial sharedMemoryOff root w = l
  induction doc.childElements "DS" generalizing l with
  | nil => rfl
  | cons child rest ih =>
    rw [List.foldlM_cons, List.flatMap_cons, List.foldlM_append, loadDS_eq]
    simp only [ih]

end Environment

/-- The world the constructor starts in, by its clock readings. -/
def World.initial (steadyClock now now' : TimePoint) : World :=
  ⟨.initial steadyClock now now', 0, [], none⟩

/-- The last eight bits of each of the first four numbers. -/
def WanAddress.ofText (address : String) : WanAddress :=
  let octet (i : Nat) : BitVec 8 := .ofNat 8 ((addressNumbers address).getD i 0)
  ⟨octet 0, octet 1, octet 2, octet 3⟩

/-- Two profiles, and a Fast DDS that creates what it is asked for: participants with
the prefix of their QoS, or else one of its own. -/
def sampleEnvironment : Environment where
  format := sampleFormat
  profilesParsed _ := true
  participantQos _ profileName :=
    if profileName = "server" then
      some { name := "server", guidPrefix := 1, discoveryProtocol := .server }
    else if profileName = "client" then some { name := "client", discoveryProtocol := .client }
    else none
  defaultQos := { name := "RTPSParticipant" }
  descriptors := []
  readWan := WanAddress.ofText
  readPrefix s _ := (sampleFormat.strToPrefix s, true)
  environmentFile := true
  reply w event :=
    { participant :=
        match event with
        | .participantCreation creation =>
          if creation.qos.guidPrefix = 0 then some (.ofPrefix (.ofNat 96 (2 ^ 64 + w.nextId)))
          else some (.ofPrefix creation.qos.guidPrefix)
        | _ => none
      endpoint := some (.ofNat 32 w.nextId) }
  uninitialised _ _ := 0

end DiscoveryServer
