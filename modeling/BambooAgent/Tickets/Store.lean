import BambooAgent.Library.Crashes
import BambooAgent.Tickets.Execute

/- The authority directory of a scope: immutable objects under the hash of their content,
   manifests, commits and the HEAD that names the published one. -/
namespace Tickets
open SortedMaps Crashes

namespace Store

/-- The parts of a snapshot that are stored record by record. -/
inductive Section where
  | tickets
  | assignments
  | requests
  | submissions
  | receipts
  | intents
  | resolutions
  deriving DecidableEq

def Section.name : Section → String
  | .tickets => "tickets"
  | .assignments => "assignments"
  | .requests => "requests"
  | .submissions => "submissions"
  | .receipts => "receipts"
  | .intents => "intents"
  | .resolutions => "resolutions"

def sections : List Section :=
  [.tickets, .assignments, .requests, .submissions, .receipts, .intents, .resolutions]

abbrev Sections (Value : Type) := Section → SortedMap String Value

structure Manifest where
  schema : Nat
  objects : SortedMap String String
  deriving DecidableEq

structure Commit where
  schema : Nat
  seq : Nat
  parent : Option String
  manifest : String
  deriving DecidableEq

/-- JSON, its canonical bytes and SHA-256, as the store uses them. A snapshot is a header
    and its sections; `cut` is what a write that is broken off leaves in the file. -/
structure Serde (Bytes Value : Type) where
  contentHash : Bytes → String
  size : Bytes → Nat
  cut : Bytes → Nat → Bytes
  asBytes : String → Bytes
  readToString : Bytes → Option String
  canonicalBytes : Value → Bytes
  fromSlice : Bytes → Option Value
  manifestBytes : Manifest → Bytes
  manifestFromSlice : Bytes → Option Manifest
  commitBytes : Commit → Bytes
  commitFromSlice : Bytes → Option Commit
  toValue : Snapshot → Value × Sections Value
  fromValue : Value → Sections Value → Option Snapshot

/-- What is written is read back, and hashes have the form of hashes. -/
structure Serde.Lawful {Bytes Value : Type} (serde : Serde Bytes Value) : Prop where
  hash : ∀ bytes, validHash (serde.contentHash bytes) = true
  text : ∀ text, serde.readToString (serde.asBytes text) = some text
  value : ∀ value, serde.fromSlice (serde.canonicalBytes value) = some value
  manifest : ∀ manifest, serde.manifestFromSlice (serde.manifestBytes manifest) = some manifest
  commit : ∀ commit, serde.commitFromSlice (serde.commitBytes commit) = some commit
  snapshot : ∀ snapshot, serde.fromValue (serde.toValue snapshot).1 (serde.toValue snapshot).2 =
    some snapshot

inductive Folder where
  | root
  | objects
  | manifests
  | commits
  deriving DecidableEq

/-- The files of each folder. -/
abbrev Directory (Bytes : Type) := Folder → SortedMap String Bytes

section Files
variable {Bytes Value : Type}

def Directory.put (dir : Directory Bytes) (folder : Folder) (name : String) (bytes : Bytes) :
    Directory Bytes :=
  fun other => if other = folder then (dir other).insert name bytes else dir other

def Directory.remove (dir : Directory Bytes) (folder : Folder) (name : String) :
    Directory Bytes :=
  fun other => if other = folder then (dir other).erase name else dir other

def maxArtifactBytes : Nat := 1024 * 1024

def managedArtifactHash (artifact : Artifact) : Result (Option String) :=
  if startsWith artifact.uri managedArtifactPrefix = true then do
    let hash := String.ofList (artifact.uri.toList.drop managedArtifactPrefix.toList.length)
    rejectIf (validHash hash = false ∨ hash ≠ artifact.sha256)
      (.invalidTransition "managed Artifact URI/hash mismatch")
    return some hash
  else .ok none

def snapshotArtifacts (snapshot : Snapshot) : List Artifact :=
  snapshot.submissions.values.flatMap (fun s => s.artifacts) ++
    snapshot.assignments.values.flatMap (fun a =>
      a.effects.values.filterMap (fun e => e.artifact)) ++
    snapshot.submissions.values.flatMap (fun s =>
      s.effects.values.filterMap (fun e => e.artifact)) ++
    snapshot.tickets.values.filterMap (fun w => w.importSource.bind (fun s => s.artifact)) ++
    snapshot.legacyAttachment.toList.filterMap (fun s => s.artifact) ++
    snapshot.migration.toList.filterMap (fun r => r.supervisorSnapshot)

/- Reading. -/

def readObject (serde : Serde Bytes Value) (dir : Directory Bytes) (folder : Folder)
    (hash : String) : Result Bytes := do
  rejectIf (validHash hash = false) (.authorityUnavailable "invalid object hash")
  let bytes ← orElseErr ((dir folder).lookup hash) .io
  rejectIf (serde.contentHash bytes ≠ hash) (.authorityUnavailable "object hash mismatch")
  return bytes

def readArtifact (serde : Serde Bytes Value) (dir : Directory Bytes) (artifact : Artifact)
    (budget : Nat) : Result Bytes := do
  let managed ← managedArtifactHash artifact
  let hash ← orElseErr managed
    (.authorityUnavailable "external Artifact requires a trusted resolver")
  let stored ← orElseErr ((dir .objects).lookup hash) .io
  rejectIf (min budget maxArtifactBytes < serde.size stored) .contextBudgetExceeded
  readObject serde dir .objects hash

def splitOnce : List Char → Option (List Char × List Char)
  | [] => none
  | c :: rest =>
      if c = ':' then some ([], rest)
      else (splitOnce rest).map (fun parts => (c :: parts.1, parts.2))

def splitKey (key : String) : Option (String × String) :=
  (splitOnce key.toList).map (fun parts => (String.ofList parts.1, String.ofList parts.2))

def sectionNamed (name : String) : Option Section := sections.find? (fun s => s.name = name)

/-- One object a manifest lists, read into its section. -/
def loadEntry (serde : Serde Bytes Value) (dir : Directory Bytes) (loaded : Sections Value)
    (entry : String × String) : Result (Sections Value) :=
  if entry.1 = "header" then .ok loaded
  else do
    let (category, id) ← orElseErr (splitKey entry.1)
      (.authorityUnavailable "malformed manifest key")
    if category = "blob" then do
      rejectIf (id ≠ entry.2) (.authorityUnavailable "blob manifest hash mismatch")
      let _ ← readArtifact serde dir ⟨managedArtifactPrefix ++ entry.2, entry.2⟩ maxArtifactBytes
      return loaded
    else do
      let place ← orElseErr (sectionNamed category)
        (.authorityUnavailable "unknown manifest section")
      let bytes ← readObject serde dir .objects entry.2
      let value ← orElseErr (serde.fromSlice bytes) .json
      return fun other => if other = place then (loaded other).insert id value else loaded other

def readCommit (serde : Serde Bytes Value) (dir : Directory Bytes) (hash : String) :
    Result Commit := do
  let bytes ← readObject serde dir .commits hash
  orElseErr (serde.commitFromSlice bytes) .json

def checkReference (manifest : Manifest) (artifact : Artifact) : Result Unit := do
  match ← managedArtifactHash artifact with
  | none => return ()
  | some hash =>
      rejectIf (manifest.objects.lookup ("blob:" ++ hash) ≠ some hash)
        (.authorityUnavailable "full manifest omits referenced Artifact")

def loadSnapshot (codec : Codec) (serde : Serde Bytes Value) (dir : Directory Bytes)
    (hash : String) : Result Snapshot := do
  let commit ← readCommit serde dir hash
  let listed ← readObject serde dir .manifests commit.manifest
  let manifest ← orElseErr (serde.manifestFromSlice listed) .json
  rejectIf (¬ (1 ≤ commit.schema ∧ commit.schema ≤ 8) ∨ manifest.schema ≠ commit.schema)
    (.authorityUnavailable "unsupported schema")
  let header ← orElseErr (manifest.objects.lookup "header")
    (.authorityUnavailable "manifest has no header")
  let stored ← readObject serde dir .objects header
  let value ← orElseErr (serde.fromSlice stored) .json
  let loaded ← manifest.objects.entries.foldlM (loadEntry serde dir) (fun _ => SortedMap.empty)
  let snapshot ← orElseErr (serde.fromValue value loaded) .json
  rejectIf (snapshot.schema ≠ commit.schema ∨ snapshot.seq ≠ commit.seq)
    (.authorityUnavailable "snapshot header mismatch")
  validateMigration codec snapshot
  each (snapshotArtifacts snapshot) (checkReference manifest)
  return snapshot

/-- The loop up the ancestry. Every commit it passes is another file. -/
def loadAncestry (codec : Codec) (serde : Serde Bytes Value) (dir : Directory Bytes)
    (binding : ScopeBinding) : Nat → List String → Option Nat → Option String → Result Unit
  | _, _, _, none => .ok ()
  | 0, _, _, some _ => .error .diverges
  | fuel + 1, seen, upper, some hash => do
      rejectIf (hash ∈ seen) (.authorityUnavailable "commit ancestry cycle")
      let ancestor ← loadSnapshot codec serde dir hash
      rejectIf (ancestor.binding ≠ binding ∨ upper.any (fun seq => seq ≤ ancestor.seq) = true)
        (.authorityUnavailable "invalid commit ancestry")
      let commit ← readCommit serde dir hash
      loadAncestry codec serde dir binding fuel (hash :: seen) (some ancestor.seq) commit.parent

def loadHead (codec : Codec) (serde : Serde Bytes Value) (dir : Directory Bytes) :
    Result (String × Snapshot) := do
  let named ← orElseErr ((dir .root).lookup "HEAD") .io
  let hash ← orElseErr (serde.readToString named) .io
  let snapshot ← loadSnapshot codec serde dir hash
  loadAncestry codec serde dir snapshot.binding ((dir .commits).size + 1) [] none (some hash)
  return (hash, snapshot)

end Files

/- Writing. Every call to the system may fail, and the process may stop there. -/

inductive FaultPoint where
  | beforeWrite
  | afterWrite
  | beforeFileSync
  | afterFileSync
  | beforeDirectorySync
  | afterDirectorySync
  | beforeObjectRename
  | afterObjectRename
  | beforeHeadRename
  | afterHeadRename

/-- What becomes of one call: a write that is broken off keeps some of its bytes. -/
inductive Fate where
  | proceeds
  | fails (error : Error) (kept : Nat)
  | stops (kept : Nat)

/-- The system and the installed hook, call by call, and the identifiers it generates. -/
structure Env where
  call : Nat → Fate
  hook : FaultPoint → Nat → Fate
  uuid : Nat → String
  describe : Failure → String

structure Disk (Bytes : Type) where
  dir : Directory Bytes
  clock : Nat

section Writing
variable {Bytes Value α : Type}

abbrev Writing (Bytes α : Type) := Program (Disk Bytes) Failure α

def lift (result : Result α) : Writing Bytes α := fun disk =>
  match result with
  | .ok a => (.ok a, disk)
  | .error failure => (.error (.failed failure), disk)

/-- One call with this fate. A call that does not proceed may have been half done. -/
def attempt (fate : Fate) (act : Directory Bytes → Result (α × Directory Bytes))
    (part : Nat → Directory Bytes → Directory Bytes) : Writing Bytes α := fun disk =>
  match fate with
  | .fails error kept => (.error (.failed (.err error)), ⟨part kept disk.dir, disk.clock + 1⟩)
  | .stops kept => (.error .died, ⟨part kept disk.dir, disk.clock + 1⟩)
  | .proceeds =>
      match act disk.dir with
      | .ok (a, dir) => (.ok a, ⟨dir, disk.clock + 1⟩)
      | .error failure => (.error (.failed failure), ⟨disk.dir, disk.clock + 1⟩)

def untouched (_ : Nat) (dir : Directory Bytes) : Directory Bytes := dir

def hit (env : Env) (point : FaultPoint) : Writing Bytes Unit := fun disk =>
  attempt (env.hook point disk.clock) (fun dir => .ok ((), dir)) untouched disk

def syscall (env : Env) (act : Directory Bytes → Result (α × Directory Bytes))
    (part : Nat → Directory Bytes → Directory Bytes) : Writing Bytes α := fun disk =>
  attempt (env.call disk.clock) act part disk

/-- A call that reads, or that flushes what is already there. -/
def reading (env : Env) (read : Directory Bytes → Result α) : Writing Bytes α :=
  syscall env (fun dir => (read dir).map (fun a => (a, dir))) untouched

def newName (env : Env) (start : String) : Writing Bytes String := fun disk =>
  (.ok (start ++ env.uuid disk.clock), disk)

/-- `Path::exists` takes an error for an absence. -/
def pathExists (env : Env) (folder : Folder) (name : String) : Writing Bytes Bool := fun disk =>
  match env.call disk.clock with
  | .proceeds => (.ok ((disk.dir folder).contains name), ⟨disk.dir, disk.clock + 1⟩)
  | .fails _ _ => (.ok false, ⟨disk.dir, disk.clock + 1⟩)
  | .stops _ => (.error .died, ⟨disk.dir, disk.clock + 1⟩)

def syncDir (env : Env) : Writing Bytes Unit := do
  hit env .beforeDirectorySync
  reading env (fun _ => .ok ())
  hit env .afterDirectorySync

def createNew (env : Env) (serde : Serde Bytes Value) (folder : Folder) (name : String)
    (bytes : Bytes) : Writing Bytes Unit :=
  syscall env (fun dir => do
    rejectIf ((dir folder).contains name = true) .io
    return ((), dir.put folder name (serde.cut bytes 0))) untouched

def writeAll (env : Env) (serde : Serde Bytes Value) (folder : Folder) (name : String)
    (bytes : Bytes) : Writing Bytes Unit :=
  syscall env (fun dir => .ok ((), dir.put folder name bytes))
    (fun kept dir => dir.put folder name (serde.cut bytes kept))

def writeSynced (env : Env) (serde : Serde Bytes Value) (folder : Folder) (name : String)
    (bytes : Bytes) : Writing Bytes Unit := do
  hit env .beforeWrite
  createNew env serde folder name bytes
  writeAll env serde folder name bytes
  hit env .afterWrite
  hit env .beforeFileSync
  reading env (fun _ => .ok ())
  hit env .afterFileSync

/-- A rename happens as a whole or not at all. -/
def rename (env : Env) (folder : Folder) (source target : String) : Writing Bytes Unit :=
  syscall env (fun dir => do
    let bytes ← orElseErr ((dir folder).lookup source) .io
    return ((), (dir.remove folder source).put folder target bytes)) untouched

variable [DecidableEq Bytes]

/-- An object is never written twice; a new one is complete before it gets its name. -/
def placeObject (env : Env) (serde : Serde Bytes Value) (folder : Folder) (bytes : Bytes)
    (found : Bool) : Writing Bytes Unit :=
  if found = true then do
    let stored ← reading env (fun dir => readObject serde dir folder (serde.contentHash bytes))
    lift (rejectIf (stored ≠ bytes) (.authorityUnavailable "immutable object mismatch"))
  else do
    let staging ← newName env ".staging-"
    writeSynced env serde folder staging bytes
    hit env .beforeObjectRename
    rename env folder staging (serde.contentHash bytes)
    hit env .afterObjectRename

def writeObject (env : Env) (serde : Serde Bytes Value) (folder : Folder) (bytes : Bytes) :
    Writing Bytes String := do
  let hash := serde.contentHash bytes
  reading env (fun _ => .ok ())
  let found ← pathExists env folder hash
  placeObject env serde folder bytes found
  syncDir env
  return hash

/-- A referenced blob has to be there in full before it is listed. -/
def listBlob (env : Env) (serde : Serde Bytes Value) (objects : SortedMap String String)
    (artifact : Artifact) : Writing Bytes (SortedMap String String) := do
  match ← lift (managedArtifactHash artifact) with
  | none => return objects
  | some hash => do
      let _ ← reading env (fun dir => readArtifact serde dir artifact maxArtifactBytes)
      return objects.insert ("blob:" ++ hash) hash

def objectKey (place : Section) (id : String) : String := place.name ++ ":" ++ id

/-- Every stored record of a snapshot under the key its manifest lists it by. -/
def sectionEntries (stored : Sections Value) : List (String × Value) :=
  sections.flatMap (fun place =>
    (stored place).entries.map (fun entry => (objectKey place entry.1, entry.2)))

def listObject (env : Env) (serde : Serde Bytes Value) (objects : SortedMap String String)
    (entry : String × Value) : Writing Bytes (SortedMap String String) := do
  let hash ← writeObject env serde .objects (serde.canonicalBytes entry.2)
  return objects.insert entry.1 hash

structure FileStore where
  published : Option (String × Snapshot)
  health : Health

/-- The header, the manifest and the commit, once every record is written. -/
def writeCommit (env : Env) (serde : Serde Bytes Value) (store : FileStore)
    (snapshot : Snapshot) (objects : SortedMap String String) : Writing Bytes String := do
  let header ← writeObject env serde .objects
    (serde.canonicalBytes (serde.toValue snapshot).1)
  let manifest ← writeObject env serde .manifests
    (serde.manifestBytes ⟨snapshot.schema, objects.insert "header" header⟩)
  writeObject env serde .commits (serde.commitBytes
    ⟨snapshot.schema, snapshot.seq, store.published.map Prod.fst, manifest⟩)

def writeStaged (env : Env) (serde : Serde Bytes Value) (hash : String) :
    Writing Bytes (String × String) := do
  let staged ← newName env ".HEAD-"
  writeSynced env serde .root staged (serde.asBytes hash)
  hit env .beforeHeadRename
  return (hash, staged)

/-- Everything short of the rename that makes the new commit the published one. -/
def prepareHead (env : Env) (serde : Serde Bytes Value) (store : FileStore)
    (snapshot : Snapshot) : Writing Bytes (String × String) := do
  let blobs ← (snapshotArtifacts snapshot).foldlM (listBlob env serde) SortedMap.empty
  let objects ← (sectionEntries (serde.toValue snapshot).2).foldlM (listObject env serde) blobs
  let hash ← writeCommit env serde store snapshot objects
  writeStaged env serde hash

def stageHead (env : Env) (serde : Serde Bytes Value) (store : FileStore) (snapshot : Snapshot) :
    Writing Bytes String := do
  let prepared ← prepareHead env serde store snapshot
  rename env .root prepared.2 "HEAD"
  return prepared.1

def acknowledgeHead (env : Env) : Writing Bytes Unit := do
  hit env .afterHeadRename
  syncDir env

def unreconciled (env : Env) (failure : Failure) : Health :=
  .readOnly ("HEAD publication needs reconciliation: " ++ env.describe failure)

inductive HeadPublication where
  | committed (hash : String) (store : FileStore)
  | refused (failure : Failure) (store : FileStore)
  | died

def publishSnapshot (env : Env) (serde : Serde Bytes Value) (store : FileStore)
    (snapshot : Snapshot) (disk : Disk Bytes) :
    HeadPublication × Disk Bytes :=
  if store.health = .writable then
    match stageHead env serde store snapshot disk with
    | (.error .died, disk) => (.died, disk)
    | (.error (.failed failure), disk) => (.refused failure store, disk)
    | (.ok hash, disk) =>
        match acknowledgeHead env disk with
        | (.error .died, disk) => (.died, disk)
        | (.error (.failed failure), disk) =>
            (.refused failure { store with health := unreconciled env failure }, disk)
        | (.ok (), disk) => (.committed hash { store with published := some (hash, snapshot) }, disk)
  else (.refused (.err (unavailable store.health)) store, disk)

end Writing

end Store

end Tickets
