import BambooAgent.Actors.Directory
import BambooAgent.Library.Faults

/- One revisioned document: its primary file, its backup generations, and the commits and loads that
   take turns under the lock of the file. -/
namespace Configs
open Faults
open Actors (u64Max)

inductive ConfigStoreError where
  | io
  | json
  | conflict (expected actual : Nat)
  | validation (message : String)

structure RevisionedDocument (α : Type) where
  revision : Nat
  data : α

inductive DocumentDecodeError where
  | store (error : ConfigStoreError)
  | rawValidation (message : String)

/-- The bytes of a file: the revision of an envelope of the right shape, if they are one, and what
    they decode to. -/
structure Content (α : Type) where
  observed : Option Nat
  decoded : Except DocumentDecodeError (RevisionedDocument α)

def RevisionedDocument.content {α : Type} (document : RevisionedDocument α) : Content α :=
  { observed := some document.revision, decoded := .ok document }

/-- `issued` is bookkeeping: the revisions of the documents that commits have put into the
    primary. -/
structure Files (α : Type) where
  primary : Option (Content α)
  backups : Nat → Option (Content α)
  issued : List Nat

def Files.empty {α : Type} : Files α := { primary := none, backups := fun _ => none, issued := [] }

inductive CommitAuthority (α : Type) where
  | revisionOnly
  | liveSnapshot (data : α)
  | liveLkg (revision : Nat)
  | retainedLiveSnapshot (revision : Nat) (data : α)

def CommitAuthority.repairRevision {α : Type} : CommitAuthority α → Option Nat
  | .liveLkg revision | .retainedLiveSnapshot revision _ => some revision
  | .revisionOnly | .liveSnapshot _ => none

/-- `generation` is the backup that supplied the document, absent for the primary. -/
structure StoredValue (α : Type) where
  data : α
  revision : Nat
  generation : Option Nat

def StoredValue.recoveredFromBackup {α : Type} (stored : StoredValue α) : Bool :=
  stored.generation.isSome

/-- The validators of a store, and how many backups it keeps. -/
structure Store (α : Type) where
  backupGenerations : Nat
  validate : α → Except String Unit
  validateRaw : α → Except String Unit

def newerSchema : String := "document schema is newer than this runtime"

def repairableLiveLkgError : ConfigStoreError → Bool
  | .json => true
  | .validation message => message ≠ newerSchema
  | .io | .conflict _ _ => false

def exhausted : ConfigStoreError := .validation "revision counter exhausted"

def checkedAdd (a b : Nat) : Except ConfigStoreError Nat :=
  if a + b ≤ u64Max then .ok (a + b) else .error exhausted

section Documents
variable {α : Type} (store : Store α)

def usable (content : Content α) : Except DocumentDecodeError (RevisionedDocument α) :=
  match content.decoded with
  | .error error => .error error
  | .ok document =>
    match store.validate document.data with
    | .ok () => .ok document
    | .error message => .error (.store (.validation message))

def usableBackup (backups : Nat → Option (Content α)) (generation : Nat) :
    Option (RevisionedDocument α) :=
  (backups generation).bind (fun content => (usable store content).toOption)

/-- The first generation that is usable. -/
def newestBackup (backups : Nat → Option (Content α)) : Option (Nat × RevisionedDocument α) :=
  (List.range store.backupGenerations).findSome? (fun generation =>
    (usableBackup store backups generation).map (fun document => (generation, document)))

def loaded (files : Files α) : Except ConfigStoreError (Option (StoredValue α)) :=
  match files.primary with
  | none => .ok none
  | some content =>
    match usable store content with
    | .ok document => .ok (some ⟨document.data, document.revision, none⟩)
    | .error (.rawValidation message) => .error (.validation message)
    | .error (.store primaryError) =>
      match newestBackup store files.backups with
      | some (generation, document) =>
        .ok (some ⟨document.data, document.revision, some generation⟩)
      | none => .error primaryError

/-- A primary that is not usable is copied aside first, unless it fails the raw validator. -/
def needsQuarantine (files : Files α) : Bool :=
  files.primary.any (fun content =>
    match usable store content with
    | .error (.store _) => true
    | .error (.rawValidation _) | .ok _ => false)

def observedRevisionFloor (files : Files α) : Nat :=
  (List.range store.backupGenerations).foldl (fun floor generation =>
    max floor (((files.backups generation).bind Content.observed).getD 0))
    ((files.primary.bind Content.observed).getD 0)

def revisionFloor (stored : StoredValue α) : Except ConfigStoreError Nat :=
  match stored.generation with
  | none => .ok stored.revision
  | some generation => checkedAdd stored.revision (generation + 1)

def durableRevision (stored : Option (StoredValue α)) : Nat := stored.elim 0 StoredValue.revision

def actualRevision (stored : Option (StoredValue α)) (repair : Option Nat) : Nat :=
  match stored, repair with
  | some stored, some live =>
    if stored.recoveredFromBackup ∧ stored.revision ≤ live then live else stored.revision
  | none, some live => live
  | stored, none => durableRevision stored

def allocationFloor (files : Files α) (stored : Option (StoredValue α)) (repair : Option Nat) :
    Except ConfigStoreError Nat :=
  match stored with
  | some stored =>
    if stored.recoveredFromBackup then
      (revisionFloor stored).map (fun floor => max floor (observedRevisionFloor store files))
    else .ok stored.revision
  | none => .ok (if repair.isSome then observedRevisionFloor store files else 0)

/-- The document that a commit starts from: repair authority may go without one. -/
def commitBase (files : Files α) (repair : Option Nat) :
    Except ConfigStoreError (Option (StoredValue α)) :=
  match loaded store files with
  | .ok stored => .ok stored
  | .error error => if repair.isSome ∧ repairableLiveLkgError error then .ok none else .error error

variable [DecidableEq α]

/-- The data of the live snapshot is still what the primary holds. -/
def sameSnapshot (authority : CommitAuthority α) (stored : Option (StoredValue α))
    (expected : Nat) : Bool :=
  match authority, stored with
  | .liveSnapshot data, some stored =>
    stored.recoveredFromBackup || stored.revision ≠ expected || stored.data = data
  | _, _ => true

/-- The checks of a commit, and the revision that it gets. -/
def allocate (files : Files α) (authority : CommitAuthority α) (expected minimum : Nat) :
    Except ConfigStoreError Nat := do
  let repair := authority.repairRevision
  let stored ← commitBase store files repair
  if repair.isSome && stored.any (fun stored => !stored.recoveredFromBackup) then
    .error (.conflict expected (durableRevision stored))
  else if !sameSnapshot authority stored expected then
    .error (.conflict expected (durableRevision stored))
  else if actualRevision stored repair ≠ expected then
    .error (.conflict expected (actualRevision stored repair))
  else do
    let floor ← allocationFloor store files stored repair
    checkedAdd (max (max floor (actualRevision stored repair)) minimum) 1

end Documents

/- The file steps. -/

section Steps
variable {α : Type} (store : Store α) (faults : Schedule Unit)

/-- A file step fails with an I/O error. -/
def ioFaults : Schedule ConfigStoreError := fun time =>
  match faults time with
  | .proceeds => .proceeds
  | .fails _ kept => .fails .io kept
  | .stops kept => .stops kept

abbrev Filing (α β : Type) := Calling (Files α) ConfigStoreError β

def look : Filing α (Files α) := fun disk => (.ok disk.state, disk)

def change (act : Files α → Files α) : Filing α Unit :=
  syscall (ioFaults faults) (fun files => .ok ((), act files)) untouched

/-- The bytes are written aside, renamed over the target, and the directory is synced. -/
def installAt (place : Files α → Files α) : Filing α Unit := do
  flush (ioFaults faults)
  change faults place
  flush (ioFaults faults)

def Files.setBackup (generation : Nat) (content : Option (Content α)) (files : Files α) : Files α :=
  { files with backups := Function.update files.backups generation content }

def Files.moveBackup (source target : Nat) (files : Files α) : Files α :=
  (files.setBackup target (files.backups source)).setBackup source none

def Files.setPrimary (document : RevisionedDocument α) (files : Files α) : Files α :=
  { files with primary := some document.content, issued := files.issued ++ [document.revision] }

def moveUp (generation : Nat) : Filing α Unit := do
  let files ← look
  if (files.backups generation).isSome then
    change faults (Files.moveBackup generation (generation + 1))
  else pure ()

/-- The generations below this one move up by one, the last of them first. -/
def rotateFrom : Nat → Filing α Unit
  | 0 => pure ()
  | generation + 1 => do
    moveUp faults generation
    rotateFrom generation

def rotateBackups : Filing α Unit := rotateFrom faults (store.backupGenerations - 1)

/-- The primary moves to the backups when it decodes. -/
def backUp : Filing α Unit := do
  let files ← look
  match files.primary.map Content.decoded with
  | some (.ok document) => do
    rotateBackups store faults
    installAt faults (Files.setBackup 0 (some document.content))
  | some (.error _) | none => pure ()

def commitBytesLocked (document : RevisionedDocument α) : Filing α Unit := do
  backUp store faults
  installAt faults (Files.setPrimary document)

def quarantinePrimary : Filing α Unit := do
  let files ← look
  if needsQuarantine store files then installAt faults id else pure ()

def load : Filing α (Option (StoredValue α)) := do
  quarantinePrimary store faults
  let files ← look
  lift (loaded store files)

variable [DecidableEq α]

def commitValidatedLocked (expected : Nat) (candidate : α) (authority : CommitAuthority α)
    (minimum : Nat) : Filing α Nat := do
  lift ((store.validateRaw candidate).mapError .validation)
  quarantinePrimary store faults
  let files ← look
  let revision ← lift (allocate store files authority expected minimum)
  commitBytesLocked store faults { revision := revision, data := candidate }
  pure revision

def commitValidated (expected : Nat) (candidate : α) (authority : CommitAuthority α) :
    Filing α Nat := do
  lift ((store.validate candidate).mapError .validation)
  commitValidatedLocked store faults expected candidate authority 0

end Steps

end Configs
