import BambooAgent.Actors.Directory
import BambooAgent.Library.Faults

/- The files of one workflow run: a snapshot that is replaced as a whole, a journal of events that
   is appended to, and the staged snapshots between the two. -/
namespace Workflows
open SortedMaps Faults
open Actors (u64Max)

inductive ErrorKind where
  | invalidInput
  | alreadyExists
  | notFound
  | invalidData
  | other
  deriving DecidableEq

inductive WorkflowRunStatus where
  | queued
  | running
  | suspended
  | succeeded
  | failed
  | cancelled
  deriving DecidableEq

def WorkflowRunStatus.isTerminal : WorkflowRunStatus → Bool
  | .succeeded | .failed | .cancelled => true
  | .queued | .running | .suspended => false

/-- What the journal looks at of a snapshot; the rest it only stores and compares. -/
structure WorkflowRunSnapshot (β : Type) where
  runId : String
  status : WorkflowRunStatus
  lastSequence : Nat
  rest : β
  deriving DecidableEq

structure WorkflowRunEvent (γ : Type) where
  runId : String
  sequence : Nat
  rest : γ
  deriving DecidableEq

/-- The bytes of a snapshot file: all of a snapshot, or what does not parse. -/
inductive Content (β : Type) where
  | torn
  | whole (snapshot : WorkflowRunSnapshot β)

/-- The bytes after the last newline. -/
inductive Tail (γ : Type) where
  | clean
  | whole (event : WorkflowRunEvent γ)
  | broken

/-- A line that does not parse is none. -/
structure Journal (γ : Type) where
  lines : List (Option (WorkflowRunEvent γ))
  tail : Tail γ

structure RunDir (β γ : Type) where
  staged : SortedMap Nat (Content β)
  journal : Option (Journal γ)
  snapshot : Option (Content β)

section Files
variable {β γ α : Type}

abbrev Run (β γ : Type) := Option (RunDir β γ)

abbrev Filing (β γ α : Type) := Calling (Run β γ) ErrorKind α

abbrev Result (α : Type) := Except ErrorKind α

def RunDir.empty : RunDir β γ := { staged := .empty, journal := none, snapshot := none }

def Journal.empty : Journal γ := { lines := [], tail := .clean }

/-- A record goes behind whatever stands after the last newline. -/
def Journal.write (journal : Journal γ) (event : WorkflowRunEvent γ) : Journal γ :=
  { journal with tail := if journal.tail matches .clean then .whole event else .broken }

def Journal.writePart (kept : Nat) (journal : Journal γ) (event : WorkflowRunEvent γ) : Journal γ :=
  match kept with
  | 0 => journal
  | 1 => { journal with tail := .broken }
  | _ => journal.write event

def Journal.newline (journal : Journal γ) : Journal γ :=
  { lines := journal.lines ++ [match journal.tail with
      | .whole event => some event
      | .clean | .broken => none],
    tail := .clean }

def Journal.truncated (journal : Journal γ) : Journal γ := { journal with tail := .clean }

def inDir (act : RunDir β γ → Result (α × RunDir β γ)) : Run β γ → Result (α × Run β γ)
  | none => .error .notFound
  | some dir => (act dir).map (fun answer => (answer.1, some answer.2))

def changing (change : RunDir β γ → RunDir β γ) : Run β γ → Result (Unit × Run β γ) :=
  inDir (fun dir => .ok ((), change dir))

def RunDir.withJournal (change : Journal γ → Journal γ) (dir : RunDir β γ) : RunDir β γ :=
  { dir with journal := dir.journal.map change }

section Calls
variable (calls : Schedule ErrorKind)

def createDir : Filing β γ Unit :=
  syscall calls (fun run =>
    match run with
    | none => .ok ((), some .empty)
    | some _ => .error .alreadyExists) untouched

def tryExists : Filing β γ Bool := reading calls (fun run => .ok run.isSome)

def openNew (sequence : Nat) : Filing β γ Unit :=
  syscall calls (inDir (fun dir =>
    if dir.staged.contains sequence then .error .alreadyExists
    else .ok ((), { dir with staged := dir.staged.insert sequence .torn }))) untouched

/-- What a write leaves of a staged snapshot when it is broken off. -/
def stagedPart (sequence : Nat) (snapshot : WorkflowRunSnapshot β) (kept : Nat) (run : Run β γ) :
    Run β γ :=
  run.map (fun dir => { dir with
    staged := dir.staged.insert sequence (if kept = 0 then .torn else .whole snapshot) })

def writeStaged (sequence : Nat) (snapshot : WorkflowRunSnapshot β) : Filing β γ Unit :=
  syscall calls (changing (fun dir => { dir with
    staged := dir.staged.insert sequence (.whole snapshot) })) (stagedPart sequence snapshot)

def removeStaged (sequence : Nat) : Filing β γ Unit :=
  syscall calls (inDir (fun dir =>
    if dir.staged.contains sequence then
      .ok ((), { dir with staged := dir.staged.erase sequence })
    else .error .notFound)) untouched

def openJournal : Filing β γ Unit :=
  syscall calls (changing (fun dir => { dir with journal := some (dir.journal.getD .empty) }))
    untouched

def writeRecord (event : WorkflowRunEvent γ) : Filing β γ Unit :=
  syscall calls (changing (RunDir.withJournal (fun journal => journal.write event)))
    (fun kept run => run.map (RunDir.withJournal (fun journal => journal.writePart kept event)))

def writeNewline : Filing β γ Unit :=
  syscall calls (changing (RunDir.withJournal Journal.newline))
    (fun kept run => if kept = 0 then run else run.map (RunDir.withJournal Journal.newline))

def setLen : Filing β γ Unit :=
  syscall calls (changing (RunDir.withJournal Journal.truncated)) untouched

def atomicReplace (sequence : Nat) : Filing β γ Unit :=
  syscall calls (inDir (fun dir =>
    match dir.staged.lookup sequence with
    | none => .error .notFound
    | some content =>
      .ok ((), { dir with staged := dir.staged.erase sequence, snapshot := some content })))
    untouched

def syncDirectory : Filing β γ Unit := do
  reading calls (fun run => if run.isSome then .ok () else .error .notFound)
  flush calls

/- Committing. -/

def validateId (runId : String) : Result Unit :=
  if runId.isEmpty ∨ 128 < runId.utf8ByteSize ∨
      ¬ runId.toList.all (fun c => c.isAlphanum || c == '-' || c == '_') then .error .invalidInput
  else .ok ()

def enterRunDir (create : Bool) : Filing β γ Unit :=
  if create then createDir calls
  else do
    let there ← tryExists calls
    lift (if there then .ok () else .error .notFound)

/-- The staged snapshot is complete before anything points to it. -/
def stageSnapshot (sequence : Nat) (snapshot : WorkflowRunSnapshot β) : Filing β γ Unit := do
  openNew calls sequence
  let written ← caught (do
    writeStaged calls sequence snapshot
    flush calls)
  match written with
  | .ok () => pure ()
  | .error error => do
    let _ ← caught (removeStaged calls sequence)
    lift (.error error)

def appendRecord (event : WorkflowRunEvent γ) : Filing β γ Unit := do
  openJournal calls
  writeRecord calls event
  writeNewline calls
  flush calls

def publishSnapshot (sequence : Nat) : Filing β γ Unit := do
  atomicReplace calls sequence
  syncDirectory calls

def checkPair (snapshot : WorkflowRunSnapshot β) (event : WorkflowRunEvent γ) : Result Unit :=
  if snapshot.runId ≠ event.runId ∨ snapshot.lastSequence ≠ event.sequence then
    .error .invalidInput
  else validateId snapshot.runId

def commitLocked (snapshot : WorkflowRunSnapshot β) (event : WorkflowRunEvent γ)
    (create : Bool) : Filing β γ Unit := do
  lift (checkPair snapshot event)
  enterRunDir calls create
  stageSnapshot calls event.sequence snapshot
  appendRecord calls event
  publishSnapshot calls event.sequence

/- Recovery. -/

def repairJournalTail : Filing β γ Unit := do
  let torn ← reading calls (fun run =>
    .ok ((run.bind RunDir.journal).any (fun journal => !(journal.tail matches .clean))))
  if torn then do
    flush calls
    setLen calls
    flush calls
  else pure ()

def parseLines (runId : String) : Nat → List (Option (WorkflowRunEvent γ)) →
    Result (List (WorkflowRunEvent γ))
  | _, [] => .ok []
  | _, none :: _ => .error .invalidData
  | expected, some event :: rest =>
    if event.runId ≠ runId ∨ event.sequence ≠ expected then .error .invalidData
    else do
      let later ← parseLines runId (expected + 1) rest
      .ok (event :: later)

def journalLines (run : Run β γ) : List (Option (WorkflowRunEvent γ)) :=
  (run.bind RunDir.journal).elim [] Journal.lines

def eventsSince (runId : String) (sequence : Nat) : Filing β γ (List (WorkflowRunEvent γ)) := do
  lift (validateId runId)
  reading calls (fun run => do
    let events ← parseLines runId 1 (journalLines run)
    .ok (events.filter (fun event => decide (sequence < event.sequence))))

def parseContent : Option (Content β) → Result (Option (WorkflowRunSnapshot β))
  | none => .ok none
  | some .torn => .error .other
  | some (.whole snapshot) => .ok (some snapshot)

def readSnapshot : Filing β γ (Option (WorkflowRunSnapshot β)) :=
  reading calls (fun run => parseContent (run.bind RunDir.snapshot))

/-- Any failure to read the staged snapshot is reported as damage. -/
def readStaged (sequence : Nat) : Filing β γ (Content β) := do
  let read ← caught (reading calls (fun run =>
    match run.bind (fun dir => dir.staged.lookup sequence) with
    | none => .error .notFound
    | some content => .ok content))
  match read with
  | .ok content => pure content
  | .error _ => lift (.error .invalidData)

def takeStaged (runId : String) (sequence : Nat) : Filing β γ (WorkflowRunSnapshot β) := do
  let content ← readStaged calls sequence
  match content with
  | .torn => lift (.error .other)
  | .whole recovered => do
    lift (if recovered.runId ≠ runId ∨ recovered.lastSequence ≠ sequence then .error .invalidData
      else .ok ())
    publishSnapshot calls sequence
    pure recovered

def recoverSnapshot (runId : String) : Filing β γ (Option (WorkflowRunSnapshot β)) := do
  lift (validateId runId)
  repairJournalTail calls
  let current ← readSnapshot calls
  let journal ← eventsSince calls runId 0
  let journalSequence := journal.getLast?.elim 0 WorkflowRunEvent.sequence
  let snapshotSequence := current.elim 0 WorkflowRunSnapshot.lastSequence
  if journalSequence = snapshotSequence then do
    let _ ← caught (removeStaged calls (journalSequence + 1))
    pure current
  else if journalSequence < snapshotSequence ∨ journalSequence ≠ snapshotSequence + 1 then
    lift (.error .invalidData)
  else do
    let recovered ← takeStaged calls runId journalSequence
    pure (some recovered)

/- The repository's operations on a run. -/

/-- Nothing lies in the directory but perhaps an empty journal. -/
def RunDir.removable (dir : RunDir β γ) : Bool :=
  dir.staged.isEmpty && dir.snapshot.isNone &&
    dir.journal.all (fun journal => journal.lines.isEmpty && journal.tail matches .clean)

def removeJournal : Filing β γ Unit :=
  syscall calls (changing (fun dir => { dir with journal := none })) untouched

def removeDir : Filing β γ Unit :=
  syscall calls (fun run =>
    match run with
    | none => .error .notFound
    | some dir =>
      if dir.staged.isEmpty ∧ dir.snapshot.isNone ∧ dir.journal.isNone then .ok ((), none)
      else .error .other) untouched

/-- What an earlier creation left behind makes way for this one. -/
def createAgain (snapshot : WorkflowRunSnapshot β) (event : WorkflowRunEvent γ) :
    Filing β γ Unit := do
  let removable ← reading calls (fun run =>
    match run with
    | none => .error .notFound
    | some dir => .ok (dir.removable, dir.journal.isSome))
  if removable.1 then do
    if removable.2 then removeJournal calls else pure ()
    removeDir calls
    commitLocked calls snapshot event true
  else lift (.error .alreadyExists)

variable [DecidableEq β]

def create (snapshot : WorkflowRunSnapshot β) (event : WorkflowRunEvent γ) :
    Filing β γ Unit := do
  let created ← caught (commitLocked calls snapshot event true)
  match created with
  | .ok () => pure ()
  | .error .alreadyExists => do
    let current ← recoverSnapshot calls snapshot.runId
    if current = some snapshot then pure ()
    else if current.isNone then createAgain calls snapshot event
    else lift (.error .alreadyExists)
  | .error error => lift (.error error)

def saturatingSucc (value : Nat) : Nat := min (value + 1) u64Max

def commit (snapshot : WorkflowRunSnapshot β) (event : WorkflowRunEvent γ) :
    Filing β γ Unit := do
  let found ← recoverSnapshot calls snapshot.runId
  match found with
  | none => lift (.error .notFound)
  | some current =>
    if current.lastSequence = event.sequence ∧ current = snapshot then pure ()
    else if current.status.isTerminal then lift (.error .invalidInput)
    else if event.sequence ≠ saturatingSucc current.lastSequence then lift (.error .invalidInput)
    else commitLocked calls snapshot event false

def load (runId : String) : Filing β γ (Option (WorkflowRunSnapshot β)) :=
  recoverSnapshot calls runId

end Calls
end Files

end Workflows
