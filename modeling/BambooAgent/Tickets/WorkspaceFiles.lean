import BambooAgent.Tickets.Execute

/- A worker's file write, which publishes its intent before and its success after the
   bytes are installed, and the User's reconciliation of a write whose outcome is unknown. -/
namespace Tickets
open SortedMaps

def eqIgnoreAsciiCase (a b : String) : Bool :=
  a.toList.map Char.toLower == b.toList.map Char.toLower

def isControlName (name : String) : Bool :=
  eqIgnoreAsciiCase name ".git" || eqIgnoreAsciiCase name ".bamboo"

def isNormalWith (test : String → Bool) (component : PathComponent) : Bool :=
  match component with
  | .normal name => test name
  | _ => false

def isPlainComponent (component : PathComponent) : Bool :=
  match component with
  | .rootDir => true
  | .normal _ => true
  | _ => false

def fileRoot (files : Files) (workspace : ExecutionWorkspace) (path : String) :
    Result String := do
  let worktree := pathComponents workspace.worktree
  let components := pathComponents path
  rejectIf (worktree.isPrefixOf components = false)
    (.scopeDenied "file outside Assignment worktree")
  -- Control names are refused below the worktree, which may itself live under one.
  rejectIf (isAbsolute path = false ∨ components.all isPlainComponent = false ∨
      worktree.getLast?.any (isNormalWith isControlName) = true ∨
      (components.drop worktree.length).any (isNormalWith isControlName) = true ∨
      components.any (isNormalWith (fun name => eqIgnoreAsciiCase name ".git")) = true)
    (.scopeDenied
      "file path must be absolute without traversal, .git or workspace .bamboo controls")
  let root ← orElseErr (workspace.writeRoots.find? (fun root => pathStartsWith path root))
    (.scopeDenied "file outside Assignment write roots")
  rejectIf (pathStartsWith files.root root = true ∨ pathStartsWith root files.root = true)
    (.scopeDenied "TicketStore cannot be a Worker file root")
  return root

def observedHash (files : Files) (workspace : ExecutionWorkspace) (filePath : String) :
    Result (Option String) := do
  let root ← fileRoot files workspace filePath
  fromSystem (files.observedHash root filePath)

structure FileWrite where
  callId : String
  filePath : String
  content : String
  expectedSha256 : Option String

def FileWrite.operation (write : FileWrite) : FileOperation :=
  .write write.filePath write.content write.expectedSha256

def fileOperationId (codec : Codec) (authority : Authority) (callId : String) : String :=
  "worker-file/" ++ codec.contentHash (authority.identity ++ ":" ++ callId)

def storedArtifact (codec : Codec) (content : String) : Artifact :=
  ⟨managedArtifactPrefix ++ codec.contentHash content, codec.contentHash content⟩

def workerAssignment (authority : Authority) : Result String :=
  match authority.principal with
  | .worker assignmentId _ _ _ => .ok assignmentId
  | _ => fail (.scopeDenied "Worker file capability required")

/-- May this live run write this new file? -/
def admitFileWrite (files : Files) (snapshot : Snapshot) (a : Assignment)
    (operationId : String) (write : FileWrite) : Result Unit := do
  activePermit snapshot a
  rejectIf (a.allowedTools.contains "Write" = false) (.scopeDenied "file tool outside contract")
  rejectIf (a.effects.contains operationId = true)
    (.resourceBlocked "file effect outcome requires reconciliation; no automatic retry")
  let workspace ← orElseErr a.workspace
    (.scopeDenied "file capability has no isolated workspace")
  let root ← fileRoot files workspace write.filePath
  rejectIf (hasUnsettled a.effects = true)
    (.resourceBlocked "unresolved Assignment effect; no new file writes")
  let prior ← fromSystem (files.observedHash root write.filePath)
  rejectIf (write.content.utf8ByteSize > fileBytesLimit) .contextBudgetExceeded
  rejectIf (prior ≠ write.expectedSha256) .revisionConflict
  rejectIf (prior.isSome = true) (.scopeDenied
    "existing-file replacement requires atomic content CAS and is unsupported; create a new file instead")

def startedEffect (codec : Codec) (authority : Authority) (write : FileWrite) : Effect where
  actionFingerprint := codec.hash (.fileOperation write.operation)
  state := .started
  providerReceipt := none
  artifact := some (storedArtifact codec write.content)
  fileIntent := some ⟨authority.identity, codec.canonicalBytes (.fileOperation write.operation)⟩

/-- The first publication of a write: the intent and its complete content. `none` when an
    earlier receipt answers the call. -/
def startFileWrite (codec : Codec) (files : Files) (health : Health) (snapshot : Snapshot)
    (authority : Authority) (write : FileWrite) : Result (Option Snapshot) := do
  validateAuthority authority snapshot
  let assignmentId ← workerAssignment authority
  let a ← expect (snapshot.assignments.lookup assignmentId) "file assignment"
  authority.worker a
  rejectIf (write.callId = "" ∨ write.callId.utf8ByteSize > 128 ∨
      codec.size (.fileOperation write.operation) > 32768)
    (invalid "file callback budget exceeded")
  let operationId := fileOperationId codec authority write.callId
  match snapshot.receipts.lookup operationId with
  | some receipt => do
      rejectIf (receipt.principal ≠ authority.identity) (.scopeDenied "file receipt subject")
      rejectIf (receipt.requestHash ≠ codec.hash (.fileOperation write.operation))
        .idempotencyConflict
      return none
  | none => do
      rejectIf (health ≠ .writable) (unavailable health)
      admitFileWrite files snapshot a operationId write
      let begun := { snapshot with seq := snapshot.seq + 1 }.atLeastSchema 4
      let started ← updateAssignment begun assignmentId (fun a => { a with
        effects := a.effects.insert operationId (startedEffect codec authority write) })
      validateSnapshot codec started
      return some (publish started)

/-- Bytes already produced under another path add no progress to the receipt. -/
def alreadyProduced (a : Assignment) (artifact : Artifact) : Bool :=
  a.effects.values.any (fun effect => effect.fileIntent.isSome &&
    effect.state = .succeeded && effect.artifact = some artifact)

def fileReceiptIds (artifact : Artifact) : SortedMap String String :=
  (SortedMap.empty.insert "sha256" artifact.sha256).insert "artifact" artifact.uri

/-- The second publication, after the file was installed at `observedAtMs`. -/
def finishFileWrite (codec : Codec) (snapshot : Snapshot) (authority : Authority)
    (write : FileWrite) (observedAtMs : Int) : Result Snapshot := do
  let assignmentId ← workerAssignment authority
  let operationId := fileOperationId codec authority write.callId
  let artifact := storedArtifact codec write.content
  let begun := { snapshot with seq := snapshot.seq + 1 }
  let a ← expect (begun.assignments.lookup assignmentId) "verified Assignment"
  let effect ← expect (a.effects.lookup operationId) "durable intent"
  let succeeded := { effect with
    state := .succeeded
    providerReceipt := some ("local-file:" ++ artifact.sha256) }
  let finished ← updateAssignment begun assignmentId (fun a => { a with
    effects := a.effects.insert operationId succeeded })
  let ids := if alreadyProduced a artifact = false ∧ 0 < observedAtMs then
      (fileReceiptIds artifact).insert "workspace_write_progress_at_ms" (toString observedAtMs)
    else fileReceiptIds artifact
  let receipt : OperationReceipt := {
    operationId := operationId
    principal := authority.identity
    requestHash := codec.hash (.fileOperation write.operation)
    canonicalRequest := codec.canonicalBytes (.fileOperation write.operation)
    committedSeq := begun.seq
    ids := ids }
  let received := { finished with receipts := finished.receipts.insert operationId receipt }
  validateSnapshot codec received
  return publish received

/- Reconciliation of an uncertain write. -/

def requestBudget (operationId evidence : String) : Result Unit :=
  rejectIf (operationId = "" ∨ operationId.utf8ByteSize > 128 ∨
      startsWith operationId "worker-file/" = true ∨ trimIsEmpty evidence = true ∨
      evidence.utf8ByteSize > 4096) (invalid "invalid file reconciliation request")

/-- The intended bytes were seen in place of a write that never reported back. -/
def confirmObserved (codec : Codec) (files : Files) (snapshot : Snapshot) (a : Assignment)
    (request : FileReconcileRequest) : Result Effect := do
  rejectIf (request.expectedAssignmentRevision ≠ a.recordRevision) .revisionConflict
  rejectIf (a.processStopped = false ∨ a.state ≠ .outcomeUnknown)
    (.resourceBlocked "actual stopped Run required")
  let operation ← writeIntent codec a request.effectId
  let effect ← expect (a.effects.lookup request.effectId) "reconciled effect"
  let artifact ← expect effect.artifact "validated artifact"
  rejectIf (unsettled effect = false ∨ effect.actionFingerprint ≠ request.expectedRequestHash ∨
      artifact.sha256 ≠ request.intendedSha256) (invalid "file effect identity changed")
  let workspace ← expect a.workspace "file workspace"
  match operation with
  | .write filePath _ _ => do
      let observed ← observedHash files workspace filePath
      rejectIf (observed ≠ some request.intendedSha256) .revisionConflict
      rejectIf (snapshot.receipts.contains request.effectId = true)
        (invalid "unresolved effect already has a receipt")
      return effect
  | _ => .error (.panic "unreachable")

def retriedWork (seq : Nat) (work : Ticket) : Ticket :=
  if work.state = .cancelled then touch { work with activeAssignment := none } seq
  else touch { work with
    activeAssignment := none
    state := .blocked
    paused := true
    blocked := some ⟨"file effects reconciled; explicit retry required", .ready⟩ } seq

def releasedState (work : Ticket) : AssignmentState :=
  if work.state = .cancelled then .cancelled else .failed

/-- The assignment once nothing is uncertain about it any more, and its Work. -/
def releaseReconciled (snapshot : Snapshot) (id : String) (a : Assignment) : Result Snapshot :=
  if hasUnsettled a.effects = true then .ok (snapshot.putAssignment id a)
  else do
    let work ← expect (snapshot.tickets.lookup a.workId) "Work"
    let released := snapshot.putAssignment id { a with state := releasedState work }
    if work.activeAssignment = some a.id then
      return released.putTicket a.workId (retriedWork snapshot.seq work)
    else return released

def observedEffect (effect : Effect) : Effect :=
  { effect with
    state := .succeeded
    providerReceipt := some ("local-file-observed:" ++
      (effect.artifact.map (fun artifact => artifact.sha256)).getD "") }

def reconciledReceipts (codec : Codec) (authority : Authority) (request : FileReconcileRequest)
    (effect : Effect) (intent : FileWriteIntent) (artifact : Artifact) (released : Bool)
    (seq : Nat) (receipts : SortedMap String OperationReceipt) :
    SortedMap String OperationReceipt :=
  let ids := (((SortedMap.empty.insert "assignment_id" request.assignmentId).insert "effect_id"
    request.effectId).insert "sha256" artifact.sha256).insert "resource_released"
      (if released = true then "true" else "false")
  (receipts.insert request.effectId ⟨request.effectId, intent.principal,
    effect.actionFingerprint, intent.canonicalRequest, seq, fileReceiptIds artifact⟩).insert
    request.operationId ⟨request.operationId, authority.identity,
      codec.hash (.fileReconcileRequest request),
      codec.canonicalBytes (.fileReconcileRequest request), seq, ids⟩

/-- What a first, accepted reconciliation publishes. -/
def reconcileEffect (codec : Codec) (files : Files) (snapshot : Snapshot)
    (authority : Authority) (request : FileReconcileRequest) : Result Snapshot := do
  let a ← orElseErr (snapshot.assignments.lookup request.assignmentId)
    (invalid "Assignment missing")
  let effect ← confirmObserved codec files snapshot a request
  let intent ← expect effect.fileIntent "frozen intent"
  let artifact ← expect effect.artifact "validated artifact"
  let begun := { snapshot with seq := snapshot.seq + 1 }
  let settled := bump { a with
    effects := a.effects.insert request.effectId (observedEffect effect) } begun.seq
  let released ← releaseReconciled begun request.assignmentId settled
  let received := { released with
    receipts := reconciledReceipts codec authority request effect intent artifact
      (!hasUnsettled settled.effects) begun.seq released.receipts }
  validateSnapshot codec received
  return publish received

/-- `commit` is the published commit; `offline` a verified offline inspection of it. -/
def reconcileFileEffect (codec : Codec) (files : Files) (health : Health) (offline : Bool)
    (commit : String) (snapshot : Snapshot) (authority : Authority)
    (request : FileReconcileRequest) : Result (Option Snapshot) := do
  validateAuthority authority snapshot
  authority.user
  rejectIf (request.binding ≠ snapshot.binding) (.scopeDenied "reconciliation scope binding")
  requestBudget request.operationId request.evidence
  rejectIf (codec.size (.fileReconcileRequest request) > 32768)
    (invalid "file reconciliation request exceeds budget")
  match snapshot.receipts.lookup request.operationId with
  | some receipt => do
      let _ ← replay authority (codec.hash (.fileReconcileRequest request)) receipt
      return none
  | none => do
      rejectIf (health ≠ .writable ∧ offline = false) (unavailable health)
      rejectIf (request.expectedCommit ≠ commit ∨ request.expectedSeq ≠ snapshot.seq ∨
          request.expectedEpoch ≠ snapshot.authorityEpoch) .revisionConflict
      let next ← reconcileEffect codec files snapshot authority request
      return some next

end Tickets
