import BambooAgent.Library.SortedMap

/- The records of one Ticket scope, field by field. Counters (sequence numbers,
   revisions, epochs) are unbounded Nat; texts are String and compare by content. -/
namespace Tickets
open SortedMaps

/-- Opaque stable identity of a Project; a Sprint id has the same form. -/
abbrev ProjectId := String
abbrev SprintId := String

structure ScopeBinding where
  scopeId : String
  supervisorSessionId : String
  bindingRevision : Nat
  deriving DecidableEq

inductive TicketKind where
  | goal
  | work
  | step
  deriving DecidableEq

inductive WorkState where
  | draft
  | ready
  | active
  | submitted
  | accepted
  | blocked
  | cancelled
  deriving DecidableEq

inductive TaskPriority where
  | low
  | medium
  | high
  | critical
  deriving DecidableEq

structure Contract where
  title : String
  objective : String
  constraints : List String
  acceptance : List String
  userAcceptanceRequired : Bool
  allowedTools : SortedSet String
  deriving DecidableEq

structure BlockReason where
  reason : String
  resumeState : WorkState
  deriving DecidableEq

structure Artifact where
  uri : String
  sha256 : String
  deriving DecidableEq

structure ImportSource where
  sessionId : String
  taskId : String
  snapshotHash : String
  originalState : String
  artifact : Option Artifact
  deriving DecidableEq

structure Ticket where
  id : String
  scopeId : String
  kind : TicketKind
  parent : Option String
  dependsOn : SortedSet String
  recordRevision : Nat
  contractRevision : Nat
  generation : Nat
  contract : Contract
  priority : TaskPriority
  expectedCompletionAt : Option String
  state : WorkState
  blocked : Option BlockReason
  paused : Bool
  archived : Bool
  activeAssignment : Option String
  currentSubmission : Option String
  acceptedSubmission : Option String
  updatedSeq : Nat
  importSource : Option ImportSource
  deriving DecidableEq

inductive AssignmentState where
  | planned
  | dispatchPending
  | admitted
  | running
  | submitted
  | blocked
  | failed
  | cancelling
  | cancelled
  | outcomeUnknown
  deriving DecidableEq

structure DependencyInput where
  workId : String
  submissionId : String
  contractRevision : Nat
  artifactHashes : List String
  deriving DecidableEq

inductive StepStatus where
  | pending
  | inProgress
  | completed
  | blocked
  deriving DecidableEq

structure LocalStep where
  id : String
  parent : Option String
  title : String
  completed : Bool
  status : Option StepStatus
  deriving DecidableEq

structure LocalPlan where
  planRevision : Nat
  steps : List LocalStep
  deriving DecidableEq

structure ExecutionWorkspace where
  repo : String
  baseCommit : String
  branch : String
  worktree : String
  writeRoots : List String
  claims : SortedSet String
  deriving DecidableEq

structure RuntimeReceipt where
  dispatchKey : String
  specHash : String
  runId : String
  sessionId : String
  deriving DecidableEq

inductive EffectState where
  | planned
  | started
  | succeeded
  | failedBeforeEffect
  | outcomeUnknown
  deriving DecidableEq

structure FileWriteIntent where
  principal : String
  canonicalRequest : String
  deriving DecidableEq

structure Effect where
  actionFingerprint : String
  state : EffectState
  providerReceipt : Option String
  artifact : Option Artifact
  fileIntent : Option FileWriteIntent
  deriving DecidableEq

structure Assignment where
  id : String
  workId : String
  generation : Nat
  contractRevision : Nat
  authorityEpoch : Nat
  recordRevision : Nat
  state : AssignmentState
  dispatchKey : String
  runtime : Option RuntimeReceipt
  processStopped : Bool
  awaitingRequest : Option String
  dependencyInputs : List DependencyInput
  plan : LocalPlan
  workspace : Option ExecutionWorkspace
  allowedTools : SortedSet String
  effects : SortedMap String Effect
  updatedSeq : Nat
  deriving DecidableEq

structure Submission where
  id : String
  workId : String
  assignmentId : String
  generation : Nat
  contractRevision : Nat
  runtime : RuntimeReceipt
  dependencyInputs : List DependencyInput
  artifacts : List Artifact
  evidence : List String
  effects : SortedMap String Effect
  stale : Bool
  updatedSeq : Nat
  deriving DecidableEq

structure Action where
  kind : String
  target : String
  dataHash : String
  amount : Option String
  permissions : SortedSet String
  risk : String
  deriving DecidableEq

inductive RequestKind where
  | question
  | approval (action : Action) (fingerprint : String)
  deriving DecidableEq

inductive RequestStatus where
  | opened
  | answered
  | approved
  | denied
  | superseded
  | expired
  | consumed
  deriving DecidableEq

structure PendingRequest where
  id : String
  workId : String
  assignmentId : Option String
  generation : Nat
  contractRevision : Nat
  promptRevision : Nat
  kind : RequestKind
  prompt : String
  status : RequestStatus
  answer : Option String
  consumedAttempt : Option String
  workerPacketHash : Option String
  updatedSeq : Nat
  deriving DecidableEq

structure DispatchSpec where
  projectContextHash : Option String
  binding : ScopeBinding
  workId : String
  assignmentId : String
  generation : Nat
  contractRevision : Nat
  authorityEpoch : Nat
  contract : Contract
  dependencyInputs : List DependencyInput
  workspace : Option ExecutionWorkspace
  deriving DecidableEq

structure DispatchIntent where
  assignmentId : String
  dispatchKey : String
  immutableSpec : DispatchSpec
  specHash : String
  receipt : Option RuntimeReceipt
  deriving DecidableEq

structure OperationReceipt where
  operationId : String
  principal : String
  requestHash : String
  canonicalRequest : String
  committedSeq : Nat
  ids : SortedMap String String
  deriving DecidableEq

/- Human messages resolved into groups of typed operations. -/

structure HumanIngressRecord where
  userId : String
  sourceIngressSeq : Nat
  text : String
  threadId : Option String
  inReplyTo : Option String
  correlationId : Option String
  deriving DecidableEq

structure ResolutionBasis where
  commit : String
  seq : Nat
  graphRevision : Nat
  authorityEpoch : Nat
  deriving DecidableEq

inductive TicketReference where
  | existing (id : String) (recordRevision contractRevision generation : Nat)
  | temporary (id : String)
  deriving DecidableEq

structure RequestReference where
  requestId : String
  workId : String
  assignmentId : Option String
  generation : Nat
  contractRevision : Nat
  promptRevision : Nat
  deriving DecidableEq

inductive SemanticOperation where
  | create (tempId : String) (kind : TicketKind) (parent : Option TicketReference)
      (contract : Contract) (dependsOn : List TicketReference)
  | ready (target : TicketReference)
  | steer (target : TicketReference) (contract : Contract)
  | setDependencies (target : TicketReference) (dependsOn : List TicketReference)
  | start (target : TicketReference) (tempId : String) (workspace : Option ExecutionWorkspace)
  | pause (target : TicketReference) (reason : String)
  | cancel (target : TicketReference)
  | retry (target : TicketReference)
  | answer (target : RequestReference) (answer : String)
  | decideApproval (target : RequestReference) (fingerprint : String) (approve : Bool)
  | accept (target : TicketReference) (submissionId : String) (evidence : List String)
  | reject (target : TicketReference) (submissionId reason : String)
  | archive (target : TicketReference) (archived : Bool)
  deriving DecidableEq

structure SemanticGroup where
  groupId : String
  itemIds : List String
  sourceQuote : String
  operations : List SemanticOperation
  clarification : Option String
  deriving DecidableEq

structure MessageProposal where
  groups : List SemanticGroup
  deriving DecidableEq

inductive ResolutionStatus where
  | proposed
  | committed
  | needsClarification
  | rejected
  | stale
  deriving DecidableEq

structure ResolutionGroup where
  operationId : String
  status : ResolutionStatus
  reason : Option String
  itemIds : List String
  receipt : Option OperationReceipt
  deriving DecidableEq

structure MessageResolution where
  messageId : String
  ingressSeq : Nat
  messageHash : String
  groups : List ResolutionGroup
  ingress : Option HumanIngressRecord
  basis : Option ResolutionBasis
  proposal : Option MessageProposal
  proposalHash : Option String
  updatedSeq : Option Nat
  deriving DecidableEq

/- Project membership, Sprint planning, the token ledger and authority transfer. -/

structure WorkspaceBinding where
  path : String
  label : Option String
  gitCommonDir : Option String
  deriving DecidableEq

structure ProjectContextSnapshot where
  projectId : ProjectId
  projectRevision : Nat
  resourceRevision : Nat
  workspaceBinding : WorkspaceBinding
  contractRevision : Nat
  contract : Contract
  sources : SortedMap String String
  deriving DecidableEq

structure ProjectTicketState where
  links : SortedMap String ProjectId
  contexts : SortedMap String ProjectContextSnapshot
  workContexts : SortedMap String String
  assignmentContexts : SortedMap String String
  deriving DecidableEq

inductive SprintStatus where
  | planned
  | active
  | closed
  deriving DecidableEq

structure SprintDefinition where
  name : String
  goal : String
  startsAt : Option Int
  endsAt : Option Int
  deriving DecidableEq

inductive SprintMembershipChange where
  | added
  | removed
  | carriedIn (source : SprintId)
  | carriedOut (target : Option SprintId)
  deriving DecidableEq

structure SprintMembershipEvent where
  workId : String
  workRevision : Nat
  seq : Nat
  operationId : String
  principal : String
  source : String
  change : SprintMembershipChange
  deriving DecidableEq

inductive SprintCloseDisposition where
  | accepted
  | cancelled
  | backlog
  | sprint (sprintId : SprintId)
  deriving DecidableEq

structure SprintWorkVersion where
  recordRevision : Nat
  contractRevision : Nat
  generation : Nat
  state : WorkState
  blockedResumeState : Option WorkState
  paused : Bool
  archived : Bool
  currentSubmission : Option String
  acceptedSubmission : Option String
  activeAssignment : Option String
  contextHash : Option String
  accepted : Bool
  deriving DecidableEq

structure SprintCounts where
  total : Nat
  accepted : Nat
  pendingAcceptance : Nat
  blocked : Nat
  cancelled : Nat
  unfinished : Nat
  deriving DecidableEq

structure SprintClosedMember where
  version : SprintWorkVersion
  disposition : SprintCloseDisposition
  deriving DecidableEq

structure SprintClosure where
  sourceCommit : String
  sourceSeq : Nat
  closedSeq : Nat
  members : SortedMap String SprintClosedMember
  counts : SprintCounts
  deriving DecidableEq

structure Sprint where
  id : SprintId
  projectId : ProjectId
  definition : SprintDefinition
  status : SprintStatus
  revision : Nat
  createdSeq : Nat
  updatedSeq : Nat
  members : SortedSet String
  history : List SprintMembershipEvent
  closure : Option SprintClosure
  deriving DecidableEq

structure SprintPlanningState where
  sprints : SortedMap SprintId Sprint
  deriving DecidableEq

inductive SprintDestination where
  | backlog
  | sprint (sprintId : SprintId)

inductive SprintAction where
  | create (definition : SprintDefinition)
  | edit (expectedRevision : Nat) (definition : SprintDefinition)
  | start (expectedRevision : Nat)
  | add (expectedRevision : Nat) (workId : String)
  | remove (expectedRevision : Nat) (workId : String)
  | close (expectedRevision : Nat) (dispositions : SortedMap String SprintDestination)
      (targetRevisions : SortedMap SprintId Nat)

structure SprintCommand where
  operationId : String
  binding : ScopeBinding
  expectedSeq : Nat
  expectedEpoch : Nat
  projectId : ProjectId
  sprintId : SprintId
  source : String
  action : SprintAction

structure SprintReceipt where
  operation : OperationReceipt
  closure : Option SprintClosure

structure WorkTokenLimits where
  workTokens : SortedMap String Nat
  utcDayTokens : Nat
  totalTokens : Nat
  deriving DecidableEq

inductive ExecutionBudgetPurpose where
  | worker
  | patrol
  | supervisorDecision
  deriving DecidableEq

structure WorkTokenAttempt where
  assignmentId : String
  generation : Nat
  authorityEpoch : Nat
  deriving DecidableEq

structure WorkTokenRequest where
  operationId : String
  projectId : ProjectId
  workId : String
  purpose : ExecutionBudgetPurpose
  requestHash : String
  observedSeq : Nat
  inputCap : Nat
  outputCap : Nat
  attempt : Option WorkTokenAttempt
  deriving DecidableEq

structure WorkTokenConfiguration where
  revision : Nat
  userId : String
  committedSeq : Nat
  limits : Option WorkTokenLimits
  deriving DecidableEq

inductive ExecutionTokenUsage where
  | known (inputTokens outputTokens : Nat)
  | unknown
  deriving DecidableEq

structure ExecutionTokenOverCapUsage where
  inputTokens : Option Nat
  outputTokens : Option Nat
  totalTokens : Option Nat
  deriving DecidableEq

structure WorkTokenReservation where
  request : WorkTokenRequest
  receipt : String
  utcDay : Nat
  usage : Option ExecutionTokenUsage
  overCapUsage : Option ExecutionTokenOverCapUsage
  deriving DecidableEq

structure WorkTokenBudget where
  revision : Nat
  limits : Option WorkTokenLimits
  currentUtcDay : Option Nat
  lastReservationMs : Option Nat
  totalCharged : Nat
  dailyCharged : Nat
  workCharged : SortedMap String Nat
  reservations : SortedMap String WorkTokenReservation
  configurations : SortedMap Nat WorkTokenConfiguration
  deriving DecidableEq

structure MigrationRequest where
  operationId : String
  binding : ScopeBinding
  expectedCommit : String
  expectedSeq : Nat
  expectedEpoch : Nat
  sourceRoot : String
  destinationRoot : String
  supervisorSnapshotHash : Option String
  deriving DecidableEq

inductive MigrationStage where
  | sourceRetired
  | sourceTransferred
  | destinationActivated
  deriving DecidableEq

structure MigrationReceipt where
  request : MigrationRequest
  principal : String
  requestHash : String
  stage : MigrationStage
  retiredSeq : Nat
  sourceRetiredCommit : Option String
  activationCommit : Option String
  activatedSeq : Option Nat
  supervisorSnapshot : Option Artifact
  deriving DecidableEq

/-- Everything one publication commits together. -/
structure Snapshot where
  schema : Nat
  executionBudget : Option WorkTokenBudget
  executionFactsSeq : Option Nat
  project : ProjectTicketState
  sprint : SprintPlanningState
  binding : ScopeBinding
  seq : Nat
  graphRevision : Nat
  authorityEpoch : Nat
  tickets : SortedMap String Ticket
  assignments : SortedMap String Assignment
  requests : SortedMap String PendingRequest
  submissions : SortedMap String Submission
  receipts : SortedMap String OperationReceipt
  intents : SortedMap String DispatchIntent
  resolutions : SortedMap String MessageResolution
  migration : Option MigrationReceipt
  legacyAttachment : Option ImportSource
  deriving DecidableEq

def ProjectTicketState.empty : ProjectTicketState :=
  ⟨SortedMap.empty, SortedMap.empty, SortedMap.empty, SortedMap.empty⟩

def ProjectTicketState.isEmpty (p : ProjectTicketState) : Bool :=
  p.links.isEmpty && p.contexts.isEmpty && p.workContexts.isEmpty && p.assignmentContexts.isEmpty

def SprintPlanningState.isEmpty (p : SprintPlanningState) : Bool := p.sprints.isEmpty

def Snapshot.empty (binding : ScopeBinding) : Snapshot where
  schema := 1
  executionBudget := none
  executionFactsSeq := none
  project := ProjectTicketState.empty
  sprint := ⟨SortedMap.empty⟩
  binding := binding
  seq := 0
  graphRevision := 0
  authorityEpoch := 0
  tickets := SortedMap.empty
  assignments := SortedMap.empty
  requests := SortedMap.empty
  submissions := SortedMap.empty
  receipts := SortedMap.empty
  intents := SortedMap.empty
  resolutions := SortedMap.empty
  migration := none
  legacyAttachment := none

/-- The typed operations a command carries. -/
inductive Operation where
  | associateProject (ticketId : String) (projectId : ProjectId)
  | setProjectContext (workId : String) (context : ProjectContextSnapshot)
  | create (tempId : String) (kind : TicketKind) (parent : Option String)
      (contract : Contract) (dependsOn : SortedSet String)
  | setPlanningMetadata (ticketId : String) (expectedRecordRevision : Nat)
      (priority : TaskPriority) (expectedCompletionAt : Option String)
  | ready (workId : String)
  | updateContract (workId : String) (contract : Contract)
  | setDependencies (workId : String) (dependsOn : SortedSet String)
  | start (workId tempId : String) (workspace : Option ExecutionWorkspace)
  | admitted (assignmentId : String) (receipt : RuntimeReceipt)
  | running (assignmentId : String)
  | replacePlan (assignmentId : String) (expectedPlanRevision : Nat) (steps : List LocalStep)
  | ask (workId tempId prompt : String) (action : Option Action)
  | yieldForInput (assignmentId requestId packetHash : String)
  | answer (requestId : String) (promptRevision : Nat) (answer : String)
  | decideApproval (requestId : String) (promptRevision : Nat) (fingerprint : String)
      (approve : Bool)
  | consumeApproval (requestId fingerprint attemptId : String)
  | recordEffect (assignmentId attemptId : String) (effect : Effect)
  | submit (assignmentId tempId : String) (artifacts : List Artifact) (evidence : List String)
  | accept (workId submissionId : String) (evidence : List String)
  | acceptGoal (goalId : String) (evidence : List String)
  | reject (workId submissionId reason : String)
  | cancel (workId : String)
  | pause (workId reason : String)
  | confirmStopped (assignmentId : String) (effectsReconciled : Bool)
  | runtimeStopped (assignmentId : String) (receipt : RuntimeReceipt) (completed : Bool)
  | reconcileCompleted (assignmentId : String) (receipt : RuntimeReceipt)
  | outcomeUnknown (assignmentId reason : String)
  | reopen (workId : String)
  | archive (ticketId : String) (archived : Bool)
  | resolveMessage (resolution : MessageResolution)
  | importLegacy (tempId : String) (contract : Contract) (source : ImportSource)
  | attachLegacy (source : ImportSource)

/-- Original adapter input; the text is the canonical form of its JSON arguments. -/
inductive CommandSource where
  | workerTask (arguments : String) (isObject : Bool)

structure Command where
  operationId : String
  binding : ScopeBinding
  expectedSeq : Nat
  expectedEpoch : Nat
  operations : List Operation
  source : Option CommandSource

inductive FileOperation where
  | read (filePath : String)
  | readPage (filePath : String) (offsetBytes maxBytes : Nat) (expectedSha256 : Option String)
  | write (filePath content : String) (expectedSha256 : Option String)

structure FileReconcileRequest where
  operationId : String
  binding : ScopeBinding
  expectedCommit : String
  expectedSeq : Nat
  expectedEpoch : Nat
  assignmentId : String
  expectedAssignmentRevision : Nat
  effectId : String
  expectedRequestHash : String
  intendedSha256 : String
  evidence : String

structure AnsweredInput where
  requestId : String
  workId : String
  assignmentId : Option String
  generation : Nat
  contractRevision : Nat
  promptRevision : Nat
  prompt : String
  answer : String
  updatedSeq : Nat

structure ContextArtifact where
  source : DependencyInput
  artifact : Artifact
  utf8 : String

structure WorkContextPacket where
  projectContext : Option ProjectContextSnapshot
  contractRef : String
  contractRevision : Nat
  generation : Nat
  assignmentId : String
  binding : ScopeBinding
  contract : Contract
  inputs : List DependencyInput
  inputArtifacts : List ContextArtifact
  workspace : Option ExecutionWorkspace
  answers : List AnsweredInput
  resultContract : String

/-- The values whose canonical JSON the scope measures, compares or hashes. -/
inductive Serializable where
  | contract (value : Contract)
  | action (value : Action)
  | dispatchSpec (value : DispatchSpec)
  | projectContext (value : ProjectContextSnapshot)
  | command (value : Command)
  | operations (value : List Operation)
  | sprintCommand (value : SprintCommand)
  | commandSource (value : CommandSource)
  | fileOperation (value : FileOperation)
  | fileReconcileRequest (value : FileReconcileRequest)
  | messageResolution (value : MessageResolution)
  | importSource (value : ImportSource)
  | humanIngress (value : HumanIngressRecord)
  | messageProposal (value : MessageProposal)
  | migrationRequest (value : MigrationRequest)
  | tokenRequest (binding : ScopeBinding) (value : WorkTokenRequest)
  | contextPacket (value : WorkContextPacket)

inductive Error where
  | scopeDenied (reason : String)
  | revisionConflict
  | idempotencyConflict
  | invalidTransition (reason : String)
  | dependencyCycle
  | resourceBlocked (reason : String)
  | authorityUnavailable (reason : String)
  | resyncRequired
  | contextBudgetExceeded
  | io
  | json
  deriving DecidableEq

end Tickets
