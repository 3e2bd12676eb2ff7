import BambooAgent.Library.Chains
import BambooAgent.Library.Worklist
import BambooAgent.Tickets.Ledgers

/- The check of a whole snapshot: what surrounds the Tickets first, then containment,
   dependencies and active assignments of every Ticket, then every assignment. -/
namespace Tickets
open SortedMaps SortedMap

def importedArtifact (work : Ticket) : Bool :=
  work.importSource.any (fun source => source.artifact.isSome)

def hasFileEffects (snapshot : Snapshot) : Bool :=
  snapshot.assignments.values.any (fun a => a.effects.values.any (fun e => e.artifact.isSome))

def legacySources (snapshot : Snapshot) : Bool :=
  snapshot.legacyAttachment.isSome || snapshot.tickets.values.any importedArtifact

def validateStage (snapshot : Snapshot) (r : MigrationReceipt) (activationSeq : Nat) :
    Result Unit :=
  let transferred := r.sourceRetiredCommit.any validHash && r.activatedSeq = some activationSeq
  let valid := match r.stage with
    | .sourceRetired => snapshot.seq = r.retiredSeq &&
        snapshot.authorityEpoch = r.request.expectedEpoch && r.sourceRetiredCommit.isNone &&
        r.activationCommit.isNone && r.activatedSeq.isNone
    | .sourceTransferred => snapshot.seq = activationSeq &&
        snapshot.authorityEpoch = r.request.expectedEpoch && transferred &&
        r.activationCommit.any validHash
    | .destinationActivated => activationSeq ≤ snapshot.seq &&
        r.request.expectedEpoch < snapshot.authorityEpoch && transferred &&
        r.activationCommit.isNone
  rejectIf (valid = false) (.authorityUnavailable "migration stage/header mismatch")

def validateMigrationReceipt (codec : Codec) (snapshot : Snapshot) (r : MigrationReceipt) :
    Result Unit := do
  let activationSeq ← orElseErr (checkedAdd r.retiredSeq 1)
    (.authorityUnavailable "migration sequence overflow")
  rejectIf (r.request.binding ≠ snapshot.binding ∨ r.principal = "" ∨
      validHash r.request.expectedCommit = false ∨ r.request.operationId = "" ∨
      r.request.operationId.utf8ByteSize > 256 ∨
      r.requestHash ≠ codec.hash (.migrationRequest r.request))
    (.authorityUnavailable "invalid migration receipt")
  let expectedRetired ← orElseErr (checkedAdd r.request.expectedSeq 1) .revisionConflict
  rejectIf (r.retiredSeq ≠ expectedRetired ∨
      r.request.sourceRoot = r.request.destinationRoot ∨
      isAbsolute r.request.sourceRoot = false ∨ isAbsolute r.request.destinationRoot = false ∨
      r.supervisorSnapshot.map (fun a => a.sha256) ≠ r.request.supervisorSnapshotHash)
    (.authorityUnavailable "invalid migration receipt")
  let receipt ← orElseErr (snapshot.receipts.lookup r.request.operationId)
    (.authorityUnavailable "migration lacks immutable operation receipt")
  rejectIf (receipt.principal ≠ r.principal ∨ receipt.requestHash ≠ r.requestHash ∨
      receipt.committedSeq ≠ r.retiredSeq ∨
      receipt.canonicalRequest ≠ codec.canonicalBytes (.migrationRequest r.request))
    (.authorityUnavailable "migration operation receipt mismatch")
  validateStage snapshot r activationSeq

/-- Which schema numbers a snapshot without a transfer may carry. -/
def schemaSupported (snapshot : Snapshot) : Bool :=
  match snapshot.schema with
  | 1 => !legacySources snapshot
  | 2 => legacySources snapshot
  | 3 => hasFileEffects snapshot
  | 4 => hasFileEffects snapshot
  | 5 => !snapshot.project.isEmpty
  | 6 => !snapshot.sprint.isEmpty
  | 7 => true
  | 8 => snapshot.executionBudget.isSome
  | _ => false

def validateSource (source : ImportSource) : Result Unit :=
  match source.artifact with
  | none => .ok ()
  | some a =>
      rejectIf (validHash source.snapshotHash = false ∨ a.sha256 ≠ source.snapshotHash ∨
          a.uri ≠ managedArtifactPrefix ++ source.snapshotHash)
        (.authorityUnavailable "legacy source Artifact/hash mismatch")

def validateMigration (codec : Codec) (snapshot : Snapshot) : Result Unit := do
  rejectIf (hasFileEffects snapshot = true ∧ ¬ (3 ≤ snapshot.schema ∧ snapshot.schema ≤ 8))
    (.authorityUnavailable "file effect ledger requires schema 3..=8")
  match snapshot.migration with
  | none =>
      rejectIf (schemaSupported snapshot = false)
        (.authorityUnavailable "unsupported or incomplete snapshot schema")
  | some r => do
      rejectIf (¬ (2 ≤ snapshot.schema ∧ snapshot.schema ≤ 8))
        (.authorityUnavailable "unsupported or incomplete snapshot schema")
      validateMigrationReceipt codec snapshot r
  each (snapshot.tickets.values.filterMap (fun work => work.importSource) ++
      snapshot.legacyAttachment.toList) validateSource
  match snapshot.migration.bind (fun r => r.supervisorSnapshot) with
  | none => .ok ()
  | some a =>
      rejectIf (validHash a.sha256 = false ∨ a.uri ≠ managedArtifactPrefix ++ a.sha256)
        (.authorityUnavailable "Supervisor snapshot Artifact invalid")

def writeIntent (codec : Codec) (a : Assignment) (effectId : String) : Result FileOperation := do
  rejectIf (a.workspace = none) (invalid "file intent lacks an isolated workspace")
  let effect ← orElseErr (a.effects.lookup effectId) (invalid "file effect missing")
  let intent ← orElseErr effect.fileIntent
    (.resourceBlocked "legacy file effect lacks a frozen request")
  let runtime ← orElseErr a.runtime (invalid "file intent lacks Runtime receipt")
  let principal := "worker:" ++ a.id ++ ":" ++ toString a.generation ++ ":" ++ runtime.runId ++
    ":" ++ runtime.sessionId
  let operation ← orElseErr (codec.parseFileOperation intent.canonicalRequest) .json
  match operation with
  | .write _ content _ => do
      rejectIf (startsWith effectId "worker-file/" = false ∨ intent.principal ≠ principal ∨
          intent.canonicalRequest.utf8ByteSize > 32768 ∨ content.utf8ByteSize > fileBytesLimit ∨
          codec.canonicalBytes (.fileOperation operation) ≠ intent.canonicalRequest ∨
          codec.contentHash intent.canonicalRequest ≠ effect.actionFingerprint ∨
          effect.artifact.map (fun artifact => artifact.sha256) ≠ some (codec.contentHash content))
        (invalid "invalid immutable file intent")
      return operation
  | _ => fail (invalid "file intent is not a write")

def validateFileIntents (codec : Codec) (snapshot : Snapshot) : Result Unit :=
  each snapshot.assignments.values (fun a => each a.effects.entries (fun entry =>
    if entry.2.fileIntent.isSome then do
      rejectIf (snapshot.schema < 4)
        (.authorityUnavailable "frozen file intent requires schema 4")
      let _ ← writeIntent codec a entry.1
    else .ok ()))

def groupOperationId (codec : Codec) (messageId groupId : String) : String :=
  "message/" ++ codec.contentHash messageId ++ "/" ++ codec.contentHash groupId

def validateShape (codec : Codec) (proposal : MessageProposal) : Result Unit := do
  rejectIf (proposal.groups.length > 16 ∨ codec.size (.messageProposal proposal) > 131072 ∨
      (proposal.groups.map (fun g => g.operations.length)).sum > 64) .contextBudgetExceeded
  -- The two sets of the source refuse a group or an item named a second time.
  rejectIf (¬ (proposal.groups.map (fun g => g.groupId)).Nodup ∨
      ¬ (proposal.groups.flatMap (fun g => g.itemIds)).Nodup ∨
      proposal.groups.any (fun group => group.groupId = "" ||
        64 < group.groupId.utf8ByteSize || group.itemIds.isEmpty || 16 < group.itemIds.length ||
        group.itemIds.any (fun id => id = "" || 64 < id.utf8ByteSize) ||
        32768 < group.sourceQuote.utf8ByteSize ||
        group.clarification.any (fun s => s = "" || 2048 < s.utf8ByteSize)) = true)
    (invalid "invalid semantic group/item bounds")

def validateGroupOutcome (codec : Codec) (snapshot : Snapshot) (messageId userId : String)
    (pair : SemanticGroup × ResolutionGroup) : Result Unit := do
  let group := pair.2
  rejectIf (group.operationId ≠ groupOperationId codec messageId pair.1.groupId ∨
      group.itemIds ≠ pair.1.itemIds) (invalid "saved semantic group identity changed")
  if group.status = .committed then do
    let receipt ← orElseErr group.receipt (invalid "committed group lacks receipt")
    rejectIf (snapshot.receipts.lookup group.operationId ≠ some receipt ∨
        receipt.principal ≠ "user:" ++ userId) (invalid "semantic receipt subject mismatch")
  else rejectIf (group.receipt.isSome = true) (invalid "uncommitted group has success receipt")

def validateProposal (codec : Codec) (snapshot : Snapshot) (messageId : String)
    (resolution : MessageResolution) (human : HumanIngressRecord) : Result Unit :=
  match resolution.proposal with
  | none => rejectIf (resolution.proposalHash.isSome = true ∨ resolution.groups ≠ [])
      (invalid "unsaved proposal has group outcomes")
  | some proposal => do
      rejectIf (resolution.basis = none) (invalid "proposal lacks fixed basis")
      validateShape codec proposal
      rejectIf (resolution.proposalHash ≠ some (codec.hash (.messageProposal proposal)) ∨
          proposal.groups.length ≠ resolution.groups.length)
        (invalid "saved proposal hash/group mismatch")
      each (proposal.groups.zip resolution.groups)
        (validateGroupOutcome codec snapshot messageId human.userId)

def validateResolution (codec : Codec) (snapshot : Snapshot) (ingress : SortedSet Nat)
    (entry : String × MessageResolution) : Result (SortedSet Nat) := do
  let resolution := entry.2
  rejectIf (entry.1 ≠ resolution.messageId ∨ ingress.contains resolution.ingressSeq = true)
    (invalid "resolution identity/sequence mismatch")
  match resolution.ingress with
  | none => .ok ()
  | some human => do
      rejectIf (human.userId = "" ∨ human.sourceIngressSeq = 0 ∨
          resolution.messageHash ≠ codec.hash (.humanIngress human) ∨
          resolution.basis.any (fun b => b.commit.utf8ByteSize ≠ 64) = true ∨
          ¬ (resolution.updatedSeq.any (fun s => s ≤ snapshot.seq) = true))
        (invalid "Human resolution hash/basis mismatch")
      validateProposal codec snapshot entry.1 resolution human
  return ingress.insert resolution.ingressSeq

def validateHistory (codec : Codec) (snapshot : Snapshot) : Result Unit := do
  let _ ← snapshot.resolutions.entries.foldlM (validateResolution codec snapshot) SortedSet.empty

/-- Containment as a partial parent function: no record, a root, or a parent. -/
def parentLink (snapshot : Snapshot) (id : String) : Option (Option String) :=
  (snapshot.tickets.lookup id).map (fun work => work.parent)

def containmentKinds (parent child : TicketKind) : Bool :=
  match parent, child with
  | .goal, .goal => true
  | .goal, .work => true
  | .work, .step => true
  | .step, .step => true
  | _, _ => false

def validateParent (snapshot : Snapshot) (work : Ticket) : Result Unit :=
  match work.parent with
  | none => .ok ()
  | some id => do
      let parent ← ticket snapshot id
      rejectIf (containmentKinds parent.kind work.kind = false)
        (invalid "invalid containment kinds")

def validateContainment (snapshot : Snapshot) (work : Ticket) : Result Unit :=
  match Chains.guardedWalk (parentLink snapshot) (snapshot.tickets.size + 1) [] (some work.id) with
  | .ended => .ok ()
  | .missing => fail (invalid "ticket not found")
  | .repeated => fail .dependencyCycle
  | .exhausted => .error .diverges

/-- What one prerequisite met while looking for a cycle back to `self` adds to the stack. -/
def prerequisites (snapshot : Snapshot) (self id : String) : Result (List String) := do
  rejectIf (id = self) .dependencyCycle
  let prerequisite ← ticket snapshot id
  rejectIf (prerequisite.kind ≠ .work) (invalid "dependency prerequisite must be Work")
  return prerequisite.dependsOn.items.reverse

def dependencyCount (snapshot : Snapshot) : Nat :=
  (snapshot.tickets.values.map (fun work => work.dependsOn.items.length)).sum

def validateDependencies (snapshot : Snapshot) (work : Ticket) : Result Unit :=
  match Worklists.explore (prerequisites snapshot work.id)
      (work.dependsOn.items.length + dependencyCount snapshot) SortedSet.empty
      work.dependsOn.items.reverse with
  | some result => result
  | none => .error .diverges

def validateActive (snapshot : Snapshot) (work : Ticket) : Result Unit :=
  match work.activeAssignment with
  | none => .ok ()
  | some id => do
      let a ← assignment snapshot id
      rejectIf (a.workId ≠ work.id) (invalid "active assignment mismatch")

def validateTicket (snapshot : Snapshot) (id : String) (work : Ticket) : Result Unit := do
  rejectIf (id ≠ work.id) (invalid "Ticket manifest identity mismatch")
  rejectIf (work.scopeId ≠ snapshot.binding.scopeId) (.scopeDenied "cross-scope Ticket")
  rejectIf (work.paused = true ∧ (work.state ≠ .blocked ∨ work.blocked = none))
    (invalid "paused Work requires an explicit blocked reason")
  validateParent snapshot work
  validateContainment snapshot work
  rejectIf (work.dependsOn.isEmpty = false ∧ work.kind ≠ .work)
    (invalid "only Work can have execution dependencies")
  validateDependencies snapshot work
  validateActive snapshot work

def validateAwaited (snapshot : Snapshot) (a : Assignment) : Result Unit :=
  match a.awaitingRequest with
  | none => .ok ()
  | some id => do
      let r ← orElseErr (snapshot.requests.lookup id)
        (invalid "Assignment question reference missing")
      rejectIf (r.kind ≠ .question ∨ r.assignmentId ≠ some a.id ∨ r.workId ≠ a.workId ∨
          r.generation ≠ a.generation ∨ r.contractRevision ≠ a.contractRevision ∨
          ¬ (r.workerPacketHash.any (fun h => h.utf8ByteSize = 64) = true))
        (invalid "Assignment question binding invalid")

def validateAssignment (codec : Codec) (snapshot : Snapshot) (a : Assignment) :
    Result Unit := do
  let _ ← ticket snapshot a.workId
  validateAwaited snapshot a
  let intent ← orElseErr (snapshot.intents.lookup a.dispatchKey)
    (invalid "Assignment missing atomic DispatchIntent")
  rejectIf (intent.assignmentId ≠ a.id ∨
      intent.specHash ≠ codec.hash (.dispatchSpec intent.immutableSpec))
    (invalid "DispatchIntent mismatch")

def validateSnapshot (codec : Codec) (snapshot : Snapshot) : Result Unit := do
  ExecutionBudget.validate codec snapshot
  Project.validate codec snapshot
  Sprints.validate snapshot
  Planning.validate codec snapshot
  validateMigration codec snapshot
  validateFileIntents codec snapshot
  validateHistory codec snapshot
  each snapshot.tickets.entries (fun entry => validateTicket snapshot entry.1 entry.2)
  each snapshot.assignments.values (validateAssignment codec snapshot)

variable {snapshot : Snapshot}

theorem parentLink_inside (id : String) (next : Option String)
    (found : parentLink snapshot id = some next) : id ∈ snapshot.tickets.keys := by
  simp only [parentLink, Option.map_eq_some_iff] at found
  obtain ⟨work, recorded, _⟩ := found
  exact mem_keys.2 ⟨work, recorded⟩

/-- One more round than there are Tickets shows how every containment walk ends. -/
theorem returns_validateContainment (snapshot : Snapshot) (work : Ticket) :
    Returns (validateContainment snapshot work) := by
  have finishes : Chains.guardedWalk (parentLink snapshot) (snapshot.tickets.size + 1) []
      (some work.id) ≠ .exhausted :=
    Chains.guardedWalk_finishes parentLink_inside List.nodup_nil (List.nil_subset _)
      (by simp [SortedMap.keys, SortedMap.size])
  unfold validateContainment
  split
  · trivial
  · trivial
  · trivial
  · rename_i stopped
    exact absurd stopped finishes

theorem returns_prerequisites (snapshot : Snapshot) (self id : String) :
    Returns (prerequisites snapshot self id) := by
  simp [prerequisites]

theorem prerequisites_bounded {self id : String} {found : List String}
    (run : prerequisites snapshot self id = .ok found) :
    id ∈ snapshot.tickets.keys.toFinset ∧ found.length ≤
      ((snapshot.tickets.lookup id).map (fun work => work.dependsOn.items.length)).getD 0 := by
  simp only [prerequisites, bind_eq_ok, ticket_eq_ok, pure_eq_ok] at run
  obtain ⟨_, _, work, recorded, _, _, same⟩ := run
  constructor
  · rw [List.mem_toFinset]
    exact mem_keys.2 ⟨work, recorded⟩
  · rw [← same, recorded]
    simp

theorem returns_validateDependencies (snapshot : Snapshot) (work : Ticket) :
    Returns (validateDependencies snapshot work) := by
  have whole : Worklists.unseen snapshot.tickets.keys.toFinset SortedSet.empty =
      snapshot.tickets.keys.toFinset := by
    simp [Worklists.unseen]
  have finishes : ∃ result, Worklists.explore (prerequisites snapshot work.id)
      (work.dependsOn.items.length + dependencyCount snapshot) SortedSet.empty
      work.dependsOn.items.reverse = some result :=
    Worklists.explore_finishes
      (fun id => ((snapshot.tickets.lookup id).map (fun w => w.dependsOn.items.length)).getD 0)
      (fun _ _ run => prerequisites_bounded run)
      (by rw [whole, dependencyCount, sum_values, List.length_reverse])
  obtain ⟨result, run⟩ := finishes
  simp only [validateDependencies, run]
  exact Worklists.explore_result (fun r => Returns r) trivial
    (fun id => by
      have one := returns_prerequisites snapshot work.id id
      intro e refused
      rw [refused] at one
      cases e <;> exact one) run

section
variable (codec : Codec)

theorem returns_validateMigration (snapshot : Snapshot) :
    Returns (validateMigration codec snapshot) := by
  have source : ∀ source, Returns (validateSource source) := by
    intro source
    unfold validateSource
    split <;> simp
  have sources : ∀ items, Returns (each items validateSource) :=
    fun _ => returns_each (fun _ _ => source _)
  have receipt : ∀ r, Returns (validateMigrationReceipt codec snapshot r) := by
    simp [validateMigrationReceipt, validateStage]
  simp only [validateMigration, returns_bind, returns_rejectIf, true_and]
  split
  · simp only [returns_bind, returns_rejectIf, sources, true_and]
    split <;> simp
  · simp only [returns_bind, returns_rejectIf, sources, receipt, true_and]
    split <;> simp

@[simp] theorem returns_writeIntent (a : Assignment) (effectId : String) :
    Returns (writeIntent codec a effectId) := by
  simp only [writeIntent, returns_bind, returns_rejectIf, returns_orElseErr, true_and]
  intro _ _ _ _ _ _ _ _ operation _
  cases operation <;> simp

theorem returns_validateFileIntents (snapshot : Snapshot) :
    Returns (validateFileIntents codec snapshot) := by
  refine returns_each (fun _ _ => returns_each (fun _ _ => ?_))
  split <;> simp

theorem returns_validateProposal (snapshot : Snapshot) (messageId : String)
    (resolution : MessageResolution) (human : HumanIngressRecord) :
    Returns (validateProposal codec snapshot messageId resolution human) := by
  have outcome : ∀ pair, Returns (validateGroupOutcome codec snapshot messageId human.userId pair) := by
    intro pair
    simp only [validateGroupOutcome, returns_bind, returns_rejectIf, true_and]
    split <;> simp
  unfold validateProposal
  split
  · simp
  · have shape : ∀ proposal, Returns (validateShape codec proposal) := by
      simp [validateShape]
    simp only [returns_bind, returns_rejectIf, shape, true_and]
    intro _ _ _ _ _ _
    exact returns_each (fun _ _ => outcome _)

theorem returns_validateHistory (snapshot : Snapshot) :
    Returns (validateHistory codec snapshot) := by
  simp only [validateHistory, returns_bind, returns_pure]
  refine ⟨returns_foldlM (fun _ _ _ => ?_), fun _ _ => trivial⟩
  simp only [validateResolution, returns_bind, returns_rejectIf, true_and]
  split <;> simp [returns_validateProposal]

end

theorem returns_validateTicket (snapshot : Snapshot) (id : String) (work : Ticket) :
    Returns (validateTicket snapshot id work) := by
  have parent : Returns (validateParent snapshot work) := by
    unfold validateParent
    split <;> simp
  have active : Returns (validateActive snapshot work) := by
    unfold validateActive
    split <;> simp
  simp [validateTicket, parent, active, returns_validateContainment, returns_validateDependencies]

theorem returns_validateAssignment (codec : Codec) (snapshot : Snapshot) (a : Assignment) :
    Returns (validateAssignment codec snapshot a) := by
  have awaited : Returns (validateAwaited snapshot a) := by
    unfold validateAwaited
    split <;> simp
  simp [validateAssignment, awaited]

theorem returns_validateSnapshot (codec : Codec) (snapshot : Snapshot) :
    Returns (validateSnapshot codec snapshot) := by
  have tickets : ∀ items, Returns (each items
      (fun entry : String × Ticket => validateTicket snapshot entry.1 entry.2)) :=
    fun _ => returns_each (fun _ _ => returns_validateTicket _ _ _)
  have assignments : ∀ items, Returns (each items (validateAssignment codec snapshot)) :=
    fun _ => returns_each (fun _ _ => returns_validateAssignment _ _ _)
  simp [validateSnapshot, ExecutionBudget.returns_validate, Project.returns_validate,
    Sprints.returns_validate, Planning.returns_validate, returns_validateMigration,
    returns_validateFileIntents, returns_validateHistory, tickets, assignments]

theorem validateSnapshot_ok (valid : validateSnapshot codec snapshot = .ok ()) :
    (∀ id w, snapshot.tickets.lookup id = some w → validateTicket snapshot id w = .ok ()) ∧
      ∀ id a, snapshot.assignments.lookup id = some a →
        validateAssignment codec snapshot a = .ok () := by
  simp only [validateSnapshot, bind_eq_ok, each_eq_ok] at valid
  obtain ⟨_, _, _, _, _, _, _, _, _, _, _, _, _, _, _, tickets, assignments⟩ := valid
  constructor
  · intro id w found
    exact tickets (id, w) (mem_entries.2 found)
  · intro id a found
    exact assignments a (mem_values.2 ⟨id, found⟩)

end Tickets
