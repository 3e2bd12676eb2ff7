import BambooAgent.Library.Interleavings
import BambooAgent.Sessions.Posture

/- Saves of stale copies over a durable permission posture, in any order with its transitions. -/
namespace Sessions
open SortedMaps Interleavings Compression

/-- The mode in force: the default one where there is no runtime state. -/
def Session.permissionMode (session : Session) : SessionPermissionMode :=
  (session.agentRuntimeState.map AgentRuntimeState.effectivePermissionMode).getD .default

theorem effective_set (state : AgentRuntimeState) (mode : SessionPermissionMode) :
    (state.setPermissionMode mode).effectivePermissionMode = mode := by
  cases mode <;> rfl

/- Audit records. -/

theorem parseU64_repr (bounded : n ≤ u64Max) : parseU64 n.repr = some n := by
  have digits : ∀ c ∈ Nat.toDigits 10 n, c.isDigit = true :=
    fun c member => Nat.isDigit_of_mem_toDigits (by decide) le_rfl member
  have read : (Nat.toDigits 10 n).foldl (fun n c => 10 * n + (c.toNat - '0'.toNat)) 0 = n :=
    Nat.ofDigitChars_ten_toDigits
  unfold parseU64
  rw [Nat.toList_repr]
  dsimp only
  split
  · rename_i rest shape
    exact absurd (digits '+' (shape ▸ List.mem_cons_self)) (by decide)
  · rw [if_neg, read, if_pos bounded]
    rw [not_or, not_not, List.all_eq_true, List.isEmpty_iff]
    exact ⟨Nat.toDigits_ne_nil, digits⟩

theorem parseU64_le (parsed : parseU64 value = some n) : n ≤ u64Max := by
  simp only [parseU64, Option.ite_none_left_eq_some, Option.ite_none_right_eq_some] at parsed
  obtain ⟨_, bounded, same⟩ := parsed
  exact Option.some.inj same ▸ bounded

section Audits
variable {rfc3339 : String → Bool}

/-- A record that can be read back. -/
structure PermissionAuditSnapshot.Valid (rfc3339 : String → Bool)
    (audit : PermissionAuditSnapshot) : Prop where
  revision : audit.auditRevision < maxAuditRevision
  policy : audit.policyRevision ≤ u64Max
  mapped : audit.executorMapping ≠ "" ∧ audit.executorMapping.length ≤ maxExecutorMappingChars
  stamped : validTransitionTimestamp rfc3339 audit.transitionedAt = true
  consistent : audit.resolution.isConsistent = true

theorem fromMetadata_valid
    (read : PermissionAuditSnapshot.fromMetadata rfc3339 metadata = some audit) :
    audit.Valid rfc3339 := by
  simp only [PermissionAuditSnapshot.fromMetadata, guard, Option.bind_eq_bind,
    Option.bind_eq_some_iff, Option.pure_def, Option.failure_eq_none,
    Option.ite_none_right_eq_some, Option.some.injEq] at read
  obtain ⟨_, _, _, _, _, ⟨revision, _⟩, _, _, _, policy, _, _, _, _, _, _, _, _, _, _, _, ⟨mapped, _⟩,
    _, _, _, ⟨stamped, _⟩, _, ⟨consistent, _⟩, rfl⟩ := read
  exact ⟨revision, parseU64_le policy, mapped, stamped, consistent⟩

theorem fromMetadata_writeTo (valid : audit.Valid rfc3339) (metadata : Metadata) :
    PermissionAuditSnapshot.fromMetadata rfc3339 (audit.writeTo metadata) = some audit := by
  have mode : SessionPermissionMode.fromAuditStr audit.resolution.requested.asStr =
      some audit.resolution.requested := by
    cases audit.resolution.requested <;> decide
  have effective : PermissionMode.fromAuditStr audit.resolution.effective.asStr =
      some audit.resolution.effective := by
    cases audit.resolution.effective <;> decide
  have keys : [auditRevisionKey, policyRevisionKey, requestedModeKey, effectiveModeKey,
      executorMappingKey, transitionedAtKey].Nodup := by decide
  simp only [List.nodup_cons, List.mem_cons, List.not_mem_nil, or_false, not_or] at keys
  have revision := le_of_lt (lt_of_lt_of_le valid.revision (by decide :
    maxAuditRevision ≤ u64Max))
  simp [PermissionAuditSnapshot.fromMetadata, PermissionAuditSnapshot.writeTo, guard,
    keys, parseU64_repr revision, parseU64_repr valid.policy, mode, effective, valid.revision,
    valid.mapped, valid.stamped, valid.consistent]

theorem nextRevision_bounds (next : nextPermissionAuditRevisionAfter clock floor = some revision) :
    floor < revision ∧ revision < maxAuditRevision := by
  unfold nextPermissionAuditRevisionAfter at next
  simp only [Option.ite_none_left_eq_some, Option.some.injEq] at next
  omega

/- Histories. -/

def auditOf (rfc3339 : String → Bool) (session : Session) : Option PermissionAuditSnapshot :=
  PermissionAuditSnapshot.fromMetadata rfc3339 session.metadata

def revisionOf (rfc3339 : String → Bool) (session : Session) : Nat :=
  ((auditOf rfc3339 session).map PermissionAuditSnapshot.auditRevision).getD 0

/-- A typed mode with a complete audit record that agrees with it. -/
structure Postured (rfc3339 : String → Bool) (session : Session)
    (audit : PermissionAuditSnapshot) : Prop where
  typed : session.agentRuntimeState.isSome = true
  read : auditOf rfc3339 session = some audit
  agrees : audit.resolution.requested = session.permissionMode

inductive PostureAct where
  | save (clock : Clock) (copy : Session)
  | transition (next : Session)

def postureStep (rfc3339 : String → Bool) (durable : Session) : PostureAct → Session
  | .save clock copy => adoptFresherDiskPermissionPosture rfc3339 clock copy durable
  | .transition next => next

def Possible (rfc3339 : String → Bool) (durable : Session) : PostureAct → Prop
  | .save _ copy =>
    ∀ audit, auditOf rfc3339 copy = some audit → audit.resolution.requested = copy.permissionMode
  | .transition next => ∃ before after, Postured rfc3339 durable before ∧
      Postured rfc3339 next after ∧ before.auditRevision < after.auditRevision

def Careful (rfc3339 : String → Bool) (durable : Session) : PostureAct → Prop
  | .save clock copy =>
    (copy.agentRuntimeState.isSome = true ∨ durable.permissionMode ≠ .default) ∧
      (copy.permissionMode = durable.permissionMode ∨
        revisionOf rfc3339 copy < revisionOf rfc3339 durable ∨
        (nextPermissionAuditRevisionAfter clock (revisionOf rfc3339 copy)).isSome = true)
  | .transition _ => True

/-- What a step keeps of a durable posture. -/
structure PostureKept (rfc3339 : String → Bool) (durable : Session) (act : PostureAct)
    (before after : PermissionAuditSnapshot) : Prop where
  was : Postured rfc3339 durable before
  is_ : Postured rfc3339 (postureStep rfc3339 durable act) after
  revision : before.auditRevision ≤ after.auditRevision
  strict : (postureStep rfc3339 durable act).permissionMode ≠ durable.permissionMode →
    before.auditRevision < after.auditRevision
  mode : ∀ clock copy, act = .save clock copy →
    (postureStep rfc3339 durable act).permissionMode = durable.permissionMode
  adopted : ∀ clock copy, act = .save clock copy → ∀ audit,
    fresherDiskPermissionAudit rfc3339 clock copy.permissionMode copy.metadata
      durable.permissionMode durable.metadata = some audit → audit = after

theorem typed_of_mode {session : Session} (other : session.permissionMode ≠ .default) :
    session.agentRuntimeState.isSome = true := by
  cases typed : session.agentRuntimeState with
  | none => exact absurd (by rw [Session.permissionMode, typed]; rfl) other
  | some state => rfl

section Steps
variable {durable copy : Session} {before : PermissionAuditSnapshot} {clock : Clock}

def adopting (copy : Session) (mode : SessionPermissionMode) :
    Option PermissionAuditSnapshot → Session
  | none => copy
  | some audit =>
    { copy with
      agentRuntimeState :=
        match copy.agentRuntimeState with
        | some state => some (state.setPermissionMode mode)
        | none =>
          if mode ≠ .default then some (AgentRuntimeState.default.setPermissionMode mode)
          else none
      metadata := audit.writeTo copy.metadata }

theorem adopting_mode (audit : PermissionAuditSnapshot)
    (stateful : copy.agentRuntimeState.isSome = true ∨ mode ≠ .default) :
    (adopting copy mode (some audit)).agentRuntimeState.isSome = true ∧
      (adopting copy mode (some audit)).permissionMode = mode := by
  unfold adopting Session.permissionMode
  cases own : copy.agentRuntimeState with
  | some state => exact ⟨rfl, effective_set state mode⟩
  | none =>
    have other : mode ≠ .default :=
      stateful.resolve_left (by rw [own]; exact Bool.false_ne_true)
    rw [if_pos other]
    exact ⟨rfl, effective_set _ mode⟩

theorem fresher_cases (was : Postured rfc3339 durable before)
    (careful : Careful rfc3339 durable (.save clock copy)) :
    (fresherDiskPermissionAudit rfc3339 clock copy.permissionMode copy.metadata
        durable.permissionMode durable.metadata = none ∧
      copy.permissionMode = durable.permissionMode ∧
      ∃ held, auditOf rfc3339 copy = some held ∧ before.auditRevision ≤ held.auditRevision) ∨
    ∃ audit, fresherDiskPermissionAudit rfc3339 clock copy.permissionMode copy.metadata
        durable.permissionMode durable.metadata = some audit ∧ audit.Valid rfc3339 ∧
      audit.resolution.requested = durable.permissionMode ∧
      before.auditRevision ≤ audit.auditRevision := by
  have valid := fromMetadata_valid was.read
  have complete : (PermissionAuditSnapshot.fromMetadata rfc3339 durable.metadata).filter
      (fun audit => decide (audit.resolution.requested = durable.permissionMode)) =
        some before := by
    rw [show PermissionAuditSnapshot.fromMetadata rfc3339 durable.metadata = some before from
      was.read, Option.filter_some, if_pos (decide_eq_true was.agrees)]
  have revision : revisionOf rfc3339 durable = before.auditRevision := by
    rw [revisionOf, was.read]
    rfl
  unfold fresherDiskPermissionAudit diskPermissionPostureIsFresher
  rw [complete]
  by_cases same : copy.permissionMode = durable.permissionMode
  · rw [if_neg (not_not.2 same.symm)]
    cases held : PermissionAuditSnapshot.fromMetadata rfc3339 copy.metadata with
    | none => exact .inr ⟨before, by simp [same], valid, was.agrees, le_rfl⟩
    | some own =>
      by_cases newer : own.auditRevision < before.auditRevision
      · exact .inr ⟨before, by simp [same, newer], valid, was.agrees, le_rfl⟩
      · exact .inl ⟨by simp [newer], same, own, held, Nat.le_of_not_lt newer⟩
  · rw [if_pos (Ne.symm same)]
    refine .inr ?_
    change ∃ audit, (if durable.permissionMode ≠ copy.permissionMode ∧
      before.auditRevision ≤ revisionOf rfc3339 copy then _ else _) = some audit ∧ _
    by_cases behind : before.auditRevision ≤ revisionOf rfc3339 copy
    · rw [if_pos ⟨Ne.symm same, behind⟩]
      have room : (nextPermissionAuditRevisionAfter clock (revisionOf rfc3339 copy)).isSome :=
        (careful.2.resolve_left same).resolve_left (by rw [revision]; exact not_lt.2 behind)
      obtain ⟨next, allocated⟩ := Option.isSome_iff_exists.1 room
      obtain ⟨above, below⟩ := nextRevision_bounds allocated
      refine ⟨{ before with auditRevision := next }, ?_, { valid with revision := below },
        was.agrees, le_trans behind (le_of_lt above)⟩
      exact congrArg (Option.map _) allocated
    · rw [if_neg (fun both => behind both.2)]
      exact ⟨before, rfl, valid, was.agrees, le_rfl⟩

theorem save_kept (was : Postured rfc3339 durable before)
    (possible : Possible rfc3339 durable (.save clock copy))
    (careful : Careful rfc3339 durable (.save clock copy)) :
    ∃ after, PostureKept rfc3339 durable (.save clock copy) before after := by
  obtain ⟨state, typed⟩ := Option.isSome_iff_exists.1 was.typed
  have diskMode : durable.agentRuntimeState.map AgentRuntimeState.effectivePermissionMode =
      some durable.permissionMode := by
    rw [Session.permissionMode, typed]
    rfl
  have step : ∀ fresher, fresherDiskPermissionAudit rfc3339 clock copy.permissionMode
      copy.metadata durable.permissionMode durable.metadata = fresher →
      postureStep rfc3339 durable (.save clock copy) =
        adopting copy durable.permissionMode fresher := by
    intro fresher found
    change adoptFresherDiskPermissionPosture rfc3339 clock copy durable = _
    unfold adoptFresherDiskPermissionPosture
    rw [diskMode]
    change (match fresherDiskPermissionAudit rfc3339 clock copy.permissionMode copy.metadata
      durable.permissionMode durable.metadata with | none => copy | some audit => _) = _
    rw [found]
    cases fresher <;> rfl
  rcases fresher_cases was careful with
    ⟨kept, same, held, own, newer⟩ | ⟨audit, adopted, valid, agrees, newer⟩
  · have typed' : copy.agentRuntimeState.isSome = true :=
      careful.1.elim id (fun other => typed_of_mode (same ▸ other))
    have step := step none kept
    refine ⟨held, was, ?_, newer, ?_, fun _ _ _ => ?_, fun _ _ act audit adopted => ?_⟩
    · exact step ▸ ⟨typed', own, possible held own⟩
    · exact fun changed => absurd (step ▸ same) changed
    · exact step ▸ same
    · cases act
      cases kept.symm.trans adopted
  · have step := step (some audit) adopted
    obtain ⟨moded, set_⟩ := adopting_mode audit careful.1
    refine ⟨audit, was, ?_, newer, ?_, fun _ _ _ => ?_, fun _ _ act other found => ?_⟩
    · exact step ▸ ⟨moded, fromMetadata_writeTo valid copy.metadata, agrees.trans set_.symm⟩
    · exact fun changed => absurd (step ▸ set_) changed
    · exact step ▸ set_
    · cases act
      exact (Option.some.inj (adopted.symm.trans found)).symm

end Steps

theorem posture_kept (was : Postured rfc3339 durable before)
    (possible : Possible rfc3339 durable act) (careful : Careful rfc3339 durable act) :
    ∃ after, PostureKept rfc3339 durable act before after := by
  cases act with
  | transition next =>
    obtain ⟨before', after, was', is_, larger⟩ := possible
    cases was.read.symm.trans was'.read
    exact ⟨after, was, is_, le_of_lt larger, fun _ => larger, fun _ _ same => (by cases same),
      fun _ _ same => (by cases same)⟩
  | save clock copy => exact save_kept was possible careful

end Audits

/-- In a history whose saves are careful, each step keeps the posture: the mode is only ever changed
    by a transition, the revision never falls, and the stored record is the one adopted. -/
theorem postures_kept (rfc3339 : String → Bool) (start : Session) (first : PermissionAuditSnapshot)
    (posture : Postured rfc3339 start first) (acts : List PostureAct) (act : PostureAct)
    (along : Along (postureStep rfc3339)
      (fun durable act => Possible rfc3339 durable act ∧ Careful rfc3339 durable act) start
      (acts ++ [act])) :
    ∃ before after, first.auditRevision ≤ before.auditRevision ∧
      PostureKept rfc3339 (run (postureStep rfc3339) start acts) act before after := by
  obtain ⟨earlier, last, _⟩ := along_append.1 along
  obtain ⟨before, was, later⟩ : ∃ before,
      Postured rfc3339 (run (postureStep rfc3339) start acts) before ∧
        first.auditRevision ≤ before.auditRevision := by
    refine along_keeps (P := fun durable => ∃ before, Postured rfc3339 durable before ∧
      first.auditRevision ≤ before.auditRevision) ?_ acts earlier ⟨first, posture, Nat.le_refl _⟩
    rintro durable act ⟨possible, careful⟩ ⟨before, was, later⟩
    obtain ⟨after, kept⟩ := posture_kept was possible careful
    exact ⟨after, kept.is_, Nat.le_trans later kept.revision⟩
  obtain ⟨after, kept⟩ := posture_kept was last.1 last.2
  exact ⟨before, after, later, kept⟩

/- A session that went to bypass and back. -/

def plainAudit (revision : Nat) (mode : SessionPermissionMode) : PermissionAuditSnapshot :=
  ⟨revision, 1, resolvePermissionMode mode .default, "bamboo_runtime", "2026-01-01T00:00:00Z"⟩

def audited (revision : Nat) (mode : SessionPermissionMode) : Session :=
  { Session.new "s" "model" 1 with
    agentRuntimeState := some (AgentRuntimeState.default.setPermissionMode mode)
    metadata := (plainAudit revision mode).writeTo SortedMap.empty }

def auditClock : Clock := { now := "2026-01-01T00:00:00Z", wallRevision := 1, auditRevision := 0 }

theorem audited_postured (revision : Nat) (mode : SessionPermissionMode)
    (bounded : revision < maxAuditRevision) :
    Postured (fun _ => true) (audited revision mode) (plainAudit revision mode) := by
  have stamped : validTransitionTimestamp (fun _ => true) "2026-01-01T00:00:00Z" = true := by decide
  refine ⟨rfl, fromMetadata_writeTo ⟨bounded, (by decide : 1 ≤ u64Max),
    (by decide : "bamboo_runtime" ≠ "" ∧ "bamboo_runtime".length ≤ 128), stamped, ?_⟩ _,
    (effective_set _ mode).symm⟩
  cases mode <;> rfl

theorem audited_possible (durable : Session) (clock : Clock) (revision : Nat)
    (mode : SessionPermissionMode) (bounded : revision < maxAuditRevision) :
    Possible (fun _ => true) durable (.save clock (audited revision mode)) := by
  intro audit read
  cases (audited_postured revision mode bounded).read.symm.trans read
  exact (audited_postured revision mode bounded).agrees

/-- A copy from before there was a runtime state is saved, and then one from the time of the bypass:
    the bypass and its record are durable again. -/
theorem stale_save_reverts :
    let acts : List PostureAct :=
      [.save auditClock (Session.new "s" "model" 1), .save auditClock (audited 4 .bypass)]
    let saved := run (postureStep (fun _ => true)) (audited 5 .default) acts
    Postured (fun _ => true) (audited 5 .default) (plainAudit 5 .default) ∧
      Along (postureStep (fun _ => true)) (Possible (fun _ => true)) (audited 5 .default) acts ∧
      saved.permissionMode = .bypass ∧ revisionOf (fun _ => true) saved = 4 := by
  refine ⟨audited_postured 5 .default (by decide), ⟨?_, ?_, trivial⟩, ?_, ?_⟩
  · intro audit read
    cases read
  · exact audited_possible _ _ 4 .bypass (by decide)
  · decide +kernel
  · decide +kernel

theorem postures_kept_sample : ∃ before after, 5 ≤ before.auditRevision ∧
    PostureKept (fun _ => true) (audited 5 .default) (.save auditClock (audited 4 .bypass))
      before after :=
  postures_kept (fun _ => true) (audited 5 .default) _ (audited_postured 5 .default (by decide)) []
    (.save auditClock (audited 4 .bypass))
    ⟨⟨audited_possible _ _ 4 .bypass (by decide), .inl rfl, .inr (.inl (by decide +kernel))⟩,
      trivial⟩

end Sessions
