import BambooAgent.Ready.Admissions

/- What may be stored after a retry record. -/
namespace Ready.Retries
open SortedMaps

/-- Nothing that a writer may not reset is reset. -/
structure Keeps (before after : ReadyRetryRecord) : Prop where
  identity : after.identityHash = before.identityHash
  created : after.createdAtMs = before.createdAtMs
  expires : after.expiresAtMs = before.expiresAtMs
  attempts : before.attempts ≤ after.attempts
  lastSeen : before.lastSeenAtMs ≤ after.lastSeenAtMs
  epoch : before.authorityEpoch ≤ after.authorityEpoch
  live : before.phase ≠ .quarantined

theorem transition_of_keeps (keeps : Keeps before after)
    (valid : validateReadyRetryRecord after = .ok ()) :
    validateReadyRetryTransition before after = .ok () := by
  unfold validateReadyRetryTransition
  rw [valid]
  rw [if_neg]
  simp only [Bool.or_eq_true, Bool.and_eq_true, decide_eq_true_eq, not_or, not_and, ne_eq,
    Decidable.not_not, not_lt]
  exact ⟨⟨⟨⟨⟨⟨keeps.identity.symm, keeps.created.symm⟩, keeps.expires.symm⟩, keeps.attempts⟩,
    keeps.lastSeen⟩, keeps.epoch⟩, fun gone => absurd gone keeps.live⟩

def Found (seen : List Tickets.Snapshot) (request next : ReadyRetryRequest) : Prop :=
  ∃ snapshot ∈ seen, ∃ (intent : Tickets.DispatchIntent) (hash : String),
    canonicalIntent (some request) snapshot = .ok (some intent) ∧
      next = .intent intent.dispatchKey hash

structure Allowed (seen : List Tickets.Snapshot) (before after : ReadyRetryRecord) (why : Why) :
    Prop where
  keeps : Keeps before after
  reserved : why = .reserve → after.attempts = before.attempts + 1 ∧ after.phase = .reserved ∧
    before.nextCheckAtMs ≤ after.lastSeenAtMs
  linked : why ≠ .conflict → ∀ request, before.request = some request →
    ∃ next, after.request = some next ∧ (next = request ∨ Found seen request next)
  start : why = .reserve → ∀ operationId hash,
    after.request = some (.start operationId hash) → before.request = none

/-- The record of a permit: it was due, and a request of it is one that may be ensured. -/
structure Permit (context : RetryContext) (record : ReadyRetryRecord) : Prop where
  live : record.phase ≠ .quarantined
  due : record.nextCheckAtMs ≤ record.lastSeenAtMs
  request : ∀ request, record.request = some request →
    ∃ intent, canonicalIntent (some request) context.snapshot = .ok (some intent) ∧
      context.pendingKey = some intent.dispatchKey

def Prepared (context : RetryContext) (now : Nat) (record : ReadyRetryRecord) : Why → Prop
  | .created => False
  | .epoch => record.phase ≠ .quarantined ∧ record.lastSeenAtMs ≤ now
  | .floor => Permit context record
  | .reserve => record.phase = .reserved
  | _ => True

theorem Found.mono (found : Found seen request next) (less : ∀ snapshot ∈ seen, snapshot ∈ more) :
    Found more request next := by
  obtain ⟨snapshot, member, rest⟩ := found
  exact ⟨snapshot, less snapshot member, rest⟩

theorem Allowed.mono (allowed : Allowed seen before after why)
    (less : ∀ snapshot ∈ seen, snapshot ∈ more) : Allowed more before after why where
  keeps := allowed.keeps
  reserved := allowed.reserved
  linked := by
    intro other request has
    obtain ⟨next, same, linked⟩ := allowed.linked other request has
    exact ⟨next, same, linked.imp_right (fun found => found.mono less)⟩
  start := allowed.start

theorem allowed_same (keeps : Keeps before after) (request : after.request = before.request)
    (other : why ≠ .reserve) : Allowed seen before after why where
  keeps := keeps
  reserved := fun same => absurd same other
  linked := fun _ request' has => ⟨request', request.trans has, .inl rfl⟩
  start := fun same => absurd same other

/- The operations. -/

section Operations
variable {record : ReadyRetryRecord}

def Lawful (seen : List Tickets.Snapshot) (context : RetryContext) (now : Nat)
    (record : ReadyRetryRecord) : Verdict → Prop
  | .stop _ => True
  | .save after why => Allowed seen record after why ∧ Prepared context now after why

section
variable (live : record.phase ≠ .quarantined)
include live

theorem lawful_quarantine (kind : ReadyBlockKind) (reason : String) :
    Lawful seen context now record (quarantine record kind reason) :=
  ⟨allowed_same ⟨rfl, rfl, rfl, le_rfl, le_rfl, le_rfl, live⟩ rfl nofun,
    trivial⟩

theorem lawful_floor (past : record.lastSeenAtMs ≤ now) (due : ¬ now < record.nextCheckAtMs)
    (request : ∀ request, record.request = some request →
      ∃ intent, canonicalIntent (some request) context.snapshot = .ok (some intent) ∧
        context.pendingKey = some intent.dispatchKey) :
    Lawful seen context now record (.save { record with lastSeenAtMs := now } .floor) :=
  ⟨allowed_same ⟨rfl, rfl, rfl, le_rfl, past, le_rfl, live⟩ rfl nofun,
    ⟨live, not_lt.1 due, request⟩⟩

theorem lawful_admissible (past : record.lastSeenAtMs ≤ now) :
    Lawful seen context now record (checkAdmissible context record now) := by
  unfold checkAdmissible
  split
  · exact lawful_quarantine live _ _
  · split
    · trivial
    · rename_i due
      split
      · rename_i none_
        refine lawful_floor live past due (fun request has => ?_)
        rw [has] at none_
        cases none_
      · split
        · trivial
        · rename_i intent canonical
          split
          · exact lawful_quarantine live _ _
          · rename_i found matches_
            obtain ⟨here, own⟩ := Option.filter_eq_some_iff.1 matches_
            split
            · exact lawful_quarantine live _ _
            · refine lawful_floor live past due (fun request has => ⟨found, ?_, ?_⟩)
              · rw [← has, canonical, here]
              · exact of_decide_eq_true own

end

theorem lawful_check : Lawful seen context now value.record (check context value now) := by
  unfold check
  dsimp only
  split
  · trivial
  · split
    · trivial
    · split
      · trivial
      · split
        · trivial
        · rename_i live
          split
          · exact lawful_quarantine live _ _
          · rename_i past
            split
            · exact lawful_quarantine live _ _
            · split
              · split
                · exact lawful_quarantine live _ _
                · rename_i able
                  simp only [Bool.or_eq_true, decide_eq_true_eq, not_or, not_lt] at able
                  exact ⟨allowed_same ⟨rfl, rfl, rfl, le_rfl, le_rfl, able.2, live⟩
                    rfl nofun, live, not_lt.1 past⟩
              · exact lawful_admissible live (not_lt.1 past)

theorem checkTime_spec (fine : checkTime record reading = .ok now) :
    record.lastSeenAtMs ≤ now ∧ now < record.expiresAtMs := by
  unfold checkTime at fine
  split at fine
  · cases fine
  · split at fine
    · cases fine
    · rename_i open_
      cases fine
      simpa using open_

theorem reserve_spec {operationId hash : String} (permit : Permit context record)
    (member : context.snapshot ∈ seen)
    (made : reserve record (requestOf context operationId hash) reading = .ok after) :
    Allowed seen record after .reserve ∧ Prepared context 0 after .reserve := by
  unfold reserve at made
  split at made
  · cases made
  · rename_i now timely
    obtain ⟨past, _⟩ := checkTime_spec timely
    split at made
    · cases made
    · cases made
      refine ⟨⟨⟨rfl, rfl, rfl, Nat.le_succ _, past, le_rfl, permit.live⟩, ?_, ?_, ?_⟩, rfl⟩
      · exact fun _ => ⟨rfl, rfl, permit.due.trans past⟩
      · intro _ request has
        obtain ⟨intent, canonical, own⟩ := permit.request request has
        refine ⟨_, rfl, .inr ⟨context.snapshot, member, intent, hash, canonical, ?_⟩⟩
        rw [requestOf, own]
      · intro _ operationId' hash' fresh
        cases has : record.request with
        | none => rfl
        | some request =>
          obtain ⟨intent, _, own⟩ := permit.request request has
          rw [requestOf, own] at fresh
          cases fresh

theorem failureAttempts_le (record : ReadyRetryRecord) (kind : ReadyBlockKind)
    (valid : record.attempts ≤ readyRetryLimit) :
    record.attempts ≤ failureAttempts record kind := by
  unfold failureAttempts
  split
  · exact Nat.le_min.2 ⟨Nat.le_succ _, valid⟩
  · exact le_rfl

section
variable (live : record.phase ≠ .quarantined)
include live

theorem failure_spec (valid : record.attempts ≤ readyRetryLimit)
    (made : failure record kind reason snapshot reading = .ok after) :
    Allowed seen record after .failure := by
  unfold failure at made
  split at made
  · cases made
  · cases made
  · rename_i kind' now _
    cases made
    exact allowed_same ⟨rfl, rfl, rfl, failureAttempts_le record kind' valid, le_max_left _ _,
      le_rfl, live⟩ rfl nofun

theorem observed_spec (member : snapshot ∈ seen)
    (made : observed record dispatchKey snapshot reading = .ok after) :
    Allowed seen record after .observed := by
  unfold observed at made
  split at made
  · cases made
  · rename_i intent canonical
    split at made
    · cases made
    · cases made
    · rename_i found now matches_
      obtain ⟨here, own⟩ := Option.filter_eq_some_iff.1 matches_
      cases made
      refine ⟨⟨rfl, rfl, rfl, le_rfl, le_max_left _ _, le_rfl, live⟩, nofun, ?_,
        nofun⟩
      intro _ request has
      refine ⟨_, rfl, .inr ⟨snapshot, member, found, found.specHash, ?_, ?_⟩⟩
      · rw [← has, canonical, here]
      · rw [of_decide_eq_true own]

theorem conflict_spec (made : conflict record reading = .ok after) :
    Allowed seen record after .conflict := by
  unfold conflict at made
  split at made
  · cases made
  · cases made
    exact ⟨⟨rfl, rfl, rfl, le_rfl, le_max_left _ _, le_rfl, live⟩, nofun,
      fun other => absurd rfl other, nofun⟩

end

theorem freshRecord_valid (made : freshRecord context now = .ok record) :
    validateReadyRetryRecord record = .ok () := by
  unfold freshRecord at made
  split at made
  · cases made
  · dsimp only at made
    split at made
    · cases made
    · rename_i valid
      cases made
      exact valid

theorem attempts_of_valid (valid : validateReadyRetryRecord record = .ok ()) :
    record.attempts ≤ readyRetryLimit := by
  unfold validateReadyRetryRecord at valid
  split at valid
  · cases valid
  · rename_i fine
    simp only [Bool.or_eq_true, decide_eq_true_eq, not_or] at fine
    omega

end Operations

end Ready.Retries
