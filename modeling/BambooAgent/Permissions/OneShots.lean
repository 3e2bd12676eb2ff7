import BambooAgent.Permissions.Decisions

/- A one-shot grant is spent at most once, by the evaluation it is for, and a newer generation
   revokes it; a decision stands. -/
namespace Permissions
open PermissionConfig SwapRemove Interleavings

variable {desk : Desk} {world : World} {config : PermissionConfig}

/- What is held. -/

def Ticket.key (ticket : Ticket) : String × String × Option String :=
  (ticket.sessionId, ticket.requestId, ticket.generation)

def Ticket.grant (ticket : Ticket) : PermissionType × String :=
  (ticket.permissionType, ticket.resource)

/-- The grants under a key, of either kind. -/
def grantsAt (config : PermissionConfig) (key : String × String × Option String) :
    List (PermissionType × String) :=
  match key.2.2 with
  | none => config.oneShotGrants (key.1, key.2.1)
  | some generation => config.typedOneShotGrants (key.1, key.2.1, generation)

/-- How many grants there are of a ticket. -/
def holds (ticket : Ticket) (config : PermissionConfig) : Nat :=
  (grantsAt config ticket.key).countP (fun grant => decide (grant = ticket.grant))

theorem ticket_eq {first : Ticket} :
    first = second ↔ first.key = second.key ∧ first.grant = second.grant := by
  obtain ⟨_, _, _, _, _⟩ := first
  obtain ⟨_, _, _, _, _⟩ := second
  simp [Ticket.key, Ticket.grant, and_assoc]

theorem grantsAt_update :
    grantsAt { config with
      oneShotGrants := Function.update config.oneShotGrants (sessionId, requestId) grants } key =
      if key = (sessionId, requestId, none) then grants else grantsAt config key := by
  obtain ⟨keySession, keyRequest, generation⟩ := key
  unfold grantsAt
  cases generation with
  | none =>
    dsimp only
    rw [Function.update_apply]
    simp
  | some generation => simp

theorem grantsAt_updateTyped :
    grantsAt { config with
      typedOneShotGrants := Function.update config.typedOneShotGrants
        (sessionId, requestId, generation) grants } key =
      if key = (sessionId, requestId, some generation) then grants else grantsAt config key := by
  obtain ⟨keySession, keyRequest, keyGeneration⟩ := key
  unfold grantsAt
  cases keyGeneration with
  | none => simp
  | some keyGeneration =>
    dsimp only
    rw [Function.update_apply]
    simp

theorem consuming_cases (config : PermissionConfig) (spent : Ticket) :
    (∃ rest, swapRemove (grantsAt config spent.key) spent.grant = some rest ∧
      (consuming config spent).1 = true ∧ ∀ key, grantsAt (consuming config spent).2 key =
        if key = spent.key then rest else grantsAt config key) ∨
    consuming config spent = (false, config) := by
  obtain ⟨sessionId, requestId, generation, permissionType, resource⟩ := spent
  cases generation with
  | none =>
    unfold consuming consumeOnce
    dsimp only
    split
    · exact .inr rfl
    · rename_i rest taken
      exact .inl ⟨rest, taken, rfl, fun key => grantsAt_update⟩
  | some generation =>
    unfold consuming consumeOnceForGeneration
    dsimp only
    split
    · exact .inr rfl
    · split
      · exact .inr rfl
      · rename_i rest taken
        exact .inl ⟨rest, taken, rfl, fun key => grantsAt_updateTyped⟩

theorem granting_grants (config : PermissionConfig) (given : Ticket)
    (key : String × String × Option String) :
    grantsAt (granting config given) key =
      if key = given.key ∧ ¬ given.generation.any isBlank = true then
        addGrant (grantsAt config key) given.grant
      else grantsAt config key := by
  obtain ⟨sessionId, requestId, generation, permissionType, resource⟩ := given
  cases generation with
  | none =>
    unfold granting grantOnce
    rw [grantsAt_update]
    by_cases same : key = (sessionId, requestId, none)
    · subst same
      simp [Ticket.key, Ticket.grant, grantsAt]
    · simp [Ticket.key, same]
  | some generation =>
    unfold granting grantOnceForGeneration
    dsimp only
    by_cases blank : isBlank generation = true
    · simp [blank]
    · rw [if_neg blank]
      rw [grantsAt_updateTyped]
      by_cases same : key = (sessionId, requestId, some generation)
      · subst same
        simp [Ticket.key, Ticket.grant, grantsAt, blank]
      · simp [Ticket.key, same]

theorem countP_addGrant (grants : List (PermissionType × String))
    (given grant : PermissionType × String) :
    (addGrant grants given).countP (fun other => decide (other = grant)) ≤
      grants.countP (fun other => decide (other = grant)) + if given = grant then 1 else 0 := by
  unfold addGrant
  split
  · exact Nat.le_add_right _ _
  · simp

theorem consuming_holds (config : PermissionConfig) (ticket spent : Ticket) :
    holds ticket (consuming config spent).2 +
        (if (consuming config spent).1 = true ∧ spent = ticket then 1 else 0) ≤
      holds ticket config := by
  unfold holds
  rcases consuming_cases config spent with ⟨rest, taken, authorized, after⟩ | refused
  · rw [after, authorized]
    by_cases sameKey : ticket.key = spent.key
    · have left := (swapRemove_perm taken).countP_eq (fun grant => decide (grant = ticket.grant))
      rw [sameKey, left]
      by_cases same : spent = ticket
      · simp [same]
      · have other : spent.grant ≠ ticket.grant :=
          fun sameGrant => same (ticket_eq.2 ⟨sameKey.symm, sameGrant⟩)
        simp [same, other]
    · rw [if_neg sameKey, if_neg (fun both => sameKey (ticket_eq.1 both.2).1.symm)]
      exact le_rfl
  · rw [refused]
    simp

theorem granting_holds (config : PermissionConfig) (ticket given : Ticket) :
    holds ticket (granting config given) ≤ holds ticket config +
      if given = ticket ∧ ¬ given.generation.any isBlank = true then 1 else 0 := by
  unfold holds
  rw [granting_grants]
  split
  · rename_i given'
    have more := countP_addGrant (grantsAt config ticket.key) given.grant ticket.grant
    by_cases sameGrant : given.grant = ticket.grant
    · rw [if_pos sameGrant] at more
      rw [if_pos ⟨ticket_eq.2 ⟨given'.1.symm, sameGrant⟩, given'.2⟩]
      exact more
    · rw [if_neg sameGrant] at more
      exact Nat.le_trans more (Nat.add_le_add_left (Nat.zero_le _) _)
  · exact Nat.le_add_right _ _

theorem consumed_eq (moment : Moment) (input : PermissionEvaluation) :
    config.consumed moment input =
      if input.consumeOnce = false then (false, config)
      else consuming config (ticketOf moment input) := by
  unfold consumed consuming ticketOf
  split
  · rfl
  · cases currentPermissionReplayGeneration moment.replay input.sessionId input.requestId with
    | none => rfl
    | some generation => rfl

theorem settle_isOneShot (moment : Moment) (input : PermissionEvaluation)
    (additional : Option (String × String)) (restricting : Option PermissionEvaluation) :
    (config.settle desk moment input additional restricting).isOneShot = false := by
  unfold settle
  dsimp only
  repeat' split
  all_goals rfl

/-- An evaluation spends the ticket that is its own, or it writes nothing. -/
theorem evaluate_consumes (desk : Desk) (config : PermissionConfig) (moment : Moment) (input : PermissionEvaluation)
    (additional : Option (String × String)) (restricting : Option PermissionEvaluation) :
    let evaluated := config.evaluateWithAdditionalRestrictions desk moment input additional
      restricting
    (evaluated.1.isOneShot = true ∧ consuming config (ticketOf moment input) = (true, evaluated.2)) ∨
      (evaluated.1.isOneShot = false ∧ evaluated.2 = config) := by
  unfold evaluateWithAdditionalRestrictions
  cases config.denial desk moment input restricting with
  | some reason => exact .inr ⟨rfl, rfl⟩
  | none =>
    dsimp only
    rw [consumed_eq]
    by_cases never : input.consumeOnce = false
    · rw [if_pos never]
      exact .inr ⟨settle_isOneShot moment input additional restricting, rfl⟩
    · rw [if_neg never]
      cases spent : (consuming config (ticketOf moment input)).1 with
      | false => exact .inr ⟨settle_isOneShot moment input additional restricting, rfl⟩
      | true =>
        exact .inl ⟨rfl, Prod.ext spent rfl⟩

/- Steps. -/

theorem holds_congr (oneShot : after.oneShotGrants = config.oneShotGrants)
    (typed : after.typedOneShotGrants = config.typedOneShotGrants) :
    holds ticket after = holds ticket config := by
  unfold holds grantsAt
  rw [oneShot, typed]

theorem dropPending_holds (key : String × String) (generation : String) :
    holds ticket (World.dropPending config key generation) = holds ticket config := by
  unfold World.dropPending
  split
  · exact holds_congr rfl rfl
  · rfl

theorem revoke_holds (request : PermissionRequest) :
    holds ticket (World.revoke config request) ≤ holds ticket config := by
  unfold holds World.revoke
  rw [grantsAt_update]
  split
  · exact Nat.zero_le _
  · exact le_rfl

theorem revokeTyped_holds (request : PermissionRequest) :
    holds ticket (World.revokeTyped config request) ≤ holds ticket config := by
  obtain ⟨sessionId, requestId, generation, permissionType, resource⟩ := ticket
  unfold holds grantsAt World.revokeTyped Ticket.key
  cases generation with
  | none => exact le_rfl
  | some generation =>
    dsimp only
    split
    · exact le_rfl
    · exact Nat.zero_le _

theorem register_config (world : World) (request : PermissionRequest) :
    (world.register request).config = world.config := by
  unfold World.register
  split
  · rfl
  · split
    · rfl
    · rfl

theorem proceed_holds (id : Nat) :
    holds ticket (world.proceed id).config ≤ holds ticket world.config := by
  unfold World.proceed
  split
  · exact le_rfl
  · exact le_of_eq (dropPending_holds _ _)
  · exact revoke_holds _
  · exact revokeTyped_holds _
  · exact le_of_eq (holds_congr rfl rfl)
  · split
    · exact le_rfl
    · exact le_rfl
  · exact le_of_eq (dropPending_holds _ _)

theorem record_holds (receipt : PermissionDecisionReceipt) :
    holds ticket (world.recordDecisionReceipt receipt).2.config = holds ticket world.config := by
  unfold World.recordDecisionReceipt
  split
  · rfl
  · split
    · split
      · rfl
      · rfl
    · exact holds_congr rfl rfl

theorem after_holds (desk : Desk) (ticket : Ticket) (world : World) (act : Act) :
    holds ticket (world.after desk act).config + authorized desk ticket world act ≤
      holds ticket world.config + granted ticket world act := by
  cases act with
  | register request =>
    have same := register_config world request
    unfold World.after
    rw [same]
    exact le_rfl
  | proceed id => exact proceed_holds id
  | record receipt => exact le_of_eq (record_holds receipt)
  | grant given => exact granting_holds world.config ticket given
  | consume spent =>
    have spends := consuming_holds world.config ticket spent
    simpa [World.after, granted, authorized, authorizes] using spends
  | evaluate moment input additional restricting =>
    have spends := consuming_holds world.config ticket (ticketOf moment input)
    rcases evaluate_consumes desk world.config moment input additional
      restricting with ⟨oneShot, consumed⟩ | ⟨otherwise, unchanged⟩
    · rw [consumed] at spends
      simpa [World.after, granted, authorized, authorizes, oneShot] using spends
    · simp [World.after, granted, authorized, authorizes, otherwise, unchanged]

theorem authorized_within (desk : Desk) (ticket : Ticket) (world : World) (acts : List Act) :
    during (World.after desk) (authorized desk ticket) world acts ≤
      holds ticket world.config + during (World.after desk) (granted ticket) world acts := by
  have within := spent_within (fun world => holds ticket world.config)
    (after_holds desk ticket) acts world
  exact le_trans (Nat.le_add_left _ _) within

/- Receipts. -/

theorem consuming_rest (config : PermissionConfig) (spent : Ticket) :
    (consuming config spent).2.decisionReceipts = config.decisionReceipts ∧
      (consuming config spent).2.pendingRequests = config.pendingRequests := by
  unfold consuming consumeOnce consumeOnceForGeneration
  split
  · dsimp only
    split
    · exact ⟨rfl, rfl⟩
    · exact ⟨rfl, rfl⟩
  · split
    · exact ⟨rfl, rfl⟩
    · dsimp only
      split
      · exact ⟨rfl, rfl⟩
      · exact ⟨rfl, rfl⟩

theorem granting_rest (config : PermissionConfig) (given : Ticket) :
    (granting config given).decisionReceipts = config.decisionReceipts ∧
      (granting config given).pendingRequests = config.pendingRequests := by
  unfold granting grantOnce grantOnceForGeneration
  split
  · exact ⟨rfl, rfl⟩
  · by_cases blank : isBlank ‹String› = true
    · rw [if_pos blank]
      exact ⟨rfl, rfl⟩
    · rw [if_neg blank]
      exact ⟨rfl, rfl⟩

theorem evaluate_rest (desk : Desk) (config : PermissionConfig) (moment : Moment)
    (input : PermissionEvaluation) (additional : Option (String × String))
    (restricting : Option PermissionEvaluation) :
    (config.evaluateWithAdditionalRestrictions desk moment input additional
        restricting).2.decisionReceipts = config.decisionReceipts ∧
      (config.evaluateWithAdditionalRestrictions desk moment input additional
        restricting).2.pendingRequests = config.pendingRequests := by
  have rest := consuming_rest config (ticketOf moment input)
  have cases := evaluate_consumes desk config moment input additional restricting
  rcases cases with ⟨_, consumed⟩ | ⟨_, unchanged⟩
  · rw [consumed] at rest
    exact rest
  · rw [unchanged]
    exact ⟨rfl, rfl⟩

theorem after_record (desk : Desk) (world : World) (receipt : PermissionDecisionReceipt) :
    world.after desk (.record receipt) = (world.recordDecisionReceipt receipt).2 := rfl

theorem after_grant (desk : Desk) (world : World) (given : Ticket) :
    (world.after desk (.grant given)).config = granting world.config given := rfl

theorem after_consume (desk : Desk) (world : World) (spent : Ticket) :
    (world.after desk (.consume spent)).config = (consuming world.config spent).2 := rfl

theorem after_evaluate (desk : Desk) (world : World) (moment : Moment)
    (input : PermissionEvaluation) (additional : Option (String × String))
    (restricting : Option PermissionEvaluation) :
    (world.after desk (.evaluate moment input additional restricting)).config =
      (world.config.evaluateWithAdditionalRestrictions desk moment input additional
        restricting).2 := rfl

theorem dropPending_receipts (key : String × String) (generation : String) :
    (World.dropPending config key generation).decisionReceipts = config.decisionReceipts := by
  unfold World.dropPending
  split
  · rfl
  · rfl

theorem proceed_receipts (id : Nat) :
    (world.proceed id).config.decisionReceipts = world.config.decisionReceipts := by
  unfold World.proceed
  split
  · rfl
  · exact dropPending_receipts _ _
  · rfl
  · rfl
  · rfl
  · split
    · rfl
    · rfl
  · exact dropPending_receipts _ _

theorem record_receipt (recorded : world.config.decisionReceipts key = some receipt) :
    (world.recordDecisionReceipt other).2.config.decisionReceipts key = some receipt := by
  unfold World.recordDecisionReceipt
  by_cases blank : isBlank other.decision.requestGeneration = true
  · rw [if_pos blank]
    exact recorded
  · rw [if_neg blank]
    cases found : world.config.decisionReceipts (receiptKey other) with
    | some existing =>
      dsimp only
      split
      · exact recorded
      · exact recorded
    | none =>
      have apart : key ≠ receiptKey other := by
        rintro rfl
        rw [recorded] at found
        cases found
      exact (Function.update_of_ne apart _ _).trans recorded

theorem record_pending (receipt : PermissionDecisionReceipt) :
    (world.recordDecisionReceipt receipt).2.config.pendingRequests =
      world.config.pendingRequests := by
  unfold World.recordDecisionReceipt
  split
  · rfl
  · split
    · split
      · rfl
      · rfl
    · rfl

theorem after_receipt (act : Act) (recorded : world.config.decisionReceipts key = some receipt) :
    (world.after desk act).config.decisionReceipts key = some receipt := by
  cases act with
  | register request =>
    have same := congrArg PermissionConfig.decisionReceipts (register_config world request)
    exact (congrFun same key).trans recorded
  | proceed id => exact (congrFun (proceed_receipts id) key).trans recorded
  | record other =>
    rw [after_record]
    exact record_receipt recorded
  | grant given =>
    rw [after_grant, (granting_rest _ _).1]
    exact recorded
  | consume spent =>
    rw [after_consume, (consuming_rest _ _).1]
    exact recorded
  | evaluate moment input additional restricting =>
    rw [after_evaluate, (evaluate_rest _ _ _ _ _ _).1]
    exact recorded

theorem record_refused (recorded : world.config.decisionReceipts (receiptKey other) = some receipt)
    (different : other.decision ≠ receipt.decision) :
    ∃ error, world.recordDecisionReceipt other = (.error error, world) := by
  unfold World.recordDecisionReceipt
  split
  · exact ⟨_, rfl⟩
  · rw [recorded]
    dsimp only
    rw [if_neg (Ne.symm different)]
    exact ⟨_, rfl⟩

/- Registrations. -/

/-- The call is a registration of the request. -/
def Registers (request : PermissionRequest) : Underway → Prop
  | .settling other | .revoking other | .revokingTyped other | .inserting other
  | .rechecking other => other = request
  | .clearing _ => False

/-- How far a registration has come. -/
def progress : Option Underway → Nat
  | some (.revoking _) => 0
  | some (.revokingTyped _) => 1
  | some (.inserting _) => 2
  | _ => 3

/-- A registration that is underway or has ended: what it has revoked is held only where it has
    been granted since, and what it has replaced is not pending any more. -/
structure Registered (request : PermissionRequest) (id : Nat) (since : Ticket → Nat)
    (entries : List PermissionRequest) (world : World) : Prop where
  mine : ∀ call ∈ world.underway id, Registers request call
  given : id < world.next
  untyped : 1 ≤ progress (world.underway id) → ∀ ticket, Older request ticket →
    ticket.generation = none → holds ticket world.config ≤ since ticket
  typed : 2 ≤ progress (world.underway id) → ∀ ticket, Older request ticket →
    holds ticket world.config ≤ since ticket
  pending : 3 ≤ progress (world.underway id) → ∀ entry,
    world.config.pendingRequests (requestKey request) = some entry → entry ∈ entries

theorem dropPending_pending
    (found : (World.dropPending config key generation).pendingRequests key' = some entry) :
    config.pendingRequests key' = some entry := by
  unfold World.dropPending at found
  split at found
  · by_cases same : key' = key
    · subst same
      cases (Function.update_self _ _ _).symm.trans found
    · exact (Function.update_of_ne same _ _).symm.trans found
  · exact found

theorem after_pending (act : Act)
    (found : (world.after desk act).config.pendingRequests key = some entry) :
    world.config.pendingRequests key = some entry ∨ entry ∈ inserted world act := by
  cases act with
  | register request =>
    have same := congrArg PermissionConfig.pendingRequests (register_config world request)
    exact .inl ((congrFun same key).symm.trans found)
  | proceed id =>
    have ran : world.after desk (.proceed id) = world.proceed id := rfl
    rw [ran] at found
    unfold World.proceed at found
    unfold inserted
    split at found
    · exact .inl found
    · exact .inl (dropPending_pending found)
    · exact .inl found
    · exact .inl found
    · rename_i request here
      by_cases same : key = requestKey request
      · subst same
        have written := (Function.update_self _ _ _).symm.trans found
        dsimp only
        rw [here]
        exact .inr (List.mem_singleton.2 (Option.some.inj written).symm)
      · exact .inl ((Function.update_of_ne same _ _).symm.trans found)
    · split at found
      · exact .inl found
      · exact .inl found
    · exact .inl (dropPending_pending found)
  | record receipt =>
    rw [after_record, record_pending] at found
    exact .inl found
  | grant given =>
    rw [after_grant, (granting_rest _ _).2] at found
    exact .inl found
  | consume spent =>
    rw [after_consume, (consuming_rest _ _).2] at found
    exact .inl found
  | evaluate moment input additional restricting =>
    rw [after_evaluate, (evaluate_rest _ _ _ _ _ _).2] at found
    exact .inl found

theorem launch_underway {id : Nat} (given : id < world.next) :
    (world.launch call).underway id = world.underway id :=
  Function.update_of_ne (ne_of_lt given) _ _

theorem become_underway {id : Nat} (apart : id ≠ other) :
    (world.become other config call).underway id = world.underway id :=
  Function.update_of_ne apart _ _

theorem proceed_underway {id : Nat} (apart : id ≠ other) :
    (world.proceed other).underway id = world.underway id := by
  unfold World.proceed
  split
  · rfl
  · exact become_underway apart
  · exact become_underway apart
  · exact become_underway apart
  · exact become_underway apart
  · split
    · exact become_underway apart
    · exact become_underway apart
  · exact become_underway apart

theorem proceed_next (id : Nat) : (world.proceed id).next = world.next := by
  unfold World.proceed
  split
  · rfl
  · rfl
  · rfl
  · rfl
  · rfl
  · split
    · rfl
    · rfl
  · rfl

theorem register_underway {id : Nat} (given : id < world.next) :
    (world.register request).underway id = world.underway id ∧
      world.next ≤ (world.register request).next := by
  unfold World.register
  split
  · exact ⟨rfl, le_rfl⟩
  · split
    · exact ⟨launch_underway given, Nat.le_succ _⟩
    · exact ⟨launch_underway given, Nat.le_succ _⟩

theorem record_underway {id : Nat}
    (given : id < world.next) :
    (world.recordDecisionReceipt receipt).2.underway id = world.underway id ∧
      world.next ≤ (world.recordDecisionReceipt receipt).2.next := by
  unfold World.recordDecisionReceipt
  split
  · exact ⟨rfl, le_rfl⟩
  · split
    · split
      · exact ⟨rfl, le_rfl⟩
      · exact ⟨rfl, le_rfl⟩
    · exact ⟨launch_underway given, Nat.le_succ _⟩

theorem after_underway (desk : Desk) {id : Nat} (act : Act) (given : id < world.next) :
    (act = .proceed id ∨ (world.after desk act).underway id = world.underway id) ∧
      id < (world.after desk act).next := by
  cases act with
  | register request =>
    have moved := @register_underway world request _ given
    exact ⟨.inr moved.1, lt_of_lt_of_le given moved.2⟩
  | proceed other =>
    have next : (world.after desk (.proceed other)).next = world.next := proceed_next other
    refine ⟨?_, by rw [next]; exact given⟩
    by_cases same : id = other
    · exact .inl (by rw [same])
    · exact .inr (proceed_underway same)
  | record receipt =>
    have moved := @record_underway world receipt _ given
    rw [after_record]
    exact ⟨.inr moved.1, lt_of_lt_of_le given moved.2⟩
  | grant given' => exact ⟨.inr rfl, given⟩
  | consume spent => exact ⟨.inr rfl, given⟩
  | evaluate moment input additional restricting => exact ⟨.inr rfl, given⟩

theorem revoke_older (older : Older request ticket) (untyped : ticket.generation = none) :
    holds ticket (World.revoke config request) = 0 := by
  obtain ⟨session, same, _⟩ := older
  unfold holds World.revoke Ticket.key
  rw [show requestKey request = (request.sessionId, request.requestId) from rfl, grantsAt_update,
    session, same, untyped, if_pos rfl]
  rfl

theorem revokeTyped_older (older : Older request ticket)
    (typed : ticket.generation = some generation) :
    holds ticket (World.revokeTyped config request) = 0 := by
  obtain ⟨session, same, other⟩ := older
  rw [typed] at other
  unfold holds grantsAt World.revokeTyped Ticket.key
  rw [typed]
  dsimp only
  rw [if_neg]
  · rfl
  · rintro (apart | apart | equal)
    · exact apart session
    · exact apart same
    · exact other (congrArg some equal)

variable {since : Ticket → Nat}

theorem holds_since (desk : Desk) (act : Act) (bound : holds ticket world.config ≤ since ticket) :
    holds ticket (world.after desk act).config ≤ since ticket + granted ticket world act := by
  have within := after_holds desk ticket world act
  omega

theorem pending_since (desk : Desk) (act : Act)
    (known : ∀ entry, world.config.pendingRequests key = some entry → entry ∈ entries) :
    ∀ entry, (world.after desk act).config.pendingRequests key = some entry →
      entry ∈ entries ++ inserted world act := by
  intro entry found
  rcases after_pending act found with before | written
  · exact List.mem_append_left _ (known entry before)
  · exact List.mem_append_right _ written

theorem insertPending_self (config : PermissionConfig) (request : PermissionRequest) :
    (World.insertPending config request).pendingRequests (requestKey request) = some request :=
  Function.update_self _ _ _

theorem registered_proceed {id : Nat} (desk : Desk)
    (registered : Registered request id since entries world) :
    Registered request id (fun ticket => since ticket + granted ticket world (.proceed id))
      (entries ++ inserted world (.proceed id)) (world.after desk (.proceed id)) := by
  obtain ⟨_, given⟩ := after_underway desk (.proceed id) registered.given
  have untyped := fun passed ticket older none =>
    holds_since desk (.proceed id) (registered.untyped passed ticket older none)
  have typed := fun passed ticket older =>
    holds_since desk (.proceed id) (registered.typed passed ticket older)
  have pending := fun ended => pending_since desk (.proceed id) (registered.pending ended)
  have ran : world.after desk (.proceed id) = world.proceed id := rfl
  -- Once the entry has been replaced, nothing is left to be done but what keeps it so.
  have ended : 3 ≤ progress (world.underway id) →
      (∀ call ∈ (world.proceed id).underway id, Registers request call) →
      Registered request id (fun ticket => since ticket + granted ticket world (.proceed id))
        (entries ++ inserted world (.proceed id)) (world.after desk (.proceed id)) :=
    fun far mine =>
      { mine, given
        untyped := fun _ => untyped (le_trans (by decide) far)
        typed := fun _ => typed (le_trans (by decide) far)
        pending := fun _ => pending far }
  have moved : ∀ {config call}, (world.become id config call).underway id = call :=
    Function.update_self _ _ _
  cases here : world.underway id with
  | none =>
    apply ended (by rw [here]; decide)
    unfold World.proceed
    rw [here]
    rw [here]
    exact fun _ impossible => nomatch impossible
  | some call =>
    have mine := registered.mine call here
    cases call with
    | settling other =>
      apply ended (by rw [here]; exact le_rfl)
      unfold World.proceed
      rw [here]
      rw [moved]
      exact fun _ impossible => nomatch impossible
    | revoking other =>
      cases mine
      have step : world.proceed id = world.become id (World.revoke world.config request)
          (some (.revokingTyped request)) := by
        unfold World.proceed
        rw [here]
      rw [ran, step] at given ⊢
      refine ⟨?_, given, ?_, ?_, ?_⟩
      · rw [moved]
        rintro _ ⟨⟩
        exact rfl
      · intro _ ticket older none
        exact Nat.le_trans (Nat.le_of_eq (revoke_older older none)) (Nat.zero_le _)
      · rw [moved]
        exact fun far => absurd far (show ¬ 2 ≤ 1 by decide)
      · rw [moved]
        exact fun far => absurd far (show ¬ 3 ≤ 1 by decide)
    | revokingTyped other =>
      cases mine
      have step : world.proceed id = world.become id (World.revokeTyped world.config request)
          (some (.inserting request)) := by
        unfold World.proceed
        rw [here]
      have passed := untyped (by rw [here]; exact le_rfl)
      rw [ran, step] at given passed ⊢
      refine ⟨?_, given, fun _ => passed, ?_, ?_⟩
      · rw [moved]
        rintro _ ⟨⟩
        exact rfl
      · intro _ ticket older
        cases generation : ticket.generation with
        | none => exact passed ticket older generation
        | some _ =>
          exact Nat.le_trans (Nat.le_of_eq (revokeTyped_older older generation)) (Nat.zero_le _)
      · rw [moved]
        exact fun far => absurd far (show ¬ 3 ≤ 2 by decide)
    | inserting other =>
      cases mine
      have step : world.proceed id = world.become id (World.insertPending world.config request)
          (some (.rechecking request)) := by
        unfold World.proceed
        rw [here]
      have passed := typed (by rw [here]; exact le_rfl)
      rw [ran, step] at given passed ⊢
      refine ⟨?_, given, fun _ ticket older _ => passed ticket older, fun _ => passed, ?_⟩
      · rw [moved]
        rintro _ ⟨⟩
        exact rfl
      · intro _ entry found
        have written : some request = some entry :=
          (insertPending_self world.config request).symm.trans found
        apply List.mem_append_right
        unfold inserted
        dsimp only
        rw [here, Option.some.inj written]
        exact List.mem_cons_self
    | rechecking other =>
      cases mine
      apply ended (by rw [here]; exact le_rfl)
      unfold World.proceed
      rw [here]
      dsimp only
      split
      · rw [moved]
        rintro _ ⟨⟩
        exact rfl
      · rw [moved]
        exact fun _ impossible => nomatch impossible
    | clearing receipt => exact mine.elim

theorem registered_step (desk : Desk) {id : Nat}
    (registered : Registered request id since entries world) (act : Act) :
    Registered request id (fun ticket => since ticket + granted ticket world act)
      (entries ++ inserted world act) (world.after desk act) := by
  obtain ⟨moves, given⟩ := after_underway desk act registered.given
  rcases moves with rfl | still
  · exact registered_proceed desk registered
  · refine ⟨?_, given, ?_, ?_, ?_⟩
    · rw [still]
      exact registered.mine
    · rw [still]
      exact fun passed ticket older untyped =>
        holds_since desk act (registered.untyped passed ticket older untyped)
    · rw [still]
      exact fun passed ticket older =>
        holds_since desk act (registered.typed passed ticket older)
    · rw [still]
      exact fun ended => pending_since desk act (registered.pending ended)

theorem registered_run {id : Nat} (desk : Desk) :
    ∀ (acts : List Act) {world : World} {since : Ticket → Nat} {entries : List PermissionRequest},
    Registered request id since entries world →
    Registered request id
      (fun ticket => since ticket + during (World.after desk) (granted ticket) world acts)
      (entries ++ noted (World.after desk) inserted world acts)
      (run (World.after desk) world acts) := by
  intro acts
  induction acts with
  | nil =>
    intro world since entries registered
    unfold noted
    rw [List.append_nil]
    exact registered
  | cons act rest ih =>
    intro world since entries registered
    have later := ih (registered_step desk registered act)
    simp only [add_assoc, List.append_assoc] at later
    exact later

theorem register_unresolved (given : ¬ isBlank request.requestGeneration = true)
    (unresolved : world.config.decisionReceipts (generationKey request) = none) :
    Registered request world.next (fun _ => 0) [] (world.register request) := by
  have begun : world.register request = world.launch (.revoking request) := by
    unfold World.register
    rw [if_neg given, unresolved]
    rfl
  have moved : (world.launch (.revoking request)).underway world.next =
    some (.revoking request) := Function.update_self _ _ _
  rw [begun]
  refine ⟨?_, Nat.lt_succ_self _, ?_, ?_, ?_⟩
  · rw [moved]
    rintro _ ⟨⟩
    exact rfl
  · rw [moved]
    exact fun far => absurd far (show ¬ 1 ≤ 0 by decide)
  · rw [moved]
    exact fun far => absurd far (show ¬ 2 ≤ 0 by decide)
  · rw [moved]
    exact fun far => absurd far (show ¬ 3 ≤ 0 by decide)

/-- One-shot grants are spent once and by what they are for, receipts stand, and a registration
    leaves nothing usable of the older generations of its request. -/
theorem one_shots_are_single_use (desk : Desk) (world : World) (acts : List Act) :
    (∀ ticket, during (World.after desk) (authorized desk ticket) world acts ≤
      holds ticket world.config + during (World.after desk) (granted ticket) world acts) ∧
    (∀ key receipt, world.config.decisionReceipts key = some receipt →
      let final := run (World.after desk) world acts
      final.config.decisionReceipts key = some receipt ∧
      ∀ other, receiptKey other = key → other.decision ≠ receipt.decision →
        ∃ error, final.recordDecisionReceipt other = (.error error, final)) ∧
    ∀ request, ¬ isBlank request.requestGeneration = true →
      world.config.decisionReceipts (generationKey request) = none →
      let begun := world.register request
      let final := run (World.after desk) begun acts
      final.underway world.next = none →
      (∀ ticket, Older request ticket → ∀ later,
        during (World.after desk) (authorized desk ticket) final later ≤
          during (World.after desk) (granted ticket) begun acts +
            during (World.after desk) (granted ticket) final later) ∧
      ∀ entry, final.config.pendingRequests (requestKey request) = some entry →
        entry ∈ noted (World.after desk) inserted begun acts := by
  refine ⟨fun ticket => authorized_within desk ticket world acts, ?_, ?_⟩
  · intro key receipt recorded
    have stands := run_keeps (fun world act => @after_receipt desk world key receipt act) acts recorded
    refine ⟨stands, ?_⟩
    rintro other rfl different
    exact record_refused stands different
  · intro request given unresolved begun final ended
    have registered := registered_run desk acts (register_unresolved given unresolved)
    have far : 3 ≤ progress (final.underway world.next) := by
      rw [ended]
      exact Nat.le_refl 3
    refine ⟨?_, ?_⟩
    · intro ticket older later
      have left := registered.typed (Nat.le_of_succ_le far) ticket older
      have spent := authorized_within desk ticket final later
      rw [Nat.zero_add] at left
      exact Nat.le_trans spent (Nat.add_le_add_right left _)
    · intro entry found
      have known := registered.pending far entry found
      exact known

/-- A host without files and an analysis without findings. -/
def plainDesk : Desk :=
  { host := { realpath := fun _ => none, parseUrl := fun _ => none }
    analysis :=
      { isFocusedBrowserInput := fun _ _ => false, isFocusedBrowserResource := fun _ _ => false
        shellCommand := fun _ _ => none, isDenied := fun _ => false
        isSuperDangerous := fun _ => false, isSafeEditCommand := fun _ => false
        matchesToolCall := fun _ _ _ => false, createArguments := id
        scopedSendRestriction := fun _ => none } }

def emptyConfig : PermissionConfig :=
  { whitelist := [], scopedSessionGrants := fun _ _ => [], scopedSessionDenies := fun _ _ => []
    typedScopedSessionGrants := fun _ _ => [], typedScopedSessionDenies := fun _ _ => []
    oneShotGrants := fun _ => [], typedOneShotGrants := fun _ => [], enabled := true
    mode := .default, confirmThreshold := .low, askRules := [], durableRules := []
    policyRevision := 0, pendingRequests := fun _ => none, decisionReceipts := fun _ => none }

def firstTicket : Ticket :=
  { sessionId := "s", requestId := "r", generation := some "g1", permissionType := .writeFile
    resource := "/tmp/a" }

/-- A world in which the first generation of a request has been granted. -/
def grantedWorld : World :=
  ({ config := emptyConfig, underway := fun _ => none, next := 0 } : World).after plainDesk
    (.grant firstTicket)

def secondRequest : PermissionRequest :=
  { requestId := "r", requestGeneration := "g2", sessionId := "s", workspacePath := none
    toolName := "Write", permissionType := .writeFile, resource := "/tmp/b"
    operationSummary := "", riskLevel := .medium, reasonCode := .riskThreshold
    effectiveMode := .default, bypassRequested := false, autoApproveRequested := false
    policyRevision := 0, matchedRule := none, allowedDecisions := [.allowOnce]
    suggestedMatchers := [] }

def registeredWorld : World :=
  run (World.after plainDesk) (grantedWorld.register secondRequest)
    [.proceed 0, .proceed 0, .proceed 0, .proceed 0]

theorem firstTicket_void (later : List Act) :
    holds firstTicket grantedWorld.config = 1 ∧
      during (World.after plainDesk) (authorized plainDesk firstTicket) registeredWorld later ≤
        during (World.after plainDesk) (granted firstTicket) registeredWorld later := by
  refine ⟨by decide +kernel, ?_⟩
  have registered := (one_shots_are_single_use plainDesk grantedWorld
    [.proceed 0, .proceed 0, .proceed 0, .proceed 0]).2.2 secondRequest (by decide +kernel) rfl rfl
  have spent := registered.1 firstTicket ⟨rfl, rfl, by decide⟩ later
  have none : during (World.after plainDesk) (granted firstTicket)
      (grantedWorld.register secondRequest)
      [.proceed 0, .proceed 0, .proceed 0, .proceed 0] = 0 := rfl
  rw [none, Nat.zero_add] at spent
  exact spent

end Permissions
