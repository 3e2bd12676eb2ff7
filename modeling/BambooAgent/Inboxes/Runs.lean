import BambooAgent.Inboxes.Promotions

/- Any number of parties that work on one inbox, call after call. The lock lets one call in at a
   time; a call may be stopped before any of its steps, and the next one finds what it left. -/
namespace Inboxes
open SortedMaps Crashes Checks

/-- A call with what it reads of the clock. -/
inductive Call where
  | deliver (envelope : SessionMessageEnvelope) (gate : Option AdmissionGate)
      (intent : Option SessionInboxActivationIntent)
  | cancelGuidance (id : String)
  | claimForTurn (limit : Nat) (run : Option String) (scopedOnly : Bool)
  | ack (claim : SessionInboxClaim) (admittedAt : Time)
  | markActivation (generation : Nat) (policy : SessionActivationPolicy)
  | markMessage (receipt : SessionInboxReceipt) (policy : SessionActivationPolicy)
  | claimOwned (request : ClaimRequest)
  | renew (claim : SessionInboxOwnedClaim) (request : SessionInboxLeaseRequest)
  | ackOwned (claim : SessionInboxOwnedClaim) (now admittedAt : Time)
  | release (claim : SessionInboxOwnedClaim) (looked released written : Time)
  | fail (claim : SessionInboxOwnedClaim) (report : SessionInboxFailureReport)
  | inspectDeadLetters (limit : Nat) (authorized : Except SessionInboxError Unit)
  | retryDeadLetter (id : String) (generation : Nat) (now : Time)
      (authorized : Except SessionInboxError Unit)
  | inspectWakeReadiness (now : Time)

namespace Call

/-- What the call does to the directory; its answer is looked at where it is needed. -/
def run (rules : Rules) (target : String) : Call → Act Unit
  | deliver envelope gate intent => discard (Inboxes.deliver rules envelope gate intent)
  | cancelGuidance id => discard (Inboxes.cancelGuidance target id)
  | claimForTurn limit run scopedOnly =>
    discard (Inboxes.claimForTurn rules target limit run scopedOnly)
  | ack claim admittedAt => Inboxes.ack rules target claim admittedAt
  | markActivation generation policy => markActivationEligible generation policy
  | markMessage receipt policy => markMessageActivationEligible rules target receipt policy
  | claimOwned request => discard (Inboxes.claimOwned rules target request)
  | renew claim request => discard (Inboxes.renew rules target claim request)
  | ackOwned claim now admittedAt => Inboxes.ackOwned rules target claim now admittedAt
  | release claim looked released written =>
    Inboxes.release rules target claim looked released written
  | fail claim report => discard (Inboxes.fail rules target claim report)
  | inspectDeadLetters limit authorized =>
    discard (Inboxes.inspectDeadLetters rules target limit authorized)
  | retryDeadLetter id generation now authorized =>
    discard (Inboxes.retryDeadLetter rules target id generation now authorized)
  | inspectWakeReadiness now => discard (Inboxes.inspectWakeReadiness rules target now)

def begins (clock : Time) : Call → Time
  | claimOwned request => request.request.now
  | renew _ request => request.now
  | ackOwned _ now _ => now
  | release _ looked _ _ => looked
  | fail _ report => report.now
  | retryDeadLetter _ _ now _ => now
  | inspectWakeReadiness now => now
  | _ => clock

/-- The last reading of the clock. -/
def ends (clock : Time) : Call → Time
  | release _ _ _ written => written
  | call => call.begins clock

/-- Clocks do not go back, and a message goes to the inbox of its own session. -/
structure Fits (target : String) (clock : Time) (call : Call) : Prop where
  begins : clock ≤ call.begins clock
  ends : call.begins clock ≤ call.ends clock
  aimed : ∀ envelope gate intent, call = .deliver envelope gate intent →
    envelope.targetSessionId = target

def deeds (inbox : Inbox) : Call → Deed → Prop
  | deliver _ _ _ => delivers
  | cancelGuidance _ => withdraws
  | claimForTurn _ _ _ => withdraws
  | ack _ _ => admits
  | markActivation generation _ => grantsUpTo generation
  | markMessage receipt _ => grantsOne inbox receipt
  | claimOwned _ => claims
  | renew _ _ => renews
  | ackOwned _ _ _ => admits
  | release _ _ _ _ => renews
  | fail claim _ => fails inbox claim
  | inspectDeadLetters _ _ => recovers
  | retryDeadLetter id generation _ _ => retries inbox { id, generation }
  | inspectWakeReadiness _ => recovers

end Call

structure World where
  inbox : Inbox
  clock : Time

def World.start : World := { inbox := .empty, clock := 0 }

/-- The world after a call that had so many steps left before its process died. -/
def World.after (rules : Rules) (target : String) (world : World) (call : Call) (left : Nat) :
    World :=
  { inbox := (call.run rules target { inbox := world.inbox, left }).2.inbox
    clock := call.ends world.clock }

def Run (rules : Rules) (target : String) (permitted : Call → World → World → Prop) :
    World → World → Prop :=
  Relation.ReflTransGen (fun world world' => ∃ call left, call.Fits target world.clock ∧
    world' = world.after rules target call left ∧ permitted call world world')

def anyCall (_ : Call) (_ _ : World) : Prop := True

def Reachable (rules : Rules) (target : String) (world : World) : Prop :=
  Run rules target anyCall .start world

variable {world : World}

/- What a step may do, it may do at any later time. -/

theorem Does.later (later : clock ≤ clock') (does : Does rules target clock deed inbox inbox') :
    Does rules target clock' deed inbox inbox' := by
  cases does with
  | count => exact .count _
  | marks _ _ activation interrupt marks marks' read reads moved =>
    exact .marks _ _ _ _ marks marks' read reads moved
  | publish _ name transport marks read sound unleased ungranted last fresh unadmitted =>
    exact .publish _ name transport marks read (sound.mono later le_rfl id id) unleased
      ungranted last fresh unadmitted
  | rewrite _ _ queue name transport transport' marks read held rewrites =>
    refine .rewrite _ _ queue name transport transport' marks read held ?_
    cases rewrites with
    | lease _ _ _ lease waiting unadmitted owned valid alive next failures =>
      exact .lease _ _ _ lease waiting unadmitted owned valid alive next failures
    | extend _ _ _ lease expiresAt waiting held alive =>
      exact .extend _ _ _ lease expiresAt waiting held alive
    | fail _ _ lease failed unadmitted held alive valid counted lineage ended unretried third =>
      exact .fail _ _ lease failed unadmitted held alive valid counted lineage
        (le_trans ended later) unretried third
    | request _ _ lease requested held dead => exact .request _ _ lease requested held dead
    | promote _ _ _ intent waiting versioned supported =>
      exact .promote _ _ _ intent waiting versioned supported
  | rename _ _ queue queue' name name' transport held same moves =>
    exact .rename _ _ queue queue' name name' transport held same moves
  | record _ name transport receipt held id generation leased leftover =>
    exact .record _ name transport receipt held id generation leased leftover
  | clear _ queue name transport receipt held admitted =>
    exact .clear _ queue name transport receipt held admitted

theorem Course.later (later : clock ≤ clock')
    (course : Course rules target clock allowed inbox inbox') :
    Course rules target clock' allowed inbox inbox' := by
  induction course with
  | refl => exact .refl
  | tail _ last ih =>
    obtain ⟨deed, may, does⟩ := last
    exact ih.tail ⟨deed, may, does.later later⟩

theorem keeps_discard {Q : α → Inbox → Prop} (keeps : Keeps rules target clock allowed inbox m Q) :
    Keeps rules target clock allowed inbox (discard m) (fun _ _ => True) :=
  keeps_bind keeps (fun _ _ _ _ => keeps_pure trivial)

/- One call. -/

theorem keeps_inspectWakeReadiness (tidy : Tidy rules target clock inbox marks) :
    Keeps rules target clock recovers inbox (inspectWakeReadiness rules target now)
      (fun found inbox' => ∃ interrupt, Tidy rules target clock inbox' marks ∧
        wakeReadiness rules inbox' target marks.granted interrupt now
          (sortEntries (inbox'.entries [.cur, .new])) { ready := none, nextDueAt := none } =
          .ok found) := by
  apply keeps_bind (keeps_recoverDeadLetterRotations tidy)
  intro _ recovered _ tidy'
  obtain ⟨readGranted, _, _⟩ := marks_eq_ok.1 tidy'.read
  apply keeps_look
  apply keeps_checked
  intro granted passed
  cases readGranted.symm.trans passed
  apply keeps_checked
  intro interrupt _
  apply keeps_check
  intro found run
  exact ⟨interrupt, tidy', run⟩

theorem keeps_call {call : Call} (fits : call.Fits target clock)
    (tidy : Tidy rules target clock inbox marks) :
    Keeps rules target (call.begins clock) (call.deeds inbox) inbox (call.run rules target)
      (fun _ _ => True) := by
  have tidy := tidy.later fits.begins
  cases call with
  | deliver envelope gate intent =>
    exact keeps_discard (keeps_deliver tidy (fits.aimed envelope gate intent rfl))
  | cancelGuidance id => exact keeps_discard keeps_cancelGuidance
  | claimForTurn limit run scopedOnly => exact keeps_discard (keeps_claimForTurn tidy)
  | ack claim admittedAt => exact keeps_ack tidy
  | markActivation generation policy =>
    exact keeps_mono (keeps_markActivationEligible tidy) (fun _ may => may)
      (fun _ _ _ _ => trivial)
  | markMessage receipt policy =>
    exact keeps_mono (keeps_markMessage tidy) (fun _ may => may) (fun _ _ _ _ => trivial)
  | claimOwned request => exact keeps_discard (keeps_claimOwned tidy)
  | renew claim request => exact keeps_discard (keeps_renew tidy le_rfl)
  | ackOwned claim now admittedAt =>
    exact keeps_mono (keeps_ackOwned tidy le_rfl) (fun _ may => may)
      (fun _ _ _ _ => trivial)
  | release claim looked released written =>
    exact keeps_mono (keeps_release tidy le_rfl) (fun _ may => may)
      (fun _ _ _ _ => trivial)
  | fail claim report => exact keeps_discard (keeps_fail tidy)
  | inspectDeadLetters limit authorized => exact keeps_discard (keeps_inspectDeadLetters tidy)
  | retryDeadLetter id generation now authorized =>
    exact keeps_discard (keeps_retryDeadLetter tidy)
  | inspectWakeReadiness now => exact keeps_discard (keeps_inspectWakeReadiness tidy)

theorem call_course (left : Nat) (fits : call.Fits target world.clock)
    (tidy : Tidy rules target world.clock world.inbox marks) :
    Course rules target (call.ends world.clock) (call.deeds world.inbox) world.inbox
      (world.after rules target call left).inbox :=
  (keeps_after (keeps_call fits tidy) left).later fits.ends

/- Runs. -/

/-- The inbox is as the programs leave it. -/
def World.Sound (rules : Rules) (target : String) (world : World) : Prop :=
  ∃ marks, Tidy rules target world.clock world.inbox marks

theorem after_sound (fits : call.Fits target world.clock) (sound : world.Sound rules target) :
    (world.after rules target call left).Sound rules target := by
  obtain ⟨marks, tidy⟩ := sound
  exact (call_course left fits tidy).tidy (tidy.later (le_trans fits.begins fits.ends))

theorem run_sound (run : Run rules target permitted world world')
    (sound : world.Sound rules target) : world'.Sound rules target := by
  induction run with
  | refl => exact sound
  | tail _ last ih =>
    obtain ⟨call, left, fits, rfl, _⟩ := last
    exact after_sound fits ih

theorem reachable_sound (reachable : Reachable rules target world) :
    world.Sound rules target :=
  run_sound reachable ⟨_, tidy_empty rules target 0⟩

theorem run_induct {F : Inbox → Prop}
    (stays : ∀ (world : World) (call : Call) (left : Nat) (marks : Marks),
      call.Fits target world.clock →
      permitted call world (world.after rules target call left) →
      Tidy rules target (call.ends world.clock) world.inbox marks →
      Course rules target (call.ends world.clock) (call.deeds world.inbox) world.inbox
        (world.after rules target call left).inbox →
      F world.inbox → F (world.after rules target call left).inbox)
    (run : Run rules target permitted world world') (sound : world.Sound rules target)
    (start : F world.inbox) : F world'.inbox := by
  induction run with
  | refl => exact start
  | tail before last ih =>
    obtain ⟨call, left, fits, rfl, may⟩ := last
    obtain ⟨marks, tidy⟩ := run_sound before sound
    exact stays _ call left marks fits may (tidy.later (le_trans fits.begins fits.ends))
      (call_course left fits tidy) ih

theorem kept_run (run : Run rules target permitted world world') (sound : world.Sound rules target)
    (kept : Kept rules world.inbox envelope intent receipt) :
    Kept rules world'.inbox envelope intent receipt :=
  run_induct (F := fun inbox => Kept rules inbox envelope intent receipt)
    (fun _ _ _ _ _ _ tidy course held => kept_course tidy course held) run sound kept

theorem reached_run {id : String} (run : Run rules target permitted world world')
    (sound : world.Sound rules target) (reached : Reached world.inbox id token) :
    Reached world'.inbox id token :=
  run_induct (F := fun inbox => Reached inbox id token)
    (fun _ _ _ _ _ _ tidy course held => reached_course tidy course held) run sound reached

end Inboxes
