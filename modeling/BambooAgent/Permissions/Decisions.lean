import BambooAgent.Library.Interleavings
import BambooAgent.Permissions.Evaluation

/- Pending requests, decisions and one-shot grants, as any number of callers see them: every access
   to one of the maps is a step of its own. -/
namespace Permissions
open PermissionConfig

/-- What a call has still to do: the steps of `register_pending_request` and the last one of
    `record_decision_receipt`. -/
inductive Underway where
  | settling (request : PermissionRequest)
  | revoking (request : PermissionRequest)
  | revokingTyped (request : PermissionRequest)
  | inserting (request : PermissionRequest)
  | rechecking (request : PermissionRequest)
  | clearing (receipt : PermissionDecisionReceipt)

/-- The configuration, and the calls that are underway by number. -/
structure World where
  config : PermissionConfig
  underway : Nat → Option Underway
  next : Nat

def requestKey (request : PermissionRequest) : String × String :=
  (request.sessionId, request.requestId)

def generationKey (request : PermissionRequest) : String × String × String :=
  (request.sessionId, request.requestId, request.requestGeneration)

def receiptKey (receipt : PermissionDecisionReceipt) : String × String × String :=
  (receipt.sessionId, receipt.decision.requestId, receipt.decision.requestGeneration)

namespace World

def launch (world : World) (call : Underway) : World :=
  { world with underway := Function.update world.underway world.next (some call)
               next := world.next + 1 }

def dropPending (config : PermissionConfig) (key : String × String) (generation : String) :
    PermissionConfig :=
  if (config.pendingRequests key).any (fun pending =>
      decide (pending.requestGeneration = generation)) then
    { config with pendingRequests := Function.update config.pendingRequests key none }
  else config

/-- The first step of `register_pending_request`: has this generation been decided? -/
def register (world : World) (request : PermissionRequest) : World :=
  if isBlank request.requestGeneration then world
  else if (world.config.decisionReceipts (generationKey request)).isSome then
    world.launch (.settling request)
  else world.launch (.revoking request)

def revoke (config : PermissionConfig) (request : PermissionRequest) : PermissionConfig :=
  { config with
    oneShotGrants := Function.update config.oneShotGrants (requestKey request) [] }

def revokeTyped (config : PermissionConfig) (request : PermissionRequest) : PermissionConfig :=
  { config with
    typedOneShotGrants := fun key =>
      if key.1 ≠ request.sessionId ∨ key.2.1 ≠ request.requestId ∨
          key.2.2 = request.requestGeneration then config.typedOneShotGrants key
      else [] }

def insertPending (config : PermissionConfig) (request : PermissionRequest) : PermissionConfig :=
  { config with
    pendingRequests := Function.update config.pendingRequests (requestKey request)
      (some request) }

def become (world : World) (id : Nat) (config : PermissionConfig) (call : Option Underway) :
    World :=
  { world with config, underway := Function.update world.underway id call }

/-- The next step of a call. -/
def proceed (world : World) (id : Nat) : World :=
  match world.underway id with
  | none => world
  | some (.settling request) =>
    world.become id (dropPending world.config (requestKey request) request.requestGeneration) none
  | some (.revoking request) =>
    world.become id (revoke world.config request) (some (.revokingTyped request))
  | some (.revokingTyped request) =>
    world.become id (revokeTyped world.config request) (some (.inserting request))
  | some (.inserting request) =>
    world.become id (insertPending world.config request) (some (.rechecking request))
  | some (.rechecking request) =>
    -- A receipt may have landed between the first look and the insertion.
    if (world.config.decisionReceipts (generationKey request)).isSome then
      world.become id world.config (some (.settling request))
    else world.become id world.config none
  | some (.clearing receipt) =>
    world.become id (dropPending world.config (receipt.sessionId, receipt.decision.requestId)
      receipt.decision.requestGeneration) none

/-- `record_decision_receipt`, up to the pending entry: whether this is a replay, and why it is
    refused. -/
def recordDecisionReceipt (world : World) (receipt : PermissionDecisionReceipt) :
    Except String Bool × World :=
  if isBlank receipt.decision.requestGeneration then
    (.error "permission decision generation must not be blank", world)
  else
    match world.config.decisionReceipts (receiptKey receipt) with
    | some existing =>
      if existing.decision = receipt.decision then (.ok true, world)
      else (.error "request already resolved with a different decision", world)
    | none =>
      (.ok false,
        let config :=
          { world.config with
            decisionReceipts := Function.update world.config.decisionReceipts
              (receiptKey receipt) (some receipt) }
        { world with config }.launch (.clearing receipt))

end World

/-- What one one-shot grant is for; without a generation it is of the older kind. -/
structure Ticket where
  sessionId : String
  requestId : String
  generation : Option String
  permissionType : PermissionType
  resource : String
  deriving DecidableEq

/-- What a caller does. An evaluation writes nothing but the receipt that it spends. -/
inductive Act where
  | register (request : PermissionRequest)
  | proceed (id : Nat)
  | record (receipt : PermissionDecisionReceipt)
  | grant (ticket : Ticket)
  | consume (ticket : Ticket)
  | evaluate (moment : Moment) (input : PermissionEvaluation)
      (additional : Option (String × String)) (restricting : Option PermissionEvaluation)

/-- `grant_once` and `grant_once_for_generation`. -/
def granting (config : PermissionConfig) (ticket : Ticket) : PermissionConfig :=
  match ticket.generation with
  | none =>
    config.grantOnce ticket.sessionId ticket.requestId ticket.permissionType ticket.resource
  | some generation =>
    match config.grantOnceForGeneration ticket.sessionId ticket.requestId generation
        ticket.permissionType ticket.resource with
    | .ok granted => granted
    | .error _ => config

/-- `consume_once` and `consume_once_for_generation`. -/
def consuming (config : PermissionConfig) (ticket : Ticket) : Bool × PermissionConfig :=
  match ticket.generation with
  | none =>
    config.consumeOnce ticket.sessionId ticket.requestId ticket.permissionType ticket.resource
  | some generation =>
    config.consumeOnceForGeneration ticket.sessionId ticket.requestId generation
      ticket.permissionType ticket.resource

/-- What an evaluation can be authorized by: the session, the request, the generation of its
    replay, the type and the resource are its own. -/
def ticketOf (moment : Moment) (input : PermissionEvaluation) : Ticket :=
  { sessionId := input.sessionId
    requestId := input.requestId
    generation := currentPermissionReplayGeneration moment.replay input.sessionId input.requestId
    permissionType := input.permissionType
    resource := input.resource }

def World.after (desk : Desk) (world : World) : Act → World
  | .register request => world.register request
  | .proceed id => world.proceed id
  | .record receipt => (world.recordDecisionReceipt receipt).2
  | .grant ticket => { world with config := granting world.config ticket }
  | .consume ticket => { world with config := (consuming world.config ticket).2 }
  | .evaluate moment input additional restricting =>
    { world with config := (world.config.evaluateWithAdditionalRestrictions desk moment input
        additional restricting).2 }

def PermissionOutcome.isOneShot : PermissionOutcome → Bool
  | .allow .oneShot _ => true
  | _ => false

def authorizes (desk : Desk) (world : World) : Act → Option Ticket
  | .consume ticket => if (consuming world.config ticket).1 then some ticket else none
  | .evaluate moment input additional restricting =>
    if (world.config.evaluateWithAdditionalRestrictions desk moment input additional
        restricting).1.isOneShot then some (ticketOf moment input)
    else none
  | _ => none

def authorized (desk : Desk) (ticket : Ticket) (world : World) (act : Act) : Nat :=
  if authorizes desk world act = some ticket then 1 else 0

def granted (ticket : Ticket) (_ : World) : Act → Nat
  | .grant given => if given = ticket ∧ ¬ given.generation.any isBlank = true then 1 else 0
  | _ => 0

/-- The pending entry that the act writes. -/
def inserted (world : World) : Act → List PermissionRequest
  | .proceed id =>
    match world.underway id with
    | some (.inserting request) => [request]
    | _ => []
  | _ => []

/-- The grant is of the request, but not of its generation. -/
def Older (request : PermissionRequest) (ticket : Ticket) : Prop :=
  ticket.sessionId = request.sessionId ∧ ticket.requestId = request.requestId ∧
    ticket.generation ≠ some request.requestGeneration

end Permissions
