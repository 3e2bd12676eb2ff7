import Mathlib.Data.Prod.Lex
import Mathlib.Data.String.Basic
import Mathlib.Logic.Function.Basic
import BambooAgent.Library.SwapRemove
import BambooAgent.Permissions.Matching

/- The permission state and the one evaluator over it. -/
namespace Permissions
open Compression SwapRemove

inductive PermissionMode where
  | default
  | plan
  | acceptEdits
  | dontAsk
  | bypassPermissions
  | auto
  deriving DecidableEq

inductive SessionPermissionMode where
  | default
  | bypass
  | auto
  deriving DecidableEq

structure PermissionModeResolution where
  requested : SessionPermissionMode
  effective : PermissionMode

def resolvePermissionMode (requested : SessionPermissionMode) (configured : PermissionMode) :
    PermissionModeResolution :=
  { requested
    effective :=
      match configured, requested with
      | .plan, _ => .plan
      | _, .auto => .auto
      | _, .bypass => .bypassPermissions
      | configured, .default => configured }

def PermissionModeResolution.bypassPermissions (resolution : PermissionModeResolution) : Bool :=
  decide (resolution.effective = .bypassPermissions)

def PermissionModeResolution.suppressApprovalPrompts (resolution : PermissionModeResolution) :
    Bool :=
  decide (resolution.requested = .auto) || decide (resolution.effective = .auto)

inductive PermissionDecisionKind where
  | allowOnce
  | allowSession
  | allowWorkspace
  | allowGlobal
  | denyOnce
  | denySession
  deriving DecidableEq

inductive PermissionReasonCode where
  | platformHardDeny
  | hardDangerous
  | configuredAlwaysAsk
  | explicitDeny
  | modeDenied
  | riskThreshold

structure EffectivePermissionPolicy where
  revision : Nat
  mode : PermissionMode
  bypassRequested : Bool
  autoApproveRequested : Bool

inductive PermissionDecisionSource where
  | permissionChecksDisabled
  | oneShot
  | rememberedSession
  | rememberedRule (rule : PermissionRuleRef)
  | bypass
  | auto
  | mode
  | belowRiskThreshold

structure PermissionDenyReason where
  code : PermissionReasonCode
  message : String
  matchedRule : Option PermissionRuleRef

structure PermissionRequest where
  requestId : String
  requestGeneration : String
  sessionId : String
  workspacePath : Option String
  toolName : String
  permissionType : PermissionType
  resource : String
  operationSummary : String
  riskLevel : RiskLevel
  reasonCode : PermissionReasonCode
  effectiveMode : PermissionMode
  bypassRequested : Bool
  autoApproveRequested : Bool
  policyRevision : Nat
  matchedRule : Option PermissionRuleRef
  allowedDecisions : List PermissionDecisionKind
  suggestedMatchers : List PermissionMatcher

inductive PermissionOutcome where
  | allow (source : PermissionDecisionSource) (effectivePolicy : EffectivePermissionPolicy)
  | deny (reason : PermissionDenyReason) (effectivePolicy : EffectivePermissionPolicy)
  | ask (request : PermissionRequest)

def PermissionOutcome.isAllow : PermissionOutcome → Bool
  | allow _ _ => true
  | _ => false

def PermissionOutcome.isDeny : PermissionOutcome → Bool
  | deny _ _ => true
  | _ => false

/-- The arguments of the tool are JSON, kept as its text. -/
structure PermissionEvaluation where
  requestId : String
  sessionId : String
  workspacePath : Option String
  toolName : String
  toolArgs : String
  permissionType : PermissionType
  resource : String
  operationSummary : String
  riskLevel : RiskLevel
  bypassRequested : Bool
  autoApproveRequested : Bool
  platformHardDeny : Option String
  consumeOnce : Bool
  supportedDecisions : List PermissionDecisionKind

structure PermissionDecision where
  requestId : String
  requestGeneration : String
  decision : PermissionDecisionKind
  matcherId : Option String
  expectedPolicyRevision : Option Nat
  confirmGlobal : Bool
  deriving DecidableEq

structure PermissionDecisionReceipt where
  sessionId : String
  decision : PermissionDecision
  decidedAt : Nat

structure ParsedRule where
  toolName : String
  pattern : Option String

/-- What the analysis of tool calls says of a call and of a command. -/
structure Analysis where
  isFocusedBrowserInput : String → String → Bool
  isFocusedBrowserResource : String → String → Bool
  shellCommand : String → String → Option String
  isDenied : String → Bool
  isSuperDangerous : String → Bool
  isSafeEditCommand : String → Bool
  matchesToolCall : ParsedRule → String → String → Bool
  createArguments : String → String
  scopedSendRestriction : String → Option (String × String)

structure Desk where
  host : Host
  analysis : Analysis

structure PermissionReplayIdentity where
  sessionId : String
  requestId : String
  requestGeneration : Option String

/-- What an evaluation finds besides the configuration: the time, the replay in which it takes
    place, and the generation that a new request is given. -/
structure Moment where
  clock : Clock
  replay : Option PermissionReplayIdentity
  freshGeneration : String

/-- The whitelist and the durable rules are maps by key, in whatever order they are read; grants
    and denies of a session are kept by session and type. -/
structure PermissionConfig where
  whitelist : List PermissionRule
  scopedSessionGrants : String → PermissionType → List SessionGrant
  scopedSessionDenies : String → PermissionType → List SessionGrant
  typedScopedSessionGrants : String → PermissionType → List TypedSessionGrant
  typedScopedSessionDenies : String → PermissionType → List TypedSessionGrant
  oneShotGrants : String × String → List (PermissionType × String)
  typedOneShotGrants : String × String × String → List (PermissionType × String)
  enabled : Bool
  mode : PermissionMode
  confirmThreshold : RiskLevel
  askRules : List ParsedRule
  durableRules : List DurablePermissionRule
  policyRevision : Nat
  pendingRequests : String × String → Option PermissionRequest
  decisionReceipts : String × String × String → Option PermissionDecisionReceipt

namespace PermissionConfig

/- Rules. -/

def whitelistKey (rule : PermissionRule) : String :=
  rule.toolType.name ++ ":" ++ rule.resourcePattern

def addRule (config : PermissionConfig) (rule : PermissionRule) : PermissionConfig :=
  { config with
    whitelist := config.whitelist.filter (fun other =>
      decide (whitelistKey other ≠ whitelistKey rule)) ++ [rule] }

def addDurableRule (host : Host) (config : PermissionConfig) (rule : DurablePermissionRule) :
    Except String PermissionConfig := do
  rule.validate host
  return { config with
    durableRules := config.durableRules.filter (fun other => decide (other.id ≠ rule.id)) ++
      [rule] }

def isWhitelistAllowed (host : Host) (clock : Clock) (config : PermissionConfig)
    (permissionType : PermissionType) (resource : String) : Option Bool :=
  config.whitelist.foldl (fun allowed rule =>
    if allowed = some false then allowed
    else if rule.isMatch host clock permissionType resource then some rule.allowed
    else allowed) none

def isScopedSessionGranted (host : Host) (clock : Clock) (config : PermissionConfig)
    (sessionId : String) (permissionType : PermissionType) (resource : String) : Bool :=
  (config.typedScopedSessionGrants sessionId permissionType).any (fun grant =>
      grant.isMatch host clock permissionType resource) ||
    (config.scopedSessionGrants sessionId permissionType).any (fun grant =>
      !grant.isExpired clock && grant.isMatch host clock permissionType resource)

def isScopedSessionDenied (host : Host) (clock : Clock) (config : PermissionConfig)
    (sessionId : String) (permissionType : PermissionType) (resource : String) : Bool :=
  (config.typedScopedSessionDenies sessionId permissionType).any (fun deny =>
      deny.isMatch host clock permissionType resource) ||
    (config.scopedSessionDenies sessionId permissionType).any (fun deny =>
      !deny.isExpired clock && deny.isMatch host clock permissionType resource)

def scopeRank : PermissionRuleScope → Nat
  | .workspace => 0
  | .global => 1

/-- The narrowest of the rules that match, the first by id among those. -/
def matchingDurableRule (host : Host) (clock : Clock) (config : PermissionConfig)
    (input : PermissionEvaluation) (effect : PermissionRuleEffect) :
    Option DurablePermissionRule :=
  ((config.durableRules.filter (fun rule => decide (rule.effect = effect) &&
    rule.isMatch host clock input.permissionType input.resource input.workspacePath)).mergeSort
      (fun left right => decide (toLex (scopeRank left.scope, left.id) ≤
        toLex (scopeRank right.scope, right.id)))).head?

/-- A new deny replaces the one of the same pattern, and those that have expired go. -/
def denyScopedSessionPermission (clock : Clock) (duration : Nat) (config : PermissionConfig)
    (sessionId : String) (permissionType : PermissionType) (resourcePattern : String) :
    PermissionConfig :=
  let denies := config.scopedSessionDenies sessionId permissionType
  { config with
    scopedSessionDenies := Function.update config.scopedSessionDenies sessionId
      (Function.update (config.scopedSessionDenies sessionId) permissionType
        (denies.filter (fun deny => !deny.isExpired clock &&
            decide (deny.resourcePattern ≠ resourcePattern)) ++
          [{ expiresAt := clock.instant + duration, resourcePattern }])) }

def denyTypedScopedSessionPermission (host : Host) (clock : Clock) (duration : Nat)
    (config : PermissionConfig) (sessionId : String) (permissionType : PermissionType)
    (matcher : PermissionMatcher) : Except String PermissionConfig := do
  matcher.validate host permissionType
  let denies := config.typedScopedSessionDenies sessionId permissionType
  return { config with
    typedScopedSessionDenies := Function.update config.typedScopedSessionDenies sessionId
      (Function.update (config.typedScopedSessionDenies sessionId) permissionType
        (denies.filter (fun deny => !deny.isExpired clock &&
            decide ((deny.matcher.kind, deny.matcher.value) ≠ (matcher.kind, matcher.value))) ++
          [{ expiresAt := clock.instant + duration, matcher }])) }

/- One-shot grants. -/

def isBlank (text : String) : Bool := (trim text).isEmpty

def addGrant (grants : List (PermissionType × String)) (grant : PermissionType × String) :
    List (PermissionType × String) :=
  if grant ∈ grants then grants else grants ++ [grant]

def grantOnce (config : PermissionConfig) (sessionId requestId : String)
    (permissionType : PermissionType) (resource : String) : PermissionConfig :=
  let key := (sessionId, requestId)
  { config with
    oneShotGrants := Function.update config.oneShotGrants key
      (addGrant (config.oneShotGrants key) (permissionType, resource)) }

def grantOnceForGeneration (config : PermissionConfig)
    (sessionId requestId requestGeneration : String) (permissionType : PermissionType)
    (resource : String) : Except String PermissionConfig :=
  if isBlank requestGeneration then .error "permission grant generation must not be blank"
  else
    let key := (sessionId, requestId, requestGeneration)
    .ok { config with
      typedOneShotGrants := Function.update config.typedOneShotGrants key
        (addGrant (config.typedOneShotGrants key) (permissionType, resource)) }

def consumeOnce (config : PermissionConfig) (sessionId requestId : String)
    (permissionType : PermissionType) (resource : String) : Bool × PermissionConfig :=
  let key := (sessionId, requestId)
  match swapRemove (config.oneShotGrants key) (permissionType, resource) with
  | none => (false, config)
  | some rest =>
    (true, { config with oneShotGrants := Function.update config.oneShotGrants key rest })

def consumeOnceForGeneration (config : PermissionConfig)
    (sessionId requestId requestGeneration : String) (permissionType : PermissionType)
    (resource : String) : Bool × PermissionConfig :=
  if isBlank requestGeneration then (false, config)
  else
    let key := (sessionId, requestId, requestGeneration)
    match swapRemove (config.typedOneShotGrants key) (permissionType, resource) with
    | none => (false, config)
    | some rest =>
      (true,
        { config with typedOneShotGrants := Function.update config.typedOneShotGrants key rest })

end PermissionConfig

def currentPermissionReplayGeneration (replay : Option PermissionReplayIdentity)
    (sessionId requestId : String) : Option String :=
  replay.bind (fun identity =>
    if identity.sessionId = sessionId ∧ identity.requestId = requestId then
      identity.requestGeneration
    else none)

/- The evaluator. -/

def requestedMode (input : PermissionEvaluation) : SessionPermissionMode :=
  if input.autoApproveRequested then .auto
  else if input.bypassRequested then .bypass
  else .default

def legacyRuleRef (id : String) (effect : PermissionRuleEffect) : PermissionRuleRef :=
  { id, effect, scope := .global, source := .legacy }

namespace PermissionConfig

variable (desk : Desk) (moment : Moment) (config : PermissionConfig)

def resolution (input : PermissionEvaluation) : PermissionModeResolution :=
  resolvePermissionMode (requestedMode input) config.mode

def effectivePolicy (input : PermissionEvaluation) : EffectivePermissionPolicy :=
  { revision := config.policyRevision
    mode := (config.resolution input).effective
    bypassRequested := (config.resolution input).bypassPermissions
    autoApproveRequested := decide (requestedMode input = .auto) }

/-- The denials, in their order: the platform, the rules and the session, what narrows the
    request, and the read-only mode. -/
def denial (input : PermissionEvaluation) (restricting : Option PermissionEvaluation) :
    Option PermissionDenyReason :=
  match input.platformHardDeny with
  | some message => some { code := .platformHardDeny, message, matchedRule := none }
  | none =>
    match config.matchingDurableRule desk.host moment.clock input .deny with
    | some rule =>
      some { code := .explicitDeny
             message := "permission denied by durable rule '" ++ rule.id ++ "'"
             matchedRule := some rule.ref }
    | none =>
      if config.isScopedSessionDenied desk.host moment.clock input.sessionId
          input.permissionType input.resource then
        some { code := .explicitDeny
               message := "permission denied by a remembered session decision"
               matchedRule := none }
      else if config.isWhitelistAllowed desk.host moment.clock input.permissionType
          input.resource = some false then
        some { code := .explicitDeny
               message := "permission denied by explicit policy (legacy rule)"
               matchedRule := some (legacyRuleRef "legacy-deny" .deny) }
      else if restricting.any (fun restriction =>
          (config.matchingDurableRule desk.host moment.clock restriction .deny).isSome ||
            config.isScopedSessionDenied desk.host moment.clock restriction.sessionId
              restriction.permissionType restriction.resource ||
            decide (config.isWhitelistAllowed desk.host moment.clock restriction.permissionType
              restriction.resource = some false)) then
        some { code := .explicitDeny
               message := "scoped Session send denied by legacy followup policy"
               matchedRule := none }
      else if (config.resolution input).effective = .plan ∧ input.riskLevel ≠ .low then
        some { code := .modeDenied, message := "operation denied by plan mode",
               matchedRule := none }
      else none

/-- The receipt of the parked invocation: of its generation in a replay, else without one. -/
def consumed (input : PermissionEvaluation) : Bool × PermissionConfig :=
  if input.consumeOnce = false then (false, config)
  else
    match currentPermissionReplayGeneration moment.replay input.sessionId input.requestId with
    | some generation =>
      config.consumeOnceForGeneration input.sessionId input.requestId generation
        input.permissionType input.resource
    | none =>
      config.consumeOnce input.sessionId input.requestId input.permissionType input.resource

def isHardDangerous (analysis : Analysis) (toolName arguments : String) : Bool :=
  if analysis.isFocusedBrowserInput toolName arguments then true
  else if toolName.toList.map Char.toLower = "js_repl".toList then true
  else (analysis.shellCommand toolName arguments).any (fun command =>
    analysis.isDenied command || analysis.isSuperDangerous command)

def forcedDecisions : List PermissionDecisionKind := [.allowOnce, .denyOnce]

def ordinaryDecisions (workspaceAvailable : Bool) : List PermissionDecisionKind :=
  [.allowOnce, .allowSession] ++ (if workspaceAvailable then [.allowWorkspace] else []) ++
    [.allowGlobal, .denyOnce, .denySession]

def buildRequest (input : PermissionEvaluation) (effectiveMode : PermissionMode)
    (reasonCode : PermissionReasonCode) (matchedRule : Option PermissionRuleRef)
    (forced : Bool) : PermissionRequest :=
  let offered :=
    if forced then forcedDecisions else ordinaryDecisions input.workspacePath.isSome
  { requestId := input.requestId
    requestGeneration := moment.freshGeneration
    sessionId := input.sessionId
    workspacePath := input.workspacePath
    toolName := input.toolName
    permissionType := input.permissionType
    resource := input.resource
    operationSummary := input.operationSummary
    riskLevel := input.riskLevel
    reasonCode
    effectiveMode
    bypassRequested := input.bypassRequested
    autoApproveRequested := input.autoApproveRequested
    policyRevision := config.policyRevision
    matchedRule
    allowedDecisions := offered.filter (fun decision => decide (decision ∈ input.supportedDecisions))
    suggestedMatchers :=
      if input.permissionType = .browserInteraction ∧
          desk.analysis.isFocusedBrowserResource input.toolName input.resource = true then []
      else conservativeMatchers desk.host input.permissionType input.resource }

def configuredAlwaysAsk (input : PermissionEvaluation) (additional : Option (String × String))
    (restricting : Option PermissionEvaluation) : Bool :=
  (config.matchingDurableRule desk.host moment.clock input .alwaysAsk).isSome ||
    restricting.any (fun restriction =>
      (config.matchingDurableRule desk.host moment.clock restriction .alwaysAsk).isSome) ||
    config.askRules.any (fun rule =>
      desk.analysis.matchesToolCall rule input.toolName input.toolArgs ||
        additional.any (fun context => desk.analysis.matchesToolCall rule context.1 context.2))

/-- What remains once nothing has denied the request and no receipt was spent on it. -/
def settle (input : PermissionEvaluation) (additional : Option (String × String))
    (restricting : Option PermissionEvaluation) : PermissionOutcome :=
  let policy := config.effectivePolicy input
  let mode := (config.resolution input).effective
  let hardDangerous := isHardDangerous desk.analysis input.toolName input.toolArgs
  let alwaysAsk := config.configuredAlwaysAsk desk moment input additional restricting
  if (config.resolution input).suppressApprovalPrompts then .allow .auto policy
  else if hardDangerous || alwaysAsk then
    let typed := (config.matchingDurableRule desk.host moment.clock input .alwaysAsk).map
      DurablePermissionRule.ref
    let legacy :=
      if alwaysAsk then some (legacyRuleRef "legacy-always-ask" .alwaysAsk) else none
    .ask (config.buildRequest desk moment input mode
      (if hardDangerous then .hardDangerous else .configuredAlwaysAsk) (typed.or legacy) true)
  else if config.isScopedSessionGranted desk.host moment.clock input.sessionId
      input.permissionType input.resource then .allow .rememberedSession policy
  else
    match config.matchingDurableRule desk.host moment.clock input .allow with
    | some rule => .allow (.rememberedRule rule.ref) policy
    | none =>
      if config.isWhitelistAllowed desk.host moment.clock input.permissionType
          input.resource = some true then
        .allow (.rememberedRule (legacyRuleRef "legacy-allow" .allow)) policy
      else if config.enabled = false then .allow .permissionChecksDisabled policy
      else if mode = .bypassPermissions then .allow .bypass policy
      else if mode = .dontAsk then
        .deny { code := .modeDenied
                message := "operation denied by dont-ask mode without an explicit allow"
                matchedRule := none } policy
      else if mode = .acceptEdits ∧ (input.permissionType = .writeFile ∨
          input.permissionType = .executeCommand ∧
            desk.analysis.isSafeEditCommand input.resource = true) then .allow .mode policy
      else if input.riskLevel.rank < config.confirmThreshold.rank then
        .allow .belowRiskThreshold policy
      else .ask (config.buildRequest desk moment input mode .riskThreshold none false)

def evaluateWithAdditionalRestrictions (input : PermissionEvaluation)
    (additional : Option (String × String)) (restricting : Option PermissionEvaluation) :
    PermissionOutcome × PermissionConfig :=
  match config.denial desk moment input restricting with
  | some reason => (.deny reason (config.effectivePolicy input), config)
  | none =>
    let (authorized, after) := config.consumed moment input
    if authorized then (.allow .oneShot (config.effectivePolicy input), after)
    else (config.settle desk moment input additional restricting, config)

def evaluate (input : PermissionEvaluation) : PermissionOutcome × PermissionConfig :=
  config.evaluateWithAdditionalRestrictions desk moment input none none

def evaluateFrameworkRootSpawn (input : PermissionEvaluation) :
    PermissionOutcome × PermissionConfig :=
  config.evaluateWithAdditionalRestrictions desk moment input
    (some ("session_control", desk.analysis.createArguments input.toolArgs)) none

def evaluateFrameworkScopedSessionSend (input : PermissionEvaluation) :
    PermissionOutcome × PermissionConfig :=
  match desk.analysis.scopedSendRestriction input.toolArgs with
  | some (arguments, resource) =>
    if input.toolName ≠ "session_message" ∨ input.permissionType ≠ .executeCommand ∨
        input.resource ≠ "session_message send" then
      config.evaluate desk moment
        { input with
          platformHardDeny := some "scoped Session send restriction unavailable" }
    else
      config.evaluateWithAdditionalRestrictions desk moment input
        (some ("session_control", arguments))
        (some { input with toolName := "session_control", toolArgs := arguments, resource,
                           consumeOnce := false })
  | none =>
    config.evaluate desk moment
      { input with platformHardDeny := some "scoped Session send restriction unavailable" }

end PermissionConfig

end Permissions
