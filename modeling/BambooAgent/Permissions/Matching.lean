import BambooAgent.Compression.Texts

/- The resources of permissions: what a pattern and a typed matcher match, and the rules, grants
   and denies that carry them. Paths are those of a Unix host. -/
namespace Permissions
open Compression

inductive PermissionType where
  | writeFile
  | executeCommand
  | gitWrite
  | httpRequest
  | deleteOperation
  | terminalSession
  | browserInteraction
  deriving DecidableEq

/-- The name that the whitelist keys by. -/
def PermissionType.name : PermissionType → String
  | writeFile => "WriteFile"
  | executeCommand => "ExecuteCommand"
  | gitWrite => "GitWrite"
  | httpRequest => "HttpRequest"
  | deleteOperation => "DeleteOperation"
  | terminalSession => "TerminalSession"
  | browserInteraction => "BrowserInteraction"

inductive RiskLevel where
  | low
  | medium
  | high
  deriving DecidableEq

def RiskLevel.rank : RiskLevel → Nat
  | low => 0
  | medium => 1
  | high => 2

/-- What a URL parser reads. -/
structure Url where
  scheme : String
  host : Option String
  port : Option String
  path : String
  query : Option String
  fragment : Option String

/-- What a permission check reads off its host: the file system's real paths (none where it has
    none, and nothing in it where that is not Unicode), and parsed URLs. -/
structure Host where
  realpath : String → Option (Option String)
  parseUrl : String → Option Url

/-- The two clocks: wall time for rules, monotonic time for grants. -/
structure Clock where
  utc : Nat
  instant : Nat

/- Paths. -/

def isPathPermission (permissionType : PermissionType) : Bool :=
  decide (permissionType = .writeFile) || decide (permissionType = .deleteOperation)

def isAbsolute (path : String) : Bool := decide (path.toList.head? = some '/')

def shouldNormalizePath (permissionType : PermissionType) (resource : String) : Bool :=
  isPathPermission permissionType &&
    (decide (permissionType = .writeFile) || isAbsolute resource)

def normalizePathSeparators (path : String) : String :=
  String.ofList (path.toList.map (fun c => if c = '\\' then '/' else c))

def components (path : String) : List String :=
  ((path.toList.splitOn '/').map String.ofList).filter (fun part =>
    !part.isEmpty && decide (part ≠ "."))

def hasPathTraversal (path : String) : Bool := (components path).any (fun part => part = "..")

def joinPath (parts : List String) : String := "/".intercalate parts

def parentPath (path : String) : Option String :=
  if (components path).isEmpty then none
  else
    let before := joinPath (components path).dropLast
    some (if isAbsolute path then "/" ++ before else before)

def normalizePathBasic (path : String) : String :=
  let parts := components (normalizePathSeparators path)
  if parts.head?.any (fun part => decide (part.toList.getLast? = some ':')) then joinPath parts
  else "/" ++ joinPath parts

def canonicalizePathForMatching (host : Host) (path : String) : Option String :=
  if isAbsolute path = false then none
  else if hasPathTraversal path then none
  else
    match host.realpath path with
    | some canonical => canonical
    | none =>
      -- A path that does not exist is resolved up to its last component.
      match (components path).getLast?, (parentPath path).bind host.realpath with
      | some _, some none => none
      | some fileName, some (some parent) =>
        some (if parent.toList.getLast? = some '/' then parent ++ fileName
          else parent ++ "/" ++ fileName)
      | _, _ => some (normalizePathBasic path)

def isGlob (c : Char) : Bool :=
  decide (c = '*') || decide (c = '?') || decide (c = '[') || decide (c = '{')

def canonicalizePathPatternForMatching (host : Host) (pattern : String) : Option String :=
  let normalized := normalizePathSeparators (trim pattern)
  if normalized.isEmpty || hasPathTraversal normalized then none
  else
    let literal := normalized.toList.takeWhile (fun c => !isGlob c)
    if literal.length = normalized.toList.length then
      if isAbsolute normalized then canonicalizePathForMatching host normalized
      else some normalized
    else
      -- The part before the last separator of the literal beginning is a path of its own.
      match literal.reverse.dropWhile (fun c => decide (c ≠ '/')) with
      | [] => some normalized
      | _ :: before =>
        let suffix := String.ofList (normalized.toList.drop before.length)
        let prefixPath := if before.isEmpty then "/" else String.ofList before.reverse
        if isAbsolute prefixPath = false then some normalized
        else
          (canonicalizePathForMatching host prefixPath).map (fun canonical =>
            if canonical.toList.getLast? = some '/' ∧ suffix.toList.head? = some '/' then
              canonical ++ String.ofList (suffix.toList.drop 1)
            else canonical ++ suffix)

/- Globs. -/

def startsWith (text beginning : String) : Bool := beginning.toList.isPrefixOf text.toList

def endsWith (text ending : String) : Bool := ending.toList.isSuffixOf text.toList

def dropChars (text : String) (n : Nat) : String := String.ofList (text.toList.drop n)

def dropLastChars (text : String) (n : Nat) : String :=
  String.ofList (text.toList.take (text.toList.length - n))

def matchPatternInternal (pattern resource : String) : Bool :=
  if endsWith pattern "/*" && !containsText pattern "**" then
    let directory := dropLastChars pattern 1
    startsWith resource directory &&
      !containsText (dropChars resource directory.toList.length) "/"
  else if endsWith pattern "/**" then
    let directory := dropLastChars pattern 3
    startsWith resource directory &&
      (decide (resource.toList.length = directory.toList.length) ||
        startsWith (dropChars resource directory.toList.length) "/")
  else decide (resource = pattern)

def matchGlobPattern (pattern resource : String) : Bool :=
  let resource := normalizePathSeparators resource
  if pattern = "*" ∨ pattern = "**/*" then true
  else if startsWith pattern "*." && !containsText pattern "/" then
    endsWith resource (dropChars pattern 1)
  else
    matchPatternInternal pattern resource ||
      (startsWith resource "/private/tmp/" && startsWith pattern "/tmp/" &&
        matchPatternInternal pattern ("/tmp/" ++ dropChars resource 13)) ||
      (startsWith resource "/tmp/" && startsWith pattern "/private/tmp/" &&
        matchPatternInternal pattern ("/private/tmp/" ++ dropChars resource 5))

/-- A pattern of a rule or of a grant against a resource. -/
def matchesResource (host : Host) (pattern : String) (permissionType : PermissionType)
    (resource : String) : Bool :=
  let normalizedResource :=
    if shouldNormalizePath permissionType resource then canonicalizePathForMatching host resource
    else some resource
  let normalizedPattern :=
    if shouldNormalizePath permissionType pattern then
      canonicalizePathPatternForMatching host pattern
    else some pattern
  normalizedResource.any (fun resource =>
    normalizedPattern.any (fun pattern => matchGlobPattern pattern resource))

/- Rules and grants with a pattern. -/

structure PermissionRule where
  toolType : PermissionType
  resourcePattern : String
  allowed : Bool
  expiresAt : Option Nat

def expired (now : Nat) (expiresAt : Option Nat) : Bool :=
  expiresAt.any (fun expiresAt => decide (expiresAt < now))

def PermissionRule.isExpired (clock : Clock) (rule : PermissionRule) : Bool :=
  expired clock.utc rule.expiresAt

def PermissionRule.isMatch (host : Host) (clock : Clock) (rule : PermissionRule)
    (permissionType : PermissionType) (resource : String) : Bool :=
  decide (rule.toolType = permissionType) && !rule.isExpired clock &&
    matchesResource host rule.resourcePattern permissionType resource

structure SessionGrant where
  expiresAt : Nat
  resourcePattern : String

def SessionGrant.isExpired (clock : Clock) (grant : SessionGrant) : Bool :=
  decide (grant.expiresAt < clock.instant)

def SessionGrant.isMatch (host : Host) (clock : Clock) (grant : SessionGrant)
    (permissionType : PermissionType) (resource : String) : Bool :=
  !grant.isExpired clock && matchesResource host grant.resourcePattern permissionType resource

/- Typed matchers. -/

inductive PermissionMatcherKind where
  | exactResource
  | pathSubtree
  | commandPrefix
  | httpOrigin
  | toolAction
  deriving DecidableEq

structure PermissionMatcher where
  id : String
  kind : PermissionMatcherKind
  value : String

def containsShellOperator (value : String) : Bool :=
  ["&", "||", ";", "|", "\x60", "$(", "$\x7b", "\n", "\r", ">", "<"].any (containsText value)

def isCommandPermission (permissionType : PermissionType) : Bool :=
  decide (permissionType = .executeCommand) || decide (permissionType = .gitWrite) ||
    decide (permissionType = .terminalSession)

def PermissionMatcher.validate (host : Host) (matcher : PermissionMatcher)
    (permissionType : PermissionType) : Except String Unit :=
  let value := trim matcher.value
  if (trim matcher.id).isEmpty then .error "matcher id must not be blank"
  else if value.isEmpty then .error "matcher value must not be blank"
  else
    match matcher.kind with
    | .exactResource | .toolAction => .ok ()
    | .pathSubtree =>
      if isPathPermission permissionType = false then
        .error "path-subtree matcher requires a file permission"
      else if (canonicalizePathForMatching host value).isNone then
        .error "path-subtree matcher must be an absolute safe path"
      else .ok ()
    | .commandPrefix =>
      if isCommandPermission permissionType = false then
        .error "command-prefix matcher requires a command permission"
      else if containsShellOperator value then
        .error "command-prefix matcher must not contain shell operators"
      else .ok ()
    | .httpOrigin =>
      if permissionType ≠ .httpRequest then
        .error "http-origin matcher requires an HTTP permission"
      else
        match host.parseUrl value with
        | none => .error "http-origin matcher must be an absolute URL origin"
        | some parsed =>
          if parsed.host.isNone || !(decide (parsed.scheme = "http") ||
              decide (parsed.scheme = "https")) || decide (parsed.path ≠ "/") ||
              parsed.query.isSome || parsed.fragment.isSome then
            .error "http-origin matcher must contain only scheme, host, and optional port"
          else .ok ()

def splitWhitespace (text : String) : List String :=
  ((text.toList.splitOnP isWhitespace).map String.ofList).filter (fun word => !word.isEmpty)

def normalizeTmpAlias (path : String) : String :=
  if path = "/private/tmp" then "/tmp"
  else if startsWith path "/private/tmp/" then "/tmp/" ++ dropChars path 13
  else path

def pathIsWithin (root candidate : String) : Bool :=
  let root := normalizeTmpAlias root
  let candidate := normalizeTmpAlias candidate
  decide (candidate = root) || (startsWith candidate root &&
    startsWith (dropChars candidate root.toList.length) "/")

def origin (url : Url) : Option String :=
  url.host.map (fun host =>
    url.scheme ++ "://" ++ host ++ (url.port.map (fun port => ":" ++ port)).getD "")

def PermissionMatcher.isMatch (host : Host) (matcher : PermissionMatcher)
    (permissionType : PermissionType) (resource : String) : Bool :=
  if matcher.validate host permissionType ≠ .ok () then false
  else
    match matcher.kind with
    | .exactResource =>
      if isPathPermission permissionType && isAbsolute resource then
        (canonicalizePathForMatching host matcher.value).any (fun expected =>
          (canonicalizePathForMatching host resource).any (fun actual =>
            decide (expected = actual)))
      else decide (matcher.value = resource)
    | .pathSubtree =>
      (canonicalizePathForMatching host matcher.value).any (fun root =>
        (canonicalizePathForMatching host resource).any (pathIsWithin root))
    | .commandPrefix =>
      if containsShellOperator resource then false
      else
        let expected := splitWhitespace matcher.value
        !expected.isEmpty && expected.isPrefixOf (splitWhitespace resource)
    | .httpOrigin =>
      let expected := (host.parseUrl matcher.value).bind origin
      expected.isSome && decide (expected = (host.parseUrl resource).bind origin)
    | .toolAction => decide (matcher.value = resource)

structure TypedSessionGrant where
  expiresAt : Nat
  matcher : PermissionMatcher

def TypedSessionGrant.isExpired (clock : Clock) (grant : TypedSessionGrant) : Bool :=
  decide (grant.expiresAt < clock.instant)

def TypedSessionGrant.isMatch (host : Host) (clock : Clock) (grant : TypedSessionGrant)
    (permissionType : PermissionType) (resource : String) : Bool :=
  !grant.isExpired clock && grant.matcher.isMatch host permissionType resource

/- Durable rules. -/

inductive PermissionRuleEffect where
  | allow
  | deny
  | alwaysAsk
  deriving DecidableEq

inductive PermissionRuleScope where
  | workspace
  | global
  deriving DecidableEq

inductive PermissionRuleSource where
  | user
  | legacy
  | platform

structure DurablePermissionRule where
  id : String
  permissionType : PermissionType
  effect : PermissionRuleEffect
  scope : PermissionRuleScope
  workspacePath : Option String
  matcher : PermissionMatcher
  source : PermissionRuleSource
  expiresAt : Option Nat

def DurablePermissionRule.validate (host : Host) (rule : DurablePermissionRule) :
    Except String Unit := do
  if (trim rule.id).isEmpty then .error "rule id must not be blank"
  else
    rule.matcher.validate host rule.permissionType
    match rule.scope with
    | .global =>
      if rule.workspacePath.isSome then .error "global rule must not carry a workspace path"
      else .ok ()
    | .workspace =>
      match rule.workspacePath with
      | none => .error "workspace rule requires a workspace path"
      | some workspace =>
        if (canonicalizePathForMatching host workspace).isNone then
          .error "workspace path must be absolute and safe"
        else .ok ()

def DurablePermissionRule.isExpired (clock : Clock) (rule : DurablePermissionRule) : Bool :=
  expired clock.utc rule.expiresAt

def sameWorkspace (host : Host) (rulePath requestPath : Option String) : Bool :=
  (rulePath.bind (canonicalizePathForMatching host)).any (fun ruleWorkspace =>
    (requestPath.bind (canonicalizePathForMatching host)).any (fun requestWorkspace =>
      decide (ruleWorkspace = requestWorkspace)))

def DurablePermissionRule.isMatch (host : Host) (clock : Clock) (rule : DurablePermissionRule)
    (permissionType : PermissionType) (resource : String) (workspacePath : Option String) :
    Bool :=
  if rule.permissionType ≠ permissionType ∨ rule.isExpired clock = true ∨
      rule.validate host ≠ .ok () then false
  else if rule.scope = .workspace ∧
      sameWorkspace host rule.workspacePath workspacePath = false then false
  else rule.matcher.isMatch host permissionType resource

structure PermissionRuleRef where
  id : String
  effect : PermissionRuleEffect
  scope : PermissionRuleScope
  source : PermissionRuleSource

/-- The matchers that a request suggests for its own resource. -/
def conservativeMatchers (host : Host) (permissionType : PermissionType) (resource : String) :
    List PermissionMatcher :=
  let exact : PermissionMatcher :=
    { id := "exact_resource", kind := .exactResource, value := resource }
  let wider : Option PermissionMatcher :=
    if isPathPermission permissionType then
      ((canonicalizePathForMatching host resource).bind parentPath).map (fun parent =>
        { id := "path_subtree", kind := .pathSubtree, value := parent })
    else if isCommandPermission permissionType then
      if containsShellOperator resource then none
      else
        match splitWhitespace resource with
        | [] => none
        | [executable] =>
          some { id := "command_prefix", kind := .commandPrefix, value := executable }
        | executable :: second :: _ =>
          some { id := "command_prefix", kind := .commandPrefix,
                 value := executable ++ " " ++ second }
    else if permissionType = .httpRequest then
      ((host.parseUrl resource).bind origin).map (fun value =>
        { id := "http_origin", kind := .httpOrigin, value := value ++ "/" })
    else none
  (exact :: wider.toList).filter (fun matcher =>
    decide (matcher.validate host permissionType = .ok ()))

def DurablePermissionRule.ref (rule : DurablePermissionRule) : PermissionRuleRef :=
  { id := rule.id, effect := rule.effect, scope := rule.scope, source := rule.source }

end Permissions
