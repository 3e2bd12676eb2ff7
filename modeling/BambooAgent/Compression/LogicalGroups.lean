import BambooAgent.Compression.Session
import BambooAgent.Compression.ToolNames

/- The logical turns of a session and which of them an archive may take. -/
namespace Compression

structure IndexedMessage where
  sessionIndex : Nat
  message : Message
  deriving DecidableEq

structure LogicalGroup where
  messages : List IndexedMessage
  userMessageId : Option String
  protocolSafe : Bool
  isProtected : Bool
  tokenCount : Nat
  deriving DecidableEq

def LogicalGroup.preamble (message : IndexedMessage) : LogicalGroup :=
  { messages := [message], userMessageId := none, protocolSafe := true, isProtected := false,
    tokenCount := 0 }

def LogicalGroup.userTurn (message : IndexedMessage) : LogicalGroup :=
  { messages := [message], userMessageId := some message.message.id, protocolSafe := true,
    isProtected := false, tokenCount := 0 }

def pushLast : List LogicalGroup → IndexedMessage → List LogicalGroup
  | [], indexed => [.preamble indexed]
  | [group], indexed => [{ group with messages := group.messages ++ [indexed] }]
  | group :: next :: rest, indexed => group :: pushLast (next :: rest) indexed

structure Grouping where
  systemMessages : List IndexedMessage
  groups : List LogicalGroup
  activeMessageCount : Nat

def groupMessage (grouping : Grouping) (indexed : IndexedMessage) : Grouping :=
  if indexed.message.compressed then grouping
  else
    let counted := { grouping with activeMessageCount := grouping.activeMessageCount + 1 }
    match indexed.message.role with
    | .system => { counted with systemMessages := counted.systemMessages ++ [indexed] }
    | .user => { counted with groups := counted.groups ++ [.userTurn indexed] }
    | .assistant | .tool => { counted with groups := pushLast counted.groups indexed }

def indexedMessages (messages : List Message) : List IndexedMessage :=
  messages.zipIdx.map (fun entry => ⟨entry.2, entry.1⟩)

def buildLogicalGroups (session : Session) : Grouping :=
  (indexedMessages session.messages).foldl groupMessage
    { systemMessages := [], groups := [], activeMessageCount := 0 }

/-- The scan of one group: whether it is safe so far, the calls that wait for a result, and
    the calls and results met, with their session indexes. -/
structure ProtocolScan where
  safe : Bool
  pendingCallIds : List String
  calls : List (String × Nat)
  results : List (String × Nat)

/-- The calls of one assistant message: an empty or repeated id is unsafe. -/
def scanCalls (sessionIndex : Nat) : List ToolCall → List String → ProtocolScan → ProtocolScan
  | [], _, scan => scan
  | call :: rest, localCallIds, scan =>
    let safe := scan.safe && !call.id.isEmpty && !localCallIds.contains call.id
    scanCalls sessionIndex rest (localCallIds.insert call.id)
      { scan with
        safe, pendingCallIds := scan.pendingCallIds.insert call.id,
        calls := scan.calls ++ [(call.id, sessionIndex)] }

def scanMessage (scan : ProtocolScan) (indexed : IndexedMessage) : ProtocolScan :=
  let message := indexed.message
  match message.role with
  | .assistant =>
    let scan := { scan with safe := scan.safe && message.toolCallId.isNone }
    let interrupted := { scan with
      safe := scan.safe && scan.pendingCallIds.isEmpty, pendingCallIds := [] }
    if hasToolCalls message then scanCalls indexed.sessionIndex (callsOf message) [] interrupted
    else interrupted
  | .tool =>
    let scan := { scan with safe := scan.safe && !hasToolCalls message }
    match message.toolCallId with
    | some callId =>
      if callId.isEmpty then { scan with safe := false }
      else
        { scan with
          results := scan.results ++ [(callId, indexed.sessionIndex)],
          safe := scan.safe && scan.pendingCallIds.contains callId,
          pendingCallIds := scan.pendingCallIds.erase callId }
    | none => { scan with safe := false }
  | .user =>
    if !scan.pendingCallIds.isEmpty || message.toolCallId.isSome || hasToolCalls message then
      { scan with safe := false, pendingCallIds := [] }
    else scan
  | .system => scan

def scanGroup (group : LogicalGroup) : ProtocolScan :=
  group.messages.foldl scanMessage
    { safe := group.protocolSafe, pendingCallIds := [], calls := [], results := [] }

/-- Where an id is called or answered: group index and session index, in session order. -/
def positionsOf (scans : List ProtocolScan) (select : ProtocolScan → List (String × Nat))
    (callId : String) : List (Nat × Nat) :=
  scans.zipIdx.flatMap (fun entry =>
    ((select entry.1).filter (fun use => use.1 = callId)).map (fun use => (entry.2, use.2)))

/-- One call and one later result in the same group. -/
def validCall (scans : List ProtocolScan) (callId : String) : Bool :=
  match positionsOf scans (·.calls) callId, positionsOf scans (·.results) callId with
  | [call], [result] => call.1 == result.1 && decide (call.2 < result.2)
  | _, _ => false

/-- The ids that a group calls or answers. -/
def idsUsed (scan : ProtocolScan) : List String := (scan.calls ++ scan.results).map (·.1)

def markProtocolSafety (groups : List LogicalGroup) : List LogicalGroup :=
  let scans := groups.map scanGroup
  groups.map (fun group =>
    let scan := scanGroup group
    { group with
      protocolSafe := scan.safe && scan.pendingCallIds.isEmpty &&
        (idsUsed scan).all (validCall scans) })

def logicalGroupHasProtectedSkill (group : LogicalGroup) : Bool :=
  group.messages.any (fun indexed =>
    (callsOf indexed.message).any (fun call => isSkillToolName call.function.name .canonical))

def userGroupIndexes (groups : List LogicalGroup) : List Nat :=
  (groups.zipIdx.filter (fun entry => entry.1.userMessageId.isSome)).map (·.2)

def markProtectedGroups (groups : List LogicalGroup) (minRecentUserTurns : Nat) :
    List LogicalGroup :=
  let recent := (userGroupIndexes groups).drop
    ((userGroupIndexes groups).length - minRecentUserTurns)
  groups.zipIdx.map (fun entry =>
    { entry.1 with
      isProtected := !entry.1.protocolSafe ||
        entry.1.messages.any (fun indexed => indexed.message.neverCompress) ||
        logicalGroupHasProtectedSkill entry.1 || recent.contains entry.2 })

end Compression
