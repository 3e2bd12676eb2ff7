import BambooAgent.Compression.Messages

/- Grouping messages into the segments that context fitting keeps or drops whole. -/
namespace Compression

structure MessageSegment where
  messages : List Message
  toolCallIds : List String
  isToolChain : Bool
  tokenEstimate : Nat
  deriving DecidableEq

def extractToolCallIds (message : Message) : List String :=
  (message.toolCallId.toList ++ (callsOf message).map (·.id)).dedup

def MessageSegment.fromMessage (message : Message) : MessageSegment :=
  { messages := [message], toolCallIds := extractToolCallIds message,
    isToolChain := !(extractToolCallIds message).isEmpty, tokenEstimate := 0 }

/-- The loop state of `segment`: closed segments (oldest first), the open tool chain and
    the calls whose results it still waits for. -/
structure Segmenting where
  segments : List MessageSegment
  currentSegment : Option MessageSegment
  pendingToolCalls : List String

def Segmenting.start : Segmenting :=
  { segments := [], currentSegment := none, pendingToolCalls := [] }

def Segmenting.close (state : Segmenting) : Segmenting :=
  match state.currentSegment with
  | some segment =>
    { segments := state.segments ++ [segment], currentSegment := none, pendingToolCalls := [] }
  | none => state

def Segmenting.push (state : Segmenting) (segment : MessageSegment) : Segmenting :=
  { state with segments := state.segments ++ [segment] }

/-- The pending call that a message answers: it must be a tool result. -/
def pendingAnswer (pending : List String) (message : Message) : Option String :=
  match message.role, message.toolCallId with
  | .tool, some id => if id ∈ pending then some id else none
  | _, _ => none

def segmentMessage (state : Segmenting) (message : Message) : Segmenting :=
  match message.role with
  | .system => state
  | .user | .tool =>
    match state.currentSegment, pendingAnswer state.pendingToolCalls message with
    | some segment, some id =>
      let grown := { segment with messages := segment.messages ++ [message] }
      let pending := state.pendingToolCalls.erase id
      let taken := { state with currentSegment := some grown, pendingToolCalls := pending }
      if pending.isEmpty then taken.close else taken
    | _, _ => state.close.push (.fromMessage message)
  | .assistant =>
    if !hasToolCalls message then state.close.push (.fromMessage message)
    else
      { state.close with
        currentSegment := some { MessageSegment.fromMessage message with isToolChain := true },
        pendingToolCalls := ((callsOf message).map (·.id)).dedup }

def segment (messages : List Message) : List MessageSegment :=
  (messages.foldl segmentMessage .start).close.segments

def systemsOf (messages : List Message) : List Message :=
  messages.filter (fun message => message.role = .system)

def conversationOf (messages : List Message) : List Message :=
  messages.filter (fun message => message.role ≠ .system)

def segmentWithSystem (messages : List Message) : List Message × List MessageSegment :=
  (systemsOf messages, segment (conversationOf messages))

end Compression
