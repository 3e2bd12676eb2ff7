import BambooAgent.Broker.Messages
import BambooAgent.Library.Interleavings
import BambooAgent.Library.SortedMap

/- One driver connection with any number of requests over it. The tasks of the requests and the
   router share the table of waiters; every step between two awaits, and every step that takes a
   lock or touches a channel, is a step of its own. -/
namespace Brokers.Multiplexing
open SortedMaps Interleavings

/-- What the driver looks at of a message; `sender` is the session of its `from`. -/
structure InboxMessage where
  id : String
  sender : String
  kind : InboxKind
  body : String
  correlationId : Option String
  deriving DecidableEq

inductive BrokerError where
  | protocol (text : String)
  | transport (text : String)
  | rejected (reason : String)

/-- The identifiers and the decoders of other packages. -/
structure Env where
  mint : Nat → String
  parseUuid : String → Bool
  replyBody : String → Except String String
  mcpReply : String → Except String Unit

/-- `sender` is the request at the other end of the channel. -/
structure ReplyWaiter where
  target : String
  kind : InboxKind
  sender : Nat

/-- Where a request stands. The receiver of its channel is gone from `acking` on; the guard has not
   run before `ended`. -/
inductive Phase where
  | queued
  | handed
  | waiting
  | acking (reply : InboxMessage)
  | confirming (reply : InboxMessage)
  | cancelling
  | closing
  | ended
  deriving DecidableEq

/-- A call of `request`, or of `ask` where `typed`. -/
structure Call where
  id : String
  typed : Bool
  kind : InboxKind
  replyKind : InboxKind
  target : String
  body : String
  timeout : String

/-- `slot` is what the channel of the request holds. -/
structure Request where
  call : Call
  phase : Phase
  slot : Option InboxMessage
  sent : Bool
  replied : Bool
  outcome : Option (Except BrokerError String)

inductive ClientFrame where
  | deliver (target : String) (id : String) (kind : InboxKind) (body : String)
  | cancel (target : String) (correlationId : String)
  | ack (id : String)
  | ackWithReceipt (id : String)

inductive Router where
  | receiving
  | sending (waiter : ReplyWaiter) (message : InboxMessage)
  | retiring (message : InboxMessage)
  | stopped

/-- `completed`, `removed` and `retired` are bookkeeping: the replies that went into a channel, the
   keys that left the table, and the messages acknowledged as orphans. -/
structure Driver where
  pending : SortedMap String ReplyWaiter
  requests : List Request
  router : Router
  frames : List ClientFrame
  completed : List (Nat × InboxMessage)
  removed : List String
  retired : List InboxMessage

def Driver.start : Driver :=
  { pending := .empty, requests := [], router := .receiving, frames := [], completed := [],
    removed := [], retired := [] }

/- The namespaces of the request identifiers. -/

def askNamespace : String := "broker-ask-"

def mcpNamespace : String := "broker-mcp-"

def requestNamespace (kind : InboxKind) : String :=
  if kind = .ask then askNamespace else mcpNamespace

def stripPrefix (start text : String) : Option String :=
  if start.toList <+: text.toList then some (String.ofList (text.toList.drop start.length))
  else none

def ownedReply (env : Env) (message : InboxMessage) : Bool :=
  match message.correlationId with
  | none => false
  | some correlation =>
    match message.kind with
    | .reply => (env.replyBody message.body).isOk &&
      (stripPrefix askNamespace correlation).any env.parseUuid
    | .mcpReply => (env.mcpReply message.body).isOk &&
      (stripPrefix mcpNamespace correlation).any env.parseUuid
    | _ => false

/- A request on its own. -/

def replyKind : InboxKind → Except BrokerError InboxKind
  | .mcpRequest => .ok .mcpReply
  | .ask => .ok .reply
  | _ => .error (.protocol "unsupported multiplexed request kind")

def badReply (text : String) : BrokerError := .protocol ("bad reply body: " ++ text)

def parseReply (env : Env) (call : Call) (body : String) : Except BrokerError String :=
  if call.replyKind = .mcpReply then
    ((env.mcpReply body).mapError (fun text => .protocol ("bad MCP reply body: " ++ text))).map
      (fun _ => body)
  else
    ((env.replyBody body).mapError badReply).map (fun answer => if call.typed then answer else body)

/-- What a request meets at its awaits. -/
inductive Event where
  | sent
  | sendFailed (error : String)
  | receipt
  | refused (reason : String)
  | receiptLost
  | replied
  | hungUp
  | ackSent
  | ackConfirmed
  | ackRefused (reason : String)
  | ackLost
  | timeout
  | cancelEnded (written : Bool)
  | dropped
  deriving DecidableEq

def Request.close (outcome : Except BrokerError String) (r : Request) : Request :=
  { r with phase := .closing, outcome := some outcome }

/-- A rejection disarms the guard. -/
def Request.reject (reason : String) (r : Request) : Request :=
  { r with phase := .closing, outcome := some (.error (.rejected reason)), sent := false }

def Request.timedOut (r : Request) : Request :=
  { r with phase := if r.sent && !r.replied then .cancelling else .closing,
           outcome := some (.error (.transport
             ("request to '" ++ r.call.target ++ "' timed out after " ++ r.call.timeout))) }

/-- The receiver of the request's channel still exists. -/
def Request.listening (r : Request) : Bool :=
  match r.phase with
  | .queued | .handed | .waiting => true
  | .acking _ | .confirming _ | .cancelling | .closing | .ended => false

/-- The deadline is over these phases. -/
def Request.timed (r : Request) : Bool :=
  match r.phase with
  | .queued | .handed | .waiting | .acking _ | .confirming _ => true
  | .cancelling | .closing | .ended => false

def Request.receive (env : Env) (reply : InboxMessage) (r : Request) : Request :=
  let r := { r with replied := true }
  match parseReply env r.call reply.body with
  | .ok _ => { r with phase := .acking reply }
  | .error error => r.close (.error error)

/-- `hung` tells that the sending end of the channel is gone. -/
def Request.meet (env : Env) (hung : Bool) (r : Request) (event : Event) :
    Request × List ClientFrame :=
  match r.phase, event with
  | .queued, .sent =>
    ({ r with phase := .handed }, [.deliver r.call.target r.call.id r.call.kind r.call.body])
  | .queued, .sendFailed error => (r.close (.error (.transport ("ws send: " ++ error))), [])
  | .handed, .receipt => ({ r with phase := .waiting }, [])
  | .handed, .refused reason => (r.reject reason, [])
  | .handed, .receiptLost =>
    (r.close (.error (.transport "connection closed before delivery receipt")), [])
  | .waiting, .replied =>
    match r.slot with
    | some reply => (r.receive env reply, [])
    | none => (r, [])
  | .waiting, .hungUp =>
    if r.slot.isNone && hung then
      (r.close (.error (.transport "connection closed before reply")), [])
    else (r, [])
  | .acking reply, .ackSent => ({ r with phase := .confirming reply }, [.ackWithReceipt reply.id])
  | .acking _, .sendFailed error => (r.close (.error (.transport ("ws send: " ++ error))), [])
  | .confirming reply, .ackConfirmed => (r.close (parseReply env r.call reply.body), [])
  | .confirming _, .ackRefused reason => (r.reject reason, [])
  | .confirming _, .ackLost =>
    (r.close (.error (.transport "connection closed before ACK receipt")), [])
  | .cancelling, .cancelEnded written =>
    ({ r with phase := .closing, sent := false },
      if written then [.cancel r.call.target r.call.id] else [])
  | .cancelling, .dropped => ({ r with phase := .closing, outcome := none }, [])
  | _, .timeout => (if r.timed then r.timedOut else r, [])
  | _, .dropped => (if r.timed then { r with phase := .closing } else r, [])
  | _, _ => (r, [])

/- The driver. -/

inductive Act where
  | request (typed : Bool) (kind : InboxKind) (target body timeout : String)
  | own (place : Nat) (event : Event)
  | finish (place : Nat)
  | route (message : InboxMessage)
  | forward
  | retire
  | lost
  | abort

section Steps
variable (env : Env)

def newCall (place : Nat) (typed : Bool) (kind answer : InboxKind)
    (target body timeout : String) : Call where
  id := requestNamespace kind ++ env.mint place
  typed := typed
  kind := kind
  replyKind := answer
  target := target
  body := body
  timeout := timeout

def Call.started (call : Call) : Request :=
  { call := call, phase := .queued, slot := none, sent := true, replied := false, outcome := none }

/-- The waiter is in the table before anything is sent. -/
def requestValidated (d : Driver) (typed : Bool) (kind answer : InboxKind)
    (target body timeout : String) : Driver :=
  let place := d.requests.length
  let call := newCall env place typed kind answer target body timeout
  { d with requests := d.requests ++ [call.started],
           pending := d.pending.insert call.id
             { target := target, kind := answer, sender := place } }

/-- Neither the table nor the router holds the sending end. -/
def hung (d : Driver) (place : Nat) (r : Request) : Bool :=
  !(d.pending.lookup r.call.id).any (fun waiter => waiter.sender = place) &&
    (match d.router with
    | .sending waiter _ => waiter.sender ≠ place
    | .receiving | .retiring _ | .stopped => true)

def dropGuard (d : Driver) (place : Nat) (r : Request) : Driver :=
  { d with
    pending := d.pending.erase r.call.id,
    removed := if d.pending.contains r.call.id then d.removed ++ [r.call.id] else d.removed,
    frames :=
      if r.sent && !r.replied then d.frames ++ [.cancel r.call.target r.call.id] else d.frames,
    requests := d.requests.set place { r with phase := .ended } }

def fits (waiter : ReplyWaiter) (message : InboxMessage) : Bool :=
  waiter.kind = message.kind && waiter.target = message.sender

def route (d : Driver) (message : InboxMessage) : Driver :=
  match message.correlationId with
  | none => { d with router := .retiring message }
  | some correlation =>
    match d.pending.lookup correlation with
    | none => { d with router := .retiring message }
    | some waiter =>
      if fits waiter message then
        { d with pending := d.pending.erase correlation,
                 removed := d.removed ++ [correlation],
                 router := .sending waiter message }
      else d

/-- A caller that gave up after its waiter was taken makes its reply a late one. -/
def forward (d : Driver) (waiter : ReplyWaiter) (message : InboxMessage) : Driver :=
  match d.requests[waiter.sender]? with
  | none => { d with router := .retiring message }
  | some r =>
    if r.listening then
      { d with requests := d.requests.set waiter.sender { r with slot := some message },
               completed := d.completed ++ [(waiter.sender, message)],
               router := .receiving }
    else { d with router := .retiring message }

def retireOrphanReply (d : Driver) (message : InboxMessage) : Driver :=
  if ownedReply env message then
    { d with frames := d.frames ++ [.ack message.id],
             retired := d.retired ++ [message],
             router := .receiving }
  else { d with router := .receiving }

/-- The reader has ended, and with it the router. -/
def lost (d : Driver) : Driver :=
  { d with pending := .empty, removed := d.removed ++ d.pending.keys, router := .stopped }

def step (d : Driver) : Act → Driver
  | .request typed kind target body timeout =>
    match replyKind kind with
    | .ok answer => requestValidated env d typed kind answer target body timeout
    | .error _ => d
  | .own place event =>
    match d.requests[place]? with
    | some r =>
      let (after, written) := r.meet env (hung d place r) event
      { d with requests := d.requests.set place after, frames := d.frames ++ written }
    | none => d
  | .finish place =>
    match d.requests[place]? with
    | some r => if r.phase = .closing then dropGuard d place r else d
    | none => d
  | .route message =>
    match d.router with
    | .receiving => route d message
    | .sending _ _ | .retiring _ | .stopped => d
  | .forward =>
    match d.router with
    | .sending waiter message => forward d waiter message
    | .receiving | .retiring _ | .stopped => d
  | .retire =>
    match d.router with
    | .retiring message => retireOrphanReply env d message
    | .receiving | .sending _ _ | .stopped => d
  | .lost =>
    match d.router with
    | .receiving => lost d
    | .sending _ _ | .retiring _ | .stopped => d
  | .abort =>
    match d.router with
    | .receiving | .retiring _ => { d with router := .stopped }
    | .sending _ _ | .stopped => d

end Steps

end Brokers.Multiplexing
