import BambooAgent.Library.Interleavings
import BambooAgent.Library.SortedMap

/- Requests that share a store of receipts and a table of key locks. A request goes from one await
   to the next in one step, and may be dropped at any of them. -/
namespace Mutations
open SortedMaps Interleavings

def u64Modulus : Nat := 2 ^ 64

def maxCachedResponseBytes : Nat := 256 * 1024

structure HttpResponse where
  status : Nat
  headers : List (String × String)
  body : List UInt8
  deriving DecidableEq

def HttpResponse.toResponse (captured : HttpResponse) : HttpResponse :=
  let kept := captured.headers.filter
    (fun header => header.1 ≠ "content-length" ∧ header.1 ≠ "transfer-encoding")
  { captured with headers := kept }

def jsonResponse (status : Nat) (text : String) : HttpResponse :=
  { status := status, headers := [("content-type", "application/json")],
    body := text.toUTF8.data.toList }

def conflictResponse : HttpResponse :=
  jsonResponse 409 ("\x7b\"error\":\x7b\"code\":\"idempotency_key_conflict\",\"message\":" ++
    "\"Idempotency-Key was already used with a different request payload\"," ++
    "\"type\":\"api_error\"\x7d\x7d")

/-- The error value is the text of another module. -/
def captureFailedResponse (errorValue : String → String) : HttpResponse :=
  jsonResponse 500 ("\x7b\"error\":" ++
    errorValue "Failed to capture idempotent mutation response" ++ "\x7d")

/-- `age` is bookkeeping: the sequence that does not wrap. -/
structure CachedEntry where
  payloadFingerprint : String
  response : HttpResponse
  expiresAt : Nat
  sequence : Nat
  age : Nat
  deriving DecidableEq

/-- `stores` is bookkeeping: how many responses have been stored. -/
structure CacheState where
  entries : SortedMap String CachedEntry
  nextSequence : Nat
  stores : Nat

def CacheState.empty : CacheState := { entries := .empty, nextSequence := 0, stores := 0 }

def CacheState.pruneExpired (now : Nat) (cache : CacheState) : CacheState :=
  { cache with entries := cache.entries.retain (fun entry => decide (now < entry.expiresAt)) }

def oldest : List (String × CachedEntry) → Option (String × CachedEntry)
  | [] => none
  | first :: rest =>
    match oldest rest with
    | none => some first
    | some other => if other.2.sequence < first.2.sequence then some other else some first

/-- The loop that makes room; it takes an entry out each time around. -/
def makeRoom (capacity : Nat) : Nat → SortedMap String CachedEntry → SortedMap String CachedEntry
  | 0, entries => entries
  | rounds + 1, entries =>
    if capacity ≤ entries.size then
      match oldest entries.entries with
      | none => entries
      | some (key, _) => makeRoom capacity rounds (entries.erase key)
    else entries

def CacheState.insertBounded (capacity : Nat) (keyDigest payloadFingerprint : String)
    (response : HttpResponse) (expiresAt : Nat) (cache : CacheState) : CacheState :=
  let room := makeRoom capacity cache.entries.size cache.entries
  { entries := room.insert keyDigest
      { payloadFingerprint := payloadFingerprint, response := response, expiresAt := expiresAt,
        sequence := cache.nextSequence, age := cache.stores },
    nextSequence := (cache.nextSequence + 1) % u64Modulus,
    stores := cache.stores + 1 }

/- The requests. -/

/-- Where a request stands; from `checking` to `returning` it has the guard of its key. -/
inductive Phase where
  | waiting
  | checking (now : Nat)
  | operating (existing : Bool)
  | capturing (response : HttpResponse)
  | storing (captured : HttpResponse)
  | returning (response : HttpResponse)
  | ended (response : Option HttpResponse)
  deriving DecidableEq

def Phase.live : Phase → Bool
  | .ended _ => false
  | _ => true

def Phase.owns : Phase → Bool
  | .waiting | .ended _ => false
  | _ => true

/-- `lock` is the mutex whose reference the request has taken. -/
structure Request where
  keyDigest : String
  payloadFingerprint : String
  revalidate : Bool
  lock : Nat
  phase : Phase

structure Config where
  ttl : Nat
  requestedCapacity : Nat
  errorValue : String → String

def Config.capacity (config : Config) : Nat := max config.requestedCapacity 1

/-- Locks are numbered as they are made. -/
structure Store where
  cache : CacheState
  keyLocks : SortedMap String Nat
  nextLock : Nat
  requests : List Request

def Store.new : Store := { cache := .empty, keyLocks := .empty, nextLock := 0, requests := [] }

/-- The reference of the table and those of the requests. -/
def strongCount (s : Store) (lock : Nat) : Nat :=
  1 + s.requests.countP (fun q => q.lock = lock && q.phase.live)

def unlocked (s : Store) (lock : Nat) : Bool :=
  s.requests.all (fun q => !(q.lock = lock && q.phase.owns))

def Store.setPhase (place : Nat) (r : Request) (phase : Phase) (s : Store) : Store :=
  { s with requests := s.requests.set place { r with phase := phase } }

/-- A request arrives and takes the lock of its key out of the table, or puts one there. -/
def lockKey (s : Store) (keyDigest payloadFingerprint : String) (revalidate : Bool) : Store :=
  let lock := (s.keyLocks.lookup keyDigest).getD s.nextLock
  { s with
    keyLocks := s.keyLocks.insert keyDigest lock,
    nextLock := if s.keyLocks.contains keyDigest then s.nextLock else s.nextLock + 1,
    requests := s.requests ++ [{ keyDigest := keyDigest, payloadFingerprint := payloadFingerprint,
                                 revalidate := revalidate, lock := lock, phase := .waiting }] }

/-- Ownership is released before the count is looked at. -/
def dropGuard (place : Nat) (r : Request) (response : Option HttpResponse) (s : Store) : Store :=
  let released := s.setPhase place r (.ended response)
  { released with keyLocks :=
      match released.keyLocks.lookup r.keyDigest with
      | some lock =>
        if strongCount released lock = 1 then released.keyLocks.erase r.keyDigest
        else released.keyLocks
      | none => released.keyLocks }

/-- What the owner of a key does with the receipt it finds. -/
def answered (r : Request) (found : Option CachedEntry) : Phase :=
  match found with
  | some entry =>
    if entry.payloadFingerprint ≠ r.payloadFingerprint then .returning conflictResponse
    else if !r.revalidate || entry.response.status ≠ 200 then
      .returning entry.response.toResponse
    else .operating true
  | none => .operating false

def check (s : Store) (place : Nat) (r : Request) (now : Nat) : Store :=
  let pruned := s.cache.pruneExpired now
  { s with cache := pruned }.setPhase place r (answered r (pruned.entries.lookup r.keyDigest))

def storeReceipt (config : Config) (s : Store) (place : Nat) (r : Request)
    (captured : HttpResponse) (now later : Nat) : Store :=
  let stored := (s.cache.pruneExpired now).insertBounded config.capacity r.keyDigest
    r.payloadFingerprint captured (later + config.ttl)
  { s with cache := stored }.setPhase place r (.returning captured.toResponse)

def capture (config : Config) (response : HttpResponse) (buffered : Bool) : Phase :=
  if buffered then
    if response.body.length ≤ maxCachedResponseBytes then .storing response
    else .returning response.toResponse
  else .returning (captureFailedResponse config.errorValue)

inductive Act where
  | arrive (keyDigest payloadFingerprint : String) (revalidate : Bool)
  | acquire (place now : Nat)
  | check (place : Nat)
  | respond (place : Nat) (response : HttpResponse)
  | capture (place : Nat) (buffered : Bool)
  | store (place now later : Nat)
  | finish (place : Nat)
  | cancel (place : Nat)

/-- The request that takes the step. -/
def Act.place : Act → Option Nat
  | .arrive .. => none
  | .acquire place _ | .check place | .respond place _ | .capture place _ | .store place _ _
  | .finish place | .cancel place => some place

def stepOf (config : Config) (s : Store) (place : Nat) (r : Request) : Act → Store
  | .arrive .. => s
  | .acquire _ now =>
    match r.phase with
    | .waiting => if unlocked s r.lock then s.setPhase place r (.checking now) else s
    | _ => s
  | .check _ =>
    match r.phase with
    | .checking now => check s place r now
    | _ => s
  | .respond _ response =>
    match r.phase with
    | .operating existing =>
      s.setPhase place r (if existing then .returning response else .capturing response)
    | _ => s
  | .capture _ buffered =>
    match r.phase with
    | .capturing response => s.setPhase place r (capture config response buffered)
    | _ => s
  | .store _ now later =>
    match r.phase with
    | .storing captured => storeReceipt config s place r captured now later
    | _ => s
  | .finish _ =>
    match r.phase with
    | .returning response => dropGuard place r (some response) s
    | _ => s
  | .cancel _ =>
    match r.phase with
    | .waiting => s.setPhase place r (.ended none)
    | .checking _ | .operating _ | .capturing _ | .storing _ => dropGuard place r none s
    | .returning _ | .ended _ => s

def step (config : Config) (s : Store) (act : Act) : Store :=
  match act with
  | .arrive keyDigest payloadFingerprint revalidate =>
    lockKey s keyDigest payloadFingerprint revalidate
  | other =>
    match other.place.bind (fun place => (s.requests[place]?).map (fun r => (place, r))) with
    | some (place, r) => stepOf config s place r other
    | none => s

end Mutations
