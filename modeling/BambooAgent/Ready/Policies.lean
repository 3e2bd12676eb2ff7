import BambooAgent.Tickets.Claiming

/- What a Host decides about Ready Work, and the fence that its admissions carry. -/
namespace Ready

inductive ReadyBlockKind where
  | configuration
  | permission
  | resource
  | transient
  | outcomeUnknown
  deriving DecidableEq

structure ReadyWorkGrant where
  workId : String
  contractRevision : Nat
  contextHash : String
  workspace : Tickets.ExecutionWorkspace

/-- The lifetime is in nanoseconds. -/
structure ReadyWorkPolicy where
  projectId : String
  grants : List ReadyWorkGrant
  capacity : Nat
  maxRounds : Nat
  lifetime : Nat

def nanosPerSecond : Nat := 1000000000

def isHexDigit (c : Char) : Bool :=
  ('0' ≤ c && c ≤ '9') || ('a' ≤ c && c ≤ 'f') || ('A' ≤ c && c ≤ 'F')

def validGrant (grant : ReadyWorkGrant) : Bool :=
  grant.workId ≠ "" && grant.workId.utf8ByteSize ≤ 256 && grant.contractRevision ≠ 0 &&
    grant.contextHash.utf8ByteSize = 64 && grant.contextHash.toList.all isHexDigit

def validPolicy (policy : ReadyWorkPolicy) : Bool :=
  1 ≤ policy.capacity && policy.capacity ≤ 3 && !policy.grants.isEmpty &&
    policy.grants.length ≤ Tickets.claimCandidateLimit && policy.maxRounds ≠ 0 && policy.lifetime ≠ 0 &&
    policy.lifetime ≤ 3600 * nanosPerSecond && policy.grants.all validGrant &&
    decide (policy.grants.map ReadyWorkGrant.workId).Nodup

/-- The window of a durable retry; a clock may fail to read. -/
structure RetryDeadline where
  floorMs : Nat
  expiresMs : Nat

def RetryDeadline.check (deadline : RetryDeadline) (reading : Option Nat) : Except String Unit :=
  match reading with
  | none => .error "retry clock predates its epoch"
  | some now =>
    if now < deadline.floorMs || deadline.expiresMs ≤ now then
      .error "durable retry deadline/floor no longer permits admission"
    else .ok ()

/-- The generation is the one whose token the fence has; `began` is when the install of its policy
    began. -/
structure ReadyAdmissionFence where
  expires : Nat
  retry : Option RetryDeadline
  generation : Nat
  began : Nat

def ReadyAdmissionFence.check (fence : ReadyAdmissionFence) (revoked : Nat → Bool) (now : Nat)
    (reading : Option Nat) : Except String Unit :=
  if revoked fence.generation then .error "Host policy revoked before admission"
  else if fence.expires ≤ now then .error "Host policy expired before admission"
  else
    match fence.retry with
    | some retry => retry.check reading
    | none => .ok ()

end Ready
