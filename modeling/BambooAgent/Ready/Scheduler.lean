import BambooAgent.Ready.Policies
import BambooAgent.Library.Interleavings

/- The calls of one scheduler. A call goes from one access of the shared state to the next in one
   step, and may be dropped between them; a lock is held by the call that is past it. -/
namespace Ready
open Interleavings

inductive HostCall where
  | authority
  | budget
  | preflight
  | patrol
  | dispatch
  | ensure

/-- A policy with the generation whose token it was installed under. -/
structure InstalledPolicy where
  policy : ReadyWorkPolicy
  generation : Nat
  began : Nat
  expires : Nat

/-- Where an install stands; once it validates, it has Host calls to make and may be in one. -/
inductive InstallStage where
  | waitsActive
  | hasActive
  | waitsState
  | hasState
  | validating (rest : List HostCall) (call : Option HostCall)

inductive ReconcileStage where
  | waitsActive
  | hasActive
  | waitsState
  | hasState
  | running (installed : InstalledPolicy) (call : Option HostCall)

/-- `pending` are the generations that a revoke has still to wait for. -/
inductive Call where
  | install (policy : ReadyWorkPolicy) (generation began : Nat) (stage : InstallStage)
  | reconcile (generation : Nat) (stage : ReconcileStage)
  | revoke (began : Nat) (pending : List Nat)

def Call.holdsActive (generation : Nat) : Call → Bool
  | .install _ _ _ .waitsActive | .reconcile _ .waitsActive | .revoke _ _ => false
  | .install _ captured _ _ | .reconcile captured _ => captured = generation

def Call.holdsState : Call → Bool
  | .install _ _ _ .hasState | .install _ _ _ (.validating _ _) | .reconcile _ .hasState
  | .reconcile _ (.running _ _) => true
  | _ => false

def Call.refers (generation : Nat) : Call → Bool
  | .install _ captured _ _ | .reconcile captured _ => captured = generation
  | .revoke _ pending => pending.contains generation

/-- `revocations` has for every generation when its revoke began. `begun` counts the calls;
    `returned` are the revokes that have returned, by when they began; `fences` are all those that
    were ever handed to a Host. -/
structure ReadyWorkScheduler where
  revocations : List (Option Nat)
  current : Nat
  retired : List Nat
  installed : Option InstalledPolicy
  calls : List (Option Call)
  begun : Nat
  returned : List Nat
  fences : List ReadyAdmissionFence

def ReadyWorkScheduler.new : ReadyWorkScheduler where
  revocations := [none]
  current := 0
  retired := []
  installed := none
  calls := []
  begun := 0
  returned := []
  fences := []

section Shared
variable (s : ReadyWorkScheduler)

def revokedAt (generation : Nat) : Option Nat := (s.revocations[generation]?).join

/-- The token of the generation is cancelled. -/
def isRevoked (generation : Nat) : Bool := (revokedAt s generation).isSome

def activeFree (generation : Nat) : Bool :=
  s.calls.all (fun call => !call.any (Call.holdsActive generation))

def stateFree : Bool := s.calls.all (fun call => !call.any Call.holdsState)

/-- The strong count of the generation is not zero. -/
def alive (generation : Nat) : Bool :=
  s.current = generation || s.calls.any (fun call => call.any (Call.refers generation))

def ReadyWorkScheduler.setCall (place : Nat) (call : Option Call) : ReadyWorkScheduler :=
  { s with calls := s.calls.set place call }

def ReadyWorkScheduler.begin_ (call : Call) : ReadyWorkScheduler :=
  { s with calls := s.calls ++ [some call], begun := s.begun + 1 }

/-- Policies that do not check are refused before anything is captured. -/
def install (policy : ReadyWorkPolicy) : ReadyWorkScheduler :=
  if validPolicy policy then s.begin_ (.install policy s.current s.begun .waitsActive) else s

def reconcile : ReadyWorkScheduler := s.begin_ (.reconcile s.current .waitsActive)

/-- The part of a revoke under the lock of the policy control. -/
def revoke : ReadyWorkScheduler :=
  let retired := s.retired.filter (alive s) ++ [s.current]
  { s with
    revocations := s.revocations.set s.current (some s.begun) ++ [none]
    current := s.revocations.length
    retired := retired
  }.begin_ (.revoke s.begun (retired.filter (alive s)))

/-- An install that has taken a lock looks at its token again. -/
def installGo (place : Nat) (policy : ReadyWorkPolicy) (generation began : Nat) :
    InstallStage → ReadyWorkScheduler
  | .hasActive =>
    if isRevoked s generation then s.setCall place none
    else s.setCall place (some (.install policy generation began .waitsState))
  | .hasState =>
    if isRevoked s generation then s.setCall place none
    else if s.installed.any (fun old => !isRevoked s old.generation) then s.setCall place none
    else { s with installed := none }.setCall place
      (some (.install policy generation began (.validating [.authority, .budget] none)))
  | _ => s

def reconcileGo (place now generation : Nat) : ReconcileStage → ReadyWorkScheduler
  | .hasActive =>
    if isRevoked s generation then s.setCall place none
    else s.setCall place (some (.reconcile generation .waitsState))
  | .hasState =>
    if isRevoked s generation then s.setCall place none
    else
      match s.installed with
      | none => s.setCall place none
      | some installed =>
        if isRevoked s installed.generation || installed.expires ≤ now then
          { s with installed := none }.setCall place none
        else s.setCall place (some (.reconcile generation (.running installed none)))
  | _ => s

def fenceOf (installed : InstalledPolicy) (retry : Option RetryDeadline) :
    HostCall → List ReadyAdmissionFence
  | .patrol => [⟨installed.expires, none, installed.generation, installed.began⟩]
  | .dispatch | .ensure => [⟨installed.expires, retry, installed.generation, installed.began⟩]
  | .authority | .budget | .preflight => []

end Shared

/-- A pass makes its Host calls one after the other, in any number and of any kind, and ends with
    any result. -/
inductive Act where
  | install (policy : ReadyWorkPolicy)
  | reconcile
  | revoke
  | acquire (place : Nat)
  | cancelled (place : Nat)
  | go (place now : Nat)
  | host (place : Nat) (kind : HostCall) (retry : Option RetryDeadline)
  | answer (place : Nat) (ok : Bool)
  | finish (place now : Nat) (disabled : Bool)
  | drop (place : Nat)

def Act.place : Act → Option Nat
  | .install _ | .reconcile | .revoke => none
  | .acquire place | .cancelled place | .go place _ | .host place _ _ | .answer place _
  | .finish place _ _ | .drop place => some place

def acquire (s : ReadyWorkScheduler) (place : Nat) : Call → ReadyWorkScheduler
  | .install policy generation began .waitsActive =>
    if activeFree s generation then
      s.setCall place (some (.install policy generation began .hasActive))
    else s
  | .install policy generation began .waitsState =>
    if stateFree s then s.setCall place (some (.install policy generation began .hasState)) else s
  | .reconcile generation .waitsActive =>
    if activeFree s generation then s.setCall place (some (.reconcile generation .hasActive)) else s
  | .reconcile generation .waitsState =>
    if stateFree s then s.setCall place (some (.reconcile generation .hasState)) else s
  | .revoke began (generation :: pending) =>
    -- The guard is dropped at once.
    if activeFree s generation then s.setCall place (some (.revoke began pending)) else s
  | _ => s

/-- A select sees the cancelled token at an await. -/
def cancelled (s : ReadyWorkScheduler) (place : Nat) : Call → ReadyWorkScheduler
  | .install _ generation _ stage =>
    match stage with
    | .waitsActive | .waitsState | .validating _ _ =>
      if isRevoked s generation then s.setCall place none else s
    | _ => s
  | .reconcile generation stage =>
    match stage with
    | .waitsActive | .waitsState => if isRevoked s generation then s.setCall place none else s
    | .running installed _ =>
      if isRevoked s installed.generation then { s with installed := none }.setCall place none
      else s
    | _ => s
  | .revoke _ _ => s

def hostCall (s : ReadyWorkScheduler) (place : Nat) (kind : HostCall)
    (retry : Option RetryDeadline) : Call → ReadyWorkScheduler
  | .install policy generation began (.validating (next :: rest) none) =>
    s.setCall place (some (.install policy generation began (.validating rest (some next))))
  | .reconcile generation (.running installed none) =>
    { s with fences := s.fences ++ fenceOf installed retry kind }.setCall place
      (some (.reconcile generation (.running installed (some kind))))
  | _ => s

/-- Any error ends an install. -/
def hostAnswer (s : ReadyWorkScheduler) (place : Nat) (ok : Bool) : Call → ReadyWorkScheduler
  | .install policy generation began (.validating rest (some _)) =>
    if ok then s.setCall place (some (.install policy generation began (.validating rest none)))
    else s.setCall place none
  | .reconcile generation (.running installed (some _)) =>
    s.setCall place (some (.reconcile generation (.running installed none)))
  | _ => s

def finish (s : ReadyWorkScheduler) (place now : Nat) (disabled : Bool) : Call → ReadyWorkScheduler
  | .install policy generation began (.validating [] none) =>
    { s with installed := some ⟨policy, generation, began, now + policy.lifetime⟩ }.setCall place
      none
  | .reconcile _ (.running _ none) =>
    if disabled then { s with installed := none }.setCall place none else s.setCall place none
  | .revoke began [] => { s with returned := s.returned ++ [began] }.setCall place none
  | _ => s

def stepOf (s : ReadyWorkScheduler) (place : Nat) (call : Call) : Act → ReadyWorkScheduler
  | .acquire _ => acquire s place call
  | .cancelled _ => cancelled s place call
  | .go _ now =>
    match call with
    | .install policy generation began stage => installGo s place policy generation began stage
    | .reconcile generation stage => reconcileGo s place now generation stage
    | .revoke _ _ => s
  | .host _ kind retry => hostCall s place kind retry call
  | .answer _ ok => hostAnswer s place ok call
  | .finish _ now disabled => finish s place now disabled call
  | .drop _ => s.setCall place none
  | _ => s

def step (s : ReadyWorkScheduler) : Act → ReadyWorkScheduler
  | .install policy => install s policy
  | .reconcile => reconcile s
  | .revoke => revoke s
  | act =>
    match act.place.bind (fun place => (s.calls[place]?.join).map (fun call => (place, call))) with
    | some (place, call) => stepOf s place call act
    | none => s

end Ready
