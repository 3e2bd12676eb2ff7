import Mathlib.Data.Prod.Lex
import Mathlib.Data.String.Basic
import BambooAgent.ProviderTranscripts.Groups

/- The transcript of a session: the route that is active, the epoch of its groups, and what the
   session does to them. -/
namespace ProviderTranscripts
open Checks

def providerTranscriptSchemaVersion : Nat := 1

def u64Max : Nat := 2 ^ 64 - 1

def saturatingAdd (a b : Nat) : Nat := min (a + b) u64Max

structure ProviderTranscriptState where
  schemaVersion : Nat
  stateRevision : Nat
  epoch : Nat
  nextSequence : Nat
  activeFamily : Option ProviderFamily
  activeProtocol : Option ProviderProtocol
  activeProviderBoundarySha256 : Option String
  groups : List ProviderTranscriptGroup
  lastResetReason : Option ProviderTranscriptResetReason

structure ProviderTranscriptStateWire where
  schemaVersion : Option Nat
  stateRevision : Nat
  epoch : Nat
  nextSequence : Nat
  activeFamily : Option ProviderFamily
  activeProtocol : Option ProviderProtocol
  activeProviderBoundarySha256 : Option String
  groups : List ProviderTranscriptGroup
  lastResetReason : Option ProviderTranscriptResetReason

def ProviderTranscriptState.default : ProviderTranscriptState :=
  { schemaVersion := providerTranscriptSchemaVersion, stateRevision := 0, epoch := 0,
    nextSequence := 0, activeFamily := none, activeProtocol := none,
    activeProviderBoundarySha256 := none, groups := [], lastResetReason := none }

/- Encoding and decoding. -/

def serialize (state : ProviderTranscriptState) : ProviderTranscriptStateWire :=
  { schemaVersion := some state.schemaVersion, stateRevision := state.stateRevision,
    epoch := state.epoch, nextSequence := state.nextSequence, activeFamily := state.activeFamily,
    activeProtocol := state.activeProtocol,
    activeProviderBoundarySha256 := state.activeProviderBoundarySha256, groups := state.groups,
    lastResetReason := state.lastResetReason }

def ProviderTranscriptStateWire.isEmpty (wire : ProviderTranscriptStateWire) : Bool :=
  decide (wire.stateRevision = 0) && decide (wire.epoch = 0) && decide (wire.nextSequence = 0) &&
    wire.activeFamily.isNone && wire.activeProtocol.isNone &&
    wire.activeProviderBoundarySha256.isNone && wire.groups.isEmpty &&
    wire.lastResetReason.isNone

def loadSchemaVersion (wire : ProviderTranscriptStateWire) : Except LoadError Nat :=
  match wire.schemaVersion with
  | some version =>
    if version = providerTranscriptSchemaVersion then .ok providerTranscriptSchemaVersion
    else .error (.custom "unsupported provider transcript schema version")
  | none =>
    if wire.isEmpty then .ok providerTranscriptSchemaVersion
    else .error (.custom "missing provider transcript schema version")

/-- The groups of the current epoch, one after the other: all of the active route, each at a
    position of its own. The largest position is what is returned. -/
def checkCurrent (wire : ProviderTranscriptStateWire) :
    List ProviderTranscriptGroup → List Nat → Option Nat → Except LoadError (Option Nat)
  | [], _, largest => .ok largest
  | group :: rest, sequences, largest => do
    refuse (wire.activeFamily ≠ some group.family) (.transcript .currentEpochFamilyMismatch)
    refuse (wire.activeProtocol ≠ some group.protocol) (.transcript .currentEpochProtocolMismatch)
    refuse (wire.activeProviderBoundarySha256 ≠ some group.providerBoundarySha256)
      (.transcript .invalidProviderBoundary)
    refuse (group.sequence ∈ sequences) (.transcript .invalidStateSequence)
    checkCurrent wire rest (group.sequence :: sequences)
      (some (largest.elim group.sequence (fun current => max current group.sequence)))

def deserialize (rules : Rules) (wire : ProviderTranscriptStateWire) :
    Except LoadError ProviderTranscriptState := do
  let groups ← wire.groups.mapM (deserializeGroup rules)
  let wire := { wire with groups }
  let schemaVersion ← loadSchemaVersion wire
  let present := [wire.activeFamily.isSome, wire.activeProtocol.isSome,
    wire.activeProviderBoundarySha256.isSome]
  refuse (present.any id = true ∧ present.all id = false) (.transcript .invalidProviderBoundary)
  refuse (wire.activeProviderBoundarySha256.any (fun boundary => !isSha256Hex boundary) = true)
    (.transcript .invalidProviderBoundary)
  refuse (wire.activeFamily.any (fun family =>
      wire.activeProtocol.any (fun protocol => !protocol.supportsFamily family)) = true)
    (.transcript .familyProtocolMismatch)
  refuse (¬ (groups.map (fun group => group.id)).Nodup) (.transcript .duplicateGroupId)
  refuse (groups.any (fun group => decide (wire.epoch < group.epoch)) = true)
    (.transcript .futureGroupEpoch)
  let largest ← checkCurrent wire (groups.filter (fun group => decide (group.epoch = wire.epoch)))
    [] none
  refuse (largest.any (fun sequence => decide (wire.nextSequence ≤ sequence)) = true)
    (.transcript .invalidStateSequence)
  return { schemaVersion, stateRevision := wire.stateRevision, epoch := wire.epoch,
           nextSequence := wire.nextSequence, activeFamily := wire.activeFamily,
           activeProtocol := wire.activeProtocol,
           activeProviderBoundarySha256 := wire.activeProviderBoundarySha256,
           groups := wire.groups, lastResetReason := wire.lastResetReason }

namespace ProviderTranscriptState

/- Routes. -/

def isEmpty (state : ProviderTranscriptState) : Bool :=
  decide (state.stateRevision = 0) && decide (state.epoch = 0) &&
    decide (state.nextSequence = 0) && state.activeFamily.isNone && state.activeProtocol.isNone &&
    state.activeProviderBoundarySha256.isNone && state.groups.isEmpty &&
    state.lastResetReason.isNone

/-- Whether anything was here that another route must not see. -/
def isSwitch (state : ProviderTranscriptState) : Bool :=
  state.activeFamily.isSome || state.activeProtocol.isSome ||
    state.activeProviderBoundarySha256.isSome || !state.groups.isEmpty

def hasRoute (state : ProviderTranscriptState) (family : ProviderFamily)
    (protocol : ProviderProtocol) (boundary : String) : Prop :=
  state.activeFamily = some family ∧ state.activeProtocol = some protocol ∧
    state.activeProviderBoundarySha256 = some boundary

instance (state : ProviderTranscriptState) (family : ProviderFamily) (protocol : ProviderProtocol)
    (boundary : String) : Decidable (state.hasRoute family protocol boundary) :=
  inferInstanceAs (Decidable (_ ∧ _ ∧ _))

/-- `activate_route`: a new route starts a new epoch, unless it is the first. -/
def activateRoute (state : ProviderTranscriptState) (family : ProviderFamily)
    (protocol : ProviderProtocol) (boundary : String) :
    Except ProviderTranscriptError (Bool × ProviderTranscriptState) := do
  refuse (protocol.supportsFamily family = false) .familyProtocolMismatch
  refuse (isSha256Hex boundary = false) .invalidProviderBoundary
  if state.hasRoute family protocol boundary then return (false, state)
  else
    let parted :=
      if state.isSwitch then
        { state with epoch := saturatingAdd state.epoch 1, nextSequence := 0,
                     lastResetReason := some .providerSwitch }
      else state
    return (true,
      { parted with activeFamily := some family, activeProtocol := some protocol,
                    activeProviderBoundarySha256 := some boundary,
                    stateRevision := saturatingAdd state.stateRevision 1 })

def deactivateRoute (state : ProviderTranscriptState) : Bool × ProviderTranscriptState :=
  if state.activeFamily.isNone && state.activeProtocol.isNone &&
      state.activeProviderBoundarySha256.isNone then (false, state)
  else
    (true,
      { state with epoch := saturatingAdd state.epoch 1, nextSequence := 0, activeFamily := none,
                   activeProtocol := none, activeProviderBoundarySha256 := none,
                   lastResetReason := some .providerSwitch,
                   stateRevision := saturatingAdd state.stateRevision 1 })

def invalidateRepeated (state : ProviderTranscriptState) (reason : ProviderTranscriptResetReason)
    (count : Nat) : ProviderTranscriptState :=
  if count = 0 ∨ state.isEmpty then state
  else
    { state with epoch := saturatingAdd state.epoch count, nextSequence := 0,
                 lastResetReason := some reason,
                 stateRevision := saturatingAdd state.stateRevision count }

/- Groups. -/

/-- The boundary of the group to come, and whether it has to be activated with it. -/
def routeOf (rules : Rules) (state : ProviderTranscriptState) (family : ProviderFamily)
    (protocol : ProviderProtocol) : Except ProviderTranscriptError (String × Bool) :=
  match state.activeFamily, state.activeProtocol, state.activeProviderBoundarySha256 with
  | some activeFamily, some activeProtocol, some boundary =>
    if activeFamily = family ∧ activeProtocol = protocol then .ok (boundary, false)
    else .error .inactiveProviderRoute
  | none, none, none => .ok (rules.unboundProviderBoundarySha256, true)
  | _, _, _ => .error .inactiveProviderRoute

/-- The group that stands under this id is the one that is appended. -/
def sameAppend (existing group : ProviderTranscriptGroup) : Bool :=
  decide (existing.epoch = group.epoch) &&
    decide (existing.anchorMessageId = group.anchorMessageId) &&
    decide (existing.family = group.family) && decide (existing.protocol = group.protocol) &&
    decide (existing.providerBoundarySha256 = group.providerBoundarySha256) &&
    decide (existing.items = group.items)

def appendGroup (rules : Rules) (state : ProviderTranscriptState) (anchorMessageId : String)
    (items : List ProviderTranscriptItem) :
    Except ProviderTranscriptError (String × ProviderTranscriptState) :=
  match items with
  | [] => .error .emptyGroup
  | first :: _ => do
    let (boundary, activatesUnboundRoute) ← state.routeOf rules first.family first.protocol
    let group ← ProviderTranscriptGroup.new rules state.epoch state.nextSequence anchorMessageId
      boundary items
    match state.groups.find? (fun current => decide (current.id = group.id)) with
    | some existing =>
      if sameAppend existing group then return (group.id, state)
      else .error .duplicateGroupId
    | none =>
      let routed :=
        if activatesUnboundRoute then
          { state with activeFamily := some first.family, activeProtocol := some first.protocol,
                       activeProviderBoundarySha256 := some boundary,
                       stateRevision := saturatingAdd state.stateRevision 1 }
        else state
      return (group.id,
        { routed with groups := routed.groups ++ [group],
                      nextSequence := saturatingAdd routed.nextSequence 1,
                      stateRevision := saturatingAdd routed.stateRevision 1 })

def pruneDanglingGroups (state : ProviderTranscriptState) (live : List String) :
    ProviderTranscriptState :=
  let kept := state.groups.filter (fun group => decide (group.anchorMessageId ∈ live))
  if kept.length < state.groups.length then
    { state with groups := kept, stateRevision := saturatingAdd state.stateRevision 1,
                 lastResetReason := some .rollback }
  else { state with groups := kept }

def replayableGroups (state : ProviderTranscriptState) (family : ProviderFamily)
    (protocol : ProviderProtocol) (boundary : String) : List ProviderTranscriptGroup :=
  if ¬ state.hasRoute family protocol boundary ∨ protocol.supportsFamily family = false then []
  else
    (state.groups.filter (fun group => decide (group.epoch = state.epoch) &&
      decide (group.family = family) && decide (group.protocol = protocol) &&
      decide (group.providerBoundarySha256 = boundary))).mergeSort
        (fun left right => decide (left.sequence ≤ right.sequence))

/- The merge with a durable snapshot. -/

/-- The groups that a scan adds to a winner, with the ids that it has come across. -/
structure Gathered where
  seen : List String
  added : List ProviderTranscriptGroup

/-- Groups of the current epoch come in under the active route only, and none of a later epoch. -/
def gather (winner : ProviderTranscriptState) (live : List String) (gathered : Gathered)
    (group : ProviderTranscriptGroup) : Gathered :=
  if group.anchorMessageId ∈ live ∧ group.id ∉ gathered.seen then
    let seen := group.id :: gathered.seen
    if group.epoch = winner.epoch ∧
        ¬ winner.hasRoute group.family group.protocol group.providerBoundarySha256 then
      { gathered with seen }
    else if winner.epoch < group.epoch then { gathered with seen }
    else { seen, added := gathered.added ++ [group] }
  else gathered

def messagePosition (order : List String) (id : String) : Nat :=
  ((order.zipIdx.filter (fun entry => decide (entry.1 = id))).getLast?.map
    (fun entry => entry.2)).getD u64Max

/-- Chronology first, then the positions and the ids that the groups had. -/
def precedes (order : List String) (left right : ProviderTranscriptGroup) : Bool :=
  decide (toLex (messagePosition order left.anchorMessageId, toLex (left.sequence, left.id)) ≤
    toLex (messagePosition order right.anchorMessageId, toLex (right.sequence, right.id)))

def resequence (groups : List ProviderTranscriptGroup) : List ProviderTranscriptGroup :=
  groups.zipIdx.map (fun entry => { entry.1 with sequence := entry.2 })

def normalize (state : ProviderTranscriptState) (order : List String) : ProviderTranscriptState :=
  let current := resequence
    ((state.groups.filter (fun group => decide (group.epoch = state.epoch))).mergeSort
      (precedes order))
  { state with
    groups := state.groups.filter (fun group => !decide (group.epoch = state.epoch)) ++ current
    nextSequence := current.length }

/-- `merge_durable_prefix`: the later epoch wins, and in one epoch the later revision. -/
def mergeDurablePrefix (live durable : ProviderTranscriptState) (order : List String) :
    Nat × ProviderTranscriptState :=
  let winner :=
    if live.epoch < durable.epoch ∨
        durable.epoch = live.epoch ∧ live.stateRevision ≤ durable.stateRevision then durable
    else live
  let gathered := (durable.groups ++ live.groups).foldl (gather winner order)
    { seen := winner.groups.map (fun group => group.id), added := [] }
  let merged : ProviderTranscriptState :=
    { winner with groups := winner.groups ++ gathered.added }
  let pruned := merged.pruneDanglingGroups order
  let normalized := pruned.normalize order
  let added := gathered.added.length
  (added,
    if 0 < added ∨ normalized.groups ≠ pruned.groups then
      { normalized with stateRevision := saturatingAdd normalized.stateRevision 1 }
    else normalized)

end ProviderTranscriptState

/- Histories. -/

/-- A call on one transcript. -/
inductive Call where
  | activate (family : ProviderFamily) (protocol : ProviderProtocol) (boundary : String)
  | deactivate
  | invalidate (reason : ProviderTranscriptResetReason) (count : Nat)
  | append (anchorMessageId : String) (items : List ProviderTranscriptItem)
  | prune (live : List String)
  | merge (durable : ProviderTranscriptState) (order : List String)

/-- A refused call leaves the transcript as it was. -/
def Call.run (rules : Rules) (state : ProviderTranscriptState) : Call → ProviderTranscriptState
  | activate family protocol boundary =>
    match state.activateRoute family protocol boundary with
    | .ok (_, changed) => changed
    | .error _ => state
  | deactivate => state.deactivateRoute.2
  | invalidate reason count => state.invalidateRepeated reason count
  | append anchorMessageId items =>
    match state.appendGroup rules anchorMessageId items with
    | .ok (_, changed) => changed
    | .error _ => state
  | prune live => state.pruneDanglingGroups live
  | merge durable order => (state.mergeDurablePrefix durable order).2

/-- What the types of the arguments promise: admitted items, and a snapshot that was loaded. -/
def Call.WellFormed (rules : Rules) : Call → Prop
  | append _ items => ∀ item ∈ items, item.Admitted rules
  | merge durable _ => ∃ wire, deserialize rules wire = .ok durable
  | _ => True

/-- A run of calls from the empty transcript, with the state that each call has found. -/
inductive History (rules : Rules) (permitted : ProviderTranscriptState → Call → Prop) :
    List (ProviderTranscriptState × Call) → ProviderTranscriptState → Prop
  | start : History rules permitted [] .default
  | step {past state call} (before : History rules permitted past state)
      (wellFormed : call.WellFormed rules) (may : permitted state call) :
      History rules permitted (past ++ [(state, call)]) (call.run rules state)

end ProviderTranscripts
