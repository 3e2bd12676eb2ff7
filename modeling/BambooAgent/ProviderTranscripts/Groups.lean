import BambooAgent.Compression.Texts
import BambooAgent.Library.Checks

/- The provider-native items of a session and the groups in which they are kept, with the
   admission of both. A JSON payload is its text. -/
namespace ProviderTranscripts
open Checks

inductive ProviderFamily where
  | openAi
  | anthropic
  | copilot
  deriving DecidableEq

inductive ProviderProtocol where
  | openAiResponsesV1
  | anthropicMessages2023_06_01
  deriving DecidableEq

def ProviderProtocol.supportsFamily (protocol : ProviderProtocol) (family : ProviderFamily) :
    Bool :=
  match protocol with
  | .openAiResponsesV1 => decide (family = .openAi) || decide (family = .copilot)
  | .anthropicMessages2023_06_01 => decide (family = .anthropic)

def isSha256Hex (value : String) : Bool :=
  decide (value.utf8ByteSize = 64) &&
    value.toList.all (fun c => c.isDigit || (decide ('a' ≤ c) && decide (c ≤ 'f')))

inductive ProviderTranscriptOrigin where
  | provider
  | hostToolSearch
  | developerContext
  deriving DecidableEq

inductive ProviderTranscriptAuthor where
  | model
  | host
  | toolResult
  deriving DecidableEq

inductive ProviderTranscriptItemKind where
  | openAiMessage
  | openAiReasoning
  | openAiFunctionCall
  | openAiToolSearchCall
  | openAiToolSearchOutput
  | openAiAdditionalTools
  | anthropicText
  | anthropicThinking
  | anthropicRedactedThinking
  | anthropicServerToolUse
  | anthropicToolSearchToolResult
  | anthropicToolUse
  | anthropicToolResult
  deriving DecidableEq

def ProviderTranscriptItemKind.isDiscovery : ProviderTranscriptItemKind → Bool
  | .openAiToolSearchCall | .openAiToolSearchOutput | .openAiAdditionalTools
  | .anthropicServerToolUse | .anthropicToolSearchToolResult | .anthropicToolResult => true
  | _ => false

inductive ProviderTranscriptResetReason where
  | providerSwitch
  | compression
  | rollback
  | hardTruncation
  | cacheScopeChanged
  | retentionLimit
  | explicitHistoryRewrite

inductive ProviderTranscriptError where
  | payloadNotObject
  | unsupportedItemType
  | invalidItem (label : String)
  | familyProtocolMismatch
  | emptyGroup
  | missingDiscoveryItem
  | mixedProviderGroup
  | invalidAnchor
  | invalidGroupOrder
  | duplicateGroupId
  | invalidStateSequence
  | futureGroupEpoch
  | currentEpochFamilyMismatch
  | currentEpochProtocolMismatch
  | invalidProviderBoundary
  | inactiveProviderRoute

/-- Why a persisted value is refused: by a rule of the transcript, or by the decoder itself. -/
inductive LoadError where
  | transcript (error : ProviderTranscriptError)
  | custom (message : String)

structure ProviderTranscriptItem where
  family : ProviderFamily
  protocol : ProviderProtocol
  origin : ProviderTranscriptOrigin
  author : ProviderTranscriptAuthor
  kind : ProviderTranscriptItemKind
  id : String
  payload : String
  deriving DecidableEq

/-- What is read off the payloads of the providers, and the digests: the kind that a payload has,
    the order in which a group may hold items, and the ids. -/
structure Rules where
  inferAndValidateItem : ProviderProtocol → ProviderTranscriptOrigin → ProviderTranscriptAuthor →
    String → Except ProviderTranscriptError ProviderTranscriptItemKind
  stableItemId : ProviderFamily → ProviderProtocol → ProviderTranscriptOrigin →
    ProviderTranscriptAuthor → ProviderTranscriptItemKind → String →
    Except ProviderTranscriptError String
  validateGroupOrder : ProviderProtocol → List ProviderTranscriptItem →
    Except ProviderTranscriptError Unit
  stableGroupId : Nat → ProviderFamily → ProviderProtocol → String → String →
    List String → String
  unboundProviderBoundarySha256 : String

def ProviderTranscriptItem.tryFromPayload (rules : Rules) (family : ProviderFamily)
    (protocol : ProviderProtocol) (origin : ProviderTranscriptOrigin)
    (author : ProviderTranscriptAuthor) (payload : String) :
    Except ProviderTranscriptError ProviderTranscriptItem := do
  refuse (protocol.supportsFamily family = false) .familyProtocolMismatch
  let kind ← rules.inferAndValidateItem protocol origin author payload
  let id ← rules.stableItemId family protocol origin author kind payload
  return { family, protocol, origin, author, kind, id, payload }

/-- An item has no other way into the program than its admission. -/
def ProviderTranscriptItem.Admitted (rules : Rules) (item : ProviderTranscriptItem) : Prop :=
  ProviderTranscriptItem.tryFromPayload rules item.family item.protocol item.origin item.author
    item.payload = .ok item

structure ProviderTranscriptGroup where
  id : String
  epoch : Nat
  sequence : Nat
  anchorMessageId : String
  family : ProviderFamily
  protocol : ProviderProtocol
  providerBoundarySha256 : String
  items : List ProviderTranscriptItem
  deriving DecidableEq

def validatedGroupIdentity (rules : Rules) (items : List ProviderTranscriptItem) :
    Except ProviderTranscriptError (ProviderFamily × ProviderProtocol) :=
  match items with
  | [] => .error .emptyGroup
  | first :: _ => do
    refuse (items.any (fun item => decide (item.family ≠ first.family) ||
      decide (item.protocol ≠ first.protocol)) = true) .mixedProviderGroup
    refuse (items.any (fun item => item.kind.isDiscovery) = false) .missingDiscoveryItem
    rules.validateGroupOrder first.protocol items
    return (first.family, first.protocol)

def ProviderTranscriptGroup.new (rules : Rules) (epoch sequence : Nat) (anchorMessageId : String)
    (providerBoundarySha256 : String) (items : List ProviderTranscriptItem) :
    Except ProviderTranscriptError ProviderTranscriptGroup := do
  refuse (anchorMessageId.toList.all Compression.isWhitespace = true) .invalidAnchor
  match items with
  | [] => .error .emptyGroup
  | first :: _ =>
    refuse (isSha256Hex providerBoundarySha256 = false) .invalidProviderBoundary
    let _ ← validatedGroupIdentity rules items
    return { id := rules.stableGroupId epoch first.family first.protocol providerBoundarySha256
               anchorMessageId (items.map (fun item => item.id)),
             epoch, sequence, anchorMessageId, family := first.family, protocol := first.protocol,
             providerBoundarySha256, items }

/-- A group as it may stand in a transcript: built from admitted items. -/
structure ProviderTranscriptGroup.Admitted (rules : Rules) (group : ProviderTranscriptGroup) :
    Prop where
  items : ∀ item ∈ group.items, item.Admitted rules
  built : ProviderTranscriptGroup.new rules group.epoch group.sequence group.anchorMessageId
    group.providerBoundarySha256 group.items = .ok group

/- Decoding. The wire forms have the fields of what they decode to. -/

def asCustom {α : Type} (result : Except ProviderTranscriptError α) : Except LoadError α :=
  result.mapError .transcript

def deserializeItem (rules : Rules) (wire : ProviderTranscriptItem) :
    Except LoadError ProviderTranscriptItem := do
  let item ← asCustom (ProviderTranscriptItem.tryFromPayload rules wire.family wire.protocol
    wire.origin wire.author wire.payload)
  refuse (item.kind ≠ wire.kind ∨ item.id ≠ wire.id)
    (.custom "provider transcript kind/id does not match its validated payload")
  return item

def deserializeGroup (rules : Rules) (wire : ProviderTranscriptGroup) :
    Except LoadError ProviderTranscriptGroup := do
  let items ← wire.items.mapM (deserializeItem rules)
  let group ← asCustom (ProviderTranscriptGroup.new rules wire.epoch wire.sequence
    wire.anchorMessageId wire.providerBoundarySha256 items)
  refuse (group.id ≠ wire.id ∨ group.family ≠ wire.family ∨ group.protocol ≠ wire.protocol)
    (.custom "provider transcript group identity does not match its validated items")
  return group

/- What is admitted is what decodes to itself. -/

theorem asCustom_eq_ok : asCustom result = .ok a ↔ result = .ok a := by
  cases result with
  | error error =>
    constructor
    · intro same
      cases same
    · intro same
      cases same
  | ok b =>
    constructor
    · intro same
      cases same
      rfl
    · intro same
      cases same
      rfl

variable {rules : Rules}

theorem tryFromPayload_shape
    (run : ProviderTranscriptItem.tryFromPayload rules family protocol origin author payload =
      .ok item) :
    item.family = family ∧ item.protocol = protocol ∧ item.origin = origin ∧
      item.author = author ∧ item.payload = payload ∧ protocol.supportsFamily family = true := by
  obtain ⟨_, supported, run⟩ := bind_eq_ok.1 run
  obtain ⟨kind, _, run⟩ := bind_eq_ok.1 run
  obtain ⟨id, _, run⟩ := bind_eq_ok.1 run
  cases run
  exact ⟨rfl, rfl, rfl, rfl, rfl, eq_true_of_ne_false (refuse_eq_ok.1 supported)⟩

theorem deserializeItem_eq_ok :
    deserializeItem rules wire = .ok item ↔ item = wire ∧ wire.Admitted rules := by
  constructor
  · intro run
    obtain ⟨built, admission, run⟩ := bind_eq_ok.1 run
    obtain ⟨_, matching, run⟩ := bind_eq_ok.1 run
    cases run
    have admission := asCustom_eq_ok.1 admission
    obtain ⟨family, protocol, origin, author, payload, _⟩ := tryFromPayload_shape admission
    have kindId := refuse_eq_ok.1 matching
    push Not at kindId
    have same : item = wire := by
      obtain ⟨_, _, _, _, _, _, _⟩ := item
      dsimp only at family protocol origin author payload kindId
      rw [family, protocol, origin, author, payload, kindId.1, kindId.2]
    refine ⟨same, ?_⟩
    unfold ProviderTranscriptItem.Admitted
    rw [admission, same]
  · rintro ⟨rfl, admitted⟩
    refine bind_eq_ok.2 ⟨item, asCustom_eq_ok.2 admitted, bind_eq_ok.2 ⟨(), ?_, rfl⟩⟩
    exact refuse_eq_ok.2 (not_or.2 ⟨not_not.2 rfl, not_not.2 rfl⟩)

theorem new_shape {sequence : Nat}
    (run : ProviderTranscriptGroup.new rules epoch sequence anchor boundary items = .ok group) :
    group.epoch = epoch ∧ group.sequence = sequence ∧ group.anchorMessageId = anchor ∧
      group.providerBoundarySha256 = boundary ∧ group.items = items ∧
      (∃ first rest, items = first :: rest ∧ group.family = first.family ∧
        group.protocol = first.protocol) := by
  obtain ⟨_, _, run⟩ := bind_eq_ok.1 run
  cases items with
  | nil => cases run
  | cons first rest =>
    obtain ⟨_, _, run⟩ := bind_eq_ok.1 run
    obtain ⟨_, _, run⟩ := bind_eq_ok.1 run
    cases run
    exact ⟨rfl, rfl, rfl, rfl, rfl, first, rest, rfl, rfl, rfl⟩

theorem deserializeGroup_eq_ok :
    deserializeGroup rules wire = .ok group ↔ group = wire ∧ wire.Admitted rules := by
  constructor
  · intro run
    obtain ⟨items, decoded, run⟩ := bind_eq_ok.1 run
    obtain ⟨built, admission, run⟩ := bind_eq_ok.1 run
    obtain ⟨_, matching, run⟩ := bind_eq_ok.1 run
    cases run
    obtain ⟨rfl, admitted⟩ := (mapM_same (fun _ _ => deserializeItem_eq_ok)).1 decoded
    have admission := asCustom_eq_ok.1 admission
    obtain ⟨epoch, sequence, anchor, boundary, items, _⟩ := new_shape admission
    have identity := refuse_eq_ok.1 matching
    push Not at identity
    have same : group = wire := by
      obtain ⟨_, _, _, _, _, _, _, _⟩ := group
      dsimp only at epoch sequence anchor boundary items identity
      rw [epoch, sequence, anchor, boundary, items, identity.1, identity.2.1, identity.2.2]
    exact ⟨same, admitted, by rw [admission, same]⟩
  · rintro ⟨rfl, admitted⟩
    have items := (mapM_same (fun _ _ => deserializeItem_eq_ok)).2 ⟨rfl, admitted.items⟩
    refine bind_eq_ok.2 ⟨group.items, items, bind_eq_ok.2 ⟨group,
      asCustom_eq_ok.2 admitted.built, bind_eq_ok.2 ⟨(), ?_, rfl⟩⟩⟩
    exact refuse_eq_ok.2 (by simp)

end ProviderTranscripts
