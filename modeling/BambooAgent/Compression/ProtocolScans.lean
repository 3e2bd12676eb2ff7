import BambooAgent.Compression.RetrievalChecks

/- What a protocol scan records, and why the calls and results of one id lie in one group
   when the group of any of them is safe. -/
namespace Compression
open List Bool

def callUses (indexed : IndexedMessage) : List (String × Nat) :=
  if indexed.message.role = .assistant then
    (callsOf indexed.message).map (fun call => (call.id, indexed.sessionIndex))
  else []

/-- The use of a call id by a tool result. -/
def resultUses (indexed : IndexedMessage) : List (String × Nat) :=
  if indexed.message.role = .tool then
    match indexed.message.toolCallId with
    | some callId => if callId.isEmpty then [] else [(callId, indexed.sessionIndex)]
    | none => []
  else []

/-- The calls of the message have ids, and so has the call that a tool result answers. -/
def WellIdentified (message : Message) : Prop :=
  (message.role = .assistant → ∀ call ∈ callsOf message, call.id.isEmpty = false) ∧
    (message.role = .tool → ∀ callId ∈ message.toolCallId, callId.isEmpty = false)

theorem scanCalls_facts (sessionIndex : Nat) (calls : List ToolCall) :
    ∀ localCallIds scan,
      (scanCalls sessionIndex calls localCallIds scan).calls =
          scan.calls ++ calls.map (fun call => (call.id, sessionIndex)) ∧
        (scanCalls sessionIndex calls localCallIds scan).results = scan.results ∧
        ((scanCalls sessionIndex calls localCallIds scan).safe = true →
          scan.safe = true ∧ ∀ call ∈ calls, call.id.isEmpty = false) := by
  induction calls with
  | nil =>
    intro localCallIds scan
    exact ⟨(append_nil _).symm, rfl, fun safe => ⟨safe, fun _ none => absurd none
      not_mem_nil⟩⟩
  | cons call rest ih =>
    intro localCallIds scan
    rw [scanCalls]
    obtain ⟨grown, same, safe⟩ := ih (localCallIds.insert call.id)
      { scan with
        safe := scan.safe && !call.id.isEmpty && !localCallIds.contains call.id,
        pendingCallIds := scan.pendingCallIds.insert call.id,
        calls := scan.calls ++ [(call.id, sessionIndex)] }
    refine ⟨?_, same, ?_⟩
    · rw [grown, append_assoc]
      rfl
    · intro final
      obtain ⟨first, later⟩ := safe final
      have parts := and_eq_true_iff.1 first
      obtain ⟨start, named⟩ := and_eq_true_iff.1 parts.1
      refine ⟨start, ?_⟩
      intro other member
      cases mem_cons.1 member with
      | inl here =>
        rw [here]
        simpa using named
      | inr there => exact later other there

theorem wellIdentified_assistant (role : message.role = .assistant)
    (named : ∀ call ∈ callsOf message, call.id.isEmpty = false) : WellIdentified message := by
  refine ⟨fun _ => named, fun other => ?_⟩
  rw [role] at other
  cases other

theorem wellIdentified_tool (role : message.role = .tool)
    (named : ∀ callId ∈ message.toolCallId, callId.isEmpty = false) : WellIdentified message := by
  refine ⟨fun other => ?_, fun _ => named⟩
  rw [role] at other
  cases other

theorem wellIdentified_other (notAssistant : message.role ≠ .assistant)
    (notTool : message.role ≠ .tool) : WellIdentified message :=
  ⟨fun role => absurd role notAssistant, fun role => absurd role notTool⟩

theorem callsOf_none (without : ¬ hasToolCalls message = true) : callsOf message = [] := by
  unfold hasToolCalls at without
  unfold callsOf
  cases found : message.toolCalls with
  | none => rfl
  | some calls =>
    rw [found] at without
    simpa using without

theorem scanMessage_facts (scan : ProtocolScan) (indexed : IndexedMessage) :
    (scanMessage scan indexed).calls = scan.calls ++ callUses indexed ∧
      (scanMessage scan indexed).results = scan.results ++ resultUses indexed ∧
      ((scanMessage scan indexed).safe = true →
        scan.safe = true ∧ WellIdentified indexed.message) := by
  unfold scanMessage
  dsimp only
  cases role : indexed.message.role with
  | assistant =>
    have calls : callUses indexed =
        (callsOf indexed.message).map (fun call => (call.id, indexed.sessionIndex)) := by
      simp [callUses, role]
    have results : resultUses indexed = [] := by
      simp [resultUses, role]
    rw [calls, results, append_nil]
    dsimp only
    split
    case isTrue _ =>
      obtain ⟨grown, same, safe⟩ := scanCalls_facts indexed.sessionIndex
        (callsOf indexed.message) []
        { scan with
          safe := scan.safe && indexed.message.toolCallId.isNone && scan.pendingCallIds.isEmpty,
          pendingCallIds := [] }
      refine ⟨grown, same, ?_⟩
      intro final
      obtain ⟨start, named⟩ := safe final
      have parts := and_eq_true_iff.1 start
      exact ⟨(and_eq_true_iff.1 parts.1).1, wellIdentified_assistant role named⟩
    case isFalse without =>
      rw [callsOf_none without]
      refine ⟨(append_nil _).symm, rfl, ?_⟩
      intro final
      have parts := and_eq_true_iff.1 final
      refine ⟨(and_eq_true_iff.1 parts.1).1, wellIdentified_assistant role ?_⟩
      rw [callsOf_none without]
      exact fun _ none => absurd none not_mem_nil
  | tool =>
    have calls : callUses indexed = [] := by
      simp [callUses, role]
    rw [calls, append_nil]
    cases answered : indexed.message.toolCallId with
    | none =>
      refine ⟨rfl, ?_, fun final => ?_⟩
      · simp [resultUses, role, answered]
      · cases final
    | some callId =>
      dsimp only
      split
      case isTrue empty =>
        refine ⟨rfl, ?_, fun final => ?_⟩
        · simp [resultUses, role, answered, empty]
        · cases final
      case isFalse named =>
        refine ⟨rfl, ?_, fun final => ?_⟩
        · simp [resultUses, role, answered, named]
        · have parts := and_eq_true_iff.1 final
          refine ⟨(and_eq_true_iff.1 parts.1).1, wellIdentified_tool role ?_⟩
          intro other same
          rw [answered] at same
          cases same
          simpa using named
  | user =>
    have calls : callUses indexed = [] := by
      simp [callUses, role]
    have results : resultUses indexed = [] := by
      simp [resultUses, role]
    rw [calls, results, append_nil, append_nil]
    dsimp only
    split
    · refine ⟨rfl, rfl, fun final => ?_⟩
      cases final
    · exact ⟨rfl, rfl, fun final =>
        ⟨final, wellIdentified_other (by rw [role]; decide) (by rw [role]; decide)⟩⟩
  | system =>
    have calls : callUses indexed = [] := by
      simp [callUses, role]
    have results : resultUses indexed = [] := by
      simp [resultUses, role]
    rw [calls, results, append_nil, append_nil]
    exact ⟨rfl, rfl, fun final =>
      ⟨final, wellIdentified_other (by rw [role]; decide) (by rw [role]; decide)⟩⟩

theorem scan_run (messages : List IndexedMessage) :
    ∀ scan : ProtocolScan,
      (messages.foldl scanMessage scan).calls = scan.calls ++ messages.flatMap callUses ∧
        (messages.foldl scanMessage scan).results = scan.results ++ messages.flatMap resultUses ∧
        ((messages.foldl scanMessage scan).safe = true →
          scan.safe = true ∧ ∀ indexed ∈ messages, WellIdentified indexed.message) := by
  induction messages with
  | nil =>
    intro scan
    exact ⟨(append_nil _).symm, (append_nil _).symm,
      fun safe => ⟨safe, fun _ none => absurd none not_mem_nil⟩⟩
  | cons indexed rest ih =>
    intro scan
    obtain ⟨calls, results, safe⟩ := ih (scanMessage scan indexed)
    obtain ⟨call, result, step⟩ := scanMessage_facts scan indexed
    rw [foldl_cons, calls, results, call, result, append_assoc, append_assoc]
    refine ⟨rfl, rfl, ?_⟩
    intro final
    obtain ⟨middle, later⟩ := safe final
    obtain ⟨start, here⟩ := step middle
    exact ⟨start, forall_mem_cons.2 ⟨here, later⟩⟩

theorem scanGroup_calls (group : LogicalGroup) :
    (scanGroup group).calls = group.messages.flatMap callUses :=
  (scan_run group.messages _).1.trans (nil_append _)

theorem scanGroup_results (group : LogicalGroup) :
    (scanGroup group).results = group.messages.flatMap resultUses :=
  (scan_run group.messages _).2.1.trans (nil_append _)

theorem scanGroup_identified (safe : (scanGroup group).safe = true) :
    ∀ indexed ∈ group.messages, WellIdentified indexed.message :=
  ((scan_run group.messages _).2.2 safe).2

def Mentions (message : Message) (callId : String) : Prop :=
  (message.role = .assistant ∧ ∃ call ∈ callsOf message, call.id = callId) ∨
    (message.role = .tool ∧ message.toolCallId = some callId)

theorem mention_used (mentions : Mentions indexed.message callId) (named : callId.isEmpty = false) :
    (callId, indexed.sessionIndex) ∈ callUses indexed ∨
      (callId, indexed.sessionIndex) ∈ resultUses indexed := by
  cases mentions with
  | inl calls =>
    obtain ⟨role, call, member, same⟩ := calls
    apply Or.inl
    rw [callUses, if_pos role]
    exact mem_map.2 ⟨call, member, by rw [same]⟩
  | inr answers =>
    apply Or.inr
    rw [resultUses, if_pos answers.1, answers.2]
    dsimp only
    rw [if_neg (by simp [named])]
    exact mem_singleton.2 rfl

variable {groupIndex : Nat}

section Positions
variable {groups : List LogicalGroup}

theorem mem_positionsOf :
    (groupIndex, sessionIndex) ∈ positionsOf scans select callId ↔
      ∃ scan, scans[groupIndex]? = some scan ∧ (callId, sessionIndex) ∈ select scan := by
  unfold positionsOf
  rw [mem_flatMap]
  constructor
  · intro ⟨entry, member, used⟩
    obtain ⟨use, inside, same⟩ := mem_map.1 used
    obtain ⟨recorded, named⟩ := mem_filter.1 inside
    obtain ⟨index, position⟩ := Prod.mk.inj same
    refine ⟨entry.1, ?_, ?_⟩
    · rw [← index]
      exact mem_zipIdx_iff_getElem?.mp member
    · rw [← of_decide_eq_true named, ← position]
      exact recorded
  · intro ⟨scan, found, used⟩
    refine ⟨(scan, groupIndex), mem_zipIdx_iff_getElem?.mpr found, ?_⟩
    exact mem_map.2 ⟨(callId, sessionIndex),
      mem_filter.2 ⟨used, by simp⟩, rfl⟩

theorem validCall_group (valid : validCall scans callId = true) :
    ∃ groupIndex, ∀ other sessionIndex,
      (other, sessionIndex) ∈ positionsOf scans (·.calls) callId ∨
        (other, sessionIndex) ∈ positionsOf scans (·.results) callId →
      other = groupIndex := by
  unfold validCall at valid
  split at valid
  case h_2 => cases valid
  case h_1 call result calls results =>
    have together : call.1 = result.1 := by
      have parts := and_eq_true_iff.1 valid
      simpa using parts.1
    refine ⟨call.1, ?_⟩
    intro other sessionIndex used
    rw [calls, results, mem_singleton, mem_singleton] at used
    cases used with
    | inl isCall => exact congrArg Prod.fst isCall
    | inr isResult => exact (congrArg Prod.fst isResult).trans together.symm

theorem mention_position (found : groups[groupIndex]? = some group)
    (member : indexed ∈ group.messages) (mentions : Mentions indexed.message callId)
    (named : callId.isEmpty = false) :
    (groupIndex, indexed.sessionIndex) ∈ positionsOf (groups.map scanGroup) (·.calls) callId ∨
      (groupIndex, indexed.sessionIndex) ∈
        positionsOf (groups.map scanGroup) (·.results) callId := by
  have scan : (groups.map scanGroup)[groupIndex]? = some (scanGroup group) := by
    rw [List.getElem?_map, found]
    rfl
  cases mention_used mentions named with
  | inl call =>
    apply Or.inl
    rw [mem_positionsOf]
    refine ⟨scanGroup group, scan, ?_⟩
    rw [scanGroup_calls]
    exact mem_flatMap.2 ⟨indexed, member, call⟩
  | inr result =>
    apply Or.inr
    rw [mem_positionsOf]
    refine ⟨scanGroup group, scan, ?_⟩
    rw [scanGroup_results]
    exact mem_flatMap.2 ⟨indexed, member, result⟩

theorem mention_named (safe : safeAmong groups group = true) (member : indexed ∈ group.messages)
    (mentions : Mentions indexed.message callId) : callId.isEmpty = false := by
  have scanned := (and_eq_true_iff.1 (and_eq_true_iff.1 safe).1).1
  have identified := scanGroup_identified scanned indexed member
  cases mentions with
  | inl calls =>
    obtain ⟨role, call, issued, same⟩ := calls
    rw [← same]
    exact identified.1 role call issued
  | inr answers => exact identified.2 answers.1 callId answers.2

theorem mentions_together (found : groups[groupIndex]? = some group)
    (there : groups[otherIndex]? = some other) (safe : safeAmong groups group = true)
    (member : indexed ∈ group.messages) (mentions : Mentions indexed.message callId)
    (inside : also ∈ other.messages) (again : Mentions also.message callId) :
    otherIndex = groupIndex := by
  have named := mention_named safe member mentions
  have used := mention_position found member mentions named
  have alsoUsed := mention_position there inside again named
  have checked : callId ∈ idsUsed (scanGroup group) := by
    unfold idsUsed
    rw [mem_map]
    cases mention_used mentions named with
    | inl call =>
      refine ⟨(callId, indexed.sessionIndex), mem_append_left _ ?_, rfl⟩
      rw [scanGroup_calls]
      exact mem_flatMap.2 ⟨indexed, member, call⟩
    | inr result =>
      refine ⟨(callId, indexed.sessionIndex), mem_append_right _ ?_, rfl⟩
      rw [scanGroup_results]
      exact mem_flatMap.2 ⟨indexed, member, result⟩
  have valid := all_eq_true.1 (and_eq_true_iff.1 safe).2 callId checked
  obtain ⟨single, all⟩ := validCall_group valid
  rw [all _ _ used, all _ _ alsoUsed]

end Positions

end Compression
