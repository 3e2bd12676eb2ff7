import Mathlib.Algebra.Order.Ring.Int
import BambooAgent.Library.Interleavings
import BambooAgent.Observers.Window

/- Any calls on a window that started empty: every committed change has its place in one
   sequence, and a reader that missed one is told so. -/
namespace Observers
open List hiding after
open SortedMaps Checks Interleavings SortedMap Option

variable {encoding : Encoding}

/- What a passed validation says. -/

structure Publishable (encoding : Encoding) (change : ObserverViewChange) : Prop where
  valid : change.validate encoding = .ok ()
  target : validateSupervisorTargetId change.targetSessionId = .ok ()
  fingerprint : digestShape change.sourceFingerprint = true

theorem change_valid (valid : change.validate encoding = .ok ()) : Publishable encoding change := by
  obtain ⟨target, passed⟩ := check_bind_eq_ok.1 valid
  have shapes := refuse_eq_ok.1 passed
  simp only [not_or, Bool.not_eq_false] at shapes
  exact ⟨valid, target, shapes.2.2.2.2.2.1⟩

structure Valid (encoding : Encoding) (window : ObserverSubscriptionWindow) : Prop where
  header : window.version = observerSubscriptionVersion ∧ window.scopeEpoch ≠ 0
  fingerprints : window.enqueuedFingerprints.size ≤ maxObserverWindowTargets
  cursors : window.rootOutcomeCursors.size ≤ maxObserverWindowTargets
  bounded : window.history.length ≤ maxObserverChangeHistory
  bytes : encoding.windowBytes window ≤ maxObserverWindowBytes
  targets : ∀ entry ∈ window.enqueuedFingerprints.entries,
    validateSupervisorTargetId entry.1 = .ok () ∧ digestShape entry.2 = true
  cursorTargets : ∀ key ∈ window.rootOutcomeCursors.keys, validateSupervisorTargetId key = .ok ()
  length : window.history.length ≤ window.enqueuedSequence
  changes : ∀ change i, window.history[i]? = some change → change.validate encoding = .ok () ∧
    change.scopeEpoch = window.scopeEpoch ∧
    change.sequence = window.enqueuedSequence - window.history.length + i + 1
  started : decide (window.enqueuedSequence = 0) = window.history.isEmpty
  pending : ∀ change, window.pending = some change → window.validatePending encoding change = .ok ()

theorem validate_eq_ok : window.validate encoding = .ok () ↔ Valid encoding window := by
  have changes : (∀ entry ∈ window.history.zipIdx, entry.1.validate encoding = .ok () ∧
      entry.1.scopeEpoch = window.scopeEpoch ∧ entry.1.sequence =
        window.enqueuedSequence - window.history.length + entry.2 + 1) ↔
      ∀ change i, window.history[i]? = some change → change.validate encoding = .ok () ∧
        change.scopeEpoch = window.scopeEpoch ∧
        change.sequence = window.enqueuedSequence - window.history.length + i + 1 := by
    simp only [Prod.forall, mem_zipIdx_iff_getElem?]
  have pending : window.pending.forM (window.validatePending encoding) = .ok () ↔
      ∀ change, window.pending = some change →
        window.validatePending encoding change = .ok () := by
    cases window.pending with
    | none => simp [Option.forM, pure, Except.pure]
    | some change => simp [Option.forM]
  simp only [ObserverSubscriptionWindow.validate, check_bind_eq_ok, refuse_eq_ok, not_or,
    Decidable.not_not, not_lt, forM_eq_ok, Bool.not_eq_false, changes, pending]
  constructor
  · intro ⟨⟨version, epoch, fingerprints, cursors, bounded, bytes⟩, targets, cursorTargets, length,
      changes, started, pending⟩
    exact ⟨⟨version, epoch⟩, fingerprints, cursors, bounded, bytes, targets, cursorTargets, length,
      changes, started, pending⟩
  · intro valid
    exact ⟨⟨valid.header.1, valid.header.2, valid.fingerprints, valid.cursors, valid.bounded,
      valid.bytes⟩, valid.targets, valid.cursorTargets, valid.length, valid.changes, valid.started,
      valid.pending⟩

structure Owned (encoding : Encoding) (owner : ObserverSubscriptionOwner)
    (window : ObserverSubscriptionWindow) : Prop where
  valid : Valid encoding window
  observer : validateSupervisorTargetId owner.observerSessionId = .ok ()
  incarnation : owner.supervisorIncarnation ≠ 0
  identified : ∀ change ∈ window.history ++ window.pending.toList,
    change.eventId = change.expectedEventId encoding owner

theorem validateForOwner_eq_ok :
    window.validateForOwner encoding owner = .ok () ↔ Owned encoding owner window := by
  simp only [ObserverSubscriptionWindow.validateForOwner, check_bind_eq_ok, refuse_eq_ok,
    validate_eq_ok, not_exists, not_and, Decidable.not_not]
  exact ⟨fun ⟨valid, observer, incarnation, identified⟩ =>
      ⟨valid, observer, incarnation, identified⟩,
    fun owned => ⟨owned.valid, owned.observer, owned.incarnation, owned.identified⟩⟩

structure Pending (encoding : Encoding) (window : ObserverSubscriptionWindow)
    (change : ObserverViewChange) : Prop where
  publishable : Publishable encoding change
  epoch : change.scopeEpoch = window.scopeEpoch
  room : window.enqueuedSequence + 1 ≤ u64Max
  sequence : change.sequence = window.enqueuedSequence + 1
  capacity : window.enqueuedFingerprints.contains change.targetSessionId = true ∨
    window.enqueuedFingerprints.size < maxObserverWindowTargets

theorem validatePending_ok (valid : window.validatePending encoding change = .ok ()) :
    Pending encoding window change := by
  simp only [ObserverSubscriptionWindow.validatePending, check_bind_eq_ok, refuse_eq_ok, not_or,
    Decidable.not_not, not_lt, not_and, not_le] at valid
  obtain ⟨passed, _, epoch, room, sequence, capacity⟩ := valid
  refine ⟨change_valid passed, epoch, room, sequence, ?_⟩
  by_cases held : window.enqueuedFingerprints.contains change.targetSessionId = true
  · exact .inl held
  · exact .inr (capacity (Bool.eq_false_iff.2 held))

theorem Owned.staged (owned : Owned encoding owner window) (held : window.pending = some change) :
    Pending encoding window change :=
  validatePending_ok (owned.valid.pending change held)

/- One call. -/

theorem stage_cases (encoding : Encoding) (owner : ObserverSubscriptionOwner)
    (window : ObserverSubscriptionWindow) (view : ObserverSubscriptionWindow.View)
    (rootOutcome : Option ObserverRootOutcomeCursor) :
    let result := window.stageWithRootOutcome encoding owner view rootOutcome
    (result.2 = window ∧ ∀ change, result.1 = .ok (.staged change) ∨
        result.1 = .ok (.existingPending change) → window.pending = some change) ∨
      ∃ change, result = (.ok (.staged change), { window with pending := some change }) ∧
        window.pending = none ∧ Owned encoding owner { window with pending := some change } := by
  intro result
  have unfolded : result = window.stageWithRootOutcome encoding owner view rootOutcome := rfl
  unfold ObserverSubscriptionWindow.stageWithRootOutcome at unfolded
  split at unfolded
  · exact .inl (by simp [unfolded])
  · split at unfolded
    · rename_i held
      exact .inl (by simp [unfolded, held])
    · rename_i unstaged
      split at unfolded
      · exact .inl (by simp [unfolded])
      · split at unfolded
        · exact .inl (by simp [unfolded])
        · split at unfolded
          · exact .inl (by simp [unfolded])
          · dsimp only at unfolded
            split at unfolded
            · exact .inl (by simp [unfolded])
            · exact .inl (by simp [unfolded])
            · rename_i owned
              exact .inr ⟨_, unfolded, unstaged, validateForOwner_eq_ok.1 owned⟩

theorem commit_cases (encoding : Encoding) (owner : ObserverSubscriptionOwner)
    (window : ObserverSubscriptionWindow) (receipt : SessionInboxReceipt) :
    let result := window.commitEnqueued encoding owner receipt
    (result.2 = window ∧ result.1 ≠ .ok true) ∨
      ∃ change, window.pending = some change ∧ change.eventId = receipt.id ∧
        result = (.ok true, window.enqueued change) ∧
        Owned encoding owner (window.enqueued change) := by
  intro result
  have unfolded : result = window.commitEnqueued encoding owner receipt := rfl
  unfold ObserverSubscriptionWindow.commitEnqueued at unfolded
  split at unfolded
  · exact .inl (by simp [unfolded])
  · split at unfolded
    · exact .inl (by simp [unfolded])
    · split at unfolded
      · split at unfolded
        · exact .inl (by simp [unfolded])
        · exact .inl (by simp [unfolded])
      · rename_i change held
        split at unfolded
        · exact .inl (by simp [unfolded])
        · rename_i same
          split at unfolded
          · exact .inl (by simp [unfolded])
          · rename_i owned
            exact .inr ⟨change, held, Decidable.not_not.1 same, unfolded,
              validateForOwner_eq_ok.1 owned⟩

theorem size_le_of_contains {a : SortedMap String ν} {b : SortedMap String ν'}
    (within : ∀ key, a.contains key = true → b.contains key = true) : a.size ≤ b.size := by
  have sub : a.keys ⊆ b.keys := by
    intro key member
    exact mem_keys.2 (contains_iff.1
      (within key (contains_iff.2 (mem_keys.1 member))))
  have shorter := (a.keys_nodup.subperm sub).length_le
  simpa [SortedMap.keys, SortedMap.size] using shorter

theorem contains_insert {m : SortedMap String ν} :
    (m.insert key value).contains other = true ↔ other = key ∨ m.contains other = true := by
  rw [SortedMap.contains]
  by_cases same : other = key
  · simp [same]
  · simp [same, SortedMap.contains]

/-- The cursors are of targets that were enqueued. -/
def Followed (window : ObserverSubscriptionWindow) : Prop :=
  ∀ key, window.rootOutcomeCursors.contains key = true →
    window.enqueuedFingerprints.contains key = true

section Enqueued
variable {window : ObserverSubscriptionWindow}

theorem enqueued_history (bounded : window.history.length ≤ maxObserverChangeHistory) :
    (window.enqueued change).history = (window.history ++ [change]).drop
      (window.history.length + 1 - maxObserverChangeHistory) := by
  unfold ObserverSubscriptionWindow.enqueued
  dsimp only
  rw [length_append, length_singleton]
  split
  · have one : window.history.length + 1 - maxObserverChangeHistory = 1 := by omega
    rw [one, drop_one]
  · have zero : window.history.length + 1 - maxObserverChangeHistory = 0 := by omega
    rw [zero, drop_zero]

theorem enqueued_followed (followed : Followed window) : Followed (window.enqueued change) := by
  intro key
  unfold ObserverSubscriptionWindow.enqueued
  rw [contains_insert]
  cases change.rootOutcome with
  | none => exact fun held => .inr (followed key held)
  | some position =>
    rw [contains_insert]
    exact Or.imp_right (followed key)

theorem enqueued_fingerprints (pending : Pending encoding window change)
    (within : window.enqueuedFingerprints.size ≤ maxObserverWindowTargets) :
    (window.enqueued change).enqueuedFingerprints.size ≤ maxObserverWindowTargets := by
  rcases pending.capacity with held | room
  · refine le_trans (size_le_of_contains fun key => ?_) within
    intro member
    rcases contains_insert.1 member with same | old
    · exact same ▸ held
    · exact old
  · have grown := window.enqueuedFingerprints.size_insert_le change.targetSessionId
      change.sourceFingerprint
    exact le_trans grown room

theorem enqueued_changes (valid : Valid encoding window) (pending : Pending encoding window change)
    (held : (window.enqueued change).history[i]? = some entry) :
    entry.validate encoding = .ok () ∧ entry.scopeEpoch = window.scopeEpoch ∧
      entry.sequence = change.sequence - (window.enqueued change).history.length + i + 1 := by
  have length := valid.length
  have sequence := pending.sequence
  rw [enqueued_history valid.bounded] at held ⊢
  rw [List.getElem?_drop, List.getElem?_append] at held
  rw [length_drop, length_append, length_singleton]
  split at held
  · obtain ⟨passed, epoch, numbered⟩ := valid.changes entry _ held
    exact ⟨passed, epoch, by omega⟩
  · obtain ⟨last, rfl⟩ := List.getElem?_eq_some_iff.1 held
    rw [length_singleton] at last
    rw [getElem_singleton]
    exact ⟨pending.publishable.valid, pending.epoch, by omega⟩

theorem enqueued_owned (owned : Owned encoding owner window) (held : window.pending = some change)
    (followed : Followed window)
    (fits : encoding.windowBytes (window.enqueued change) ≤ maxObserverWindowBytes) :
    Owned encoding owner (window.enqueued change) := by
  have pending := owned.staged held
  have sequence := pending.sequence
  have valid := owned.valid
  have bounded := valid.bounded
  have fingerprints := enqueued_fingerprints pending valid.fingerprints
  have length : (window.enqueued change).history.length =
      window.history.length + 1 - (window.history.length + 1 - maxObserverChangeHistory) := by
    rw [enqueued_history bounded, length_drop, length_append, length_singleton]
  have within : (window.enqueued change).history ⊆ window.history ++ [change] := by
    rw [enqueued_history bounded]
    exact drop_subset _ _
  have cursors : ∀ key, (window.enqueued change).rootOutcomeCursors.contains key = true →
      key = change.targetSessionId ∨ window.rootOutcomeCursors.contains key = true := by
    intro key
    unfold ObserverSubscriptionWindow.enqueued
    cases change.rootOutcome with
    | none => exact .inr
    | some position => exact contains_insert.1
  refine ⟨⟨valid.header, fingerprints, ?_, ?_, fits, ?_, ?_, ?_, ?_, ?_, ?_⟩, owned.observer,
    owned.incarnation, ?_⟩
  · exact le_trans (size_le_of_contains (enqueued_followed followed)) fingerprints
  · omega
  · intro entry member
    have found := mem_entries.1 (show (entry.1, entry.2) ∈ _ from member)
    rw [show (window.enqueued change).enqueuedFingerprints = window.enqueuedFingerprints.insert
      change.targetSessionId change.sourceFingerprint from rfl, lookup_insert] at found
    split at found
    · rename_i same
      rw [same, ← some.inj found]
      exact ⟨pending.publishable.target, pending.publishable.fingerprint⟩
    · exact valid.targets entry (mem_entries.2 found)
  · intro key member
    rcases cursors key (contains_iff.2 (mem_keys.1 member)) with same | old
    · exact same ▸ pending.publishable.target
    · exact valid.cursorTargets key (mem_keys.2 (contains_iff.1 old))
  · have before := valid.length
    change (window.enqueued change).history.length ≤ change.sequence
    omega
  · exact fun entry i at' => enqueued_changes valid pending at'
  · change decide (change.sequence = 0) = (window.enqueued change).history.isEmpty
    have some : (window.enqueued change).history ≠ [] := by
      apply ne_nil_of_length_pos
      unfold maxObserverChangeHistory at length
      omega
    rw [decide_eq_false (by omega), isEmpty_eq_false_iff.2 some]
  · exact fun none absurd => by cases absurd
  · intro entry member
    rw [show (window.enqueued change).pending = none from rfl, toList_none,
      append_nil] at member
    apply owned.identified
    rw [held]
    exact within member

end Enqueued

/- Runs. -/

structure Feed where
  window : ObserverSubscriptionWindow
  committed : List ObserverViewChange

inductive FeedAct where
  | stage (view : ObserverSubscriptionWindow.View)
  | stageWithRootOutcome (view : ObserverSubscriptionWindow.View)
      (rootOutcome : Option ObserverRootOutcomeCursor)
  | commitEnqueued (receipt : SessionInboxReceipt)
  | reload

/-- The window after the call, and whether it committed a change. -/
def FeedAct.call (encoding : Encoding) (owner : ObserverSubscriptionOwner)
    (window : ObserverSubscriptionWindow) :
    FeedAct → Except String Bool × ObserverSubscriptionWindow
  | .stage view =>
    let result := window.stage encoding owner view
    (result.1.map fun _ => false, result.2)
  | .stageWithRootOutcome view rootOutcome =>
    let result := window.stageWithRootOutcome encoding owner view rootOutcome
    (result.1.map fun _ => false, result.2)
  | .commitEnqueued receipt => window.commitEnqueued encoding owner receipt
  | .reload => (.ok false, encoding.reload window)

def feedStep (encoding : Encoding) (owner : ObserverSubscriptionOwner) (feed : Feed)
    (act : FeedAct) : Feed :=
  let result := act.call encoding owner feed.window
  { window := result.2
    committed := match result.1 with
      | .ok true => feed.committed ++ feed.window.pending.toList
      | _ => feed.committed }

/-- What one call does to a feed. -/
inductive Moves (encoding : Encoding) (owner : ObserverSubscriptionOwner) (feed : Feed) :
    FeedAct → Feed → Prop where
  | same (act : FeedAct) : Moves encoding owner feed act feed
  | staged (change : ObserverViewChange)
      (succeeded : (act.call encoding owner feed.window).1 = .ok false)
      (none : feed.window.pending = none)
      (owned : Owned encoding owner { feed.window with pending := some change }) :
      Moves encoding owner feed act ⟨{ feed.window with pending := some change }, feed.committed⟩
  | committed (change : ObserverViewChange)
      (succeeded : (feed.window.commitEnqueued encoding owner receipt).1 = .ok true)
      (held : feed.window.pending = some change) (same : change.eventId = receipt.id)
      (owned : Owned encoding owner (feed.window.enqueued change)) :
      Moves encoding owner feed (.commitEnqueued receipt)
        ⟨feed.window.enqueued change, feed.committed ++ [change]⟩

theorem stage_moves (feed : Feed) (act : FeedAct) (view : ObserverSubscriptionWindow.View)
    (rootOutcome : Option ObserverRootOutcomeCursor)
    (call : act.call encoding owner feed.window =
      let result := feed.window.stageWithRootOutcome encoding owner view rootOutcome
      (result.1.map fun _ => false, result.2)) :
    Moves encoding owner feed act (feedStep encoding owner feed act) := by
  have step : feedStep encoding owner feed act =
      ⟨(act.call encoding owner feed.window).2, feed.committed⟩ := by
    unfold feedStep
    rw [call]
    dsimp only
    cases (feed.window.stageWithRootOutcome encoding owner view rootOutcome).1 <;> rfl
  rw [step, call]
  rcases stage_cases encoding owner feed.window view rootOutcome with
    ⟨same, _⟩ | ⟨change, result, none, owned⟩
  · rw [same]
    exact .same act
  · rw [result] at call ⊢
    exact .staged change (by rw [call]; rfl) none owned

theorem feedStep_moves (feed : Feed) (act : FeedAct) :
    Moves encoding owner feed act (feedStep encoding owner feed act) := by
  cases act with
  | stage view => exact stage_moves feed _ view none rfl
  | stageWithRootOutcome view rootOutcome => exact stage_moves feed _ view rootOutcome rfl
  | reload =>
    have step : feedStep encoding owner feed .reload = feed := by
      unfold feedStep FeedAct.call
      rw [encoding.reload_same]
    rw [step]
    exact .same _
  | commitEnqueued receipt =>
    rcases commit_cases encoding owner feed.window receipt with
      ⟨same, failed⟩ | ⟨change, held, id, result, owned⟩
    · have step : feedStep encoding owner feed (.commitEnqueued receipt) = feed := by
        unfold feedStep FeedAct.call
        dsimp only
        split
        · rename_i succeeded
          exact absurd succeeded failed
        · rw [same]
      rw [step]
      exact .same _
    · have step : feedStep encoding owner feed (.commitEnqueued receipt) =
          ⟨feed.window.enqueued change, feed.committed ++ [change]⟩ := by
        unfold feedStep FeedAct.call
        dsimp only
        rw [result, held]
        rfl
      rw [step]
      exact .committed change (congrArg Prod.fst result) held id owned

structure Tracked (encoding : Encoding) (owner : ObserverSubscriptionOwner) (epoch : Nat)
    (feed : Feed) : Prop where
  owned : Owned encoding owner feed.window
  followed : Followed feed.window
  scope : feed.window.scopeEpoch = epoch
  count : feed.window.enqueuedSequence = feed.committed.length
  room : feed.committed.length ≤ u64Max
  sequences : feed.committed.map ObserverViewChange.sequence =
    List.range' 1 feed.committed.length
  retained : feed.window.history =
    feed.committed.drop (feed.committed.length - maxObserverChangeHistory)

theorem tracked_moves (tracked : Tracked encoding owner epoch feed)
    (moves : Moves encoding owner feed act after) : Tracked encoding owner epoch after := by
  cases moves with
  | same => exact tracked
  | staged change succeeded none owned => exact { tracked with owned := owned }
  | committed change succeeded held same owned =>
    have pending := tracked.owned.staged held
    have sequence := pending.sequence
    have room := pending.room
    have count := tracked.count
    have length : (feed.committed ++ [change]).length = feed.committed.length + 1 :=
      length_append
    refine ⟨owned, enqueued_followed tracked.followed, tracked.scope, ?_, ?_, ?_, ?_⟩
    · rw [length, ← count, ← sequence]
      rfl
    · rw [length, ← count]
      exact room
    · rw [map_append, tracked.sequences, length, List.range'_concat, map_singleton,
        sequence, count, Nat.one_mul, add_comm 1]
    · have bounded := tracked.owned.valid.bounded
      have retained := tracked.retained
      rw [enqueued_history bounded, length, retained, length_drop,
        ← drop_append_of_le_length (by omega), drop_drop]
      congr 1
      omega

/-- What a reader of the feed may rely on. -/
structure Honest (encoding : Encoding) (owner : ObserverSubscriptionOwner) (epoch : Nat)
    (feed : Feed) : Prop where
  valid : feed.window.validateForOwner encoding owner = .ok ()
  refused : ∀ act error, (act.call encoding owner feed.window).1 = .error error →
    feedStep encoding owner feed act = feed
  sequences : feed.committed.map ObserverViewChange.sequence =
    List.range' 1 feed.committed.length
  receipts : ∀ act, (feedStep encoding owner feed act).committed = feed.committed ∨
    ∃ receipt change, act = .commitEnqueued receipt ∧ feed.window.pending = some change ∧
      change.eventId = receipt.id ∧
      (feedStep encoding owner feed act).committed = feed.committed ++ [change]
  stages : ∀ view rootOutcome change,
    let result := feed.window.stageWithRootOutcome encoding owner view rootOutcome
    result.1 = .ok (.staged change) ∨ result.1 = .ok (.existingPending change) →
      result.2.pending = some change
  waits : ∀ act change, feed.window.pending = some change →
    (feedStep encoding owner feed act).window.pending = some change ∨
      (feedStep encoding owner feed act).committed = feed.committed ++ [change]
  commits : ∀ change receipt, feed.window.pending = some change → receipt.id = change.eventId →
    receipt.generation ≠ 0 →
    ((feed.window.commitEnqueued encoding owner receipt).1 = .ok true ↔
      encoding.windowBytes (feed.window.enqueued change) ≤ maxObserverWindowBytes)
  retained : feed.window.history =
    feed.committed.drop (feed.committed.length - maxObserverChangeHistory)
  reads : ∀ sequence ≤ feed.committed.length, ∃ page,
    feed.window.changesAfter encoding epoch sequence = .ok page ∧
      page.changes = feed.window.history.filter (fun change => sequence < change.sequence) ∧
      (page.gap = true ↔
        ∃ change ∈ feed.committed, sequence < change.sequence ∧ change ∉ feed.window.history)

section
variable (tracked : Tracked encoding owner epoch feed)
include tracked

theorem tracked_sequence (held : feed.committed[i]? = some change) :
    change.sequence = i + 1 := by
  have place := congrArg (fun numbers => numbers[i]?) tracked.sequences
  have within := (List.getElem?_eq_some_iff.1 held).1
  simp only [List.getElem?_map, held, map_some, List.getElem?_range' within,
    some.injEq] at place
  omega

theorem evicted_iff (member : change ∈ feed.committed) :
    change ∉ feed.window.history ↔
      change.sequence ≤ feed.committed.length - maxObserverChangeHistory := by
  obtain ⟨i, held⟩ := mem_iff_getElem?.1 member
  have numbered := tracked_sequence tracked held
  rw [tracked.retained, mem_iff_getElem?]
  constructor
  · intro absent
    by_contra late
    refine absent ⟨i - (feed.committed.length - maxObserverChangeHistory), ?_⟩
    rw [List.getElem?_drop, ← held]
    congr 1
    omega
  · intro early ⟨j, found⟩
    rw [List.getElem?_drop] at found
    have again := tracked_sequence tracked found
    omega

theorem oldest_retained :
    (feed.window.history.head?.map ObserverViewChange.sequence).getD 1 =
      feed.committed.length - maxObserverChangeHistory + 1 := by
  rw [tracked.retained, List.head?_drop]
  cases held : feed.committed[feed.committed.length - maxObserverChangeHistory]? with
  | none =>
    have short := List.getElem?_eq_none_iff.1 held
    unfold maxObserverChangeHistory at short
    rw [map_none, getD_none]
    omega
  | some change =>
    rw [map_some, getD_some, tracked_sequence tracked held]

theorem tracked_reads {sequence : Nat} (within : sequence ≤ feed.committed.length) : ∃ page,
      feed.window.changesAfter encoding epoch sequence = .ok page ∧
        page.changes = feed.window.history.filter (fun change => sequence < change.sequence) ∧
        (page.gap = true ↔
          ∃ change ∈ feed.committed, sequence < change.sequence ∧ change ∉ feed.window.history) := by
  have valid := validate_eq_ok.2 tracked.owned.valid
  refine ⟨_, check_bind_eq_ok.2 ⟨valid, check_bind_eq_ok.2 ⟨refuse_eq_ok.2
    (not_not.2 tracked.scope.symm), check_bind_eq_ok.2 ⟨refuse_eq_ok.2 ?_, rfl⟩⟩⟩, rfl, ?_⟩
  · rw [tracked.count]
    exact not_lt.2 within
  · have room := tracked.room
    rw [decide_eq_true_eq, oldest_retained tracked, min_lt_iff]
    have bounded : feed.committed.length - maxObserverChangeHistory + 1 ≤ u64Max := by
      unfold maxObserverChangeHistory u64Max at *
      omega
    constructor
    · intro gap
      obtain ⟨change, held⟩ : ∃ change, feed.committed[sequence]? = some change :=
        ⟨_, List.getElem?_eq_getElem (by omega)⟩
      have member := mem_of_getElem? held
      have numbered := tracked_sequence tracked held
      exact ⟨change, member, by omega, (evicted_iff tracked member).2 (by omega)⟩
    · intro ⟨change, member, above, evicted⟩
      have early := (evicted_iff tracked member).1 evicted
      exact .inl (by omega)

theorem tracked_commits (held : feed.window.pending = some change)
    (same : receipt.id = change.eventId) (delivered : receipt.generation ≠ 0) :
    (feed.window.commitEnqueued encoding owner receipt).1 = .ok true ↔
      encoding.windowBytes (feed.window.enqueued change) ≤ maxObserverWindowBytes := by
  constructor
  · intro succeeded
    rcases commit_cases encoding owner feed.window receipt with
      ⟨_, failed⟩ | ⟨other, found, _, _, owned⟩
    · exact absurd succeeded failed
    · rw [held, some.injEq] at found
      exact found ▸ owned.valid.bytes
  · intro fits
    have owned := validateForOwner_eq_ok.2
      (enqueued_owned tracked.owned held tracked.followed fits)
    unfold ObserverSubscriptionWindow.commitEnqueued
    rw [validateForOwner_eq_ok.2 tracked.owned]
    rw [if_neg delivered, held]
    dsimp only
    rw [if_neg (not_not.2 same.symm), owned]

theorem tracked_honest : Honest encoding owner epoch feed where
  valid := validateForOwner_eq_ok.2 tracked.owned
  refused act error failed := by
    have moves := @feedStep_moves encoding owner feed act
    generalize feedStep encoding owner feed act = after at moves
    cases moves with
    | same => rfl
    | staged change succeeded => exact absurd (succeeded.symm.trans failed) nofun
    | committed change succeeded => exact absurd (succeeded.symm.trans failed) nofun
  sequences := tracked.sequences
  receipts act := by
    have moves := @feedStep_moves encoding owner feed act
    generalize feedStep encoding owner feed act = after at moves
    cases moves with
    | same => exact .inl rfl
    | staged change succeeded none owned => exact .inl rfl
    | committed change succeeded held same owned => exact .inr ⟨_, change, rfl, held, same, rfl⟩
  stages view rootOutcome change := by
    intro result succeeded
    rcases stage_cases encoding owner feed.window view rootOutcome with
      ⟨same, held⟩ | ⟨staged, shape, _⟩
    · rw [show result.2 = feed.window from same]
      exact held change succeeded
    · have same : result = _ := shape
      rw [same] at succeeded ⊢
      rcases succeeded with here | other
      · cases here
        rfl
      · cases other
  waits act change held := by
    have moves := @feedStep_moves encoding owner feed act
    generalize feedStep encoding owner feed act = after at moves
    cases moves with
    | same => exact .inl held
    | staged other succeeded none owned => exact absurd (held.symm.trans none) nofun
    | committed other succeeded found same owned =>
      rw [held, some.injEq] at found
      exact .inr (found ▸ rfl)
  commits change receipt held same delivered := tracked_commits tracked held same delivered
  retained := tracked.retained
  reads sequence within := tracked_reads tracked within

end

/-- Any calls with any arguments on a window that started empty, in every state they reach. -/
theorem observer_feed_honest {epoch : Nat} {start : ObserverSubscriptionWindow}
    (made : ObserverSubscriptionWindow.new encoding epoch = .ok start)
    (accepted : start.validateForOwner encoding owner = .ok ()) (acts : List FeedAct) :
    Honest encoding owner epoch (run (feedStep encoding owner) ⟨start, []⟩ acts) := by
  have fresh : Tracked encoding owner epoch ⟨start, []⟩ := by
    have owned := validateForOwner_eq_ok.1 accepted
    obtain ⟨_, same⟩ := check_bind_eq_ok.1 made
    cases same
    exact ⟨owned, fun key held => (by cases held), rfl, rfl, Nat.zero_le _, rfl, rfl⟩
  exact tracked_honest (run_keeps (fun feed act tracked =>
    tracked_moves tracked (feedStep_moves feed act)) acts fresh)

def sampleChangeBytes (change : ObserverViewChange) : Nat :=
  374 + change.targetSessionId.utf8ByteSize

/-- Lengths and a digest as they are for one short change. -/
def sampleEncoding : Encoding where
  changeBytes := sampleChangeBytes
  windowBytes window :=
    102 + (window.pending.map sampleChangeBytes).getD 4 +
      (window.enqueuedFingerprints.keys.map fun key => 69 + key.utf8ByteSize).sum +
      (window.history.map sampleChangeBytes).sum
  reload window := window
  identityDigest _ _ := "a6831adc0875274dd55c9467c4cf2750367296808eecbf640f6b483b6086f4eb"
  reload_same _ := rfl

def sampleOwner : ObserverSubscriptionOwner :=
  { supervisorIncarnation := 1, supervisorCreatedAt := 1767225600, observerSessionId := "observer",
    observerCreatedAt := 1767225600 }

def sampleView : ObserverSubscriptionWindow.View :=
  { target := "child", viewRevision := String.ofList (List.replicate 64 'a'),
    sourceFingerprint := String.ofList (List.replicate 64 'b'), observedKinds := {.status},
    observedAt := 1767225600 }

def sampleWindow : ObserverSubscriptionWindow :=
  { version := 1, scopeEpoch := 1, enqueuedSequence := 0, enqueuedFingerprints := SortedMap.empty,
    rootOutcomeCursors := SortedMap.empty, pending := none, history := [] }

def sampleReceipt (generation : Nat) : SessionInboxReceipt :=
  { id := "stable-a6831adc0875274dd55c9467c4cf2750367296808eecbf640f6b483b6086f4eb", generation }

theorem observer_feed_honest_sample :
    let feed := run (feedStep sampleEncoding sampleOwner) ⟨sampleWindow, []⟩
      [.stage sampleView, .reload, .commitEnqueued (sampleReceipt 1)]
    Honest sampleEncoding sampleOwner 1 feed ∧ feed.committed.length = 1 :=
  ⟨@observer_feed_honest sampleEncoding sampleOwner 1 sampleWindow rfl rfl _, by decide +kernel⟩

/-- No window passes for an owner without an incarnation, and a receipt without a delivery
    generation does not commit the change it names. -/
theorem window_refuses_nil_owner :
    ObserverSubscriptionWindow.new sampleEncoding 1 = .ok sampleWindow ∧
      sampleWindow.validateForOwner sampleEncoding { sampleOwner with supervisorIncarnation := 0 } =
        .error "invalid Observer owner incarnation" ∧
      let staged := sampleWindow.stage sampleEncoding sampleOwner sampleView
      staged.2.pending.map ObserverViewChange.eventId = some (sampleReceipt 0).id ∧
      (staged.2.commitEnqueued sampleEncoding sampleOwner (sampleReceipt 0)).1 =
        .error "Observer receipt lacks a delivery generation" := by
  refine ⟨rfl, rfl, ?_⟩
  decide +kernel

end Observers
