import BambooAgent.Workflows.Committing
import BambooAgent.Library.Interleavings

/- Histories of one run's journal, in which any call of any operation may fail or be the last of
   its process. -/
namespace Workflows
open SortedMaps Faults Checks Interleavings List
open Actors (u64Max)
open Crashes (Stop)

variable {β γ α : Type}

inductive Request (β γ : Type) where
  | create (snapshot : WorkflowRunSnapshot β) (event : WorkflowRunEvent γ)
  | commit (snapshot : WorkflowRunSnapshot β) (event : WorkflowRunEvent γ)
  | load
  | eventsSince (sequence : Nat)

/-- A request, and what becomes of the calls that it makes. -/
structure Attempt (β γ : Type) where
  request : Request β γ
  calls : Schedule ErrorKind

/-- The files, the commits that were asked for and those that were acknowledged. -/
structure Chronicle (β γ : Type) where
  run : Run β γ
  submitted : List (Entry β γ)
  accepted : List (Entry β γ)

def Chronicle.start : Chronicle β γ := { run := none, submitted := [], accepted := [] }

def succeeded : Except (Stop ErrorKind) α → Bool
  | .ok _ => true
  | .error _ => false

def Chronicle.writing (c : Chronicle β γ) (entry : Entry β γ) (m : Filing β γ Unit) :
    Chronicle β γ :=
  let ended := m ⟨c.run, 0⟩
  { run := ended.2.state, submitted := c.submitted ++ [entry],
    accepted := if succeeded ended.1 then c.accepted ++ [entry] else c.accepted }

def Chronicle.reading (c : Chronicle β γ) (m : Filing β γ α) : Chronicle β γ :=
  { c with run := (m ⟨c.run, 0⟩).2.state }

section Histories
variable [DecidableEq β]

def perform (runId : String) (c : Chronicle β γ) (attempt : Attempt β γ) : Chronicle β γ :=
  match attempt.request with
  | .create snapshot event => c.writing (snapshot, event) (create attempt.calls snapshot event)
  | .commit snapshot event => c.writing (snapshot, event) (commit attempt.calls snapshot event)
  | .load => c.reading (load attempt.calls runId)
  | .eventsSince sequence => c.reading (eventsSince attempt.calls runId sequence)

/-- A run is created with its first event, and no sequence number is the last of all. -/
def Attempt.Proper (runId : String) (attempt : Attempt β γ) : Prop :=
  match attempt.request with
  | .create snapshot event => snapshot.runId = runId ∧ event.sequence = 1
  | .commit snapshot event => snapshot.runId = runId ∧ event.sequence < u64Max
  | .load | .eventsSince _ => True

end Histories

/- What a history is to keep. -/

/-- The events of the journal, as an undisturbed listing returns them. -/
structure Lists (runId : String) (run : Run β γ) (events : List (WorkflowRunEvent γ)) : Prop where
  all : (eventsSince healthy runId 0 ⟨run, 0⟩).1 = .ok events
  since : ∀ sequence, (eventsSince healthy runId sequence ⟨run, 0⟩).1 =
    .ok (events.filter (fun event => decide (sequence < event.sequence)))

/-- A load that is not disturbed returns this, and none returns anything else. -/
def Loads (runId : String) (run : Run β γ) (current : Option (WorkflowRunSnapshot β)) : Prop :=
  ∀ calls, match (load calls runId ⟨run, 0⟩).1 with
    | .ok found => found = current
    | .error _ => Disturbed calls

structure Tells (c : Chronicle β γ) (current : Option (WorkflowRunSnapshot β))
    (events : List (WorkflowRunEvent γ)) : Prop where
  contiguous : events.map WorkflowRunEvent.sequence =
    List.range' 1 (current.elim 0 WorkflowRunSnapshot.lastSequence)
  durable : ∀ snapshot ∈ current, ∃ event, events.getLast? = some event ∧
    (snapshot, event) ∈ c.submitted
  kept : ∀ entry ∈ c.accepted, ∃ snapshot ∈ current,
    entry.1.lastSequence ≤ snapshot.lastSequence ∧
      (entry.1.lastSequence = snapshot.lastSequence → snapshot = entry.1)
  recorded : ∀ entry ∈ c.accepted, ∃ event ∈ events, event.sequence = entry.1.lastSequence ∧
    (entry.1, event) ∈ c.submitted

structure Atomic (runId : String) (c : Chronicle β γ) : Prop where
  told : ∃ current events, Loads runId c.run current ∧ Lists runId c.run events ∧
    Tells c current events
  unique : ∀ a ∈ c.accepted, ∀ b ∈ c.accepted, a.1.lastSequence = b.1.lastSequence → a.1 = b.1

/-- What was read stays, and a terminal snapshot is the last. -/
structure Lasting (runId : String) (c later : Chronicle β γ) : Prop where
  terminal : ∀ snapshot : WorkflowRunSnapshot β, snapshot.status.isTerminal = true →
    Loads runId c.run (some snapshot) → Loads runId later.run (some snapshot)
  growing : ∀ events events', Lists runId c.run events → Lists runId later.run events' →
    events <+: events'

/- The chain along a history. -/

structure Holds (runId : String) (chain : List (Entry β γ)) (c : Chronicle β γ) : Prop where
  reads : Reads runId chain c.run
  asked : ∀ entry ∈ chain, entry ∈ c.submitted
  taken : ∀ entry ∈ c.accepted, ∃ other ∈ chain, other.1 = entry.1

structure Grows (chain later : List (Entry β γ)) : Prop where
  prefixed : chain <+: later
  closed : Closed chain → later = chain

theorem grows_refl (chain : List (Entry β γ)) : Grows chain chain :=
  ⟨prefix_rfl, fun _ => rfl⟩

theorem grows_trans (one : Grows first second)
    (two : Grows second third) : Grows first third where
  prefixed := one.prefixed.trans two.prefixed
  closed := by
    intro closed
    have same := one.closed closed
    rw [← same] at closed
    rw [two.closed closed, same]

variable {entry : Entry β γ}

theorem grows_of_extends (grown : Extends entry chain later) : Grows chain later := by
  rcases grown with rfl | ⟨open_, rfl⟩
  · exact grows_refl _
  · exact ⟨prefix_append _ _, fun closed => absurd closed open_⟩

theorem asked_of_extends {c : Chronicle β γ} (grown : Extends entry chain later)
    (asked : ∀ entry ∈ chain, entry ∈ c.submitted) :
    ∀ other ∈ later, other ∈ c.submitted ++ [entry] := by
  intro other member
  rcases grown with rfl | ⟨_, rfl⟩
  · exact mem_append_left _ (asked other member)
  · rcases mem_append.1 member with before | now_
    · exact mem_append_left _ (asked other before)
    · exact mem_append_right _ now_

theorem taken_of_extends (grown : Extends entry chain later)
    (taken : ∃ other ∈ chain, other.1 = snapshot) : ∃ other ∈ later, other.1 = snapshot := by
  obtain ⟨other, member, same⟩ := taken
  exact ⟨other, (grows_of_extends grown).prefixed.subset member, same⟩

theorem writing_holds {m : Filing β γ Unit} (holds : Holds runId chain c)
    (spec : Triple (Reads runId chain) m (fun _ => Taken runId entry chain)
      (Short (Extended runId entry chain)) (Extended runId entry chain)) :
    ∃ later, Grows chain later ∧ Holds runId later (c.writing entry m) := by
  have ended := spec ⟨c.run, 0⟩ holds.reads
  unfold Chronicle.writing
  cases ran : m ⟨c.run, 0⟩ with
  | mk result disk =>
    rw [ran] at ended
    cases result with
    | ok _ =>
      obtain ⟨later, grown, reads, taken⟩ := ended
      refine ⟨later, grows_of_extends grown, reads, asked_of_extends grown holds.asked, ?_⟩
      intro other member
      rcases mem_append.1 member with before | now_
      · exact taken_of_extends grown (holds.taken other before)
      · cases mem_singleton.1 now_
        exact taken
    | error stop =>
      have extended : Extended runId entry chain disk.state := by
        cases stop with
        | failed error => exact ended
        | died => exact ended
      obtain ⟨later, grown, reads⟩ := extended
      exact ⟨later, grows_of_extends grown, reads, asked_of_extends grown holds.asked,
        fun other member => taken_of_extends grown (holds.taken other member)⟩

theorem reading_holds {m : Filing β γ α} (holds : Holds runId chain c)
    (spec : Triple (Reads runId chain) m (fun _ => Reads runId chain)
      (Short (Reads runId chain)) (Reads runId chain)) : Holds runId chain (c.reading m) := by
  have ended := spec ⟨c.run, 0⟩ holds.reads
  refine ⟨?_, holds.asked, holds.taken⟩
  unfold Chronicle.reading
  cases ran : m ⟨c.run, 0⟩ with
  | mk result disk =>
    rw [ran] at ended
    cases result with
    | ok _ => exact ended
    | error stop =>
      cases stop with
      | failed error => exact ended
      | died => exact ended

theorem start_holds (runId : String) : Holds runId ([] : List (Entry β γ)) .start where
  reads := ⟨chain_nil runId, .inl rfl⟩
  asked := fun _ member => nomatch member
  taken := fun _ member => nomatch member

section Histories
variable [DecidableEq β]

theorem perform_holds (valid : validateId runId = .ok ()) (holds : Holds runId chain c)
    {attempt : Attempt β γ} (proper : attempt.Proper runId) :
    ∃ later, Grows chain later ∧ Holds runId later (perform runId c attempt) := by
  have linked := holds.reads.linked
  obtain ⟨request, calls⟩ := attempt
  cases request with
  | create snapshot event => exact writing_holds holds (create_spec valid proper.1 proper.2)
  | commit snapshot event => exact writing_holds holds (commit_spec valid proper.1 proper.2 linked)
  | load =>
    refine ⟨chain, grows_refl chain, reading_holds holds ?_⟩
    exact triple_weaken (recover_spec valid linked) (fun _ reads => reads)
      (fun _ _ known => reads_ready linked known.2) (fun _ _ short => short.1)
      (fun _ short => short.1)
  | eventsSince sequence =>
    refine ⟨chain, grows_refl chain, reading_holds holds ?_⟩
    exact triple_weaken (eventsSince_spec (D := Reads runId chain) (X := Short (Reads runId chain))
      valid linked (fun _ reads => reads_lines reads) (fun _ _ _ reads => reads)
      (fun _ _ reads => reads) sequence) (fun _ reads => reads) (fun _ _ known => known.2)
      (fun _ _ reads => reads) (fun _ reads => reads)

theorem run_holds (valid : validateId runId = .ok ()) : ∀ {attempts : List (Attempt β γ)}
    {chain : List (Entry β γ)} {c : Chronicle β γ}, Holds runId chain c →
    (∀ attempt ∈ attempts, attempt.Proper runId) →
    ∃ later, Grows chain later ∧ Holds runId later (run (perform runId) c attempts) := by
  intro attempts
  induction attempts with
  | nil => exact fun holds _ => ⟨_, grows_refl _, holds⟩
  | cons attempt rest ih =>
    intro chain c holds proper
    obtain ⟨middle, first, held⟩ := perform_holds valid holds (proper attempt mem_cons_self)
    obtain ⟨later, second, last⟩ := ih held (fun other member => proper other (.tail _ member))
    exact ⟨later, grows_trans first second, last⟩

end Histories

/- What a chain says of loads and listings. -/

section Reading
variable {chain : List (Entry β γ)}

theorem loads_of_reads (valid : validateId runId = .ok ()) (reads : Reads runId chain files) :
    Loads runId files (lastSnapshot chain) := by
  intro calls
  have spec : Triple _ (recoverSnapshot calls runId) _ _ _ := recover_spec valid reads.linked
  have ended := spec ⟨files, 0⟩ reads
  unfold load
  cases ran : recoverSnapshot calls runId ⟨files, 0⟩ with
  | mk result disk =>
    rw [ran] at ended
    cases result with
    | ok found => exact ended.1
    | error stop =>
      cases stop with
      | failed error => exact ended.2
      | died => exact ended.2

theorem loads_same {files : Run β γ} (first : Loads runId files a) (second : Loads runId files b) :
    a = b := by
  have one := first healthy
  have two := second healthy
  cases ran : (load healthy runId ⟨files, 0⟩).1 with
  | ok found =>
    rw [ran] at one two
    exact one.symm.trans two
  | error stop =>
    rw [ran] at one
    exact absurd one healthy_undisturbed

theorem listing_of_reads (valid : validateId runId = .ok ()) (reads : Reads runId chain files)
    (sequence : Nat) :
    (eventsSince healthy runId sequence ⟨files, 0⟩).1 =
      .ok ((chain.map Prod.snd).filter (fun event => decide (sequence < event.sequence))) := by
  have ended := eventsSince_spec (D := fun _ => Disturbed (healthy : Schedule ErrorKind))
    (X := fun _ _ => Disturbed (healthy : Schedule ErrorKind)) (P := Reads runId chain) valid
    reads.linked (fun _ reads => reads_lines reads) (fun _ _ disturbed _ => disturbed)
    (fun _ disturbed _ => disturbed) sequence ⟨files, 0⟩ reads
  cases ran : eventsSince healthy runId sequence ⟨files, 0⟩ with
  | mk result disk =>
    rw [ran] at ended
    cases result with
    | ok found => exact congrArg Except.ok ended.1
    | error stop =>
      cases stop with
      | failed error => exact absurd ended healthy_undisturbed
      | died => exact absurd ended healthy_undisturbed

theorem lists_of_reads (valid : validateId runId = .ok ()) (reads : Reads runId chain files) :
    Lists runId files (chain.map Prod.snd) where
  all := by
    rw [listing_of_reads valid reads 0, filter_chain reads.linked]
  since := listing_of_reads valid reads

theorem lists_same {files : Run β γ} (first : Lists runId files a) (second : Lists runId files b) :
    a = b :=
  Except.ok.inj (first.all.symm.trans second.all)

theorem tells_of_holds (holds : Holds runId chain c) :
    Tells c (lastSnapshot chain) (chain.map Prod.snd) := by
  have linked := holds.reads.linked
  have counted := (last_numbered linked).2
  have place : ∀ entry ∈ chain, entry.1.lastSequence ≤ chain.length := by
    intro entry member
    have numbered : entry.2.sequence ∈ List.range' 1 chain.length := by
      rw [← linked.numbered]
      exact mem_map.2 ⟨entry, member, rfl⟩
    have upper := (mem_range'_1.1 numbered).2
    rw [(linked.paired entry member).2.2]
    omega
  refine ⟨?_, ?_, ?_, ?_⟩
  · rw [counted, map_map]
    exact linked.numbered
  · intro snapshot last
    obtain ⟨entry, found, rfl⟩ := Option.map_eq_some_iff.1 last
    refine ⟨entry.2, ?_, holds.asked entry (mem_of_mem_getLast? found)⟩
    rw [List.getLast?_map, found]
    rfl
  · intro entry accepted
    obtain ⟨other, member, same⟩ := holds.taken entry accepted
    rcases eq_nil_or_concat' chain with rfl | ⟨before, last, rfl⟩
    · cases member
    · rw [lastSnapshot_concat] at counted ⊢
      change last.1.lastSequence = (before ++ [last]).length at counted
      refine ⟨last.1, rfl, ?_, ?_⟩
      · rw [counted, ← same]
        exact place other member
      · intro equal
        rw [← same]
        rcases mem_append.1 member with earlier | now_
        · have inside : other.2.sequence ∈ List.range' 1 before.length := by
            rw [← (chain_init linked).1.numbered]
            exact mem_map.2 ⟨other, earlier, rfl⟩
          have upper := (mem_range'_1.1 inside).2
          rw [← same, (linked.paired other member).2.2, counted, length_append,
            length_singleton] at equal
          omega
        · rw [mem_singleton.1 now_]
  · intro entry accepted
    obtain ⟨other, member, same⟩ := holds.taken entry accepted
    refine ⟨other.2, mem_map.2 ⟨other, member, rfl⟩, ?_, ?_⟩
    · rw [← same, (linked.paired other member).2.2]
    · rw [← same]
      exact holds.asked other member

theorem chain_unique (linked : Chain runId chain) (first : a ∈ chain) (second : b ∈ chain)
    (same : a.2.sequence = b.2.sequence) : a = b := by
  have distinct : (chain.map (fun entry => entry.2.sequence)).Nodup := by
    rw [linked.numbered]
    exact nodup_range'
  exact inj_on_of_nodup_map distinct first second same

theorem atomic_of_holds (valid : validateId runId = .ok ()) (holds : Holds runId chain c) :
    Atomic runId c where
  told := ⟨_, _, loads_of_reads valid holds.reads, lists_of_reads valid holds.reads,
    tells_of_holds holds⟩
  unique := by
    intro a acceptedA b acceptedB same
    have linked := holds.reads.linked
    obtain ⟨other, memberA, sameA⟩ := holds.taken a acceptedA
    obtain ⟨another, memberB, sameB⟩ := holds.taken b acceptedB
    have equal : other = another := by
      refine chain_unique linked memberA memberB ?_
      rw [← (linked.paired other memberA).2.2, ← (linked.paired another memberB).2.2, sameA, sameB]
      exact same
    rw [← sameA, ← sameB, equal]

theorem lasting_of_grows (valid : validateId runId = .ok ()) (holds : Holds runId chain c)
    (held : Holds runId later c') (grown : Grows chain later) : Lasting runId c c' where
  terminal := by
    intro snapshot terminal loaded
    have last := loads_same loaded (loads_of_reads valid holds.reads)
    rw [last, ← grown.closed ⟨snapshot, last.symm, terminal⟩]
    exact loads_of_reads valid held.reads
  growing := by
    intro events events' listed listed'
    rw [lists_same listed (lists_of_reads valid holds.reads),
      lists_same listed' (lists_of_reads valid held.reads)]
    exact grown.prefixed.map Prod.snd

end Reading

theorem journal_crash_atomic [DecidableEq β] (runId : String) (valid : validateId runId = .ok ())
    (attempts later : List (Attempt β γ))
    (proper : ∀ attempt ∈ attempts ++ later, attempt.Proper runId) :
    Atomic runId (run (perform runId) .start attempts) ∧
      Lasting runId (run (perform runId) .start attempts)
        (run (perform runId) .start (attempts ++ later)) := by
  obtain ⟨chain, _, holds⟩ := run_holds valid (start_holds runId)
    (fun attempt member => proper attempt (List.mem_append_left later member))
  obtain ⟨longer, grown, held⟩ := run_holds valid holds
    (fun attempt member => proper attempt (List.mem_append_right attempts member))
  have whole : run (perform runId) (run (perform runId) .start attempts) later =
      run (perform runId) .start (attempts ++ later) := by
    unfold run
    rw [List.foldl_append]
  rw [whole] at held
  exact ⟨atomic_of_holds valid holds, lasting_of_grows valid holds held grown⟩

def sampleSnapshot (sequence rest : Nat) : WorkflowRunSnapshot Nat :=
  { runId := "r", status := .running, lastSequence := sequence, rest := rest }

def sampleEvent (sequence rest : Nat) : WorkflowRunEvent Nat :=
  { runId := "r", sequence := sequence, rest := rest }

/-- A creation is broken off between its record and the replacement of the snapshot. -/
def brokenOff : Schedule ErrorKind := fun time => if time = 8 then .stops 0 else .proceeds

def sampleAttempts : List (Attempt Nat Nat) :=
  [⟨.create (sampleSnapshot 1 10) (sampleEvent 1 20), brokenOff⟩,
    ⟨.create (sampleSnapshot 1 10) (sampleEvent 1 20), healthy⟩,
    ⟨.commit (sampleSnapshot 2 11) (sampleEvent 2 21), brokenOff⟩]

theorem sample_crash_atomic :
    (run (perform "r") .start sampleAttempts).accepted.length = 1 ∧
      (run (perform "r") .start sampleAttempts).submitted.length = 3 ∧
      Atomic "r" (run (perform "r") .start sampleAttempts) ∧
      Lasting "r" (run (perform "r") .start sampleAttempts)
        (run (perform "r") .start (sampleAttempts ++ [⟨.load, healthy⟩])) := by
  refine ⟨by decide +kernel, by decide +kernel, ?_⟩
  refine journal_crash_atomic "r" (by decide +kernel) sampleAttempts [⟨.load, healthy⟩] ?_
  intro attempt member
  simp only [sampleAttempts, List.cons_append, List.nil_append, List.mem_cons, List.not_mem_nil,
    or_false] at member
  rcases member with rfl | rfl | rfl | rfl
  · exact ⟨rfl, rfl⟩
  · exact ⟨rfl, rfl⟩
  · exact ⟨rfl, by decide⟩
  · trivial

def startedLate : List (Attempt Nat Nat) :=
  [⟨.create (sampleSnapshot 2 10) (sampleEvent 2 20), healthy⟩]

def repeatedDifferently : List (Attempt Nat Nat) :=
  [⟨.create (sampleSnapshot 1 10) (sampleEvent 1 20), healthy⟩,
    ⟨.commit (sampleSnapshot 1 10) (sampleEvent 1 99), healthy⟩]

/-- A run that starts with another number cannot be loaded, and what repeats a commit is accepted
    with any event. -/
theorem late_start_diverges :
    (run (perform "r") .start startedLate).accepted =
        [(sampleSnapshot 2 10, sampleEvent 2 20)] ∧
      (load healthy "r" ⟨(run (perform "r") .start startedLate).run, 0⟩).1 =
        .error (.failed .invalidData) ∧
      (run (perform "r") .start repeatedDifferently).accepted =
        [(sampleSnapshot 1 10, sampleEvent 1 20), (sampleSnapshot 1 10, sampleEvent 1 99)] := by
  refine ⟨by decide +kernel, ?_, by decide +kernel⟩
  rfl

end Workflows
