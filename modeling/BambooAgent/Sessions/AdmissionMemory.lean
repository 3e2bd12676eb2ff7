import BambooAgent.Sessions.Session
import BambooAgent.Library.Windows

/- The admission cursor of a session as a memory of what has been recorded in it and in the
   states merged into it. -/
namespace Sessions
open List hiding count
open Windows

/-- The runs of `record` and `merge_from`, with all that was recorded on the way. -/
inductive AdmissionHistory
    (allowed : InboxAdmissionState → AdmittedSessionMessage → Prop) :
    InboxAdmissionState → List AdmittedSessionMessage → Prop
  | start : AdmissionHistory allowed .default []
  | record {state past entry} : AdmissionHistory allowed state past → allowed state entry →
      AdmissionHistory allowed (state.record entry) (past ++ [entry])
  | merge {state past other others} : AdmissionHistory allowed state past →
      AdmissionHistory allowed other others → (∀ entry ∈ other.admitted, allowed state entry) →
      AdmissionHistory allowed (state.mergeFrom other) (past ++ others)

/-- An entry is retained already, or later than all that are. -/
def Follows (state : InboxAdmissionState) (entry : AdmittedSessionMessage) : Prop :=
  entry ∈ state.admitted ∨ ∀ held ∈ state.admitted, held.sequence < entry.sequence

def OneSequence (past : List AdmittedSessionMessage) : Prop :=
  ∀ first ∈ past, ∀ second ∈ past, first.id = second.id ↔ first.sequence = second.sequence

def newestSequence (past : List AdmittedSessionMessage) : Nat :=
  (past.map AdmittedSessionMessage.sequence).foldr max 0

def laterSequences (past : List AdmittedSessionMessage) (sequence : Nat) : Finset Nat :=
  (past.map AdmittedSessionMessage.sequence).toFinset.filter (sequence < ·)

structure Remembers (state : InboxAdmissionState) (past : List AdmittedSessionMessage) : Prop where
  newest : Newest AdmittedSessionMessage.sequence inboxAdmittedCapacity past state.admitted
  admitted : state.lastAdmittedSequence = newestSequence past
  observed : state.lastObservedSequence = newestSequence past

variable {state other : InboxAdmissionState}

theorem newestSequence_append :
    newestSequence (past ++ others) = max (newestSequence past) (newestSequence others) := by
  induction past with
  | nil => simp [newestSequence]
  | cons first rest step =>
    simp only [newestSequence, map_cons, cons_append, foldr_cons] at step ⊢
    rw [step, max_assoc]

theorem newestSequence_le (within : entries ⊆ others) :
    newestSequence entries ≤ newestSequence others := by
  induction entries with
  | nil => exact Nat.zero_le _
  | cons first rest step =>
    obtain ⟨before, after, rfl⟩ := append_of_mem (within (mem_cons_self ..))
    refine Nat.max_le.2 ⟨?_, step fun held member => within (mem_cons_of_mem _ member)⟩
    rw [newestSequence_append]
    exact (Nat.le_max_left ..).trans (Nat.le_max_right ..)

theorem contains_iff (id : String) :
    state.contains id = true ↔ ∃ held ∈ state.admitted, held.id = id := by
  simp [InboxAdmissionState.contains]

theorem record_sequences :
    (state.record entry).lastAdmittedSequence = max state.lastAdmittedSequence entry.sequence ∧
      (state.record entry).lastObservedSequence = max state.lastObservedSequence entry.sequence := by
  unfold InboxAdmissionState.record
  split <;> exact ⟨rfl, rfl⟩

theorem record_known (known : entry ∈ state.admitted) :
    (state.record entry).admitted = state.admitted := by
  unfold InboxAdmissionState.record
  rw [if_pos ((contains_iff _).2 ⟨entry, known, rfl⟩)]

theorem record_fresh (fresh : ∀ held ∈ state.admitted, held.id ≠ entry.id) :
    (state.record entry).admitted = (state.admitted ++ [entry]).drop
      (state.admitted.length + 1 - inboxAdmittedCapacity) := by
  unfold InboxAdmissionState.record
  rw [if_neg (by rw [contains_iff]; push Not; exact fresh)]
  simp

theorem merge_admitted : (state.mergeFrom other).admitted =
    (other.admitted.foldl InboxAdmissionState.record state).admitted := rfl

theorem records_remember (remembers : Remembers state past)
    (ordered : entries.Pairwise (fun a b => a.sequence < b.sequence))
    (follows : ∀ entry ∈ entries, Follows state entry) (one : OneSequence (past ++ entries)) :
    Remembers (entries.foldl InboxAdmissionState.record state) (past ++ entries) := by
  induction entries generalizing state past with
  | nil => simpa using remembers
  | cons first rest step =>
    obtain ⟨before, ordered⟩ := pairwise_cons.1 ordered
    have last : newestSequence (past ++ [first]) = max (newestSequence past) first.sequence := by
      simp [newestSequence_append, show newestSequence [first] = first.sequence from Nat.max_zero _]
    have sequences := @record_sequences state first
    rw [append_cons] at one ⊢
    rcases follows first (mem_cons_self ..) with known | later
    · have same := record_known known
      refine step ⟨same ▸ newest_known remembers.newest known, ?_, ?_⟩ ordered ?_ one
      · rw [sequences.1, remembers.admitted, last]
      · rw [sequences.2, remembers.observed, last]
      · intro entry member
        unfold Follows
        rw [same]
        exact follows entry (mem_cons_of_mem _ member)
    · have fresh : ∀ held ∈ state.admitted, held.id ≠ first.id := by
        intro held member same
        have there := remembers.newest.within held member
        have equal := (one held (by simp [there]) first (by simp)).1 same
        exact absurd (later held member) (equal ▸ lt_irrefl _)
      have grown := record_fresh fresh
      refine step ⟨grown ▸ newest_push remembers.newest (by decide) later, ?_, ?_⟩ ordered ?_ one
      · rw [sequences.1, remembers.admitted, last]
      · rw [sequences.2, remembers.observed, last]
      · intro entry member
        refine .inr fun held there => ?_
        rw [grown] at there
        rcases mem_append.1 (mem_of_mem_drop there) with old | new
        · exact (later held old).trans (before entry member)
        · exact mem_singleton.1 new ▸ before entry member

theorem merge_remembers (remembers : Remembers state past) (theirs : Remembers other others)
    (follows : ∀ entry ∈ other.admitted, Follows state entry) (one : OneSequence (past ++ others)) :
    Remembers (state.mergeFrom other) (past ++ others) := by
  have within : past ++ other.admitted ⊆ past ++ others :=
    append_subset.2 ⟨subset_append_left .., fun held member =>
      mem_append_right _ (theirs.newest.within held member)⟩
  have recorded := records_remember remembers theirs.newest.ordered follows
    fun first member second member' => one first (within member) second (within member')
  have newest : max (newestSequence (past ++ other.admitted)) (newestSequence others) =
      newestSequence (past ++ others) := by
    rw [newestSequence_append, newestSequence_append, max_assoc,
      max_eq_right (newestSequence_le theirs.newest.within)]
  refine ⟨newest_merge recorded.newest theirs.newest, ?_, ?_⟩
  · rw [← newest, ← recorded.admitted, ← theirs.admitted]
    rfl
  · rw [← newest, ← recorded.observed, ← theirs.observed]
    rfl

theorem history_remembers (history : AdmissionHistory Follows state past)
    (one : OneSequence past) : Remembers state past := by
  induction history with
  | start => exact ⟨⟨.nil, by simp [InboxAdmissionState.default], Nat.zero_le _, by simp⟩, rfl, rfl⟩
  | record history allowed step =>
    refine records_remember (step fun first member second member' => one first (by simp [member])
      second (by simp [member'])) (pairwise_singleton ..) ?_ one
    simpa using allowed
  | merge history other allowed step step' =>
    refine merge_remembers (step fun first member second member' => ?_)
      (step' fun first member second member' => ?_) allowed one
    · exact one first (mem_append_left _ member) second (mem_append_left _ member')
    · exact one first (mem_append_right _ member) second (mem_append_right _ member')

theorem merged_known (remembers : Remembers state past) (within : other.admitted ⊆ past)
    (follows : ∀ entry ∈ other.admitted, Follows state entry) :
    other.admitted ⊆ state.admitted := by
  intro entry member
  rcases follows entry member with known | later
  · exact known
  · refine (remembers.newest.forgotten entry (within member)).resolve_right ?_
    rintro ⟨full, earlier⟩
    obtain ⟨held, there⟩ := exists_mem_of_length_pos
      (show 0 < state.admitted.length by rw [full]; decide)
    exact lt_asymm (later held there) (earlier held there)

theorem records_known (known : entries ⊆ state.admitted) :
    (entries.foldl InboxAdmissionState.record state).admitted = state.admitted := by
  induction entries generalizing state with
  | nil => rfl
  | cons first rest step =>
    obtain ⟨member, known⟩ := cons_subset.1 known
    have same := record_known member
    rw [foldl_cons, step (same ▸ known), same]

def sampleAdmission : AdmittedSessionMessage := { id := "message", sequence := 1 }

def sampleMemory : InboxAdmissionState := InboxAdmissionState.default.record sampleAdmission

def note (number : Nat) : AdmittedSessionMessage :=
  { id := number.repr, sequence := number + 1 }

def admittedUpTo : Nat → InboxAdmissionState
  | 0 => .default
  | count + 1 => (admittedUpTo count).record (note count)

theorem admittedUpTo_succ (count : Nat) :
    admittedUpTo (count + 1) = (admittedUpTo count).record (note count) := rfl

theorem note_inj (same : (note first).id = (note second).id) : first = second := by
  have digits := congrArg String.toList same
  simp only [note, Nat.toList_repr] at digits
  rw [← @Nat.ofDigitChars_ten_toDigits first, digits, Nat.ofDigitChars_ten_toDigits]

theorem note_fresh (held : state.admitted = numbers.map note) (fresh : number ∉ numbers) :
    (state.record (note number)).admitted =
      ((numbers ++ [number]).drop (numbers.length + 1 - inboxAdmittedCapacity)).map note := by
  rw [record_fresh, held, length_map, map_drop, map_append, map_singleton]
  rw [held]
  intro entry member same
  obtain ⟨other, there, rfl⟩ := mem_map.1 member
  exact fresh (note_inj same ▸ there)

theorem admittedUpTo_admitted (few : count ≤ inboxAdmittedCapacity) :
    (admittedUpTo count).admitted = (List.range count).map note := by
  induction count with
  | zero => rfl
  | succ count step =>
    rw [admittedUpTo, note_fresh (step (Nat.le_of_succ_le few)) (by simp), length_range,
      Nat.sub_eq_zero_of_le few, drop_zero, range_succ]

theorem admittedUpTo_history (count : Nat) :
    AdmissionHistory (fun _ _ => True) (admittedUpTo count) ((List.range count).map note) := by
  induction count with
  | zero => exact .start
  | succ count step =>
    rw [range_succ, map_append]
    exact .record step trivial

theorem records_cascade {first count : Nat} {held : List Nat}
    (admitted : state.admitted = (List.range' (first + 1) count ++ held).map note)
    (full : count + held.length = inboxAdmittedCapacity) (earlier : ∀ k ∈ held, k < first) :
    (((List.range' first count).map note).foldl InboxAdmissionState.record state).admitted =
      (held ++ List.range' first count).map note := by
  induction count generalizing first held state with
  | zero => simpa using admitted
  | succ count step =>
    have fresh : first ∉ List.range' (first + 1) (count + 1) ++ held := by
      intro member
      rcases mem_append.1 member with later | before
      · exact absurd (mem_range'_1.1 later).1 (Nat.not_succ_le_self _)
      · exact absurd (earlier first before) (lt_irrefl _)
    have next := note_fresh admitted fresh
    rw [length_append, length_range', full, List.range'_succ, cons_append, cons_append, append_assoc] at next
    rw [List.range'_succ, map_cons, foldl_cons, step next]
    · simp
    · simp only [length_append, length_singleton]
      omega
    · intro k member
      rcases mem_append.1 member with old | new
      · exact Nat.lt_succ_of_lt (earlier k old)
      · exact Nat.lt_succ_of_le (le_of_eq (mem_singleton.1 new))

structure Bounded (state : InboxAdmissionState) (past : List AdmittedSessionMessage) : Prop where
  distinct : (state.admitted.map AdmittedSessionMessage.id).Nodup
  length : state.admitted.length ≤ inboxAdmittedCapacity
  recorded : state.admitted ⊆ past
  newest : state.lastAdmittedSequence = newestSequence past

theorem bounded_record (bounded : Bounded state past) :
    Bounded (state.record entry) (past ++ [entry]) := by
  have newest : (state.record entry).lastAdmittedSequence = newestSequence (past ++ [entry]) := by
    rw [record_sequences.1, bounded.newest, newestSequence_append]
    simp [newestSequence]
  have within := Subset.trans bounded.recorded (subset_append_left past [entry])
  by_cases known : state.contains entry.id
  · have same : (state.record entry).admitted = state.admitted := by
      simp [InboxAdmissionState.record, known]
    exact ⟨same ▸ bounded.distinct, same ▸ bounded.length, same ▸ within, newest⟩
  · have fresh : ∀ held ∈ state.admitted, held.id ≠ entry.id := by simpa [contains_iff] using known
    have grown := record_fresh fresh
    refine ⟨?_, ?_, ?_, newest⟩
    · rw [grown, map_drop, map_append]
      refine (bounded.distinct.append (nodup_singleton _) ?_).sublist (drop_sublist ..)
      simpa using fresh
    · simp [grown]
      omega
    · rw [grown]
      exact Subset.trans (drop_subset ..) (append_subset.2 ⟨within, subset_append_right ..⟩)

theorem bounded_records (bounded : Bounded state past) :
    Bounded (entries.foldl InboxAdmissionState.record state) (past ++ entries) := by
  induction entries generalizing state past with
  | nil => simpa using bounded
  | cons first rest step => simpa using step (bounded_record bounded)

/-- In any order of records and merges the retained ids are distinct, recorded and at most the
    capacity, and the highest sequence is known. -/
theorem admission_memory_bounded (history : AdmissionHistory allowed state past) :
    Bounded state past := by
  induction history with
  | start => exact ⟨.nil, Nat.zero_le _, by simp [InboxAdmissionState.default], rfl⟩
  | record _ _ step => exact bounded_record step
  | merge _ _ _ step step' =>
    obtain ⟨distinct, length, recorded, newest⟩ := bounded_records step
    refine ⟨distinct, length, Subset.trans recorded (append_subset.2 ⟨subset_append_left ..,
      Subset.trans step'.recorded (subset_append_right ..)⟩), ?_⟩
    rw [InboxAdmissionState.mergeFrom, newest, step'.newest, newestSequence_append,
      newestSequence_append, max_assoc, max_eq_right (newestSequence_le step'.recorded)]

theorem admission_memory_bounded_notes : Bounded (admittedUpTo 5000) ((List.range 5000).map note) :=
  admission_memory_bounded (admittedUpTo_history 5000)

end Sessions
