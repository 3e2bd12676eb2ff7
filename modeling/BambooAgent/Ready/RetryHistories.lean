import BambooAgent.Ready.RetryBounds
import Mathlib.Order.Interval.Finset.Nat

/- The laws of the retries of one Work, over every history. -/
namespace Ready.Retries
open SortedMaps Interleavings List

section Entries
variable {seen : List Tickets.Snapshot} {entries : List Entry}

section
variable (chain : Chain seen entries)
include chain

theorem chain_keeps (here : entries[i]? = some first) :
    ∀ (n : Nat) (later : Entry), entries[i + n]? = some later →
      first.record.attempts ≤ later.record.attempts ∧
        later.record.expiresAtMs = first.record.expiresAtMs := by
  intro n
  induction n with
  | zero =>
    intro later there
    rw [add_zero, here] at there
    cases there
    exact ⟨le_rfl, rfl⟩
  | succ n ih =>
    intro later there
    have bound := (List.getElem?_eq_some_iff.1 there).1
    obtain ⟨before, found⟩ : ∃ before, entries[i + n]? = some before :=
      ⟨_, List.getElem?_eq_getElem (by omega)⟩
    obtain ⟨attempts, expires⟩ := ih before found
    have keeps := (chain.step (i + n) before later found there).keeps
    exact ⟨attempts.trans keeps.attempts, keeps.expires.trans expires⟩

theorem reserved_counts (first : Reserved entries revision record)
    (second : Reserved entries later record') (less : revision < later) :
    record.attempts < record'.attempts := by
  obtain ⟨i, _, entry, rfl, _, found, rfl, _⟩ := first
  obtain ⟨j, before, entry', rfl, there, found', rfl, why⟩ := second
  have reserves := ((chain.step j before entry' there found').reserved why).1
  obtain ⟨n, same⟩ := Nat.exists_eq_add_of_le (show i + 1 ≤ j by omega)
  rw [same] at there
  have grows := (chain_keeps chain found n before there).1
  omega

theorem reserved_attempts (reserved : Reserved entries revision record) :
    1 ≤ record.attempts ∧ record.attempts ≤ readyRetryLimit := by
  obtain ⟨i, before, entry, _, one, two, rfl, why⟩ := reserved
  have counts := ((chain.step i before entry one two).reserved why).1
  exact ⟨by omega, attempts_of_valid (chain.valid (i + 1) entry two)⟩

theorem quarantine_last (found : entries[i]? = some entry)
    (gone : entry.record.phase = .quarantined) : entries.length = i + 1 := by
  have bound := (List.getElem?_eq_some_iff.1 found).1
  by_contra longer
  obtain ⟨next, there⟩ : ∃ next, entries[i + 1]? = some next :=
    ⟨_, List.getElem?_eq_getElem (by omega)⟩
  exact (chain.step i entry next found there).keeps.live gone

theorem start_kept (here : entries[i]? = some first) (request : first.record.request = some start) :
    ∀ (n : Nat) (later : Entry),
      entries[i + n]? = some later →
      (∀ k entry, i < k → k ≤ i + n → entries[k]? = some entry → entry.why ≠ .conflict) →
      ∃ next, later.record.request = some next ∧ Relation.ReflTransGen (Found seen) start next := by
  intro n
  induction n with
  | zero =>
    intro later there _
    rw [add_zero, here] at there
    cases there
    exact ⟨start, request, .refl⟩
  | succ n ih =>
    intro later there none_
    have bound := (List.getElem?_eq_some_iff.1 there).1
    obtain ⟨before, found⟩ : ∃ before, entries[i + n]? = some before :=
      ⟨_, List.getElem?_eq_getElem (by omega)⟩
    obtain ⟨middle, has, owned⟩ :=
      ih before found (fun k entry more less => none_ k entry more (by omega))
    have allowed := chain.step (i + n) before later found there
    have other := none_ (i + n + 1) later (by omega) (by omega) there
    obtain ⟨next, same, rfl | linked⟩ := allowed.linked other middle has
    · exact ⟨next, same, owned⟩
    · exact ⟨next, same, owned.tail linked⟩

theorem start_once {i : Nat} {hash : String} (less : i < j)
    (here : entries[i]? = some first)
    (request : first.record.request = some (.start operationId hash))
    (there : entries[j]? = some later) (why : later.why = .reserve)
    (none_ : ∀ k entry, i < k → k < j → entries[k]? = some entry → entry.why ≠ .conflict) :
    ∃ dispatchKey specHash, later.record.request = some (.intent dispatchKey specHash) ∧
      Relation.ReflTransGen (Found seen) (.start operationId hash)
        (.intent dispatchKey specHash) := by
  obtain ⟨n, rfl⟩ := Nat.exists_eq_add_of_lt less
  have bound := (List.getElem?_eq_some_iff.1 there).1
  obtain ⟨before, found⟩ : ∃ before, entries[i + n]? = some before :=
    ⟨_, List.getElem?_eq_getElem (by omega)⟩
  have allowed := chain.step (i + n) before later found there
  obtain ⟨_, has, _⟩ := start_kept chain here request n before found
    (fun k entry more upto => none_ k entry more (by omega))
  obtain ⟨next, same, owned⟩ := start_kept chain here request (n + 1) later there (by
    intro k entry more upto at_
    rcases Nat.lt_or_eq_of_le upto with earlier | rfl
    · exact none_ k entry more (by omega) at_
    · rw [show i + (n + 1) = i + n + 1 by omega, there] at at_
      cases at_
      rw [why]
      nofun)
  cases next with
  | intent dispatchKey specHash => exact ⟨dispatchKey, specHash, same, owned⟩
  | start operationId' hash' =>
    rw [allowed.start why operationId' hash' same] at has
    cases has

end

end Entries

section Results
variable {s : Recovery}

def countedAttempts (s : Recovery) (admission : Admission) : Nat :=
  ((s.entries admission.key)[admission.revision - 1]?).elim 0 (fun entry => entry.record.attempts)

theorem countedAttempts_eq
    (reserved : Reserved (s.entries admission.key) admission.revision record) :
    countedAttempts s admission = record.attempts := by
  obtain ⟨i, _, entry, same, _, found, rfl, _⟩ := reserved
  unfold countedAttempts
  rw [same, show i + 2 - 1 = i + 1 by omega, found]
  rfl

theorem admissions_bounded (sound : Sound s) (key : ReadyRetryKey) :
    s.admissions.countP (fun admission => admission.key = key) ≤ readyRetryLimit := by
  rw [countP_eq_length_filter]
  have chain := sound.chains key
  have reserved : ∀ admission ∈ s.admissions.filter (fun admission => admission.key = key),
      admission.key = key ∧ ∃ record, Reserved (s.entries key) admission.revision record := by
    intro admission member
    obtain ⟨there, same⟩ := mem_filter.1 member
    have same : admission.key = key := of_decide_eq_true same
    obtain ⟨record, held, _⟩ := sound.timely admission there
    exact ⟨same, record, same ▸ held⟩
  have once : (s.admissions.filter (fun admission => admission.key = key)).Nodup :=
    (List.Nodup.of_map _ sound.once).filter _
  have distinct : ((s.admissions.filter (fun admission => admission.key = key)).map
      (countedAttempts s)).Nodup := by
    refine List.Nodup.map_on ?_ once
    intro a memberA b memberB same
    obtain ⟨keyA, recordA, heldA⟩ := reserved a memberA
    obtain ⟨keyB, recordB, heldB⟩ := reserved b memberB
    rw [countedAttempts_eq (keyA ▸ heldA), countedAttempts_eq (keyB ▸ heldB)] at same
    have revisions : a.revision = b.revision := by
      rcases Nat.lt_trichotomy a.revision b.revision with less | equal | more
      · exact absurd same (ne_of_lt (reserved_counts chain heldA heldB less))
      · exact equal
      · exact absurd same.symm (ne_of_lt (reserved_counts chain heldB heldA more))
    refine inj_on_of_nodup_map sound.once (mem_filter.1 memberA).1
      (mem_filter.1 memberB).1 ?_
    exact Prod.ext (keyA.trans keyB.symm) revisions
  have within : ((s.admissions.filter (fun admission => admission.key = key)).map
      (countedAttempts s)).toFinset ⊆ Finset.Icc 1 readyRetryLimit := by
    intro count member
    obtain ⟨admission, there, rfl⟩ := mem_map.1 (mem_toFinset.1 member)
    obtain ⟨same, record, held⟩ := reserved admission there
    rw [countedAttempts_eq (same ▸ held)]
    exact Finset.mem_Icc.2 (reserved_attempts chain held)
  have small := Finset.card_le_card within
  rw [toFinset_card_of_nodup distinct, length_map] at small
  exact small

theorem admission_timely (sound : Sound s) (member : admission ∈ s.admissions) :
    ∃ i first before reserved, admission.revision = i + 2 ∧
      (s.entries admission.key)[0]? = some first ∧
      (s.entries admission.key)[i]? = some before ∧
      (s.entries admission.key)[i + 1]? = some reserved ∧ reserved.why = .reserve ∧
      before.record.nextCheckAtMs ≤ admission.now ∧
      admission.now < first.record.expiresAtMs := by
  have chain := sound.chains admission.key
  obtain ⟨record, ⟨i, before, reserved, same, one, two, rfl, why⟩, past, open_⟩ :=
    sound.timely admission member
  have bound := (List.getElem?_eq_some_iff.1 two).1
  obtain ⟨first, start⟩ : ∃ first, (s.entries admission.key)[0]? = some first :=
    ⟨_, List.getElem?_eq_getElem (by omega)⟩
  obtain ⟨_, _, due⟩ := (chain.step i before reserved one two).reserved why
  obtain ⟨_, expires⟩ := chain_keeps chain start (i + 1) reserved (by rw [zero_add]; exact two)
  exact ⟨i, first, before, reserved, same, start, one, two, why, due.trans past,
    expires ▸ open_⟩

end Results

/-- In every history, for each Work: what is stored validates, as a record and as a change; at most
    three admissions are made, each of a reservation of its own that was due, and before the first
    deadline; nothing is stored after a quarantine; and after a Start is reserved, until it is
    definitely rejected, only an intent found for it is reserved. -/
theorem retries_bounded (acts : List Act) (key : ReadyRetryKey) :
    let s := run step .new acts
    let entries := s.entries key
    (∀ (i : Nat) (entry : Entry), entries[i]? = some entry →
      validateReadyRetryRecord entry.record = .ok ()) ∧
    (∀ (i : Nat) (before after : Entry), entries[i]? = some before →
      entries[i + 1]? = some after →
        validateReadyRetryTransition before.record after.record = .ok ()) ∧
    s.admissions.countP (fun admission => admission.key = key) ≤ readyRetryLimit ∧
    (∀ admission ∈ s.admissions, admission.key = key →
      ∃ i first before reserved, admission.revision = i + 2 ∧ entries[0]? = some first ∧
        entries[i]? = some before ∧ entries[i + 1]? = some reserved ∧ reserved.why = .reserve ∧
        before.record.nextCheckAtMs ≤ admission.now ∧
        admission.now < first.record.expiresAtMs) ∧
    (∀ (i : Nat) (entry : Entry), entries[i]? = some entry →
      entry.record.phase = .quarantined → entries.length = i + 1) ∧
    (∀ (i j : Nat) (first later : Entry) (operationId hash : String), i < j →
      entries[i]? = some first → entries[j]? = some later → later.why = .reserve →
      first.record.request = some (.start operationId hash) →
      (∀ (k : Nat) (entry : Entry), i < k → k < j → entries[k]? = some entry →
        entry.why ≠ .conflict) →
      ∃ dispatchKey specHash, later.record.request = some (.intent dispatchKey specHash) ∧
        Relation.ReflTransGen (Found s.seen) (.start operationId hash)
          (.intent dispatchKey specHash)) := by
  intro s entries
  have sound : Sound s :=
    run_keeps (P := Sound) (fun _ act sound => sound_step sound act) acts sound_new
  have chain := sound.chains key
  refine ⟨chain.valid, ?_, admissions_bounded sound key, ?_, ?_, ?_⟩
  · intro i before after one two
    exact transition_of_keeps (chain.step i before after one two).keeps
      (chain.valid (i + 1) after two)
  · rintro admission member rfl
    exact admission_timely sound member
  · exact fun i entry found gone => quarantine_last chain found gone
  · intro i j first later operationId hash less here there why request none_
    exact start_once chain less here request there why none_

/- Two schedulers that look at the same Work. -/

def sampleWork : Tickets.Ticket where
  id := "work"
  scopeId := "scope"
  kind := .work
  parent := none
  dependsOn := .empty
  recordRevision := 1
  contractRevision := 1
  generation := 0
  contract := ⟨"title", "objective", [], [], false, .empty⟩
  priority := .medium
  expectedCompletionAt := none
  state := .ready
  blocked := none
  paused := false
  archived := false
  activeAssignment := none
  currentSubmission := none
  acceptedSubmission := none
  updatedSeq := 1
  importSource := none

def sampleSnapshot : Tickets.Snapshot :=
  { Tickets.Snapshot.empty ⟨"scope", "supervisor", 1⟩ with
    authorityEpoch := 1
    tickets := SortedMap.empty.insert "work" sampleWork }

def sampleHash : String := String.ofList (List.replicate 64 'a')

/-- The first one reserves; the second one has a clock that is behind, and quarantines. -/
def crossing : List Act :=
  [.begin_ sampleSnapshot "work" sampleHash 60000 (some 1000), .load 0, .exchange 0 true,
    .decide_ 0 (some 1000), .exchange 0 true, .reserve 0 "operation" sampleHash (some 1000),
    .exchange 0 true, .begin_ sampleSnapshot "work" sampleHash 60000 (some 500), .load 1,
    .decide_ 1 (some 500), .exchange 1 true]

/-- The first one enters the runtime after the quarantine is stored. -/
theorem quarantined_then_admitted :
    let s := run step .new crossing
    (s.entries ⟨"scope", "work"⟩).map (fun entry => entry.record.phase) =
        [.ready, .ready, .reserved, .quarantined] ∧
      s.admissions = [] ∧
      (step s (.enter 0 (some 1001))).admissions = [⟨⟨"scope", "work"⟩, 3, 1001⟩] := by
  decide +kernel

end Ready.Retries
