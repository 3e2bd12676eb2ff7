import BambooAgent.Workflows.Journal
import BambooAgent.Library.Checks

/- What the files of a run can look like between two operations: they hold a chain of commits, all
   of it replaced into the snapshot or all but the last, whose record is in the journal. -/
namespace Workflows
open SortedMaps Faults Checks List Option
open Actors (u64Max)

/-- A snapshot with the event of its commit. -/
abbrev Entry (β γ : Type) := WorkflowRunSnapshot β × WorkflowRunEvent γ

structure Chain (runId : String) (chain : List (Entry β γ)) : Prop where
  numbered : chain.map (fun entry => entry.2.sequence) = List.range' 1 chain.length
  paired : ∀ entry ∈ chain, entry.1.runId = runId ∧ entry.2.runId = runId ∧
    entry.1.lastSequence = entry.2.sequence

def lastSnapshot (chain : List (Entry β γ)) : Option (WorkflowRunSnapshot β) :=
  chain.getLast?.map Prod.fst

/-- The chain ends with a terminal snapshot. -/
def Closed (chain : List (Entry β γ)) : Prop :=
  ∃ snapshot ∈ lastSnapshot chain, snapshot.status.isTerminal = true

def RunDir.lines (dir : RunDir β γ) : List (Option (WorkflowRunEvent γ)) :=
  dir.journal.elim [] Journal.lines

def RunDir.Trimmed (dir : RunDir β γ) : Prop :=
  ∀ journal, dir.journal = some journal → journal.tail = .clean

/-- The journal and the snapshot; nothing is staged but perhaps what comes next. -/
structure SettledIn (chain : List (Entry β γ)) (dir : RunDir β γ) : Prop where
  lines : dir.lines = chain.map (fun entry => some entry.2)
  snapshot : dir.snapshot = (lastSnapshot chain).map .whole
  staged : ∀ sequence content, dir.staged.lookup sequence = some content →
    sequence = chain.length + 1

def Settled (chain : List (Entry β γ)) : Run β γ → Prop
  | none => chain = []
  | some dir => SettledIn chain dir

/-- The record of the last commit is written, and its snapshot is staged. -/
structure AheadIn (chain : List (Entry β γ)) (entry : Entry β γ) (dir : RunDir β γ) : Prop where
  lines : dir.lines = (chain ++ [entry]).map (fun entry => some entry.2)
  trimmed : dir.Trimmed
  snapshot : dir.snapshot = (lastSnapshot chain).map .whole
  staged : dir.staged.lookup (chain.length + 1) = some (.whole entry.1)
  alone : ∀ sequence content, dir.staged.lookup sequence = some content →
    sequence = chain.length + 1

def Ahead (chain : List (Entry β γ)) (entry : Entry β γ) (run : Run β γ) : Prop :=
  ∃ dir, run = some dir ∧ AheadIn chain entry dir

structure Reads (runId : String) (chain : List (Entry β γ)) (run : Run β γ) : Prop where
  linked : Chain runId chain
  files : Settled chain run ∨ ∃ before entry, chain = before ++ [entry] ∧ Ahead before entry run

/-- Settled, and nothing behind the last line. -/
def Ready (chain : List (Entry β γ)) (run : Run β γ) : Prop :=
  Settled chain run ∧ ∀ dir, run = some dir → dir.Trimmed

theorem reads_ready {run : Run β γ} (good : Chain runId chain) (ready : Ready chain run) :
    Reads runId chain run :=
  ⟨good, .inl ready.1⟩

variable {entry : Entry β γ}

theorem reads_ahead (good : Chain runId (chain ++ [entry])) (ahead : Ahead chain entry run) :
    Reads runId (chain ++ [entry]) run :=
  ⟨good, .inr ⟨chain, entry, rfl, ahead⟩⟩

theorem lastSnapshot_concat (chain : List (Entry β γ)) (entry : Entry β γ) :
    lastSnapshot (chain ++ [entry]) = some entry.1 := by
  unfold lastSnapshot
  rw [List.getLast?_concat]
  rfl

theorem chain_nil (runId : String) : Chain runId ([] : List (Entry β γ)) :=
  ⟨rfl, fun _ member => nomatch member⟩

theorem chain_concat (good : Chain runId chain) (next : entry.2.sequence = chain.length + 1)
    (own : entry.1.runId = runId) (same : entry.1.runId = entry.2.runId)
    (paired : entry.1.lastSequence = entry.2.sequence) : Chain runId (chain ++ [entry]) where
  numbered := by
    rw [map_append, good.numbered, length_append, map_singleton, next,
      length_singleton, List.range'_concat, Nat.one_mul, add_comm 1]
  paired := by
    intro other member
    rcases mem_append.1 member with before | now_
    · exact good.paired other before
    · cases mem_singleton.1 now_
      exact ⟨own, same.symm.trans own, paired⟩

theorem chain_init (good : Chain runId (chain ++ [entry])) :
    Chain runId chain ∧ entry.2.sequence = chain.length + 1 := by
  have numbered := good.numbered
  rw [map_append, length_append, length_singleton, List.range'_concat,
    Nat.one_mul, add_comm 1] at numbered
  obtain ⟨before, last⟩ := append_inj' numbered rfl
  refine ⟨⟨before, fun other member => good.paired other (mem_append_left _ member)⟩, ?_⟩
  exact singleton_inj.1 last

theorem last_numbered {chain : List (Entry β γ)} (good : Chain runId chain) :
    (chain.map Prod.snd).getLast?.elim 0 WorkflowRunEvent.sequence = chain.length ∧
      (lastSnapshot chain).elim 0 WorkflowRunSnapshot.lastSequence = chain.length := by
  rcases eq_nil_or_concat' chain with rfl | ⟨before, entry, rfl⟩
  · exact ⟨rfl, rfl⟩
  · have next := (chain_init good).2
    have paired := (good.paired entry (mem_append_right _ mem_cons_self)).2.2
    rw [map_append, map_singleton, List.getLast?_concat, lastSnapshot_concat,
      length_append]
    exact ⟨next, paired.trans next⟩

theorem parse_chain :
    ∀ {chain : List (Entry β γ)} {start : Nat}, chain.map (fun entry => entry.2.sequence) =
      List.range' start chain.length → (∀ entry ∈ chain, entry.2.runId = runId) → parseLines runId
      start (chain.map (fun entry => some entry.2)) = .ok (chain.map Prod.snd) := by
  intro chain
  induction chain with
  | nil => exact fun _ _ => rfl
  | cons entry rest ih =>
    intro start numbered own
    obtain ⟨first, later⟩ := List.cons.inj numbered
    have fits : ¬ (entry.2.runId ≠ runId ∨ entry.2.sequence ≠ start) := by
      rintro (other | other)
      · exact other (own entry mem_cons_self)
      · exact other first
    rw [map_cons, map_cons]
    unfold parseLines
    rw [if_neg fits, ih later (fun other member => own other (.tail _ member)), ok_bind]

theorem filter_chain {chain : List (Entry β γ)} (good : Chain runId chain) :
    (chain.map Prod.snd).filter (fun event => decide (0 < event.sequence)) =
      chain.map Prod.snd := by
  rw [filter_eq_self]
  intro event member
  obtain ⟨entry, there, rfl⟩ := mem_map.1 member
  have counted : entry.2.sequence ∈ List.range' 1 chain.length := by
    rw [← good.numbered]
    exact mem_map.2 ⟨entry, there, rfl⟩
  exact decide_eq_true (mem_range'_1.1 counted).1

/- Reading what is there. -/

theorem settled_lines {run : Run β γ} (settled : Settled chain run) :
    journalLines run = chain.map (fun entry => some entry.2) := by
  cases run with
  | none =>
    cases settled
    rfl
  | some dir => exact settled.lines

theorem settled_snapshot (settled : Settled chain run) :
    run.bind RunDir.snapshot = (lastSnapshot chain).map .whole := by
  cases run with
  | none =>
    cases settled
    rfl
  | some dir => exact settled.snapshot

theorem reads_lines {run : Run β γ} (reads : Reads runId chain run) :
    journalLines run = chain.map (fun entry => some entry.2) := by
  rcases reads.files with settled | ⟨before, entry, rfl, dir, rfl, ahead⟩
  · exact settled_lines settled
  · exact ahead.lines

theorem parseContent_whole (snapshot : Option (WorkflowRunSnapshot β)) :
    parseContent (snapshot.map .whole) = .ok snapshot := by
  cases snapshot with
  | none => rfl
  | some _ => rfl

section Specs
variable {chain : List (Entry β γ)} {P : Run β γ → Prop}

theorem triple_finds {read : Run β γ → Result α} (finds : ∀ s, P s → read s = .ok a)
    (fails : ∀ s error, Disturbed calls → P s → X error s)
    (dies : ∀ s, Disturbed calls → P s → D s) :
    Triple P (reading calls read) (fun found s => found = a ∧ P s) X D := by
  refine triple_reading ?_ ?_ fails dies
  · intro s other before found
    rw [finds s before] at found
    cases found
    exact ⟨rfl, before⟩
  · intro s error before found
    rw [finds s before] at found
    cases found

theorem eventsSince_spec (valid : validateId runId = .ok ())
    (good : Chain runId chain)
    (lines : ∀ s, P s → journalLines s = chain.map (fun entry => some entry.2))
    (fails : ∀ s error, Disturbed calls → P s → X error s)
    (dies : ∀ s, Disturbed calls → P s → D s) (sequence : Nat) :
    Triple P (eventsSince calls runId sequence) (fun events s =>
      events = (chain.map Prod.snd).filter (fun event => decide (sequence < event.sequence)) ∧ P s)
      X D := by
  refine triple_bind (Q := fun _ => P) (triple_lift (fun s _ before _ => before) ?_) (fun _ => ?_)
  · intro s error _ refused
    rw [valid] at refused
    cases refused
  · refine triple_finds ?_ fails dies
    intro s before
    rw [lines s before,
      parse_chain good.numbered (fun entry member => (good.paired entry member).2.1)]
    rfl

/- Recovering. -/

/-- The state still fits, but some call has not proceeded. -/
def Interrupted (calls : Schedule ErrorKind) (P : Run β γ → Prop) (run : Run β γ) : Prop :=
  P run ∧ Disturbed calls

theorem truncated_lines (dir : RunDir β γ) :
    (dir.withJournal Journal.truncated).lines = dir.lines := by
  unfold RunDir.lines RunDir.withJournal
  cases dir.journal with
  | none => rfl
  | some journal => rfl

theorem truncated_trimmed (dir : RunDir β γ) : (dir.withJournal Journal.truncated).Trimmed := by
  intro journal held
  obtain ⟨before, _, rfl⟩ := map_eq_some_iff.1 held
  rfl

theorem reads_truncated (reads : Reads runId chain (some dir)) :
    Reads runId chain (some (dir.withJournal Journal.truncated)) := by
  refine ⟨reads.linked, ?_⟩
  rcases reads.files with settled | ⟨before, entry, rfl, found, same, ahead⟩
  · left
    exact ⟨(truncated_lines dir).trans settled.lines, settled.snapshot, settled.staged⟩
  · cases same
    exact .inr ⟨before, entry, rfl, _, rfl, (truncated_lines dir).trans ahead.lines,
      truncated_trimmed dir, ahead.snapshot, ahead.staged, ahead.alone⟩

/-- Mended: the last commit is settled, or waits for its snapshot to be replaced. -/
def Mended (chain : List (Entry β γ)) (run : Run β γ) : Prop :=
  Ready chain run ∨ ∃ before entry, chain = before ++ [entry] ∧ Ahead before entry run

theorem mended_of_trimmed (reads : Reads runId chain run)
    (trimmed : ∀ dir, run = some dir → dir.Trimmed) : Mended chain run := by
  rcases reads.files with settled | ahead
  · exact .inl ⟨settled, trimmed⟩
  · exact .inr ahead

theorem repair_spec : Triple (Reads runId chain) (repairJournalTail calls)
    (fun _ => Mended chain) (Short (Interrupted calls (Reads runId chain)))
    (Interrupted calls (Reads runId chain)) := by
  refine triple_bind (Q := fun torn s => Reads runId chain s ∧
    (torn = true → ∃ dir, s = some dir) ∧
    (torn = false → ∀ dir, s = some dir → dir.Trimmed)) ?_ (fun torn => ?_)
  · refine triple_reading ?_ (fun s error _ impossible => nomatch impossible)
      (fun s _ disturbed reads => ⟨reads, disturbed⟩) (fun s disturbed reads => ⟨reads, disturbed⟩)
    intro s torn reads found
    cases found
    refine ⟨reads, ?_, ?_⟩
    · intro torn
      cases s with
      | none => cases torn
      | some dir => exact ⟨dir, rfl⟩
    · intro clean dir same journal held
      cases same
      rw [bind_some, held, any_some] at clean
      cases tail : journal.tail with
      | clean => rfl
      | whole event =>
        rw [tail] at clean
        cases clean
      | broken =>
        rw [tail] at clean
        cases clean
  · cases torn with
    | false => exact triple_pure (fun s known => mended_of_trimmed known.1 (known.2.2 rfl))
    | true =>
      refine triple_bind (Q := fun _ s => Reads runId chain s ∧ ∃ dir, s = some dir) ?_ (fun _ => ?_)
      · exact triple_weaken (triple_flush (fun s disturbed known => ⟨known.1, disturbed⟩))
          (fun s known => ⟨known.1, known.2.1 rfl⟩) (fun _ _ known => known) (fun _ _ short => short)
          (fun _ short => short)
      · refine triple_bind (Q := fun _ s => Reads runId chain s ∧ Mended chain s) ?_ (fun _ => ?_)
        · refine triple_syscall ?_ ?_ (fun s _ _ disturbed known => ⟨known.1, disturbed⟩)
            (fun s _ disturbed known => ⟨known.1, disturbed⟩)
          · rintro s _ s' ⟨reads, dir, rfl⟩ done
            cases done
            have after := reads_truncated reads
            refine ⟨after, mended_of_trimmed after ?_⟩
            intro found same
            cases same
            exact truncated_trimmed dir
          · rintro s error ⟨_, dir, rfl⟩ impossible
            cases impossible
        · exact triple_weaken (triple_flush (fun s disturbed known => ⟨known.1, disturbed⟩))
            (fun _ known => known) (fun _ _ known => known.2) (fun _ _ short => short)
            (fun _ short => short)

theorem replaced_settles (ahead : AheadIn before entry dir) :
    Ready (before ++ [entry]) (some { dir with
      staged := dir.staged.erase (before.length + 1), snapshot := some (.whole entry.1) }) := by
  refine ⟨⟨ahead.lines, ?_, ?_⟩, ?_⟩
  · rw [lastSnapshot_concat]
    rfl
  · intro sequence content held
    rw [SortedMap.lookup_erase] at held
    split at held
    · cases held
    · rename_i other
      exact absurd (ahead.alone sequence content held) other
  · intro found same
    cases same
    exact ahead.trimmed

theorem publish_spec (good : Chain runId (before ++ [entry])) :
    Triple (Ahead before entry) (publishSnapshot calls (before.length + 1))
      (fun _ => Ready (before ++ [entry]))
      (Short (Interrupted calls (Reads runId (before ++ [entry]))))
      (Interrupted calls (Reads runId (before ++ [entry]))) := by
  have short : ∀ s, Disturbed calls → Ready (before ++ [entry]) s →
      Interrupted calls (Reads runId (before ++ [entry])) s :=
    fun s disturbed ready => ⟨reads_ready good ready, disturbed⟩
  refine triple_bind (Q := fun _ s => Ready (before ++ [entry]) s ∧ s.isSome = true) ?_
    (fun _ => ?_)
  · refine triple_syscall ?_ ?_
      (fun s _ _ disturbed ahead => ⟨reads_ahead good ahead, disturbed⟩)
      (fun s _ disturbed ahead => ⟨reads_ahead good ahead, disturbed⟩)
    · rintro s _ s' ⟨dir, rfl, ahead⟩ done
      unfold inDir at done
      simp only [ahead.staged] at done
      cases done
      exact ⟨replaced_settles ahead, rfl⟩
    · rintro s error ⟨dir, rfl, ahead⟩ refused
      unfold inDir at refused
      simp only [ahead.staged] at refused
      cases refused
  · refine triple_bind (Q := fun _ => Ready (before ++ [entry])) ?_ (fun _ => triple_flush short)
    refine triple_reading (fun s _ known _ => known.1) ?_
      (fun s _ disturbed known => short s disturbed known.1)
      (fun s disturbed known => short s disturbed known.1)
    intro s error known refused
    rw [if_pos known.2] at refused
    cases refused

theorem takeStaged_spec (good : Chain runId (before ++ [entry])) :
    Triple (Ahead before entry) (takeStaged calls runId (before.length + 1))
      (fun snapshot s => snapshot = entry.1 ∧ Ready (before ++ [entry]) s)
      (Short (Interrupted calls (Reads runId (before ++ [entry]))))
      (Interrupted calls (Reads runId (before ++ [entry]))) := by
  have short : ∀ s, Disturbed calls → Ahead before entry s →
      Interrupted calls (Reads runId (before ++ [entry])) s :=
    fun s disturbed ahead => ⟨reads_ahead good ahead, disturbed⟩
  refine triple_bind (Q := fun content s => content = .whole entry.1 ∧ Ahead before entry s) ?_
    (fun content => triple_and (fun same => ?_))
  · refine triple_bind (triple_caught (triple_finds (a := .whole entry.1) ?_
      (fun s _ => short s) short)) (fun read => ?_)
    · rintro s ⟨dir, rfl, ahead⟩
      rw [bind_some, ahead.staged]
    · cases read with
      | ok content => exact triple_pure (fun _ known => known)
      | error error =>
        refine triple_lift (fun _ _ _ impossible => nomatch impossible) (fun _ _ known _ => known)
  · subst same
    obtain ⟨own, _, paired⟩ :=
      good.paired entry (mem_append_right _ mem_cons_self)
    have next := (chain_init good).2
    have fits : ¬ (entry.1.runId ≠ runId ∨ entry.1.lastSequence ≠ before.length + 1) := by
      rintro (other | other)
      · exact other own
      · exact other (paired.trans next)
    dsimp only
    rw [if_neg fits]
    refine triple_bind (Q := fun _ => Ahead before entry) (triple_lift (fun _ _ ahead _ => ahead)
      (fun _ _ _ impossible => nomatch impossible)) (fun _ => ?_)
    exact triple_bind (publish_spec good) (fun _ => triple_pure (fun _ ready => ⟨rfl, ready⟩))

theorem sweep_spec (good : Chain runId chain) :
    Triple (Ready chain) (caught (removeStaged calls (chain.length + 1)))
      (fun _ => Ready chain) (Short (Interrupted calls (Reads runId chain)))
      (Interrupted calls (Reads runId chain)) := by
  have removed : Triple (Ready chain) (removeStaged calls (chain.length + 1))
      (fun _ => Ready chain) (fun _ => Ready chain) (Interrupted calls (Reads runId chain)) := by
    refine triple_syscall ?_ (fun _ _ ready _ => ready) (fun _ _ _ _ ready => ready)
      (fun s _ disturbed ready => ⟨reads_ready good ready, disturbed⟩)
    intro s _ s' ready done
    cases s with
    | none => cases done
    | some dir =>
      unfold inDir at done
      dsimp only at done
      split at done
      · cases done
        have settled : SettledIn chain dir := ready.1
        refine ⟨⟨settled.lines, settled.snapshot, ?_⟩, ?_⟩
        · intro sequence content held
          rw [SortedMap.lookup_erase] at held
          split at held
          · cases held
          · exact settled.staged sequence content held
        · intro found same
          cases same
          exact ready.2 dir rfl
      · cases done
  refine triple_weaken (triple_caught removed (Y := Short (Interrupted calls (Reads runId chain))))
    (fun _ ready => ready) ?_ (fun _ _ short => short) (fun _ short => short)
  intro result s ready
  cases result with
  | ok _ => exact ready
  | error _ => exact ready

theorem recover_spec (valid : validateId runId = .ok ()) (good : Chain runId chain) :
    Triple (Reads runId chain) (recoverSnapshot calls runId)
      (fun current s => current = lastSnapshot chain ∧ Ready chain s)
      (Short (Interrupted calls (Reads runId chain))) (Interrupted calls (Reads runId chain)) := by
  refine triple_bind (Q := fun _ => Reads runId chain) (triple_lift (fun s _ reads _ => reads) ?_)
    (fun _ => ?_)
  · intro s error _ refused
    rw [valid] at refused
    cases refused
  refine triple_bind repair_spec (fun _ => triple_or ?_ (triple_exists (fun before =>
    triple_exists (fun entry => triple_and (fun whole => ?_)))))
  · -- The snapshot is as far as the journal.
    have short : ∀ s, Disturbed calls → Ready chain s →
        Interrupted calls (Reads runId chain) s :=
      fun s disturbed ready => ⟨reads_ready good ready, disturbed⟩
    refine triple_bind (triple_finds (a := lastSnapshot chain) ?_ (fun s _ => short s) short)
      (fun current => triple_and (fun same => ?_))
    · intro s ready
      rw [settled_snapshot ready.1, parseContent_whole]
    subst same
    refine triple_bind (eventsSince_spec valid good (fun s ready => settled_lines ready.1)
      (fun s _ => short s) short 0) (fun journal => triple_and (fun same => ?_))
    subst same
    rw [filter_chain good, (last_numbered good).1, (last_numbered good).2]
    rw [if_pos rfl]
    exact triple_bind (sweep_spec good) (fun _ => triple_pure (fun _ ready => ⟨rfl, ready⟩))
  · -- The journal is one record ahead.
    subst whole
    obtain ⟨first, next⟩ := chain_init good
    have short : ∀ s, Disturbed calls → Ahead before entry s →
        Interrupted calls (Reads runId (before ++ [entry])) s :=
      fun s disturbed ahead => ⟨reads_ahead good ahead, disturbed⟩
    refine triple_bind (triple_finds (a := lastSnapshot before) ?_ (fun s _ => short s) short)
      (fun current => triple_and (fun same => ?_))
    · rintro s ⟨dir, rfl, ahead⟩
      rw [bind_some, ahead.snapshot, parseContent_whole]
    subst same
    refine triple_bind (eventsSince_spec valid good (fun s ahead => ?_)
      (fun s _ => short s) short 0) (fun journal => triple_and (fun same => ?_))
    · obtain ⟨dir, rfl, ahead⟩ := ahead
      exact ahead.lines
    subst same
    rw [filter_chain good, (last_numbered good).1, (last_numbered first).2, length_append,
      length_singleton]
    rw [if_neg (by omega), if_neg (by omega)]
    refine triple_bind (takeStaged_spec good) (fun recovered => triple_and (fun same => ?_))
    subst same
    exact triple_pure (fun _ ready => ⟨(lastSnapshot_concat before entry).symm, ready⟩)

end Specs

end Workflows
