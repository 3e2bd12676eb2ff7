import BambooAgent.Workflows.Recovery

/- What a commit and a creation make of the files, wherever they end: the chain as it was, or
   with one commit more. -/
namespace Workflows
open SortedMaps Faults Checks List SortedMap Option
open Actors (u64Max)

/-- The next snapshot is staged as a whole. -/
structure StagedIn (chain : List (Entry β γ)) (snapshot : WorkflowRunSnapshot β)
    (dir : RunDir β γ) : Prop where
  settled : SettledIn chain dir
  trimmed : dir.Trimmed
  staged : dir.staged.lookup (chain.length + 1) = some (.whole snapshot)

def StagedReady (chain : List (Entry β γ)) (snapshot : WorkflowRunSnapshot β) (run : Run β γ) :
    Prop :=
  ∃ dir, run = some dir ∧ StagedIn chain snapshot dir

/-- Settled in a directory that is there. -/
def Open (chain : List (Entry β γ)) (run : Run β γ) : Prop :=
  ∃ dir, run = some dir ∧ SettledIn chain dir ∧ dir.Trimmed

variable {dir : RunDir β γ}

theorem settled_stage (settled : SettledIn chain dir) (content : Content β) :
    SettledIn chain { dir with staged := dir.staged.insert (chain.length + 1) content } where
  lines := settled.lines
  snapshot := settled.snapshot
  staged := by
    intro sequence other held
    rw [lookup_insert] at held
    split at held
    · assumption
    · exact settled.staged sequence other held

theorem settled_unstage (settled : SettledIn chain dir) (sequence : Nat) :
    SettledIn chain { dir with staged := dir.staged.erase sequence } where
  lines := settled.lines
  snapshot := settled.snapshot
  staged := by
    intro other content held
    rw [lookup_erase] at held
    split at held
    · cases held
    · exact settled.staged other content held

section Specs
variable {runId : String} {chain : List (Entry β γ)} {calls : Schedule ErrorKind}
  {snapshot : WorkflowRunSnapshot β} {event : WorkflowRunEvent γ}

theorem open_settled (open_ : Open chain run) : Settled chain run := by
  obtain ⟨dir, rfl, settled, _⟩ := open_
  exact settled

theorem openNew_spec : Triple (Open chain) (openNew calls (chain.length + 1))
    (fun _ => Open chain) (Short (Settled chain)) (Settled chain) := by
  refine triple_syscall ?_ (fun _ _ open_ _ => open_settled open_)
    (fun _ _ _ _ open_ => open_settled open_) (fun _ _ _ open_ => open_settled open_)
  rintro s _ s' ⟨dir, rfl, settled, trimmed⟩ done
  unfold inDir at done
  dsimp only at done
  split at done
  · cases done
  · cases done
    exact ⟨_, rfl, settled_stage settled .torn, trimmed⟩

theorem writeStaged_spec : Triple (Open chain)
    (writeStaged calls (chain.length + 1) snapshot) (fun _ => StagedReady chain snapshot)
    (Short (Settled chain)) (Settled chain) := by
  have part : ∀ s kept, Open chain s →
      Settled chain (stagedPart (chain.length + 1) snapshot kept s) := by
    rintro s kept ⟨dir, rfl, settled, _⟩
    exact settled_stage settled _
  refine triple_syscall ?_ ?_ (fun s _ kept _ => part s kept) (fun s kept _ => part s kept)
  · rintro s _ s' ⟨dir, rfl, settled, trimmed⟩ done
    cases done
    exact ⟨_, rfl, settled_stage settled _, trimmed, lookup_insert_self ..⟩
  · rintro s error ⟨dir, rfl, _⟩ impossible
    cases impossible

theorem removeStaged_spec : Triple (Settled chain) (removeStaged calls (chain.length + 1))
    (fun _ => Settled chain) (Short (Settled chain)) (Settled chain) := by
  refine triple_syscall ?_ (fun _ _ settled _ => settled) (fun _ _ _ _ settled => settled)
    (fun _ _ _ settled => settled)
  intro s _ s' settled done
  cases s with
  | none => cases done
  | some dir =>
    unfold inDir at done
    dsimp only at done
    split at done
    · cases done
      exact settled_unstage settled _
    · cases done

theorem stage_spec : Triple (Open chain) (stageSnapshot calls (chain.length + 1) snapshot)
    (fun _ => StagedReady chain snapshot) (Short (Settled chain)) (Settled chain) := by
  refine triple_bind openNew_spec (fun _ => ?_)
  have written : Triple (Open chain) (do
      writeStaged calls (chain.length + 1) snapshot
      flush calls) (fun _ => StagedReady chain snapshot) (Short (Settled chain)) (Settled chain) := by
    refine triple_bind writeStaged_spec (fun _ => triple_flush ?_)
    rintro s _ ⟨dir, rfl, staged⟩
    exact staged.settled
  refine triple_bind (triple_caught written) (fun result => ?_)
  cases result with
  | ok _ => exact triple_pure (fun _ staged => staged)
  | error error =>
    refine triple_bind (Q := fun _ => Settled chain) ?_ (fun _ => triple_lift
      (fun _ _ _ impossible => nomatch impossible) (fun _ _ settled _ => settled))
    refine triple_weaken (triple_caught removeStaged_spec (Y := Short (Settled chain)))
      (fun _ settled => settled) ?_ (fun _ _ settled => settled) (fun _ settled => settled)
    intro removed s settled
    cases removed with
    | ok _ => exact settled
    | error _ => exact settled

/- Appending. -/

/-- The record stands behind the last line, not yet ended. -/
structure WritingIn (chain : List (Entry β γ)) (entry : Entry β γ) (dir : RunDir β γ) : Prop where
  settled : SettledIn chain dir
  staged : dir.staged.lookup (chain.length + 1) = some (.whole entry.1)
  journal : dir.journal = some ⟨dir.lines, .whole entry.2⟩

theorem opened_lines (dir : RunDir β γ) :
    ({ dir with journal := some (dir.journal.getD .empty) } : RunDir β γ).lines = dir.lines := by
  unfold RunDir.lines
  cases dir.journal with
  | none => rfl
  | some journal => rfl

theorem staged_journal (staged : StagedIn chain snapshot dir) :
    StagedIn chain snapshot { dir with journal := some (dir.journal.getD .empty) } where
  settled := ⟨(opened_lines dir).trans staged.settled.lines, staged.settled.snapshot,
    staged.settled.staged⟩
  trimmed := by
    intro journal same
    cases same
    cases held : dir.journal with
    | none => rfl
    | some journal => exact staged.trimmed journal held
  staged := staged.staged

theorem writing_lines (held : dir.journal = some journal) (change : Journal γ → Journal γ)
    (same : (change journal).lines = journal.lines) :
    (dir.withJournal change).lines = dir.lines := by
  unfold RunDir.lines RunDir.withJournal
  rw [held]
  exact same

theorem writeRecord_spec : Triple
    (fun s : Run β γ => ∃ dir, s = some dir ∧ StagedIn chain snapshot dir ∧ dir.journal.isSome = true)
    (writeRecord calls event)
    (fun _ s => ∃ dir, s = some dir ∧ WritingIn chain (snapshot, event) dir)
    (Short (Settled chain)) (Settled chain) := by
  have part : ∀ (s : Run β γ) kept,
      (∃ dir, s = some dir ∧ StagedIn chain snapshot dir ∧ dir.journal.isSome = true) →
      Settled chain (s.map (RunDir.withJournal (fun journal => journal.writePart kept event))) := by
    rintro s kept ⟨dir, rfl, staged, present⟩
    obtain ⟨journal, held⟩ := isSome_iff_exists.1 present
    have same : (journal.writePart kept event).lines = journal.lines := by
      unfold Journal.writePart
      split
      · rfl
      · rfl
      · rfl
    exact ⟨(writing_lines held _ same).trans staged.settled.lines, staged.settled.snapshot,
      staged.settled.staged⟩
  refine triple_syscall ?_ ?_ (fun s _ kept _ => part s kept) (fun s kept _ => part s kept)
  · rintro s _ s' ⟨dir, rfl, staged, present⟩ done
    obtain ⟨journal, held⟩ := isSome_iff_exists.1 present
    cases done
    have lines := writing_lines held (fun journal => journal.write event) rfl
    refine ⟨_, rfl, ⟨lines.trans staged.settled.lines, staged.settled.snapshot,
      staged.settled.staged⟩, staged.staged, ?_⟩
    have trimmed := staged.trimmed journal held
    unfold RunDir.withJournal Journal.write RunDir.lines
    rw [held, map_some, trimmed]
    rfl
  · rintro s error ⟨dir, rfl, _⟩ impossible
    cases impossible

theorem newline_ahead (writing : WritingIn chain entry dir) :
    Ahead chain entry (some (dir.withJournal Journal.newline)) := by
  refine ⟨_, rfl, ?_, ?_, writing.settled.snapshot, writing.staged, writing.settled.staged⟩
  · unfold RunDir.lines RunDir.withJournal
    rw [writing.journal]
    change dir.lines ++ [some entry.2] = _
    rw [writing.settled.lines, map_append, map_singleton]
  · intro journal held
    unfold RunDir.withJournal at held
    rw [writing.journal] at held
    cases held
    rfl

theorem append_spec : Triple (StagedReady chain snapshot) (appendRecord calls event)
    (fun _ => Ahead chain (snapshot, event))
    (Short (fun s : Run β γ => Settled chain s ∨ Ahead chain (snapshot, event) s))
    (fun s : Run β γ => Settled chain s ∨ Ahead chain (snapshot, event) s) := by
  refine triple_bind (Q := fun _ (s : Run β γ) => ∃ dir, s = some dir ∧
    StagedIn chain snapshot dir ∧ dir.journal.isSome = true) ?_ (fun _ => ?_)
  · have short : ∀ s : Run β γ, StagedReady chain snapshot s →
        Settled chain s ∨ Ahead chain (snapshot, event) s := by
      rintro s ⟨dir, rfl, staged⟩
      exact .inl staged.settled
    refine triple_syscall ?_ ?_ (fun s _ _ _ => short s) (fun s _ _ => short s)
    · rintro s _ s' ⟨dir, rfl, staged⟩ done
      cases done
      exact ⟨_, rfl, staged_journal staged, rfl⟩
    · rintro s error ⟨dir, rfl, _⟩ impossible
      cases impossible
  refine triple_bind (triple_weaken writeRecord_spec (fun _ known => known) (fun _ _ known => known)
    (fun _ _ settled => .inl settled) (fun _ settled => .inl settled)) (fun _ => ?_)
  refine triple_bind (Q := fun _ => Ahead chain (snapshot, event)) ?_
    (fun _ => triple_flush (fun _ _ ahead => .inr ahead))
  have part : ∀ (s : Run β γ) (kept : Nat),
      (∃ dir, s = some dir ∧ WritingIn chain (snapshot, event) dir) →
      Settled chain (if kept = 0 then s else s.map (RunDir.withJournal Journal.newline)) ∨
        Ahead chain (snapshot, event)
          (if kept = 0 then s else s.map (RunDir.withJournal Journal.newline)) := by
    rintro s kept ⟨dir, rfl, writing⟩
    split
    · exact .inl writing.settled
    · exact .inr (newline_ahead writing)
  refine triple_syscall ?_ ?_ (fun s _ kept _ => part s kept) (fun s kept _ => part s kept)
  · rintro s _ s' ⟨dir, rfl, writing⟩ done
    cases done
    exact newline_ahead writing
  · rintro s error ⟨dir, rfl, _⟩ impossible
    cases impossible

/- A whole commit. -/

/-- The chain as it was, or with the commit. -/
def Either (runId : String) (chain : List (Entry β γ)) (entry : Entry β γ) (run : Run β γ) : Prop :=
  Reads runId chain run ∨ Reads runId (chain ++ [entry]) run

theorem open_of_ready (ready : Ready chain run) (there : ∃ dir, run = some dir) :
    Open chain run := by
  obtain ⟨dir, rfl⟩ := there
  exact ⟨dir, rfl, ready.1, ready.2 dir rfl⟩

theorem ready_of_open (open_ : Open chain run) : Ready chain run := by
  obtain ⟨dir, rfl, settled, trimmed⟩ := open_
  refine ⟨settled, fun found same => ?_⟩
  cases same
  exact trimmed

theorem write_spec (good : Chain runId chain) (next : Chain runId (chain ++ [(snapshot, event)])) :
    Triple (Open chain) (do
      stageSnapshot calls event.sequence snapshot
      appendRecord calls event
      publishSnapshot calls event.sequence) (fun _ => Ready (chain ++ [(snapshot, event)]))
      (Short (Either runId chain (snapshot, event))) (Either runId chain (snapshot, event)) := by
  have sequence : event.sequence = chain.length + 1 := (chain_init next).2
  rw [sequence]
  have settled : ∀ s : Run β γ, Settled chain s → Either runId chain (snapshot, event) s :=
    fun s settled => .inl ⟨good, .inl settled⟩
  have ahead : ∀ s : Run β γ, Ahead chain (snapshot, event) s →
      Either runId chain (snapshot, event) s := fun s ahead => .inr (reads_ahead next ahead)
  refine triple_bind (triple_weaken stage_spec (fun _ open_ => open_) (fun _ _ staged => staged)
    (fun _ => settled) settled) (fun _ => ?_)
  have either : ∀ s : Run β γ, Settled chain s ∨ Ahead chain (snapshot, event) s →
      Either runId chain (snapshot, event) s := by
    rintro s (before | after)
    · exact settled s before
    · exact ahead s after
  refine triple_bind (triple_weaken append_spec (fun _ staged => staged) (fun _ _ staged => staged)
    (fun _ => either) either) (fun _ => ?_)
  exact triple_weaken (publish_spec next) (fun _ staged => staged) (fun _ _ ready => ready)
    (fun _ s short => .inr short.1) (fun s short => .inr short.1)

theorem checkPair_eq_ok (checked : checkPair snapshot event = .ok ()) :
    snapshot.runId = event.runId ∧ snapshot.lastSequence = event.sequence := by
  obtain ⟨fits, _⟩ := unless_eq_ok.1 checked
  obtain ⟨own, paired⟩ := not_or.1 fits
  exact ⟨not_not.1 own, not_not.1 paired⟩

theorem commitLocked_spec (good : Chain runId chain) (own : snapshot.runId = runId)
    (next : event.sequence = chain.length + 1) :
    Triple (Open chain) (commitLocked calls snapshot event false)
      (fun _ s => Chain runId (chain ++ [(snapshot, event)]) ∧
        Ready (chain ++ [(snapshot, event)]) s)
      (Short (Either runId chain (snapshot, event))) (Either runId chain (snapshot, event)) := by
  have short : ∀ s : Run β γ, Open chain s → Either runId chain (snapshot, event) s :=
    fun s open_ => .inl (reads_ready good (ready_of_open open_))
  refine triple_bind (Q := fun _ s => checkPair snapshot event = .ok () ∧ Open chain s)
    (triple_lift (fun _ _ open_ checked => ⟨checked, open_⟩) (fun s _ open_ _ => short s open_))
    (fun _ => triple_and (fun checked => ?_))
  obtain ⟨same, paired⟩ := checkPair_eq_ok checked
  have linked : Chain runId (chain ++ [(snapshot, event)]) :=
    chain_concat good next own same paired
  refine triple_bind (Q := fun _ => Open chain) ?_ (fun _ => ?_)
  · refine triple_bind (triple_finds (a := true) ?_ (fun s _ _ => short s) (fun s _ => short s))
      (fun there => triple_and (fun found => ?_))
    · rintro s ⟨dir, rfl, _⟩
      rfl
    · subst found
      exact triple_lift (fun _ _ open_ _ => open_) (fun _ _ _ impossible => nomatch impossible)
  · exact triple_weaken (write_spec good linked) (fun _ open_ => open_)
      (fun _ s ready => ⟨linked, ready⟩) (fun _ _ short => short) (fun _ short => short)

theorem createLocked_spec (own : snapshot.runId = runId) (first : event.sequence = 1) :
    Triple (Reads runId chain) (commitLocked calls snapshot event true)
      (fun _ s => chain = [] ∧ Chain runId [(snapshot, event)] ∧ Ready [(snapshot, event)] s)
      (Short (fun s => Reads runId chain s ∨ (chain = [] ∧ Reads runId [(snapshot, event)] s)))
      (fun s => Reads runId chain s ∨ (chain = [] ∧ Reads runId [(snapshot, event)] s)) := by
  refine triple_bind (Q := fun _ s => checkPair snapshot event = .ok () ∧ Reads runId chain s)
    (triple_lift (fun _ _ reads checked => ⟨checked, reads⟩) (fun s _ reads _ => .inl reads))
    (fun _ => triple_and (fun checked => ?_))
  obtain ⟨same, paired⟩ := checkPair_eq_ok checked
  have linked : Chain runId [(snapshot, event)] :=
    chain_concat (chain_nil runId) first own same paired
  refine triple_bind (Q := fun _ s => chain = [] ∧ Open [] s) ?_
    (fun _ => triple_and (fun empty => ?_))
  · unfold enterRunDir
    rw [if_pos rfl]
    refine triple_syscall ?_ (fun _ _ reads _ => .inl reads) (fun _ _ _ _ reads => .inl reads)
      (fun _ _ _ reads => .inl reads)
    intro s _ s' reads done
    cases s with
    | some dir => cases done
    | none =>
      cases done
      have empty : chain = [] := by
        rcases reads.files with settled | ⟨before, entry, _, dir, impossible, _⟩
        · exact settled
        · cases impossible
      refine ⟨empty, _, rfl, ⟨rfl, rfl, ?_⟩, ?_⟩
      · intro sequence content held
        cases held
      · intro journal held
        cases held
  · subst empty
    refine triple_weaken (write_spec (chain_nil runId) linked) (fun _ open_ => open_)
      (fun _ s ready => ⟨rfl, linked, ready⟩) (fun _ s => ?_) (fun s => ?_)
    · rintro (before | after)
      · exact .inl before
      · exact .inr ⟨rfl, after⟩
    · rintro (before | after)
      · exact .inl before
      · exact .inr ⟨rfl, after⟩

/-- The chain stays, or gets this commit where it is not closed. -/
def Extends (entry : Entry β γ) (chain later : List (Entry β γ)) : Prop :=
  later = chain ∨ (¬ Closed chain ∧ later = chain ++ [entry])

def Extended (runId : String) (entry : Entry β γ) (chain : List (Entry β γ)) (run : Run β γ) :
    Prop :=
  ∃ later, Extends entry chain later ∧ Reads runId later run

/-- The commit is in the chain, as far as its snapshot goes. -/
def Taken (runId : String) (entry : Entry β γ) (chain : List (Entry β γ)) (run : Run β γ) : Prop :=
  ∃ later, Extends entry chain later ∧ Reads runId later run ∧
    ∃ other ∈ later, other.1 = entry.1

theorem not_closed_nil : ¬ Closed ([] : List (Entry β γ)) := by
  rintro ⟨_, impossible, _⟩
  cases impossible

theorem extends_nil (grown : Extends entry chain []) : chain = [] := by
  rcases grown with same | ⟨_, same⟩
  · exact same.symm
  · have length := congrArg List.length same
    rw [length_append] at length
    cases length

theorem last_member (last : lastSnapshot chain = some snapshot) :
    ∃ other ∈ chain, other.1 = snapshot := by
  obtain ⟨other, found, same⟩ := map_eq_some_iff.1 last
  exact ⟨other, mem_of_mem_getLast? found, same⟩

theorem remake_spec (own : snapshot.runId = runId) (first : event.sequence = 1) :
    Triple (Settled []) (do
      removeDir calls
      commitLocked calls snapshot event true) (fun _ => Taken runId (snapshot, event) [])
      (Short (Extended runId (snapshot, event) [])) (Extended runId (snapshot, event) []) := by
  have short : ∀ s : Run β γ, Settled [] s → Extended runId (snapshot, event) [] s :=
    fun s settled => ⟨[], .inl rfl, chain_nil runId, .inl settled⟩
  refine triple_bind (Q := fun _ => Reads runId []) ?_ (fun _ => ?_)
  · refine triple_syscall ?_ (fun s _ settled _ => short s settled)
      (fun s _ _ _ settled => short s settled) (fun s _ _ settled => short s settled)
    intro s _ s' settled done
    cases s with
    | none => cases done
    | some dir =>
      dsimp only at done
      split at done
      · cases done
        exact ⟨chain_nil runId, .inl rfl⟩
      · cases done
  · have extended : ∀ s : Run β γ, Reads runId [] s ∨ (([] : List (Entry β γ)) = [] ∧
        Reads runId [(snapshot, event)] s) → Extended runId (snapshot, event) [] s := by
      rintro s (before | ⟨_, after⟩)
      · exact ⟨[], .inl rfl, before⟩
      · exact ⟨_, .inr ⟨not_closed_nil, rfl⟩, after⟩
    refine triple_weaken (createLocked_spec own first) (fun _ reads => reads) ?_
      (fun _ => extended) extended
    rintro _ s ⟨_, linked, ready⟩
    exact ⟨_, .inr ⟨not_closed_nil, rfl⟩, reads_ready linked ready, _, mem_cons_self, rfl⟩

theorem createAgain_spec (own : snapshot.runId = runId) (first : event.sequence = 1) :
    Triple (Ready []) (createAgain calls snapshot event) (fun _ => Taken runId (snapshot, event) [])
      (Short (Extended runId (snapshot, event) [])) (Extended runId (snapshot, event) []) := by
  have short : ∀ s : Run β γ, Settled [] s → Extended runId (snapshot, event) [] s :=
    fun s settled => ⟨[], .inl rfl, chain_nil runId, .inl settled⟩
  refine triple_bind (Q := fun _ => Settled []) (triple_reading (fun s _ ready _ => ready.1)
    (fun s _ ready _ => short s ready.1) (fun s _ _ ready => short s ready.1)
    (fun s _ ready => short s ready.1)) (fun removable => ?_)
  split
  · split
    · refine triple_bind (Q := fun _ => Settled []) ?_ (fun _ => remake_spec own first)
      refine triple_syscall ?_ (fun s _ settled _ => short s settled)
        (fun s _ _ _ settled => short s settled) (fun s _ _ settled => short s settled)
      intro s _ s' settled done
      cases s with
      | none => cases done
      | some dir =>
        cases done
        exact ⟨rfl, settled.snapshot, settled.staged⟩
    · exact remake_spec own first
  · exact triple_lift (fun _ _ _ impossible => nomatch impossible)
      (fun s _ settled _ => short s settled)

variable [DecidableEq β]

theorem create_spec (valid : validateId runId = .ok ()) (own : snapshot.runId = runId)
    (first : event.sequence = 1) :
    Triple (Reads runId chain) (create calls snapshot event)
      (fun _ => Taken runId (snapshot, event) chain)
      (Short (Extended runId (snapshot, event) chain)) (Extended runId (snapshot, event) chain) := by
  have extended : ∀ s : Run β γ, Reads runId chain s ∨ (chain = [] ∧
      Reads runId [(snapshot, event)] s) → Extended runId (snapshot, event) chain s := by
    rintro s (before | ⟨rfl, after⟩)
    · exact ⟨chain, .inl rfl, before⟩
    · exact ⟨_, .inr ⟨not_closed_nil, rfl⟩, after⟩
  refine triple_bind (triple_weaken (triple_caught (createLocked_spec own first)
    (Y := Short (Extended runId (snapshot, event) chain))) (fun _ reads => reads)
    (fun _ _ known => known) (fun _ _ short => short) extended) (fun created => ?_)
  cases created with
  | ok _ =>
    rintro s ⟨rfl, linked, ready⟩
    exact ⟨_, .inr ⟨not_closed_nil, rfl⟩, reads_ready linked ready, _, mem_cons_self, rfl⟩
  | error error =>
    cases error with
    | alreadyExists =>
      rw [own]
      refine triple_weaken (P := fun s => ∃ later, Extends (snapshot, event) chain later ∧
        Reads runId later s) ?_ (fun s known => extended s known) (fun _ _ known => known)
        (fun _ _ short => short) (fun _ short => short)
      refine triple_exists (fun later => triple_and (fun grown => ?_))
      intro disk reads
      have linked := reads.linked
      revert disk
      refine triple_bind (triple_weaken (recover_spec valid linked) (fun _ reads => reads)
        (fun _ _ known => known) (fun _ s short => ⟨later, grown, short.1⟩)
        (fun s short => ⟨later, grown, short.1⟩)) (fun current => triple_and (fun same => ?_))
      subst same
      split
      · rename_i same
        exact triple_pure (fun s ready => ⟨later, grown, reads_ready linked ready, last_member same⟩)
      · split
        · rename_i nothing
          have empty : later = [] := by
            rcases eq_nil_or_concat' later with none_ | ⟨before, entry, rfl⟩
            · exact none_
            · rw [lastSnapshot_concat] at nothing
              cases nothing
          subst empty
          cases extends_nil grown
          exact createAgain_spec own first
        · exact triple_lift (fun _ _ _ impossible => nomatch impossible)
            (fun s _ ready _ => ⟨later, grown, reads_ready linked ready⟩)
    | invalidInput =>
      exact triple_lift (fun _ _ _ impossible => nomatch impossible)
        (fun s _ known _ => extended s known)
    | notFound =>
      exact triple_lift (fun _ _ _ impossible => nomatch impossible)
        (fun s _ known _ => extended s known)
    | invalidData =>
      exact triple_lift (fun _ _ _ impossible => nomatch impossible)
        (fun s _ known _ => extended s known)
    | other =>
      exact triple_lift (fun _ _ _ impossible => nomatch impossible)
        (fun s _ known _ => extended s known)

theorem commit_spec (valid : validateId runId = .ok ()) (own : snapshot.runId = runId)
    (below : event.sequence < u64Max) (good : Chain runId chain) :
    Triple (Reads runId chain) (commit calls snapshot event)
      (fun _ => Taken runId (snapshot, event) chain)
      (Short (Extended runId (snapshot, event) chain)) (Extended runId (snapshot, event) chain) := by
  have still : ∀ s : Run β γ, Ready chain s → Extended runId (snapshot, event) chain s :=
    fun s ready => ⟨chain, .inl rfl, reads_ready good ready⟩
  unfold commit
  rw [own]
  refine triple_bind (triple_weaken (recover_spec valid good) (fun _ reads => reads)
    (fun _ _ known => known) (fun _ s short => ⟨chain, .inl rfl, short.1⟩)
    (fun s short => ⟨chain, .inl rfl, short.1⟩)) (fun found => triple_and (fun same => ?_))
  subst same
  cases last : lastSnapshot chain with
  | none =>
    exact triple_lift (fun _ _ _ impossible => nomatch impossible) (fun s _ ready _ => still s ready)
  | some current =>
    dsimp only
    split
    · rename_i repeated
      refine triple_pure (fun s ready => ⟨chain, .inl rfl, reads_ready good ready, ?_⟩)
      rw [repeated.2] at last
      exact last_member last
    · split
      · exact triple_lift (fun _ _ _ impossible => nomatch impossible)
          (fun s _ ready _ => still s ready)
      · rename_i running
        split
        · exact triple_lift (fun _ _ _ impossible => nomatch impossible)
            (fun s _ ready _ => still s ready)
        · rename_i next
          have open_ : ¬ Closed chain := by
            rintro ⟨snapshot, found, terminal⟩
            cases last.symm.trans found
            exact running terminal
          have counted := (last_numbered good).2
          rw [last] at counted
          have sequence : event.sequence = chain.length + 1 := by
            unfold saturatingSucc at next
            change current.lastSequence = chain.length at counted
            omega
          have nonempty : chain ≠ [] := by
            rintro rfl
            cases last
          have there : ∀ s : Run β γ, Ready chain s → Open chain s := by
            intro s ready
            cases s with
            | none => exact absurd ready.1 nonempty
            | some dir => exact open_of_ready ready ⟨dir, rfl⟩
          have extended : ∀ s : Run β γ, Either runId chain (snapshot, event) s →
              Extended runId (snapshot, event) chain s := by
            rintro s (before | after)
            · exact ⟨chain, .inl rfl, before⟩
            · exact ⟨_, .inr ⟨open_, rfl⟩, after⟩
          refine triple_weaken (commitLocked_spec good own sequence) there ?_ (fun _ => extended)
            extended
          rintro _ s ⟨linked, ready⟩
          exact ⟨_, .inr ⟨open_, rfl⟩, reads_ready linked ready, _,
            mem_append_right _ mem_cons_self, rfl⟩

end Specs

end Workflows
