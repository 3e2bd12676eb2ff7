import BambooAgent.Sessions.Durability

/- Commits of authoritative metadata between runtime saves: which messages stay, and how long
   an edit does. -/
namespace Sessions
open SortedMaps Compression Versions Checks SortedMap Option

/- The authoritative fields. -/

/-- The fields that a metadata version stands for. -/
structure AuthoritativeFields where
  title : String
  titleVersion : Nat
  titleGenerated : Bool
  pinned : Bool
  metadata : List (Option String)

def Session.authoritative (session : Session) : Versioned AuthoritativeFields :=
  { version := session.metadataVersion,
    value :=
      { title := session.title, titleVersion := session.titleVersion,
        titleGenerated := session.titleGenerated, pinned := session.pinned,
        metadata := authoritativeMetadataKeys.map session.metadata.lookup } }

variable {session : Session}

theorem authoritative_congr {other : Session}
    (version : other.metadataVersion = session.metadataVersion)
    (title : other.title = session.title)
    (titleVersion : other.titleVersion = session.titleVersion)
    (titleGenerated : other.titleGenerated = session.titleGenerated)
    (pinned : other.pinned = session.pinned)
    (metadata : ∀ key ∈ authoritativeMetadataKeys,
      other.metadata.lookup key = session.metadata.lookup key) :
    other.authoritative = session.authoritative := by
  have values : authoritativeMetadataKeys.map other.metadata.lookup =
      authoritativeMetadataKeys.map session.metadata.lookup := List.map_congr_left metadata
  simp only [Session.authoritative, version, title, titleVersion, titleGenerated, pinned, values]

theorem authoritative_ne (authoritative : key ∈ authoritativeMetadataKeys)
    (plain : other ∉ authoritativeMetadataKeys) : key ≠ other :=
  fun same => plain (same ▸ authoritative)

variable {latest : Session}

theorem authoritative_adoptGroup (behind : session.metadataVersion ≤ latest.metadataVersion) :
    (adoptMetadataGroup session latest).authoritative = latest.authoritative := by
  unfold adoptMetadataGroup
  rw [if_pos behind]
  refine authoritative_congr rfl rfl rfl rfl rfl ?_
  intro key authoritative
  rw [lookup_adoptKeys, if_pos authoritative]

theorem version_of_lanes {other : Session} (same : other.lanes = session.lanes) :
    other.metadataVersion = session.metadataVersion :=
  congrArg (fun lanes : Lanes => lanes.group.version) same

theorem version_adoptGenerations (session latest : Session) :
    (adoptChildGenerations session latest).metadataVersion = session.metadataVersion := by
  unfold adoptChildGenerations adoptIntentGeneration adoptCancelledGeneration
    adoptLaunchGeneration
  dsimp only
  repeat' split
  all_goals rfl

theorem version_adoptRootMode (session latest : Session) :
    (adoptRootMode session latest).metadataVersion = session.metadataVersion := by
  obtain ⟨ledger, _, lanes⟩ := lanes_adoptRootMode session latest
  exact congrArg (fun lanes : Lanes => lanes.group.version) lanes

theorem authoritative_apply (behind : session.metadataVersion ≤ latest.metadataVersion) :
    (applyAuthoritativeMetadata session latest).authoritative = latest.authoritative := by
  refine authoritative_adoptGroup ?_
  rw [version_of_lanes (lanes_adoptProjectContext _ latest),
    version_of_lanes (lanes_adoptManagement _ latest), version_adoptRootMode,
    version_of_lanes (lanes_adoptIdentity _ latest), version_adoptGenerations,
    version_of_lanes (lanes_adoptFence session latest)]
  exact behind

/- Helpers after the authoritative step leave its fields alone. -/

@[simp] theorem authoritative_restore (session durable : Session) :
    (restoreMissingAdmittedInboxMessages session durable).authoritative =
      session.authoritative := rfl

@[simp] theorem authoritative_mergeAdmission (session durable : Session) :
    (mergeSessionInboxAdmission session durable).authoritative = session.authoritative := by
  unfold mergeSessionInboxAdmission
  split <;> rfl

@[simp] theorem authoritative_adoptState (session latest : Session) :
    (adoptDurableModelContextState session latest).authoritative = session.authoritative := rfl

@[simp] theorem authoritative_adoptLedger (session latest : Session) :
    (adoptFresherDurableModelContextState session latest).authoritative =
      session.authoritative := by
  unfold adoptFresherDurableModelContextState
  split <;> rfl

@[simp] theorem authoritative_adoptPosture (rfc3339 : String → Bool) (clock : Clock)
    (session latest : Session) :
    (adoptFresherDiskPermissionPosture rfc3339 clock session latest).authoritative =
      session.authoritative := by
  unfold adoptFresherDiskPermissionPosture
  split
  · rfl
  · dsimp only
    split
    · rfl
    · refine authoritative_congr rfl rfl rfl rfl rfl ?_
      intro key authoritative
      refine lookup_writeTo _ _ (fun audited => ?_)
      exact absurd authoritative (by revert key; decide)

@[simp] theorem authoritative_adoptTaggedWait (session latest : Session) :
    (adoptDurableTaggedChildWait session latest).1.authoritative = session.authoritative := by
  unfold adoptDurableTaggedChildWait
  repeat' split
  all_goals
    first
    | rfl
    | exact authoritative_congr rfl rfl rfl rfl rfl (fun key authoritative =>
        lookup_erase_other _ (authoritative_ne authoritative (by decide)))

theorem authoritative_prune (session : Session) :
    session.pruneRuntimeMetadata.authoritative = session.authoritative := by
  rw [prune_fields session]
  rfl

theorem authoritative_setTaskListVersionMeta (session : Session) (value : String) :
    (session.setTaskListVersionMeta value).authoritative = session.authoritative :=
  authoritative_congr rfl rfl rfl rfl rfl (fun _ authoritative =>
    lookup_insert_other _ _ (authoritative_ne authoritative (by decide)))

@[simp] theorem authoritative_adoptTaskControlPlane (session durable : Session) :
    (adoptDurableTaskControlPlane session durable).authoritative = session.authoritative := by
  have erased : ∀ key ∈ authoritativeMetadataKeys,
      (session.metadata.erase taskListVersionKey).lookup key = session.metadata.lookup key :=
    fun key authoritative =>
      lookup_erase_other _ (authoritative_ne authoritative (by decide))
  unfold adoptDurableTaskControlPlane
  dsimp only
  split
  on_goal 1 => rw [authoritative_setTaskListVersionMeta]
  all_goals
    rw [authoritative_prune]
    exact authoritative_congr rfl rfl rfl rfl rfl erased

/- What a save keeps of the durable transcript. -/

/-- A helper keeps the transcript that it works on, or brings the whole durable one. -/
def Sustains (latest before after : List Message) : Prop :=
  (∀ m ∈ before, m ∈ after) ∨ ∀ m ∈ latest, m ∈ after

theorem sustains_refl (latest messages : List Message) : Sustains latest messages messages :=
  .inl (fun _ member => member)

theorem sustains_trans {latest : List Message} (first : Sustains latest a b)
    (second : Sustains latest b c) : Sustains latest a c := by
  rcases second with kept | brought
  · rcases first with early | early
    · exact .inl (fun m member => kept m (early m member))
    · exact .inr (fun m member => kept m (early m member))
  · exact .inr brought

theorem sustains_held {latest : List Message} (sustains : Sustains latest before after)
    (member : m ∈ latest) (held : ∃ h ∈ before, h.id = m.id) : ∃ h ∈ after, h.id = m.id := by
  rcases sustains with kept | brought
  · obtain ⟨h, there, same⟩ := held
    exact ⟨h, kept h there, same⟩
  · exact ⟨m, brought m member, rfl⟩

theorem sustains_handoff
    (run : adoptDurableActorParentQuestionHandoff codec session latest = .ok handed) :
    Sustains latest.messages session.messages handed.messages := by
  unfold adoptDurableActorParentQuestionHandoff at run
  dsimp only at run
  split at run
  · cases run
    exact sustains_refl _ _
  · split at run
    · cases run
    · cases run
      exact .inr (fun m member => member)

theorem sustains_resumes (latest : Session) (outcome : Session × Option Nat) :
    Sustains latest.messages outcome.1.messages (preserveResumesOf latest outcome).messages := by
  left
  intro m member
  unfold preserveResumesOf preserveFinalizedHiddenChildResumes
  split
  · exact List.mem_append_left _ member
  · exact member

theorem sustains_consumed (codec : Codec) (session latest : Session) :
    Sustains latest.messages session.messages
      (adoptDurableConsumedClarification codec session latest).messages := by
  unfold adoptDurableConsumedClarification
  split
  · exact sustains_refl _ _
  · split
    · exact sustains_refl _ _
    · exact .inr (fun m member => appendMissing_durable codec session latest member)

theorem prepareRuntime_sustains
    (run : prepareRuntime codec finalizeChildWait session latest = .ok answered) :
    Sustains latest.messages session.messages answered.messages := by
  let P : Session → Prop := fun s => Sustains latest.messages session.messages s.messages
  refine prepareRuntime_rule (P := P) (Q := P) ?_ ?_ ?_ ?_ ?_ run
  · exact fun next handoff => sustains_handoff handoff
  · intro s next sustains outcomes
    have same := messages_adoptOutcomes outcomes
    exact sustains_trans sustains (same ▸ sustains_refl _ _)
  · intro s sustains
    refine sustains_trans ?_ (sustains_resumes latest _)
    rw [messages_adoptFinalizedWait]
    exact sustains
  · intro s sustains
    refine sustains_trans ?_ (sustains_resumes latest _)
    rw [messages_adoptTaggedWait]
    exact sustains
  · exact fun s sustains => sustains_trans sustains (sustains_consumed codec s latest)

theorem settleRuntime_held (codec : Codec) (clock : Clock) (adoptBypass : Bool)
    (member : m ∈ latest.messages)
    (held : restorable latest m = true ∨ ∃ h ∈ answered.messages, h.id = m.id) :
    ∃ h ∈ (settleRuntime codec clock adoptBypass answered latest).messages, h.id = m.id := by
  rw [messages_settleRuntime]
  rcases held with admitted | ⟨h, there, same⟩
  · exact restore_held member admitted
  · exact ⟨h, restore_kept there, same⟩

theorem authoritative_settleRuntime (codec : Codec) (clock : Clock) (adoptBypass : Bool)
    (behind : answered.metadataVersion ≤ latest.metadataVersion) :
    (settleRuntime codec clock adoptBypass answered latest).authoritative =
      latest.authoritative := by
  unfold settleRuntime
  rw [authoritative_adoptLedger]
  split
  · rw [authoritative_adoptPosture, authoritative_mergeAdmission, authoritative_restore,
      authoritative_apply behind]
  · rw [authoritative_mergeAdmission, authoritative_restore, authoritative_apply behind]

variable {storage : Storage} {saved : Session}

section
variable (behind : session.metadataVersion ≤ latest.metadataVersion)
include behind

theorem saveRuntime_keeps
    (run : mergeSaveRuntimeInner codec clock storage adoptBypass finalizeChildWait (some latest)
      session = .ok saved) :
    saved.authoritative = latest.authoritative ∧
      ∀ m ∈ latest.messages,
        (restorable latest m = true ∨ ∃ h ∈ session.messages, h.id = m.id) →
          ∃ h ∈ saved.messages, h.id = m.id := by
  refine saveRuntime_rule (P := fun s => s.authoritative = latest.authoritative ∧
    ∀ m ∈ latest.messages,
      (restorable latest m = true ∨ ∃ h ∈ session.messages, h.id = m.id) →
        ∃ h ∈ s.messages, h.id = m.id) ?_ ?_ run
  · rintro s ⟨fields, transcript⟩
    rw [authoritative_adoptTaskControlPlane, messages_adoptTaskControlPlane]
    exact ⟨fields, transcript⟩
  · intro candidate merged
    obtain ⟨answered, prepared, rfl⟩ := mergeRuntime_eq_ok merged
    obtain ⟨⟨status, lanes⟩, _⟩ := prepareRuntime_drawn prepared
    have version : answered.metadataVersion = session.metadataVersion :=
      congrArg (fun lanes : Lanes => lanes.group.version) lanes
    refine ⟨authoritative_settleRuntime codec clock adoptBypass (version.trans_le behind), ?_⟩
    intro m member held
    refine settleRuntime_held codec clock adoptBypass member ?_
    rcases held with admitted | held
    · exact .inl admitted
    · exact .inr (sustains_held (prepareRuntime_sustains prepared) member held)

theorem reconcile_keeps
    (run : reconcileRuntimeCheckpoint codec clock session latest = .ok candidate) :
    candidate.authoritative = latest.authoritative ∧
      ∀ m ∈ latest.messages, m ∈ candidate.messages := by
  obtain ⟨_, _, _, _, _, _, _, held⟩ := reconcile_shape run
  refine ⟨?_, held⟩
  obtain ⟨_, _, run⟩ := bind_eq_ok.1 run
  obtain ⟨supervised, outcomes, run⟩ := bind_eq_ok.1 run
  obtain ⟨admission, _, admitted⟩ := lanes_mergeAdmission
    (appendMissingRuntimeMessages codec supervised latest) latest
  have version : (adoptDurableConsumedClarification codec (mergeSessionInboxAdmission
      (appendMissingRuntimeMessages codec supervised latest) latest) latest).metadataVersion =
        session.metadataVersion := by
    rw [version_of_lanes (lanes_adoptConsumed codec _ latest)]
    refine (congrArg (fun lanes : Lanes => lanes.group.version) admitted).trans ?_
    exact version_of_lanes
      ((lanes_appendMissing codec supervised latest).trans (lanes_adoptOutcomes outcomes))
  rw [← pure_eq_ok.1 run, authoritative_adoptTaggedWait, authoritative_adoptPosture]
  exact authoritative_apply (version.trans_le behind)

theorem checkpoint_keeps
    (run : checkpointRuntimeSessionWithInput codec clock storage draws none (some latest)
      session = .ok saved) :
    saved.authoritative = latest.authoritative ∧ ∀ m ∈ latest.messages, m ∈ saved.messages := by
  refine checkpoint_rule (P := fun s => s.authoritative = latest.authoritative ∧
    ∀ m ∈ latest.messages, m ∈ s.messages) ?_ ?_ ?_ (fun _ merged => reconcile_keeps behind merged)
    run
  · rintro s ⟨fields, transcript⟩
    rw [authoritative_adoptTaskControlPlane, messages_adoptTaskControlPlane]
    exact ⟨fields, transcript⟩
  · intro prompt absent _ _ kept
    cases absent
    exact kept
  · rintro s next ⟨fields, _⟩ reconciled
    have version : s.metadataVersion = latest.metadataVersion :=
      congrArg Versioned.version fields
    exact reconcile_keeps version.le reconciled

end

theorem commit_writes (run : commitMetadata codec storage (some latest) session = .ok committed) :
    committed.authoritative = session.authoritative ∧ committed.messages = session.messages := by
  obtain ⟨_, _, run⟩ := bind_eq_ok.1 run
  refine written_rule (P := fun s => s.authoritative = session.authoritative ∧
    s.messages = session.messages) ?_ ⟨authoritative_adoptState session latest, rfl⟩ run
  rintro other _ s ⟨fields, transcript⟩
  rw [authoritative_adoptTaskControlPlane, messages_adoptTaskControlPlane]
  exact ⟨fields, transcript⟩

/- The interleavings. -/

inductive Entry where
  | runtime
  | checkpoint
  | commit

/-- The edit of a caller that loaded `base`: a larger version over the transcript it loaded. -/
structure Edited (base session : Session) : Prop where
  messages : session.messages = base.messages
  version : base.metadataVersion < session.metadataVersion

/-- A commit of an edit by a writer, over whatever is durable by then. -/
structure Commits (codec : Codec) (writer : String) (latest session : Session)
    (world next : World) : Prop where
  cell : world.cell = some latest
  edit : ∃ base, world.held writer = some base ∧ Edited base session
  run : ∃ storage committed, commitMetadata codec storage (some latest) session = .ok committed ∧
    next = { cell := some committed, held := Function.update world.held writer (some session) }

/-- The steps of editors and of runtime writers. A runtime writer does what it likes with its
    copy, but bumps no version. `meets` is what is asked of each save. -/
inductive Interleaved (codec : Codec) (meets : Entry → Session → Session → Prop) :
    World → World → Prop where
  | loads {world : World} (writer : String) :
      Interleaved codec meets world
        { world with held := Function.update world.held writer world.cell }
  | works {world : World} (writer : String) {base session : Session}
      (holds : world.held writer = some base)
      (version : session.metadataVersion = base.metadataVersion) :
      Interleaved codec meets world
        { world with held := Function.update world.held writer (some session) }
  | saves {world : World} (writer : String) {clock : Clock} {storage : Storage}
      {adoptBypass finalizeChildWait : Bool} {latest session saved : Session}
      (cell : world.cell = some latest) (holds : world.held writer = some session)
      (meet : meets .runtime latest session)
      (run : mergeSaveRuntimeInner codec clock storage adoptBypass finalizeChildWait
        (some latest) session = .ok saved) :
      Interleaved codec meets world
        { cell := some saved, held := Function.update world.held writer (some saved) }
  | checkpoints {world : World} (writer : String) {clock : Clock} {storage : Storage}
      {draws : Nat → Draw} {latest session saved : Session}
      (cell : world.cell = some latest) (holds : world.held writer = some session)
      (meet : meets .checkpoint latest session)
      (run : checkpointRuntimeSessionWithInput codec clock storage draws none (some latest)
        session = .ok saved) :
      Interleaved codec meets world
        { cell := some saved, held := Function.update world.held writer (some saved) }
  | commits {world next : World} (writer : String) {latest session : Session}
      (meet : meets .commit latest session)
      (commit : Commits codec writer latest session world next) :
      Interleaved codec meets world next

abbrev Interleaving (codec : Codec) (meets : Entry → Session → Session → Prop) :
    World → World → Prop :=
  Relation.ReflTransGen (Interleaved codec meets)

/-- A durable session that nobody has loaded yet. -/
def opened (durable : Session) : World := { cell := some durable, held := fun _ => none }

/-- What a commit owes the transcript before it and the saves after it. -/
structure CommitLaw (codec : Codec) (meets : Entry → Session → Session → Prop) : Prop where
  transcript : ∀ {durable early latest session committed : Session} {writer : String}
    {earlier before after : World},
    Interleaving codec meets (opened durable) earlier → earlier.cell = some early →
    Interleaving codec meets earlier before → meets .commit latest session →
    Commits codec writer latest session before after → after.cell = some committed →
      IdsKept early.messages committed.messages
  /-- Until a commit with a larger version. -/
  edit : ∀ {durable latest session last : Session} {writer : String}
    {before after later : World},
    Interleaving codec meets (opened durable) before → meets .commit latest session →
    Commits codec writer latest session before after →
    Interleaving codec (fun entry l s => meets entry l s ∧
      (entry = .commit → s.metadataVersion ≤ session.metadataVersion)) after later →
    later.cell = some last → last.authoritative = session.authoritative

/-- The copy accounts for the durable session: a runtime save for each durable message that
    the inbox did not give out, a commit for all of them and for the durable version. -/
def Covers : Entry → Session → Session → Prop
  | .runtime, latest, session =>
    ∀ m ∈ latest.messages, restorable latest m = true ∨ ∃ h ∈ session.messages, h.id = m.id
  | .checkpoint, _, _ => True
  | .commit, latest, session =>
    IdsKept latest.messages session.messages ∧ latest.metadataVersion < session.metadataVersion

/-- No copy is ahead of the durable version. -/
structure Behind (durable : Session) (world : World) : Prop where
  cell : world.cell = some durable
  held : ∀ writer s, world.held writer = some s → s.metadataVersion ≤ durable.metadataVersion

theorem behind_saved (behind : Behind durable world)
    (grows : durable.metadataVersion ≤ saved.metadataVersion) (writer : String)
    (own : copy.metadataVersion ≤ saved.metadataVersion) :
    Behind saved { cell := some saved, held := Function.update world.held writer (some copy) } where
  cell := rfl
  held := held_update (fun other s held => (behind.held other s held).trans grows) writer
    (fun _ same => some.inj same ▸ own)

theorem commits_behind (behind : Behind durable before) (covers : Covers .commit latest session)
    (commit : Commits codec writer latest session before after) :
    ∃ committed, Behind committed after ∧ IdsKept durable.messages committed.messages ∧
      committed.authoritative = session.authoritative := by
  cases some.inj (behind.cell.symm.trans commit.cell)
  obtain ⟨storage, committed, run, rfl⟩ := commit.run
  obtain ⟨fields, transcript⟩ := commit_writes run
  have version : committed.metadataVersion = session.metadataVersion :=
    congrArg Versioned.version fields
  have newer := covers.2
  refine ⟨committed, behind_saved behind (by omega) writer version.ge, ?_, fields⟩
  rw [transcript]
  exact covers.1

variable {meets : Entry → Session → Session → Prop}

section
variable (covers : ∀ entry latest s, meets entry latest s → Covers entry latest s)
include covers

section
variable (behind : Behind durable world)
include behind

theorem interleaved_keeps (step : Interleaved codec meets world next) :
    ∃ last, Behind last next ∧ IdsKept durable.messages last.messages ∧
      (last.authoritative = durable.authoritative ∨
        ∃ session, meets .commit durable session) := by
  cases step with
  | loads writer =>
    have own : ∀ s, world.cell = some s → s.metadataVersion ≤ durable.metadataVersion :=
      fun s loaded => (some.inj (behind.cell.symm.trans loaded) ▸ le_rfl)
    exact ⟨durable, ⟨behind.cell, held_update behind.held writer own⟩, idsKept_refl _,
      .inl rfl⟩
  | @works writer base session holds version =>
    have own : session.metadataVersion ≤ durable.metadataVersion :=
      version.trans_le (behind.held writer base holds)
    exact ⟨durable, ⟨behind.cell, held_update behind.held writer
      (fun _ same => some.inj same ▸ own)⟩, idsKept_refl _, .inl rfl⟩
  | @saves writer _ _ _ _ latest session saved cell holds meet run =>
    cases some.inj (behind.cell.symm.trans cell)
    obtain ⟨fields, transcript⟩ := saveRuntime_keeps (behind.held writer session holds) run
    have version : durable.metadataVersion = saved.metadataVersion :=
      (congrArg Versioned.version fields).symm
    exact ⟨saved, behind_saved behind version.le writer le_rfl,
      fun m member => transcript m member (covers _ _ _ meet m member), .inl fields⟩
  | @checkpoints writer _ _ _ latest session saved cell holds meet run =>
    cases some.inj (behind.cell.symm.trans cell)
    obtain ⟨fields, transcript⟩ := checkpoint_keeps (behind.held writer session holds) run
    have version : durable.metadataVersion = saved.metadataVersion :=
      (congrArg Versioned.version fields).symm
    exact ⟨saved, behind_saved behind version.le writer le_rfl,
      idsKept_of_subset transcript, .inl fields⟩
  | @commits _ writer latest session meet commit =>
    cases some.inj (behind.cell.symm.trans commit.cell)
    obtain ⟨committed, reached, kept, _⟩ := commits_behind behind (covers _ _ _ meet) commit
    exact ⟨committed, reached, kept, .inr ⟨session, meet⟩⟩

theorem interleaving_keeps (run : Interleaving codec meets world later) :
    ∃ last, Behind last later ∧ IdsKept durable.messages last.messages := by
  induction run with
  | refl => exact ⟨durable, behind, idsKept_refl _⟩
  | tail _ step ih =>
    obtain ⟨middle, reached, kept⟩ := ih
    obtain ⟨last, after, again, _⟩ := interleaved_keeps covers reached step
    exact ⟨last, after, idsKept_trans kept again⟩

theorem interleaving_holds
    (low : ∀ latest s, meets .commit latest s → s.metadataVersion ≤ durable.metadataVersion)
    (run : Interleaving codec meets world later) :
    ∃ last, Behind last later ∧ last.authoritative = durable.authoritative := by
  induction run with
  | refl => exact ⟨durable, behind, rfl⟩
  | tail _ step ih =>
    obtain ⟨middle, reached, fields⟩ := ih
    obtain ⟨last, after, _, unchanged⟩ := interleaved_keeps covers reached step
    rcases unchanged with same | ⟨session, meet⟩
    · exact ⟨last, after, same.trans fields⟩
    · have version : middle.metadataVersion = durable.metadataVersion :=
        congrArg Versioned.version fields
      have newer : middle.metadataVersion < session.metadataVersion :=
        (covers .commit middle session meet).2
      have bound := low middle session meet
      omega

end

end

theorem opened_behind (durable : Session) : Behind durable (opened durable) :=
  ⟨rfl, fun _ _ held => nomatch held⟩

/-- In every interleaving whose saves cover what is durable, a commit loses no message and
    its edit stays until a later version. -/
theorem commitLaw_of_covers (codec : Codec) : CommitLaw codec Covers where
  transcript := by
    intro durable early latest session committed writer earlier before after first cell second
      meet commit after_cell
    obtain ⟨there, reached, _⟩ :=
      interleaving_keeps (fun _ _ _ meet => meet) (opened_behind durable) first
    cases Option.some.inj (reached.cell.symm.trans cell)
    obtain ⟨middle, behind, kept⟩ := interleaving_keeps (fun _ _ _ meet => meet) reached second
    obtain ⟨written, written_behind, again, _⟩ := commits_behind behind meet commit
    cases Option.some.inj (written_behind.cell.symm.trans after_cell)
    exact idsKept_trans kept again
  edit := by
    intro durable latest session last writer before after later first meet commit second cell
    obtain ⟨middle, behind, _⟩ :=
      interleaving_keeps (fun _ _ _ meet => meet) (opened_behind durable) first
    obtain ⟨committed, reached, _, fields⟩ := commits_behind behind meet commit
    have version : committed.metadataVersion = session.metadataVersion :=
      congrArg Versioned.version fields
    obtain ⟨final, at_end, same⟩ := interleaving_holds (fun _ _ _ meet => meet.1) reached
      (fun _ _ meet => (meet.2 rfl).trans version.ge) second
    cases Option.some.inj (at_end.cell.symm.trans cell)
    exact same.trans fields

/- A message appended between the load of an editor and its commit. -/

def openedSession : Session := Session.new "s" "model" 1

def lateMessage : Message :=
  { Compression.Message.user "m" "late" with createdAt := 5, metadata := none }

def appendedCopy : Session := { openedSession with messages := [lateMessage] }

def renamedCopy : Session := { openedSession with title := "Renamed", metadataVersion := 1 }

theorem commit_drops_append : ¬ CommitLaw sampleCodec (fun _ _ _ => True) := by
  intro law
  obtain ⟨saved, committed, run, wrote, appended, dropped⟩ : ∃ saved committed,
      mergeSaveRuntimeInner sampleCodec sampleClock (fun _ _ => .ok ()) true false
        (some openedSession) appendedCopy = .ok saved ∧
      commitMetadata sampleCodec (fun _ _ => .ok ()) (some saved) renamedCopy = .ok committed ∧
      saved.messages = [lateMessage] ∧ committed.messages = [] := ⟨_, _, rfl, rfl, rfl, rfl⟩
  let copies : String → Option Session := Function.update (Function.update
    (Function.update (fun _ => none) "editor" (some openedSession)) "runner"
      (some openedSession)) "runner" (some appendedCopy)
  have loaded : Interleaving sampleCodec (fun _ _ _ => True) (opened openedSession)
      { cell := some openedSession, held := copies } :=
    ((Relation.ReflTransGen.single (.loads "editor")).tail (.loads "runner")).tail
      (@Interleaved.works _ _ _ "runner" openedSession appendedCopy rfl rfl)
  have appends : Interleaving sampleCodec (fun _ _ _ => True) (opened openedSession)
      { cell := some saved, held := Function.update copies "runner" (some saved) } :=
    loaded.tail (.saves "runner" rfl rfl trivial run)
  have commit : Commits sampleCodec "editor" saved renamedCopy
      { cell := some saved, held := Function.update copies "runner" (some saved) } _ :=
    ⟨rfl, ⟨openedSession, rfl, rfl, by decide⟩, _, committed, wrote, rfl⟩
  have kept := law.transcript appends rfl .refl trivial commit rfl
  rw [appended, dropped] at kept
  obtain ⟨held, member, _⟩ := kept lateMessage (List.mem_singleton.mpr rfl)
  cases member

end Sessions
