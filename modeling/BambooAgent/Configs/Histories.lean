import BambooAgent.Configs.Revisions

/- Whole histories of one document: commits and loads that may stop anywhere, and damage to the
   primary in between. -/
namespace Configs
open Faults Interleavings Option
open Crashes (Stop)

section Repairs
variable (store : Store α)

/-- A repair allocates above this revision: an envelope still shows it, or it is not above what
    the recovered backup makes the commit assume, or repair authority knows it. -/
def remembers (files : Files α) (authority : CommitAuthority α) (revision : Nat) : Bool :=
  revision ≤ observedRevisionFloor store files ||
  (match loaded store files with
    | .ok (some stored) => revision ≤ stored.revision + stored.generation.elim 0 (· + 1)
    | .ok none | .error _ => false) ||
  authority.repairRevision.any (fun live => revision ≤ live)

/-- The primary is unusable, and an issued revision is not remembered anywhere. -/
def forgets (files : Files α) (authority : CommitAuthority α) : Bool :=
  !primaryUsable store files && files.issued.any (fun r => !remembers store files authority r)

/-- A usable primary has the largest of the issued revisions, and a primary never goes away. -/
structure Counted (files : Files α) : Prop where
  newest : ∀ {content document}, files.primary = some content →
    usable store content = .ok document → ∀ r ∈ files.issued, r ≤ document.revision
  none_ : files.primary = none → files.issued = []
  increasing : files.issued.Pairwise (· < ·)

end Repairs

section Commits
variable {store : Store α} {files : Files α} {authority : CommitAuthority α}
  {expected minimum revision : Nat} {faults : Schedule Unit} {s : Files α}

theorem remembered (unusable : primaryUsable store files = false)
    (kept : forgets store files authority = false) (issued : r ∈ files.issued) :
    r ≤ observedRevisionFloor store files ∨
      (∃ stored, loaded store files = .ok (some stored) ∧
        r ≤ stored.revision + stored.generation.elim 0 (· + 1)) ∨
      ∃ live, authority.repairRevision = some live ∧ r ≤ live := by
  have shows_ : remembers store files authority r = true := by
    unfold forgets at kept
    rw [unusable, Bool.not_false, Bool.true_and, List.any_eq_false] at kept
    simpa using kept r issued
  unfold remembers at shows_
  rw [Bool.or_eq_true, Bool.or_eq_true] at shows_
  rcases shows_ with (envelope | backup) | live
  · exact .inl (of_decide_eq_true envelope)
  · refine .inr (.inl ?_)
    split at backup
    · rename_i stored read
      exact ⟨stored, read, of_decide_eq_true backup⟩
    · cases backup
    · cases backup
  · obtain ⟨known, repairing, below⟩ := (any_eq_true _ _).1 live
    exact .inr (.inr ⟨known, repairing, of_decide_eq_true below⟩)

theorem quarantine_spec :
    Triple (fun t => t = s) (quarantinePrimary store faults) (fun _ t => t = s)
      (Short (fun t => t = s)) (fun t => t = s) := by
  refine triple_look_at ?_
  split
  · exact triple_installAt (fun _ same => same) (fun _ same => same) (fun _ same => same)
  · exact triple_pure (fun _ same => same)

theorem load_spec :
    Triple (fun t => t = s) (load store faults) (fun value t => t = s ∧ loaded store s = .ok value)
      (Short (fun t => t = s)) (fun t => t = s) := by
  refine triple_bind quarantine_spec (fun _ => triple_look_at ?_)
  exact triple_lift (fun t value same found => ⟨same, found⟩) (fun t error same _ => same)

theorem load_healthy (clock : Nat) :
    (load store healthy ⟨s, clock⟩).1 = (loaded store s).mapError Stop.failed := by
  have quarantine : (quarantinePrimary store healthy ⟨s, clock⟩).1 = .ok () ∧
      (quarantinePrimary store healthy ⟨s, clock⟩).2.state = s := by
    change ((if needsQuarantine store s then installAt healthy id else pure ()) ⟨s, clock⟩).1 = _ ∧
      ((if needsQuarantine store s then installAt healthy id else pure ()) ⟨s, clock⟩).2.state = s
    split
    · exact ⟨rfl, rfl⟩
    · exact ⟨rfl, rfl⟩
  change (Crashes.Program.bind (quarantinePrimary store healthy) _ _).1 = _
  unfold Crashes.Program.bind
  cases ran : quarantinePrimary store healthy ⟨s, clock⟩ with
  | mk result disk =>
    rw [ran] at quarantine
    obtain ⟨rfl, rfl⟩ := quarantine
    change (lift (loaded store disk.state) disk).1 = _
    cases loaded store disk.state <;> rfl

theorem actual_live {stored : StoredValue α} (recovered : stored.recoveredFromBackup = true) :
    live ≤ actualRevision (some stored) (some live) := by
  simp only [actualRevision]
  split
  · exact Nat.le_refl live
  · rename_i above
    rw [not_and] at above
    have := above recovered
    omega

variable [DecidableEq α]

theorem allocate_larger (counted : Counted store files)
    (kept : forgets store files authority = false)
    (allocated : allocate store files authority expected minimum = .ok revision) :
    ∀ r ∈ files.issued, r < revision := by
  intro r issued
  obtain ⟨stored, floor, base, _, same, floors, rfl⟩ := allocate_spec allocated
  rcases commitBase_cases base with ⟨absent, rfl⟩ | ⟨content, document, there, reads, rfl⟩ |
    ⟨content, generation, document, there, unusable, newest, read, rfl⟩ |
    ⟨unusable, needed, ⟨error, read⟩, rfl⟩
  · rw [counted.none_ absent] at issued
    cases issued
  · have below := counted.newest there reads r issued
    simp only [allocationFloor, StoredValue.recoveredFromBackup, isSome_none,
      Bool.false_eq_true, if_false, Except.ok.injEq] at floors
    omega
  · simp only [allocationFloor, StoredValue.recoveredFromBackup, isSome_some, if_true,
      revisionFloor] at floors
    cases sum : checkedAdd document.revision (generation + 1) with
    | error error =>
      rw [sum] at floors
      cases floors
    | ok total =>
      rw [sum] at floors
      have counted_ := checkedAdd_ok sum
      have floor_eq : floor = max total (observedRevisionFloor store files) :=
        (Except.ok.inj floors).symm
      rcases remembered unusable kept issued with envelope | ⟨found, again, below⟩ |
        ⟨live, repairing, below⟩
      · omega
      · rw [read] at again
        cases again
        simp only [elim_some] at below
        omega
      · have above : live ≤ expected := by
          rw [← same, repairing]
          exact actual_live rfl
        omega
  · rw [allocationFloor, needed] at floors
    simp only [if_true, Except.ok.injEq] at floors
    rcases remembered unusable kept issued with envelope | ⟨found, again, below⟩ |
      ⟨live, repairing, below⟩
    · omega
    · rw [read] at again
      cases again
    · rw [repairing] at same
      have equal : live = expected := same
      omega

/-- What the commit has installed, if it came to it. -/
structure Committed (store : Store α) (s : Files α) (authority : CommitAuthority α)
    (expected : Nat) (candidate : α) (revision : Nat) (t : Files α) : Prop where
  allocated : allocate store s authority expected 0 = .ok revision
  valid : store.validate candidate = .ok ()
  installed : Installed s { revision := revision, data := candidate } t

theorem commit_spec (positive : 0 < store.backupGenerations) (kept : evicts store s = false)
    (candidate : α) :
    Triple (fun t => t = s) (commitValidated store faults expected candidate authority)
      (fun revision t => Committed store s authority expected candidate revision t)
      (Short (fun t => Keeps store s t ∨
        ∃ revision, Committed store s authority expected candidate revision t))
      (fun t => Keeps store s t ∨
        ∃ revision, Committed store s authority expected candidate revision t) := by
  have stays : ∀ t : Files α, t = s → Keeps store s t ∨
      ∃ revision, Committed store s authority expected candidate revision t :=
    fun t same => .inl (same ▸ keeps_refl)
  refine triple_bind (triple_lift (Q := fun _ t => store.validate candidate = .ok () ∧ t = s) ?_
    (fun t error same _ => stays t same)) (fun _ => triple_and (fun valid => ?_))
  · intro t _ same passed
    refine ⟨?_, same⟩
    cases checked : store.validate candidate with
    | ok _ => rfl
    | error message =>
      rw [checked] at passed
      cases passed
  refine triple_bind (triple_lift (Q := fun _ t => t = s) (fun t _ same _ => same)
    (fun t error same _ => stays t same)) (fun _ => ?_)
  refine triple_bind (triple_weaken quarantine_spec (fun _ same => same) (fun _ _ same => same)
    (fun _ t same => stays t same) stays) (fun _ => triple_look_at ?_)
  refine triple_bind (triple_lift
    (Q := fun revision t => allocate store s authority expected 0 = .ok revision ∧ t = s)
    (fun t revision same found => ⟨found, same⟩) (fun t error same _ => stays t same))
    (fun revision => triple_and (fun allocated => ?_))
  refine triple_bind (triple_weaken
    (commitBytes_spec positive kept { revision := revision, data := candidate })
    (fun _ same => same) (fun _ _ installed => installed) ?_ ?_) (fun _ => ?_)
  · rintro _ t (keeps | installed)
    · exact .inl keeps
    · exact .inr ⟨revision, allocated, valid, installed⟩
  · rintro t (keeps | installed)
    · exact .inl keeps
    · exact .inr ⟨revision, allocated, valid, installed⟩
  · exact triple_pure (fun t installed => ⟨allocated, valid, installed⟩)

end Commits

section Counting
variable {store : Store α}

def loadedDocument (store : Store α) (disk : Disk (Files α)) :
    Except (Stop ConfigStoreError) (Option (RevisionedDocument α)) :=
  (load store healthy disk).1.map (Option.map (fun stored => ⟨stored.revision, stored.data⟩))

theorem loadedDocument_eq :
    loadedDocument store disk = (shown store disk.state).mapError Stop.failed := by
  unfold loadedDocument shown
  rw [load_healthy]
  cases loaded store disk.state <;> rfl

theorem counted_keeps (counted : Counted store s) (keeps : Keeps store s t) : Counted store t where
  newest := by
    intro content document there reads r issued
    rw [keeps.primary] at there
    rw [keeps.issued] at issued
    exact counted.newest there reads r issued
  none_ := by
    intro absent
    rw [keeps.primary] at absent
    rw [keeps.issued]
    exact counted.none_ absent
  increasing := by
    rw [keeps.issued]
    exact counted.increasing

theorem counted_installed (counted : Counted store s)
    (larger : ∀ r ∈ s.issued, r < document.revision) (installed : Installed s document t) :
    Counted store t where
  newest := by
    intro content found there reads r issued
    rw [installed.primary] at there
    cases there
    have same : found = document := by
      unfold usable RevisionedDocument.content at reads
      split at reads
      · cases reads
      · rename_i decodes
        cases decodes
        split at reads
        · exact (Except.ok.inj reads).symm
        · cases reads
    rw [installed.issued] at issued
    rw [same]
    rcases List.mem_append.1 issued with old | new
    · exact le_of_lt (larger r old)
    · exact le_of_eq (List.mem_singleton.1 new)
  none_ := by
    intro absent
    rw [installed.primary] at absent
    cases absent
  increasing := by
    rw [installed.issued]
    refine List.pairwise_append.2 ⟨counted.increasing, List.pairwise_singleton _ _, ?_⟩
    intro r old revision new
    rw [List.mem_singleton.1 new]
    exact larger r old

theorem counted_damage (bad : (usable store content).isOk = false) (counted : Counted store s) :
    Counted store { s with primary := some content } where
  newest := by
    intro found document there reads
    cases there
    rw [reads] at bad
    cases bad
  none_ := fun absent => nomatch absent
  increasing := counted.increasing

end Counting

/- Acts of any number of processes, each a whole turn under the file lock. -/

section Runs
variable {α : Type} [DecidableEq α] (store : Store α)

inductive Act (α : Type) where
  | commit (expected : Nat) (candidate : α) (authority : CommitAuthority α)
    (faults : Schedule Unit)
  | load (faults : Schedule Unit)
  | damage (content : Content α)

/-- The files, and the revisions that commits have returned. -/
structure History (α : Type) where
  files : Files α
  returned : List Nat

def History.empty : History α := { files := .empty, returned := [] }

def History.after (history : History α) :
    Except (Stop ConfigStoreError) Nat × Disk (Files α) → History α
  | (.ok revision, disk) => { files := disk.state, returned := history.returned ++ [revision] }
  | (.error _, disk) => { history with files := disk.state }

/-- Bytes that are a usable document are no damage. -/
def History.step (history : History α) : Act α → History α
  | .commit expected candidate authority faults =>
    history.after (commitValidated store faults expected candidate authority ⟨history.files, 0⟩)
  | .load faults => { history with files := (load store faults ⟨history.files, 0⟩).2.state }
  | .damage content =>
    if (usable store content).isOk then history
    else { history with files := { history.files with primary := some content } }

/-- A commit finds every issued revision remembered, and a backup that cannot be pushed out. -/
def orderly (history : History α) : Act α → Bool
  | .commit _ _ authority _ =>
    !forgets store history.files authority && !evicts store history.files
  | .load _ | .damage _ => true

variable {store}

structure Sound (store : Store α) (history : History α) : Prop where
  counted : Counted store history.files
  returned : history.returned ⊆ history.files.issued

theorem committed_larger (counted : Counted store s) (kept : forgets store s authority = false)
    (committed : Committed store s authority expected candidate revision t) :
    Counted store t ∧ ∀ r ∈ s.issued, r < revision := by
  have larger := allocate_larger counted kept committed.allocated
  exact ⟨counted_installed counted larger committed.installed, larger⟩

theorem sound_step (positive : 0 < store.backupGenerations) (act : Act α)
    (fine : orderly store history act = true) (sound : Sound store history) :
    Sound store (history.step store act) := by
  cases act with
  | commit expected candidate authority faults =>
    rw [orderly, Bool.and_eq_true, Bool.not_eq_true', Bool.not_eq_true'] at fine
    have ended : Triple (fun t => t = history.files)
        (commitValidated store faults expected candidate authority) _ _ _ :=
      commit_spec positive fine.2 candidate
    replace ended := ended ⟨history.files, 0⟩ rfl
    have short : ∀ t, (Keeps store history.files t ∨
        ∃ revision, Committed store history.files authority expected candidate revision t) →
        Counted store t ∧ history.files.issued ⊆ t.issued := by
      rintro t (keeps | ⟨revision, committed⟩)
      · exact ⟨counted_keeps sound.counted keeps, keeps.issued ▸ List.Subset.refl _⟩
      · refine ⟨(committed_larger sound.counted fine.1 committed).1, ?_⟩
        rw [committed.installed.issued]
        exact List.subset_append_left _ _
    change Sound store (history.after
      (commitValidated store faults expected candidate authority ⟨history.files, 0⟩))
    cases ran : commitValidated store faults expected candidate authority ⟨history.files, 0⟩ with
    | mk result disk =>
      rw [ran] at ended
      cases result with
      | ok revision =>
        refine ⟨(committed_larger sound.counted fine.1 ended).1, ?_⟩
        change history.returned ++ [revision] ⊆ disk.state.issued
        rw [ended.installed.issued]
        exact List.append_subset.2 ⟨List.subset_append_of_subset_left _ sound.returned,
          List.subset_append_right _ _⟩
      | error stop =>
        have known : Counted store disk.state ∧ history.files.issued ⊆ disk.state.issued := by
          cases stop with
          | failed error => exact short _ ended
          | died => exact short _ ended
        exact ⟨known.1, List.Subset.trans sound.returned known.2⟩
  | load faults =>
    have ended : Triple (fun t => t = history.files) (load store faults) _ _ _ := load_spec
    replace ended := ended ⟨history.files, 0⟩ rfl
    have same : (load store faults ⟨history.files, 0⟩).2.state = history.files := by
      cases ran : load store faults ⟨history.files, 0⟩ with
      | mk result disk =>
        rw [ran] at ended
        cases result with
        | ok value => exact ended.1
        | error stop =>
          cases stop with
          | failed error => exact ended
          | died => exact ended
    constructor
    · change Counted store (load store faults ⟨history.files, 0⟩).2.state
      rw [same]
      exact sound.counted
    · change history.returned ⊆ (load store faults ⟨history.files, 0⟩).2.state.issued
      rw [same]
      exact sound.returned
  | damage content =>
    change Sound store (if (usable store content).isOk then history
      else { history with files := { history.files with primary := some content } })
    split
    · exact sound
    · rename_i bad
      exact ⟨counted_damage (Bool.eq_false_of_not_eq_true bad) sound.counted, sound.returned⟩

theorem sound_run (positive : 0 < store.backupGenerations)
    (fine : Along (History.step store) (fun h act => orderly store h act = true) .empty acts) :
    Sound store (run (History.step store) .empty acts) := by
  refine along_keeps (fun _ act fine sound => sound_step positive act fine sound) acts fine ?_
  exact ⟨⟨nofun, fun _ => rfl, List.Pairwise.nil⟩, List.Subset.refl _⟩

/-- What the next commit of a history gives: a larger revision under an expectation that the files
    or the live snapshot bear out, or a load that shows the old document or the new one. -/
def Fair (store : Store α) (history : History α) (expected : Nat) (candidate : α)
    (authority : CommitAuthority α) :
    Except (Stop ConfigStoreError) Nat × Disk (Files α) → Prop
  | (.ok revision, disk) =>
    (∀ r ∈ history.files.issued, r < revision) ∧
    disk.state.issued = history.files.issued ++ [revision] ∧
    loadedDocument store disk = .ok (some ⟨revision, candidate⟩) ∧
    Authorised store history.files authority expected ∧
    (authority.repairRevision.isSome = true → ∀ content ∈ history.files.primary,
      (usable store content).isOk = false)
  | (.error _, disk) =>
    (authority.repairRevision.isSome = true → ∀ content ∈ history.files.primary,
      (usable store content).isOk = true → disk.state.primary = some content) ∧
    (loadedDocument store disk = loadedDocument store ⟨history.files, 0⟩ ∨
      ∃ revision, (∀ r ∈ history.files.issued, r < revision) ∧
        loadedDocument store disk = .ok (some ⟨revision, candidate⟩))

theorem committed_shows (committed : Committed store s authority expected candidate revision
    disk.state) : loadedDocument store disk = .ok (some ⟨revision, candidate⟩) := by
  have reads : usable store (RevisionedDocument.content ⟨revision, candidate⟩) =
      .ok ⟨revision, candidate⟩ := by
    unfold usable RevisionedDocument.content
    simp only [committed.valid]
  rw [loadedDocument_eq]
  unfold shown loaded
  rw [committed.installed.primary]
  simp only [reads]
  rfl

theorem repair_unusable (allocated : allocate store s authority expected minimum = .ok revision)
    (repairing : authority.repairRevision.isSome = true) :
    ∀ content ∈ s.primary, (usable store content).isOk = false := by
  intro content there
  have bad : primaryUsable store s = false → (usable store content).isOk = false := by
    intro unusable
    unfold primaryUsable at unusable
    rw [there] at unusable
    exact unusable
  obtain ⟨stored, _, base, guarded, _, _, _⟩ := allocate_spec allocated
  rcases commitBase_cases base with ⟨absent, _⟩ | ⟨_, document, _, _, rfl⟩ |
    ⟨_, _, _, _, unusable, _⟩ | ⟨unusable, _⟩
  · rw [absent] at there
    cases there
  · cases guarded repairing _ rfl
  · exact bad unusable
  · exact bad unusable

theorem short_fair (sound : Sound store history)
    (kept : forgets store history.files authority = false)
    (short : Keeps store history.files disk.state ∨
      ∃ revision, Committed store history.files authority expected candidate revision disk.state)
    (stop : Stop ConfigStoreError) :
    Fair store history expected candidate authority (.error stop, disk) := by
  rcases short with keeps | ⟨revision, committed⟩
  · refine ⟨fun _ content there _ => keeps.primary.trans there, .inl ?_⟩
    rw [loadedDocument_eq, loadedDocument_eq, keeps.shows_]
  · refine ⟨?_, .inr ⟨revision, (committed_larger sound.counted kept committed).2,
      committed_shows committed⟩⟩
    intro repairing content there fine
    rw [repair_unusable committed.allocated repairing content there] at fine
    cases fine

theorem commit_fair (positive : 0 < store.backupGenerations) (sound : Sound store history)
    (faults : Schedule Unit)
    (fine : orderly store history (.commit expected candidate authority faults) = true) :
    Fair store history expected candidate authority
      (commitValidated store faults expected candidate authority ⟨history.files, 0⟩) := by
  rw [orderly, Bool.and_eq_true, Bool.not_eq_true', Bool.not_eq_true'] at fine
  have ended : Triple (fun t => t = history.files)
      (commitValidated store faults expected candidate authority) _ _ _ :=
    commit_spec positive fine.2 candidate
  replace ended := ended ⟨history.files, 0⟩ rfl
  cases ran : commitValidated store faults expected candidate authority ⟨history.files, 0⟩ with
  | mk result disk =>
    rw [ran] at ended
    cases result with
    | ok revision =>
      exact ⟨(committed_larger sound.counted fine.1 ended).2, ended.installed.issued,
        committed_shows ended, allocate_authorised ended.allocated,
        repair_unusable ended.allocated⟩
    | error stop =>
      cases stop with
      | failed error => exact short_fair sound fine.1 ended _
      | died => exact short_fair sound fine.1 ended _

end Runs

/- Numbers below a hundred under a damaged primary. -/

def sampleStore : Store Nat where
  backupGenerations := 3
  validate := fun n => if n < 100 then .ok () else .error "too large"
  validateRaw := fun _ => .ok ()

def garbage : Content Nat := { observed := none, decoded := .error (.store .json) }

def edit (expected candidate : Nat) : Act Nat := .commit expected candidate .revisionOnly healthy

/-- A primary is lost and repaired from the backup, and work goes on. -/
def repaired : List (Act Nat) :=
  [edit 0 10, edit 1 11, .damage garbage, edit 1 12, .load healthy, edit 3 13]

end Configs
