import BambooAgent.Configs.Store
import Mathlib.Data.Nat.Find

/- What a commit makes of the files, wherever it ends: a load still shows what it showed, or the new
   document. -/
namespace Configs
open Faults Option

variable {store : Store α}

/- The first value of a row of places. -/

section First
variable {δ : Type} {F : Nat → Option δ}

def first (places : Nat) (F : Nat → Option δ) : Option δ := (List.range places).findSome? F

theorem first_eq_some :
    first places F = some d ↔ ∃ g < places, F g = some d ∧ ∀ j < g, F j = none := by
  induction places with
  | zero => simp [first]
  | succ places ih =>
    have split_ : first (places + 1) F = (first places F).or (F places) := by
      simp [first, List.range_succ, List.findSome?_append]
    rw [split_]
    constructor
    · intro found
      cases before : first places F with
      | some e =>
        rw [before, some_or, some.injEq] at found
        subst found
        obtain ⟨g, inside, rest⟩ := ih.1 before
        exact ⟨g, by omega, rest⟩
      | none =>
        rw [before] at found
        refine ⟨places, Nat.lt_succ_self _, found, ?_⟩
        intro j inside
        exact List.findSome?_eq_none_iff.1 before j (List.mem_range.2 inside)
    · rintro ⟨g, inside, found, earlier⟩
      rcases lt_or_ge g places with small | large
      · rw [ih.2 ⟨g, small, found, earlier⟩, some_or]
      · have last : g = places := by omega
        subst last
        have none_ : first g F = none :=
          List.findSome?_eq_none_iff.2 (fun j member => earlier j (List.mem_range.1 member))
        rw [none_, none_or, found]

theorem first_congr (same : ∀ j < places, F' j = F j) : first places F' = first places F := by
  apply Option.ext
  intro d
  rw [first_eq_some, first_eq_some]
  constructor
  · rintro ⟨g, inside, found, earlier⟩
    refine ⟨g, inside, (same g inside).symm.trans found, ?_⟩
    intro j before
    rw [← same j (by omega)]
    exact earlier j before
  · rintro ⟨g, inside, found, earlier⟩
    refine ⟨g, inside, (same g inside).trans found, ?_⟩
    intro j before
    rw [same j (by omega)]
    exact earlier j before

theorem first_move (inside : g + 1 < places) (moved : F' (g + 1) = F g) (left : F' g = none)
    (others : ∀ j, j ≠ g → j ≠ g + 1 → F' j = F j) (free : F (g + 1) = none ∨ ∃ j ≤ g, F j ≠ none) :
    first places F' = first places F := by
  by_cases some_ : ∃ j, j ≤ g ∧ F j ≠ none
  · classical
    have least := Nat.find_spec some_
    have below : ∀ j < Nat.find some_, F j = none := by
      intro j before
      by_contra present
      exact Nat.find_min some_ before ⟨by omega, present⟩
    obtain ⟨d, found⟩ := ne_none_iff_exists'.1 least.2
    have old : first places F = some d :=
      first_eq_some.2 ⟨Nat.find some_, by omega, found, below⟩
    rw [old]
    rcases lt_or_ge (Nat.find some_) g with before | at_
    · refine first_eq_some.2 ⟨Nat.find some_, by omega, ?_, ?_⟩
      · rw [others _ (by omega) (by omega)]
        exact found
      · intro j earlier
        rw [others j (by omega) (by omega)]
        exact below j earlier
    · have here : Nat.find some_ = g := by omega
      refine first_eq_some.2 ⟨g + 1, inside, ?_, ?_⟩
      · rw [moved, ← here]
        exact found
      · intro j earlier
        by_cases same : j = g
        · rw [same]
          exact left
        · rw [others j same (by omega)]
          exact below j (by omega)
  · have none_ : ∀ j ≤ g, F j = none := by
      intro j inside
      by_contra present
      exact some_ ⟨j, inside, present⟩
    have empty : F (g + 1) = none := by
      rcases free with empty | ⟨j, below, present⟩
      · exact empty
      · exact absurd (none_ j below) present
    apply first_congr
    intro j _
    by_cases here : j = g
    · rw [here, left, none_ g le_rfl]
    · by_cases next : j = g + 1
      · rw [next, moved, none_ g le_rfl, empty]
      · exact others j here next

end First

/- What a load shows. -/

def newestDocument (store : Store α) (files : Files α) : Option (RevisionedDocument α) :=
  first store.backupGenerations (usableBackup store files.backups)

theorem newestDocument_eq (files : Files α) :
    (newestBackup store files.backups).map Prod.snd = newestDocument store files := by
  unfold newestBackup newestDocument first
  rw [List.map_findSome?]
  congr 1
  funext generation
  simp only [Function.comp]
  cases usableBackup store files.backups generation <;> rfl

/-- The revision and the data of what a load returns. -/
def shown (store : Store α) (files : Files α) :
    Except ConfigStoreError (Option (RevisionedDocument α)) :=
  (loaded store files).map (Option.map (fun stored => ⟨stored.revision, stored.data⟩))

def primaryUsable (store : Store α) (files : Files α) : Bool :=
  files.primary.all (fun content => (usable store content).isOk)

theorem shown_primary (same : other.primary = files.primary)
    (backups : primaryUsable store files = true ∨
      newestDocument store other = newestDocument store files) :
    shown store other = shown store files := by
  unfold shown loaded
  rw [same]
  cases there : files.primary with
  | none => rfl
  | some content =>
    cases read : usable store content with
    | ok document => simp only [read]
    | error error =>
      cases error with
      | rawValidation message => simp only [read]
      | store primaryError =>
        rcases backups with fine | equal
        · simp [primaryUsable, there, read, Except.isOk, Except.toBool] at fine
        · rw [← newestDocument_eq, ← newestDocument_eq] at equal
          simp only [read]
          cases a : newestBackup store other.backups with
          | none =>
            rw [a] at equal
            have none_ : newestBackup store files.backups = none := by
              cases b : newestBackup store files.backups with
              | none => rfl
              | some found => rw [b] at equal; cases equal
            rw [none_]
          | some found =>
            rw [a] at equal
            obtain ⟨source, b, document⟩ := map_eq_some_iff.1 equal.symm
            rw [b]
            obtain ⟨g, d⟩ := found
            cases document
            rfl

/-- The primary is as it was, and so is what a load shows. -/
structure Keeps (store : Store α) (s t : Files α) : Prop where
  primary : t.primary = s.primary
  issued : t.issued = s.issued
  shows_ : shown store t = shown store s

structure Installed (s : Files α) (document : RevisionedDocument α) (t : Files α) : Prop where
  primary : t.primary = some document.content
  issued : t.issued = s.issued ++ [document.revision]

/-- The document that a load would fall back to is in the last generation, and a primary that
    decodes without passing the validator would push it out. -/
def evicts (store : Store α) (files : Files α) : Bool :=
  files.primary.any (fun content => content.decoded.isOk) && !primaryUsable store files &&
    (usableBackup store files.backups (store.backupGenerations - 1)).isSome &&
    (List.range (store.backupGenerations - 1)).all
      (fun generation => (usableBackup store files.backups generation).isNone) &&
    (store.backupGenerations = 1 ||
      (files.backups (store.backupGenerations - 2)).isSome)

/- The steps of a commit. -/

theorem triple_look {X : ConfigStoreError → Files α → Prop} :
    Triple P look (fun found s => found = s ∧ P s) X D :=
  fun _ before => ⟨rfl, before⟩

theorem triple_look_at {f : Files α → Filing α β} (rest : Triple (fun t => t = s) (f s) R X D) :
    Triple (fun t => t = s) (look >>= f) R X D := by
  intro disk same
  have ended := rest disk same
  subst same
  exact ended

section Moves
variable {P : Files α → Prop}

theorem triple_change (acts : ∀ s, P s → Q (act s)) (short : ∀ s, P s → D s) :
    Triple P (change faults act) (fun _ => Q) (Short D) D := by
  refine triple_syscall ?_ ?_ (fun s _ _ _ => short s) (fun s _ _ => short s)
  · intro s a s' before done
    cases done
    exact acts s before
  · intro s error _ impossible
    cases impossible

theorem triple_installAt (acts : ∀ s, P s → Q (place s)) (before : ∀ s, P s → D s)
    (after : ∀ s, Q s → D s) : Triple P (installAt faults place) (fun _ => Q) (Short D) D := by
  refine triple_bind (triple_flush (fun s _ => before s)) (fun _ => ?_)
  exact triple_bind (triple_change acts before) (fun _ => triple_flush (fun s _ => after s))

end Moves

variable {t : Files α}

section Rotation
variable {s : Files α}

/-- The primary is untouched, and the newest usable backup is the same document. -/
structure Rotating (store : Store α) (s t : Files α) : Prop where
  primary : t.primary = s.primary
  issued : t.issued = s.issued
  newest : newestDocument store t = newestDocument store s

theorem usable_move (g j : Nat) :
    usableBackup store (t.moveBackup g (g + 1)).backups j =
      if j = g then none else if j = g + 1 then usableBackup store t.backups g
        else usableBackup store t.backups j := by
  unfold usableBackup Files.moveBackup Files.setBackup
  by_cases here : j = g
  · subst here
    simp
  · by_cases next : j = g + 1
    · subst next
      simp
    · simp [here, next]

theorem rotating_move (rotating : Rotating store s t) (inside : g + 1 < store.backupGenerations)
    (free : usableBackup store t.backups (g + 1) = none ∨
      ∃ j ≤ g, usableBackup store t.backups j ≠ none) :
    Rotating store s (t.moveBackup g (g + 1)) where
  primary := rotating.primary
  issued := rotating.issued
  newest := by
    rw [← rotating.newest]
    refine first_move inside ?_ ?_ ?_ free
    · rw [usable_move, if_neg (by omega), if_pos rfl]
    · rw [usable_move, if_pos rfl]
    · intro j here next
      rw [usable_move, if_neg here, if_neg next]

theorem usable_absent (absent : (t.backups g).isSome = false) :
    usableBackup store t.backups g = none := by
  cases held : t.backups g with
  | none =>
    unfold usableBackup
    rw [held]
    rfl
  | some content =>
    rw [held] at absent
    cases absent

/-- One turn of the loop over a place that is free, or behind the newest usable backup. -/
theorem rotateFrom_step (inside : g + 1 < store.backupGenerations)
    (rotating : ∀ t, P t → Rotating store s t)
    (free : ∀ t, P t → (t.backups g).isSome = true →
      usableBackup store t.backups (g + 1) = none ∨ ∃ j ≤ g, usableBackup store t.backups j ≠ none)
    (rest : Triple (fun t => Rotating store s t ∧ usableBackup store t.backups g = none)
      (rotateFrom faults g) (fun _ t => Rotating store s t ∧ usableBackup store t.backups 0 = none)
      (Short (Rotating store s)) (Rotating store s)) :
    Triple P (rotateFrom faults (g + 1))
      (fun _ t => Rotating store s t ∧ usableBackup store t.backups 0 = none)
      (Short (Rotating store s)) (Rotating store s) := by
  refine triple_bind (triple_bind triple_look (fun files => ?_)) (fun _ => rest)
  split
  · rename_i present
    refine triple_change ?_ (fun t known => rotating t known.2)
    rintro t ⟨rfl, known⟩
    refine ⟨rotating_move (rotating files known) inside (free files known present), ?_⟩
    rw [usable_move, if_pos rfl]
  · rename_i absent
    refine triple_pure ?_
    rintro t ⟨rfl, known⟩
    exact ⟨rotating files known, usable_absent (eq_false_of_ne_true absent)⟩

theorem rotateFrom_free : ∀ {g : Nat}, g < store.backupGenerations →
    Triple (fun t => Rotating store s t ∧ usableBackup store t.backups g = none)
      (rotateFrom faults g)
      (fun _ t => Rotating store s t ∧ usableBackup store t.backups 0 = none)
      (Short (Rotating store s)) (Rotating store s) := by
  intro g
  induction g with
  | zero => exact fun _ => triple_pure (fun _ known => known)
  | succ g ih =>
    intro inside
    refine rotateFrom_step inside (fun t known => known.1) ?_ (ih (by omega))
    exact fun t known _ => .inl known.2

theorem not_evicts (there : s.primary = some content) (decodes : content.decoded = .ok document)
    (unusable : primaryUsable store s = false) (kept : evicts store s = false) :
    usableBackup store s.backups (store.backupGenerations - 1) = none ∨
      (∃ j < store.backupGenerations - 1, usableBackup store s.backups j ≠ none) ∨
      (store.backupGenerations ≠ 1 ∧
        (s.backups (store.backupGenerations - 2)).isSome = false) := by
  by_contra none_
  rw [not_or, not_or] at none_
  obtain ⟨last, earlier, before⟩ := none_
  have evicting : evicts store s = true := by
    simp only [evicts, there, unusable, any_some, decodes, Bool.and_eq_true,
      Bool.or_eq_true, decide_eq_true_eq, List.all_eq_true, List.mem_range, isNone_iff_eq_none]
    refine ⟨⟨⟨⟨rfl, rfl⟩, ?_⟩, ?_⟩, ?_⟩
    · exact isSome_iff_ne_none.2 last
    · intro j inside
      by_contra present
      exact earlier ⟨j, inside, present⟩
    · by_cases one : store.backupGenerations = 1
      · exact .inl one
      · refine .inr ?_
        by_contra absent
        exact before ⟨one, eq_false_of_ne_true absent⟩
  rw [kept] at evicting
  cases evicting

theorem rotateBackups_spec (positive : 0 < store.backupGenerations)
    (there : s.primary = some content) (decodes : content.decoded = .ok document)
    (unusable : primaryUsable store s = false) (kept : evicts store s = false) :
    Triple (fun t => t = s) (rotateBackups store faults)
      (fun _ t => Rotating store s t ∧ usableBackup store t.backups 0 = none)
      (Short (Rotating store s)) (Rotating store s) := by
  have start : Rotating store s s := ⟨rfl, rfl, rfl⟩
  have cases_ := not_evicts there decodes unusable kept
  unfold rotateBackups
  cases count : store.backupGenerations - 1 with
  | zero =>
    have one : store.backupGenerations = 1 := by omega
    rintro t rfl
    rw [one] at cases_
    rcases cases_ with free | ⟨_, impossible, _⟩ | ⟨other, _⟩
    · exact ⟨start, free⟩
    · omega
    · exact absurd rfl other
  | succ g =>
    have previous : store.backupGenerations - 2 = g := by omega
    rw [count, previous] at cases_
    refine rotateFrom_step (by omega) (fun t same => same ▸ start) ?_ (rotateFrom_free (by omega))
    rintro t rfl present
    rcases cases_ with free | ⟨j, inside, some_⟩ | ⟨_, absent⟩
    · exact .inl free
    · exact .inr ⟨j, by omega, some_⟩
    · rw [absent] at present
      cases present

theorem rotateFrom_primary : ∀ {g : Nat},
    Triple (fun t => t.primary = s.primary ∧ t.issued = s.issued) (rotateFrom faults g)
      (fun _ t => t.primary = s.primary ∧ t.issued = s.issued)
      (Short (fun t => t.primary = s.primary ∧ t.issued = s.issued))
      (fun t => t.primary = s.primary ∧ t.issued = s.issued) := by
  intro g
  induction g with
  | zero => exact triple_pure (fun _ known => known)
  | succ g ih =>
    refine triple_bind (triple_bind triple_look (fun files => ?_)) (fun _ => ih)
    split
    · exact triple_change (fun t known => known.2) (fun t known => known.2)
    · exact triple_pure (fun _ known => known.2)

theorem keeps_of_usable (fine : primaryUsable store s = true)
    (same : t.primary = s.primary ∧ t.issued = s.issued) : Keeps store s t :=
  ⟨same.1, same.2, shown_primary same.1 (.inl fine)⟩

theorem keeps_of_rotating (rotating : Rotating store s t) : Keeps store s t :=
  ⟨rotating.primary, rotating.issued, shown_primary rotating.primary (.inr rotating.newest)⟩

theorem rotating_backup (rotating : Rotating store s t)
    (free : usableBackup store t.backups 0 = none) (bad : (usable store content).toOption = none) :
    Rotating store s (t.setBackup 0 (some content)) where
  primary := rotating.primary
  issued := rotating.issued
  newest := by
    rw [← rotating.newest]
    apply first_congr
    intro j _
    by_cases here : j = 0
    · rw [here, free]
      simpa [usableBackup, Files.setBackup] using bad
    · simp [usableBackup, Files.setBackup, here]

theorem usable_document (decodes : content.decoded = .ok document) :
    usable store document.content = usable store content := by
  unfold usable RevisionedDocument.content
  rw [decodes]

theorem keeps_refl : Keeps store s s := ⟨rfl, rfl, rfl⟩

theorem backUp_usable (fine : primaryUsable store s = true) (there : s.primary = some content)
    (decodes : content.decoded = .ok document) :
    Triple (fun t => t = s) (backUp store faults) (fun _ => Keeps store s)
      (Short (Keeps store s)) (Keeps store s) := by
  have keeps : ∀ t : Files α, t.primary = s.primary ∧ t.issued = s.issued → Keeps store s t :=
    fun t same => keeps_of_usable fine same
  refine triple_look_at ?_
  rw [there, map_some, decodes]
  refine triple_bind (triple_weaken rotateFrom_primary (fun t same => same ▸ ⟨rfl, rfl⟩)
    (fun _ _ same => same) (fun _ t same => keeps t same) keeps) (fun _ => ?_)
  exact triple_installAt (fun t same => keeps _ same) keeps (fun _ kept => kept)

section
variable (positive : 0 < store.backupGenerations)
include positive

theorem backUp_unusable (unusable : primaryUsable store s = false) (kept : evicts store s = false)
    (there : s.primary = some content) (decodes : content.decoded = .ok document) :
    Triple (fun t => t = s) (backUp store faults) (fun _ => Keeps store s)
      (Short (Keeps store s)) (Keeps store s) := by
  have bad : (usable store document.content).toOption = none := by
    rw [usable_document decodes]
    cases read : usable store content with
    | error error => rfl
    | ok found => simp [primaryUsable, there, read, Except.isOk, Except.toBool] at unusable
  refine triple_look_at ?_
  rw [there, map_some, decodes]
  refine triple_bind (triple_weaken
    (rotateBackups_spec positive there decodes unusable kept) (fun _ same => same)
    (fun _ _ known => known) (fun _ _ rotating => keeps_of_rotating rotating)
    (fun _ rotating => keeps_of_rotating rotating)) (fun _ => ?_)
  refine triple_installAt ?_ (fun _ known => keeps_of_rotating known.1) (fun _ kept => kept)
  exact fun t known => keeps_of_rotating (rotating_backup known.1 known.2 bad)

theorem backUp_spec (kept : evicts store s = false) :
    Triple (fun t => t = s) (backUp store faults) (fun _ => Keeps store s)
      (Short (Keeps store s)) (Keeps store s) := by
  cases there : s.primary with
  | none =>
    refine triple_look_at ?_
    rw [there]
    exact triple_pure (fun t same => same ▸ keeps_refl)
  | some content =>
    cases decodes : content.decoded with
    | error error =>
      refine triple_look_at ?_
      rw [there, map_some, decodes]
      exact triple_pure (fun t same => same ▸ keeps_refl)
    | ok document =>
      cases fine : primaryUsable store s with
      | true => exact backUp_usable fine there decodes
      | false => exact backUp_unusable positive fine kept there decodes

theorem commitBytes_spec (kept : evicts store s = false) (document : RevisionedDocument α) :
    Triple (fun t => t = s) (commitBytesLocked store faults document)
      (fun _ => Installed s document)
      (Short (fun t => Keeps store s t ∨ Installed s document t))
      (fun t => Keeps store s t ∨ Installed s document t) := by
  refine triple_bind (triple_weaken (backUp_spec positive kept) (fun _ same => same)
    (fun _ _ keeps => keeps) (fun _ _ keeps => .inl keeps) (fun _ keeps => .inl keeps))
    (fun _ => ?_)
  refine triple_installAt ?_ (fun _ keeps => .inl keeps) (fun _ installed => .inr installed)
  intro t keeps
  refine ⟨rfl, ?_⟩
  change t.issued ++ [document.revision] = s.issued ++ [document.revision]
  rw [keeps.issued]

end

end Rotation

end Configs
