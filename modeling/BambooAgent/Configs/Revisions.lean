import BambooAgent.Configs.Rotation
import BambooAgent.Library.Interleavings
import BambooAgent.Library.Checks

/- Histories of one document: which revision a commit may start from, and which it gets. -/
namespace Configs
open Faults Interleavings Checks
open Actors (u64Max)
open Crashes (Stop)

variable {store : Store α}

/-- Where the expected revision of an accepted commit comes from. -/
inductive Authorised (store : Store α) (files : Files α) (authority : CommitAuthority α)
    (expected : Nat) : Prop where
  | primary (there : files.primary = some content) (reads : usable store content = .ok document)
      (ordinary : authority.repairRevision = none) (same : expected = document.revision)
  | backup (there : files.primary = some content) (unusable : primaryUsable store files = false)
      (newest : newestBackup store files.backups = some (generation, document))
      (same : expected = document.revision)
  | live (unusable : files.primary = none ∨ primaryUsable store files = false)
      (same : authority.repairRevision = some expected)
  | created (absent : files.primary = none) (ordinary : authority.repairRevision = none)
      (same : expected = 0)

section Allocation
variable {files : Files α} {authority : CommitAuthority α} {expected minimum revision : Nat}

theorem checkedAdd_ok (added : checkedAdd a b = .ok sum) : sum = a + b := by
  unfold checkedAdd at added
  split at added
  · cases added
    rfl
  · cases added

/-- What a commit may find: no file, a usable primary, a backup, or nothing that repair authority
    could not do without. -/
theorem commitBase_cases (base : commitBase store files repair = .ok stored) :
    (files.primary = none ∧ stored = none) ∨
    (∃ content document, files.primary = some content ∧ usable store content = .ok document ∧
      stored = some ⟨document.data, document.revision, none⟩) ∨
    (∃ content generation document, files.primary = some content ∧
      primaryUsable store files = false ∧
      newestBackup store files.backups = some (generation, document) ∧
      loaded store files = .ok stored ∧
      stored = some ⟨document.data, document.revision, some generation⟩) ∨
    (primaryUsable store files = false ∧ repair.isSome = true ∧
      (∃ error, loaded store files = .error error) ∧ stored = none) := by
  have unread : ∀ {content error}, files.primary = some content →
      usable store content = .error error → primaryUsable store files = false := by
    intro content error there read
    simp [primaryUsable, there, read, Except.isOk, Except.toBool]
  unfold commitBase at base
  cases read : loaded store files with
  | error error =>
    rw [read] at base
    simp only at base
    split at base
    · rename_i repairing
      cases base
      refine .inr (.inr (.inr ⟨?_, repairing.1, ⟨error, rfl⟩, rfl⟩))
      unfold loaded at read
      split at read
      · cases read
      · rename_i content there
        split at read
        · cases read
        · exact unread there ‹_›
        · exact unread there ‹_›
    · cases base
  | ok found =>
    rw [read] at base
    cases base
    unfold loaded at read
    split at read
    · rename_i absent
      cases read
      exact .inl ⟨absent, rfl⟩
    · rename_i content there
      split at read
      · rename_i document fine
        cases read
        exact .inr (.inl ⟨content, document, there, fine, rfl⟩)
      · cases read
      · rename_i error bad
        split at read
        · rename_i generation document newest
          cases read
          exact .inr (.inr (.inl ⟨content, generation, document, there, unread there bad, newest,
            rfl, rfl⟩))
        · cases read

section Commits
variable [DecidableEq α]

theorem allocate_spec (allocated : allocate store files authority expected minimum = .ok revision) :
    ∃ stored floor, commitBase store files authority.repairRevision = .ok stored ∧
      (authority.repairRevision.isSome = true → ∀ value ∈ stored, value.recoveredFromBackup = true) ∧
      actualRevision stored authority.repairRevision = expected ∧
      allocationFloor store files stored authority.repairRevision = .ok floor ∧
      revision = max (max floor expected) minimum + 1 := by
  obtain ⟨stored, base, rest⟩ := bind_eq_ok.1 allocated
  split at rest
  · cases rest
  · rename_i guarded
    split at rest
    · cases rest
    · split at rest
      · cases rest
      · rename_i same
        rw [Decidable.not_not] at same
        obtain ⟨floor, found, added⟩ := bind_eq_ok.1 rest
        refine ⟨stored, floor, base, ?_, same, found, ?_⟩
        · intro repairing value held
          cases held
          simpa [repairing] using guarded
        · rw [same] at added
          exact checkedAdd_ok added

theorem allocate_authorised
    (allocated : allocate store files authority expected minimum = .ok revision) :
    Authorised store files authority expected := by
  obtain ⟨stored, floor, base, guarded, same, _, _⟩ := allocate_spec allocated
  rcases commitBase_cases base with ⟨absent, rfl⟩ | ⟨content, document, there, reads, rfl⟩ |
    ⟨content, generation, document, there, unusable, newest, _, rfl⟩ |
    ⟨unusable, needed, _, rfl⟩
  · cases repairing : authority.repairRevision with
    | none =>
      rw [repairing] at same
      exact .created absent repairing same.symm
    | some live =>
      rw [repairing] at same
      exact .live (.inl absent) (by rw [repairing, ← same]; rfl)
  · cases repairing : authority.repairRevision with
    | none =>
      rw [repairing] at same
      exact .primary there reads repairing same.symm
    | some live =>
      rw [repairing] at guarded
      cases guarded rfl _ rfl
  · cases repairing : authority.repairRevision with
    | none =>
      rw [repairing] at same
      exact .backup there unusable newest same.symm
    | some live =>
      rw [repairing] at same
      simp only [actualRevision] at same
      split at same
      · exact .live (.inr unusable) (by rw [repairing, same])
      · exact .backup there unusable newest same.symm
  · cases repairing : authority.repairRevision with
    | none =>
      rw [repairing] at needed
      cases needed
    | some live =>
      rw [repairing] at same
      exact .live (.inr unusable) (by rw [repairing, ← same]; rfl)

end Commits

end Allocation

end Configs
