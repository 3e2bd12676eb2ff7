import BambooAgent.Tickets.Store

/- What reading a published snapshot depends on: the hashed objects it reaches, and nothing
   else in the directory. -/
namespace Tickets
open SortedMaps Crashes

namespace Store

variable {serde : Serde Bytes Value} {dir later : Directory Bytes}

/-- Every object under the hash of its content is still there. -/
def Keeps (serde : Serde Bytes Value) (dir later : Directory Bytes) : Prop :=
  ∀ folder name bytes, folder ≠ .root → (dir folder).lookup name = some bytes →
    serde.contentHash bytes = name → (later folder).lookup name = some bytes

/-- These bytes are stored under their hash. -/
def Stored (serde : Serde Bytes Value) (dir : Directory Bytes) (folder : Folder) (bytes : Bytes) :
    Prop :=
  (dir folder).lookup (serde.contentHash bytes) = some bytes

theorem keeps_refl (dir : Directory Bytes) : Keeps serde dir dir :=
  fun _ _ _ _ found _ => found

theorem keeps_trans (first : Keeps serde dir middle) (second : Keeps serde middle later) :
    Keeps serde dir later :=
  fun folder name bytes inside found named =>
    second folder name bytes inside (first folder name bytes inside found named) named

theorem stored_keeps (keeps : Keeps serde dir later) (inside : folder ≠ .root)
    (stored : Stored serde dir folder bytes) : Stored serde later folder bytes :=
  keeps folder _ bytes inside stored rfl

/- One object at a time. -/

theorem readObject_eq_ok {hash : String} :
    readObject serde dir folder hash = .ok bytes ↔ validHash hash = true ∧
      (dir folder).lookup hash = some bytes ∧ serde.contentHash bytes = hash := by
  simp only [readObject, bind_eq_ok, rejectIf_eq_ok, orElseErr_eq_ok, pure_eq_ok,
    Bool.not_eq_false, not_ne_iff]
  constructor
  · rintro ⟨_, valid, found, present, _, named, same⟩
    subst same
    exact ⟨valid, present, named⟩
  · rintro ⟨valid, present, named⟩
    exact ⟨(), valid, bytes, present, (), named, rfl⟩

theorem readObject_stored (lawful : serde.Lawful) (stored : Stored serde dir folder bytes) :
    readObject serde dir folder (serde.contentHash bytes) = .ok bytes :=
  readObject_eq_ok.2 ⟨lawful.hash bytes, stored, rfl⟩

section
variable (keeps : Keeps serde dir later)
include keeps

theorem readObject_keeps (inside : folder ≠ .root) {hash : String}
    (read : readObject serde dir folder hash = .ok bytes) :
    readObject serde later folder hash = .ok bytes := by
  obtain ⟨valid, found, named⟩ := readObject_eq_ok.1 read
  exact readObject_eq_ok.2 ⟨valid, keeps folder hash bytes inside found named, named⟩

theorem readArtifact_keeps (read : readArtifact serde dir artifact budget = .ok bytes) :
    readArtifact serde later artifact budget = .ok bytes := by
  simp only [readArtifact, bind_eq_ok, orElseErr_eq_ok, rejectIf_eq_ok] at read ⊢
  obtain ⟨managed, parsed, hash, named, stored, found, _, small, object⟩ := read
  obtain ⟨_, same, equal⟩ := readObject_eq_ok.1 object
  have whole : stored = bytes := Option.some.inj (found.symm.trans same)
  have still := keeps .objects hash stored (by decide) found (whole ▸ equal)
  exact ⟨managed, parsed, hash, named, stored, still, (), small,
    readObject_keeps keeps (by decide) object⟩

theorem readCommit_keeps {hash : String} {commit : Commit}
    (read : readCommit serde dir hash = .ok commit) : readCommit serde later hash = .ok commit := by
  simp only [readCommit, bind_eq_ok, orElseErr_eq_ok] at read ⊢
  obtain ⟨bytes, object, parsed⟩ := read
  exact ⟨bytes, readObject_keeps keeps (by decide) object, parsed⟩

theorem loadEntry_keeps (read : loadEntry serde dir loaded entry = .ok next) :
    loadEntry serde later loaded entry = .ok next := by
  unfold loadEntry at read ⊢
  split
  · rename_i header
    rwa [if_pos header] at read
  · rename_i other
    rw [if_neg other] at read
    simp only [bind_eq_ok] at read ⊢
    obtain ⟨key, split', read⟩ := read
    refine ⟨key, split', ?_⟩
    split
    · rename_i blob
      simp only [blob, if_true, bind_eq_ok] at read ⊢
      obtain ⟨_, named, bytes, artifact, same⟩ := read
      exact ⟨(), named, bytes, readArtifact_keeps keeps artifact, same⟩
    · rename_i notBlob
      simp only [notBlob, if_false, bind_eq_ok] at read ⊢
      obtain ⟨place, known, bytes, object, rest⟩ := read
      exact ⟨place, known, bytes, readObject_keeps keeps (by decide) object, rest⟩

theorem loadEntries_keeps (entries : List (String × String)) :
    ∀ loaded next, entries.foldlM (loadEntry serde dir) loaded = .ok next →
      entries.foldlM (loadEntry serde later) loaded = .ok next := by
  induction entries with
  | nil =>
    intro loaded next read
    exact read
  | cons entry rest ih =>
    intro loaded next read
    rw [List.foldlM_cons, bind_eq_ok] at read ⊢
    obtain ⟨middle, one, others⟩ := read
    exact ⟨middle, loadEntry_keeps keeps one, ih middle next others⟩

end

theorem loadSnapshot_keeps (keeps : Keeps serde dir later) {hash : String}
    (read : loadSnapshot codec serde dir hash = .ok snapshot) :
    loadSnapshot codec serde later hash = .ok snapshot := by
  simp only [loadSnapshot, bind_eq_ok] at read ⊢
  obtain ⟨commit, committed, listed, manifests, manifest, parsed, _, schema, header, named, stored,
    object, value, decoded, loaded, entries, rest⟩ := read
  exact ⟨commit, readCommit_keeps keeps committed, listed,
    readObject_keeps keeps (by decide) manifests, manifest, parsed, (), schema, header, named,
    stored, readObject_keeps keeps (by decide) object, value, decoded, loaded,
    loadEntries_keeps keeps _ _ _ entries, rest⟩

/- The ancestry of a commit. -/

/-- The commits from one up to the first: one scope, with strictly falling numbers. -/
inductive Lineage (codec : Codec) (serde : Serde Bytes Value) (dir : Directory Bytes)
    (binding : ScopeBinding) : Option Nat → Option String → List String → Prop where
  | first : Lineage codec serde dir binding upper none []
  | commit {hash : String} {rest : List String} {ancestor : Snapshot}
      {commit : Commit} (loaded : loadSnapshot codec serde dir hash = .ok ancestor)
      (scope : ancestor.binding = binding) (below : ∀ seq, upper = some seq → ancestor.seq < seq)
      (read : readCommit serde dir hash = .ok commit)
      (parents : Lineage codec serde dir binding (some ancestor.seq) commit.parent rest) :
      Lineage codec serde dir binding upper (some hash) (hash :: rest)

theorem lineage_keeps (keeps : Keeps serde dir later)
    (lineage : Lineage codec serde dir binding upper start chain) :
    Lineage codec serde later binding upper start chain := by
  induction lineage with
  | first => exact .first
  | commit loaded scope below read _ ih =>
    exact .commit (loadSnapshot_keeps keeps loaded) scope below (readCommit_keeps keeps read) ih

section
variable (lineage : Lineage codec serde dir binding upper start chain)
include lineage

theorem lineage_below (limit : upper = some bound) :
    ∀ hash ∈ chain, ∃ snapshot, loadSnapshot codec serde dir hash = .ok snapshot ∧ snapshot.seq <
      bound := by
  induction lineage generalizing bound with
  | first =>
    intro hash none
    cases none
  | @commit upper hash rest ancestor commit loaded scope below read parents ih =>
    intro other member
    have first := below bound limit
    cases List.mem_cons.1 member with
    | inl same =>
      subst same
      exact ⟨ancestor, loaded, first⟩
    | inr up =>
      obtain ⟨snapshot, found, less⟩ := ih rfl other up
      exact ⟨snapshot, found, by omega⟩

theorem lineage_nodup : chain.Nodup := by
  induction lineage with
  | first => exact List.nodup_nil
  | @commit upper hash rest ancestor commit loaded scope below read parents ih =>
    refine List.nodup_cons.2 ⟨?_, ih⟩
    intro again
    obtain ⟨snapshot, found, less⟩ := lineage_below parents rfl hash again
    rw [loaded] at found
    cases found
    exact lt_irrefl _ less

theorem lineage_files : ∀ hash ∈ chain, hash ∈ (dir .commits).keys := by
  induction lineage with
  | first =>
    intro hash none
    cases none
  | commit loaded scope below read parents ih =>
    intro other member
    cases List.mem_cons.1 member with
    | inl same =>
      subst same
      simp only [readCommit, bind_eq_ok] at read
      obtain ⟨bytes, object, _⟩ := read
      exact SortedMap.mem_keys.2 ⟨bytes, (readObject_eq_ok.1 object).2.1⟩
    | inr up => exact ih other up

/-- One round more than there are commit files is enough for every lineage. -/
theorem lineage_short : chain.length ≤ (dir .commits).size := by
  have inside : chain ⊆ (dir .commits).keys := lineage_files lineage
  have shorter := (lineage_nodup lineage).subperm inside
  have bound := shorter.length_le
  rwa [SortedMap.keys, List.length_map] at bound

end

theorem loadAncestry_eq_ok :
    loadAncestry codec serde dir binding fuel seen upper start = .ok () ↔
      ∃ chain, Lineage codec serde dir binding upper start chain ∧ chain.length ≤ fuel ∧
        ∀ hash ∈ chain, hash ∉ seen := by
  induction fuel generalizing seen upper start with
  | zero =>
    cases start with
    | none =>
      constructor
      · intro _
        exact ⟨[], .first, le_rfl, fun _ none => (by cases none)⟩
      · intro _
        rfl
    | some hash =>
      constructor
      · intro run
        cases run
      · rintro ⟨chain, lineage, short, _⟩
        cases lineage
        cases short
  | succ fuel ih =>
    cases start with
    | none =>
      constructor
      · intro _
        exact ⟨[], .first, Nat.zero_le _, fun _ none => (by cases none)⟩
      · intro _
        rfl
    | some hash =>
      simp only [loadAncestry, bind_eq_ok, rejectIf_eq_ok, not_or, not_ne_iff, ih]
      constructor
      · rintro ⟨_, fresh, ancestor, loaded, _, ⟨scope, below⟩, commit, read, rest, parents, short,
          unseen⟩
        refine ⟨hash :: rest, .commit loaded scope ?_ read parents, Nat.succ_le_succ short, ?_⟩
        · intro seq limit
          simpa [limit] using below
        · intro other member
          cases List.mem_cons.1 member with
          | inl same => exact same ▸ fresh
          | inr up =>
            intro old
            exact unseen other up (List.mem_cons_of_mem _ old)
      · rintro ⟨chain, lineage, short, unseen⟩
        have distinct := lineage_nodup lineage
        cases lineage with
        | @commit _ _ rest ancestor commit loaded scope below read parents =>
          refine ⟨(), unseen hash List.mem_cons_self, ancestor, loaded, (), ⟨scope, ?_⟩, commit, read,
            rest, parents, Nat.le_of_succ_le_succ short, ?_⟩
          · cases upper with
            | none => simp
            | some seq => simpa using below seq rfl
          · intro other up old
            cases List.mem_cons.1 old with
            | inl same => exact (List.nodup_cons.1 distinct).1 (same ▸ up)
            | inr before => exact unseen other (List.mem_cons_of_mem _ up) before

theorem loadHead_eq_ok {hash : String} :
    loadHead codec serde dir = .ok (hash, snapshot) ↔
      (∃ named, (dir .root).lookup "HEAD" = some named ∧ serde.readToString named = some hash) ∧
        loadSnapshot codec serde dir hash = .ok snapshot ∧
        ∃ chain, Lineage codec serde dir snapshot.binding none (some hash) chain := by
  simp only [loadHead, bind_eq_ok, orElseErr_eq_ok, pure_eq_ok, Prod.mk.injEq]
  constructor
  · rintro ⟨named, found, text, read, loaded, parsed, _, ancestry, sameHash, sameSnapshot⟩
    subst sameHash sameSnapshot
    obtain ⟨chain, lineage, _⟩ := loadAncestry_eq_ok.1 ancestry
    exact ⟨⟨named, found, read⟩, parsed, chain, lineage⟩
  · rintro ⟨⟨named, found, read⟩, parsed, chain, lineage⟩
    have short := lineage_short lineage
    refine ⟨named, found, hash, read, snapshot, parsed, (), ?_, rfl, rfl⟩
    exact loadAncestry_eq_ok.2
      ⟨chain, lineage, Nat.le_succ_of_le short, fun _ _ none => (by cases none)⟩

theorem loadHead_keeps (keeps : Keeps serde dir later)
    (head : (later .root).lookup "HEAD" = (dir .root).lookup "HEAD") {hash : String}
    (read : loadHead codec serde dir = .ok (hash, snapshot)) :
    loadHead codec serde later = .ok (hash, snapshot) := by
  obtain ⟨⟨named, found, text⟩, loaded, chain, lineage⟩ := loadHead_eq_ok.1 read
  exact loadHead_eq_ok.2 ⟨⟨named, head.trans found, text⟩, loadSnapshot_keeps keeps loaded, chain,
    lineage_keeps keeps lineage⟩

end Store

end Tickets
