import BambooAgent.Tickets.Scripts
import BambooAgent.Tickets.StorePublishing

/- What a reopened store reads after a publication that failed or was stopped: the
   published snapshot of before, or the new one. -/
namespace Tickets
open SortedMaps Crashes

namespace Store

variable {serde : Serde Bytes Value}

def Agrees (codec : Codec) (serde : Serde Bytes Value) (published : Option (String × Snapshot))
    (dir : Directory Bytes) : Prop :=
  match published with
  | some head => loadHead codec serde dir = .ok head
  | none => (dir .root).lookup "HEAD" = none

/-- What the callers of a publication have checked of the next snapshot. -/
structure Publishable (codec : Codec) (published : Option (String × Snapshot))
    (snapshot : Snapshot) : Prop where
  supported : validateMigration codec snapshot = .ok ()
  scope : ∀ head, published = some head → head.2.binding = snapshot.binding
  later : ∀ head, published = some head → head.2.seq < snapshot.seq

/-- The contents a publication has to tell apart: what is already there, and what it writes. -/
def contents (serde : Serde Bytes Value) (store : FileStore) (snapshot : Snapshot)
    (dir : Directory Bytes) : Set Bytes :=
  fun bytes => (∃ folder name, (dir folder).lookup name = some bytes) ∨
    Written serde (store.published.map Prod.fst) snapshot bytes

def nextHash (serde : Serde Bytes Value) (store : FileStore) (snapshot : Snapshot) : String :=
  serde.contentHash (serde.commitBytes (commitOf serde (store.published.map Prod.fst) snapshot))

/-- The new HEAD is in its place, over everything it leads to. -/
structure Installed (serde : Serde Bytes Value) (store : FileStore) (snapshot : Snapshot)
    (dir later : Directory Bytes) : Prop where
  keeps : Keeps serde dir later
  head : (later .root).lookup "HEAD" = some (serde.asBytes (nextHash serde store snapshot))
  holds : Holds serde later (store.published.map Prod.fst) snapshot

theorem agrees_prepares (agrees : Agrees codec serde published dir)
    (prepares : Prepares serde known dir later) : Agrees codec serde published later := by
  cases published with
  | some head => exact loadHead_keeps prepares.keeps prepares.head agrees
  | none => exact prepares.head.trans agrees

theorem lineage_narrow (lineage : Lineage codec serde dir binding none start chain)
    (below : ∀ hash snapshot, start = some hash → loadSnapshot codec serde dir hash = .ok snapshot →
      snapshot.seq < upper) : Lineage codec serde dir binding (some upper) start chain := by
  cases lineage with
  | first => exact .first
  | commit loaded scope _ read parents =>
    refine .commit loaded scope ?_ read parents
    intro seq limit
    cases limit
    exact below _ _ rfl loaded

theorem loadHead_installed (lawful : serde.Lawful) (agrees : Agrees codec serde store.published dir)
    (publishable : Publishable codec store.published snapshot)
    (installed : Installed serde store snapshot dir later) :
    loadHead codec serde later = .ok (nextHash serde store snapshot, snapshot) := by
  have loaded := loadSnapshot_held lawful installed.holds publishable.supported
  have read := readCommit_held lawful installed.holds
  have parents : ∃ chain, Lineage codec serde later snapshot.binding (some snapshot.seq)
      (store.published.map Prod.fst) chain := by
    cases before : store.published with
    | none => exact ⟨[], .first⟩
    | some head =>
      rw [before] at agrees
      obtain ⟨_, parentLoaded, chain, lineage⟩ := loadHead_eq_ok.1 agrees
      rw [publishable.scope head before] at lineage
      refine ⟨chain, lineage_narrow (lineage_keeps installed.keeps lineage) ?_⟩
      intro hash ancestor named again
      cases named
      rw [loadSnapshot_keeps installed.keeps parentLoaded] at again
      cases again
      exact publishable.later head before
  obtain ⟨chain, lineage⟩ := parents
  refine loadHead_eq_ok.2 ⟨⟨_, installed.head, lawful.text _⟩, loaded,
    nextHash serde store snapshot :: chain, ?_⟩
  exact .commit loaded rfl (fun _ none => nomatch none) read lineage

section Publishing
variable {store : FileStore} {snapshot : Snapshot}

theorem acknowledgeHead_ends (env : Env) (serde : Serde Bytes Value) (disk : Disk Bytes) :
    Ended (fun _ t => Prepares serde Set.univ disk.dir t.dir)
      (fun t => Prepares serde Set.univ disk.dir t.dir) (acknowledgeHead env disk) := by
  have guards : Guards (preparing serde Set.univ) (fun _ : Disk Bytes => True)
      (acknowledgeHead env) (fun _ _ => True) :=
    guards_bind (hit_guards (P := fun _ => True) _) (fun _ => syncDir_guards (P := fun _ => True))
  apply ended_mono (guards disk trivial) ?_ (fun _ allowed => allowed)
  intro _ t ⟨allowed, _⟩
  exact allowed

theorem clean_contents (disk : Disk Bytes) :
    Clean serde (contents serde store snapshot disk.dir) disk.dir :=
  fun folder name _ _ found _ => .inl ⟨folder, name, found⟩

theorem installed_rename
    (ready : Prepared serde (store.published.map Prod.fst) snapshot prepared dir) :
    Installed serde store snapshot dir
      ((dir.remove .root prepared.2).put .root "HEAD" (serde.asBytes prepared.1)) := by
  have keeps : Keeps serde dir
      ((dir.remove .root prepared.2).put .root "HEAD" (serde.asBytes prepared.1)) := by
    intro folder name bytes inside found _
    rw [lookup_put, if_neg (fun same => inside same.1), lookup_remove,
      if_neg (fun same => inside same.1)]
    exact found
  have blobs : BlobsRead serde
      ((dir.remove .root prepared.2).put .root "HEAD" (serde.asBytes prepared.1))
      (snapshotArtifacts snapshot) := by
    intro artifact member
    obtain ⟨parsed, found⟩ := ready.holds.blobs artifact member
    refine ⟨parsed, ?_⟩
    intro hash named
    obtain ⟨bytes, whole⟩ := found hash named
    exact ⟨bytes, readArtifact_keeps keeps whole⟩
  refine ⟨keeps, ?_, blobs, ?_, ?_, ?_, ?_⟩
  · rw [lookup_put, ready.hash]
    rfl
  · exact fun entry member => stored_keeps keeps objects_ne_root (ready.holds.entries entry member)
  · exact stored_keeps keeps objects_ne_root ready.holds.header
  · exact stored_keeps keeps manifests_ne_root ready.holds.manifest
  · exact stored_keeps keeps commits_ne_root ready.holds.commit

theorem installed_after (before : Prepares serde known dir middle)
    (installed : Installed serde store snapshot middle later) :
    Installed serde store snapshot dir later :=
  ⟨keeps_trans before.keeps installed.keeps, installed.head, installed.holds⟩

theorem renameHead_ends
    (ready : Prepared serde (store.published.map Prod.fst) snapshot prepared disk.dir) :
    Ended (fun _ t => Installed serde store snapshot disk.dir t.dir)
      (fun t => Prepares serde known disk.dir t.dir)
      (rename env .root prepared.2 "HEAD" disk) := by
  unfold rename syscall attempt
  cases env.call disk.clock with
  | fails error kept => exact prepares_refl disk.dir
  | stops kept => exact prepares_refl disk.dir
  | proceeds =>
    dsimp only
    rw [ready.staged]
    exact installed_rename ready

variable [DecidableEq Bytes]

theorem stageHead_ends (env : Env) (lawful : serde.Lawful) (disk : Disk Bytes)
    (injective : Set.InjOn serde.contentHash (contents serde store snapshot disk.dir)) :
    Ended (fun hash t => hash = nextHash serde store snapshot ∧
        Installed serde store snapshot disk.dir t.dir)
      (fun t => Prepares serde (contents serde store snapshot disk.dir) disk.dir t.dir)
      (stageHead env serde store snapshot disk) := by
  apply ended_bind (prepareHead_guards lawful injective (fun _ written => .inr written) disk
    (clean_contents disk)) (fun _ prepares => prepares)
  intro names middle ⟨prepares, ready⟩
  apply ended_bind (renameHead_ends ready) (fun _ after => (preparing serde _).trans prepares after)
  intro _ later installed
  exact ⟨ready.hash, installed_after prepares installed⟩

/-- HEAD was not touched, and the store reads as before. -/
structure Unchanged (codec : Codec) (serde : Serde Bytes Value) (store : FileStore)
    (dir later : Directory Bytes) : Prop where
  head : (later .root).lookup "HEAD" = (dir .root).lookup "HEAD"
  agrees : Agrees codec serde store.published later

/-- HEAD was renamed, and the store reads as the new snapshot. -/
structure Renewed (codec : Codec) (serde : Serde Bytes Value) (store : FileStore)
    (snapshot : Snapshot) (later : Directory Bytes) : Prop where
  head : (later .root).lookup "HEAD" = some (serde.asBytes (nextHash serde store snapshot))
  agrees : Agrees codec serde (some (nextHash serde store snapshot, snapshot)) later

/-- What a publication leaves behind, by the way it ended. -/
def Atomic (codec : Codec) (serde : Serde Bytes Value) (store : FileStore) (snapshot : Snapshot)
    (dir : Directory Bytes) : HeadPublication × Disk Bytes → Prop
  | (.committed hash after, later) => Renewed codec serde store snapshot later.dir ∧
      after = ⟨some (hash, snapshot), .writable⟩ ∧ hash = nextHash serde store snapshot
  | (.refused _ after, later) =>
      (Unchanged codec serde store dir later.dir ∧ after = store) ∨
        (Renewed codec serde store snapshot later.dir ∧ after.published = store.published ∧
          ∃ reason, after.health = .readOnly reason)
  | (.died, later) => Unchanged codec serde store dir later.dir ∨
      Renewed codec serde store snapshot later.dir

omit [DecidableEq Bytes] in
theorem renewed_installed (lawful : serde.Lawful) {dir middle later : Directory Bytes}
    (agrees : Agrees codec serde store.published dir)
    (publishable : Publishable codec store.published snapshot)
    (installed : Installed serde store snapshot dir middle)
    (after : Prepares serde known middle later) : Renewed codec serde store snapshot later := by
  have loads := loadHead_installed lawful agrees publishable installed
  exact ⟨after.head.trans installed.head, loadHead_keeps after.keeps after.head loads⟩

end Publishing

end Store

namespace Sample
open Store

/-- Files with their kind. The records of an empty snapshot are all in its header. -/
inductive Blob where
  | text (content : String)
  | value (content : Snapshot)
  | manifest (content : Manifest)
  | commit (content : Commit)
  deriving DecidableEq

def hexDigit : Blob → Char
  | .text _ => 'a'
  | .value _ => 'b'
  | .manifest _ => 'c'
  | .commit _ => 'd'

def serde : Serde Blob Snapshot where
  contentHash blob := String.ofList (List.replicate 64 (hexDigit blob))
  size _ := 0
  cut _ _ := .text ""
  asBytes := .text
  readToString
    | .text content => some content
    | _ => none
  canonicalBytes := .value
  fromSlice
    | .value content => some content
    | _ => none
  manifestBytes := .manifest
  manifestFromSlice
    | .manifest content => some content
    | _ => none
  commitBytes := .commit
  commitFromSlice
    | .commit content => some content
    | _ => none
  toValue snapshot := (snapshot, fun _ => SortedMap.empty)
  fromValue value _ := some value

theorem hexDigit_valid : ∀ digit ∈ ['a', 'b', 'c', 'd'],
    validHash (String.ofList (List.replicate 64 digit)) = true :=
  List.all_eq_true.1 (by decide)

theorem serde_lawful : serde.Lawful where
  hash blob := hexDigit_valid (hexDigit blob) (by cases blob <;> simp [hexDigit])
  text _ := rfl
  value _ := rfl
  manifest _ := rfl
  commit _ := rfl
  snapshot _ := rfl

/-- Every call succeeds until the process stops behind the rename of HEAD. -/
def interrupted : Env where
  call _ := .proceeds
  hook
    | .afterHeadRename, _ => .stops 0
    | _, _ => .proceeds
  uuid _ := "00000000-0000-4000-8000-000000000000"
  describe _ := ""

def unopened : FileStore := ⟨none, .writable⟩

def bare : Disk Blob := ⟨fun _ => SortedMap.empty, 0⟩

theorem bare_injective : Set.InjOn serde.contentHash
    (contents serde unopened (Snapshot.empty binding) bare.dir) := by
  have known : ∀ blob ∈ contents serde unopened (Snapshot.empty binding) bare.dir,
      Written serde none (Snapshot.empty binding) blob := by
    intro blob found
    rcases found with ⟨folder, name, found⟩ | written
    · cases found
    · exact written
  have unlisted : ∀ entry, entry ∉ sectionEntries (serde.toValue (Snapshot.empty binding)).2 :=
    fun _ => List.not_mem_nil
  intro first firstKnown second secondKnown same
  have digits : hexDigit first = hexDigit second := by
    have letters := congrArg String.toList same
    simpa [serde] using letters
  cases known first firstKnown with
  | entry listed => exact absurd listed (unlisted _)
  | header =>
    cases known second secondKnown with
    | entry listed => exact absurd listed (unlisted _)
    | header => rfl
    | manifest => cases digits
    | commit => cases digits
  | manifest =>
    cases known second secondKnown with
    | entry listed => exact absurd listed (unlisted _)
    | header => cases digits
    | manifest => rfl
    | commit => cases digits
  | commit =>
    cases known second secondKnown with
    | entry listed => exact absurd listed (unlisted _)
    | header => cases digits
    | manifest => cases digits
    | commit => rfl

end Sample

end Tickets
