import Mathlib.Data.Set.Function
import BambooAgent.Tickets.StoreContents

/- A publication that fails or is stopped, at whatever step, leaves a directory that reads
   as before or as the new snapshot. -/
namespace Tickets
open SortedMaps Crashes List

namespace Store

variable {serde : Serde Bytes Value} {env : Env}

/-- Every hashed object is one of the known contents. -/
def Clean (serde : Serde Bytes Value) (known : Set Bytes) (dir : Directory Bytes) : Prop :=
  ∀ folder name bytes, folder ≠ .root → (dir folder).lookup name = some bytes →
    serde.contentHash bytes = name → bytes ∈ known

/-- What the steps before the rename of HEAD may do to the directory. -/
structure Prepares (serde : Serde Bytes Value) (known : Set Bytes) (dir later : Directory Bytes) :
    Prop where
  keeps : Keeps serde dir later
  head : (later .root).lookup "HEAD" = (dir .root).lookup "HEAD"
  clean : Clean serde known dir → Clean serde known later

def preparing (serde : Serde Bytes Value) (known : Set Bytes) : Guarantee (Disk Bytes) where
  allows s t := Prepares serde known s.dir t.dir
  refl s := ⟨keeps_refl s.dir, rfl, id⟩
  trans first second := ⟨keeps_trans first.keeps second.keeps, second.head.trans first.head,
    fun clean => second.clean (first.clean clean)⟩

variable {folder : Folder} {bytes : Bytes}

theorem lookup_put (dir : Directory Bytes) (folder other : Folder) (name key : String)
    (bytes : Bytes) : ((dir.put folder name bytes) other).lookup key =
      if other = folder ∧ key = name then some bytes else (dir other).lookup key := by
  unfold Directory.put
  by_cases here : other = folder
  · simp [here]
  · simp [here]

theorem lookup_remove (dir : Directory Bytes) (folder other : Folder) (name key : String) :
    ((dir.remove folder name) other).lookup key =
      if other = folder ∧ key = name then none else (dir other).lookup key := by
  unfold Directory.remove
  by_cases here : other = folder
  · simp [here]
  · simp [here]

theorem prepares_refl (dir : Directory Bytes) : Prepares serde known dir dir :=
  ⟨keeps_refl dir, rfl, id⟩

theorem prepares_staging (lawful : serde.Lawful) (staging : validHash name = false)
    (notHead : name ≠ "HEAD") (bytes : Bytes) :
    Prepares serde known dir (dir.put folder name bytes) := by
  have unnamed : ∀ content, serde.contentHash content ≠ name := by
    intro content same
    rw [← same, lawful.hash] at staging
    cases staging
  refine ⟨?_, ?_, ?_⟩
  · intro other key content inside found named
    rw [lookup_put, if_neg (fun same => unnamed content (named.trans same.2))]
    exact found
  · rw [lookup_put, if_neg (fun same => notHead same.2.symm)]
  · intro clean other key content inside found named
    rw [lookup_put, if_neg (fun same => unnamed content (named.trans same.2))] at found
    exact clean other key content inside found named

theorem prepares_rename (lawful : serde.Lawful) (injective : Set.InjOn serde.contentHash known)
    (clean : Clean serde known dir) (inside : folder ≠ .root) (staging : validHash name = false)
    (mine : bytes ∈ known) :
    Prepares serde known dir ((dir.remove folder name).put folder (serde.contentHash bytes) bytes) ∧
      Stored serde ((dir.remove folder name).put folder (serde.contentHash bytes) bytes) folder
        bytes := by
  have unnamed : ∀ content, serde.contentHash content ≠ name := by
    intro content same
    rw [← same, lawful.hash] at staging
    cases staging
  refine ⟨⟨?_, ?_, ?_⟩, ?_⟩
  · intro other key content within found named
    rw [lookup_put]
    split
    · rename_i here
      have known' := clean other key content within found named
      rw [injective mine known' (here.2.symm.trans named.symm)]
    · rw [lookup_remove, if_neg (fun same => unnamed content (named.trans same.2))]
      exact found
  · rw [lookup_put, if_neg (fun same => inside same.1.symm), lookup_remove,
      if_neg (fun same => inside same.1.symm)]
  · intro _ other key content within found named
    rw [lookup_put] at found
    split at found
    · cases found
      exact mine
    · rw [lookup_remove] at found
      split at found
      · cases found
      · exact clean other key content within found named
  · rw [Stored, lookup_put, if_pos ⟨rfl, rfl⟩]

/- One call at a time. -/

section Calls
variable {P : Directory Bytes → Prop}

theorem attempt_guards {Q : α → Directory Bytes → Prop} (fate : Fate)
    (acts : ∀ a later, act disk.dir = .ok (a, later) →
      Prepares serde known disk.dir later ∧ Q a later)
    (parts : ∀ kept, Prepares serde known disk.dir (part kept disk.dir)) :
    Ended (fun a t => Prepares serde known disk.dir t.dir ∧ Q a t.dir)
      (fun t => Prepares serde known disk.dir t.dir) (attempt fate act part disk) := by
  unfold attempt
  cases fate with
  | fails error kept => exact parts kept
  | stops kept => exact parts kept
  | proceeds =>
    cases run : act disk.dir with
    | error failure => exact prepares_refl _
    | ok result => exact acts result.1 result.2 run

theorem hit_guards (point : FaultPoint) :
    Guards (preparing serde known) (fun s => P s.dir) (hit env point) (fun _ s => P s.dir) := by
  intro disk holds
  apply attempt_guards
  · intro _ later same
    cases same
    exact ⟨prepares_refl _, holds⟩
  · intro _
    exact prepares_refl _

theorem syscall_guards {Q : α → Directory Bytes → Prop}
    (acts : ∀ dir, P dir → ∀ a later, act dir = .ok (a, later) →
      Prepares serde known dir later ∧ Q a later)
    (parts : ∀ dir, P dir → ∀ kept, Prepares serde known dir (part kept dir)) :
    Guards (preparing serde known) (fun s => P s.dir) (syscall env act part)
      (fun a s => Q a s.dir) := by
  intro disk holds
  exact attempt_guards _ (acts disk.dir holds) (parts disk.dir holds)

theorem reading_guards {read : Directory Bytes → Result α} :
    Guards (preparing serde known) (fun s => P s.dir) (reading env read)
      (fun a s => P s.dir ∧ read s.dir = .ok a) := by
  apply syscall_guards (Q := fun a dir => P dir ∧ read dir = .ok a)
  · intro dir holds a later run
    cases found : read dir with
    | error failure => rw [found] at run; cases run
    | ok value =>
      rw [found] at run
      cases run
      exact ⟨prepares_refl _, holds, found⟩
  · intro dir _ _
    exact prepares_refl _

theorem flush_guards :
    Guards (preparing serde known) (fun s => P s.dir) (reading env (fun _ => .ok ()))
      (fun _ s => P s.dir) :=
  guards_weaken reading_guards (fun _ holds => holds) (fun _ _ holds => holds.1)

theorem newName_guards (start : String) :
    Guards (preparing serde known) (fun s => P s.dir) (newName env start)
      (fun name s => P s.dir ∧ ∃ uuid, name = start ++ uuid) :=
  fun disk holds => ⟨prepares_refl _, holds, env.uuid disk.clock, rfl⟩

theorem pathExists_guards (folder : Folder) (name : String) :
    Guards (preparing serde known) (fun s => P s.dir) (pathExists env folder name)
      (fun _ s => P s.dir) := by
  intro disk holds
  unfold pathExists
  split
  · exact ⟨prepares_refl _, holds⟩
  · exact ⟨prepares_refl _, holds⟩
  · exact prepares_refl _

theorem lift_guards {result : Result α} :
    Guards (preparing serde known) (fun s => P s.dir) (lift result)
      (fun a s => P s.dir ∧ result = .ok a) := by
  intro disk holds
  cases result with
  | ok a => exact ⟨prepares_refl _, holds, rfl⟩
  | error failure => exact prepares_refl _

theorem syncDir_guards :
    Guards (preparing serde known) (fun s => P s.dir) (syncDir env) (fun _ s => P s.dir) :=
  guards_bind (hit_guards _) (fun _ => guards_bind flush_guards (fun _ => hit_guards _))

end Calls

/- Files and objects. -/

section Objects
variable {known : Set Bytes}

theorem objects_ne_root : Folder.objects ≠ .root := by decide

theorem manifests_ne_root : Folder.manifests ≠ .root := by decide

theorem commits_ne_root : Folder.commits ≠ .root := by decide

theorem stable_stored (known : Set Bytes) (inside : folder ≠ .root) (bytes : Bytes) :
    Stable (preparing serde known) (fun s : Disk Bytes => Stored serde s.dir folder bytes) :=
  fun _ _ stored allowed => stored_keeps allowed.keeps inside stored

/-- A new file with its full content, under a name that no reader follows. -/
def Staged (serde : Serde Bytes Value) (known : Set Bytes) (folder : Folder) (name : String)
    (bytes : Bytes) (dir : Directory Bytes) : Prop :=
  Clean serde known dir ∧ (dir folder).lookup name = some bytes

def Placed (serde : Serde Bytes Value) (known : Set Bytes) (folder : Folder) (bytes : Bytes)
    (dir : Directory Bytes) : Prop :=
  Clean serde known dir ∧ Stored serde dir folder bytes

theorem writeSynced_guards (env : Env) (known : Set Bytes) (lawful : serde.Lawful)
    (folder : Folder) (staging : validHash name = false) (notHead : name ≠ "HEAD") (bytes : Bytes) :
    Guards (preparing serde known) (fun s => Clean serde known s.dir)
      (writeSynced env serde folder name bytes)
      (fun _ s => Staged serde known folder name bytes s.dir) := by
  have put : ∀ dir content, Clean serde known dir →
      Prepares serde known dir (dir.put folder name content) ∧
        Clean serde known (dir.put folder name content) := by
    intro dir content clean
    have step : Prepares serde known dir (dir.put folder name content) :=
      prepares_staging lawful staging notHead content
    exact ⟨step, step.clean clean⟩
  have create : Guards (preparing serde known) (fun s => Clean serde known s.dir)
      (createNew env serde folder name bytes) (fun _ s => Clean serde known s.dir) := by
    apply syscall_guards (Q := fun _ dir => Clean serde known dir)
    · intro dir clean _ later run
      simp only [bind_eq_ok, pure_eq_ok, Prod.mk.injEq] at run
      obtain ⟨_, _, _, same⟩ := run
      rw [← same]
      exact put dir _ clean
    · intro dir _ _
      exact prepares_refl dir
  have write : Guards (preparing serde known) (fun s => Clean serde known s.dir)
      (writeAll env serde folder name bytes)
      (fun _ s => Staged serde known folder name bytes s.dir) := by
    apply syscall_guards
      (Q := fun _ dir => Staged serde known folder name bytes dir)
    · intro dir clean _ later run
      cases run
      obtain ⟨step, still⟩ := put dir bytes clean
      exact ⟨step, still, by rw [lookup_put, if_pos ⟨rfl, rfl⟩]⟩
    · intro dir clean kept
      exact (put dir _ clean).1
  have rest : Guards (preparing serde known)
      (fun s => Staged serde known folder name bytes s.dir)
      (do
        hit env .afterWrite
        hit env .beforeFileSync
        reading env (fun _ => .ok ())
        hit env .afterFileSync)
      (fun _ s => Staged serde known folder name bytes s.dir) :=
    guards_bind (hit_guards _) (fun _ => guards_bind (hit_guards _) (fun _ =>
      guards_bind flush_guards (fun _ => hit_guards _)))
  exact guards_bind (hit_guards _) (fun _ => guards_bind create (fun _ =>
    guards_bind write (fun _ => rest)))

theorem staging_name (uuid : String) : validHash (".staging-" ++ uuid) = false ∧
    ".staging-" ++ uuid ≠ "HEAD" := by
  have letters : (".staging-" ++ uuid).toList = '.' :: ("staging-" ++ uuid).toList := by
    simp [String.toList_append]
  constructor
  · rw [validHash]
    simp
  · intro same
    rw [same] at letters
    cases letters

theorem head_name (uuid : String) : validHash (".HEAD-" ++ uuid) = false ∧
    ".HEAD-" ++ uuid ≠ "HEAD" := by
  have letters : (".HEAD-" ++ uuid).toList = '.' :: ("HEAD-" ++ uuid).toList := by
    simp [String.toList_append]
  constructor
  · rw [validHash]
    simp
  · intro same
    rw [same] at letters
    cases letters

theorem rename_guards (lawful : serde.Lawful) (injective : Set.InjOn serde.contentHash known)
    (inside : folder ≠ .root) (staging : validHash name = false) (mine : bytes ∈ known) :
    Guards (preparing serde known)
      (fun s => Staged serde known folder name bytes s.dir)
      (rename env folder name (serde.contentHash bytes))
      (fun _ s => Placed serde known folder bytes s.dir) := by
  apply syscall_guards (P := Staged serde known folder name bytes)
    (Q := fun _ dir => Placed serde known folder bytes dir)
  · intro dir ⟨clean, complete⟩ _ later run
    simp only [bind_eq_ok, orElseErr_eq_ok, pure_eq_ok, Prod.mk.injEq] at run
    obtain ⟨content, found, _, same⟩ := run
    cases complete.symm.trans found
    obtain ⟨step, stored⟩ := prepares_rename lawful injective clean inside staging mine
    rw [← same]
    exact ⟨step, step.clean clean, stored⟩
  · intro dir _ _
    exact prepares_refl dir

variable [DecidableEq Bytes]

theorem placeObject_guards (lawful : serde.Lawful) (injective : Set.InjOn serde.contentHash known)
    (inside : folder ≠ .root) (mine : bytes ∈ known) (found : Bool) :
    Guards (preparing serde known) (fun s => Clean serde known s.dir)
      (placeObject env serde folder bytes found)
      (fun _ s => Placed serde known folder bytes s.dir) := by
  cases found with
  | true =>
    apply guards_bind reading_guards
    intro stored
    refine guards_weaken (lift_guards (P := fun dir => Clean serde known dir ∧
      readObject serde dir folder (serde.contentHash bytes) = .ok stored)) (fun _ holds => holds) ?_
    intro _ s ⟨⟨clean, read⟩, same⟩
    rw [rejectIf_eq_ok, not_ne_iff] at same
    subst same
    exact ⟨clean, (readObject_eq_ok.1 read).2.1⟩
  | false =>
    apply guards_bind (newName_guards ".staging-")
    intro staging s ⟨clean, uuid, named⟩
    subst named
    obtain ⟨unhashed, notHead⟩ := staging_name uuid
    exact guards_bind (writeSynced_guards env known lawful _ unhashed notHead bytes) (fun _ =>
      guards_bind (hit_guards _) (fun _ => guards_bind (rename_guards lawful injective inside
        unhashed mine) (fun _ => hit_guards _))) s clean

theorem writeObject_guards (env : Env) (lawful : serde.Lawful)
    (injective : Set.InjOn serde.contentHash known) (inside : folder ≠ .root)
    (mine : bytes ∈ known) :
    Guards (preparing serde known) (fun s => Clean serde known s.dir)
      (writeObject env serde folder bytes)
      (fun hash s => hash = serde.contentHash bytes ∧ Placed serde known folder bytes s.dir) := by
  apply guards_bind flush_guards
  intro _
  apply guards_bind (pathExists_guards folder _)
  intro found
  apply guards_bind (placeObject_guards lawful injective inside mine found)
  intro _
  exact guards_bind syncDir_guards (fun _ => guards_pure (fun _ holds => ⟨rfl, holds⟩))

end Objects

/- The whole publication up to the rename of HEAD. -/

/-- The objects a publication writes. -/
inductive Written (serde : Serde Bytes Value) (parent : Option String) (snapshot : Snapshot) :
    Bytes → Prop where
  | entry (listed : entry ∈ sectionEntries (serde.toValue snapshot).2) :
      Written serde parent snapshot (serde.canonicalBytes entry.2)
  | header : Written serde parent snapshot (serde.canonicalBytes (serde.toValue snapshot).1)
  | manifest : Written serde parent snapshot (serde.manifestBytes (manifestOf serde snapshot))
  | commit : Written serde parent snapshot (serde.commitBytes (commitOf serde parent snapshot))

section Heads
variable {known : Set Bytes} {snapshot : Snapshot}

theorem stable_blobs (known : Set Bytes) (artifacts : List Artifact) :
    Stable (preparing serde known) (fun s : Disk Bytes => BlobsRead serde s.dir artifacts) := by
  intro s t read allowed artifact member
  obtain ⟨parsed, found⟩ := read artifact member
  refine ⟨parsed, ?_⟩
  intro hash named
  obtain ⟨bytes, whole⟩ := found hash named
  exact ⟨bytes, readArtifact_keeps allowed.keeps whole⟩

theorem stable_entries (known : Set Bytes) (entries : List (String × Value)) :
    Stable (preparing serde known) (fun s : Disk Bytes => EntriesStored serde s.dir entries) :=
  fun _ _ stored allowed entry member =>
    stored_keeps allowed.keeps (by decide) (stored entry member)

theorem stable_holds (known : Set Bytes) (parent : Option String) (snapshot : Snapshot) :
    Stable (preparing serde known) (fun s : Disk Bytes => Holds serde s.dir parent snapshot) := by
  intro s t holds allowed
  refine ⟨stable_blobs known _ s t holds.blobs allowed, stable_entries known _ s t holds.entries allowed,
    ?_, ?_, ?_⟩
  · exact stored_keeps allowed.keeps (by decide) holds.header
  · exact stored_keeps allowed.keeps (by decide) holds.manifest
  · exact stored_keeps allowed.keeps (by decide) holds.commit

theorem blobsRead_concat (read : BlobsRead serde dir artifacts) {hash : Option String}
    (named : managedArtifactHash artifact = .ok hash)
    (whole : ∀ known, hash = some known →
      ∃ bytes, readArtifact serde dir artifact maxArtifactBytes = .ok bytes) :
    BlobsRead serde dir (artifacts ++ [artifact]) := by
  intro other member
  cases mem_append.1 member with
  | inl before => exact read other before
  | inr last =>
    cases mem_singleton.1 last
    refine ⟨⟨hash, named⟩, ?_⟩
    intro known again
    rw [named] at again
    exact whole known (Except.ok.inj again)

theorem listBlobs_unmanaged (named : managedArtifactHash artifact = .ok none) :
    listBlobs (artifacts ++ [artifact]) = listBlobs artifacts := by
  have unmanaged : managed artifact = none := by rw [managed, named]
  rw [listBlobs, listBlobs, blobHashes, blobHashes, filterMap_append,
    filterMap_cons_none unmanaged, filterMap_nil, append_nil]

theorem listBlobs_managed {hash : String} (named : managedArtifactHash artifact = .ok (some hash)) :
    listBlobs (artifacts ++ [artifact]) = (listBlobs artifacts).insert (blobKey hash) hash := by
  have found : managed artifact = some hash := by rw [managed, named]
  rw [listBlobs, blobHashes, filterMap_append, filterMap_cons_some found,
    filterMap_nil, SortedMap.insertAll_concat]
  rfl

/-- The blobs of the artifacts so far are listed, and each of them can be read. -/
def BlobsListed (serde : Serde Bytes Value) (known : Set Bytes) (artifacts : List Artifact)
    (objects : SortedMap String String) (dir : Directory Bytes) : Prop :=
  (Clean serde known dir ∧ BlobsRead serde dir artifacts) ∧ objects = listBlobs artifacts

theorem listBlob_guards (artifacts : List Artifact) (artifact : Artifact)
    (objects : SortedMap String String) :
    Guards (preparing serde known) (fun s => BlobsListed serde known artifacts objects s.dir)
      (listBlob env serde objects artifact)
      (fun next s => BlobsListed serde known (artifacts ++ [artifact]) next s.dir) := by
  apply guards_bind lift_guards
  intro hash
  cases hash with
  | none =>
    apply guards_pure
    intro s ⟨⟨⟨clean, read⟩, same⟩, named⟩
    have readAll := blobsRead_concat read named (fun known none => nomatch none)
    exact ⟨⟨clean, readAll⟩, same.trans (listBlobs_unmanaged named).symm⟩
  | some hash =>
    intro s ⟨listed, named⟩
    apply guards_bind reading_guards ?_ s listed
    intro bytes
    apply guards_pure
    intro t ⟨⟨⟨clean, read⟩, same⟩, whole⟩
    have readAll := blobsRead_concat read named (fun _ _ => ⟨bytes, whole⟩)
    refine ⟨⟨clean, readAll⟩, ?_⟩
    rw [listBlobs_managed named, same]
    rfl

theorem listBlobs_guards (artifacts : List Artifact) :
    Guards (preparing serde known) (fun s => Clean serde known s.dir)
      (artifacts.foldlM (listBlob env serde) SortedMap.empty)
      (fun blobs s => BlobsListed serde known artifacts blobs s.dir) := by
  refine guards_weaken
    (guards_foldlM (I := fun passed objects s => BlobsListed serde known passed objects s.dir)
      (fun passed artifact _ _ objects => listBlob_guards passed artifact objects) _) ?_
    (fun _ _ listed => listed)
  intro s clean
  exact ⟨⟨clean, fun _ none => nomatch none⟩, rfl⟩

variable [DecidableEq Bytes]

/-- The entries so far are listed under the hashes they are stored under. -/
def EntriesListed (serde : Serde Bytes Value) (known : Set Bytes) (blobs : SortedMap String String)
    (entries : List (String × Value)) (objects : SortedMap String String) (dir : Directory Bytes) :
    Prop :=
  (Clean serde known dir ∧ EntriesStored serde dir entries) ∧
    objects = listEntries serde blobs entries

theorem listObject_guards (lawful : serde.Lawful) (injective : Set.InjOn serde.contentHash known)
    (blobs objects : SortedMap String String) (entries : List (String × Value))
    (entry : String × Value) (mine : serde.canonicalBytes entry.2 ∈ known) :
    Guards (preparing serde known) (fun s => EntriesListed serde known blobs entries objects s.dir)
      (listObject env serde objects entry)
      (fun next s => EntriesListed serde known blobs (entries ++ [entry]) next s.dir) := by
  intro s ⟨⟨clean, before⟩, same⟩
  have written := guards_frame (stable_entries known entries)
    (writeObject_guards env lawful injective objects_ne_root mine)
  apply guards_bind written ?_ s ⟨clean, before⟩
  intro hash
  apply guards_pure
  intro t ⟨⟨named, clean, stored⟩, before⟩
  refine ⟨⟨clean, ?_⟩, ?_⟩
  · intro other member
    cases mem_append.1 member with
    | inl earlier => exact before other earlier
    | inr last =>
      cases mem_singleton.1 last
      exact stored
  · rw [named, same, listEntries, listEntries, SortedMap.insertAll_concat]
    rfl

theorem listEntries_guards (env : Env) (lawful : serde.Lawful)
    (injective : Set.InjOn serde.contentHash known) (blobs : SortedMap String String)
    (entries : List (String × Value))
    (mine : ∀ entry ∈ entries, serde.canonicalBytes entry.2 ∈ known) :
    Guards (preparing serde known) (fun s => Clean serde known s.dir)
      (entries.foldlM (listObject env serde) blobs)
      (fun listed s => EntriesListed serde known blobs entries listed s.dir) := by
  have one : ∀ passed entry rest, entries = passed ++ entry :: rest → ∀ objects,
      Guards (preparing serde known)
        (fun s => EntriesListed serde known blobs passed objects s.dir)
        (listObject env serde objects entry)
        (fun next s => EntriesListed serde known blobs (passed ++ [entry]) next s.dir) := by
    intro passed entry rest whole objects
    have member : entry ∈ entries := by simp [whole]
    exact listObject_guards lawful injective blobs objects passed entry (mine entry member)
  refine guards_weaken (guards_foldlM
    (I := fun passed objects s => EntriesListed serde known blobs passed objects s.dir) one _) ?_
    (fun _ _ listed => listed)
  intro s clean
  exact ⟨⟨clean, fun _ none => nomatch none⟩, rfl⟩

/-- All that is left to do is the rename of the staged HEAD. -/
structure Prepared (serde : Serde Bytes Value) (parent : Option String) (snapshot : Snapshot)
    (prepared : String × String) (dir : Directory Bytes) : Prop where
  holds : Holds serde dir parent snapshot
  hash : prepared.1 = serde.contentHash (serde.commitBytes (commitOf serde parent snapshot))
  notHead : prepared.2 ≠ "HEAD"
  staged : (dir .root).lookup prepared.2 = some (serde.asBytes prepared.1)

theorem writeCommit_guards (lawful : serde.Lawful) (injective : Set.InjOn serde.contentHash known)
    (mine : ∀ bytes, Written serde (store.published.map Prod.fst) snapshot bytes → bytes ∈ known)
    (all : listed = listEntries serde (listBlobs (snapshotArtifacts snapshot))
      (sectionEntries (serde.toValue snapshot).2)) :
    Guards (preparing serde known)
      (fun s => (Clean serde known s.dir ∧ BlobsRead serde s.dir (snapshotArtifacts snapshot)) ∧
        EntriesStored serde s.dir (sectionEntries (serde.toValue snapshot).2))
      (writeCommit env serde store snapshot listed)
      (fun hash s => (Clean serde known s.dir ∧
        Holds serde s.dir (store.published.map Prod.fst) snapshot) ∧
        hash = serde.contentHash (serde.commitBytes
          (commitOf serde (store.published.map Prod.fst) snapshot))) := by
  have records : Stable (preparing serde known) _ :=
    stable_and (stable_blobs known (snapshotArtifacts snapshot))
      (stable_entries known (sectionEntries (serde.toValue snapshot).2))
  have headed := stable_and records (stable_stored known objects_ne_root
    (serde.canonicalBytes (serde.toValue snapshot).1))
  have listing := stable_and headed (stable_stored known manifests_ne_root
    (serde.manifestBytes (manifestOf serde snapshot)))
  have header := guards_frame records (writeObject_guards env lawful injective objects_ne_root
    (mine _ .header))
  intro s ⟨⟨clean, read⟩, stored⟩
  apply guards_bind header ?_ s ⟨clean, read, stored⟩
  intro header s ⟨⟨headerNamed, clean, headerStored⟩, held⟩
  have objects : listed.insert "header" header = (manifestOf serde snapshot).objects := by
    rw [all, headerNamed]
    rfl
  rw [objects]
  have manifest := guards_frame headed (writeObject_guards env lawful injective manifests_ne_root
    (mine _ .manifest))
  apply guards_bind manifest ?_ s ⟨clean, held, headerStored⟩
  intro manifest s ⟨⟨manifestNamed, clean, manifestStored⟩, held⟩
  rw [manifestNamed]
  have commit := guards_frame listing (writeObject_guards env lawful injective commits_ne_root
    (mine _ .commit))
  apply guards_weaken commit (fun _ holds => holds) ?_ s ⟨clean, held, manifestStored⟩
  intro hash t ⟨⟨named, clean, stored⟩, ⟨⟨read, entries⟩, headerStored⟩, manifestStored⟩
  exact ⟨⟨clean, read, entries, headerStored, manifestStored, stored⟩, named⟩

omit [DecidableEq Bytes] in
theorem writeStaged_guards (lawful : serde.Lawful) {hash : String}
    (named : hash = serde.contentHash (serde.commitBytes (commitOf serde parent snapshot))) :
    Guards (preparing serde known)
      (fun s => Clean serde known s.dir ∧ Holds serde s.dir parent snapshot)
      (writeStaged env serde hash)
      (fun prepared s => Prepared serde parent snapshot prepared s.dir) := by
  apply guards_bind (newName_guards (P := fun dir => Clean serde known dir ∧
    Holds serde dir parent snapshot) ".HEAD-")
  intro staged s ⟨⟨clean, holds⟩, uuid, same⟩
  subst same
  obtain ⟨unhashed, notHead⟩ := head_name uuid
  have written := guards_frame (stable_holds known parent snapshot)
    (writeSynced_guards env known lawful .root unhashed notHead (serde.asBytes hash))
  apply guards_bind written ?_ s ⟨clean, holds⟩
  intro _
  apply guards_bind (hit_guards (P := fun dir => Staged serde known .root (".HEAD-" ++ uuid)
    (serde.asBytes hash) dir ∧ Holds serde dir parent snapshot) _)
  intro _
  apply guards_pure
  intro t ⟨⟨_, staged⟩, holds⟩
  exact ⟨holds, named, notHead, staged⟩

theorem prepareHead_guards (lawful : serde.Lawful) (injective : Set.InjOn serde.contentHash known)
    (mine : ∀ bytes, Written serde (store.published.map Prod.fst) snapshot bytes →
      bytes ∈ known) :
    Guards (preparing serde known) (fun s => Clean serde known s.dir)
      (prepareHead env serde store snapshot)
      (fun prepared s => Prepared serde (store.published.map Prod.fst) snapshot prepared s.dir) := by
  apply guards_bind (listBlobs_guards (snapshotArtifacts snapshot))
  intro blobs s ⟨⟨clean, read⟩, listedBlobs⟩
  have entries := guards_frame (stable_blobs known (snapshotArtifacts snapshot))
    (listEntries_guards env lawful injective blobs
      (sectionEntries (serde.toValue snapshot).2) (fun entry member => mine _ (.entry member)))
  apply guards_bind entries ?_ s ⟨clean, read⟩
  intro listed s ⟨⟨⟨clean, stored⟩, listedEntries⟩, read⟩
  rw [listedBlobs] at listedEntries
  apply guards_bind (writeCommit_guards lawful injective mine listedEntries) ?_ s
    ⟨⟨clean, read⟩, stored⟩
  intro hash s ⟨complete, named⟩
  exact writeStaged_guards lawful named s complete

end Heads

end Store

end Tickets
