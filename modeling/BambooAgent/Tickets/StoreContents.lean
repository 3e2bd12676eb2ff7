import BambooAgent.Tickets.StoreLoading

/- What a publication stores, as a function of the snapshot, and that a directory holding
   all of it loads that very snapshot. -/
namespace Tickets
open SortedMaps Crashes List SortedMap

namespace Store

variable {serde : Serde Bytes Value}

def managed (artifact : Artifact) : Option String :=
  match managedArtifactHash artifact with
  | .ok hash => hash
  | .error _ => none

def blobHashes (artifacts : List Artifact) : List String := artifacts.filterMap managed

def blobKey (hash : String) : String := "blob:" ++ hash

def listBlobs (artifacts : List Artifact) : SortedMap String String :=
  SortedMap.insertAll blobKey id SortedMap.empty (blobHashes artifacts)

def objectHash (serde : Serde Bytes Value) (entry : String × Value) : String :=
  serde.contentHash (serde.canonicalBytes entry.2)

def listEntries (serde : Serde Bytes Value) (objects : SortedMap String String)
    (entries : List (String × Value)) : SortedMap String String :=
  SortedMap.insertAll Prod.fst (objectHash serde) objects entries

def manifestOf (serde : Serde Bytes Value) (snapshot : Snapshot) : Manifest where
  schema := snapshot.schema
  objects := (listEntries serde (listBlobs (snapshotArtifacts snapshot))
    (sectionEntries (serde.toValue snapshot).2)).insert "header"
      (serde.contentHash (serde.canonicalBytes (serde.toValue snapshot).1))

def commitOf (serde : Serde Bytes Value) (parent : Option String) (snapshot : Snapshot) :
    Commit where
  schema := snapshot.schema
  seq := snapshot.seq
  parent := parent
  manifest := serde.contentHash (serde.manifestBytes (manifestOf serde snapshot))

/-- Every blob the snapshot refers to can be read in full. -/
def BlobsRead (serde : Serde Bytes Value) (dir : Directory Bytes) (artifacts : List Artifact) :
    Prop :=
  ∀ artifact ∈ artifacts, (∃ hash, managedArtifactHash artifact = .ok hash) ∧
    ∀ hash, managedArtifactHash artifact = .ok (some hash) →
      ∃ bytes, readArtifact serde dir artifact maxArtifactBytes = .ok bytes

def EntriesStored (serde : Serde Bytes Value) (dir : Directory Bytes)
    (entries : List (String × Value)) : Prop :=
  ∀ entry ∈ entries, Stored serde dir .objects (serde.canonicalBytes entry.2)

/-- The directory holds everything a commit of this snapshot leads to. -/
structure Holds (serde : Serde Bytes Value) (dir : Directory Bytes) (parent : Option String)
    (snapshot : Snapshot) : Prop where
  blobs : BlobsRead serde dir (snapshotArtifacts snapshot)
  entries : EntriesStored serde dir (sectionEntries (serde.toValue snapshot).2)
  header : Stored serde dir .objects (serde.canonicalBytes (serde.toValue snapshot).1)
  manifest : Stored serde dir .manifests (serde.manifestBytes (manifestOf serde snapshot))
  commit : Stored serde dir .commits (serde.commitBytes (commitOf serde parent snapshot))

/- The keys of a manifest. -/

theorem splitOnce_append {before : List Char} (plain : ':' ∉ before) (after : List Char) :
    splitOnce (before ++ ':' :: after) = some (before, after) := by
  induction before with
  | nil => rfl
  | cons c rest ih =>
    have other : c ≠ ':' := fun same => plain (same ▸ mem_cons_self)
    have tail := ih (fun inside => plain (mem_cons_of_mem _ inside))
    simp [splitOnce, other, tail]

theorem splitKey_append (plain : ':' ∉ category.toList) (id : String) :
    splitKey (category ++ ":" ++ id) = some (category, id) := by
  have colon : ":".toList = [':'] := rfl
  rw [splitKey, String.toList_append, String.toList_append, colon, append_assoc,
    singleton_append, splitOnce_append plain]
  simp

theorem splitKey_object (place : Section) (id : String) :
    splitKey (objectKey place id) = some (place.name, id) :=
  splitKey_append (by cases place <;> decide) id

theorem splitKey_blob (hash : String) : splitKey (blobKey hash) = some ("blob", hash) := by
  have start : "blob:" = "blob" ++ ":" := by decide
  rw [blobKey, start]
  exact splitKey_append (by decide) hash

theorem splitKey_header : splitKey "header" = none := by decide

theorem sectionNamed_name (place : Section) : sectionNamed place.name = some place := by
  cases place <;> decide

theorem objectKey_injective {id : String} (same : objectKey place id = objectKey other name) :
    place = other ∧ id = name := by
  have keys := splitKey_object place id
  rw [same, splitKey_object] at keys
  simp only [Option.some.injEq, Prod.mk.injEq] at keys
  have places := sectionNamed_name place
  rw [← keys.1, sectionNamed_name] at places
  exact ⟨(Option.some.inj places).symm, keys.2.symm⟩

theorem objectKey_ne_blob (place : Section) (id hash : String) :
    objectKey place id ≠ blobKey hash := by
  intro same
  have keys := splitKey_object place id
  rw [same, splitKey_blob] at keys
  simp only [Option.some.injEq, Prod.mk.injEq] at keys
  have named := keys.1
  cases place <;> exact absurd named (by decide)

theorem mem_sectionEntries :
    entry ∈ sectionEntries stored ↔ ∃ place id, entry.1 = objectKey place id ∧
      (stored place).lookup id = some entry.2 := by
  simp only [sectionEntries, mem_flatMap, mem_map, Prod.exists, mem_entries]
  constructor
  · intro ⟨place, _, id, value, found, same⟩
    rw [← same]
    exact ⟨place, id, rfl, found⟩
  · intro ⟨place, id, key, found⟩
    refine ⟨place, by cases place <;> decide, id, entry.2, found, ?_⟩
    rw [← key]

theorem manifest_header : (manifestOf serde snapshot).objects.lookup "header" =
    some (serde.contentHash (serde.canonicalBytes (serde.toValue snapshot).1)) :=
  lookup_insert_self _ _ _

theorem manifest_origin {hash : String}
    (listed : (manifestOf serde snapshot).objects.lookup key = some hash) :
    key = "header" ∨ (key = blobKey hash ∧ hash ∈ blobHashes (snapshotArtifacts snapshot)) ∨
      ∃ entry ∈ sectionEntries (serde.toValue snapshot).2, key = entry.1 ∧
        hash = objectHash serde entry := by
  by_cases header : key = "header"
  · exact .inl header
  · right
    have rest := (lookup_insert_other _ _ header).symm.trans listed
    rcases insertAll_origin _ _ rest with blob | ⟨entry, member, same⟩
    · rcases insertAll_origin _ _ blob with none | ⟨known, member, named, same⟩
      · cases none
      · subst same
        exact .inl ⟨named, member⟩
    · exact .inr ⟨entry, member, same⟩

theorem manifest_entry (member : entry ∈ sectionEntries (serde.toValue snapshot).2) :
    ∃ hash, (manifestOf serde snapshot).objects.lookup entry.1 = some hash := by
  have present : ∃ hash, (listEntries serde (listBlobs (snapshotArtifacts snapshot))
      (sectionEntries (serde.toValue snapshot).2)).lookup entry.1 = some hash :=
    insertAll_present _ member _
  obtain ⟨hash, found⟩ := present
  obtain ⟨place, id, key, _⟩ := mem_sectionEntries.1 member
  have other : entry.1 ≠ "header" := by
    intro same
    have keys := splitKey_object place id
    rw [← key, same, splitKey_header] at keys
    cases keys
  exact ⟨hash, (lookup_insert_other _ _ other).trans found⟩

theorem manifest_blob {hash : String} (known : hash ∈ blobHashes (snapshotArtifacts snapshot)) :
    (manifestOf serde snapshot).objects.lookup (blobKey hash) = some hash := by
  have listed : (listBlobs (snapshotArtifacts snapshot)).lookup (blobKey hash) = some hash := by
    have present : ∃ value, (listBlobs (snapshotArtifacts snapshot)).lookup (blobKey hash) =
        some value := insertAll_present _ known _
    obtain ⟨value, found⟩ := present
    rcases insertAll_origin _ _ found with none | ⟨other, _, key, same⟩
    · cases none
    · have keys := splitKey_blob hash
      rw [key, splitKey_blob] at keys
      simp only [Option.some.injEq, Prod.mk.injEq, true_and] at keys
      rw [found, same, ← keys]
      rfl
  have other : blobKey hash ≠ "header" := by
    intro same
    have keys := splitKey_blob hash
    rw [same] at keys
    cases keys
  have objects : ∀ entry ∈ sectionEntries (serde.toValue snapshot).2, blobKey hash ≠ entry.1 := by
    intro entry member key
    obtain ⟨place, id, named, _⟩ := mem_sectionEntries.1 member
    exact objectKey_ne_blob place id hash (key.trans named).symm
  exact (lookup_insert_other _ _ other).trans
    ((insertAll_other _ objects _).trans listed)

/- Reading it back. -/

def Reads (stored loaded next : Sections Value) (listed : Section → String → Prop) : Prop :=
  ∀ place id, (listed place id → (next place).lookup id = (stored place).lookup id) ∧
    (¬ listed place id → (next place).lookup id = (loaded place).lookup id)

theorem managed_eq_some {hash : String} :
    managed artifact = some hash ↔ managedArtifactHash artifact = .ok (some hash) := by
  unfold managed
  cases managedArtifactHash artifact <;> simp

/-- A managed reference names its blob twice, in its URI and as its hash. -/
theorem managed_artifact {hash : String} (named : managedArtifactHash artifact = .ok (some hash)) :
    artifact = ⟨managedArtifactPrefix ++ hash, hash⟩ := by
  unfold managedArtifactHash at named
  split at named
  · rename_i under
    simp only [bind_eq_ok, rejectIf_eq_ok, not_or, not_ne_iff, pure_eq_ok, Option.some.injEq]
      at named
    obtain ⟨_, ⟨_, equal⟩, same⟩ := named
    have start : managedArtifactPrefix.toList <+: artifact.uri.toList :=
      isPrefixOf_iff_prefix.1 under
    obtain ⟨rest, whole⟩ := start
    rw [← whole, drop_left] at same equal
    obtain ⟨uri, sha256⟩ := artifact
    have text : uri = managedArtifactPrefix ++ hash := by
      apply String.toList_injective
      rw [String.toList_append, ← same, String.toList_ofList]
      exact whole.symm
    rw [text, ← same, equal]
  · cases named

theorem loadEntry_listed (lawful : serde.Lawful) (holds : Holds serde dir parent snapshot)
    {hash : String} (listed : (manifestOf serde snapshot).objects.lookup key = some hash)
    (loaded : Sections Value) :
    ∃ next, loadEntry serde dir loaded (key, hash) = .ok next ∧
      Reads (serde.toValue snapshot).2 loaded next (fun place id => key = objectKey place id) := by
  rcases manifest_origin listed with header | ⟨blob, known⟩ | ⟨entry, member, named, same⟩
  · refine ⟨loaded, if_pos header, ?_⟩
    intro place id
    refine ⟨fun object => ?_, fun _ => rfl⟩
    have keys := splitKey_object place id
    rw [← object, header] at keys
    cases keys
  · obtain ⟨artifact, referred, isManaged⟩ := mem_filterMap.1 known
    have naming := managed_eq_some.1 isManaged
    obtain ⟨bytes, read⟩ := (holds.blobs artifact referred).2 hash naming
    rw [managed_artifact naming] at read
    have other : key ≠ "header" := by
      intro same
      have keys := splitKey_blob hash
      rw [← blob, same] at keys
      cases keys
    refine ⟨loaded, ?_, ?_⟩
    · rw [loadEntry, if_neg other]
      simp only [bind_eq_ok, orElseErr_eq_ok]
      refine ⟨("blob", hash), by rw [blob, splitKey_blob], ?_⟩
      simp only [if_true, bind_eq_ok, rejectIf_eq_ok, pure_eq_ok, and_true]
      exact ⟨(), not_not.2 rfl, bytes, read⟩
    · intro place id
      refine ⟨fun object => ?_, fun _ => rfl⟩
      exact absurd (object.symm.trans blob) (objectKey_ne_blob place id hash)
  · obtain ⟨place, id, objectNamed, found⟩ := mem_sectionEntries.1 member
    have stored := readObject_stored lawful (holds.entries entry member)
    have isObject : key = objectKey place id := named.trans objectNamed
    have keys := splitKey_object place id
    have other : key ≠ "header" := by
      intro same
      rw [← isObject, same] at keys
      cases keys
    have notBlob : place.name ≠ "blob" := by cases place <;> decide
    refine ⟨fun other => if other = place then (loaded other).insert id entry.2 else loaded other,
      ?_, ?_⟩
    · rw [loadEntry, if_neg other]
      simp only [bind_eq_ok, orElseErr_eq_ok]
      refine ⟨(place.name, id), by rw [isObject, keys], ?_⟩
      simp only [if_neg notBlob, bind_eq_ok, orElseErr_eq_ok, pure_eq_ok]
      exact ⟨place, sectionNamed_name place, _, by rw [same]; exact stored, entry.2,
        lawful.value entry.2, rfl⟩
    · intro otherPlace otherId
      dsimp only
      refine ⟨fun object => ?_, fun different => ?_⟩
      · obtain ⟨samePlace, sameId⟩ := objectKey_injective (isObject.symm.trans object)
        subst samePlace sameId
        rw [if_pos rfl, lookup_insert_self, found]
      · by_cases samePlace : otherPlace = place
        · subst samePlace
          have otherName : otherId ≠ id := by
            intro sameId
            exact different (sameId ▸ isObject)
          rw [if_pos rfl, lookup_insert_other _ _ otherName]
        · rw [if_neg samePlace]

theorem loadEntries_listed (lawful : serde.Lawful) (holds : Holds serde dir parent snapshot)
    (entries : List (String × String))
    (listed : ∀ entry ∈ entries, (manifestOf serde snapshot).objects.lookup entry.1 = some entry.2) :
    ∀ loaded, ∃ next, entries.foldlM (loadEntry serde dir) loaded = .ok next ∧
      Reads (serde.toValue snapshot).2 loaded next
        (fun place id => ∃ entry ∈ entries, entry.1 = objectKey place id) := by
  induction entries with
  | nil =>
    intro loaded
    refine ⟨loaded, rfl, ?_⟩
    intro place id
    exact ⟨fun ⟨_, absent, _⟩ => absurd absent not_mem_nil, fun _ => rfl⟩
  | cons entry rest ih =>
    intro loaded
    obtain ⟨middle, one, first⟩ :=
      loadEntry_listed lawful holds (listed entry mem_cons_self) loaded
    obtain ⟨next, others, later⟩ :=
      ih (fun other member => listed other (mem_cons_of_mem _ member)) middle
    refine ⟨next, ?_, ?_⟩
    · rw [foldlM_cons, bind_eq_ok]
      exact ⟨middle, one, others⟩
    · intro place id
      by_cases again : ∃ other ∈ rest, other.1 = objectKey place id
      · refine ⟨fun _ => (later place id).1 again, fun none => ?_⟩
        obtain ⟨other, member, key⟩ := again
        exact absurd ⟨other, mem_cons_of_mem _ member, key⟩ none
      · have still := (later place id).2 again
        refine ⟨fun some => ?_, fun none => ?_⟩
        · obtain ⟨other, member, key⟩ := some
          cases mem_cons.1 member with
          | inl same => exact still.trans ((first place id).1 (same ▸ key))
          | inr later => exact absurd ⟨other, later, key⟩ again
        · exact still.trans ((first place id).2 (fun key => none ⟨entry, mem_cons_self, key⟩))

theorem loadSections_held (lawful : serde.Lawful) (holds : Holds serde dir parent snapshot) :
    (manifestOf serde snapshot).objects.entries.foldlM (loadEntry serde dir)
      (fun _ => SortedMap.empty) = .ok (serde.toValue snapshot).2 := by
  obtain ⟨next, run, reads⟩ := loadEntries_listed lawful holds
    (manifestOf serde snapshot).objects.entries
    (fun entry member => mem_entries.1 member) (fun _ => SortedMap.empty)
  have whole : next = (serde.toValue snapshot).2 := by
    funext place
    apply ext_lookup
    intro id
    by_cases known : ∃ entry ∈ (manifestOf serde snapshot).objects.entries,
        entry.1 = objectKey place id
    · exact (reads place id).1 known
    · rw [(reads place id).2 known]
      cases stored : ((serde.toValue snapshot).2 place).lookup id with
      | none => rfl
      | some value =>
        have member : (objectKey place id, value) ∈ sectionEntries (serde.toValue snapshot).2 :=
          mem_sectionEntries.2 ⟨place, id, rfl, stored⟩
        obtain ⟨hash, listed⟩ := manifest_entry member
        exact absurd ⟨(objectKey place id, hash), mem_entries.2 listed, rfl⟩ known
  rw [run, whole]

theorem validateMigration_schema (valid : validateMigration codec snapshot = .ok ()) :
    1 ≤ snapshot.schema ∧ snapshot.schema ≤ 8 := by
  simp only [validateMigration, bind_eq_ok] at valid
  obtain ⟨_, _, supported⟩ := valid
  cases moved : snapshot.migration with
  | some receipt =>
    simp only [moved, bind_eq_ok, rejectIf_eq_ok, not_not] at supported
    omega
  | none =>
    simp only [moved, bind_eq_ok, rejectIf_eq_ok, Bool.not_eq_false] at supported
    obtain ⟨_, supported, _⟩ := supported
    unfold schemaSupported at supported
    split at supported <;> first | omega | cases supported

theorem checkReference_listed (member : artifact ∈ snapshotArtifacts snapshot)
    (readable : ∃ hash, managedArtifactHash artifact = .ok hash) :
    checkReference (manifestOf serde snapshot) artifact = .ok () := by
  obtain ⟨hash, named⟩ := readable
  simp only [checkReference, bind_eq_ok]
  refine ⟨hash, named, ?_⟩
  cases hash with
  | none => rfl
  | some hash =>
    have known : hash ∈ blobHashes (snapshotArtifacts snapshot) :=
      mem_filterMap.2 ⟨artifact, member, managed_eq_some.2 named⟩
    rw [rejectIf_eq_ok, not_ne_iff]
    exact manifest_blob known

theorem readCommit_held (lawful : serde.Lawful) (holds : Holds serde dir parent snapshot) :
    readCommit serde dir (serde.contentHash (serde.commitBytes (commitOf serde parent snapshot))) =
      .ok (commitOf serde parent snapshot) := by
  simp only [readCommit, bind_eq_ok, orElseErr_eq_ok]
  exact ⟨_, readObject_stored lawful holds.commit, lawful.commit _⟩

theorem loadSnapshot_held (lawful : serde.Lawful) (holds : Holds serde dir parent snapshot)
    (valid : validateMigration codec snapshot = .ok ()) :
    loadSnapshot codec serde dir
      (serde.contentHash (serde.commitBytes (commitOf serde parent snapshot))) = .ok snapshot := by
  simp only [loadSnapshot, bind_eq_ok, orElseErr_eq_ok, rejectIf_eq_ok, each_eq_ok, pure_eq_ok]
  refine ⟨_, readCommit_held lawful holds, _, readObject_stored lawful holds.manifest, _,
    lawful.manifest _, (), ?_, _, manifest_header, _, readObject_stored lawful holds.header, _,
    lawful.value _, _, loadSections_held lawful holds, snapshot, lawful.snapshot snapshot, (), ?_,
    (), valid, (), ?_, rfl⟩
  · rw [not_or, not_not, not_ne_iff]
    exact ⟨validateMigration_schema valid, rfl⟩
  · rw [not_or, not_ne_iff, not_ne_iff]
    exact ⟨rfl, rfl⟩
  · intro artifact member
    exact checkReference_listed member (holds.blobs artifact member).1

end Store

end Tickets
