import BambooAgent.Schedules.Operations
import Mathlib.Data.List.DropRight
import Mathlib.Data.List.TakeWhile

/- What a reload makes of an index: nothing, when its entries are normal. -/
namespace Schedules
open SortedMaps SortedMap Option

/- Texts. -/

def trimmed (chars : List Char) : List Char :=
  (chars.dropWhile Compression.isWhitespace).rdropWhile Compression.isWhitespace

theorem trim_eq (text : String) :
    Compression.trim text = String.ofList (trimmed text.toList) := rfl

theorem trimmed_trimmed (chars : List Char) : trimmed (trimmed chars) = trimmed chars := by
  have front : (trimmed chars).dropWhile Compression.isWhitespace = trimmed chars := by
    rw [List.dropWhile_eq_self_iff]
    intro some_
    obtain ⟨rest, same⟩ : trimmed chars <+: chars.dropWhile Compression.isWhitespace :=
      List.rdropWhile_prefix _ _
    have start := List.dropWhile_eq_self_iff.1
      (List.dropWhile_idempotent Compression.isWhitespace chars)
    have longer : 0 < (chars.dropWhile Compression.isWhitespace).length := by
      rw [← same, List.length_append]
      omega
    have head := start longer
    simp only [← same] at head
    rwa [List.getElem_append_left some_] at head
  unfold trimmed at front ⊢
  rw [front, List.rdropWhile_idempotent]

theorem trim_trim (text : String) :
    Compression.trim (Compression.trim text) = Compression.trim text := by
  rw [trim_eq (Compression.trim text), trim_eq text, String.toList_ofList, trimmed_trimmed]

theorem normalizeOptionalString_idem (value : Option String) :
    normalizeOptionalString (normalizeOptionalString value) = normalizeOptionalString value := by
  cases value with
  | none => rfl
  | some text =>
    have one : ∀ text, normalizeOptionalString (some text) =
        if (Compression.trim text).isEmpty then none else some (Compression.trim text) := by
      intro text
      cases empty : (Compression.trim text).isEmpty <;>
        simp only [normalizeOptionalString, map_some, Option.filter, empty] <;> rfl
    rw [one text]
    split
    · rfl
    · rename_i kept
      rw [one, trim_trim, if_neg kept]

/- Entries. -/

/-- An entry that loading leaves as it is. -/
structure Normal (entry : ScheduleEntry) : Prop where
  timezone : normalizeOptionalString entry.timezone = entry.timezone
  anchored : ∀ everySeconds anchorAt, entry.trigger = .interval everySeconds anchorAt →
    everySeconds ≠ 0 ∧ anchorAt.isSome = true
  next : (∀ at_, entry.trigger ≠ .once at_) → entry.state.nextFireAt.isSome = true

section Entries
variable {entry other : ScheduleEntry}

theorem Normal.congr (normal : Normal entry) (timezone : other.timezone = entry.timezone)
    (trigger : other.trigger = entry.trigger)
    (next : other.state.nextFireAt = entry.state.nextFireAt) : Normal other where
  timezone := by rw [timezone, normal.timezone]
  anchored := by
    rw [trigger]
    exact normal.anchored
  next := by
    rw [trigger, next]
    exact normal.next

theorem derivedAnchor_some (interval : entry.trigger = .interval everySeconds anchorAt) :
    entry.derivedAnchorAt.isSome = true := by
  unfold ScheduleEntry.derivedAnchorAt
  rw [interval]
  cases anchorAt with
  | some anchor => rfl
  | none => simp

theorem normal_loaded (entry : ScheduleEntry) : Normal (normalizeLoadedScheduleEntry entry) where
  timezone := normalizeOptionalString_idem entry.timezone
  anchored := by
    intro everySeconds anchorAt interval
    change normalizeLoadedTrigger entry = _ at interval
    unfold normalizeLoadedTrigger at interval
    split at interval
    · rename_i every anchor is
      cases interval
      constructor
      · split
        · exact Nat.one_ne_zero
        · assumption
      · simp [derivedAnchor_some is]
    · rename_i not_
      exact absurd interval (not_ _ _)
  next := by
    intro repeats
    change ∀ at_, normalizeLoadedTrigger entry ≠ .once at_ at repeats
    change (normalizeLoadedNext entry).isSome = true
    unfold normalizeLoadedNext
    split
    · rename_i at_ once_
      refine absurd ?_ (repeats at_)
      rw [normalizeLoadedTrigger, once_]
    · simp

theorem loadedTrigger_anchored (anchored : ∀ everySeconds anchorAt,
    entry.trigger = .interval everySeconds anchorAt →
      everySeconds ≠ 0 ∧ anchorAt.isSome = true) :
    normalizeLoadedTrigger entry = entry.trigger := by
  unfold normalizeLoadedTrigger
  split
  · rename_i everySeconds anchorAt is
    obtain ⟨positive, some_⟩ := anchored _ _ is
    obtain ⟨anchor, rfl⟩ := isSome_iff_exists.1 some_
    rw [is, if_neg positive]
    rfl
  · rfl

theorem loaded_of_normal (normal : Normal entry) : normalizeLoadedScheduleEntry entry = entry := by
  have trigger := loadedTrigger_anchored normal.anchored
  have next : normalizeLoadedNext entry = entry.state.nextFireAt := by
    unfold normalizeLoadedNext
    split
    · rfl
    · rename_i not_
      obtain ⟨fire, found⟩ := isSome_iff_exists.1 (normal.next (fun at_ is => not_ at_ is))
      rw [found]
      rfl
  unfold normalizeLoadedScheduleEntry
  rw [trigger, next, normal.timezone]

theorem reread_anchored (anchored : ∀ everySeconds anchorAt,
    entry.trigger = .interval everySeconds anchorAt → anchorAt.isSome = true) :
    entry.reread = entry := by
  have trigger : entry.toCompat.storedTrigger = some entry.trigger := by
    unfold ScheduleEntryCompat.storedTrigger ScheduleEntry.toCompat
    dsimp only
    split
    · rename_i everySeconds anchorAt is
      obtain ⟨anchor, rfl⟩ :=
        isSome_iff_exists.1 (anchored _ _ (some.inj is))
      rw [is]
      rfl
    · rename_i found _ is
      exact is.symm
    · rename_i is
      cases is
  have state : entry.toCompat.storedState = entry.state := by
    unfold ScheduleEntryCompat.storedState ScheduleEntry.toCompat
    simp
  unfold ScheduleEntry.reread ScheduleEntry.fromCompat
  rw [trigger]
  simp only [state]
  rfl

theorem reread_of_normal (normal : Normal entry) : entry.reread = entry :=
  reread_anchored (fun everySeconds anchorAt is => (normal.anchored everySeconds anchorAt is).2)

end Entries

/- Indexes. -/

structure NormalIndex (index : SchedulesIndex) : Prop where
  version : 4 ≤ index.version
  entries : ∀ key entry, index.schedules.lookup key = some entry → Normal entry

theorem mapValues_eq_self {schedules : SortedMap String ScheduleEntry}
    (same : ∀ key entry, schedules.lookup key = some entry → f entry = entry) :
    schedules.mapValues f = schedules := by
  apply ext_lookup
  intro key
  rw [lookup_mapValues]
  cases found : schedules.lookup key with
  | none => rfl
  | some entry => rw [map_some, same key entry found]

section Indexes
variable {index : SchedulesIndex} {now : Instant} {store : ScheduleStore}

theorem loaded_index (normal : NormalIndex index) :
    normalizeLoadedIndex now index = (index, false) := by
  have schedules : index.schedules.mapValues normalizeLoadedScheduleEntry = index.schedules :=
    mapValues_eq_self (fun key entry found => loaded_of_normal (normal.entries key entry found))
  have current : ¬ index.version < 4 := not_lt.2 normal.version
  unfold normalizeLoadedIndex
  rw [schedules]
  simp [current, max_eq_left normal.version]

theorem reread_index (normal : NormalIndex index) : index.reread = index := by
  unfold SchedulesIndex.reread
  rw [mapValues_eq_self (fun key entry found => reread_of_normal (normal.entries key entry found))]

/-- The file holds the index, and loading it again makes nothing else of it. -/
structure Settled (store : ScheduleStore) : Prop where
  file : store.file = store.index
  normal : NormalIndex store.index

theorem settled_open (now : Instant) (read : SchedulesIndex) (minted : Nat) :
    Settled (openStore now read minted) := by
  have normal : NormalIndex (normalizeLoadedIndex now read).1 := by
    constructor
    · exact le_max_right _ _
    · intro key entry found
      change (read.schedules.mapValues normalizeLoadedScheduleEntry).lookup key = _ at found
      rw [lookup_mapValues, map_eq_some_iff] at found
      obtain ⟨raw, _, rfl⟩ := found
      exact normal_loaded raw
  refine ⟨?_, normal⟩
  change (if (normalizeLoadedIndex now read).2 = true then (normalizeLoadedIndex now read).1
    else read) = (normalizeLoadedIndex now read).1
  split
  · rfl
  · rename_i unchanged
    unfold normalizeLoadedIndex at unchanged ⊢
    simp only [Bool.or_eq_true, decide_eq_true_eq, not_or, Decidable.not_not, not_lt]
      at unchanged
    obtain ⟨current, schedules⟩ := unchanged
    simp [schedules, max_eq_left current, not_lt.2 current]

theorem reload_settled (settled : Settled store) : store.reload now = store := by
  unfold ScheduleStore.reload openStore
  rw [settled.file, reread_index settled.normal, loaded_index settled.normal]
  obtain ⟨index, file, minted⟩ := store
  cases settled.file
  rfl

end Indexes

end Schedules
