import Mathlib.Algebra.Ring.Nat
import Mathlib.Algebra.BigOperators.Group.Finset.Basic
import Mathlib.Data.String.Basic
import Mathlib.Data.List.Pairwise
import Mathlib.Data.Finset.Card
import Mathlib.Data.Finset.Image

/- Finite maps and sets kept in strictly increasing key order. The order is a field
   of the value, so a map with a repeated key or keys out of order cannot be built. -/
namespace SortedMaps
open List

variable {κ ν : Type} [LinearOrder κ]

def lookupEntries (key : κ) : List (κ × ν) → Option ν
  | [] => none
  | (k, v) :: rest => if key = k then some v else lookupEntries key rest

def insertEntries (key : κ) (value : ν) : List (κ × ν) → List (κ × ν)
  | [] => [(key, value)]
  | (k, v) :: rest =>
      if key < k then (key, value) :: (k, v) :: rest
      else if key = k then (key, value) :: rest
      else (k, v) :: insertEntries key value rest

abbrev Ordered (entries : List (κ × ν)) : Prop := entries.Pairwise (fun a b => a.1 < b.1)

variable {entries : List (κ × ν)}

theorem insertEntries_keys
    (h : e ∈ insertEntries key value entries) : e = (key, value) ∨ e ∈ entries := by
  induction entries with
  | nil => simpa [insertEntries] using h
  | cons head rest ih =>
    simp only [insertEntries] at h
    split at h
    · simpa using h
    · split at h
      · rcases mem_cons.1 h with same | later
        · exact .inl same
        · exact .inr (mem_cons_of_mem _ later)
      · rcases mem_cons.1 h with same | later
        · exact .inr (by simp [same])
        · rcases ih later with new | old
          · exact .inl new
          · exact .inr (mem_cons_of_mem _ old)

theorem insertEntries_ordered (key : κ) (value : ν) (ordered : Ordered entries) :
    Ordered (insertEntries key value entries) := by
  induction entries with
  | nil => simp [insertEntries]
  | cons head rest ih =>
    obtain ⟨k, v⟩ := head
    have above : ∀ e ∈ rest, k < e.1 := fun e he => rel_of_pairwise_cons ordered he
    simp only [insertEntries]
    split
    · rename_i before
      refine List.Pairwise.cons ?_ ordered
      intro e he
      rcases mem_cons.1 he with same | later
      · simpa [same] using before
      · exact lt_trans before (above e later)
    · split
      · rename_i _ same
        subst same
        exact List.Pairwise.cons above ordered.of_cons
      · rename_i notBefore different
        have after : k < key := lt_of_le_of_ne (not_lt.1 notBefore) (Ne.symm different)
        refine List.Pairwise.cons ?_ (ih ordered.of_cons)
        intro e he
        rcases insertEntries_keys he with new | old
        · simpa [new] using after
        · exact above e old

theorem lookup_insertEntries (key other : κ) (value : ν) (entries : List (κ × ν)) :
    lookupEntries other (insertEntries key value entries) =
      if other = key then some value else lookupEntries other entries := by
  induction entries with
  | nil => simp [insertEntries, lookupEntries]
  | cons head rest ih =>
    obtain ⟨k, v⟩ := head
    simp only [insertEntries]
    split
    · simp [lookupEntries]
    · split
      · rename_i _ same
        subst same
        by_cases eq : other = key <;> simp [lookupEntries, eq]
      · rename_i _ different
        by_cases eq : other = k
        · subst eq
          simp [lookupEntries, Ne.symm different]
        · simp [lookupEntries, eq, ih]

theorem lookup_absent (above : ∀ e ∈ entries, key < e.1) :
    lookupEntries key entries = none := by
  induction entries with
  | nil => rfl
  | cons head rest ih =>
    have first := above head (by simp)
    have tail := ih (fun e he => above e (mem_cons_of_mem _ he))
    simp [lookupEntries, ne_of_lt first, tail]

theorem mem_iff_lookup (ordered : Ordered entries) :
    (key, value) ∈ entries ↔ lookupEntries key entries = some value := by
  induction entries with
  | nil => simp [lookupEntries]
  | cons head rest ih =>
    obtain ⟨k, v⟩ := head
    have above : ∀ e ∈ rest, k < e.1 := fun e he => rel_of_pairwise_cons ordered he
    have tail := ih ordered.of_cons
    by_cases same : key = k
    · subst same
      have absent : (key, value) ∉ rest := fun later => lt_irrefl _ (above _ later)
      simp [lookupEntries, absent, eq_comm]
    · simp [lookupEntries, same, tail]

theorem entries_ext {left : List (κ × ν)} (orderedLeft : Ordered left)
    (orderedRight : Ordered right)
    (same : ∀ key, lookupEntries key left = lookupEntries key right) : left = right := by
  have members : ∀ e, e ∈ left ↔ e ∈ right := by
    rintro ⟨k, v⟩
    rw [mem_iff_lookup orderedLeft, mem_iff_lookup orderedRight, same]
  have nodupOf : ∀ {l : List (κ × ν)}, Ordered l → l.Nodup := fun h =>
    h.imp (fun lt eq => ne_of_lt lt (congrArg Prod.fst eq))
  have perm := (perm_ext_iff_of_nodup (nodupOf orderedLeft) (nodupOf orderedRight)).2 members
  exact perm.eq_of_pairwise (fun a b _ _ hab hba => absurd hab (not_lt.2 hba.le))
    orderedLeft orderedRight

/-- A map from ordered keys, stored as its entries in key order. -/
structure SortedMap (κ ν : Type) [LinearOrder κ] where
  entries : List (κ × ν)
  ordered : Ordered entries
  deriving DecidableEq

namespace SortedMap

def empty : SortedMap κ ν := ⟨[], List.Pairwise.nil⟩

def lookup (m : SortedMap κ ν) (key : κ) : Option ν := lookupEntries key m.entries

def insert (m : SortedMap κ ν) (key : κ) (value : ν) : SortedMap κ ν :=
  ⟨insertEntries key value m.entries, insertEntries_ordered key value m.ordered⟩

def contains (m : SortedMap κ ν) (key : κ) : Bool := (m.lookup key).isSome

def keys (m : SortedMap κ ν) : List κ := m.entries.map Prod.fst

def values (m : SortedMap κ ν) : List ν := m.entries.map Prod.snd

def size (m : SortedMap κ ν) : Nat := m.entries.length

def isEmpty (m : SortedMap κ ν) : Bool := m.entries.isEmpty

def erase (m : SortedMap κ ν) (key : κ) : SortedMap κ ν :=
  ⟨m.entries.filter (fun e => e.1 ≠ key), m.ordered.sublist filter_sublist⟩

/-- Keep the entries whose value passes, as `retain` does. -/
def retain (keep : ν → Bool) (m : SortedMap κ ν) : SortedMap κ ν :=
  ⟨m.entries.filter (fun e => keep e.2), m.ordered.sublist filter_sublist⟩

/-- Rewrite every value in place, as a loop over `values_mut` does. -/
def mapValues (f : ν → ν) (m : SortedMap κ ν) : SortedMap κ ν :=
  ⟨m.entries.map (fun e => (e.1, f e.2)), by
    have h := m.ordered
    exact pairwise_map.2 (h.imp (fun lt => lt))⟩

instance : Inhabited (SortedMap κ ν) := ⟨empty⟩

@[simp] theorem lookup_empty (key : κ) : (empty : SortedMap κ ν).lookup key = none := rfl

@[simp] theorem lookup_insert (m : SortedMap κ ν) (key other : κ) (value : ν) :
    (m.insert key value).lookup other = if other = key then some value else m.lookup other :=
  lookup_insertEntries key other value m.entries

theorem lookup_insert_self (m : SortedMap κ ν) (key : κ) (value : ν) :
    (m.insert key value).lookup key = some value := by simp

variable {other : κ}

theorem lookup_insert_other (m : SortedMap κ ν) (value : ν) (different : other ≠ key) :
    (m.insert key value).lookup other = m.lookup other := by
  simp [different]

variable {m : SortedMap κ ν}

theorem mem_entries :
    (key, value) ∈ m.entries ↔ m.lookup key = some value := mem_iff_lookup m.ordered

theorem mem_values : value ∈ m.values ↔ ∃ key, m.lookup key = some value := by
  simp only [values, mem_map, Prod.exists, mem_entries]
  constructor
  · rintro ⟨k, v, found, same⟩
    exact ⟨k, same ▸ found⟩
  · rintro ⟨k, found⟩
    exact ⟨k, value, found, rfl⟩

theorem mem_keys : key ∈ m.keys ↔ ∃ value, m.lookup key = some value := by
  simp only [keys, mem_map, Prod.exists, mem_entries]
  constructor
  · rintro ⟨k, v, found, same⟩
    exact ⟨v, same ▸ found⟩
  · rintro ⟨v, found⟩
    exact ⟨key, v, found, rfl⟩

theorem contains_iff : m.contains key = true ↔ ∃ value, m.lookup key = some value := by
  simp [contains, Option.isSome_iff_exists]

theorem contains_false : m.contains key = false ↔ m.lookup key = none := by
  simp [contains]

theorem values_length (m : SortedMap κ ν) : m.values.length = m.size := by
  simp [values, size]

theorem keys_nodup (m : SortedMap κ ν) : m.keys.Nodup :=
  pairwise_map.2 (m.ordered.imp (fun lt => ne_of_lt lt))

theorem ext_lookup {left : SortedMap κ ν}
    (same : ∀ key, left.lookup key = right.lookup key) : left = right := by
  obtain ⟨l, hl⟩ := left
  obtain ⟨r, hr⟩ := right
  have entries := entries_ext hl hr same
  subst entries
  rfl

theorem insert_lookup_self (found : m.lookup key = some value) :
    m.insert key value = m := by
  apply ext_lookup
  intro other
  by_cases same : other = key
  · simp [same, found]
  · simp [same]

theorem lookup_mapEntries (f : ν → ν) (key : κ) (entries : List (κ × ν)) :
    lookupEntries key (entries.map (fun e => (e.1, f e.2))) =
      (lookupEntries key entries).map f := by
  induction entries with
  | nil => rfl
  | cons head rest ih =>
    obtain ⟨k, v⟩ := head
    by_cases same : key = k
    · simp [lookupEntries, same]
    · simp [lookupEntries, same, ih]

@[simp] theorem lookup_mapValues (f : ν → ν) (m : SortedMap κ ν) (key : κ) :
    (m.mapValues f).lookup key = (m.lookup key).map f :=
  lookup_mapEntries f key m.entries

@[simp] theorem lookup_erase (m : SortedMap κ ν) (key other : κ) :
    (m.erase key).lookup other = if other = key then none else m.lookup other := by
  apply Option.ext
  intro value
  rw [← mem_entries, erase, mem_filter, mem_entries]
  by_cases same : other = key
  · simp [same]
  · simp [same]

theorem lookup_retain :
    (m.retain keep).lookup key = some value ↔ m.lookup key = some value ∧ keep value = true := by
  rw [← mem_entries, retain, mem_filter, mem_entries]

theorem length_insertEntries (key : κ) (value : ν) (entries : List (κ × ν)) :
    (insertEntries key value entries).length ≤ entries.length + 1 := by
  induction entries with
  | nil => simp [insertEntries]
  | cons head rest ih =>
    simp only [insertEntries]
    split
    · simp
    · split
      · simp
      · simpa using ih

theorem size_insert_le (m : SortedMap κ ν) (key : κ) (value : ν) :
    (m.insert key value).size ≤ m.size + 1 :=
  length_insertEntries key value m.entries

theorem size_retain_le (m : SortedMap κ ν) (keep : ν → Bool) : (m.retain keep).size ≤ m.size :=
  length_filter_le ..

theorem size_erase_lt (held : m.lookup key = some value) :
    (m.erase key).size < m.size := by
  apply length_filter_lt_length_iff_exists.2
  exact ⟨(key, value), mem_entries.2 held, by simp⟩

theorem lookup_erase_other (m : SortedMap κ ν) (different : other ≠ key) :
    (m.erase key).lookup other = m.lookup other := by
  simp [different]

/-- Many removals one after the other. -/
theorem lookup_eraseAll {α : Type} (key : α → κ) (items : List α) (k : κ) :
    ∀ m : SortedMap κ ν, (items.foldl (fun m item => m.erase (key item)) m).lookup k =
      if k ∈ items.map key then none else m.lookup k := by
  induction items with
  | nil =>
    intro m
    rfl
  | cons item rest ih =>
    intro m
    rw [foldl_cons, ih]
    by_cases here : k = key item
    · simp [here]
    · simp [here]

/- Many insertions one after the other. -/

def insertAll {α : Type} (key : α → κ) (value : α → ν) (m : SortedMap κ ν) (items : List α) :
    SortedMap κ ν :=
  items.foldl (fun m item => m.insert (key item) (value item)) m

section Insertions
variable {α : Type} {key : α → κ} {value : α → ν} {k : κ} {v : ν}

theorem insertAll_concat (m : SortedMap κ ν) (items : List α) (item : α) :
    insertAll key value m (items ++ [item]) =
      (insertAll key value m items).insert (key item) (value item) := by
  rw [insertAll, foldl_append]
  rfl

theorem insertAll_origin (items : List α) : ∀ m : SortedMap κ ν,
    (insertAll key value m items).lookup k = some v →
      m.lookup k = some v ∨ ∃ item ∈ items, k = key item ∧ v = value item := by
  induction items with
  | nil =>
    intro m found
    exact .inl found
  | cons item rest ih =>
    intro m found
    rcases ih _ found with before | ⟨later, member, same⟩
    · by_cases here : k = key item
      · rw [here, lookup_insert_self] at before
        exact .inr ⟨item, mem_cons_self, here, (Option.some.inj before).symm⟩
      · rw [lookup_insert_other _ _ here] at before
        exact .inl before
    · exact .inr ⟨later, mem_cons_of_mem _ member, same⟩

theorem insertAll_other (items : List α) (other : ∀ item ∈ items, k ≠ key item) :
    ∀ m : SortedMap κ ν, (insertAll key value m items).lookup k = m.lookup k := by
  induction items with
  | nil =>
    intro m
    rfl
  | cons item rest ih =>
    intro m
    have later := ih (fun next member => other next (mem_cons_of_mem _ member))
      (m.insert (key item) (value item))
    exact later.trans (lookup_insert_other _ _ (other item mem_cons_self))

theorem insertAll_kept (items : List α) : ∀ m : SortedMap κ ν, (∃ v, m.lookup k = some v) →
    ∃ v, (insertAll key value m items).lookup k = some v := by
  induction items with
  | nil =>
    intro m found
    exact found
  | cons item rest ih =>
    intro m found
    apply ih
    by_cases here : k = key item
    · rw [here]
      exact ⟨_, lookup_insert_self _ _ _⟩
    · rw [lookup_insert_other _ _ here]
      exact found

theorem insertAll_present (items : List α) (member : item ∈ items) :
    ∀ m : SortedMap κ ν, ∃ v, (insertAll key value m items).lookup (key item) = some v := by
  induction items with
  | nil => cases member
  | cons first rest ih =>
    intro m
    cases mem_cons.1 member with
    | inl here =>
      subst here
      exact insertAll_kept rest _ ⟨_, lookup_insert_self _ _ _⟩
    | inr later => exact ih later _

end Insertions

/-- The keys whose value satisfies a test, as a finite set. -/
def keysWhere (p : ν → Bool) (m : SortedMap κ ν) : Finset κ :=
  ((m.entries.filter (fun e => p e.2)).map Prod.fst).toFinset

theorem mem_keysWhere :
    key ∈ m.keysWhere p ↔ ∃ value, m.lookup key = some value ∧ p value = true := by
  simp only [keysWhere, mem_toFinset, mem_map, mem_filter, Prod.exists,
    mem_entries]
  constructor
  · rintro ⟨k, v, ⟨found, holds⟩, same⟩
    exact ⟨v, same ▸ found, holds⟩
  · rintro ⟨v, found, holds⟩
    exact ⟨key, v, ⟨found, holds⟩, rfl⟩

theorem countP_values (p : ν → Bool) (m : SortedMap κ ν) :
    m.values.countP p = (m.keysWhere p).card := by
  have nodup : ((m.entries.filter (fun e => p e.2)).map Prod.fst).Nodup :=
    (keys_nodup m).sublist (filter_sublist.map Prod.fst)
  rw [keysWhere, toFinset_card_of_nodup nodup, length_map, values, countP_map,
    countP_eq_length_filter]
  rfl

theorem sum_values (weight : ν → Nat) (m : SortedMap κ ν) :
    (m.values.map weight).sum = ∑ key ∈ m.keys.toFinset, ((m.lookup key).map weight).getD 0 := by
  rw [sum_toFinset _ (keys_nodup m), keys, values, map_map, map_map]
  congr 1
  apply map_congr_left
  rintro ⟨key, value⟩ member
  have found := mem_entries.1 member
  simp [found]

end SortedMap

/-- A set of ordered items, stored as its items in order. -/
structure SortedSet (κ : Type) [LinearOrder κ] where
  items : List κ
  ordered : items.Pairwise (· < ·)
  deriving DecidableEq

namespace SortedSet

def empty : SortedSet κ := ⟨[], List.Pairwise.nil⟩

def contains (s : SortedSet κ) (item : κ) : Bool := decide (item ∈ s.items)

def insertItem (item : κ) : List κ → List κ
  | [] => [item]
  | k :: rest =>
      if item < k then item :: k :: rest
      else if item = k then k :: rest
      else k :: insertItem item rest

variable {item : κ}

theorem mem_insertItem {items : List κ} :
    other ∈ insertItem item items ↔ other = item ∨ other ∈ items := by
  induction items with
  | nil => simp [insertItem]
  | cons k rest ih =>
    simp only [insertItem]
    split
    · simp
    · split
      · rename_i _ same
        subst same
        simp
      · simp only [mem_cons, ih]
        tauto

theorem insertItem_ordered (item : κ) {items : List κ} (ordered : items.Pairwise (· < ·)) :
    (insertItem item items).Pairwise (· < ·) := by
  induction items with
  | nil => simp [insertItem]
  | cons k rest ih =>
    have above : ∀ e ∈ rest, k < e := fun e he => rel_of_pairwise_cons ordered he
    simp only [insertItem]
    split
    · rename_i before
      refine List.Pairwise.cons ?_ ordered
      intro e he
      rcases mem_cons.1 he with same | later
      · exact same ▸ before
      · exact lt_trans before (above e later)
    · split
      · exact ordered
      · rename_i notBefore different
        have after : k < item := lt_of_le_of_ne (not_lt.1 notBefore) (Ne.symm different)
        refine List.Pairwise.cons ?_ (ih ordered.of_cons)
        intro e he
        rcases mem_insertItem.1 he with new | old
        · exact new ▸ after
        · exact above e old

def insert (s : SortedSet κ) (item : κ) : SortedSet κ :=
  ⟨insertItem item s.items, insertItem_ordered item s.ordered⟩

def ofList (items : List κ) : SortedSet κ := items.foldl insert empty

def isEmpty (s : SortedSet κ) : Bool := s.items.isEmpty

def erase (s : SortedSet κ) (item : κ) : SortedSet κ :=
  ⟨s.items.filter (fun k => k ≠ item), s.ordered.sublist filter_sublist⟩

def isDisjoint (s t : SortedSet κ) : Bool := s.items.all (fun item => !t.contains item)

instance : Inhabited (SortedSet κ) := ⟨empty⟩
instance : Membership κ (SortedSet κ) := ⟨fun s item => item ∈ s.items⟩
instance (item : κ) (s : SortedSet κ) : Decidable (item ∈ s) :=
  inferInstanceAs (Decidable (item ∈ s.items))

variable {s : SortedSet κ}

theorem mem_def : item ∈ s ↔ item ∈ s.items := Iff.rfl

@[simp] theorem contains_iff : s.contains item = true ↔ item ∈ s := by simp [contains, mem_def]

@[simp] theorem not_mem_empty (item : κ) : item ∉ (empty : SortedSet κ) := by
  simp [mem_def, empty]

@[simp] theorem mem_insert : other ∈ s.insert item ↔ other = item ∨ other ∈ s := mem_insertItem

theorem isDisjoint_iff : s.isDisjoint t = true ↔ ∀ item, item ∈ s → item ∉ t := by
  simp [isDisjoint, all_eq_true, contains, mem_def]

end SortedSet

end SortedMaps
