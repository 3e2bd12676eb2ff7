import Mathlib.Algebra.Order.BigOperators.Group.List
import BambooAgent.Library.SortedMap

/- What the records of a map weigh together, in all and group by group, and how one
   insertion changes it. A ledger that keeps running sums is compared with these. -/
namespace Tallies
open SortedMaps List
open SortedMap hiding entries

variable {κ γ ν : Type} [LinearOrder κ] [LinearOrder γ]

def total (weight : ν → Nat) (records : SortedMap κ ν) : Nat :=
  (records.values.map weight).sum

def entriesTotal (weight : ν → Nat) : List (κ × ν) → Nat
  | [] => 0
  | entry :: rest => weight entry.2 + entriesTotal weight rest

theorem total_entries (weight : ν → Nat) (records : SortedMap κ ν) :
    total weight records = entriesTotal weight records.entries := by
  unfold total SortedMap.values
  induction records.entries with
  | nil => rfl
  | cons entry rest ih =>
    simp only [map_cons, sum_cons, entriesTotal]
    omega

variable {value : ν}

section
variable (weight : ν → Nat)
include weight

theorem entriesTotal_new {key : κ} (absent : lookupEntries key entries = none) :
    entriesTotal weight (insertEntries key value entries) =
      entriesTotal weight entries + weight value := by
  induction entries with
  | nil => simp [insertEntries, entriesTotal]
  | cons entry rest ih =>
    obtain ⟨k, v⟩ := entry
    by_cases same : key = k
    · simp [lookupEntries, same] at absent
    · rw [lookupEntries, if_neg same] at absent
      have later := ih absent
      simp only [insertEntries, if_neg same]
      split
      · simp only [entriesTotal]
        omega
      · simp only [entriesTotal]
        omega

theorem entriesTotal_put {key : κ} (ordered : Ordered entries)
    (found : lookupEntries key entries = some old) :
    entriesTotal weight (insertEntries key value entries) + weight old =
      entriesTotal weight entries + weight value := by
  induction entries with
  | nil => simp [lookupEntries] at found
  | cons entry rest ih =>
    obtain ⟨k, v⟩ := entry
    have above : ∀ e ∈ rest, k < e.1 := fun e he => rel_of_pairwise_cons ordered he
    by_cases same : key = k
    · subst same
      simp only [lookupEntries, if_true, Option.some.injEq] at found
      subst found
      simp only [insertEntries, lt_irrefl, if_true, if_false, entriesTotal]
      omega
    · rw [lookupEntries, if_neg same] at found
      have notBefore : ¬ key < k := by
        intro before
        have absent := lookup_absent (fun e he => lt_trans before (above e he))
        rw [absent] at found
        cases found
      have later := ih ordered.of_cons found
      simp only [insertEntries, if_neg notBefore, if_neg same, entriesTotal]
      omega

theorem total_new {records : SortedMap κ ν} (absent : records.lookup key = none) :
    total weight (records.insert key value) = total weight records + weight value := by
  rw [total_entries, total_entries]
  exact entriesTotal_new weight absent

theorem total_put {records : SortedMap κ ν} (found : records.lookup key = some old) :
    total weight (records.insert key value) + weight old = total weight records + weight value := by
  rw [total_entries, total_entries]
  exact entriesTotal_put weight records.ordered found

theorem weight_le_total {records : SortedMap κ ν}
    (found : records.lookup key = some value) : weight value ≤ total weight records := by
  have member : weight value ∈ records.values.map weight :=
    mem_map_of_mem (mem_values.2 ⟨key, found⟩)
  exact single_le_sum (fun _ _ => Nat.zero_le _) _ member

end

theorem total_congr {records : SortedMap κ ν}
    (same : ∀ key value, records.lookup key = some value → weight value = other value) :
    total weight records = total other records := by
  unfold total
  congr 1
  apply map_congr_left
  intro value member
  obtain ⟨key, found⟩ := mem_values.1 member
  exact same key value found

theorem total_mono {records : SortedMap κ ν}
    (less : ∀ key value, records.lookup key = some value → weight value ≤ other value) :
    total weight records ≤ total other records := by
  apply sum_le_sum
  intro value member
  obtain ⟨key, found⟩ := mem_values.1 member
  exact less key value found

/-- Records that weigh nothing add up to nothing. -/
theorem total_zero {records : SortedMap κ ν}
    (light : ∀ key value, records.lookup key = some value → weight value = 0) :
    total weight records = 0 := by
  have same : total weight records = total (fun _ => 0) records := total_congr light
  rw [same]
  simp [total]

theorem total_le {records : SortedMap κ ν}
    (bounded : ∀ key value, records.lookup key = some value → weight value ≤ bound) :
    total weight records ≤ records.size * bound := by
  rw [← values_length, ← length_map weight]
  apply sum_le_card_nsmul
  intro amount member
  obtain ⟨value, known, same⟩ := mem_map.1 member
  obtain ⟨key, found⟩ := mem_values.1 known
  rw [← same]
  exact bounded key value found

theorem total_one (records : SortedMap κ ν) : total (fun _ => 1) records = records.size := by
  rw [total, map_const', sum_replicate, values_length]
  exact Nat.mul_one _

theorem size_new {records : SortedMap κ ν} (value : ν)
    (absent : records.lookup key = none) : (records.insert key value).size = records.size + 1 := by
  rw [← total_one, ← total_one]
  exact total_new _ absent

theorem size_put {records : SortedMap κ ν} (value : ν)
    (found : records.lookup key = some old) : (records.insert key value).size = records.size := by
  have counted : total (fun _ => 1) (records.insert key value) + 1 =
      total (fun _ => 1) records + 1 := total_put _ found
  rw [total_one, total_one] at counted
  omega

theorem countP_total (p : ν → Bool) (records : SortedMap κ ν) :
    records.values.countP p = total (fun value => if p value then 1 else 0) records := by
  unfold total
  induction records.values with
  | nil => rfl
  | cons value rest ih =>
    rw [countP_cons, map_cons, sum_cons]
    omega

theorem total_keys (weight : ν → Nat) (records : SortedMap κ ν) :
    total weight records =
      ∑ key ∈ records.keys.toFinset, ((records.lookup key).map weight).getD 0 :=
  sum_values weight records

theorem total_single {records : SortedMap κ ν} (found : records.lookup key = some value)
    (light : ∀ other v, records.lookup other = some v → other ≠ key → weight v = 0) :
    total weight records = weight value := by
  rw [total_keys, Finset.sum_eq_single key]
  · rw [found]
    rfl
  · intro other member different
    obtain ⟨v, held⟩ := mem_keys.1 (mem_toFinset.1 member)
    rw [held]
    exact light other v held different
  · intro absent
    exact absurd (mem_toFinset.2 (mem_keys.2 ⟨value, found⟩)) absent

/-- Records that weigh nothing can go. -/
theorem total_kept {records : SortedMap κ ν}
    (origin : ∀ key value, kept.lookup key = some value → records.lookup key = some value)
    (stays : ∀ key value, records.lookup key = some value → weight value ≠ 0 →
      kept.lookup key = some value) : total weight kept = total weight records := by
  rw [total_keys, total_keys]
  have inside : kept.keys.toFinset ⊆ records.keys.toFinset := by
    intro key member
    obtain ⟨value, held⟩ := mem_keys.1 (mem_toFinset.1 member)
    exact mem_toFinset.2 (mem_keys.2 ⟨value, origin key value held⟩)
  rw [Finset.sum_congr rfl (fun key member => ?_), Finset.sum_subset inside ?_]
  · intro key member gone
    obtain ⟨value, held⟩ := mem_keys.1 (mem_toFinset.1 member)
    rw [held]
    by_contra heavy
    exact gone (mem_toFinset.2 (mem_keys.2 ⟨value, stays key value held heavy⟩))
  · obtain ⟨value, held⟩ := mem_keys.1 (mem_toFinset.1 member)
    rw [held, origin key value held]

/-- Records under new keys, no two of them the same. -/
theorem total_insertAll (weight : ν → Nat) {key : α → κ} {value : α → ν}
    (items : List α) : ∀ {records : SortedMap κ ν}, (items.map key).Nodup →
    (∀ item ∈ items, records.lookup (key item) = none) →
    total weight (records.insertAll key value items) =
      total weight records + (items.map (fun item => weight (value item))).sum := by
  induction items with
  | nil =>
    intro records _ _
    rfl
  | cons item rest ih =>
    intro records distinct absent
    rw [map_cons, nodup_cons] at distinct
    have later : ∀ other ∈ rest,
        (records.insert (key item) (value item)).lookup (key other) = none := by
      intro other member
      have different : key other ≠ key item :=
        fun same => distinct.1 (same ▸ mem_map_of_mem member)
      rw [lookup_insert_other _ _ different]
      exact absent other (mem_cons_of_mem _ member)
    have grown : total weight (records.insert (key item) (value item)) = _ :=
      total_new weight (absent item mem_cons_self)
    have all : total weight (records.insertAll key value (item :: rest)) = _ :=
      ih distinct.2 later
    rw [all, grown, map_cons, sum_cons]
    omega

/- Sums group by group. -/

/-- Only the records of one group weigh something. -/
def weightIn (group : ν → γ) (weight : ν → Nat) (g : γ) (value : ν) : Nat :=
  if group value = g then weight value else 0

def Inhabits (group : ν → γ) (records : SortedMap κ ν) (g : γ) : Prop :=
  ∃ key value, records.lookup key = some value ∧ group value = g

/-- Is this map the sums of the groups that have a record? -/
structure Tallied (group : ν → γ) (weight : ν → Nat) (records : SortedMap κ ν)
    (sums : SortedMap γ Nat) : Prop where
  sum : ∀ g amount, sums.lookup g = some amount →
    amount = total (weightIn group weight g) records
  present : ∀ g, (∃ amount, sums.lookup g = some amount) ↔ Inhabits group records g

section Groups
variable {group : ν → γ} {weight : ν → Nat} {records : SortedMap κ ν} {sums : SortedMap γ Nat}

theorem tallied_unique (first : Tallied group weight records sums)
    (second : Tallied group weight records other) : sums = other := by
  apply ext_lookup
  intro g
  cases found : sums.lookup g with
  | none =>
    cases there : other.lookup g with
    | none => rfl
    | some amount =>
      obtain ⟨_, here⟩ := (first.present g).2 ((second.present g).1 ⟨amount, there⟩)
      rw [found] at here
      cases here
  | some amount =>
    obtain ⟨again, there⟩ := (second.present g).2 ((first.present g).1 ⟨amount, found⟩)
    rw [there, first.sum g amount found, second.sum g again there]

theorem tallied_getD (tallied : Tallied group weight records sums) (g : γ) :
    (sums.lookup g).getD 0 = total (weightIn group weight g) records := by
  cases found : sums.lookup g with
  | some amount => exact tallied.sum g amount found
  | none =>
    symm
    apply total_zero
    intro key value known
    apply if_neg
    intro same
    obtain ⟨_, here⟩ := (tallied.present g).2 ⟨key, value, known, same⟩
    rw [found] at here
    cases here

omit [LinearOrder γ] in
theorem inhabits_insert {key : κ}
    (kept : ∀ old, records.lookup key = some old → group value = group old) (g : γ) :
    Inhabits group (records.insert key value) g ↔ g = group value ∨ Inhabits group records g := by
  constructor
  · intro ⟨other, found, known, same⟩
    by_cases here : other = key
    · rw [here, lookup_insert_self] at known
      cases known
      exact .inl same.symm
    · rw [lookup_insert_other _ _ here] at known
      exact .inr ⟨other, found, known, same⟩
  · intro either
    cases either with
    | inl same => exact ⟨key, value, lookup_insert_self _ _ _, same.symm⟩
    | inr old =>
      obtain ⟨other, found, known, same⟩ := old
      by_cases here : other = key
      · subst here
        exact ⟨other, value, lookup_insert_self _ _ _, (kept found known).trans same⟩
      · exact ⟨other, found, by rw [lookup_insert_other _ _ here]; exact known, same⟩

theorem tallied_insert (tallied : Tallied group weight records sums)
    (kept : ∀ old, records.lookup key = some old → group value = group old)
    (sum : amount = total (weightIn group weight (group value)) (records.insert key value)) :
    Tallied group weight (records.insert key value) (sums.insert (group value) amount) where
  sum := by
    intro g other found
    by_cases same : g = group value
    · subst same
      rw [lookup_insert_self] at found
      cases found
      exact sum
    · rw [lookup_insert_other _ _ same] at found
      have elsewhere : weightIn group weight g value = 0 := if_neg (fun h => same h.symm)
      rw [tallied.sum g other found]
      cases before : records.lookup key with
      | none =>
        have grown : total (weightIn group weight g) (records.insert key value) = _ :=
          total_new _ before
        omega
      | some old =>
        have moved : total (weightIn group weight g) (records.insert key value) + _ = _ :=
          total_put _ before
        have outside : weightIn group weight g old = 0 :=
          if_neg (fun h => same (h.symm.trans (kept old before).symm))
        omega
  present := by
    intro g
    rw [inhabits_insert kept, ← tallied.present g]
    by_cases same : g = group value
    · simp [same]
    · simp [same]

/-- One round of a loop that adds up the groups of the records it passes. -/
def tallyEntry (group : ν → γ) (weight : ν → Nat) (sums : SortedMap γ Nat) (entry : κ × ν) :
    SortedMap γ Nat :=
  sums.insert (group entry.2) ((sums.lookup (group entry.2)).getD 0 + weight entry.2)

omit [LinearOrder κ] in
theorem tallyEntries_getD (group : ν → γ) (weight : ν → Nat) (entries : List (κ × ν)) (g : γ) :
    ∀ sums, ((entries.foldl (tallyEntry group weight) sums).lookup g).getD 0 =
      (sums.lookup g).getD 0 + entriesTotal (weightIn group weight g) entries := by
  induction entries with
  | nil =>
    intro sums
    rfl
  | cons entry rest ih =>
    intro sums
    rw [foldl_cons, ih, entriesTotal]
    by_cases same : g = group entry.2
    · simp only [tallyEntry, weightIn, same, lookup_insert_self, if_true,
        Option.getD_some]
      omega
    · simp only [tallyEntry, weightIn, lookup_insert_other _ _ same,
        if_neg (Ne.symm same)]
      omega

omit [LinearOrder κ] in
theorem tallyEntries_present (group : ν → γ) (weight : ν → Nat) (entries : List (κ × ν)) (g : γ) :
    ∀ sums, (∃ amount, (entries.foldl (tallyEntry group weight) sums).lookup g = some amount) ↔
      (∃ amount, sums.lookup g = some amount) ∨ ∃ entry ∈ entries, group entry.2 = g := by
  induction entries with
  | nil => simp
  | cons entry rest ih =>
    intro sums
    rw [foldl_cons, ih]
    by_cases same : g = group entry.2
    · simp [tallyEntry, same]
    · have other : group entry.2 ≠ g := Ne.symm same
      simp [tallyEntry, same, other]

theorem tallyEntries_tallied (group : ν → γ) (weight : ν → Nat) (records : SortedMap κ ν) :
    Tallied group weight records
      (records.entries.foldl (tallyEntry group weight) SortedMap.empty) where
  sum := by
    intro g amount found
    have read := tallyEntries_getD group weight records.entries g SortedMap.empty
    rw [found] at read
    rw [total_entries]
    simpa using read
  present := by
    intro g
    rw [tallyEntries_present]
    constructor
    · intro either
      cases either with
      | inl none =>
        obtain ⟨_, found⟩ := none
        cases found
      | inr some =>
        obtain ⟨entry, member, same⟩ := some
        exact ⟨entry.1, entry.2, mem_entries.1 member, same⟩
    · intro ⟨key, value, found, same⟩
      exact .inr ⟨(key, value), mem_entries.2 found, same⟩

end Groups

end Tallies
