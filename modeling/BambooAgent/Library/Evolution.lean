import BambooAgent.Library.SortedMap

/- How a map of records develops: no record is lost, and every record afterwards is an
   old one edited in an allowed way or one that was just made. -/
namespace Evolutions
open SortedMaps SortedMap

variable {κ ν : Type} [LinearOrder κ]

structure Evolves (edit : κ → ν → ν → Prop) (made : κ → ν → Prop) (m m' : SortedMap κ ν) :
    Prop where
  kept : ∀ key v, m.lookup key = some v → ∃ v', m'.lookup key = some v'
  origin : ∀ key v', m'.lookup key = some v' →
    (∃ v, m.lookup key = some v ∧ edit key v v') ∨ made key v'

variable {edit edit' both : κ → ν → ν → Prop} {made made' all : κ → ν → Prop}
  {m m' m'' : SortedMap κ ν}

section
variable (still : ∀ key v, edit key v v)
include still

theorem evolves_same : Evolves edit made m m where
  kept := fun _ v found => ⟨v, found⟩
  origin := fun key v found => .inl ⟨v, found, still key v⟩

theorem evolves_put (found : m.lookup key = some v) (change : edit key v v') :
    Evolves edit made m (m.insert key v') where
  kept := by
    intro other old before
    by_cases same : other = key
    · exact ⟨v', by simp [same]⟩
    · exact ⟨old, by simp [same, before]⟩
  origin := by
    intro other after present
    by_cases same : other = key
    · subst same
      simp only [lookup_insert, if_true, Option.some.injEq] at present
      exact .inl ⟨v, found, present ▸ change⟩
    · simp only [lookup_insert, same, if_false] at present
      exact .inl ⟨after, present, still other after⟩

theorem evolves_add (new : made key v) : Evolves edit made m (m.insert key v) where
  kept := by
    intro other old before
    by_cases same : other = key
    · exact ⟨v, by simp [same]⟩
    · exact ⟨old, by simp [same, before]⟩
  origin := by
    intro other after present
    by_cases same : other = key
    · subst same
      simp only [lookup_insert, if_true, Option.some.injEq] at present
      exact .inr (present ▸ new)
    · simp only [lookup_insert, same, if_false] at present
      exact .inl ⟨after, present, still other after⟩

end

theorem evolves_mapValues (change : ∀ key v, m.lookup key = some v → edit key v (f v)) :
    Evolves edit made m (m.mapValues f) where
  kept := by
    intro key v found
    exact ⟨f v, by simp [found]⟩
  origin := by
    intro key v' present
    simp only [lookup_mapValues, Option.map_eq_some_iff] at present
    obtain ⟨v, found, same⟩ := present
    exact .inl ⟨v, found, same ▸ change key v found⟩

theorem evolves_trans (first : Evolves edit made m m') (second : Evolves edit' made' m' m'')
    (edits : ∀ key u v w, m.lookup key = some u → edit key u v → edit' key v w → both key u w)
    (later : ∀ key v w, made key v → edit' key v w → all key w)
    (new : ∀ key w, made' key w → all key w) : Evolves both all m m'' where
  kept := by
    intro key u found
    obtain ⟨v, there⟩ := first.kept key u found
    exact second.kept key v there
  origin := by
    intro key w present
    rcases second.origin key w present with ⟨v, middle, change⟩ | fresh
    · rcases first.origin key v middle with ⟨u, found, before⟩ | made
      · exact .inl ⟨u, found, edits key u v w found before change⟩
      · exact .inr (later key v w made change)
    · exact .inr (new key w fresh)

theorem evolves_weaken (first : Evolves edit made m m')
    (edits : ∀ key u v, m.lookup key = some u → edit key u v → both key u v)
    (new : ∀ key v, made key v → all key v) : Evolves both all m m' where
  kept := first.kept
  origin := by
    intro key v present
    rcases first.origin key v present with ⟨u, found, change⟩ | fresh
    · exact .inl ⟨u, found, edits key u v found change⟩
    · exact .inr (new key v fresh)

/-- A record whose key is not made anew is still there, edited. -/
theorem evolves_forward (change : Evolves edit made m m')
    (found : m.lookup key = some v) (old : ∀ v', ¬ made key v') :
    ∃ v', m'.lookup key = some v' ∧ edit key v v' := by
  obtain ⟨v', present⟩ := change.kept key v found
  rcases change.origin key v' present with ⟨u, before, edited⟩ | fresh
  · rw [found] at before
    cases before
    exact ⟨v', present, edited⟩
  · exact absurd fresh (old v')

/-- What holds of every record and survives the edits holds of every record afterwards. -/
theorem evolves_forall (change : Evolves edit made m m') {holds holds' : κ → ν → Prop}
    (before : ∀ key v, m.lookup key = some v → holds key v)
    (edits : ∀ key v v', m.lookup key = some v → holds key v → edit key v v' → holds' key v')
    (new : ∀ key v, made key v → holds' key v) :
    ∀ key v, m'.lookup key = some v → holds' key v := by
  intro key v' present
  rcases change.origin key v' present with ⟨v, found, edited⟩ | fresh
  · exact edits key v v' found (before key v found) edited
  · exact new key v' fresh

/- Versioned records. -/

/-- A record that is still the same, as far as `same` tells, or that moved to a later
    version and carries the stamp of the publication that moved it. -/
def Advances (revision stamp : ν → Nat) (same : ν → ν → Prop) (now : Nat) (v v' : ν) : Prop :=
  same v v' ∨ (revision v < revision v' ∧ stamp v' = now)

section Versions
variable {revision stamp : ν → Nat} {same : ν → ν → Prop} {now : Nat} {u v w : ν}

theorem advances_trans (keeps : ∀ v v', same v v' → revision v' = revision v ∧ stamp v' = stamp v)
    (follow : ∀ u v w, same u v → same v w → same u w)
    (first : Advances revision stamp same now u v) (second : Advances revision stamp same now v w) :
    Advances revision stamp same now u w := by
  rcases second with still | ⟨later, current⟩
  · obtain ⟨kept, stamped⟩ := keeps v w still
    rcases first with before | ⟨less, current⟩
    · exact .inl (follow u v w before still)
    · exact .inr ⟨by omega, stamped.trans current⟩
  · rcases first with before | ⟨less, _⟩
    · have kept := (keeps u v before).1
      exact .inr ⟨by omega, current⟩
    · exact .inr ⟨by omega, current⟩

end Versions

end Evolutions
