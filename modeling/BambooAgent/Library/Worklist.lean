import Mathlib.Logic.Relation
import BambooAgent.Library.SortedMap

/- A stack-driven closure: pop an item, add every successor not seen before to the seen
   set and to the stack. It computes exactly what one or more edges reach, and a finite
   range of successors bounds the number of rounds. -/
namespace Worklists
open SortedMaps List

variable {κ : Type} [LinearOrder κ]

def absorb (found : List κ) (state : SortedSet κ × List κ) : SortedSet κ × List κ :=
  found.foldl (fun state item =>
    if item ∈ state.1 then state else (state.1.insert item, item :: state.2)) state

/-- `none` only when the rounds run out before the stack is empty. -/
def close (next : κ → List κ) : Nat → SortedSet κ → List κ → Option (SortedSet κ)
  | _, seen, [] => some seen
  | 0, _, _ :: _ => none
  | rounds + 1, seen, item :: rest =>
      let state := absorb (next item) (seen, rest)
      close next rounds state.1 state.2

def Edge (next : κ → List κ) (x y : κ) : Prop := y ∈ next x

theorem absorb_cons (item : κ) (found : List κ) (state : SortedSet κ × List κ) :
    absorb (item :: found) state = absorb found
      (if item ∈ state.1 then state else (state.1.insert item, item :: state.2)) := rfl

theorem absorb_seen {found : List κ} :
    c ∈ (absorb found state).1 ↔ c ∈ state.1 ∨ c ∈ found := by
  induction found generalizing state with
  | nil => simp [absorb]
  | cons item found ih =>
    rw [absorb_cons, ih]
    split
    · rename_i member
      simp only [mem_cons]
      constructor
      · rintro (old | new)
        · exact .inl old
        · exact .inr (.inr new)
      · rintro (old | same | new)
        · exact .inl old
        · exact .inl (same ▸ member)
        · exact .inr new
    · simp only [SortedSet.mem_insert, mem_cons]
      tauto

theorem absorb_stack {found : List κ} :
    c ∈ (absorb found state).2 ↔ c ∈ state.2 ∨ (c ∈ found ∧ c ∉ state.1) := by
  induction found generalizing state with
  | nil => simp [absorb]
  | cons item found ih =>
    rw [absorb_cons, ih]
    split
    · rename_i member
      simp only [mem_cons]
      constructor
      · rintro (old | ⟨new, absent⟩)
        · exact .inl old
        · exact .inr ⟨.inr new, absent⟩
      · rintro (old | ⟨same | new, absent⟩)
        · exact .inl old
        · exact absurd (same ▸ member) absent
        · exact .inr ⟨new, absent⟩
    · rename_i absent
      simp only [mem_cons, SortedSet.mem_insert, not_or]
      constructor
      · rintro ((same | old) | ⟨new, _, fresh⟩)
        · subst same
          exact .inr ⟨.inl rfl, absent⟩
        · exact .inl old
        · exact .inr ⟨.inr new, fresh⟩
      · rintro (old | ⟨same | new, fresh⟩)
        · exact .inl (.inr old)
        · exact .inl (.inl same)
        · by_cases same : c = item
          · exact .inl (.inl same)
          · exact .inr ⟨new, same, fresh⟩

def unseen (range : Finset κ) (seen : SortedSet κ) : Finset κ := range.filter (· ∉ seen)

variable {range : Finset κ} {seen : SortedSet κ}

theorem unseen_insert (inside : item ∈ range) (absent : item ∉ seen) :
    (unseen range (seen.insert item)).card + 1 = (unseen range seen).card := by
  have member : item ∈ unseen range seen := by simp [unseen, inside, absent]
  have erased : unseen range (seen.insert item) = (unseen range seen).erase item := by
    ext c
    simp only [unseen, Finset.mem_filter, SortedSet.mem_insert, Finset.mem_erase]
    tauto
  rw [erased]
  exact Finset.card_erase_add_one member

/-- Every item pushed leaves the unseen part of the range, so the sum of the two is kept. -/
theorem absorb_measure (inside : ∀ c ∈ found, c ∈ range) :
    (absorb found state).2.length + (unseen range (absorb found state).1).card =
      state.2.length + (unseen range state.1).card := by
  induction found generalizing state with
  | nil => rfl
  | cons item found ih =>
    rw [absorb_cons, ih (fun c member => inside c (mem_cons_of_mem _ member))]
    split
    · rfl
    · rename_i absent
      have counted := unseen_insert (inside item (by simp)) absent
      simp only [length_cons]
      omega

variable {next : κ → List κ} {rounds : Nat} {stack : List κ}

theorem close_finishes (inside : ∀ x, ∀ y ∈ next x, y ∈ range)
    (enough : stack.length + (unseen range seen).card ≤ rounds) :
    ∃ result, close next rounds seen stack = some result := by
  induction rounds generalizing seen stack with
  | zero =>
    have none : stack = [] := length_eq_zero_iff.1 (by omega)
    subst stack
    exact ⟨seen, rfl⟩
  | succ rounds ih =>
    cases stack with
    | nil => exact ⟨seen, rfl⟩
    | cons item rest =>
      have measure : _ = rest.length + (unseen range seen).card :=
        @absorb_measure κ _ range (next item) (seen, rest) (inside item)
      simp only [length_cons] at enough
      exact ih (by omega)

structure Invariant (next : κ → List κ) (start : κ) (seen : SortedSet κ) (stack : List κ) :
    Prop where
  sound : ∀ c ∈ seen, Relation.TransGen (Edge next) start c
  pending : ∀ c ∈ stack, c = start ∨ c ∈ seen
  closed : ∀ x, (x = start ∨ x ∈ seen) → x ∉ stack → ∀ y ∈ next x, y ∈ seen

theorem invariant_start (next : κ → List κ) (start : κ) :
    Invariant next start SortedSet.empty [start] where
  sound := by
    intro c member
    exact absurd member (SortedSet.not_mem_empty c)
  pending := by simp
  closed := by
    rintro x (same | member) outside
    · simp [same] at outside
    · exact absurd member (SortedSet.not_mem_empty x)

theorem invariant_round (inv : Invariant next start seen (item :: rest)) :
    Invariant next start (absorb (next item) (seen, rest)).1
      (absorb (next item) (seen, rest)).2 where
  sound := by
    intro c member
    rcases absorb_seen.1 member with old | new
    · exact inv.sound c old
    · rcases inv.pending item (by simp) with same | seenItem
      · subst same
        exact Relation.TransGen.single new
      · exact (inv.sound item seenItem).tail new
  pending := by
    intro c member
    rw [absorb_seen]
    rcases absorb_stack.1 member with old | ⟨new, _⟩
    · rcases inv.pending c (mem_cons_of_mem _ old) with same | found
      · exact .inl same
      · exact .inr (.inl found)
    · exact .inr (.inr new)
  closed := by
    intro x known outside y edge
    rw [absorb_seen]
    rw [absorb_stack, not_or] at outside
    by_cases same : x = item
    · subst same
      exact .inr edge
    · left
      apply inv.closed x _ _ y edge
      · rcases known with start | member
        · exact .inl start
        · rcases absorb_seen.1 member with old | new
          · exact .inr old
          · by_contra unknown
            exact outside.2 ⟨new, fun old => unknown (.inr old)⟩
      · simp only [mem_cons, not_or]
        exact ⟨same, outside.1⟩

theorem close_invariant (inv : Invariant next start seen stack)
    (run : close next rounds seen stack = some result) : Invariant next start result [] := by
  induction rounds generalizing seen stack with
  | zero =>
    cases stack with
    | nil =>
      simp only [close, Option.some.injEq] at run
      exact run ▸ inv
    | cons item rest => simp [close] at run
  | succ rounds ih =>
    cases stack with
    | nil =>
      simp only [close, Option.some.injEq] at run
      exact run ▸ inv
    | cons item rest => exact ih (invariant_round inv) run

/-- What the finished closure holds is what one or more edges reach from the start. -/
theorem close_exact (run : close next rounds SortedSet.empty [start] = some result) (c : κ) :
    c ∈ result ↔ Relation.TransGen (Edge next) start c := by
  have inv := close_invariant (invariant_start next start) run
  constructor
  · exact inv.sound c
  · intro path
    induction path with
    | single edge => exact inv.closed start (.inl rfl) (by simp) _ edge
    | tail _ edge ih => exact inv.closed _ (.inr ih) (by simp) _ edge

section Explore
variable {ε : Type}

/-- A visit that marks an item when it takes it from the stack, and may refuse an item.
    `none` only when the rounds run out before the stack is empty. -/
def explore (visit : κ → Except ε (List κ)) : Nat → SortedSet κ → List κ → Option (Except ε Unit)
  | _, _, [] => some (.ok ())
  | 0, _, _ :: _ => none
  | rounds + 1, seen, item :: rest =>
      if item ∈ seen then explore visit rounds seen rest
      else match visit item with
        | .error e => some (.error e)
        | .ok found => explore visit rounds (seen.insert item) (found ++ rest)

theorem unseen_sum_insert (weight : κ → Nat) (inside : item ∈ range)
    (absent : item ∉ seen) :
    ∑ c ∈ unseen range seen, weight c =
      weight item + ∑ c ∈ unseen range (seen.insert item), weight c := by
  have member : item ∈ unseen range seen := by simp [unseen, inside, absent]
  have erased : unseen range (seen.insert item) = (unseen range seen).erase item := by
    ext c
    simp only [unseen, Finset.mem_filter, SortedSet.mem_insert, Finset.mem_erase]
    tauto
  rw [erased]
  exact (Finset.add_sum_erase _ weight member).symm

/-- Every item is expanded once, so the lengths of all expansions bound the rounds. -/
theorem explore_finishes {visit : κ → Except ε (List κ)} (weight : κ → Nat)
    (bounded : ∀ x found, visit x = .ok found → x ∈ range ∧ found.length ≤ weight x)
    (enough : stack.length + ∑ c ∈ unseen range seen, weight c ≤ rounds) :
    ∃ result, explore visit rounds seen stack = some result := by
  induction rounds generalizing seen stack with
  | zero =>
    have none : stack = [] := length_eq_zero_iff.1 (by omega)
    subst stack
    exact ⟨.ok (), rfl⟩
  | succ rounds ih =>
    cases stack with
    | nil => exact ⟨.ok (), rfl⟩
    | cons item rest =>
      simp only [length_cons] at enough
      simp only [explore]
      split
      · exact ih (by omega)
      · rename_i absent
        cases run : visit item with
        | error e => exact ⟨.error e, rfl⟩
        | ok found =>
          obtain ⟨inside, short⟩ := bounded item found run
          have removed := unseen_sum_insert weight inside absent
          apply ih
          rw [length_append]
          omega

/-- What a finished visit reports is success or the refusal of one item. -/
theorem explore_result (holds : Except ε Unit → Prop)
    (done : holds (.ok ())) (refused : ∀ x e, visit x = .error e → holds (.error e))
    (run : explore visit rounds seen stack = some result) :
    holds result := by
  induction rounds generalizing seen stack with
  | zero =>
    cases stack with
    | nil =>
      cases run
      exact done
    | cons item rest => simp [explore] at run
  | succ rounds ih =>
    cases stack with
    | nil =>
      cases run
      exact done
    | cons item rest =>
      simp only [explore] at run
      split at run
      · exact ih run
      · cases visited : visit item with
        | error e =>
          simp only [visited, Option.some.injEq] at run
          exact run ▸ refused item e visited
        | ok found =>
          simp only [visited] at run
          exact ih run

end Explore

end Worklists
