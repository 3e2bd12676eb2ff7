import Mathlib.Data.List.Basic
import Mathlib.Logic.Relation

/- A traversal with a stack whose entries are labelled: an entry is inspected when it is taken, and
   expanded when its item is new. Which items are reached, and what their labels show. -/
namespace Traversals
open List Bool

variable {κ δ ε : Type}

def Seen (visited : List (κ × δ)) (key : κ) : Prop := ∃ label, (key, label) ∈ visited

/-- A search that is not refused. -/
inductive Accepts (range : List κ) (inspect : κ → δ → Except ε Unit)
    (expand : κ → δ → Except ε (List (κ × δ))) (final : List (κ × δ)) :
    List (κ × δ) → List (κ × δ) → Prop where
  | done : Accepts range inspect expand final final []
  | again {visited rest key label} (inspected : inspect key label = .ok ())
      (old : Seen visited key) (later : Accepts range inspect expand final visited rest) :
      Accepts range inspect expand final visited ((key, label) :: rest)
  | visit {visited rest key label found} (inspected : inspect key label = .ok ())
      (new : ¬ Seen visited key) (inside : key ∈ range) (expanded : expand key label = .ok found)
      (later : Accepts range inspect expand final ((key, label) :: visited)
        (found.reverse ++ rest)) :
      Accepts range inspect expand final visited ((key, label) :: rest)

variable {label : δ}

section Searching
variable [DecidableEq κ]

def remaining (range : List κ) (visited : List (κ × δ)) : Nat :=
  (range.filter (fun key => !(visited.any (fun entry => entry.1 = key)))).length

theorem remaining_cons {range : List κ} (inside : key ∈ range)
    (new : visited.any (fun entry => entry.1 = key) = false) :
    remaining range ((key, label) :: visited) < remaining range visited := by
  unfold remaining
  have fewer : ∀ xs : List κ,
      (xs.filter (fun k => !(((key, label) :: visited).any (fun entry => entry.1 = k)))).length ≤
        (xs.filter (fun k => !(visited.any (fun entry => entry.1 = k)))).length := by
    intro xs
    refine (monotone_filter_right xs ?_).length_le
    intro k kept
    rw [any_cons, Bool.not_or, Bool.and_eq_true] at kept
    exact kept.2
  obtain ⟨before, after, rfl⟩ := append_of_mem inside
  rw [filter_append, filter_append, length_append, length_append,
    filter_cons_of_neg (by simp), filter_cons_of_pos (by rw [new]; rfl),
    length_cons]
  have first := fewer before
  have second := fewer after
  omega

/-- The entries as they are first visited, the last one first; or the first refusal. The range
    has every item that can be expanded. -/
def search (range : List κ) (missing : κ → ε) (inspect : κ → δ → Except ε Unit)
    (expand : κ → δ → Except ε (List (κ × δ))) (visited : List (κ × δ)) :
    List (κ × δ) → Except ε (List (κ × δ))
  | [] => .ok visited
  | (key, label) :: rest =>
    match inspect key label with
    | .error error => .error error
    | .ok () =>
      if visited.any (fun entry => entry.1 = key) then
        search range missing inspect expand visited rest
      else if key ∈ range then
        match expand key label with
        | .error error => .error error
        | .ok found =>
          search range missing inspect expand ((key, label) :: visited) (found.reverse ++ rest)
      else .error (missing key)
termination_by stack => (remaining range visited, stack.length)
decreasing_by
  · exact Prod.Lex.right _ (Nat.lt_succ_self _)
  · rename_i new inside
    exact Prod.Lex.left _ _ (remaining_cons inside (eq_false_iff.2 new))

theorem any_iff_seen {visited : List (κ × δ)} :
    visited.any (fun entry => entry.1 = key) = true ↔ Seen visited key := by
  rw [any_eq_true]
  constructor
  · rintro ⟨entry, member, same⟩
    have same : entry.1 = key := of_decide_eq_true same
    exact ⟨entry.2, same ▸ member⟩
  · rintro ⟨label, member⟩
    exact ⟨_, member, decide_eq_true rfl⟩

variable {range : List κ} {missing : κ → ε} {inspect : κ → δ → Except ε Unit}
  {expand : κ → δ → Except ε (List (κ × δ))} {visited stack final : List (κ × δ)}

theorem accepts_of_search : search range missing inspect expand visited stack = .ok final →
    Accepts range inspect expand final visited stack := by
  induction visited, stack using search.induct range inspect expand with
  | case1 visited =>
    intro passed
    rw [search] at passed
    cases passed
    exact .done
  | case2 visited key label rest error refused =>
    intro passed
    rw [search, refused] at passed
    cases passed
  | case3 visited key label rest inspected old ih =>
    intro passed
    rw [search, inspected] at passed
    rw [if_pos old] at passed
    exact .again inspected (any_iff_seen.1 old) (ih passed)
  | case4 visited key label rest inspected new inside error refused =>
    intro passed
    rw [search, inspected] at passed
    rw [if_neg new, if_pos inside, refused] at passed
    cases passed
  | case5 visited key label rest inspected new inside found expanded ih =>
    intro passed
    rw [search, inspected] at passed
    rw [if_neg new, if_pos inside, expanded] at passed
    exact .visit inspected (fun seen => new (any_iff_seen.2 seen)) inside expanded (ih passed)
  | case6 visited key label rest inspected new outside =>
    intro passed
    rw [search, inspected] at passed
    rw [if_neg new, if_neg outside] at passed
    cases passed

theorem search_of_accepts (accepts : Accepts range inspect expand final visited stack) :
    search range missing inspect expand visited stack = .ok final := by
  induction accepts with
  | done => rw [search]
  | again inspected old later ih =>
    rw [search, inspected]
    rw [if_pos (any_iff_seen.2 old)]
    exact ih
  | visit inspected new inside expanded later ih =>
    rw [search, inspected]
    rw [if_neg (fun seen => new (any_iff_seen.1 seen)), if_pos inside, expanded]
    exact ih

/-- One visit of a given traversal, its conditions as they are computed. -/
theorem accepts_visit (expanded : expand key label = .ok found)
    (passes : inspect key label = .ok () ∧ visited.any (fun entry => entry.1 = key) = false ∧
      key ∈ range)
    (later : Accepts range inspect expand final ((key, label) :: visited) (found.reverse ++ rest)) :
    Accepts range inspect expand final visited ((key, label) :: rest) :=
  .visit passes.1 (fun seen => eq_false_iff.1 passes.2.1 (any_iff_seen.2 seen)) passes.2.2
    expanded later

end Searching

section Accepting
variable {range : List κ} {inspect : κ → δ → Except ε Unit}
  {expand : κ → δ → Except ε (List (κ × δ))} {visited stack final : List (κ × δ)}

theorem accepts_grows (accepts : Accepts range inspect expand final visited stack) :
    ∀ entry ∈ visited, entry ∈ final := by
  induction accepts with
  | done => exact fun _ member => member
  | again inspected old later ih => exact ih
  | visit inspected new inside expanded later ih =>
    exact fun entry member => ih entry (.tail _ member)

theorem accepts_block {kind : δ → Prop}
    (inherit : ∀ key label found, expand key label = .ok found → kind label →
      ∀ entry ∈ found, kind entry.2)
    (accepts : Accepts range inspect expand final visited stack) :
    ∀ block rest, stack = block ++ rest → (∀ entry ∈ block, kind entry.2) →
      ∃ after, Accepts range inspect expand final after rest ∧
        (∀ entry ∈ visited, entry ∈ after) ∧
        (∀ entry ∈ block, Seen after entry.1 ∧ inspect entry.1 entry.2 = .ok ()) ∧
        ∀ key label, (key, label) ∈ after → (key, label) ∉ visited → key ∈ range ∧
          ∃ found, expand key label = .ok found ∧ ∀ entry ∈ found,
            Seen after entry.1 ∧ inspect entry.1 entry.2 = .ok () ∧ kind entry.2 := by
  induction accepts with
  | done =>
    intro block rest same kinds
    obtain ⟨rfl, rfl⟩ := nil_eq_append_iff.1 same
    exact ⟨final, .done, fun _ member => member, fun _ member => (not_mem_nil member).elim,
      fun _ _ member out => absurd member out⟩
  | @again visited tail key label inspected old later ih =>
    intro block rest same kinds
    cases block with
    | nil =>
      subst same
      exact ⟨visited, .again inspected old later, fun _ member => member,
        fun _ member => (not_mem_nil member).elim, fun _ _ member out => absurd member out⟩
    | cons first block =>
      obtain ⟨rfl, rfl⟩ := List.cons.inj same
      obtain ⟨after, accepts, grows, worked, led⟩ :=
        ih block rest rfl (fun entry member => kinds entry (.tail _ member))
      refine ⟨after, accepts, grows, ?_, led⟩
      intro entry member
      rcases mem_cons.1 member with rfl | member
      · obtain ⟨held, there⟩ := old
        exact ⟨⟨held, grows _ there⟩, inspected⟩
      · exact worked entry member
  | @visit visited tail key label found inspected new inside expanded later ih =>
    intro block rest same kinds
    cases block with
    | nil =>
      subst same
      exact ⟨visited, .visit inspected new inside expanded later, fun _ member => member,
        fun _ member => (not_mem_nil member).elim, fun _ _ member out => absurd member out⟩
    | cons first block =>
      obtain ⟨rfl, rfl⟩ := List.cons.inj same
      have children := inherit key label found expanded (kinds _ mem_cons_self)
      obtain ⟨after, accepts, grows, worked, led⟩ :=
        ih (found.reverse ++ block) rest (append_assoc _ _ _).symm (by
          intro entry member
          rcases mem_append.1 member with child | member
          · exact children entry (mem_reverse.1 child)
          · exact kinds entry (.tail _ member))
      refine ⟨after, accepts, fun entry member => grows entry (.tail _ member), ?_, ?_⟩
      · intro entry member
        rcases mem_cons.1 member with rfl | member
        · exact ⟨⟨label, grows _ mem_cons_self⟩, inspected⟩
        · exact worked entry (mem_append_right _ member)
      · intro other held member out
        by_cases here : (other, held) = (key, label)
        · cases here
          refine ⟨inside, found, expanded, fun entry child => ?_⟩
          obtain ⟨seen, passed⟩ := worked entry
            (mem_append_left _ (mem_reverse.2 child))
          exact ⟨seen, passed, children entry child⟩
        · refine led other held member (fun old => ?_)
          rcases mem_cons.1 old with same | old
          · exact here same
          · exact out old

/-- Everything visited was expanded, and everything it leads to was inspected and visited. -/
theorem accepts_closed (accepts : Accepts range inspect expand final [] stack) :
    (∀ entry ∈ stack, Seen final entry.1 ∧ inspect entry.1 entry.2 = .ok ()) ∧
      ∀ key label, (key, label) ∈ final → key ∈ range ∧
        ∃ found, expand key label = .ok found ∧ ∀ entry ∈ found,
          Seen final entry.1 ∧ inspect entry.1 entry.2 = .ok () := by
  have inherit : ∀ key label found, expand key label = .ok found → True →
      ∀ entry ∈ found, (fun _ : δ => True) entry.2 := fun _ _ _ _ _ _ _ => trivial
  obtain ⟨after, overrun, _, worked, led⟩ :=
    accepts_block inherit accepts stack [] (append_nil _).symm (fun _ _ => trivial)
  cases overrun
  refine ⟨worked, fun key label member => ?_⟩
  obtain ⟨inside, found, expanded, each⟩ := led key label member not_mem_nil
  exact ⟨inside, found, expanded, fun entry child => ⟨(each entry child).1, (each entry child).2.1⟩⟩

/-- Without inspection the same entries are visited. -/
theorem accepts_uninspected (accepts : Accepts range inspect expand final visited stack) :
    Accepts range (fun _ _ => .ok ()) expand final visited stack := by
  induction accepts with
  | done => exact .done
  | again inspected old later ih => exact .again rfl old ih
  | visit inspected new inside expanded later ih => exact .visit rfl new inside expanded ih

theorem accepts_inspected (accepts : Accepts range (fun _ _ => .ok ()) expand final visited stack)
    (passes : ∀ entry ∈ stack, inspect entry.1 entry.2 = .ok ())
    (children : ∀ key label found, (key, label) ∈ final → expand key label = .ok found →
      ∀ entry ∈ found, inspect entry.1 entry.2 = .ok ()) :
    Accepts range inspect expand final visited stack := by
  induction accepts with
  | done => exact .done
  | again inspected old later ih =>
    exact .again (passes _ mem_cons_self) old
      (ih (fun entry member => passes entry (.tail _ member)))
  | visit inspected new inside expanded later ih =>
    refine .visit (passes _ mem_cons_self) new inside expanded (ih ?_)
    intro entry member
    rcases mem_append.1 member with child | member
    · exact children _ _ _ (accepts_grows later _ mem_cons_self) expanded entry
        (mem_reverse.1 child)
    · exact passes entry (.tail _ member)

end Accepting

variable {next : κ → δ → δ}

section Targets
variable {range : List κ} {targets : κ → Except ε (List κ)}

def Edge (targets : κ → Except ε (List κ)) (a b : κ) : Prop :=
  ∃ found, targets a = .ok found ∧ b ∈ found

/-- The targets of an item, each with the label that its own hands on. -/
def spread (targets : κ → Except ε (List κ)) (next : κ → δ → δ) (key : κ) (label : δ) :
    Except ε (List (κ × δ)) :=
  (targets key).map (fun found => found.map (fun target => (target, next key label)))

theorem spread_eq_ok :
    spread targets next key label = .ok found ↔
      ∃ items, targets key = .ok items ∧
        found = items.map (fun target => (target, next key label)) := by
  unfold spread
  cases targets key with
  | error error =>
    exact ⟨fun passed => (by cases passed), fun ⟨_, passed, _⟩ => (by cases passed)⟩
  | ok items =>
    constructor
    · exact fun passed => ⟨items, rfl, (Except.ok.inj passed).symm⟩
    · rintro ⟨others, same, rfl⟩
      cases same
      rfl

theorem seen_of_edge (accepts : Accepts range inspect (spread targets next) final [] stack)
    (seen : Seen final a) (edge : Edge targets a b) : Seen final b := by
  obtain ⟨label, member⟩ := seen
  obtain ⟨_, found, expanded, each⟩ := (accepts_closed accepts).2 a label member
  obtain ⟨items, known, rfl⟩ := spread_eq_ok.1 expanded
  obtain ⟨items', known', there⟩ := edge
  rw [known] at known'
  cases known'
  exact (each (b, next a label) (mem_map.2 ⟨b, there, rfl⟩)).1

/-- What the start leads to is visited, and its targets are known. -/
theorem accepts_complete
    (accepts : Accepts range inspect (spread targets next) final [] [(root, label)])
    (path : Relation.ReflTransGen (Edge targets) root key) :
    Seen final key ∧ key ∈ range ∧ ∃ found, targets key = .ok found := by
  have seen : Seen final key := by
    induction path with
    | refl => exact ((accepts_closed accepts).1 _ mem_cons_self).1
    | tail path edge ih => exact seen_of_edge accepts ih edge
  obtain ⟨held, member⟩ := seen
  obtain ⟨inside, found, expanded, _⟩ := (accepts_closed accepts).2 key held member
  obtain ⟨items, known, _⟩ := spread_eq_ok.1 expanded
  exact ⟨⟨held, member⟩, inside, items, known⟩

/-- Visited at the end, and not before. -/
def Fresh (final visited : List (κ × δ)) (key : κ) : Prop := Seen final key ∧ ¬ Seen visited key

def FreshEdge (targets : κ → Except ε (List κ)) (final visited : List (κ × δ)) (a b : κ) : Prop :=
  Edge targets a b ∧ Fresh final visited a ∧ Fresh final visited b

/-- When every entry carries the items above it and none that is among them is taken, there is no
    cycle through what is visited. -/
theorem accepts_acyclic {final visited stack}
    (fences : ∀ key path, inspect key path = .ok () → key ∉ path)
    (accepts : Accepts range inspect (spread targets (fun key path => path ++ [key])) final
      visited stack) : ∀ key, ¬ Relation.TransGen (FreshEdge targets final visited) key key := by
  induction accepts with
  | done =>
    intro key cycle
    obtain ⟨_, ⟨_, fresh, _⟩, _⟩ := Relation.TransGen.head'_iff.1 cycle
    exact fresh.2 fresh.1
  | again inspected old later ih => exact ih
  | @visit visited tail here path found inspected new inside expanded later ih =>
    obtain ⟨items, known, rfl⟩ := spread_eq_ok.1 expanded
    have inherit : ∀ key label found,
        spread targets (fun key path => path ++ [key]) key label = .ok found → here ∈ label →
          ∀ entry ∈ found, here ∈ entry.2 := by
      intro key label found expanded above entry member
      obtain ⟨_, _, rfl⟩ := spread_eq_ok.1 expanded
      obtain ⟨_, _, rfl⟩ := mem_map.1 member
      exact mem_append_left _ above
    obtain ⟨after, overrun, grows, worked, led⟩ := accepts_block inherit later _ tail rfl (by
      intro entry member
      obtain ⟨_, _, rfl⟩ := mem_map.1 (mem_reverse.1 member)
      exact mem_append_right _ (mem_singleton_self _))
    -- Nothing that the item leads to is the item.
    have away : ∀ key, Relation.TransGen (FreshEdge targets final visited) here key →
        Seen after key ∧ key ≠ here := by
      intro key walk
      induction walk with
      | single edge =>
        rename_i key
        obtain ⟨⟨items', known', there⟩, _, _⟩ := edge
        rw [known] at known'
        cases known'
        obtain ⟨seen, passed⟩ := worked (key, path ++ [here])
          (mem_reverse.2 (mem_map.2 ⟨key, there, rfl⟩))
        refine ⟨seen, fun same => fences _ _ passed ?_⟩
        exact mem_append_right _ (mem_singleton.2 same)
      | tail walk edge later =>
        rename_i middle key
        obtain ⟨⟨label, member⟩, other⟩ := later
        obtain ⟨⟨items', known', there⟩, fresh, _⟩ := edge
        have out : (middle, label) ∉ (here, path) :: visited := by
          intro old
          rcases mem_cons.1 old with same | old
          · exact other (Prod.mk.inj same).1
          · exact fresh.2 ⟨label, old⟩
        obtain ⟨_, found, expanded, each⟩ := led middle label member out
        obtain ⟨items, known, rfl⟩ := spread_eq_ok.1 expanded
        rw [known] at known'
        cases known'
        obtain ⟨seen, passed, above⟩ := each (key, label ++ [middle])
          (mem_map.2 ⟨key, there, rfl⟩)
        exact ⟨seen, fun same => fences _ _ passed (same ▸ above)⟩
    intro key cycle
    -- So a cycle does not pass it, and is one of what is visited later.
    have avoids : ∀ other, Relation.ReflTransGen (FreshEdge targets final visited) key other →
        Relation.ReflTransGen (FreshEdge targets final visited) other key → other ≠ here := by
      rintro other first second rfl
      exact (away other (Relation.TransGen.trans_right second
        (Relation.TransGen.trans_left cycle first))).2 rfl
    have later : ∀ other, Relation.TransGen (FreshEdge targets final visited) key other →
        Relation.ReflTransGen (FreshEdge targets final visited) other key →
          Relation.TransGen (FreshEdge targets final ((here, path) :: visited)) key other := by
      have fresh : ∀ {other}, Fresh final visited other → other ≠ here →
          Fresh final ((here, path) :: visited) other := by
        rintro other ⟨seen, unseen⟩ differ
        refine ⟨seen, fun ⟨label, member⟩ => ?_⟩
        rcases mem_cons.1 member with same | old
        · exact differ (Prod.mk.inj same).1
        · exact unseen ⟨label, old⟩
      intro other walk
      induction walk with
      | single edge =>
        intro back
        exact .single ⟨edge.1, fresh edge.2.1 (avoids _ .refl (.head edge back)),
          fresh edge.2.2 (avoids _ (.single edge) back)⟩
      | tail walk edge ih =>
        intro back
        refine .tail (ih (.head edge back)) ⟨edge.1, ?_, ?_⟩
        · exact fresh edge.2.1 (avoids _ walk.to_reflTransGen (.head edge back))
        · exact fresh edge.2.2 (avoids _ (walk.tail edge).to_reflTransGen back)
    exact ih key (later key cycle .refl)

end Targets

end Traversals
