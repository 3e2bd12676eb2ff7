import BambooAgent.ToolCalls.Provenance
import Mathlib.Data.List.Forall2
import Mathlib.Data.List.Perm.Basic

/- Routing by index: what the fragments give does not depend on how those of different indices
   are interleaved. -/
namespace ToolCalls
open List

/-- What a part becomes of the fragments of its index. -/
def settle (calls : List (Nat × ToolCall)) (part : PartialToolCall) : PartialToolCall :=
  match part.index with
  | none => part
  | some index => (fragmentsOf index calls).foldl (fun part call => mergeIndexed call part) part

def gather (index : Nat) : List ToolCall → PartialToolCall
  | [] => newPart (some index) { id := "", toolType := "", function := ⟨"", ""⟩ }
  | first :: rest =>
    rest.foldl (fun part call => mergeIndexed call part) (newPart (some index) first)

/-- The indices that are not known, in the order of their first appearance. -/
def appearing : List Nat → List (Nat × ToolCall) → List Nat
  | _, [] => []
  | known, (index, _) :: rest =>
    if known.contains index then appearing known rest
    else index :: appearing (index :: known) rest

theorem fragmentsOf_cons_same :
    fragmentsOf index ((index, call) :: rest) = call :: fragmentsOf index rest := by
  simp [fragmentsOf]

theorem fragmentsOf_cons_other (differ : other ≠ index) :
    fragmentsOf index ((other, call) :: rest) = fragmentsOf index rest := by
  simp [fragmentsOf, differ]

theorem settle_other (other : part.index ≠ some index) :
    settle ((index, call) :: rest) part = settle rest part := by
  unfold settle
  cases held : part.index with
  | none => rfl
  | some here =>
    have differ : index ≠ here := fun same => other (held.trans (same ▸ rfl))
    simp only [fragmentsOf_cons_other differ]

theorem settle_same (same : part.index = some index) :
    settle ((index, call) :: rest) part = settle rest (mergeIndexed call part) := by
  unfold settle mergeIndexed
  simp only [same, fragmentsOf_cons_same, foldl_cons]

theorem settle_map_other {parts : List PartialToolCall}
    (other : ∀ part ∈ parts, part.index ≠ some index) :
    parts.map (settle ((index, call) :: rest)) = parts.map (settle rest) :=
  map_congr_left (fun part member => settle_other (other part member))

theorem mem_appearing : ∀ {calls : List (Nat × ToolCall)} {known : List Nat},
    index ∈ appearing known calls ↔ index ∉ known ∧ ∃ call, (index, call) ∈ calls := by
  intro calls
  induction calls with
  | nil => simp [appearing]
  | cons first rest ih =>
    intro known
    obtain ⟨here, call⟩ := first
    unfold appearing
    split
    · rename_i old
      have old : here ∈ known := by simpa using old
      rw [ih]
      constructor
      · exact fun ⟨new, call, later⟩ => ⟨new, call, .tail _ later⟩
      · rintro ⟨new, call, member⟩
        rcases mem_cons.1 member with same | later
        · cases same
          exact absurd old new
        · exact ⟨new, call, later⟩
    · rename_i new
      have new : here ∉ known := by simpa using new
      rw [mem_cons, ih]
      constructor
      · rintro (rfl | ⟨fresh, call, later⟩)
        · exact ⟨new, call, mem_cons_self⟩
        · exact ⟨fun old => fresh (.tail _ old), call, .tail _ later⟩
      · rintro ⟨fresh, other, member⟩
        by_cases same : index = here
        · exact .inl same
        · refine .inr ⟨fun old => ?_, other, ?_⟩
          · rcases mem_cons.1 old with eq | old
            · exact same eq
            · exact fresh old
          · rcases mem_cons.1 member with eq | later
            · exact absurd (Prod.mk.inj eq).1 same
            · exact later

theorem nodup_appearing : ∀ {calls : List (Nat × ToolCall)} {known : List Nat},
    (appearing known calls).Nodup := by
  intro calls
  induction calls with
  | nil => exact fun {_} => nodup_nil
  | cons first rest ih =>
    intro known
    unfold appearing
    split
    · exact ih
    · refine nodup_cons.2 ⟨fun member => ?_, ih⟩
      exact (mem_appearing.1 member).1 mem_cons_self

theorem appearing_congr : ∀ {calls : List (Nat × ToolCall)} {known known' : List Nat},
    (∀ index, index ∈ known ↔ index ∈ known') → appearing known calls = appearing known' calls := by
  intro calls
  induction calls with
  | nil => exact fun _ => rfl
  | cons first rest ih =>
    intro known known' same
    unfold appearing
    by_cases old : first.1 ∈ known
    · rw [if_pos (by simpa using old), if_pos (by simpa using (same _).1 old), ih same]
    · have later : appearing (first.1 :: known) rest = appearing (first.1 :: known') rest :=
        ih (fun index => by rw [mem_cons, mem_cons, same])
      rw [if_neg (by simpa using old), if_neg (by simpa using fun there => old ((same _).2 there)),
        later]

theorem settle_new : settle rest (newPart (some index) call) =
    gather index (fragmentsOf index ((index, call) :: rest)) := by
  rw [fragmentsOf_cons_same]
  rfl

theorem mem_indices {parts : List PartialToolCall} :
    index ∈ parts.filterMap (·.index) ↔ ∃ part ∈ parts, part.index = some index :=
  mem_filterMap

theorem extendIndexed_eq : ∀ {calls : List (Nat × ToolCall)} {parts : List PartialToolCall},
    (parts.filterMap (·.index)).Nodup →
      extendIndexed parts calls = parts.map (settle calls) ++
        (appearing (parts.filterMap (·.index)) calls).map (fun index =>
          gather index (fragmentsOf index calls)) := by
  intro calls
  induction calls with
  | nil =>
    intro parts _
    have still : parts.map (settle []) = parts := by
      refine (map_congr_left (fun part _ => ?_)).trans (map_id parts)
      unfold settle
      cases part.index <;> rfl
    rw [still]
    exact (append_nil parts).symm
  | cons first rest ih =>
    intro parts distinct
    obtain ⟨index, call⟩ := first
    unfold extendIndexed
    rw [foldl_cons]
    unfold updatePartialToolCallIndexed
    cases found : modifyFirst (fun part => part.index = some index) (mergeIndexed call) parts with
    | some changed =>
      obtain ⟨before, part, after, rfl, rfl, matched⟩ := modifyFirst_some found
      have matched : part.index = some index := of_decide_eq_true matched
      have apart := distinct_apart distinct matched
      have same : (before ++ mergeIndexed call part :: after).filterMap (·.index) =
          (before ++ part :: after).filterMap (·.index) := by
        rw [filterMap_append, filterMap_append, filterMap_cons_some matched,
          filterMap_cons_some (a := mergeIndexed call part) matched]
      have known : index ∈ (before ++ part :: after).filterMap (·.index) :=
        mem_indices.2 ⟨part, mem_append_right _ mem_cons_self, matched⟩
      have settled : (before ++ mergeIndexed call part :: after).map (settle rest) =
          (before ++ part :: after).map (settle ((index, call) :: rest)) := by
        rw [map_append, map_append, map_cons, map_cons, settle_same matched,
          settle_map_other (fun other member => apart other (mem_append_left _ member)),
          settle_map_other (fun other member => apart other (mem_append_right _ member))]
      show extendIndexed (before ++ mergeIndexed call part :: after) rest = _
      rw [ih (same ▸ distinct), same]
      congr 1
      rw [appearing, if_pos (by simpa using known)]
      refine map_congr_left (fun other member => ?_)
      have differ : index ≠ other := fun eq => (mem_appearing.1 member).1 (eq ▸ known)
      rw [fragmentsOf_cons_other differ]
    | none =>
      have absent : ∀ part ∈ parts, part.index ≠ some index := fun part member =>
        of_decide_eq_false (modifyFirst_none found part member)
      have unknown : index ∉ parts.filterMap (·.index) := fun member => by
        obtain ⟨part, there, same⟩ := mem_indices.1 member
        exact absent part there same
      have indices : (parts ++ [newPart (some index) call]).filterMap (·.index) =
          parts.filterMap (·.index) ++ [index] := by
        rw [filterMap_append]
        rfl
      have fresh : ((parts ++ [newPart (some index) call]).filterMap (·.index)).Nodup := by
        rw [indices]
        refine nodup_append.2 ⟨distinct, nodup_singleton _, ?_⟩
        intro old member new here
        rw [mem_singleton.1 here]
        exact fun same => unknown (same ▸ member)
      show extendIndexed (parts ++ [newPart (some index) call]) rest = _
      rw [ih fresh, map_append, map_singleton, settle_new, settle_map_other absent,
        indices, append_assoc, singleton_append]
      congr 1
      rw [appearing, if_neg (by simpa using unknown)]
      congr 1
      have order : appearing (parts.filterMap (·.index) ++ [index]) rest =
          appearing (index :: parts.filterMap (·.index)) rest :=
        appearing_congr (fun other => by
          rw [mem_append, mem_singleton, mem_cons, or_comm])
      rw [order]
      refine map_congr_left (fun other member => ?_)
      have differ : index ≠ other := fun eq => (mem_appearing.1 member).1 (eq ▸ mem_cons_self)
      rw [fragmentsOf_cons_other differ]

def Finishes (uuid : Nat → String) (part : PartialToolCall) (call : ToolCall) : Prop :=
  call.toolType = (if part.toolType = "" then "function" else part.toolType) ∧
    call.function = { name := part.name, arguments := part.arguments } ∧
    (part.id ≠ "" ∧ call.id = part.id ∨ part.id = "" ∧ ∃ n, call.id = "call_" ++ uuid n)

/-- One call, the id aside when it is generated. -/
def SameCall (uuid : Nat → String) (call other : ToolCall) : Prop :=
  call.toolType = other.toolType ∧ call.function = other.function ∧
    (call.id = other.id ∨
      (∃ n, call.id = "call_" ++ uuid n) ∧ ∃ n, other.id = "call_" ++ uuid n)

def named (part : PartialToolCall) : Bool := !(Compression.trim part.name).isEmpty

theorem finalize_finishes (uuid : Nat → String) : ∀ {parts : List PartialToolCall} {next : Nat},
    List.Forall₂ (Finishes uuid) (parts.filter named) (finalizeToolCalls uuid next parts) := by
  intro parts
  induction parts with
  | nil => exact fun {_} => .nil
  | cons part rest ih =>
    intro next
    unfold finalizeToolCalls
    by_cases blank : (Compression.trim part.name).isEmpty = true
    · rw [if_pos blank, filter_cons_of_neg (by simp [named, blank])]
      exact ih
    · rw [if_neg blank, filter_cons_of_pos (by simp [named, blank])]
      dsimp only
      split
      · rename_i empty
        exact .cons ⟨rfl, rfl, .inr ⟨empty, next, rfl⟩⟩ ih
      · rename_i given
        exact .cons ⟨rfl, rfl, .inl ⟨given, rfl⟩⟩ ih

theorem sameCall_of_finishes (first : Finishes uuid part call) (second : Finishes uuid part other) :
    SameCall uuid call other := by
  obtain ⟨type, function, id⟩ := first
  obtain ⟨type', function', id'⟩ := second
  refine ⟨type.trans type'.symm, function.trans function'.symm, ?_⟩
  rcases id with ⟨given, id⟩ | ⟨empty, id⟩
  · rcases id' with ⟨_, id'⟩ | ⟨empty, _⟩
    · exact .inl (id.trans id'.symm)
    · exact absurd empty given
  · rcases id' with ⟨given, _⟩ | ⟨_, id'⟩
    · exact absurd empty given
    · exact .inr ⟨id, id'⟩

theorem sameCalls_of_finish :
    ∀ {parts : List PartialToolCall} {calls others : List ToolCall}, List.Forall₂ (Finishes uuid)
      parts calls → List.Forall₂ (Finishes uuid) parts others → List.Forall₂ (SameCall uuid) calls
      others := by
  intro parts
  induction parts with
  | nil =>
    intro calls others first second
    cases first
    cases second
    exact .nil
  | cons part rest ih =>
    intro calls others first second
    cases first with
    | cons call calls =>
      cases second with
      | cons other others => exact .cons (sameCall_of_finishes call other) (ih calls others)

theorem finalize_perm (uuid : Nat → String) (perm : parts.Perm others) :
    ∃ calls, List.Forall₂ (SameCall uuid) (finalizeToolCalls uuid 0 parts) calls ∧
      calls.Perm (finalizeToolCalls uuid 0 others) := by
  have finish : List.Forall₂ (Finishes uuid) (others.filter named)
      (finalizeToolCalls uuid 0 others) := finalize_finishes uuid
  obtain ⟨calls, finish, order⟩ := perm_comp_forall₂ (perm.filter named) finish
  exact ⟨calls, sameCalls_of_finish (finalize_finishes uuid) finish, order⟩

theorem extendIndexed_perm (distinct : (parts.filterMap (·.index)).Nodup)
    (same : ∀ index, fragmentsOf index first = fragmentsOf index second) :
    (extendIndexed parts first).Perm (extendIndexed parts second) := by
  have settled : settle first = settle second := by
    funext part
    unfold settle
    cases part.index with
    | none => rfl
    | some index => simp only [same index]
  have appears : ∀ {calls : List (Nat × ToolCall)} {index : Nat},
      (∃ call, (index, call) ∈ calls) ↔ fragmentsOf index calls ≠ [] := by
    intro calls index
    constructor
    · rintro ⟨call, member⟩ none_
      have there : call ∈ fragmentsOf index calls :=
        mem_map.2 ⟨(index, call), mem_filter.2 ⟨member, decide_eq_true rfl⟩, rfl⟩
      rw [none_] at there
      cases there
    · intro some_
      obtain ⟨call, member⟩ := exists_mem_of_ne_nil _ some_
      obtain ⟨pair, there, rfl⟩ := mem_map.1 member
      obtain ⟨there, eq⟩ := mem_filter.1 there
      exact ⟨pair.2, of_decide_eq_true eq ▸ there⟩
  have order : (appearing (parts.filterMap (·.index)) first).Perm
      (appearing (parts.filterMap (·.index)) second) := by
    refine (perm_ext_iff_of_nodup nodup_appearing nodup_appearing).2 (fun index => ?_)
    rw [mem_appearing, mem_appearing, appears, appears, same]
  rw [extendIndexed_eq distinct, extendIndexed_eq distinct, settled]
  refine List.Perm.append_left _ ?_
  have gathers : (fun index => gather index (fragmentsOf index first)) =
      fun index => gather index (fragmentsOf index second) := by
    funext index
    rw [same]
  rw [gathers]
  exact order.map _

def argumentsOf (index : Nat) (parts : List PartialToolCall) : String :=
  (parts.find? (fun part => part.index = some index)).elim "" (·.arguments)

/-- A part with an index has the fragments of that index after what it had before, and one
    without is as it was. -/
def Carries (parts : List PartialToolCall) (calls : List (Nat × ToolCall))
    (part : PartialToolCall) : Prop :=
  match part.index with
  | none => part ∈ parts
  | some index => part.arguments = argumentsOf index parts ++ joined (fragmentsOf index calls)

theorem merges_arguments : ∀ {fragments : List ToolCall} {part : PartialToolCall},
    (fragments.foldl (fun part call => mergeIndexed call part) part).arguments =
      part.arguments ++ joined fragments := by
  intro fragments
  induction fragments using List.reverseRecOn with
  | nil => exact fun {_} => (String.append_empty).symm
  | append_singleton fragments call ih =>
    intro part
    rw [foldl_append, joined_append, ← String.append_assoc, ← ih]
    rfl

theorem merges_index : ∀ {fragments : List ToolCall} {part : PartialToolCall},
    (fragments.foldl (fun part call => mergeIndexed call part) part).index = part.index := by
  intro fragments
  induction fragments with
  | nil => exact fun {_} => rfl
  | cons call rest ih => exact fun {part} => ih

theorem gather_arguments : ∀ (fragments : List ToolCall),
    (gather index fragments).arguments = joined fragments := by
  intro fragments
  cases fragments with
  | nil => rfl
  | cons first rest =>
    unfold gather joined
    rw [merges_arguments, foldl_cons]
    induction rest using List.reverseRecOn with
    | nil => exact String.append_empty.trans String.empty_append.symm
    | append_singleton rest call ih =>
      rw [joined_append, ← String.append_assoc, ih, foldl_append]
      rfl

theorem gather_index : ∀ (fragments : List ToolCall),
    (gather index fragments).index = some index := by
  intro fragments
  cases fragments with
  | nil => rfl
  | cons first rest => exact merges_index

theorem settle_index (part : PartialToolCall) : (settle calls part).index = part.index := by
  unfold settle
  cases held : part.index with
  | none => exact held
  | some index => exact merges_index.trans held

theorem argumentsOf_none (absent : index ∉ parts.filterMap (·.index)) :
    argumentsOf index parts = "" := by
  unfold argumentsOf
  rw [List.find?_eq_none.2]
  · rfl
  · intro part member same
    exact absent (mem_indices.2 ⟨part, member, of_decide_eq_true same⟩)

theorem argumentsOf_of_mem (distinct : (parts.filterMap (·.index)).Nodup) (member : part ∈ parts)
    (held : part.index = some index) : argumentsOf index parts = part.arguments := by
  obtain ⟨before, after, rfl⟩ := append_of_mem member
  have apart := distinct_apart distinct held
  have here : (part :: after).find? (fun part => part.index = some index) = some part := by
    simp [held]
  unfold argumentsOf
  rw [List.find?_append, List.find?_eq_none.2 (fun other old same =>
    apart other (mem_append_left _ old) (of_decide_eq_true same)), here]
  rfl

theorem extendIndexed_carries (distinct : (parts.filterMap (·.index)).Nodup)
    (member : part ∈ extendIndexed parts calls) : Carries parts calls part := by
  rw [extendIndexed_eq distinct] at member
  unfold Carries
  rcases mem_append.1 member with old | new
  · obtain ⟨before, there, rfl⟩ := mem_map.1 old
    rw [settle_index]
    cases held : before.index with
    | none =>
      unfold settle
      rw [held]
      exact there
    | some index =>
      show (settle calls before).arguments = _
      unfold settle
      rw [held, argumentsOf_of_mem distinct there held]
      exact merges_arguments
  · obtain ⟨index, there, rfl⟩ := mem_map.1 new
    rw [gather_index]
    show (gather index _).arguments = _
    rw [gather_arguments, argumentsOf_none (mem_appearing.1 there).1, String.empty_append]

theorem accumulate_indexed (before : List Update) (calls : List (Nat × ToolCall)) :
    extendIndexed (accumulate [] before) calls =
      accumulate [] (before ++ calls.map (fun call => .indexed call.1 call.2)) := by
  unfold accumulate extendIndexed
  rw [foldl_append, foldl_map]
  rfl

/-- The chunks of two calls with one id and one name. -/
def sampleFirst : List (Nat × ToolCall) :=
  [(0, ⟨"call", "function", ⟨"read", ""⟩⟩), (1, ⟨"call", "function", ⟨"read", ""⟩⟩),
    (0, ⟨"", "", ⟨"", "left"⟩⟩), (1, ⟨"", "", ⟨"", "right"⟩⟩)]

def sampleSecond : List (Nat × ToolCall) :=
  [(1, ⟨"call", "function", ⟨"read", ""⟩⟩), (1, ⟨"", "", ⟨"", "right"⟩⟩),
    (0, ⟨"call", "function", ⟨"read", ""⟩⟩), (0, ⟨"", "", ⟨"", "left"⟩⟩)]

end ToolCalls
