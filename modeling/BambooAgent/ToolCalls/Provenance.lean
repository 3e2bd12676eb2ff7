import BambooAgent.ToolCalls.Accumulator
import Mathlib.Data.List.Induction
import Mathlib.Data.List.Nodup

/- Where the arguments of a part come from, whatever updates of both kinds it has seen. -/
namespace ToolCalls
open Option
open List hiding after

theorem modifyFirst_none : ∀ {xs : List α}, modifyFirst p f xs = none → ∀ x ∈ xs, p x = false := by
  intro xs
  induction xs with
  | nil => exact fun _ _ member => by cases member
  | cons first rest ih =>
    intro missing x member
    unfold modifyFirst at missing
    split at missing
    · cases missing
    · rename_i other
      rcases mem_cons.1 member with rfl | later
      · exact Bool.eq_false_iff.2 other
      · exact ih (map_eq_none_iff.1 missing) x later

theorem modifyFirst_some : ∀ {xs ys : List α}, modifyFirst p f xs = some ys →
    ∃ before x after, xs = before ++ x :: after ∧ ys = before ++ f x :: after ∧ p x = true := by
  intro xs
  induction xs with
  | nil => exact fun found => by cases found
  | cons first rest ih =>
    intro ys found
    unfold modifyFirst at found
    split at found
    · rename_i matched
      exact ⟨[], first, rest, rfl, (some.inj found).symm, matched⟩
    · obtain ⟨tail, later, rfl⟩ := map_eq_some_iff.1 found
      obtain ⟨before, x, after, rfl, rfl, matched⟩ := ih later
      exact ⟨first :: before, x, after, rfl, rfl, matched⟩

theorem modifyLast_none : ∀ {xs : List α}, modifyLast f xs = none → xs = [] := by
  intro xs
  induction xs with
  | nil => exact fun _ => rfl
  | cons first rest ih =>
    intro missing
    cases rest with
    | nil => cases missing
    | cons next rest => cases ih (map_eq_none_iff.1 missing)

theorem modifyLast_some : ∀ {xs ys : List α}, modifyLast f xs = some ys →
    ∃ before x, xs = before ++ [x] ∧ ys = before ++ [f x] := by
  intro xs
  induction xs with
  | nil => exact fun found => by cases found
  | cons first rest ih =>
    intro ys found
    cases rest with
    | nil => exact ⟨[], first, rfl, (some.inj found).symm⟩
    | cons next rest =>
      obtain ⟨tail, later, rfl⟩ := map_eq_some_iff.1 found
      obtain ⟨before, x, same, rfl⟩ := ih later
      exact ⟨first :: before, x, by rw [same]; rfl, rfl⟩

theorem joined_append (calls : List ToolCall) (call : ToolCall) :
    joined (calls ++ [call]) = joined calls ++ call.function.arguments := by
  unfold joined
  rw [foldl_append]
  rfl

theorem indexedCalls_append (index : Nat) (first second : List Update) :
    indexedCalls index (first ++ second) =
      indexedCalls index first ++ indexedCalls index second :=
  filterMap_append

/-- The arguments of a part are those of some of the chunks, in their order: of a part with an
    index all of its index and no others of any index, of a part without none of any index. -/
def Traced (updates : List Update) (part : PartialToolCall) : Prop :=
  ∃ pieces : List Update, pieces.Sublist updates ∧
    part.arguments = joined (pieces.map Update.call) ∧
    (∀ index call, .indexed index call ∈ pieces → part.index = some index) ∧
    ∀ index, part.index = some index → indexedCalls index pieces = indexedCalls index updates

/-- The update is none of another index than the part's. -/
def Fits (update : Update) (part : PartialToolCall) : Prop :=
  ∀ index call, update = .indexed index call → part.index = some index

theorem indexedCalls_single (other : ∀ call, update ≠ .indexed index call) :
    indexedCalls index [update] = [] := by
  cases update with
  | positional call => rfl
  | indexed here call =>
    have differ : here ≠ index := fun same => other call (same ▸ rfl)
    simp [indexedCalls, differ]

theorem indexedCalls_single_of_fits (fits : Fits update part) (other : part.index ≠ some index) :
    indexedCalls index [update] = [] :=
  indexedCalls_single (fun call same => other (fits index call same))

theorem traced_other (traced : Traced updates part)
    (other : ∀ index call, update = .indexed index call → part.index ≠ some index) :
    Traced (updates ++ [update]) part := by
  obtain ⟨pieces, sub, same, own, all⟩ := traced
  refine ⟨pieces, sub.trans (sublist_append_left _ _), same, own, ?_⟩
  intro index here
  have nothing : indexedCalls index [update] = [] :=
    indexedCalls_single (fun call same => other index call same here)
  rw [indexedCalls_append, nothing, append_nil]
  exact all index here

variable {next : PartialToolCall}

theorem traced_touched (traced : Traced updates part) (fits : Fits update part)
    (arguments : next.arguments = part.arguments ++ update.call.function.arguments)
    (index : next.index = part.index) : Traced (updates ++ [update]) next := by
  obtain ⟨pieces, sub, same, own, all⟩ := traced
  refine ⟨pieces ++ [update], sub.append_right _, ?_, ?_, ?_⟩
  · rw [arguments, same, map_append, map_singleton, joined_append]
  · intro i call member
    rw [index]
    rcases mem_append.1 member with old | new
    · exact own i call old
    · exact fits i call (mem_singleton.1 new).symm
  · intro i here
    rw [indexedCalls_append, indexedCalls_append, all i (index ▸ here)]

theorem traced_new (arguments : next.arguments = update.call.function.arguments)
    (fits : Fits update next)
    (first : ∀ index, next.index = some index → indexedCalls index updates = []) :
    Traced (updates ++ [update]) next := by
  refine ⟨[update], sublist_append_right _ _, ?_, ?_, ?_⟩
  · rw [arguments]
    exact (String.empty_append).symm
  · exact fun index call member => fits index call (mem_singleton.1 member).symm
  · intro index here
    rw [indexedCalls_append, first index here, nil_append]

/-- What an accumulator keeps to. -/
structure Sound (updates : List Update) (parts : List PartialToolCall) : Prop where
  distinct : (parts.filterMap (·.index)).Nodup
  traced : ∀ part ∈ parts, Traced updates part
  present : ∀ index, indexedCalls index updates ≠ [] → ∃ part ∈ parts, part.index = some index

section Accumulators
variable {before : List PartialToolCall}

theorem sound_nil : Sound [] [] :=
  ⟨nodup_nil, fun _ member => (not_mem_nil member).elim,
    fun _ some_ => absurd rfl some_⟩

theorem distinct_apart (distinct : ((before ++ part :: after).filterMap (·.index)).Nodup)
    (here : part.index = some index) : ∀ other ∈ before ++ after, other.index ≠ some index := by
  have there : (before ++ part :: after).filterMap (·.index) =
      before.filterMap (·.index) ++ index :: after.filterMap (·.index) := by
    rw [filterMap_append, filterMap_cons_some here]
  rw [there, nodup_middle, nodup_cons] at distinct
  intro other member same
  refine distinct.1 ?_
  rw [← filterMap_append]
  exact mem_filterMap.2 ⟨other, member, same⟩

theorem sound_touched (sound : Sound updates (before ++ part :: after))
    (fits : Fits update part)
    (arguments : next.arguments = part.arguments ++ update.call.function.arguments)
    (index : next.index = part.index) :
    Sound (updates ++ [update]) (before ++ next :: after) := by
  have others : ∀ other ∈ before ++ after, Traced (updates ++ [update]) other := by
    intro other member
    refine traced_other (sound.traced other ?_) ?_
    · rcases mem_append.1 member with old | later
      · exact mem_append_left _ old
      · exact mem_append_right _ (.tail _ later)
    · intro i call same
      exact distinct_apart sound.distinct (fits i call same) other member
  refine ⟨?_, ?_, ?_⟩
  · have same : (before ++ next :: after).filterMap (·.index) =
        (before ++ part :: after).filterMap (·.index) := by
      rw [filterMap_append, filterMap_append]
      cases held : part.index with
      | none =>
        rw [filterMap_cons_none held, filterMap_cons_none (index.trans held)]
      | some i =>
        rw [filterMap_cons_some held, filterMap_cons_some (index.trans held)]
    rw [same]
    exact sound.distinct
  · intro other member
    rcases mem_append.1 member with old | rest
    · exact others other (mem_append_left _ old)
    · rcases mem_cons.1 rest with rfl | later
      · exact traced_touched
          (sound.traced part (mem_append_right _ mem_cons_self)) fits arguments index
      · exact others other (mem_append_right _ later)
  · intro i some_
    by_cases here : part.index = some i
    · exact ⟨next, mem_append_right _ mem_cons_self, index.trans here⟩
    · rw [indexedCalls_append, indexedCalls_single_of_fits fits here, append_nil] at some_
      obtain ⟨other, member, same⟩ := sound.present i some_
      refine ⟨other, ?_, same⟩
      rcases mem_append.1 member with old | rest
      · exact mem_append_left _ old
      · rcases mem_cons.1 rest with rfl | later
        · exact absurd same here
        · exact mem_append_right _ (.tail _ later)

theorem sound_new (sound : Sound updates parts)
    (arguments : next.arguments = update.call.function.arguments) (fits : Fits update next)
    (absent : ∀ index, next.index = some index → ∀ part ∈ parts, part.index ≠ some index) :
    Sound (updates ++ [update]) (parts ++ [next]) := by
  have first : ∀ index, next.index = some index → indexedCalls index updates = [] := by
    intro index here
    by_contra some_
    obtain ⟨part, member, same⟩ := sound.present index some_
    exact absent index here part member same
  refine ⟨?_, ?_, ?_⟩
  · rw [filterMap_append]
    cases held : next.index with
    | none =>
      rw [filterMap_cons_none held, filterMap_nil, append_nil]
      exact sound.distinct
    | some index =>
      rw [filterMap_cons_some held]
      refine nodup_append.2 ⟨sound.distinct, nodup_singleton _, ?_⟩
      intro old member new here
      rw [mem_singleton.1 here]
      rintro rfl
      obtain ⟨part, there, same⟩ := mem_filterMap.1 member
      exact absent _ held part there same
  · intro part member
    rcases mem_append.1 member with old | new
    · refine traced_other (sound.traced part old) ?_
      exact fun index call same => absent index (fits index call same) part old
    · rw [mem_singleton.1 new]
      exact traced_new arguments fits first
  · intro index some_
    by_cases here : next.index = some index
    · exact ⟨next, mem_append_right _ (mem_singleton_self _), here⟩
    · rw [indexedCalls_append, indexedCalls_single_of_fits fits here, append_nil] at some_
      obtain ⟨part, member, same⟩ := sound.present index some_
      exact ⟨part, mem_append_left _ member, same⟩

theorem fits_positional (call : ToolCall) (part : PartialToolCall) :
    Fits (.positional call) part :=
  fun _ _ same => by cases same

theorem sound_positional (sound : Sound updates parts) (call : ToolCall) :
    Sound (updates ++ [.positional call]) (updatePartialToolCall parts call) := by
  unfold updatePartialToolCall
  split
  · refine ⟨sound.distinct, ?_, ?_⟩
    · exact fun part member => traced_other (sound.traced part member) (fun _ _ same => by
        cases same)
    · intro index some_
      exact sound.present index (by simpa [indexedCalls] using some_)
  split
  · cases found : modifyLast (appendArguments call) parts with
    | none =>
      rw [modifyLast_none found] at sound
      exact sound_new sound rfl (fits_positional call _) (fun _ _ _ member =>
        (not_mem_nil member).elim)
    | some changed =>
      obtain ⟨before, part, rfl, rfl⟩ := modifyLast_some found
      exact sound_touched sound (fits_positional call _) rfl rfl
  · dsimp only
    cases found : modifyFirst _ (mergePositional call) parts with
    | none => exact sound_new sound rfl (fits_positional call _) (fun _ none_ => by cases none_)
    | some changed =>
      obtain ⟨before, part, after, rfl, rfl, _⟩ := modifyFirst_some found
      exact sound_touched sound (fits_positional call _) rfl rfl

theorem sound_indexed (sound : Sound updates parts) (index : Nat) (call : ToolCall) :
    Sound (updates ++ [.indexed index call]) (updatePartialToolCallIndexed parts index call) := by
  unfold updatePartialToolCallIndexed
  cases found : modifyFirst (fun part => part.index = some index) (mergeIndexed call) parts with
  | none =>
    refine sound_new sound rfl (fun i other same => ?_) (fun i here part member => ?_)
    · cases same
      rfl
    · cases here
      exact of_decide_eq_false (modifyFirst_none found part member)
  | some changed =>
    obtain ⟨before, part, after, rfl, rfl, matched⟩ := modifyFirst_some found
    refine sound_touched sound (fun i other same => ?_) rfl rfl
    cases same
    exact of_decide_eq_true matched

theorem sound_accumulate (updates : List Update) : Sound updates (accumulate [] updates) := by
  induction updates using List.reverseRecOn with
  | nil => exact sound_nil
  | append_singleton updates update ih =>
    unfold accumulate at ⊢
    rw [foldl_append]
    cases update with
    | positional call => exact sound_positional ih call
    | indexed index call => exact sound_indexed ih index call

end Accumulators

end ToolCalls
