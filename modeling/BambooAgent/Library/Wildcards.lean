import Mathlib.Data.List.Infix

/- Patterns with stars: the texts they stand for, and the search piece by piece that decides
   them. -/
namespace Wildcards
open List

variable {α : Type}

/-- A star gives way to any text, an escaped symbol to itself. -/
inductive Obtained (star : α) (escape : Option α) : List α → List α → Prop
  | nothing : Obtained star escape [] []
  | literal {pattern text : List α} (plain : a ≠ star) (bare : some a ≠ escape)
      (rest : Obtained star escape pattern text) : Obtained star escape (a :: pattern) (a :: text)
  | escaped {e : α} {pattern text : List α} (escapes : some e = escape)
      (rest : Obtained star escape pattern text) :
      Obtained star escape (e :: a :: pattern) (a :: text)
  | star (fill : List α) (rest : Obtained star escape pattern text) :
      Obtained star escape (star :: pattern) (fill ++ text)

/-- The text is the pieces in their order, with anything between two of them. -/
def Fits : List (List α) → List α → Prop
  | [], _ => False
  | [piece], text => text = piece
  | piece :: next :: later, text =>
    ∃ fill rest, text = piece ++ (fill ++ rest) ∧ Fits (next :: later) rest

def Ends (pieces : List (List α)) (text : List α) : Prop :=
  ∃ fill rest, text = fill ++ rest ∧ Fits pieces rest

theorem fits_cons {next : List α} :
    Fits (piece :: next :: later) text ↔
      ∃ rest, text = piece ++ rest ∧ Ends (next :: later) rest := by
  constructor
  · rintro ⟨fill, rest, same, fits⟩
    exact ⟨fill ++ rest, same, fill, rest, rfl, fits⟩
  · rintro ⟨_, same, fill, rest, rfl, fits⟩
    exact ⟨fill, rest, same, fits⟩

theorem ends_single : Ends [piece] text ↔ piece <:+ text := by
  constructor
  · rintro ⟨fill, _, rfl, rfl⟩
    exact suffix_append fill _
  · rintro ⟨fill, rfl⟩
    exact ⟨fill, piece, rfl, rfl⟩

theorem ends_suffix (ends : Ends pieces text)
    (suffix : text <:+ longer) : Ends pieces longer := by
  obtain ⟨before, rfl⟩ := suffix
  obtain ⟨fill, rest, rfl, fits⟩ := ends
  exact ⟨before ++ fill, rest, (append_assoc _ _ _).symm, fits⟩

theorem fits_grown :
    Fits ((a :: piece) :: later) text ↔ ∃ rest, text = a :: rest ∧ Fits (piece :: later) rest := by
  cases later with
  | nil =>
    simp only [Fits]
    constructor
    · rintro rfl
      exact ⟨piece, rfl, rfl⟩
    · rintro ⟨_, rfl, rfl⟩
      rfl
  | cons next later =>
    simp only [fits_cons]
    constructor
    · rintro ⟨rest, rfl, ends⟩
      exact ⟨piece ++ rest, rfl, rest, rfl, ends⟩
    · rintro ⟨_, rfl, rest, rfl, ends⟩
      exact ⟨rest, rfl, ends⟩

variable [DecidableEq α]

/-- Without escapes a pattern stands for what its pieces fit. -/
theorem obtained_iff_fits {star : α} :
    Obtained star none pattern text ↔ Fits (pattern.splitOn star) text := by
  induction pattern generalizing text with
  | nil =>
    rw [splitOn_nil]
    constructor
    · intro made
      cases made
      rfl
    · intro same
      cases same
      exact .nothing
  | cons a pattern ih =>
    obtain ⟨piece, later, pieces⟩ := exists_cons_of_ne_nil (splitOn_ne_nil star pattern)
    rw [splitOn_cons_eq_if_modifyHead]
    rw [pieces] at ih ⊢
    by_cases same : a = star
    · subst same
      rw [if_pos (beq_self_eq_true a), fits_cons]
      constructor
      · intro made
        cases made with
        | literal plain => exact absurd rfl plain
        | escaped escapes => cases escapes
        | star fill rest => exact ⟨_, rfl, fill, _, rfl, ih.1 rest⟩
      · rintro ⟨_, rfl, fill, rest, rfl, fits⟩
        exact .star fill (ih.2 fits)
    · rw [if_neg (by simpa using same), modifyHead_cons, fits_grown]
      constructor
      · intro made
        cases made with
        | literal _ _ rest => exact ⟨_, rfl, ih.1 rest⟩
        | escaped escapes => cases escapes
        | star => exact absurd rfl same
      · rintro ⟨rest, rfl, fits⟩
        exact .literal same (by simp) (ih.2 fits)

/-- What comes after the first occurrence of the piece. -/
def pastFirst (piece : List α) : List α → Option (List α)
  | [] => if piece = [] then some [] else none
  | a :: rest =>
    if piece.isPrefixOf (a :: rest) then some ((a :: rest).drop piece.length)
    else pastFirst piece rest

theorem pastFirst_nil (text : List α) : pastFirst [] text = some text := by
  cases text <;> rfl

/-- Taking the first occurrence of a piece loses nothing. -/
theorem ends_cons {piece next : List α} :
    Ends (piece :: next :: later) text ↔
      ∃ after, pastFirst piece text = some after ∧ Ends (next :: later) after := by
  induction text with
  | nil =>
    constructor
    · rintro ⟨fill, rest, same, fits⟩
      obtain ⟨-, rfl⟩ := append_eq_nil_iff.1 same.symm
      obtain ⟨rest, same, ends⟩ := fits_cons.1 fits
      obtain ⟨rfl, rfl⟩ := append_eq_nil_iff.1 same.symm
      exact ⟨[], rfl, ends⟩
    · rintro ⟨after, found, ends⟩
      unfold pastFirst at found
      split at found
      · rename_i empty
        cases found
        subst empty
        exact ⟨[], [], rfl, fits_cons.2 ⟨[], rfl, ends⟩⟩
      · cases found
  | cons a text ih =>
    unfold pastFirst
    split
    · rename_i here
      obtain ⟨after, whole⟩ := isPrefixOf_iff_prefix.1 here
      rw [← whole, drop_left]
      constructor
      · rintro ⟨fill, rest, same, fits⟩
        obtain ⟨rest', rfl, ends⟩ := fits_cons.1 fits
        refine ⟨after, rfl, ends_suffix ends ?_⟩
        -- The rest after a later occurrence is the shorter one.
        have other : rest' <:+ piece ++ after :=
          ⟨fill ++ piece, by rw [same, append_assoc]⟩
        refine suffix_of_suffix_length_le other (suffix_append piece after) ?_
        have lengths := congrArg List.length same
        simp only [length_append] at lengths
        omega
      · rintro ⟨_, found, ends⟩
        cases found
        exact ⟨[], piece ++ after, rfl, fits_cons.2 ⟨after, rfl, ends⟩⟩
    · rename_i absent
      rw [← ih]
      constructor
      · rintro ⟨fill, rest, same, fits⟩
        cases fill with
        | nil =>
          obtain ⟨rest', rfl, -⟩ := fits_cons.1 fits
          exact absurd (List.isPrefixOf_iff_prefix.2 ⟨rest', same.symm⟩) absent
        | cons b fill =>
          obtain ⟨rfl, rfl⟩ := List.cons.inj same
          exact ⟨fill, rest, rfl, fits⟩
      · rintro ends
        exact ends_suffix ends (suffix_cons a text)

variable {star : α} {pattern : List α}

theorem first_piece
    (pieces : pattern.splitOn star = piece :: later) (starts : pattern.head? = some star) :
    piece = [] := by
  obtain ⟨rest, rfl⟩ : ∃ rest, pattern = star :: rest := by
    cases pattern with
    | nil => cases starts
    | cons a rest => exact ⟨rest, by rw [Option.some.inj starts]⟩
  rw [splitOn_cons_eq_if_modifyHead, if_pos (beq_self_eq_true star)] at pieces
  exact (List.cons.inj pieces).1.symm

theorem last_piece (ended : pattern.getLast? = some star) :
    (pattern.splitOn star).getLast? = some [] := by
  obtain ⟨front, rfl⟩ := List.getLast?_eq_some_iff.1 ended
  rw [splitOn_append_cons_self, splitOn_nil, List.getLast?_concat]

theorem two_pieces (member : star ∈ pattern) :
    ∃ first second later, pattern.splitOn star = first :: second :: later := by
  obtain ⟨before, after, rfl⟩ := append_of_mem member
  rw [splitOn_append_cons_self]
  obtain ⟨first, early, same⟩ := exists_cons_of_ne_nil (splitOn_ne_nil star before)
  obtain ⟨second, later, same'⟩ := exists_cons_of_ne_nil (splitOn_ne_nil star after)
  rw [same, same']
  cases early with
  | nil => exact ⟨first, second, later, rfl⟩
  | cons next early => exact ⟨first, next, early ++ second :: later, rfl⟩

end Wildcards
