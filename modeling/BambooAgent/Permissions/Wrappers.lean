import BambooAgent.Permissions.PathGlobs

/- Process wrappers in front of a command. -/
namespace Permissions
open Compression List

def wrapperCommands : List String :=
  ["time", "nohup", "timeout", "nice", "stdbuf", "env", "command"]

/-- `parse::<i32>()` accepts the text. -/
def isI32 (text : String) : Bool :=
  let (negative, digits) :=
    match text.toList with
    | '-' :: rest => (true, rest)
    | '+' :: rest => (false, rest)
    | all => (false, all)
  !digits.isEmpty && digits.all Char.isDigit &&
    decide (digits.foldl (fun value c => value * 10 + (c.toNat - '0'.toNat)) 0 <
      2 ^ 31 + (if negative then 1 else 0))

/-- What is left after the flags and the duration of `timeout`; a flag's value is skipped. -/
def afterDuration : Bool → List String → List String
  | _, [] => []
  | true, _ :: rest => afterDuration false rest
  | false, arg :: rest =>
    if startsWith arg "--kill-after" || startsWith arg "--signal" then
      afterDuration (decide ('=' ∉ arg.toList)) rest
    else if startsWith arg "-" && decide (arg ≠ "-foreground") then
      afterDuration (decide (arg = "-k" ∨ arg = "-s")) rest
    else rest

/-- The words that `nice` takes as its own. -/
def niceOptions (args : List String) : Nat :=
  match args with
  | "-n" :: value :: _ => if isI32 value then 2 else 0
  | first :: _ => if startsWith first "-" && isI32 (dropChars first 1) then 1 else 0
  | [] => 0

def skipsValue (arg : String) : Bool :=
  decide (arg ∉ ["-i", "-0", "-v"]) &&
    (decide (arg = "-u") || startsWith arg "-o" || startsWith arg "-e") &&
    decide ('0' ∉ arg.toList ∧ '1' ∉ arg.toList)

/-- The loop of `stdbuf` and `env`. -/
def findCommand : Bool → List String → Option (String × List String)
  | _, [] => none
  | true, _ :: rest => findCommand false rest
  | false, arg :: rest =>
    if '=' ∈ arg.toList then findCommand false rest
    else if startsWith arg "-" then findCommand (skipsValue arg) rest
    else some (arg, rest)

/-- What one call does: it returns its own command, indexes past the end, or calls itself. -/
inductive Peel where
  | done
  | panic
  | call (name : String) (args : List String)

def Peel.onto : List String → Peel
  | [] => done
  | name :: args => call name args

def peel (name : String) (args : List String) : Peel :=
  if String.ofList (name.toList.map Char.toLower) ∉ wrapperCommands then .done
  else if name = "time" ∨ name = "nohup" then .onto args
  else if name = "command" then
    let operands := if args.head? = some "-p" then args.drop 1 else args
    if operands.head? = some "-v" ∨ operands.head? = some "-V" then .done else .onto operands
  else if name = "timeout" then .onto (afterDuration false args)
  else if name = "nice" then
    match args.drop (niceOptions args) with
    | next :: rest => .call next rest
    | [] => if args = [] then .call name args else .panic
  else if name = "stdbuf" ∨ name = "env" then
    match findCommand false args with
    | some (next, rest) => .call next rest
    | none => .done
  else .done

/-- No result where the function panics, and none yet where it has not come back. -/
def stripWrappers : Nat → String → List String → Option (String × List String)
  | 0, _, _ => none
  | fuel + 1, name, args =>
    match peel name args with
    | .done => some (name, args)
    | .panic => none
    | .call name args => stripWrappers fuel name args

def Returns (name : String) (args : List String) (result : String × List String) : Prop :=
  ∃ fuel, stripWrappers fuel name args = some result

/-- Behind its wrappers the vector ends in a `nice` that has no command. -/
inductive Truncated : String → List String → Prop
  | bare (short : niceOptions args = args.length) : Truncated "nice" args
  | under {next : String} {args rest : List String} (wraps : peel name args = .call next rest)
      (inner : Truncated next rest) : Truncated name args

variable {next : String}

theorem afterDuration_suffix (skips : Bool) (args : List String) :
    afterDuration skips args <:+ args := by
  induction args generalizing skips with
  | nil => cases skips <;> exact suffix_refl []
  | cons arg rest ih =>
    cases skips with
    | true => exact (ih false).trans (suffix_cons arg rest)
    | false =>
      rw [afterDuration]
      split
      · exact (ih _).trans (suffix_cons arg rest)
      · split
        · exact (ih _).trans (suffix_cons arg rest)
        · exact suffix_cons arg rest

theorem findCommand_suffix (found : findCommand skips args = some (next, rest)) :
    next :: rest <:+ args := by
  induction args generalizing skips with
  | nil => cases skips <;> cases found
  | cons arg later ih =>
    cases skips with
    | true => exact (ih found).trans (suffix_cons arg later)
    | false =>
      rw [findCommand] at found
      split at found
      · exact (ih found).trans (suffix_cons arg later)
      · split at found
        · exact (ih found).trans (suffix_cons arg later)
        · cases found
          exact suffix_refl _

theorem niceOptions_le (args : List String) : niceOptions args ≤ args.length := by
  unfold niceOptions
  split
  · split <;> simp
  · split <;> simp
  · exact le_rfl

/-- The call goes on with fewer words. -/
def Shorter (args : List String) (outcome : Peel) : Prop :=
  outcome = .done ∨ ∃ next rest, outcome = .call next rest ∧ next :: rest <:+ args

theorem shorter_onto (suffix : vector <:+ args) :
    Shorter args (.onto vector) := by
  cases vector with
  | nil => exact .inl rfl
  | cons next rest => exact .inr ⟨next, rest, rfl, suffix⟩

/-- Only a `nice` without a command neither returns nor goes on with fewer words. -/
theorem peel_cases (name : String) (args : List String) :
    Shorter args (peel name args) ∨ name = "nice" ∧ niceOptions args = args.length := by
  generalize given : peel name args = outcome
  unfold peel at given
  split at given
  · exact .inl (.inl given.symm)
  · split at given
    · exact .inl (given ▸ shorter_onto (suffix_refl args))
    · split at given
      · left
        have suffix : (if args.head? = some "-p" then args.drop 1 else args) <:+ args := by
          split
          · exact drop_suffix 1 args
          · exact suffix_refl args
        generalize (if args.head? = some "-p" then args.drop 1 else args) = operands at given suffix
        dsimp only at given
        split at given
        · exact .inl given.symm
        · exact given ▸ shorter_onto suffix
      · split at given
        · exact .inl (given ▸ shorter_onto (afterDuration_suffix false args))
        · split at given
          · rename_i nice
            split at given
            · rename_i next rest operands
              exact .inl (.inr ⟨next, rest, given.symm, operands ▸ drop_suffix _ args⟩)
            · rename_i none_left
              exact .inr ⟨nice,
                le_antisymm (niceOptions_le args) (drop_eq_nil_iff.1 none_left)⟩
          · split at given
            · split at given
              · rename_i next rest found
                exact .inl (.inr ⟨next, rest, given.symm, findCommand_suffix found⟩)
              · exact .inl (.inl given.symm)
            · exact .inl (.inl given.symm)

theorem peel_nice (short : niceOptions args = args.length) :
    peel "nice" args = if args = [] then .call "nice" args else .panic := by
  rw [peel, if_neg (by decide), if_neg (by decide), if_neg (by decide), if_neg (by decide),
    if_pos rfl, short, drop_length]

theorem stripWrappers_truncated (truncated : Truncated name args) (fuel : Nat) :
    stripWrappers fuel name args = none := by
  induction fuel generalizing name args with
  | zero => rfl
  | succ fuel ih =>
    rw [stripWrappers]
    cases truncated with
    | bare short =>
      rw [peel_nice short]
      by_cases empty : args = []
      · rw [if_pos empty]
        exact ih (.bare short)
      · rw [if_neg empty]
    | under wraps inner =>
      rw [wraps]
      exact ih inner

theorem stripWrappers_returns (sound : ¬ Truncated name args) :
    ∃ result, Returns name args result ∧ result.1 :: result.2 <:+ name :: args := by
  induction size : args.length using Nat.strong_induction_on generalizing name args with
  | h n ih =>
    rcases peel_cases name args with (done | ⟨next, rest, called, suffix⟩) | ⟨rfl, short⟩
    · exact ⟨(name, args), ⟨1, by rw [stripWrappers, done]⟩, suffix_refl _⟩
    · have fewer : rest.length < n := size ▸ suffix.length_le
      obtain ⟨result, ⟨fuel, run⟩, within⟩ :=
        ih rest.length fewer (fun inner => sound (.under called inner)) rfl
      exact ⟨result, ⟨fuel + 1, by rw [stripWrappers, called]; exact run⟩,
        within.trans (suffix.trans (suffix_cons name args))⟩
    · exact absurd (.bare short) sound

/- The forms of the wrappers. -/

/-- A flag of `timeout` or an option of `stdbuf` is a word, or a word and its value. -/
inductive Wrapper where
  | time
  | nohup
  | timeout (flags : List (List String)) (duration : String)
  | nice
  | niceOption (n : String)
  | niceLevel (n : String)
  | stdbuf (options : List (List String))
  | env (assignments : List String)

namespace Wrapper

def name : Wrapper → String
  | time => "time"
  | nohup => "nohup"
  | timeout _ _ => "timeout"
  | nice | niceOption _ | niceLevel _ => "nice"
  | stdbuf _ => "stdbuf"
  | env _ => "env"

def operands : Wrapper → List String
  | time | nohup | nice => []
  | timeout flags duration => flags.flatten ++ [duration]
  | niceOption n => ["-n", n]
  | niceLevel n => ["-" ++ n]
  | stdbuf options => options.flatten
  | env assignments => assignments

def TimeoutFlag (flag : List String) : Prop :=
  (∃ word, flag = [word] ∧ startsWith word "-" = true ∧ word ∉ ["-k", "-s", "-foreground"] ∧
    ((startsWith word "--kill-after" || startsWith word "--signal") = true → '=' ∈ word.toList)) ∨
  ∃ word value, flag = [word, value] ∧ word ∈ ["-k", "-s", "--kill-after", "--signal"]

/-- The option is read for what it is: a mode of its own word is not taken to be missing, and a
    mode of a word to itself is expected. -/
def StdbufOption (option : List String) : Prop :=
  (∃ word, option = [word] ∧ startsWith word "-" = true ∧ '=' ∉ word.toList ∧
    skipsValue word = false) ∨
  ∃ word mode, option = [word, mode] ∧ word ∈ ["-o", "-e"]

def Read : Wrapper → Prop
  | time | nohup | nice => True
  | timeout flags duration => (∀ flag ∈ flags, TimeoutFlag flag) ∧ startsWith duration "-" = false
  | niceOption n | niceLevel n => isI32 n = true
  | stdbuf options => ∀ option ∈ options, StdbufOption option
  | env assignments => ∀ assignment ∈ assignments, '=' ∈ assignment.toList

/-- The word after the wrapper is not one of its own. -/
def Admits (next : String) : Wrapper → Prop
  | nice => startsWith next "-" = false
  | stdbuf _ | env _ => startsWith next "-" = false ∧ '=' ∉ next.toList
  | _ => True

def nested (command : String × List String) : List Wrapper → String × List String
  | [] => command
  | wrapper :: inner =>
    (wrapper.name, wrapper.operands ++ (nested command inner).1 :: (nested command inner).2)

theorem admits_name (wrapper next : Wrapper) : wrapper.Admits next.name := by
  have plain : startsWith next.name "-" = false ∧ '=' ∉ next.name.toList := by
    cases next <;> simp only [name] <;> decide
  cases wrapper with
  | nice => exact plain.1
  | stdbuf | env => exact plain
  | time | nohup | timeout | niceOption | niceLevel => trivial

theorem afterDuration_flags {flags : List (List String)} (known : ∀ flag ∈ flags, TimeoutFlag flag)
    (rest : List String) :
    afterDuration false (flags.flatten ++ rest) = afterDuration false rest := by
  induction flags with
  | nil => rfl
  | cons flag flags ih =>
    have later := ih (fun flag member => known flag (mem_cons_of_mem _ member))
    rcases known flag mem_cons_self with
      ⟨word, rfl, dash, other, valued⟩ | ⟨word, value, rfl, named⟩
    · simp only [mem_cons, not_mem_nil, or_false, not_or] at other
      rw [flatten_cons, append_assoc, singleton_append, afterDuration]
      split
      · rename_i long
        rw [decide_eq_false (not_not.2 (valued long)), later]
      · rw [if_pos (by simp [dash, other]), decide_eq_false (by simp [other]), later]
    · simp only [mem_cons, not_mem_nil, or_false] at named
      rcases named with rfl | rfl | rfl | rfl <;> exact later

theorem findCommand_options {options : List (List String)}
    (known : ∀ option ∈ options, StdbufOption option) (rest : List String) :
    findCommand false (options.flatten ++ rest) = findCommand false rest := by
  induction options with
  | nil => rfl
  | cons option options ih =>
    have later := ih (fun option member => known option (mem_cons_of_mem _ member))
    rcases known option mem_cons_self with
      ⟨word, rfl, dash, bare, whole⟩ | ⟨word, mode, rfl, named⟩
    · rw [flatten_cons, append_assoc, singleton_append, findCommand, if_neg bare,
        if_pos dash, whole, later]
    · simp only [mem_cons, not_mem_nil, or_false] at named
      rcases named with rfl | rfl <;> exact later

theorem findCommand_assignments
    (known : ∀ assignment ∈ assignments, '=' ∈ assignment.toList) (rest : List String) :
    findCommand false (assignments ++ rest) = findCommand false rest := by
  induction assignments with
  | nil => rfl
  | cons assignment assignments ih =>
    rw [cons_append, findCommand, if_pos (known assignment mem_cons_self)]
    exact ih (fun assignment member => known assignment (mem_cons_of_mem _ member))

theorem peel_scan (named : word = "stdbuf" ∨ word = "env")
    (found : findCommand false args = some (next, rest)) : peel word args = .call next rest := by
  rcases named with rfl | rfl <;>
    rw [peel, if_neg (by decide), if_neg (by decide), if_neg (by decide), if_neg (by decide),
      if_neg (by decide), if_pos (by decide), found]

theorem peel_niceOptions (front : List String)
    (own : niceOptions (front ++ next :: rest) = front.length) :
    peel "nice" (front ++ next :: rest) = .call next rest := by
  rw [peel, if_neg (by decide), if_neg (by decide), if_neg (by decide), if_neg (by decide),
    if_pos rfl, own, drop_left]

theorem findCommand_here (admits : startsWith next "-" = false ∧ '=' ∉ next.toList)
    (rest : List String) : findCommand false (next :: rest) = some (next, rest) := by
  rw [findCommand, if_neg admits.2, admits.1]
  rfl

theorem peel_words (wrapper : Wrapper) (reads : wrapper.Read) (admits : wrapper.Admits next)
    (rest : List String) :
    peel wrapper.name (wrapper.operands ++ next :: rest) = .call next rest := by
  cases wrapper with
  | time | nohup => rfl
  | timeout flags duration =>
    have short : ∀ long, startsWith long "-" = true → startsWith duration long = false := by
      intro long dash
      rw [Bool.eq_false_iff]
      intro begins
      have both := (List.isPrefixOf_iff_prefix.1 dash).trans (List.isPrefixOf_iff_prefix.1 begins)
      exact Bool.eq_false_iff.1 reads.2 (List.isPrefixOf_iff_prefix.2 both)
    rw [name, operands, peel, append_assoc, afterDuration_flags reads.1, singleton_append,
      afterDuration, short "--kill-after" (by decide), short "--signal" (by decide), reads.2]
    rfl
  | nice =>
    have undashed : startsWith next "-" = false := admits
    apply peel_niceOptions []
    rw [nil_append]
    unfold niceOptions
    split
    · rename_i same
      cases same
      cases undashed
    · rename_i same
      cases same
      rw [undashed]
      rfl
    · rfl
  | niceOption n =>
    have number : isI32 n = true := reads
    apply peel_niceOptions ["-n", n]
    rw [cons_append, singleton_append, niceOptions, if_pos number]
    rfl
  | niceLevel n =>
    have number : isI32 n = true := reads
    apply peel_niceOptions ["-" ++ n]
    rw [singleton_append]
    unfold niceOptions
    split
    · rename_i same
      have letter : n = "n" := String.append_right_inj "-" |>.1 (List.cons.inj same).1
      rw [letter] at number
      exact absurd number (by decide)
    · rename_i same
      cases same
      have level : dropChars ("-" ++ n) 1 = n := dropChars_append
      rw [startsWith_iff.2 ⟨n, rfl⟩, level, number]
      rfl
    · rename_i same
      cases same
  | stdbuf options =>
    exact peel_scan (.inl rfl) ((findCommand_options reads _).trans (findCommand_here admits rest))
  | env assignments =>
    exact peel_scan (.inr rfl)
      ((findCommand_assignments reads _).trans (findCommand_here admits rest))

end Wrapper

end Permissions
