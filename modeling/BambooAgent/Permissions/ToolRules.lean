import BambooAgent.Compression.ToolNames
import BambooAgent.Library.Json
import BambooAgent.Library.Wildcards
import BambooAgent.Permissions.Evaluation
import BambooAgent.Permissions.PathGlobs

/- Rules over tool calls: their text, the patterns in it, and the calls they match. -/
namespace Permissions
open Compression JsonValues SwapRemove Wildcards Bool

/- Patterns. -/

/-- The loop over the parts of a pattern, from the text after the current position. -/
def matchParts (pattern : List Char) : Nat → List (List Char) → List Char → Bool
  | _, [], _ => true
  | i, part :: later, rest =>
    if part.isEmpty then matchParts pattern (i + 1) later rest
    else if i = 0 ∧ pattern.head? ≠ some '*' then
      part.isPrefixOf rest && matchParts pattern (i + 1) later (rest.drop part.length)
    else if later = [] ∧ pattern.getLast? ≠ some '*' then
      part.isSuffixOf rest && matchParts pattern (i + 1) later rest
    else
      match pastFirst part rest with
      | some rest => matchParts pattern (i + 1) later rest
      | none => false

def matchToolPattern (pattern target : String) : Bool :=
  if pattern = "*" then true
  else if '*' ∈ pattern.toList then
    match pattern.toList.splitOn '*' with
    | [front, back] =>
      if front.isEmpty && back.isEmpty then true
      else if front.isEmpty then back.isSuffixOf target.toList
      else if back.isEmpty then front.isPrefixOf target.toList
      else front.isPrefixOf target.toList && back.isSuffixOf target.toList
    | parts => matchParts pattern.toList 0 parts target.toList
  else if pattern = target then true
  else matchGlobPattern pattern target

section
variable {pattern : List Char}

theorem matchParts_ends (going : i ≠ 0)
    (ended : pattern.getLast? = some '*' → (part :: later).getLast? = some []) :
    matchParts pattern i (part :: later) rest = true ↔ Ends (part :: later) rest := by
  induction later generalizing i part rest with
  | nil =>
    rw [ends_single, matchParts]
    split
    · rename_i empty
      rw [List.isEmpty_iff.1 empty]
      exact iff_of_true rfl List.nil_suffix
    · rename_i filled
      have open_ : pattern.getLast? ≠ some '*' :=
        fun star => filled (List.isEmpty_iff.2 (Option.some.inj (ended star)))
      rw [if_neg (fun first => going first.1), if_pos ⟨rfl, open_⟩, and_eq_true,
        List.isSuffixOf_iff_suffix]
      exact and_iff_left rfl
  | cons next later ih =>
    have onwards : ∀ after, matchParts pattern (i + 1) (next :: later) after = true ↔
        Ends (next :: later) after := fun after => ih (Nat.succ_ne_zero i) ended
    rw [ends_cons, matchParts]
    split
    · rename_i empty
      rw [List.isEmpty_iff.1 empty, onwards, pastFirst_nil]
      simp
    · rw [if_neg (fun first => going first.1)]
      cases pastFirst part rest with
      | none => simp
      | some after => simpa using onwards after

theorem matchParts_fits (parts : pattern.splitOn '*' = part :: next :: later) :
    matchParts pattern 0 (part :: next :: later) text = true ↔
      Fits (part :: next :: later) text := by
  have onwards : ∀ after, matchParts pattern 1 (next :: later) after = true ↔
      Ends (next :: later) after := by
    intro after
    apply matchParts_ends Nat.one_ne_zero
    intro star
    rw [← last_piece star, parts, List.getLast?_cons_cons]
  rw [fits_cons, matchParts]
  split
  · rename_i empty
    rw [List.isEmpty_iff.1 empty, onwards]
    simp
  · rename_i filled
    have starts : pattern.head? ≠ some '*' :=
      fun star => filled (List.isEmpty_iff.2 (first_piece parts star))
    rw [if_pos ⟨rfl, starts⟩, and_eq_true, List.isPrefixOf_iff_prefix, onwards]
    constructor
    · rintro ⟨⟨rest, rfl⟩, ends⟩
      rw [List.drop_left] at ends
      exact ⟨rest, rfl, ends⟩
    · rintro ⟨rest, rfl, ends⟩
      rw [List.drop_left]
      exact ⟨List.prefix_append part rest, ends⟩

end

section
variable {pattern : String} (plain : '*' ∉ pattern.toList)
include plain

theorem matchPatternInternal_plain (resource : String) :
    matchPatternInternal pattern resource = decide (resource = pattern) := by
  have ended : ∀ ending : String, '*' ∈ ending.toList → endsWith pattern ending = false := by
    intro ending star
    rw [eq_false_iff]
    intro suffix
    exact plain ((List.isSuffixOf_iff_suffix.1 suffix).subset star)
  rw [matchPatternInternal, ended "/*" (by decide), ended "/**" (by decide)]
  rfl

/-- Without a star the globs compare texts. -/
theorem matchGlobPattern_plain (target : String) :
    matchGlobPattern pattern target = true ↔ pattern ∈ readings pattern target := by
  have unlike : ∀ text : String, '*' ∈ text.toList → pattern ≠ text := by
    rintro _ star rfl
    exact plain star
  have extension : startsWith pattern "*." = false := by
    rw [eq_false_iff]
    intro begins
    exact plain ((List.isPrefixOf_iff_prefix.1 begins).subset (by decide))
  rw [matchGlobPattern_readings target ⟨unlike "*" (by decide), unlike "**/*" (by decide)⟩
    (by rw [extension, Bool.false_and])]
  simp only [matchPatternInternal_plain plain, decide_eq_true_eq, exists_eq_right]

end

/-- A tool pattern with stars matches the texts it stands for; one without compares texts. -/
theorem tool_pattern_exact (pattern target : String) :
    ('*' ∉ pattern.toList →
      (matchToolPattern pattern target = true ↔
        pattern = target ∨ pattern ∈ readings pattern target)) ∧
    ('*' ∈ pattern.toList →
      (∀ front back, pattern.toList.splitOn '*' = [front, back] →
        front.length + back.length ≤ target.toList.length) →
      (matchToolPattern pattern target = true ↔
        Obtained '*' none pattern.toList target.toList)) := by
  have universal : matchToolPattern "*" target = true := by
    rw [matchToolPattern, if_pos rfl]
  constructor
  · intro plain
    rw [← matchGlobPattern_plain plain, matchToolPattern, if_neg, if_neg plain]
    · split
      · rename_i same
        exact iff_of_true rfl (.inl same)
      · rename_i other
        exact (or_iff_right other).symm
    · rintro rfl
      exact plain (by decide)
  · intro star room
    rw [obtained_iff_fits]
    obtain ⟨front, next, later, parts⟩ := two_pieces star
    rw [parts] at room ⊢
    by_cases whole : pattern = "*"
    · subst whole
      cases parts
      exact iff_of_true universal ⟨target.toList, [], by simp, rfl⟩
    · rw [matchToolPattern, if_neg whole, if_pos star, parts]
      cases later with
      | nil =>
        rw [fits_cons]
        simp only [ends_single]
        trans front <+: target.toList ∧ next <:+ target.toList
        · cases front <;> cases next <;> simp
        · constructor
          · rintro ⟨⟨rest, whole⟩, suffix⟩
            have fits := room front next rfl
            rw [← whole, List.length_append] at fits
            rw [← whole] at suffix
            exact ⟨rest, whole.symm, List.suffix_of_suffix_length_le suffix
              (List.suffix_append front rest) (by omega)⟩
          · rintro ⟨rest, whole, suffix⟩
            rw [whole]
            exact ⟨List.prefix_append front rest,
              suffix.trans (List.suffix_append front rest)⟩
      | cons other later => exact matchParts_fits parts

/-- An escape is a character like any other. -/
theorem tool_pattern_escape :
    matchToolPattern "echo \\*" "echo *" = false ∧
      Obtained '*' (some '\\') "echo \\*".toList "echo *".toList := by
  refine ⟨by decide, ?_⟩
  have star : Obtained '*' (some '\\') "\\*".toList "*".toList := .escaped rfl .nothing
  exact .literal (by decide) (by decide) (.literal (by decide) (by decide) (.literal (by decide)
    (by decide) (.literal (by decide) (by decide) (.literal (by decide) (by decide) star))))

/- The text of a rule. -/

def validateToolName (toolName : String) : Except String Unit :=
  if toolName.isEmpty then .error "tool name must not be empty"
  else if toolName.toList.any (fun c => isWhitespace c || decide (c = '(') || decide (c = ')')) then
    .error "tool name must not contain whitespace or parentheses"
  else .ok ()

/-- The place of the parenthesis that closes the one before the text. -/
def matchingOuterParen (index depth : Nat) (quote : Option Char) (escaped : Bool) :
    List Char → Except String Nat
  | [] =>
    .error (if quote.isSome then "unterminated quoted matcher content"
      else "unbalanced parentheses")
  | c :: rest =>
    if escaped then matchingOuterParen (index + 1) depth quote false rest
    else if c = '\\' then matchingOuterParen (index + 1) depth quote true rest
    else if quote.isSome then
      matchingOuterParen (index + 1) depth (if quote = some c then none else quote) false rest
    else if c = '\x27' ∨ c = '\x22' ∨ c = '\x60' then
      matchingOuterParen (index + 1) depth (some c) false rest
    else if c = '(' then matchingOuterParen (index + 1) (depth + 1) none false rest
    else if c = ')' then
      if depth = 1 then .ok index else matchingOuterParen (index + 1) (depth - 1) none false rest
    else matchingOuterParen (index + 1) depth none false rest

namespace ParsedRule

def tryParse (rule : String) : Except String ParsedRule :=
  let trimmed := trim rule
  if trimmed.isEmpty then .error "rule must not be empty"
  else
    match trimmed.toList.findIdx? (fun c => decide (c = '(')) with
    | none => do
      validateToolName trimmed
      if ')' ∈ trimmed.toList then .error "unexpected ')' without a matching '('"
      else .ok { toolName := trimmed, pattern := none }
    | some openParen => do
      let toolName := trim (String.ofList (trimmed.toList.take openParen))
      validateToolName toolName
      let closeParen ← matchingOuterParen (openParen + 1) 1 none false
        (trimmed.toList.drop (openParen + 1))
      if closeParen + 1 ≠ trimmed.toList.length then
        .error "unexpected content after the closing ')'"
      else
        let pattern := trim (String.ofList
          ((trimmed.toList.take closeParen).drop (openParen + 1)))
        if pattern.isEmpty then .error "matcher inside parentheses must not be empty"
        else .ok { toolName, pattern := some pattern }

def parse (rule : String) : ParsedRule :=
  match tryParse rule with
  | .ok parsed => parsed
  | .error _ =>
    let trimmed := trim rule
    match trimmed.toList.findIdx? (fun c => decide (c = '(')) with
    | some openParen =>
      if trimmed.toList.getLast? = some ')' then
        { toolName := trim (String.ofList (trimmed.toList.take openParen)), pattern := none }
      else { toolName := trimmed, pattern := none }
    | none => { toolName := trimmed, pattern := none }

end ParsedRule

/- Tool calls. -/

def shellCommand (toolName : String) (args : Json) : Option String :=
  if eqIgnoreAsciiCase toolName "Bash" then (args.get "command").bind Json.asString
  else if eqIgnoreAsciiCase toolName "exec_command" then (args.get "cmd").bind Json.asString
  else none

/-- The argument that a pattern is held against. -/
def targetOf (toolName : String) (args : Json) : Option String :=
  let lower := String.ofList (toolName.toList.map Char.toLower)
  let text := fun key => (args.get key).bind Json.asString
  if lower ∈ ["bash", "exec_command"] then shellCommand toolName args
  else if lower ∈ ["write", "edit", "read", "apply_patch"] then text "file_path"
  else if lower = "webfetch" then text "url"
  else if lower = "notebookedit" then text "notebook_path"
  else if lower = "websearch" then text "query"
  else if lower = "js_repl" then text "code"
  else if lower ∈ ["bashoutput", "killshell"] then text "bash_id"
  else if lower = "write_stdin" then text "session_id"
  else if lower ∈ ["session_note", "memory"] then text "action"
  else none

def isPathTool (toolName : String) : Bool :=
  decide (String.ofList (toolName.toList.map Char.toLower) ∈
    ["write", "edit", "read", "apply_patch", "notebookedit"])

/-- A field is taken out by putting the last one in its place. -/
def removeField (fields : List (String × Json)) (key : String) : List (String × Json) :=
  ((fields.find? (fun field => decide (field.1 = key))).bind (swapRemove fields)).getD fields

def insertField (fields : List (String × Json)) (key : String) (value : Json) :
    List (String × Json) :=
  if fields.any (fun field => decide (field.1 = key)) then
    fields.map (fun field => if field.1 = key then (key, value) else field)
  else fields ++ [(key, value)]

/-- The arguments of a continuation as the older tools took them. -/
def projected (fields : List (String × Json)) (chars : String) : List (String × Json) :=
  let named :=
    match fields.lookup "session_id" with
    | some id => insertField (removeField fields "session_id") "bash_id" id
    | none => fields
  let short := ["chars", "yield_time_ms", "max_output_tokens"].foldl removeField named
  let open_ := if short.lookup "eof" = some (.bool false) then removeField short "eof" else short
  insertField (insertField open_ "input" (.string chars)) "append_newline" (.bool false)

def isShellTool (name : String) : Bool :=
  eqIgnoreAsciiCase name "Bash" || eqIgnoreAsciiCase name "exec_command"

section
variable (host : Host) (render : Json → String)

namespace ParsedRule

/-- A rule against a call of its own tool; JSON is rendered by the library that parses it. -/
def matchesNamed (rule : ParsedRule) (toolName : String) (args : Json) : Bool :=
  if !eqIgnoreAsciiCase rule.toolName toolName &&
      !(isShellTool rule.toolName && isShellTool toolName) then false
  else rule.pattern.all (fun pattern =>
    match targetOf toolName args with
    | some target =>
      if isPathTool toolName then
        let normalizedTarget :=
          if isAbsolute target then canonicalizePathForMatching host target
          else if !(target.toList.splitOnP (fun c => decide (c = '/') || decide (c = '\\'))).any
              (fun part => decide (part = "..".toList)) then some target
          else none
        (canonicalizePathPatternForMatching host pattern).any (fun pattern =>
          normalizedTarget.any (matchToolPattern pattern))
      else matchToolPattern pattern target
    | none => matchToolPattern pattern (render args))

/-- The older tool that a continuation is a call of. -/
def legacyName (rule : ParsedRule) (args : Json) (restrictive : Bool) : String :=
  let chars := ((args.get "chars").bind Json.asString).getD ""
  if restrictive && eqIgnoreAsciiCase rule.toolName "BashOutput" then "BashOutput"
  else if chars = "\x03" then "KillShell"
  else if chars ≠ "" ∨ args.get "eof" = some (.bool true) then "BashInput"
  else "BashOutput"

def matchesToolCallWithRestrictions (rule : ParsedRule) (toolName : String) (args : Json)
    (restrictive : Bool) : Bool :=
  let legacy := rule.legacyName args restrictive
  if eqIgnoreAsciiCase toolName "write_stdin" && eqIgnoreAsciiCase rule.toolName legacy then
    args.asObject.any (fun fields =>
      let chars := ((args.get "chars").bind Json.asString).getD ""
      -- None of the older names is a continuation again.
      rule.matchesNamed host render legacy (.object (projected fields chars)))
  else rule.matchesNamed host render toolName args

def matchesToolCall (rule : ParsedRule) (toolName : String) (args : Json) : Bool :=
  rule.matchesToolCallWithRestrictions host render toolName args true

def matchesToolCallForAllow (rule : ParsedRule) (toolName : String) (args : Json) : Bool :=
  if eqIgnoreAsciiCase rule.toolName "exec_command" && eqIgnoreAsciiCase toolName "Bash" then false
  else rule.matchesToolCallWithRestrictions host render toolName args false

end ParsedRule

/-- The rules over tool calls of one configuration source. -/
structure PermissionRuleSet where
  parsedAllow : List ParsedRule
  parsedDeny : List ParsedRule

def PermissionRuleSet.fromRules (allowed denied : List String) : PermissionRuleSet :=
  { parsedAllow := allowed.map ParsedRule.parse, parsedDeny := denied.map ParsedRule.parse }

def PermissionRuleSet.matchToolCall (rules : PermissionRuleSet) (toolName : String)
    (args : Json) : Option Bool :=
  if rules.parsedDeny.any (fun rule => rule.matchesToolCall host render toolName args) then
    some false
  else if rules.parsedAllow.any (fun rule =>
      rule.matchesToolCallForAllow host render toolName args) then some true
  else none

variable {rule : ParsedRule} {toolName : String} {args : Json}

/-- Only a rule for output reads a continuation differently when it restricts. -/
theorem legacyName_restrictive (other : eqIgnoreAsciiCase rule.toolName "BashOutput" = false)
    (restrictive : Bool) : rule.legacyName args restrictive = rule.legacyName args false := by
  rw [ParsedRule.legacyName, ParsedRule.legacyName, other, Bool.and_false, Bool.and_false]

theorem legacyName_of_output (output : eqIgnoreAsciiCase rule.toolName "BashOutput" = true)
    (named : eqIgnoreAsciiCase rule.toolName (rule.legacyName args false) = true) :
    rule.legacyName args false = "BashOutput" := by
  have names : rule.legacyName args false = "KillShell" ∨
      rule.legacyName args false = "BashInput" ∨ rule.legacyName args false = "BashOutput" := by
    unfold ParsedRule.legacyName
    dsimp only
    rw [Bool.false_and, if_neg Bool.false_ne_true]
    split
    · exact .inl rfl
    · split
      · exact .inr (.inl rfl)
      · exact .inr (.inr rfl)
  rw [eqIgnoreAsciiCase, eq_of_beq output] at named
  rcases names with same | same | same
  · rw [same] at named
    exact absurd named (by decide)
  · rw [same] at named
    exact absurd named (by decide)
  · exact same

theorem matchesNamed_continuation (output : eqIgnoreAsciiCase rule.toolName "BashOutput" = true)
    (continues : eqIgnoreAsciiCase toolName "write_stdin" = true) :
    rule.matchesNamed host render toolName args = false := by
  have lower := eq_of_beq output
  have lower' := eq_of_beq continues
  rw [ParsedRule.matchesNamed, if_pos]
  simp only [isShellTool, eqIgnoreAsciiCase, lower, lower']
  decide

theorem matchesToolCall_of_allow
    (allows : rule.matchesToolCallForAllow host render toolName args = true) :
    rule.matchesToolCall host render toolName args = true := by
  unfold ParsedRule.matchesToolCallForAllow at allows
  split at allows
  · cases allows
  · unfold ParsedRule.matchesToolCall
    by_cases output : eqIgnoreAsciiCase rule.toolName "BashOutput" = true
    · unfold ParsedRule.matchesToolCallWithRestrictions at allows ⊢
      have restricted : rule.legacyName args true = "BashOutput" := by
        rw [ParsedRule.legacyName, output]
        rfl
      dsimp only at allows ⊢
      rw [restricted, output]
      cases continues : eqIgnoreAsciiCase toolName "write_stdin" with
      | false =>
        rw [continues] at allows
        exact allows
      | true =>
        rw [continues] at allows
        split at allows
        · rename_i named
          rw [legacyName_of_output output named] at allows
          exact allows
        · rw [matchesNamed_continuation host render output continues] at allows
          cases allows
    · unfold ParsedRule.matchesToolCallWithRestrictions at allows ⊢
      rw [legacyName_restrictive (eq_false_iff.2 output)]
      exact allows

end

/-- What a rule matches as an allow it matches as a restriction, so that a text among the denies
    allows nothing. -/
theorem allow_within_restrictive (host : Host) (render : Json → String) :
    (∀ text toolName args,
      (ParsedRule.parse text).matchesToolCallForAllow host render toolName args = true →
      (ParsedRule.parse text).matchesToolCall host render toolName args = true) ∧
    ∀ allowed denied, (∀ text ∈ allowed, text ∈ denied) → ∀ toolName args,
      (PermissionRuleSet.fromRules allowed denied).matchToolCall host render toolName args ≠
        some true := by
  refine ⟨fun _ _ _ => matchesToolCall_of_allow host render, ?_⟩
  intro allowed denied within toolName args
  unfold PermissionRuleSet.matchToolCall
  split
  · simp
  · rename_i undenied
    rw [if_neg]
    · simp
    · intro found
      simp only [PermissionRuleSet.fromRules, List.any_map, List.any_eq_true,
        Function.comp_apply] at found undenied
      obtain ⟨text, member, allows⟩ := found
      exact undenied ⟨text, within text member, matchesToolCall_of_allow host render allows⟩

end Permissions
