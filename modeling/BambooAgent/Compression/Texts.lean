import BambooAgent.Compression.Messages

/- The text operations behind the excerpts: counting, trimming and cutting by characters
   and by lines. -/
namespace Compression

/-- Unicode White_Space, which `str::trim` removes. -/
def isWhitespace (c : Char) : Bool :=
  let code := c.toNat
  (9 ≤ code && code ≤ 13) || code == 0x20 || code == 0x85 || code == 0xA0 || code == 0x1680 ||
    (0x2000 ≤ code && code ≤ 0x200A) || code == 0x2028 || code == 0x2029 || code == 0x202F ||
    code == 0x205F || code == 0x3000

def trim (text : String) : String :=
  let front := text.toList.dropWhile isWhitespace
  String.ofList (front.reverse.dropWhile isWhitespace).reverse

def charCount (text : String) : Nat := text.toList.length

def stripCarriageReturn (line : List Char) : List Char :=
  if line.getLast? = some '\r' then line.dropLast else line

/-- `str::lines`: a line ends at a line feed, or at a carriage return and a line feed; the
    text after the last one is a line unless it is empty. -/
def lines (text : String) : List String :=
  let pieces := text.toList.splitOn '\n'
  let ended := pieces.dropLast.map stripCarriageReturn
  let unended := (pieces.getLast?.getD [])
  (if unended.isEmpty then ended else ended ++ [unended]).map String.ofList

def takeFirstChars (value : String) (maxChars : Nat) : String :=
  String.ofList (value.toList.take maxChars)

def takeLastChars (value : String) (maxChars : Nat) : String :=
  String.ofList (value.toList.reverse.take maxChars).reverse

def containsText (text pattern : String) : Bool :=
  text.toList.tails.any (fun rest => pattern.toList.isPrefixOf rest)

def semanticPatterns : List String :=
  ["error", "warning", "fail", "panic", "exception", "timeout", "not found",
    "permission denied", "conflict", "src/", "crates/", ".rs:", ".ts:", ".js:", ".toml:",
    "file:", "path:"]

/-- The loop of `extract_semantic_lines`: lines seen so far and the text built from them.
    The patterns are ASCII, so ASCII lowering finds the lines that full lowering finds. -/
def semanticLines (maxChars : Nat) : List String → List String → String → String
  | [], _, result => result
  | line :: rest, seen, result =>
    let lower := String.ofList (line.toList.map Char.toLower)
    if !semanticPatterns.any (containsText lower) || (trim line).isEmpty then
      semanticLines maxChars rest seen result
    else if trim line ∈ seen then semanticLines maxChars rest seen result
    else
      let grown := (if result.isEmpty then result else result ++ "\n") ++ trim line
      if maxChars ≤ charCount grown then grown
      else semanticLines maxChars rest (trim line :: seen) grown

def extractSemanticLines (content : String) (maxChars : Nat) : String :=
  semanticLines maxChars (lines content) [] ""

def promptCacheMaxExcerptChars : Nat := 20000

def buildCachedToolOutputSummary (toolName content : String) (headChars tailChars : Nat) :
    String :=
  let lineCount := (lines content).length
  let chars := charCount content
  let head := takeFirstChars content
    (min (max (chars / 50) headChars) promptCacheMaxExcerptChars)
  let tail := takeLastChars content
    (min (max (chars / 100) tailChars) promptCacheMaxExcerptChars)
  let semanticSection :=
    if 5000 < chars then
      let excerpt := extractSemanticLines content 300
      if excerpt.isEmpty then "" else "semantic_excerpt:\n" ++ excerpt ++ "\n"
    else ""
  "[cached_tool_output]\ntool: " ++ toolName ++ "\noriginal_chars: " ++ toString chars ++
    "\noriginal_lines: " ++ toString lineCount ++ "\nhead_excerpt:\n" ++ head ++ "\n" ++
    semanticSection ++ "tail_excerpt:\n" ++ tail ++
    "\nnote: Full output remains in session history and UI; this compact summary is used for context efficiency."

/-- The text that replaces an old analysis. -/
def compactedAnalysis (content : String) : String :=
  "[compacted_assistant_analysis]\noriginal_chars: " ++ toString (charCount content) ++
    "\nhead_excerpt:\n" ++ takeFirstChars content 400 ++ "\n[... analysis compacted ...]\n" ++
    "tail_excerpt:\n" ++ takeLastChars content 200 ++
    "\nnote: Full analysis remains in session history. This compact summary is for context efficiency."

def compressionSummaryContent (summary : String) : String :=
  "<!-- CONVERSATION_SUMMARY_START -->\n## Previous Conversation Summary\n" ++
    "The following is compressed historical context for continuity only.\n" ++
    "It is background memory, not a new user request. Follow the current task list and recent messages over this summary when they conflict.\n\n" ++
    summary ++ "\n<!-- CONVERSATION_SUMMARY_END -->"

example : lines "a\r\nb\n" = ["a", "b"] := by decide

example : trim " \t a b\n" = "a b" := by decide

end Compression
