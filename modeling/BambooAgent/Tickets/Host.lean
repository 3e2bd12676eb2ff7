import BambooAgent.Tickets.Model

/- Results, texts and paths, and what a Ticket scope takes from outside itself:
   JSON and hashing from its libraries, files and directories from the system. -/
namespace Tickets
open SortedMaps List

/-- How a call can fail to produce a value: it returns an error, it reaches an `expect`
    or a missing map index, or one of its loops never ends. -/
inductive Failure where
  | err (error : Error)
  | panic (site : String)
  | diverges
  deriving DecidableEq

abbrev Result (α : Type) := Except Failure α

def invalid (reason : String) : Error := .invalidTransition reason

def fail {α : Type} (error : Error) : Result α := .error (.err error)

def rejectIf (condition : Prop) [Decidable condition] (error : Error) : Result Unit :=
  if condition then fail error else .ok ()

def orElseErr {α : Type} (value : Option α) (error : Error) : Result α :=
  match value with
  | some a => .ok a
  | none => fail error

def expect {α : Type} (value : Option α) (site : String) : Result α :=
  match value with
  | some a => .ok a
  | none => .error (.panic site)

/-- A call returns when it gives a value or an error. -/
def Returns {α : Type} : Result α → Prop
  | .ok _ => True
  | .error (.err _) => True
  | .error (.panic _) => False
  | .error .diverges => False

instance {α : Type} (r : Result α) : Decidable (Returns r) :=
  match r with
  | .ok _ => isTrue trivial
  | .error (.err _) => isTrue trivial
  | .error (.panic _) => isFalse id
  | .error .diverges => isFalse id

section Results
variable {α β : Type}

@[simp] theorem bind_eq_ok {f : α → Result β} :
    (x >>= f) = .ok b ↔ ∃ a, x = .ok a ∧ f a = .ok b := by
  cases x with
  | error e => exact ⟨fun h => (nomatch h), fun ⟨_, h, _⟩ => (nomatch h)⟩
  | ok a => exact ⟨fun h => ⟨a, rfl, h⟩, fun ⟨_, h, run⟩ => by cases h; exact run⟩

@[simp] theorem pure_eq_ok : (pure a : Result α) = .ok b ↔ a = b := by
  exact ⟨fun h => by cases h; rfl, fun h => by subst h; rfl⟩

@[simp] theorem map_eq_ok {x : Result α} {b : β} :
    (f <$> x) = .ok b ↔ ∃ a, x = .ok a ∧ f a = b := by
  cases x with
  | error e => exact ⟨fun h => (nomatch h), fun ⟨_, h, _⟩ => (nomatch h)⟩
  | ok a =>
    constructor
    · intro h
      exact ⟨a, rfl, by cases h; rfl⟩
    · rintro ⟨_, h, same⟩
      cases h
      rw [← same]
      rfl

@[simp] theorem fail_ne_ok : (fail error : Result α) ≠ .ok a := by
  simp [fail]

@[simp] theorem rejectIf_eq_ok [Decidable condition] {error : Error}
    {u : Unit} : rejectIf condition error = .ok u ↔ ¬ condition := by
  unfold rejectIf
  split <;> simp_all

@[simp] theorem orElseErr_eq_ok : orElseErr value error = .ok a ↔ value = some a := by
  cases value <;> simp [orElseErr]

@[simp] theorem expect_eq_ok : expect value site = .ok a ↔ value = some a := by
  cases value <;> simp [expect]

@[simp] theorem returns_ok (a : α) : Returns (.ok a : Result α) := trivial

@[simp] theorem returns_pure (a : α) : Returns (pure a : Result α) := trivial

@[simp] theorem returns_fail (error : Error) : Returns (fail error : Result α) := trivial

@[simp] theorem returns_bind {f : α → Result β} :
    Returns (x >>= f) ↔ Returns x ∧ ∀ a, x = .ok a → Returns (f a) := by
  cases x with
  | error e =>
    constructor
    · intro stopped
      exact ⟨by cases e <;> exact stopped, fun _ run => nomatch run⟩
    · intro both
      have stopped := both.1
      cases e <;> exact stopped
  | ok a =>
    constructor
    · intro rest
      exact ⟨trivial, fun _ run => by cases run; exact rest⟩
    · intro both
      exact both.2 a rfl

@[simp] theorem returns_map {f : α → β} : Returns (f <$> x) ↔ Returns x := by
  cases x with
  | error e => cases e <;> exact Iff.rfl
  | ok a => exact Iff.rfl

@[simp] theorem returns_rejectIf (condition : Prop) [Decidable condition] (error : Error) :
    Returns (rejectIf condition error) := by
  unfold rejectIf
  split <;> trivial

@[simp] theorem returns_orElseErr (value : Option α) (error : Error) :
    Returns (orElseErr value error) := by
  cases value <;> trivial

@[simp] theorem returns_expect {value : Option α} :
    Returns (expect value site) ↔ ∃ a, value = some a := by
  cases value with
  | none =>
    constructor
    · intro stopped
      exact stopped.elim
    · intro ⟨_, found⟩
      cases found
  | some a => exact ⟨fun _ => ⟨a, rfl⟩, fun _ => trivial⟩

end Results

/-- A loop that runs one check on every item and stops at the first refusal. -/
def each {α : Type} (items : List α) (check : α → Result Unit) : Result Unit :=
  match items with
  | [] => .ok ()
  | item :: rest => do
      check item
      each rest check

section Loops
variable {α σ : Type}

theorem each_eq_ok {check : α → Result Unit} :
    each items check = .ok u ↔ ∀ item ∈ items, check item = .ok () := by
  induction items with
  | nil => simp [each]
  | cons item rest ih =>
    simp only [each, bind_eq_ok, ih, mem_cons, forall_eq_or_imp]
    constructor
    · intro ⟨_, first, later⟩
      exact ⟨first, later⟩
    · intro ⟨first, later⟩
      exact ⟨(), first, later⟩

theorem returns_each (one : ∀ item ∈ items, Returns (check item)) :
    Returns (each items check) := by
  induction items with
  | nil => trivial
  | cons item rest ih =>
    simp only [each, returns_bind]
    constructor
    · exact one item (by simp)
    · intro _ _
      exact ih (fun later member => one later (mem_cons_of_mem _ member))

theorem returns_foldlM {items : List α} {state : σ}
    (one : ∀ state, ∀ item ∈ items, Returns (step state item)) :
    Returns (items.foldlM step state) := by
  induction items generalizing state with
  | nil => trivial
  | cons item rest ih =>
    simp only [foldlM_cons, returns_bind]
    constructor
    · exact one state item (by simp)
    · intro next _
      exact ih (fun state later member => one state later (mem_cons_of_mem _ member))

theorem returns_mapM {items : List α} (one : ∀ item ∈ items, Returns (f item)) :
    Returns (items.mapM f) := by
  induction items with
  | nil => trivial
  | cons item rest ih =>
    simp only [mapM_cons, returns_bind, returns_pure, implies_true, and_true]
    constructor
    · exact one item (by simp)
    · intro _ _
      exact ih (fun later member => one later (mem_cons_of_mem _ member))

theorem returns_foldlM_iff {items : List α} {state : σ} :
    Returns (items.foldlM step state) ↔ ∀ before item rest mid, items = before ++ item :: rest →
      before.foldlM step state = .ok mid → Returns (step mid item) := by
  induction items generalizing state with
  | nil =>
    constructor
    · intro _ before item rest mid whole
      simp at whole
    · intro _
      trivial
  | cons first items ih =>
    simp only [foldlM_cons, returns_bind]
    constructor
    · intro ⟨one, later⟩ before item rest mid whole sofar
      cases before with
      | nil =>
        cases sofar
        cases whole
        exact one
      | cons head before =>
        simp only [cons_append, List.cons.injEq] at whole
        obtain ⟨same, tail⟩ := whole
        subst same
        rw [foldlM_cons, bind_eq_ok] at sofar
        obtain ⟨next, moved, sofar⟩ := sofar
        exact ih.1 (later next moved) before item rest mid tail sofar
    · intro every
      constructor
      · exact every [] first items state rfl rfl
      · intro next moved
        refine ih.2 (fun before item rest mid whole sofar => ?_)
        refine every (first :: before) item rest mid ?_ ?_
        · rw [whole]
          rfl
        · rw [foldlM_cons, bind_eq_ok]
          exact ⟨next, moved, sofar⟩

end Loops

/-- Addition on 64-bit counters that reports overflow. -/
def checkedAdd (a b : Nat) : Option Nat := if a + b < 2 ^ 64 then some (a + b) else none

/-- Unicode White_Space, the class `str::trim` removes. -/
def isWhiteSpace (c : Char) : Bool :=
  let n := c.toNat
  (9 ≤ n && n ≤ 13) || n == 0x20 || n == 0x85 || n == 0xA0 || n == 0x1680 ||
    (0x2000 ≤ n && n ≤ 0x200A) || n == 0x2028 || n == 0x2029 || n == 0x202F ||
    n == 0x205F || n == 0x3000

def trimIsEmpty (text : String) : Bool := text.toList.all isWhiteSpace

def startsWith (text start : String) : Bool := start.toList.isPrefixOf text.toList

def isAsciiHexdigit (c : Char) : Bool :=
  c.isDigit || ('a' ≤ c && c ≤ 'f') || ('A' ≤ c && c ≤ 'F')

def allHexdigits (text : String) : Bool := text.toList.all isAsciiHexdigit

/-- Sixty-four lowercase hexadecimal digits. -/
def validHash (hash : String) : Bool :=
  hash.utf8ByteSize == 64 && hash.toList.all (fun c => c.isDigit || ('a' ≤ c && c ≤ 'f'))

/-- Does `part` occur in `text` as a run of characters? -/
def containsText (text part : String) : Bool :=
  text.toList.tails.any (fun tail => part.toList.isPrefixOf tail)

inductive PathComponent where
  | rootDir
  | curDir
  | parentDir
  | normal (name : String)
  deriving DecidableEq

def splitSlash : List Char → List (List Char)
  | [] => [[]]
  | c :: rest =>
      if c = '/' then [] :: splitSlash rest
      else match splitSlash rest with
        | [] => [[c]]
        | part :: parts => (c :: part) :: parts

def pathComponent (part : List Char) : PathComponent :=
  if part = ['.', '.'] then .parentDir else .normal (String.ofList part)

def isAbsolute (path : String) : Bool := path.toList.head? == some '/'

/-- Unix path components: repeated slashes and inner dots vanish, a leading dot stays. -/
def pathComponents (path : String) : List PathComponent :=
  let parts := (splitSlash path.toList).filter (fun part => !part.isEmpty)
  let named := (parts.filter (fun part => part != ['.'])).map pathComponent
  if isAbsolute path then .rootDir :: named
  else if parts.head? = some ['.'] then .curDir :: named
  else named

/-- `Path::starts_with` compares whole components. -/
def pathStartsWith (path base : String) : Bool :=
  (pathComponents base).isPrefixOf (pathComponents path)

/-- Canonical JSON, its hash, and the two parsers applied to stored texts. -/
structure Codec where
  canonicalBytes : Serializable → String
  contentHash : String → String
  parseFileOperation : String → Option FileOperation
  parseRfc3339 : String → Option Int

def Codec.hash (codec : Codec) (value : Serializable) : String :=
  codec.contentHash (codec.canonicalBytes value)

def Codec.size (codec : Codec) (value : Serializable) : Nat :=
  (codec.canonicalBytes value).utf8ByteSize

/-- The system as one call sees it. `readArtifact` gives the length of the stored bytes
    and their text when they are UTF-8; `observedHash` hashes a file below a root. -/
structure Files where
  root : String
  canonicalize : String → Option String
  isDir : String → Bool
  readArtifact : Artifact → Nat → Except Error (Nat × Option String)
  observedHash : String → String → Except Error (Option String)

def fromSystem {α : Type} : Except Error α → Result α
  | .ok a => .ok a
  | .error e => fail e

end Tickets
