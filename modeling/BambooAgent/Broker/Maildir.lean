import BambooAgent.Broker.Messages
import Mathlib.Data.String.Basic
import Mathlib.Logic.Function.Basic

/- The directories of a mailbox, one file a message, and the single steps that the file system takes
   on them. -/
namespace Brokers

inductive Place where
  | new | cur | corrupt
  deriving DecidableEq, Repr

/-- A directory that there may not be, as the messages in it; each is in the file of its name. -/
abbrev Folder := Option (List InboxMessage)

/-- `temps` are the hidden files in `new`, each by the delivery that writes it. -/
structure Maildir where
  folder : Place → Folder
  temps : List Nat

namespace Maildir

def empty : Maildir := ⟨fun _ => none, []⟩

def files (maildir : Maildir) (place : Place) : List InboxMessage := (maildir.folder place).getD []

def setFolder (maildir : Maildir) (place : Place) (folder : Folder) : Maildir :=
  { maildir with folder := Function.update maildir.folder place folder }

def ensureDir (maildir : Maildir) (place : Place) : Maildir :=
  maildir.setFolder place (some (maildir.files place))

def sortedJsonNames (maildir : Maildir) (place : Place) : List String :=
  ((maildir.files place).map (·.fileName)).mergeSort (fun a b => decide (a ≤ b))

def find (maildir : Maildir) (place : Place) (name : String) : Option InboxMessage :=
  (maildir.files place).find? (fun message => decide (message.fileName = name))

/-- What of a directory has another name. -/
def without (name : String) (messages : List InboxMessage) : List InboxMessage :=
  messages.filter (fun message => decide (message.fileName ≠ name))

/-- Is there the directory that a temporary file is written in? -/
def createTemp (maildir : Maildir) (delivery : Nat) : Option Maildir :=
  if (maildir.folder .new).isSome then some { maildir with temps := delivery :: maildir.temps }
  else none

/-- The rename of a temporary file to the name of its message, over a file that has it. -/
def publish (maildir : Maildir) (delivery : Nat) (message : InboxMessage) : Option Maildir :=
  if (maildir.folder .new).isSome ∧ delivery ∈ maildir.temps then
    let arrived := maildir.setFolder .new
      (some (message :: without message.fileName (maildir.files .new)))
    some { arrived with temps := arrived.temps.filter (fun temp => decide (temp ≠ delivery)) }
  else none

def rename (maildir : Maildir) (source dest : Place) (name : String) : Option Maildir :=
  match maildir.find source name, maildir.folder dest with
  | some message, some there =>
    some ((maildir.setFolder source (some (without name (maildir.files source)))).setFolder dest
      (some (message :: without name there)))
  | _, _ => none

def claim (maildir : Maildir) (name : String) : Option Maildir := maildir.rename .new .cur name

/-- Whether the rename goes through is not looked at. -/
def quarantine (maildir : Maildir) (name : String) : Maildir :=
  (maildir.rename .cur .corrupt name).getD maildir

def removeFile (maildir : Maildir) (place : Place) (name : String) : Maildir :=
  maildir.setFolder place ((maildir.folder place).map (without name))

/-- Only an empty directory goes. -/
def removeDir (maildir : Maildir) (place : Place) : Maildir :=
  if maildir.files place = [] ∧ (place = .new → maildir.temps = []) then
    maildir.setFolder place none
  else maildir

def hasMessage (maildir : Maildir) (place : Place) : Bool := maildir.files place ≠ []

variable {maildir after : Maildir} {place source dest : Place} {name : String}
  {message other : InboxMessage} {delivery : Nat} {folder : Folder}

variable {there : Place}

theorem folder_setFolder :
    (maildir.setFolder place folder).folder there =
      if there = place then folder else maildir.folder there := by
  exact Function.update_apply _ _ _ _

theorem files_setFolder :
    (maildir.setFolder place folder).files there =
      if there = place then folder.getD [] else maildir.files there := by
  unfold files
  rw [folder_setFolder]
  split <;> rfl

theorem mem_without :
    message ∈ without name messages ↔ message ∈ messages ∧ message.fileName ≠ name := by
  unfold without
  rw [List.mem_filter, decide_eq_true_eq]

@[simp] theorem files_ensureDir : (maildir.ensureDir place).files there = maildir.files there := by
  unfold ensureDir
  rw [files_setFolder]
  split
  · subst_vars
    rfl
  · rfl

@[simp] theorem mem_sortedJsonNames :
    name ∈ maildir.sortedJsonNames place ↔ ∃ message ∈ maildir.files place,
      message.fileName = name := by
  unfold sortedJsonNames
  rw [List.mem_mergeSort, List.mem_map]

theorem find_eq_some (found : maildir.find place name = some message) :
    message ∈ maildir.files place ∧ message.fileName = name := by
  exact ⟨List.mem_of_find?_eq_some found, by simpa using List.find?_some found⟩

theorem find_eq_none :
    maildir.find place name = none ↔ ∀ message ∈ maildir.files place, message.fileName ≠ name := by
  unfold find
  simp

theorem createTemp_files (created : maildir.createTemp delivery = some after) :
    after.folder = maildir.folder := by
  unfold createTemp at created
  split at created
  · cases created
    rfl
  · cases created

theorem mem_publish (published : maildir.publish delivery message = some after) {there : Place} :
    other ∈ after.files there ↔ (there = .new ∧ other = message) ∨
      (other ∈ maildir.files there ∧ ¬(there = .new ∧ other.fileName = message.fileName)) := by
  unfold publish at published
  split at published
  · cases published
    change other ∈ (maildir.setFolder .new _).files there ↔ _
    rw [files_setFolder]
    split
    · rename_i same
      subst same
      simp only [Option.getD_some, List.mem_cons, mem_without, true_and]
    · rename_i different
      simp only [different, false_and, false_or, not_false_eq_true, and_true]
  · cases published

theorem publish_folder (published : maildir.publish delivery message = some after)
    (made : (maildir.folder there).isSome = true) : (after.folder there).isSome = true := by
  unfold publish at published
  split at published
  · cases published
    rw [folder_setFolder]
    split
    · rfl
    · exact made
  · cases published

theorem rename_eq_some : maildir.rename source dest name = some after ↔
    ∃ message there, maildir.find source name = some message ∧ maildir.folder dest = some there ∧
      (maildir.setFolder source (some (without name (maildir.files source)))).setFolder dest
        (some (message :: without name there)) = after := by
  unfold rename
  split
  · rename_i message there found made
    simp [found, made]
  · rename_i none_
    constructor
    · intro impossible
      cases impossible
    · rintro ⟨message, there, found, made, _⟩
      exact absurd made (none_ message there found)

theorem rename_eq_none : maildir.rename source dest name = none ↔
    maildir.find source name = none ∨ maildir.folder dest = none := by
  unfold rename
  split
  · rename_i found made
    simp [found, made]
  · rename_i none_
    constructor
    · intro _
      cases found : maildir.find source name with
      | none => exact .inl rfl
      | some message =>
        cases made : maildir.folder dest with
        | none => exact .inr rfl
        | some there => exact absurd made (none_ message there found)
    · exact fun _ => rfl

theorem mem_rename (different : source ≠ dest)
    (found : maildir.find source name = some message)
    (renamed : maildir.rename source dest name = some after) {there : Place} :
    other ∈ after.files there ↔ (there = dest ∧ other = message) ∨
      (other ∈ maildir.files there ∧
        ¬(other.fileName = name ∧ (there = source ∨ there = dest))) := by
  obtain ⟨moved, there', found', made, rfl⟩ := rename_eq_some.1 renamed
  rw [found] at found'
  cases found'
  rw [files_setFolder]
  split
  · rename_i same
    subst same
    have held : maildir.files there = there' := by
      unfold files
      rw [made]
      rfl
    simp only [Option.getD_some, List.mem_cons, mem_without, true_and, held, or_true, and_true]
  · rename_i elsewhere
    rw [files_setFolder]
    split
    · rename_i same
      subst same
      simp only [Option.getD_some, mem_without, elsewhere, false_and, false_or, true_or, and_true]
    · rename_i third
      simp only [elsewhere, third, false_and, false_or, or_self, and_false, not_false_eq_true,
        and_true]

theorem rename_folder (renamed : maildir.rename source dest name = some after)
    (made : (maildir.folder there).isSome = true) : (after.folder there).isSome = true := by
  obtain ⟨moved, there', found', _, rfl⟩ := rename_eq_some.1 renamed
  rw [folder_setFolder, folder_setFolder]
  split
  · rfl
  · split
    · rfl
    · exact made

theorem mem_removeFile :
    other ∈ (maildir.removeFile place name).files there ↔
      other ∈ maildir.files there ∧ ¬(there = place ∧ other.fileName = name) := by
  unfold removeFile
  rw [files_setFolder]
  split
  · rename_i same
    subst same
    unfold files
    cases maildir.folder there with
    | none => simp
    | some held => simp [mem_without]
  · rename_i different
    simp [different]

theorem files_removeDir : (maildir.removeDir place).files there = maildir.files there := by
  unfold removeDir
  split
  · rename_i empty
    rw [files_setFolder]
    split
    · rename_i same
      subst same
      exact empty.1.symm
    · rfl
  · rfl

@[simp] theorem hasMessage_eq_false :
    maildir.hasMessage place = false ↔ maildir.files place = [] := by
  simp [hasMessage]

end Maildir

end Brokers
