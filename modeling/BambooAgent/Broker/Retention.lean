import BambooAgent.Broker.Steps

/- What becomes of a delivered message while empty mailboxes are swept away. -/
namespace Brokers
open Maildir Interleavings World

/-- The sweep has found `new` empty for the second time, and its removal is not over. -/
def Task.pastRescan : Task → Bool
  | .sweeping .rescanCur | .sweeping .removing => true
  | _ => false

/-- A step that leaves a sweep nothing to lose: no message is published between the last look of a
    sweep into `new` and the end of its removal, nor under a name that is still in the mailbox;
    nothing is in `corrupt` when a removal begins; and an acknowledged file is of the acknowledged
    message. -/
def Spares (world : World) : Act → Prop
  | .proceed place _ =>
    match world.tasks[place]?.join with
    | some (.publishing message) =>
      (∀ task ∈ world.tasks, task.all (fun task => !task.pastRescan)) ∧
      ∀ dir, ∀ other ∈ world.maildir.files dir, other.fileName ≠ message.fileName
    | some (.sweeping .rescanCur) =>
      world.maildir.hasMessage .cur = false → world.maildir.files .corrupt = []
    | some (.removing id name) =>
      ∀ message ∈ world.maildir.files .cur, message.fileName = name → message.id = id
    | _ => True
  | _ => True

/-- No operation is in progress, the files have different names, and what is owed is there. -/
structure AtRest (world : World) : Prop where
  quiescent : Quiescent world
  apart : ∀ first second, ∀ message ∈ world.maildir.files first,
    ∀ other ∈ world.maildir.files second, message.fileName = other.fileName →
      first = second ∧ message = other
  kept : ∀ message ∈ world.owed, ∃ dir, message ∈ world.maildir.files dir

def SweepSafe (maildir : Maildir) : Task → Prop
  | .sweeping .rescanCur => maildir.files .new = []
  | .sweeping .removing => ∀ dir, maildir.files dir = []
  | _ => True

def Apart (maildir : Maildir) : Prop :=
  ∀ first second, ∀ message ∈ maildir.files first, ∀ other ∈ maildir.files second,
    message.fileName = other.fileName → first = second ∧ message = other

structure Retained (world : World) : Prop where
  apart : Apart world.maildir
  kept : ∀ message ∈ world.owed, ∃ dir, message ∈ world.maildir.files dir
  sweeps : Every (SweepSafe world.maildir) world.tasks

section Kept
variable {place : Nat} {maildir : Maildir}

theorem retained_files (retained : Retained world)
    (same : ∀ dir, world'.maildir.files dir = world.maildir.files dir)
    (owed : world'.owed = world.owed) (tasks : world'.tasks = world.tasks.set place next)
    (safe : ∀ task, next = some task → SweepSafe world.maildir task) : Retained world' where
  apart := by
    intro first second message member other member'
    rw [same] at member member'
    exact retained.apart first second message member other member'
  kept := by
    rw [owed]
    intro message member
    obtain ⟨dir, there⟩ := retained.kept message member
    exact ⟨dir, by rw [same]; exact there⟩
  sweeps := by
    rw [tasks]
    have still : ∀ task, SweepSafe world.maildir task → SweepSafe world'.maildir task := by
      intro task
      unfold SweepSafe
      split <;> simp only [same, imp_self]
    exact every_set retained.sweeps still (fun task found => still task (safe task found))

theorem retained_turn (retained : Retained world)
    (safe : ∀ task, next = some task → SweepSafe world.maildir task) :
    Retained (world.turn place next) :=
  retained_files retained (fun _ => rfl) rfl rfl safe

theorem sweepSafe_early (early : task.pastRescan = false) : SweepSafe maildir task := by
  cases task with
  | sweeping sweep =>
    cases sweep with
    | rescanCur => cases early
    | removing => cases early
    | _ => trivial
  | _ => trivial

section
variable (retained : Retained world)
include retained

theorem retained_removeFile (maildir : world'.maildir = world.maildir.removeFile dir name)
    (tasks : world'.tasks = world.tasks) (owed : ∀ message ∈ world'.owed, message ∈ world.owed)
    (settled : ∀ message ∈ world.maildir.files dir, message.fileName = name →
      message ∉ world'.owed) : Retained world' where
  apart := by
    rw [maildir]
    intro first second message member other member'
    exact retained.apart first second message (mem_removeFile.1 member).1 other
      (mem_removeFile.1 member').1
  kept := by
    intro message member
    obtain ⟨there, held⟩ := retained.kept message (owed message member)
    refine ⟨there, ?_⟩
    rw [maildir, mem_removeFile]
    refine ⟨held, ?_⟩
    rintro ⟨same, named⟩
    subst same
    exact settled message held named member
  sweeps := by
    rw [maildir, tasks]
    have shrinks : ∀ there, world.maildir.files there = [] →
        (world.maildir.removeFile dir name).files there = [] := by
      intro there empty
      rw [List.eq_nil_iff_forall_not_mem]
      intro message member
      rw [mem_removeFile, empty] at member
      exact absurd member.1 (List.not_mem_nil)
    intro at_ task found
    have safe := retained.sweeps at_ task found
    revert safe
    unfold SweepSafe
    split
    · exact shrinks _
    · exact fun empty there => shrinks there (empty there)
    · exact fun _ => trivial

theorem retained_rename (different : source ≠ dest)
    (renamed : world.maildir.rename source dest name = some after)
    (goes : ∀ task, SweepSafe world.maildir task → task.pastRescan = true →
      world.maildir.files source = [] ∨ (source = .cur ∧ dest = .corrupt ∧
        task = .sweeping .rescanCur)) : Retained (world.onDisk after) := by
  obtain ⟨message, there, found, _, _⟩ := rename_eq_some.1 renamed
  have held := find_eq_some found
  have moved := fun {other : InboxMessage} {there : Place} =>
    @mem_rename world.maildir after source dest name message other different found renamed there
  constructor
  · intro first second one member other member' same
    rw [onDisk_maildir] at member member'
    rw [moved] at member member'
    rcases member with ⟨rfl, rfl⟩ | ⟨member, stays⟩
    · rcases member' with ⟨rfl, rfl⟩ | ⟨member', stays'⟩
      · exact ⟨rfl, rfl⟩
      · obtain ⟨rfl, rfl⟩ := retained.apart _ _ one held.1 other member' same
        exact absurd ⟨held.2, .inl rfl⟩ stays'
    · rcases member' with ⟨rfl, rfl⟩ | ⟨member', stays'⟩
      · obtain ⟨rfl, rfl⟩ := retained.apart _ _ one member other held.1 same
        exact absurd ⟨held.2, .inl rfl⟩ stays
      · exact retained.apart _ _ one member other member' same
  · intro one member
    obtain ⟨dir, there⟩ := retained.kept one member
    by_cases same : one.fileName = name
    · obtain ⟨rfl, rfl⟩ := retained.apart _ _ one there message held.1 (same.trans held.2.symm)
      exact ⟨dest, moved.2 (.inl ⟨rfl, rfl⟩)⟩
    · exact ⟨dir, moved.2 (.inr ⟨there, fun away => same away.1⟩)⟩
  · intro at_ task found
    have safe := retained.sweeps at_ task found
    by_cases past : task.pastRescan = true
    · rcases goes task safe past with empty | ⟨rfl, rfl, rfl⟩
      · rw [empty] at held
        exact absurd held.1 List.not_mem_nil
      · change after.files .new = []
        rw [List.eq_nil_iff_forall_not_mem]
        intro other member
        rw [moved] at member
        rcases member with ⟨impossible, _⟩ | ⟨member, _⟩
        · cases impossible
        · rw [safe] at member
          exact List.not_mem_nil member
    · exact sweepSafe_early (Bool.eq_false_iff.2 past)

theorem retained_claim (claimed : world.maildir.claim name = some after) :
    Retained (world.onDisk after) := by
  refine retained_rename retained (by decide) claimed ?_
  intro task safe past
  unfold Task.pastRescan at past
  split at past
  · exact .inl safe
  · exact .inl (safe .new)
  · cases past

theorem retained_quarantine (name : String) :
    Retained (world.onDisk (world.maildir.quarantine name)) := by
  unfold quarantine
  cases renamed : world.maildir.rename .cur .corrupt name with
  | none => exact retained
  | some after =>
    refine retained_rename retained (by decide) renamed ?_
    intro task safe past
    unfold Task.pastRescan at past
    split at past
    · exact .inr ⟨rfl, rfl, rfl⟩
    · exact .inl (safe .cur)
    · cases past

theorem retained_send (delivered : InboxMessage) (route : Route) :
    Retained (world.send sessionId delivered route) := by
  rcases send_cases sessionId world delivered route with ⟨pushes, sent⟩ | retired
  · rw [sent]
    exact ⟨retained.apart, retained.kept, retained.sweeps⟩
  · rw [retired]
    refine retained_removeFile retained rfl rfl (fun message member => ?_)
      (fun message _ named member => ?_)
    · unfold retire at member
      rw [mem_forget] at member
      exact member.1
    · unfold retire at member
      rw [mem_forget, decide_eq_false_iff_not] at member
      exact member.2 named

theorem retained_scan (scan : Scan) (route : Route) (stage : Stage) :
    Retained (world.scanStep sessionId place chance scan route stage) := by
  have scanning : ∀ scan stage task, some (.scanning scan route stage) = some task →
      ∀ maildir, SweepSafe maildir task := by
    rintro scan stage task ⟨⟩ maildir
    trivial
  unfold scanStep
  split
  · exact retained_turn retained (fun task found => scanning _ _ task found _)
  · exact retained_files retained (fun _ => files_ensureDir) rfl rfl
      (fun task found => scanning _ _ task found _)
  · exact retained_turn retained (fun task found => scanning _ _ task found _)
  · exact retained_turn retained (fun task found => scanning _ _ task found _)
  · split
    · exact retained_turn retained (fun task found => scanning _ _ task found _)
    · split
      · rename_i claimed
        exact retained_turn (retained_claim retained claimed)
          (fun task found => scanning _ _ task found _)
      · exact retained_turn retained (fun task found => scanning _ _ task found _)
  · split
    · exact retained_turn retained (fun task found => scanning _ _ task found _)
    · exact retained_turn retained (fun task found => scanning _ _ task found _)
  · exact retained_turn (retained_quarantine retained _)
      (fun task found => scanning _ _ task found _)
  · refine retained_turn retained (fun task found => ?_)
    unfold afterScan at found
    split at found
    · exact scanning _ _ task found _
    · cases found
      trivial
    · cases found
  · exact retained_turn (retained_send retained _ _)
      (fun task found => scanning _ _ task found _)

theorem retained_publish (published : world.maildir.publish place delivered = some after)
    (unswept : ∀ task ∈ world.tasks, task.all (fun task => !task.pastRescan))
    (new : ∀ dir, ∀ other ∈ world.maildir.files dir, other.fileName ≠ delivered.fileName) :
    Retained { (world.onDisk after).turn place (some .pushing) with
      owed := delivered :: world.owed } := by
  have moved := fun {other : InboxMessage} {there : Place} =>
    @mem_publish world.maildir after delivered other place published there
  constructor
  · intro first second one member other member' same
    change one ∈ after.files first at member
    change other ∈ after.files second at member'
    rw [moved] at member member'
    rcases member with ⟨rfl, rfl⟩ | ⟨member, _⟩
    · rcases member' with ⟨rfl, rfl⟩ | ⟨member', _⟩
      · exact ⟨rfl, rfl⟩
      · exact absurd same.symm (new _ other member')
    · rcases member' with ⟨rfl, rfl⟩ | ⟨member', _⟩
      · exact absurd same (new _ one member)
      · exact retained.apart _ _ one member other member' same
  · intro one member
    rcases List.mem_cons.1 member with rfl | member
    · exact ⟨.new, moved.2 (.inl ⟨rfl, rfl⟩)⟩
    · obtain ⟨dir, there⟩ := retained.kept one member
      exact ⟨dir, moved.2 (.inr ⟨there, fun away => new dir one there away.2⟩)⟩
  · have others : Every (fun task => task.pastRescan = false) world.tasks := by
      intro at_ task found
      have quiet := unswept (some task) (List.mem_of_getElem? found)
      simpa using quiet
    exact every_set others (fun task early => sweepSafe_early early)
      (fun task found => by cases found; trivial)

theorem retained_sweep (there : world.tasks[place]? = some (some (.sweeping sweep)))
    (empty : sweep = .rescanCur → world.maildir.hasMessage .cur = false →
      world.maildir.files .corrupt = []) : Retained (world.sweepStep place chance sweep) := by
  have safe := retained.sweeps place _ there
  have next : ∀ {condition : Bool} {sweep' : Sweep},
      (condition = false → SweepSafe world.maildir (.sweeping sweep')) →
      Retained (world.turn place (if condition then none else some (.sweeping sweep'))) := by
    intro condition sweep' holds
    refine retained_turn retained (fun task found => ?_)
    cases condition with
    | true => cases found
    | false =>
      cases found
      exact holds rfl
  cases sweep with
  | snapshot => exact next (fun _ => trivial)
  | scanNew => exact next (fun _ => trivial)
  | scanCur => exact next (fun _ => trivial)
  | confirm => exact next (fun _ => trivial)
  | rescanNew => exact next (fun nothing => hasMessage_eq_false.1 nothing)
  | rescanCur =>
    refine next (fun nothing => ?_)
    intro dir
    cases dir with
    | new => exact safe
    | cur => exact hasMessage_eq_false.1 nothing
    | corrupt => exact empty rfl nothing
  | removing =>
    unfold sweepStep
    dsimp only
    split
    · refine retained_removeFile retained rfl rfl (fun _ member => member) ?_
      intro message member
      rw [safe] at member
      exact absurd member List.not_mem_nil
    · exact ⟨retained.apart, retained.kept, retained.sweeps⟩
    · have same : world.tasks.set place (some (.sweeping .removing)) = world.tasks := by
        obtain ⟨inside, held⟩ := List.getElem?_eq_some_iff.1 there
        rw [← held, List.set_getElem_self]
      exact retained_files retained (fun _ => files_removeDir) rfl same.symm
        (fun task found => by cases found; exact safe)
    · exact retained_turn retained (fun _ found => by cases found)

theorem retained_advance (there : world.tasks[place]? = some (some task))
    (spares : Spares world (.proceed place chance)) :
    Retained (world.advance sessionId place chance task) := by
  unfold Spares at spares
  dsimp only at spares
  rw [join_eq_some.2 there] at spares
  unfold advance
  split
  · refine retained_turn retained (fun task found => ?_)
    split at found
    · cases found
    · cases found
      trivial
  · exact retained_files retained (fun _ => files_ensureDir) rfl rfl
      (fun task found => by cases found; trivial)
  · split
    · rename_i created
      refine retained_files retained (fun dir => ?_) rfl rfl
        (fun task found => by cases found; trivial)
      exact congrArg (fun folder : Place → Folder => (folder dir).getD []) (createTemp_files created)
    · exact retained_turn retained (fun _ found => by cases found)
  · split
    · rename_i published
      exact retained_publish retained published spares.1 spares.2
    · exact retained_turn retained (fun _ found => by cases found)
  · refine retained_turn retained (fun task found => ?_)
    rw [Option.map_eq_some_iff] at found
    obtain ⟨current, _, rfl⟩ := found
    trivial
  · exact retained_files retained (fun _ => rfl) rfl rfl
      (fun task found => by cases found; trivial)
  · exact retained_scan retained _ _ _
  · obtain ⟨subscriber, same⟩ := announcing_subscriber world _
    rw [same]
    exact @retained_turn _ _ none ⟨retained.apart, retained.kept, retained.sweeps⟩
      (fun _ found => by cases found)
  · obtain ⟨subscriber, same⟩ := unsubscribe_subscriber world _
    rw [same]
    exact @retained_turn _ _ none ⟨retained.apart, retained.kept, retained.sweeps⟩
      (fun _ found => by cases found)
  · refine retained_turn retained (fun task found => ?_)
    split at found
    · cases found
      trivial
    · cases found
  · refine retained_turn retained (fun task found => ?_)
    rw [Option.map_eq_some_iff] at found
    obtain ⟨name, _, rfl⟩ := found
    trivial
  · split
    · refine retained_turn (retained_removeFile retained rfl rfl (fun message member => ?_)
        (fun message member named owed => ?_)) (fun _ found => by cases found)
      · rw [mem_forget] at member
        exact member.1
      · rw [mem_forget, decide_eq_false_iff_not] at owed
        exact owed.2 (spares message member named)
    · exact retained_turn retained (fun _ found => by cases found)
  · refine retained_sweep retained there (fun same nothing => ?_)
    subst same
    exact spares nothing

end

theorem retained_step (spares : Spares world act) (retained : Retained world) :
    Retained (step sessionId mint world act) := by
  have launched : ∀ task, SweepSafe world.maildir task → Retained (world.launch task) :=
    fun task safe => ⟨retained.apart, retained.kept, every_launch retained.sweeps safe⟩
  cases act with
  | deliver message => exact launched _ trivial
  | subscribe role ordered host lease =>
    have inner := launched (.inserting ⟨world.connections, ordered, some (host.map
      (observationOf sessionId mint world.connections role lease))⟩) trivial
    exact ⟨inner.apart, inner.kept, inner.sweeps⟩
  | unsubscribe lease => exact launched _ trivial
  | ack id lease => exact launched _ trivial
  | sweep => exact launched _ trivial
  | tick later => exact ⟨retained.apart, retained.kept, retained.sweeps⟩
  | proceed place chance =>
    cases there : world.tasks[place]?.join with
    | none =>
      rw [step_idle there]
      exact retained
    | some task =>
      rw [step_proceed (join_eq_some.1 there)]
      exact retained_advance retained (join_eq_some.1 there) spares

theorem retained_of_rest (rest : AtRest world) : Retained world where
  apart := rest.apart
  kept := rest.kept
  sweeps := by
    intro at_ task found
    have ended := rest.quiescent (some task) (List.mem_of_getElem? found)
    cases ended

end Kept

/-- A whole delivery to a mailbox without a subscriber. -/
def delivery : List Act :=
  [.deliver note, .proceed 0 usual, .proceed 0 usual, .proceed 0 usual, .proceed 0 usual,
    .proceed 0 usual]

theorem vacant_at_rest : AtRest vacant where
  quiescent := by
    intro task member
    cases member
  apart := by
    intro first second message member
    cases member
  kept := by
    intro message member
    cases member

/-- The sweep looks into both directories while the message is still a temporary file; the message
    is renamed into `new` and `deliver` returns before the removal comes to it. -/
def sweptAway : List Act :=
  [.deliver note, .proceed 0 usual, .proceed 0 usual, .proceed 0 usual,
    .sweep, .proceed 1 usual, .proceed 1 usual, .proceed 1 usual, .proceed 1 usual,
    .proceed 1 usual, .proceed 1 usual,
    .proceed 0 usual, .proceed 0 usual,
    .proceed 1 ⟨true, "", .file .new note.fileName⟩, .proceed 1 usual]

end Brokers
