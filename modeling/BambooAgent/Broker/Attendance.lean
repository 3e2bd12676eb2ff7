import BambooAgent.Broker.Steps

/- The calls that a message of the mailbox can count on: as long as it lies in `new` some call is yet
   to claim it, and as long as it lies in `cur` it is done with or some call is yet to send it. -/
namespace Brokers
open Maildir Interleavings World List

/-- Within a directory the names are different. -/
def Distinct (maildir : Maildir) : Prop :=
  ∀ dir, ∀ message ∈ maildir.files dir, ∀ other ∈ maildir.files dir,
    message.fileName = other.fileName → message = other

def Made (maildir : Maildir) (dir : Place) : Prop := (maildir.folder dir).isSome = true

/-- The scan finds its directories made; there is no sweep to take them away. -/
def Ready (maildir : Maildir) : Task → Prop
  | .scanning _ _ (.ensuring left) => ∀ dir, dir ∉ left → Made maildir dir
  | .scanning _ _ _ => ∀ dir, Made maildir dir
  | .sweeping _ => False
  | _ => True

structure Unswept (world : World) : Prop where
  distinct : Distinct world.maildir
  ready : Every (Ready world.maildir) world.tasks

/-- The recover scan has not listed `cur` yet. -/
def Loads (own : Route → Prop) : Task → Prop
  | .scanning .recover route (.ensuring _) => own route
  | .scanning .recover route .listing => own route
  | _ => False

/-- The scan is yet to send the message, or to move it out of `cur`. -/
def StageCovers (scan : Scan) (message : InboxMessage) : Stage → Prop
  | .ensuring _ | .listing => scan = .recover
  | .taking names out => message ∈ out ∨ (scan = .recover ∧ message.fileName ∈ names)
  | .reading name names out | .quarantining name names out =>
    message.fileName = name ∨ message ∈ out ∨ (scan = .recover ∧ message.fileName ∈ names)
  | .sending out => message ∈ out

def Covers (own : Route → Prop) (message : InboxMessage) : Task → Prop
  | .scanning scan route stage => own route ∧ StageCovers scan message stage
  | _ => False

def StageFetches (message : InboxMessage) : Stage → Prop
  | .ensuring _ | .listing => True
  | .taking names _ | .reading _ names _ | .quarantining _ names _ => message.fileName ∈ names
  | .sending _ => False

/-- The call is yet to claim the message, or finds it gone. -/
def Fetches (own : Route → Prop) (message : InboxMessage) : Task → Prop
  | .pushing => True
  | .scanning scan route stage => own route ∧ (scan = .recover ∨ StageFetches message stage)
  | _ => False

/-- What the routes of `own` are to do with a message, and when it is done. -/
structure Duty where
  own : Route → Prop
  relevant : InboxMessage → Prop
  done : World → InboxMessage → Prop

def Covered (duty : Duty) (world : World) (message : InboxMessage) : Prop :=
  duty.done world message ∨ Someone (Covers duty.own message) world.tasks

structure Attended (duty : Duty) (world : World) : Prop where
  claimed : ∀ message ∈ world.maildir.files .cur, duty.relevant message →
    Covered duty world message
  waiting : ∀ message ∈ world.maildir.files .new, duty.relevant message →
    Someone (Fetches duty.own message) world.tasks

/-- What a step has to see to: what is claimed is claimed for the duty, what is sent is done with,
    and a push has a subscriber to push to. -/
structure Obliges (duty : Duty) (world world' : World) (task : Task) : Prop where
  done : ∀ message, duty.done world message → duty.done world' message
  claims : ∀ route name names out, task = .scanning .drain route (.taking (name :: names) out) →
    duty.own route ∨
      (∀ message ∈ world.maildir.files .new, message.fileName = name → ¬ duty.relevant message) ∨
      Someone (Loads duty.own) world.tasks
  sends : ∀ scan route message out, task = .scanning scan route (.sending (message :: out)) →
    duty.own route → duty.relevant message → duty.done world' message
  pushes : task = .pushing → ∃ current, world.subscriber = some current ∧
    duty.own ⟨current.connection, current.orderedActorEvents, none⟩

section Kept
variable {sessionId : String} {mint : Nat → String} {world world' : World} {place : Nat}
  {chance : Chance} {task : Task} {next : Option Task} {maildir after : Maildir}
  {delivered : InboxMessage} {duty : Duty} {scan : Scan} {route : Route} {names : List String}
  {name : String} {out : List InboxMessage} {stage goal : Stage}

theorem made_ensureDir (made : Made maildir other ∨ other = dir) :
    Made (maildir.ensureDir dir) other := by
  unfold Made ensureDir
  rw [folder_setFolder]
  split
  · rfl
  · rename_i different
    rcases made with made | same
    · exact made
    · exact absurd same different

theorem made_removeFile (made : Made maildir other) : Made (maildir.removeFile dir name) other := by
  unfold Made removeFile at *
  rw [folder_setFolder]
  split
  · rename_i same
    subst same
    rw [Option.isSome_map]
    exact made
  · exact made

theorem distinct_fewer (distinct : Distinct maildir)
    (fewer : ∀ dir, ∀ message ∈ after.files dir, message ∈ maildir.files dir) : Distinct after :=
  fun dir message member other member' =>
    distinct dir message (fewer dir message member) other (fewer dir other member')

theorem distinct_rename (distinct : Distinct maildir) (different : source ≠ dest)
    (renamed : maildir.rename source dest name = some after) : Distinct after := by
  obtain ⟨message, there, found, _, _⟩ := rename_eq_some.1 renamed
  have held := find_eq_some found
  intro dir one member other member' same
  rw [mem_rename different found renamed] at member member'
  rcases member with ⟨rfl, rfl⟩ | ⟨member, stays⟩
  · rcases member' with ⟨_, rfl⟩ | ⟨_, stays'⟩
    · rfl
    · exact absurd ⟨same ▸ held.2, .inr rfl⟩ stays'
  · rcases member' with ⟨rfl, rfl⟩ | ⟨member', _⟩
    · exact absurd ⟨same.trans held.2, .inr rfl⟩ stays
    · exact distinct dir one member other member' same

theorem distinct_publish (distinct : Distinct maildir)
    (published : maildir.publish place delivered = some after) : Distinct after := by
  intro dir one member other member' same
  rw [mem_publish published] at member member'
  rcases member with ⟨rfl, rfl⟩ | ⟨member, stays⟩
  · rcases member' with ⟨_, rfl⟩ | ⟨_, stays'⟩
    · rfl
    · exact absurd ⟨rfl, same.symm⟩ stays'
  · rcases member' with ⟨rfl, rfl⟩ | ⟨member', _⟩
    · exact absurd ⟨rfl, same⟩ stays
    · exact distinct dir one member other member' same

/-- The files stay different, and directories stay. -/
structure Holds (before after : Maildir) : Prop where
  distinct : Distinct after
  made : ∀ dir, Made before dir → Made after dir

section
variable (distinct : Distinct maildir)
include distinct

theorem holds_same (same : after.folder = maildir.folder) : Holds maildir after where
  distinct := by
    refine distinct_fewer distinct (fun dir message member => ?_)
    unfold files at member
    rw [same] at member
    exact member
  made := by
    intro dir made
    unfold Made
    rw [same]
    exact made

theorem holds_ensureDir (dir : Place) : Holds maildir (maildir.ensureDir dir) where
  distinct := distinct_fewer distinct (fun _ _ member => by rw [files_ensureDir] at member; exact member)
  made := fun _ made => made_ensureDir (.inl made)

theorem holds_removeFile (dir : Place) (name : String) : Holds maildir (maildir.removeFile dir name) where
  distinct := distinct_fewer distinct (fun _ _ member => (mem_removeFile.1 member).1)
  made := fun _ made => made_removeFile made

theorem holds_quarantine (name : String) : Holds maildir (maildir.quarantine name) := by
  unfold quarantine
  cases renamed : maildir.rename .cur .corrupt name with
  | none => exact ⟨distinct, fun _ made => made⟩
  | some after =>
    exact ⟨distinct_rename distinct (by decide) renamed, fun _ made => rename_folder renamed made⟩

end

theorem holds_send (distinct : Distinct world.maildir) :
    Holds world.maildir (world.send sessionId delivered route).maildir := by
  rcases send_cases sessionId world delivered route with ⟨pushes, sent⟩ | retired
  · rw [sent]
    exact ⟨distinct, fun _ made => made⟩
  · rw [retired]
    exact holds_removeFile distinct _ _

theorem unswept_move (unswept : Unswept world)
    (tasks : world'.tasks = world.tasks.set place next)
    (holds : Holds world.maildir world'.maildir)
    (ready : ∀ task, next = some task → Ready world'.maildir task) : Unswept world' where
  distinct := holds.distinct
  ready := by
    rw [tasks]
    refine every_set unswept.ready (fun other ready => ?_) ready
    revert ready
    unfold Ready
    split
    · exact fun all dir outside => holds.made dir (all dir outside)
    · exact fun all dir => holds.made dir (all dir)
    · exact id
    · exact id

theorem ready_ensuring : Ready maildir (.scanning scan route (.ensuring [.new, .cur, .corrupt])) := by
  intro dir outside
  cases dir <;> exact absurd (by decide) outside

theorem unswept_scan (unswept : Unswept world)
    (there : world.tasks[place]? = some (some (.scanning scan route stage))) :
    Unswept (world.scanStep sessionId place chance scan route stage) := by
  have ready := unswept.ready place _ there
  have here : Holds world.maildir world.maildir := ⟨unswept.distinct, fun _ made => made⟩
  cases stage with
  | ensuring left =>
    cases left with
    | nil =>
      refine unswept_move unswept rfl here (fun task goes => ?_)
      cases goes
      exact fun dir => ready dir not_mem_nil
    | cons dir left =>
      refine unswept_move unswept rfl (holds_ensureDir unswept.distinct dir) (fun task goes => ?_)
      cases goes
      intro other outside
      by_cases same : other = dir
      · exact made_ensureDir (.inr same)
      · exact made_ensureDir (.inl (ready other (fun inside =>
          (mem_cons.1 inside).elim same outside)))
  | listing =>
    refine unswept_move unswept rfl here (fun task goes => ?_)
    cases goes
    exact ready
  | taking names out =>
    cases names with
    | nil =>
      refine unswept_move unswept rfl here (fun task goes => ?_)
      cases goes
      exact ready
    | cons name names =>
      cases scan with
      | recover =>
        refine unswept_move unswept rfl here (fun task goes => ?_)
        cases goes
        exact ready
      | drain =>
        unfold scanStep
        dsimp only
        split
        · rename_i claimed
          refine unswept_move unswept rfl ⟨distinct_rename unswept.distinct (by decide) claimed,
            fun _ made => rename_folder claimed made⟩ (fun task goes => ?_)
          cases goes
          exact fun dir => rename_folder claimed (ready dir)
        · refine unswept_move unswept rfl here (fun task goes => ?_)
          cases goes
          exact ready
  | reading name names out =>
    unfold scanStep
    dsimp only
    split
    · refine unswept_move unswept rfl here (fun task goes => ?_)
      cases goes
      exact ready
    · refine unswept_move unswept rfl here (fun task goes => ?_)
      cases goes
      exact ready
  | quarantining name names out =>
    have holds := holds_quarantine unswept.distinct name
    refine unswept_move unswept rfl holds (fun task goes => ?_)
    cases goes
    exact fun dir => holds.made dir (ready dir)
  | sending out =>
    cases out with
    | nil =>
      refine unswept_move unswept rfl here (fun task goes => ?_)
      unfold afterScan at goes
      split at goes
      · cases goes
        exact ready_ensuring
      · cases goes
        trivial
      · cases goes
    | cons delivered out =>
      have holds := @holds_send sessionId world delivered route unswept.distinct
      refine unswept_move unswept (by unfold scanStep; rw [turn_tasks, send_tasks]) holds
        (fun task goes => ?_)
      cases goes
      exact fun dir => holds.made dir (ready dir)

theorem unswept_advance (unswept : Unswept world)
    (there : world.tasks[place]? = some (some task)) :
    Unswept (world.advance sessionId place chance task) := by
  have here : Holds world.maildir world.maildir := ⟨unswept.distinct, fun _ made => made⟩
  have ends : Unswept (world.turn place none) :=
    unswept_move unswept rfl here (fun _ goes => by cases goes)
  cases task with
  | checking message =>
    refine unswept_move unswept rfl here (fun task goes => ?_)
    split at goes
    · cases goes
    · cases goes
      trivial
  | creating message =>
    exact unswept_move unswept rfl (holds_ensureDir unswept.distinct .new)
      (fun task goes => by cases goes; trivial)
  | writing message =>
    unfold advance
    dsimp only
    split
    · rename_i created
      exact unswept_move unswept rfl (holds_same unswept.distinct (createTemp_files created))
        (fun task goes => by cases goes; trivial)
    · exact ends
  | publishing message =>
    unfold advance
    dsimp only
    split
    · rename_i published
      exact unswept_move unswept rfl ⟨distinct_publish unswept.distinct published,
        fun _ made => publish_folder published made⟩ (fun task goes => by cases goes; trivial)
    · exact ends
  | pushing =>
    refine unswept_move unswept rfl here (fun task goes => ?_)
    rw [Option.map_eq_some_iff] at goes
    obtain ⟨current, _, rfl⟩ := goes
    exact ready_ensuring
  | inserting route =>
    refine unswept_move unswept rfl here (fun task goes => ?_)
    cases goes
    exact ready_ensuring
  | scanning scan route stage => exact unswept_scan unswept there
  | announcing route =>
    unfold advance
    dsimp only
    obtain ⟨subscriber, announced⟩ := announcing_subscriber world route
    rw [announced]
    exact unswept_move unswept rfl here (fun _ goes => by cases goes)
  | unsubscribing lease =>
    unfold advance
    dsimp only
    obtain ⟨subscriber, done⟩ := unsubscribe_subscriber world lease
    rw [done]
    exact unswept_move unswept rfl here (fun _ goes => by cases goes)
  | admitting messageId lease =>
    refine unswept_move unswept rfl here (fun task goes => ?_)
    split at goes
    · cases goes
      trivial
    · cases goes
  | seeking messageId =>
    refine unswept_move unswept rfl here (fun task goes => ?_)
    rw [Option.map_eq_some_iff] at goes
    obtain ⟨name, _, rfl⟩ := goes
    trivial
  | removing messageId name =>
    unfold advance
    dsimp only
    split
    · exact unswept_move unswept rfl (holds_removeFile unswept.distinct .cur name)
        (fun _ goes => by cases goes)
    · exact ends
  | sweeping sweep => exact (unswept.ready place _ there).elim

/- What the duty is owed. -/

theorem attended_move (attended : Attended duty world)
    (there : world.tasks[place]? = some (some task))
    (tasks : world'.tasks = world.tasks.set place next)
    (done : ∀ message, duty.done world message → duty.done world' message)
    (cur : ∀ message ∈ world'.maildir.files .cur, duty.relevant message →
      Covered duty world' message ∨ (message ∈ world.maildir.files .cur ∧
        (Covers duty.own message task → Covered duty world' message)))
    (new : ∀ message ∈ world'.maildir.files .new, duty.relevant message →
      Someone (Fetches duty.own message) world'.tasks ∨ (message ∈ world.maildir.files .new ∧
        (Fetches duty.own message task → Someone (Fetches duty.own message) world'.tasks))) :
    Attended duty world' where
  claimed := by
    intro message member relevant
    rcases cur message member relevant with covered | ⟨member, moved⟩
    · exact covered
    · rcases attended.claimed message member relevant with finished | held
      · exact .inl (done message finished)
      · rcases some_set held there with does | stays
        · exact moved does
        · exact .inr (by rw [tasks]; exact stays)
  waiting := by
    intro message member relevant
    rcases new message member relevant with fetched | ⟨member, moved⟩
    · exact fetched
    · rcases some_set (attended.waiting message member relevant) there with does | stays
      · exact moved does
      · rw [tasks]
        exact stays

/-- A step in which no file comes into a directory that is scanned. -/
theorem attended_turn (attended : Attended duty world)
    (there : world.tasks[place]? = some (some task))
    (tasks : world'.tasks = world.tasks.set place next)
    (done : ∀ message, duty.done world message → duty.done world' message)
    (fewer : ∀ dir, ∀ message ∈ world'.maildir.files dir, message ∈ world.maildir.files dir)
    (covers : ∀ message ∈ world'.maildir.files .cur, duty.relevant message →
      Covers duty.own message task → Covered duty world' message)
    (fetches : ∀ message ∈ world'.maildir.files .new, Fetches duty.own message task →
      ∃ after, next = some after ∧ Fetches duty.own message after) : Attended duty world' := by
  refine attended_move attended there tasks done ?_ ?_
  · intro message member relevant
    exact .inr ⟨fewer _ _ member, covers message member relevant⟩
  · intro message member relevant
    refine .inr ⟨fewer _ _ member, fun does => ?_⟩
    obtain ⟨after, rfl, goesOn⟩ := fetches message member does
    rw [tasks]
    exact some_moved there goesOn

theorem covered_scan (there : world.tasks[place]? = some (some task))
    (tasks : world'.tasks = world.tasks.set place (some (.scanning scan route stage)))
    (own : duty.own route) (covers : StageCovers scan message stage) :
    Covered duty world' message := by
  refine .inr ?_
  rw [tasks]
  exact some_moved there ⟨own, covers⟩

section
variable (attended : Attended duty world)
include attended

theorem attended_still (there : world.tasks[place]? = some (some task))
    (tasks : world'.tasks = world.tasks.set place next)
    (done : ∀ message, duty.done world message → duty.done world' message)
    (fewer : ∀ dir, ∀ message ∈ world'.maildir.files dir, message ∈ world.maildir.files dir)
    (covers : ∀ message, ¬ Covers duty.own message task)
    (fetches : ∀ message, ¬ Fetches duty.own message task) : Attended duty world' :=
  attended_turn attended there tasks done fewer (fun _ _ _ does => absurd does (covers _))
    (fun _ _ does => absurd does (fetches _))

theorem attended_goes (there : world.tasks[place]? = some (some (.scanning scan route stage)))
    (done : ∀ message, duty.done world message →
      duty.done (world.turn place (some (.scanning scan route goal))) message)
    (covers : ∀ message ∈ world.maildir.files .cur, StageCovers scan message stage →
      StageCovers scan message goal)
    (fetches : ∀ message ∈ world.maildir.files .new, scan = .drain → StageFetches message stage →
      StageFetches message goal) :
    Attended duty (world.turn place (some (.scanning scan route goal))) := by
  refine attended_turn attended there rfl done (fun _ _ member => member) ?_ ?_
  · intro message member _ does
    exact covered_scan there rfl does.1 (covers message member does.2)
  · intro message member does
    refine ⟨_, rfl, does.1, ?_⟩
    cases scan with
    | recover => exact .inl rfl
    | drain => exact .inr (fetches message member rfl (does.2.resolve_left (by decide)))

theorem attended_ensuring
    (there : world.tasks[place]? = some (some (.scanning scan route (.ensuring (dir :: left)))))
    (done : ∀ message, duty.done world message →
      duty.done ((world.onDisk (world.maildir.ensureDir dir)).turn place
        (some (.scanning scan route (.ensuring left)))) message) :
    Attended duty ((world.onDisk (world.maildir.ensureDir dir)).turn place
      (some (.scanning scan route (.ensuring left)))) := by
  refine attended_turn attended there rfl done (fun there message member => ?_) ?_ ?_
  · change message ∈ (world.maildir.ensureDir dir).files there at member
    rw [files_ensureDir] at member
    exact member
  · intro message _ _ does
    refine covered_scan there rfl does.1 ?_
    exact does.2
  · intro message _ does
    exact ⟨_, rfl, does⟩

theorem attended_listing
    (there : world.tasks[place]? = some (some (.scanning scan route .listing)))
    (done : ∀ message, duty.done world message →
      duty.done (world.turn place (some (.scanning scan route
        (.taking (world.maildir.sortedJsonNames (scanned scan)) [])))) message) :
    Attended duty (world.turn place (some (.scanning scan route
      (.taking (world.maildir.sortedJsonNames (scanned scan)) [])))) := by
  refine attended_goes attended there done (fun message member does => ?_)
    (fun message member same _ => ?_)
  · have same : scan = .recover := does
    subst same
    exact .inr ⟨rfl, mem_sortedJsonNames.2 ⟨message, member, rfl⟩⟩
  · subst same
    exact mem_sortedJsonNames.2 ⟨message, member, rfl⟩

/-- The claimed message is covered by the claimer, or it may be left to the recover scan. -/
theorem attended_claim
    (there : world.tasks[place]? = some (some (.scanning .drain route (.taking (name :: names) out))))
    (claimed : world.maildir.claim name = some after)
    (obliges : Obliges duty world ((world.onDisk after).turn place
      (some (.scanning .drain route (.reading name names out))))
      (.scanning .drain route (.taking (name :: names) out))) :
    Attended duty ((world.onDisk after).turn place
      (some (.scanning .drain route (.reading name names out)))) := by
  obtain ⟨message, there', found, _, _⟩ := rename_eq_some.1 claimed
  have held := find_eq_some found
  have moved := fun {other : InboxMessage} {there : Place} =>
    @mem_rename world.maildir after .new .cur name message other (by decide) found claimed there
  refine attended_move attended there rfl obliges.done ?_ ?_
  · intro other member relevant
    rcases moved.1 member with ⟨_, rfl⟩ | ⟨member, _⟩
    · refine .inl ?_
      rcases obliges.claims route name names out rfl with own | other | loads
      · refine covered_scan there rfl own ?_
        exact .inl held.2
      · exact absurd relevant (other _ held.1 held.2)
      · rcases some_set loads there with impossible | stays
        · exact impossible.elim
        · obtain ⟨at_, task, held', loads⟩ := stays
          refine .inr ⟨at_, task, held', ?_⟩
          unfold Loads at loads
          split at loads
          · exact ⟨loads, rfl⟩
          · exact ⟨loads, rfl⟩
          · exact loads.elim
    · refine .inr ⟨member, fun does => covered_scan there rfl does.1 ?_⟩
      rcases does.2 with member' | ⟨impossible, _⟩
      · exact .inr (.inl member')
      · cases impossible
  · intro other member relevant
    rcases moved.1 member with ⟨impossible, _⟩ | ⟨member, stays⟩
    · cases impossible
    · refine .inr ⟨member, fun does => ?_⟩
      refine some_moved there ⟨does.1, .inr ?_⟩
      rcases does.2 with impossible | listed
      · cases impossible
      · rcases mem_cons.1 listed with same | listed
        · exact absurd ⟨same, .inl rfl⟩ stays
        · exact listed

end

theorem absent_of_unrenamed (unrenamed : world.maildir.rename source dest name = none)
    (made : Made world.maildir dest) :
    ∀ message ∈ world.maildir.files source, message.fileName ≠ name := by
  rcases rename_eq_none.1 unrenamed with absent | unmade
  · exact find_eq_none.1 absent
  · unfold Made at made
    rw [unmade] at made
    cases made

theorem attended_quarantine (unswept : Unswept world) (attended : Attended duty world)
    (there : world.tasks[place]? = some (some (.scanning scan route (.quarantining name names out))))
    (done : ∀ message, duty.done world message →
      duty.done ((world.onDisk (world.maildir.quarantine name)).turn place
        (some (.scanning scan route (.taking names out)))) message) :
    Attended duty ((world.onDisk (world.maildir.quarantine name)).turn place
      (some (.scanning scan route (.taking names out)))) := by
  have ready := unswept.ready place _ there
  have gone : ∀ message ∈ (world.maildir.quarantine name).files .cur,
      message ∈ world.maildir.files .cur ∧ message.fileName ≠ name := by
    intro message member
    unfold quarantine at member
    cases renamed : world.maildir.rename .cur .corrupt name with
    | none =>
      rw [renamed] at member
      exact ⟨member, absent_of_unrenamed renamed (ready .corrupt) message member⟩
    | some after =>
      rw [renamed] at member
      obtain ⟨moved, there', found, _, _⟩ := rename_eq_some.1 renamed
      rcases (mem_rename (by decide) found renamed).1 member with ⟨impossible, _⟩ | ⟨member, stays⟩
      · cases impossible
      · exact ⟨member, fun same => stays ⟨same, .inl rfl⟩⟩
  have kept : ∀ message ∈ (world.maildir.quarantine name).files .new,
      message ∈ world.maildir.files .new := by
    intro message member
    unfold quarantine at member
    cases renamed : world.maildir.rename .cur .corrupt name with
    | none =>
      rw [renamed] at member
      exact member
    | some after =>
      rw [renamed] at member
      obtain ⟨moved, there', found, _, _⟩ := rename_eq_some.1 renamed
      rcases (mem_rename (by decide) found renamed).1 member with ⟨impossible, _⟩ | ⟨member, _⟩
      · cases impossible
      · exact member
  refine attended_move attended there rfl done ?_ ?_
  · intro message member _
    refine .inr ⟨(gone message member).1, fun does => covered_scan there rfl does.1 ?_⟩
    rcases does.2 with named | covers
    · exact absurd named (gone message member).2
    · exact covers
  · intro message member _
    refine .inr ⟨kept message member, fun does => ?_⟩
    exact some_moved there does

theorem attended_sending (attended : Attended duty world)
    (there : world.tasks[place]? = some (some (.scanning scan route (.sending (delivered :: out)))))
    (obliges : Obliges duty world ((world.send sessionId delivered route).turn place
      (some (.scanning scan route (.sending out)))) (.scanning scan route (.sending (delivered :: out)))) :
    Attended duty ((world.send sessionId delivered route).turn place
      (some (.scanning scan route (.sending out)))) := by
  refine attended_turn attended there (by rw [turn_tasks, send_tasks]) obliges.done
    (fun dir message member => ?_) ?_
    (fun _ _ does => ⟨.scanning scan route (.sending out), rfl, does⟩)
  · rw [turn_maildir] at member
    rcases send_cases sessionId world delivered route with ⟨pushes, sent⟩ | retired
    · rw [sent] at member
      exact member
    · rw [retired, retire_maildir, mem_removeFile] at member
      exact member.1
  · intro message _ relevant does
    rcases mem_cons.1 does.2 with same | later
    · subst same
      exact .inl (obliges.sends scan route message out rfl does.1 relevant)
    · refine covered_scan there (by rw [turn_tasks, send_tasks]) does.1 ?_
      exact later

theorem attended_sent (attended : Attended duty world)
    (there : world.tasks[place]? = some (some (.scanning scan route (.sending []))))
    (done : ∀ message, duty.done world message →
      duty.done (world.turn place (afterScan scan route)) message) :
    Attended duty (world.turn place (afterScan scan route)) := by
  refine attended_turn attended there rfl done (fun _ _ member => member)
    (fun message _ _ does => absurd does.2 not_mem_nil) ?_
  intro message _ does
  rcases does.2 with same | impossible
  · subst same
    exact ⟨_, rfl, does.1, .inr trivial⟩
  · exact impossible.elim

theorem attended_scan (unswept : Unswept world) (attended : Attended duty world)
    (there : world.tasks[place]? = some (some (.scanning scan route stage)))
    (obliges : Obliges duty world (world.scanStep sessionId place chance scan route stage)
      (.scanning scan route stage)) :
    Attended duty (world.scanStep sessionId place chance scan route stage) := by
  have ready := unswept.ready place _ there
  have done := obliges.done
  cases stage with
  | ensuring left =>
    cases left with
    | nil => exact attended_goes attended there done (fun _ _ does => does) (fun _ _ _ does => does)
    | cons dir left => exact attended_ensuring attended there done
  | listing => exact attended_listing attended there done
  | taking names out =>
    cases names with
    | nil =>
      refine attended_goes attended there done (fun message _ does => ?_) (fun _ _ _ does => ?_)
      · exact does.resolve_right (fun listed => not_mem_nil listed.2)
      · exact absurd does not_mem_nil
    | cons name names =>
      cases scan with
      | recover =>
        refine attended_goes attended there done (fun message _ does => ?_) (fun _ _ same _ => ?_)
        · rcases does with read | ⟨_, listed⟩
          · exact .inr (.inl read)
          · rcases mem_cons.1 listed with same | listed
            · exact .inl same
            · exact .inr (.inr ⟨rfl, listed⟩)
        · cases same
      | drain =>
        unfold scanStep at obliges ⊢
        dsimp only at obliges ⊢
        split at obliges
        · rename_i claimed
          exact attended_claim attended there claimed obliges
        · rename_i unclaimed
          refine attended_goes attended there obliges.done (fun message _ does => ?_)
            (fun message member _ does => ?_)
          · exact .inl (does.resolve_right (fun listed => by cases listed.1))
          · rcases mem_cons.1 does with same | listed
            · exact absurd same (absent_of_unrenamed unclaimed (ready .cur) message member)
            · exact listed
  | reading name names out =>
    unfold scanStep at done ⊢
    dsimp only at done ⊢
    split at done
    · rename_i message read
      refine attended_goes attended there done (fun other member does => ?_) (fun _ _ _ does => does)
      rcases does with same | covers | listed
      · split at read
        · have held := find_eq_some read
          have one : other = message :=
            unswept.distinct .cur other member message held.1 (same.trans held.2.symm)
          exact .inl (mem_append_right _ (mem_singleton.2 one))
        · cases read
      · exact .inl (mem_append_left _ covers)
      · exact .inr listed
    · exact attended_goes attended there done (fun _ _ does => does) (fun _ _ _ does => does)
  | quarantining name names out => exact attended_quarantine unswept attended there done
  | sending out =>
    cases out with
    | nil => exact attended_sent attended there done
    | cons delivered out => exact attended_sending attended there obliges

theorem attended_publish (attended : Attended duty world)
    (there : world.tasks[place]? = some (some (.publishing delivered)))
    (published : world.maildir.publish place delivered = some after)
    (tasks : world'.tasks = world.tasks.set place (some .pushing))
    (maildir : world'.maildir = after)
    (done : ∀ message, duty.done world message → duty.done world' message) :
    Attended duty world' := by
  have moved := fun {other : InboxMessage} {there : Place} =>
    @mem_publish world.maildir after delivered other place published there
  refine attended_move attended there tasks done ?_ ?_
  · intro message member _
    rw [maildir] at member
    rcases moved.1 member with ⟨impossible, _⟩ | ⟨member, _⟩
    · cases impossible
    · exact .inr ⟨member, fun does => does.elim⟩
  · intro message _ _
    rw [tasks]
    exact .inl (some_moved there trivial)

theorem attended_advance (unswept : Unswept world) (attended : Attended duty world)
    (there : world.tasks[place]? = some (some task))
    (obliges : Obliges duty world (world.advance sessionId place chance task) task) :
    Attended duty (world.advance sessionId place chance task) := by
  have done := obliges.done
  have quiet : ∀ {task : Task}, (∀ message, ¬ Covers duty.own message task) →
      (∀ message, ¬ Fetches duty.own message task) →
      world.tasks[place]? = some (some task) → ∀ {world' : World} {next : Option Task},
      world'.tasks = world.tasks.set place next →
      (∀ message, duty.done world message → duty.done world' message) →
      (∀ dir, ∀ message ∈ world'.maildir.files dir, message ∈ world.maildir.files dir) →
      Attended duty world' :=
    fun covers fetches there _ _ tasks done fewer =>
      attended_still attended there tasks done fewer covers fetches
  cases task with
  | checking message =>
    exact quiet (fun _ => id) (fun _ => id) there rfl done (fun _ _ member => member)
  | creating message =>
    refine quiet (fun _ => id) (fun _ => id) there rfl done (fun dir other member => ?_)
    change other ∈ (world.maildir.ensureDir .new).files dir at member
    rw [files_ensureDir] at member
    exact member
  | writing message =>
    unfold advance at done ⊢
    dsimp only at done
    split at done
    · rename_i maildir created
      refine quiet (fun _ => id) (fun _ => id) there rfl done (fun dir other member => ?_)
      change other ∈ (maildir.folder dir).getD [] at member
      rw [createTemp_files created] at member
      exact member
    · exact quiet (fun _ => id) (fun _ => id) there rfl done (fun _ _ member => member)
  | publishing message =>
    unfold advance at done ⊢
    dsimp only at done ⊢
    split at done
    · rename_i published
      exact attended_publish attended there published rfl rfl done
    · exact quiet (fun _ => id) (fun _ => id) there rfl done (fun _ _ member => member)
  | pushing =>
    refine attended_turn attended there rfl done (fun _ _ member => member)
      (fun _ _ _ does => does.elim) ?_
    intro message _ _
    obtain ⟨current, registered, own⟩ := obliges.pushes rfl
    rw [registered]
    exact ⟨.scanning .drain ⟨current.connection, current.orderedActorEvents, none⟩
      (.ensuring [.new, .cur, .corrupt]), rfl, own, .inr trivial⟩
  | inserting route =>
    exact quiet (fun _ => id) (fun _ => id) there rfl done (fun _ _ member => member)
  | scanning scan route stage => exact attended_scan unswept attended there obliges
  | announcing route =>
    unfold advance at done ⊢
    dsimp only at done ⊢
    obtain ⟨subscriber, announced⟩ := announcing_subscriber world route
    rw [announced] at done ⊢
    exact quiet (fun _ => id) (fun _ => id) there rfl done (fun _ _ member => member)
  | unsubscribing lease =>
    unfold advance at done ⊢
    dsimp only at done ⊢
    obtain ⟨subscriber, unsubscribed⟩ := unsubscribe_subscriber world lease
    rw [unsubscribed] at done ⊢
    exact quiet (fun _ => id) (fun _ => id) there rfl done (fun _ _ member => member)
  | admitting messageId lease =>
    exact quiet (fun _ => id) (fun _ => id) there rfl done (fun _ _ member => member)
  | seeking messageId =>
    exact quiet (fun _ => id) (fun _ => id) there rfl done (fun _ _ member => member)
  | removing messageId name =>
    unfold advance at done ⊢
    dsimp only at done ⊢
    by_cases present : (world.maildir.find .cur name).isSome = true
    · rw [if_pos present] at done ⊢
      refine quiet (fun _ => id) (fun _ => id) there rfl done (fun dir other member => ?_)
      change other ∈ (world.maildir.removeFile .cur name).files dir at member
      rw [mem_removeFile] at member
      exact member.1
    · rw [if_neg present] at done ⊢
      exact quiet (fun _ => id) (fun _ => id) there rfl done (fun _ _ member => member)
  | sweeping sweep => exact (unswept.ready place _ there).elim

theorem unswept_launch (unswept : Unswept world) (ready : Ready world.maildir task) :
    Unswept (world.launch task) := ⟨unswept.distinct, every_launch unswept.ready ready⟩

theorem attended_launch (attended : Attended duty world)
    (tasks : world'.tasks = world.tasks ++ [next]) (maildir : world'.maildir = world.maildir)
    (done : ∀ message, duty.done world message → duty.done world' message) :
    Attended duty world' where
  claimed := by
    rw [maildir]
    intro message member relevant
    rcases attended.claimed message member relevant with finished | held
    · exact .inl (done message finished)
    · exact .inr (by rw [tasks]; exact some_launch held _)
  waiting := by
    rw [maildir, tasks]
    intro message member relevant
    exact some_launch (attended.waiting message member relevant) _

theorem unswept_step {act : Act} (calm : act ≠ .sweep) (unswept : Unswept world) :
    Unswept (step sessionId mint world act) := by
  cases act with
  | deliver message => exact unswept_launch unswept trivial
  | subscribe role ordered host lease =>
    have inner := @unswept_launch world (.inserting ⟨world.connections, ordered, some (host.map
      (observationOf sessionId mint world.connections role lease))⟩) unswept trivial
    exact ⟨inner.distinct, inner.ready⟩
  | unsubscribe lease => exact unswept_launch unswept trivial
  | ack messageId lease => exact unswept_launch unswept trivial
  | sweep => exact absurd rfl calm
  | tick later => exact ⟨unswept.distinct, unswept.ready⟩
  | proceed place chance =>
    cases there : world.tasks[place]?.join with
    | none =>
      rw [step_idle there]
      exact unswept
    | some task =>
      rw [step_proceed (join_eq_some.1 there)]
      exact unswept_advance unswept (join_eq_some.1 there)

theorem unswept_of_rest (quiescent : Quiescent world) (distinct : Distinct world.maildir) :
    Unswept world where
  distinct := distinct
  ready := by
    intro at_ task found
    cases quiescent _ (mem_of_getElem? found)

end Kept

end Brokers
