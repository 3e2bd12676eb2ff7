import BambooAgent.Broker.Routing

/- What one step of the mailbox can do: which fields each change leaves alone, where a message is
   sent or retired, and which task has moved. -/
namespace Brokers
open Maildir Interleavings

namespace World

variable {world : World} {maildir : Maildir} {push : Push}

@[simp] theorem turn_maildir : (world.turn place next).maildir = world.maildir := rfl
@[simp] theorem turn_subscriber : (world.turn place next).subscriber = world.subscriber := rfl
@[simp] theorem turn_tasks : (world.turn place next).tasks = world.tasks.set place next := rfl
@[simp] theorem turn_connections : (world.turn place next).connections = world.connections := rfl
@[simp] theorem turn_now : (world.turn place next).now = world.now := rfl
@[simp] theorem turn_sent : (world.turn place next).sent = world.sent := rfl
@[simp] theorem onDisk_maildir : (world.onDisk maildir).maildir = maildir := rfl
@[simp] theorem push_sent : (world.push push).sent = world.sent ++ [push] := rfl
@[simp] theorem mem_forget :
    message ∈ (world.forget settled).owed ↔ message ∈ world.owed ∧ settled message = false := by
  unfold forget
  simp

@[simp] theorem retire_maildir :
    (world.retire delivered).maildir = world.maildir.removeFile .cur delivered.fileName := rfl

@[simp] theorem retire_subscriber : (world.retire delivered).subscriber = world.subscriber := rfl
@[simp] theorem retire_tasks : (world.retire delivered).tasks = world.tasks := rfl
@[simp] theorem retire_connections : (world.retire delivered).connections = world.connections := rfl
@[simp] theorem retire_now : (world.retire delivered).now = world.now := rfl
@[simp] theorem retire_sent : (world.retire delivered).sent = world.sent := rfl

theorem routeFencedRun_cases (sessionId : String) (world : World) (delivered : InboxMessage)
    (route : Route) :
    world.routeFencedRun sessionId delivered route = world ∨
    (∃ current, world.subscriber = some current ∧
      (route.preload.isSome = true → current.connection = route.connection) ∧
      ((fencedRunForObservation delivered sessionId world.now
          (current.hostObservation.or (route.preload.getD none)) = true ∧
        world.routeFencedRun sessionId delivered route =
          world.push ⟨current.connection, .control, delivered⟩) ∨
      ∃ observation generation,
        current.hostObservation.or (route.preload.getD none) = some observation ∧
        confirmedStaleFencedRunGeneration delivered sessionId world.now observation =
          some generation ∧
        world.routeFencedRun sessionId delivered route = world.retire delivered)) := by
  unfold routeFencedRun
  split
  · exact .inl rfl
  · rename_i current there
    by_cases superseded : route.preload.isSome ∧ current.connection ≠ route.connection
    · rw [if_pos superseded]
      exact .inl rfl
    · rw [if_neg superseded]
      have own : route.preload.isSome = true → current.connection = route.connection :=
        fun preload => by_contra (fun other => superseded ⟨preload, other⟩)
      by_cases fits : fencedRunForObservation delivered sessionId world.now
          (current.hostObservation.or (route.preload.getD none)) = true
      · rw [if_pos fits]
        exact .inr ⟨current, there, own, .inl ⟨fits, rfl⟩⟩
      · rw [if_neg fits]
        split
        · exact .inl rfl
        · rename_i observation seen
          split
          · exact .inl rfl
          · rename_i generation stale
            exact .inr ⟨current, there, own, .inr ⟨observation, generation, seen, stale, rfl⟩⟩

theorem send_cases (sessionId : String) (world : World) (delivered : InboxMessage) (route : Route) :
    (∃ pushes, world.send sessionId delivered route = { world with sent := world.sent ++ pushes }) ∨
    world.send sessionId delivered route = world.retire delivered := by
  have same : world = { world with sent := world.sent ++ [] } := by simp
  unfold send
  split
  · exact .inl ⟨[], same⟩
  · split
    · rcases routeFencedRun_cases sessionId world delivered route with
        left | ⟨current, _, _, ⟨_, sent⟩ | ⟨_, _, _, _, retired⟩⟩
      · rw [left]
        exact .inl ⟨[], same⟩
      · rw [sent]
        exact .inl ⟨[_], rfl⟩
      · exact .inr retired
    · exact .inl ⟨[_], rfl⟩

@[simp] theorem send_tasks : (world.send sessionId delivered route).tasks = world.tasks := by
  rcases send_cases sessionId world delivered route with ⟨_, sent⟩ | retired
  · rw [sent]
  · rw [retired, retire_tasks]

@[simp] theorem send_subscriber :
    (world.send sessionId delivered route).subscriber = world.subscriber := by
  rcases send_cases sessionId world delivered route with ⟨_, sent⟩ | retired
  · rw [sent]
  · rw [retired, retire_subscriber]

@[simp] theorem send_now : (world.send sessionId delivered route).now = world.now := by
  rcases send_cases sessionId world delivered route with ⟨_, sent⟩ | retired
  · rw [sent]
  · rw [retired, retire_now]

@[simp] theorem send_connections :
    (world.send sessionId delivered route).connections = world.connections := by
  rcases send_cases sessionId world delivered route with ⟨_, sent⟩ | retired
  · rw [sent]
  · rw [retired, retire_connections]

theorem send_plain (plain : delivered.plain = true) :
    world.send sessionId delivered route =
      world.push ⟨route.connection, lane route delivered, delivered⟩ := by
  simp only [InboxMessage.plain, Bool.and_eq_true, decide_eq_true_eq] at plain
  unfold send
  rw [if_neg plain.1, if_neg plain.2]

theorem send_fenced (fenced : delivered.kind = .fencedRun) :
    world.send sessionId delivered route = world.routeFencedRun sessionId delivered route := by
  unfold send
  rw [if_neg (by rw [fenced]; decide), if_pos fenced]

theorem announcing_subscriber (world : World) (route : Route) : ∃ subscriber,
    (if (route.preload.getD none).isSome then world.announce route else world) =
      { world with subscriber := subscriber } := by
  split
  · unfold announce
    split
    · exact ⟨world.subscriber, rfl⟩
    · split
      · exact ⟨_, rfl⟩
      · exact ⟨world.subscriber, rfl⟩
  · exact ⟨world.subscriber, rfl⟩

theorem unsubscribe_subscriber (world : World) (lease : Option Nat) : ∃ subscriber,
    world.unsubscribe lease = { world with subscriber := subscriber } := by
  unfold unsubscribe
  split
  · exact ⟨none, rfl⟩
  · split
    · exact ⟨none, rfl⟩
    · exact ⟨world.subscriber, rfl⟩

theorem rename_files (different : source ≠ dest)
    (renamed : maildir.rename source dest name = some after) (member : message ∈ after.files dir) :
    ∃ dir, message ∈ maildir.files dir := by
  obtain ⟨moved, there, found, _, _⟩ := rename_eq_some.1 renamed
  rcases (mem_rename different found renamed).1 member with ⟨_, rfl⟩ | ⟨member, _⟩
  · exact ⟨source, (find_eq_some found).1⟩
  · exact ⟨dir, member⟩

section
variable (sessionId : String)

section
variable (world : World)

theorem advance_cases (place : Nat) (chance : Chance) (task : Task) :
    (∃ scan route delivered out, task = .scanning scan route (.sending (delivered :: out)) ∧
      world.advance sessionId place chance task = (world.send sessionId delivered route).turn place
        (some (.scanning scan route (.sending out)))) ∨
    (∃ subscriber tasks,
      world.advance sessionId place chance task =
        { world with subscriber := subscriber, tasks := tasks } ∧
      ∀ now, subscriber = some now → world.subscriber = some now ∨
        (∃ route, task = .announcing route ∧ (route.preload.getD none).isSome = true ∧
          now.connection = route.connection ∧ now.hostObservation = route.preload.getD none ∧
          ∃ before, world.subscriber = some before ∧ before.connection = now.connection) ∨
        ∃ route, task = .inserting route ∧ now.connection = route.connection ∧
          now.hostObservation = none) ∨
    ∃ maildir owed tasks,
      world.advance sessionId place chance task =
        { world with maildir := maildir, owed := owed, tasks := tasks } ∧
      ∀ dir, ∀ message ∈ maildir.files dir,
        (∃ dir, message ∈ world.maildir.files dir) ∨ task = .publishing message := by
  have kept : ∀ dir, ∀ message ∈ world.maildir.files dir,
      (∃ dir, message ∈ world.maildir.files dir) ∨ task = .publishing message :=
    fun dir message member => .inl ⟨dir, member⟩
  have made : ∀ made dir, ∀ message ∈ (world.maildir.ensureDir made).files dir,
      (∃ dir, message ∈ world.maildir.files dir) ∨ task = .publishing message := by
    intro made dir message member
    rw [files_ensureDir] at member
    exact .inl ⟨dir, member⟩
  have removed : ∀ place' name dir, ∀ message ∈ (world.maildir.removeFile place' name).files dir,
      (∃ dir, message ∈ world.maildir.files dir) ∨ task = .publishing message := by
    intro place' name dir message member
    rw [mem_removeFile] at member
    exact .inl ⟨dir, member.1⟩
  cases task with
  | creating other => exact .inr (.inr ⟨_, _, _, rfl, made _⟩)
  | writing other =>
    refine .inr (.inr ?_)
    unfold advance
    dsimp only
    split
    · rename_i maildir created
      refine ⟨_, _, _, rfl, fun dir message member => ?_⟩
      change message ∈ (maildir.folder dir).getD [] at member
      rw [createTemp_files created] at member
      exact .inl ⟨dir, member⟩
    · exact ⟨_, _, _, rfl, kept⟩
  | publishing other =>
    refine .inr (.inr ?_)
    unfold advance
    dsimp only
    split
    · rename_i published
      refine ⟨_, _, _, rfl, fun dir message member => ?_⟩
      rcases (mem_publish published).1 member with ⟨_, rfl⟩ | ⟨member, _⟩
      · exact .inr rfl
      · exact .inl ⟨dir, member⟩
    · exact ⟨_, _, _, rfl, kept⟩
  | inserting route =>
    refine .inr (.inl ⟨_, _, rfl, ?_⟩)
    rintro now ⟨⟩
    exact .inr (.inr ⟨route, rfl, rfl, rfl⟩)
  | scanning scan route stage =>
    cases stage with
    | ensuring left =>
      cases left with
      | nil => exact .inr (.inr ⟨_, _, _, rfl, kept⟩)
      | cons dir left => exact .inr (.inr ⟨_, _, _, rfl, made _⟩)
    | listing => exact .inr (.inr ⟨_, _, _, rfl, kept⟩)
    | taking names out =>
      refine .inr (.inr ?_)
      cases names with
      | nil => exact ⟨_, _, _, rfl, kept⟩
      | cons name names =>
        cases scan with
        | recover => exact ⟨_, _, _, rfl, kept⟩
        | drain =>
          unfold advance scanStep
          dsimp only
          split
          · rename_i claimed
            exact ⟨_, _, _, rfl, fun dir message member =>
              .inl (rename_files (by decide) claimed member)⟩
          · exact ⟨_, _, _, rfl, kept⟩
    | reading name names out =>
      refine .inr (.inr ?_)
      unfold advance scanStep
      dsimp only
      split <;> exact ⟨_, _, _, rfl, kept⟩
    | quarantining name names out =>
      refine .inr (.inr ⟨_, _, _, rfl, fun dir message member => ?_⟩)
      unfold quarantine at member
      cases renamed : world.maildir.rename .cur .corrupt name with
      | none =>
        rw [renamed] at member
        exact kept dir message member
      | some after =>
        rw [renamed] at member
        exact .inl (rename_files (by decide) renamed member)
    | sending out =>
      cases out with
      | nil => exact .inr (.inr ⟨_, _, _, rfl, kept⟩)
      | cons delivered out => exact .inl ⟨scan, route, delivered, out, rfl, rfl⟩
  | announcing route =>
    refine .inr (.inl ?_)
    obtain ⟨subscriber, announced⟩ := announcing_subscriber world route
    refine ⟨subscriber, world.tasks.set place none, ?_, fun now registered => ?_⟩
    · unfold advance
      dsimp only
      rw [announced]
      rfl
    · have registered : (if (route.preload.getD none).isSome then world.announce route
          else world).subscriber = some now := by
        rw [announced]
        exact registered
      split at registered
      · rename_i present
        unfold announce at registered
        split at registered
        · exact .inl registered
        · rename_i current there
          split at registered
          · rename_i same
            cases registered
            exact .inr (.inl ⟨route, rfl, present, same, rfl, current, there, rfl⟩)
          · exact .inl registered
      · exact .inl registered
  | unsubscribing lease =>
    refine .inr (.inl ?_)
    obtain ⟨subscriber, unsubscribed⟩ := unsubscribe_subscriber world lease
    refine ⟨subscriber, world.tasks.set place none, ?_, fun now registered => .inl ?_⟩
    · unfold advance
      dsimp only
      rw [unsubscribed]
      rfl
    · have registered : (world.unsubscribe lease).subscriber = some now := by
        rw [unsubscribed]
        exact registered
      unfold unsubscribe at registered
      split at registered
      · cases registered
      · split at registered
        · cases registered
        · exact registered
  | removing messageId name =>
    refine .inr (.inr ?_)
    unfold advance
    dsimp only
    split
    · exact ⟨_, _, _, rfl, removed _ _⟩
    · exact ⟨_, _, _, rfl, kept⟩
  | sweeping sweep =>
    refine .inr (.inr ?_)
    cases sweep with
    | removing =>
      unfold advance sweepStep
      dsimp only
      split
      · exact ⟨_, _, _, rfl, removed _ _⟩
      · exact ⟨_, _, _, rfl, kept⟩
      · refine ⟨_, _, _, rfl, fun dir message member => ?_⟩
        rw [files_removeDir] at member
        exact .inl ⟨dir, member⟩
      · exact ⟨_, _, _, rfl, kept⟩
    | _ => exact ⟨_, _, _, rfl, kept⟩
  | _ => exact .inr (.inr ⟨_, _, _, rfl, kept⟩)

theorem advance_sent (place : Nat) (chance : Chance) (task : Task) :
    (world.advance sessionId place chance task).sent = world.sent ∨
    ∃ scan route delivered out, task = .scanning scan route (.sending (delivered :: out)) ∧
      (world.advance sessionId place chance task).sent =
        (world.send sessionId delivered route).sent := by
  rcases advance_cases sessionId world place chance task with
    ⟨scan, route, delivered, out, is, after⟩ | ⟨_, _, after, _⟩ | ⟨_, _, _, after, _⟩
  · exact .inr ⟨scan, route, delivered, out, is, by rw [after]; rfl⟩
  · exact .inl (by rw [after])
  · exact .inl (by rw [after])

theorem sent_kept (place : Nat) (chance : Chance) (task : Task) (member : pushed ∈ world.sent) :
    pushed ∈ (world.advance sessionId place chance task).sent := by
  rcases advance_sent sessionId world place chance task with
    same | ⟨scan, route, delivered, out, _, sent⟩
  · rw [same]
    exact member
  · rw [sent]
    rcases send_cases sessionId world delivered route with ⟨pushes, grown⟩ | retired
    · rw [grown]
      exact List.mem_append_left _ member
    · rw [retired]
      exact member

theorem advance_files (place : Nat) (chance : Chance) (task : Task)
    (member : message ∈ (world.advance sessionId place chance task).maildir.files dir) :
    (∃ dir, message ∈ world.maildir.files dir) ∨ task = .publishing message := by
  rcases advance_cases sessionId world place chance task with
    ⟨scan, route, delivered, out, _, after⟩ | ⟨_, _, after, _⟩ | ⟨_, _, _, after, brought⟩
  · rw [after, turn_maildir] at member
    rcases send_cases sessionId world delivered route with ⟨pushes, sent⟩ | retired
    · rw [sent] at member
      exact .inl ⟨dir, member⟩
    · rw [retired, retire_maildir, mem_removeFile] at member
      exact .inl ⟨dir, member.1⟩
  · rw [after] at member
    exact .inl ⟨dir, member⟩
  · rw [after] at member
    exact brought dir message member

theorem advance_now (place : Nat) (chance : Chance) (task : Task) :
    (world.advance sessionId place chance task).now = world.now ∧
      (world.advance sessionId place chance task).connections = world.connections := by
  rcases advance_cases sessionId world place chance task with
    ⟨scan, route, delivered, out, _, after⟩ | ⟨_, _, after, _⟩ | ⟨_, _, _, after, _⟩
  · rw [after, turn_now, turn_connections, send_now, send_connections]
    exact ⟨rfl, rfl⟩
  · rw [after]
    exact ⟨rfl, rfl⟩
  · rw [after]
    exact ⟨rfl, rfl⟩

theorem advance_subscriber (place : Nat) (chance : Chance) (task : Task) {now : Subscriber}
    (registered : (world.advance sessionId place chance task).subscriber = some now) :
    world.subscriber = some now ∨
    (∃ route, task = .announcing route ∧ (route.preload.getD none).isSome = true ∧
      now.connection = route.connection ∧ now.hostObservation = route.preload.getD none ∧
      ∃ before, world.subscriber = some before ∧ before.connection = now.connection) ∨
    ∃ route, task = .inserting route ∧ now.connection = route.connection ∧
      now.hostObservation = none := by
  rcases advance_cases sessionId world place chance task with
    ⟨scan, route, delivered, out, _, after⟩ | ⟨_, _, after, who⟩ | ⟨_, _, _, after, _⟩
  · rw [after, turn_subscriber, send_subscriber] at registered
    exact .inl registered
  · rw [after] at registered
    exact who now registered
  · rw [after] at registered
    exact .inl registered

end

end

end World

section Proceeding

variable {place : Nat}

theorem join_eq_some {tasks : List (Option Task)} :
    tasks[place]?.join = some task ↔ tasks[place]? = some (some task) := by
  cases tasks[place]? <;> simp

theorem step_proceed (there : world.tasks[place]? = some (some task)) :
    step sessionId mint world (.proceed place chance) =
      world.advance sessionId place chance task := by
  unfold step
  dsimp only
  rw [join_eq_some.2 there]

theorem step_idle (none_ : world.tasks[place]?.join = none) :
    step sessionId mint world (.proceed place chance) = world := by
  unfold step
  dsimp only
  rw [none_]

end Proceeding

end Brokers
