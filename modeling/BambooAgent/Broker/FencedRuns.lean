import BambooAgent.Broker.Generations

/- What the steps of the broker do to fenced Runs, over every run. -/
namespace Brokers
open List hiding after
open Maildir Interleavings World

/-- The broker has just started, and nothing names a generation that is still to be minted. -/
structure Beginning (mint : Nat → String) (world : World) : Prop where
  quiescent : Quiescent world
  unsubscribed : world.subscriber = none
  identified : ∀ first second, ∀ message ∈ world.maildir.files first,
    ∀ other ∈ world.maildir.files second, message.fileName = other.fileName → message = other
  unnamed : ∀ dir, ∀ message ∈ world.maildir.files dir, ∀ connection,
    Names message (mint connection) → connection < world.connections

def Authenticated (mint : Nat → String) (world : World) (connection : Nat)
    (observation : WorkerHostObservation) : Prop :=
  (∃ current, world.subscriber = some current ∧ current.connection = connection) ∧
    observation.connectionGeneration = mint connection

/-- A fenced Run that a step sends goes to the current connection, which its envelope fits. -/
def SendsFenced (sessionId : String) (mint : Nat → String) (world after : World) : Prop :=
  ∀ push ∈ after.sent.drop world.sent.length, push.message.kind = .fencedRun →
    ∃ observation envelope, Authenticated mint world push.connection observation ∧
      push.message.body.envelope = some envelope ∧
      envelope.recipientConnectionGeneration = mint push.connection ∧
      envelope.matchesObservation sessionId world.now observation = true

/-- A fenced Run that the routing deletes is stale: another generation is current, and the envelope
    is valid but for that. -/
def RetiresFenced (sessionId : String) (mint : Nat → String) (world after : World) : Prop :=
  ∀ message, message.kind = .fencedRun → (∃ dir, message ∈ world.maildir.files dir) →
    (∀ dir, message ∉ after.maildir.files dir) →
    ∃ connection observation envelope, Authenticated mint world connection observation ∧
      message.body.envelope = some envelope ∧
      envelope.recipientConnectionGeneration ≠ mint connection ∧
      envelope.matchesObservation sessionId world.now
        (oldTarget envelope sessionId observation) = true

/-- No fenced Run is sent or deleted. -/
def LeavesFenced (world after : World) : Prop :=
  (∀ push ∈ after.sent.drop world.sent.length, push.message.kind ≠ .fencedRun) ∧
  ∀ message, message.kind = .fencedRun → (∃ dir, message ∈ world.maildir.files dir) →
    ∃ dir, message ∈ after.maildir.files dir

/-- What a step does to fenced Runs. -/
structure KeepsFence (sessionId : String) (mint : Nat → String) (world : World) (act : Act) :
    Prop where
  sends : SendsFenced sessionId mint world (step sessionId mint world act)
  retires : ∀ place chance scan route stage, act = .proceed place chance →
    world.tasks[place]? = some (some (.scanning scan route stage)) →
    RetiresFenced sessionId mint world (step sessionId mint world act)
  superseded : ∀ place chance scan route stage, act = .proceed place chance →
    world.tasks[place]? = some (some (.scanning scan route stage)) →
    route.preload.isSome = true → world.current route.connection = false →
    LeavesFenced world (step sessionId mint world act)

section Fences
variable {sessionId : String} {mint : Nat → String} {world : World} {place : Nat}
  {chance : Chance} {scan : Scan} {route : Route}

theorem send_unfenced (other : delivered.kind ≠ .fencedRun) : ∃ pushes,
    world.send sessionId delivered route = { world with sent := world.sent ++ pushes } ∧
      ∀ push ∈ pushes, push.message = delivered := by
  unfold send
  split
  · exact ⟨[], by simp, fun _ member => by cases member⟩
  · exact ⟨[_], rfl, fun push member => by rw [mem_singleton.1 member]⟩

theorem seen_generation (fenced : Fenced sessionId mint world)
    (there : world.tasks[place]? = some (some (.scanning scan route stage))) {current : Subscriber}
    (registered : world.subscriber = some current)
    (own : route.preload.isSome = true → current.connection = route.connection)
    (seen : current.hostObservation.or (route.preload.getD none) = some observation) :
    observation.connectionGeneration = mint current.connection := by
  cases observed : current.hostObservation with
  | some observation' =>
    rw [observed] at seen
    cases seen
    exact (((fenced.current current registered).2) observation observed).1
  | none =>
    rw [observed] at seen
    cases handed : route.preload with
    | none =>
      rw [handed] at seen
      cases seen
    | some inner =>
      rw [handed] at seen own
      have preload : (Task.scanning scan route stage).preload = some route := by
        change (if route.preload.isSome then some route else none) = some route
        rw [handed]
        rfl
      rw [own rfl]
      exact (fenced.routes place _ there route preload).own observation
        (handed.trans (congrArg some seen))

theorem rename_keeps (fenced : Fenced sessionId mint world) (different : source ≠ dest)
    (renamed : world.maildir.rename source dest name = some after)
    (member : message ∈ world.maildir.files dir) : ∃ dir, message ∈ after.files dir := by
  obtain ⟨moved, _, found, _, _⟩ := rename_eq_some.1 renamed
  have held := find_eq_some found
  by_cases same : message.fileName = name
  · have one : message = moved := fenced.identified message moved (.inl ⟨dir, member⟩)
      (.inl ⟨source, held.1⟩) (same.trans held.2.symm)
    exact ⟨dest, (mem_rename different found renamed).2 (.inl ⟨rfl, one⟩)⟩
  · exact ⟨dir, (mem_rename different found renamed).2 (.inr ⟨member, fun away => same away.1⟩)⟩

theorem scan_keeps (fenced : Fenced sessionId mint world)
    (there : world.tasks[place]? = some (some (.scanning scan route stage))) {dir : Place}
    (member : message ∈ world.maildir.files dir) :
    (∃ dir, message ∈
      (world.advance sessionId place chance (.scanning scan route stage)).maildir.files dir) ∨
    ∃ out, stage = .sending (message :: out) ∧
      world.send sessionId message route = world.retire message := by
  cases stage with
  | ensuring left =>
    refine .inl ⟨dir, ?_⟩
    cases left with
    | nil => exact member
    | cons made left =>
      change message ∈ (world.maildir.ensureDir made).files dir
      rw [files_ensureDir]
      exact member
  | listing => exact .inl ⟨dir, member⟩
  | taking names out =>
    refine .inl ?_
    cases names with
    | nil => exact ⟨dir, member⟩
    | cons name names =>
      cases scan with
      | recover => exact ⟨dir, member⟩
      | drain =>
        unfold advance scanStep
        dsimp only
        split
        · rename_i claimed
          exact rename_keeps fenced (by decide) claimed member
        · exact ⟨dir, member⟩
  | reading name names out =>
    refine .inl ⟨dir, ?_⟩
    unfold advance scanStep
    dsimp only
    split <;> exact member
  | quarantining name names out =>
    refine .inl ?_
    change ∃ dir, message ∈ (world.maildir.quarantine name).files dir
    unfold quarantine
    cases renamed : world.maildir.rename .cur .corrupt name with
    | none => exact ⟨dir, member⟩
    | some after => exact rename_keeps fenced (by decide) renamed member
  | sending out =>
    cases out with
    | nil => exact .inl ⟨dir, member⟩
    | cons delivered out =>
      have step_ : (world.advance sessionId place chance
          (.scanning scan route (.sending (delivered :: out)))).maildir =
          (world.send sessionId delivered route).maildir := rfl
      rw [step_]
      rcases send_cases sessionId world delivered route with ⟨pushes, sent⟩ | retired
      · rw [sent]
        exact .inl ⟨dir, member⟩
      · by_cases same : message.fileName = delivered.fileName
        · have one : message = delivered := fenced.identified message delivered
            (.inl ⟨dir, member⟩) (.inr ⟨place, _, there, mem_cons_self⟩) same
          subst one
          exact .inr ⟨out, rfl, retired⟩
        · rw [retired]
          exact .inl ⟨dir, mem_removeFile.2 ⟨member, fun away => same away.2⟩⟩

section
variable (fenced : Fenced sessionId mint world)
include fenced

theorem sends_fenced (there : world.tasks[place]? = some (some task)) :
    SendsFenced sessionId mint world (world.advance sessionId place chance task) := by
  intro push member kind
  rcases advance_sent sessionId world place chance task with
    same | ⟨scan, route, delivered, out, rfl, sent⟩
  · rw [same, drop_length] at member
    cases member
  · rw [sent] at member
    by_cases fencedRun : delivered.kind = .fencedRun
    · rw [send_fenced fencedRun] at member
      rcases routeFencedRun_cases sessionId world delivered route with
        left | ⟨current, registered, own, ⟨fits, pushed⟩ | ⟨_, _, _, _, retired⟩⟩
      · rw [left, drop_length] at member
        cases member
      · rw [pushed, push_sent, drop_left] at member
        cases mem_singleton.1 member
        obtain ⟨envelope, observation, decoded, seen, fits⟩ :=
          fencedRunForObservation_fenced fencedRun fits
        have generation := seen_generation fenced there registered own seen
        exact ⟨observation, envelope, ⟨⟨current, registered, rfl⟩, generation⟩, decoded,
          (FencedRunEnvelope.matchesObservation_generation fits).trans generation, fits⟩
      · rw [retired, retire_sent, drop_length] at member
        cases member
    · obtain ⟨pushes, pushed, all⟩ := @send_unfenced sessionId world route delivered fencedRun
      rw [pushed, drop_left] at member
      rw [all push member] at kind
      exact absurd kind fencedRun

theorem retires_fenced (there : world.tasks[place]? = some (some (.scanning scan route stage))) :
    RetiresFenced sessionId mint world
      (world.advance sessionId place chance (.scanning scan route stage)) := by
  rintro message kind ⟨dir, member⟩ gone
  rcases @scan_keeps sessionId mint world place chance scan route stage message fenced there dir
    member with ⟨dir', kept⟩ | ⟨out, rfl, sent⟩
  · exact absurd kept (gone dir')
  · rw [send_fenced kind] at sent
    have deleted : ∀ world' : World, world' = world.retire message →
        message ∉ world'.maildir.files .cur := by
      rintro world' rfl held
      rw [retire_maildir, mem_removeFile] at held
      exact held.2 ⟨rfl, rfl⟩
    have held : dir = .cur := by
      by_contra elsewhere
      refine gone dir ?_
      change message ∈ (world.send sessionId message route).maildir.files dir
      rw [send_fenced kind, sent, retire_maildir, mem_removeFile]
      exact ⟨member, fun away => elsewhere away.1⟩
    subst held
    rcases routeFencedRun_cases sessionId world message route with
      left | ⟨current, registered, own, ⟨_, pushed⟩ | ⟨observation, _, seen, stale, _⟩⟩
    · exact absurd member (deleted world (left.symm.trans sent))
    · exact absurd member (deleted (world.push ⟨current.connection, .control, message⟩)
        (pushed.symm.trans sent))
    · have generation := seen_generation fenced there registered own seen
      obtain ⟨envelope, _, decoded, other, fits⟩ := confirmedStale_spec stale
      exact ⟨current.connection, observation, envelope, ⟨⟨current, registered, rfl⟩, generation⟩,
        decoded, generation ▸ other, fits⟩

theorem leaves_fenced (there : world.tasks[place]? = some (some (.scanning scan route stage)))
    (preload : route.preload.isSome = true) (superseded : world.current route.connection = false) :
    LeavesFenced world (world.advance sessionId place chance (.scanning scan route stage)) := by
  have alone : ∀ delivered, world.routeFencedRun sessionId delivered route = world := by
    intro delivered
    rcases routeFencedRun_cases sessionId world delivered route with left | ⟨current, registered, own, _⟩
    · exact left
    · unfold World.current at superseded
      rw [registered, Option.any_some, decide_eq_false_iff_not] at superseded
      exact absurd (own preload) superseded
  constructor
  · intro push member
    rcases advance_sent sessionId world place chance (.scanning scan route stage) with
      same | ⟨scan', route', delivered, out, same, sent⟩
    · rw [same, drop_length] at member
      cases member
    · cases same
      rw [sent] at member
      by_cases fencedRun : delivered.kind = .fencedRun
      · rw [send_fenced fencedRun, alone, drop_length] at member
        cases member
      · obtain ⟨pushes, pushed, all⟩ := @send_unfenced sessionId world route delivered fencedRun
        rw [pushed, drop_left] at member
        rw [all push member]
        exact fencedRun
  · rintro message kind ⟨dir, member⟩
    rcases @scan_keeps sessionId mint world place chance scan route stage message fenced there dir
      member with kept | ⟨out, rfl, sent⟩
    · exact kept
    · refine ⟨dir, ?_⟩
      change message ∈ (world.send sessionId message route).maildir.files dir
      rw [send_fenced kind, alone]
      exact member

theorem keeps_fence (act : Act) : KeepsFence sessionId mint world act where
  sends := by
    have still : ∀ world' : World, world'.sent = world.sent →
        SendsFenced sessionId mint world world' := by
      intro world' same push member
      rw [same, drop_length] at member
      cases member
    cases act with
    | proceed place chance =>
      cases there : world.tasks[place]?.join with
      | none =>
        rw [step_idle there]
        exact still world rfl
      | some task =>
        rw [step_proceed (join_eq_some.1 there)]
        exact sends_fenced fenced (join_eq_some.1 there)
    | _ => exact still _ rfl
  retires := by
    rintro place chance scan route stage rfl there
    rw [step_proceed there]
    exact retires_fenced fenced there
  superseded := by
    rintro place chance scan route stage rfl there preload superseded
    rw [step_proceed there]
    exact leaves_fenced fenced there preload superseded

end

theorem fenced_of_beginning (beginning : Beginning mint world) : Fenced sessionId mint world := by
  have idle : ∀ {P : Task → Prop}, Every P world.tasks := by
    intro P at_ task found
    cases beginning.quiescent _ (mem_of_getElem? found)
  have unsubscribed : ∀ subscriber, world.subscriber ≠ some subscriber := by
    intro subscriber registered
    rw [beginning.unsubscribed] at registered
    cases registered
  constructor
  · exact unswept_of_rest beginning.quiescent
      (fun dir message member other member' => beginning.identified dir dir message member other member')
  · rintro message other (⟨dir, member⟩ | held) known
    · rcases known with ⟨dir', member'⟩ | held'
      · exact beginning.identified dir dir' message member other member'
      · exact absurd held' (not_someone beginning.quiescent)
    · exact absurd held (not_someone beginning.quiescent)
  · exact idle
  · intro first second one other route route' found
    cases beginning.quiescent _ (mem_of_getElem? found)
  · exact fun subscriber registered => absurd registered (unsubscribed subscriber)
  · intro dir message member connection names
    exact ⟨beginning.unnamed dir message member connection names, idle,
      fun subscriber registered => absurd registered (unsubscribed subscriber)⟩
  · exact idle
  · exact fun subscriber _ registered => absurd registered (unsubscribed subscriber)

end Fences

/-- Generations that are never minted twice. In a run that leaves no fenced Run of the current
    generation to a preload: fenced Runs are sent only to the current connection that they name,
    are deleted only as stale, are left alone by a superseded preload, and, once no operation is in
    progress, the announced connection has been sent those that it fits. -/
theorem fenced_runs_reach_their_generation (sessionId : String) (mint : Nat → String)
    (injective : Function.Injective mint) {world : World} (beginning : Beginning mint world)
    (acts : List Act) (minds : Along (step sessionId mint) Minds world acts) :
    (∀ before act rest, acts = before ++ act :: rest →
      KeepsFence sessionId mint (run (step sessionId mint) world before) act) ∧
    (Quiescent (run (step sessionId mint) world acts) → ∀ current observation,
      (run (step sessionId mint) world acts).subscriber = some current →
      current.hostObservation = some observation → ∀ dir, dir ≠ .corrupt →
      ∀ message ∈ (run (step sessionId mint) world acts).maildir.files dir, ∀ envelope,
        message.kind = .fencedRun → message.body.envelope = some envelope →
        envelope.matchesObservation sessionId (run (step sessionId mint) world acts).now
          observation = true →
        ⟨current.connection, .control, message⟩ ∈ (run (step sessionId mint) world acts).sent) := by
  have start : Fenced sessionId mint world := fenced_of_beginning beginning
  constructor
  · rintro before act rest rfl
    exact keeps_fence (along_keeps (fun _ _ => fenced_step injective) before
      (along_append.1 minds).1 start) act
  · intro quiescent current observation registered observed dir inside message member envelope
      kind decoded fits
    have fenced := along_keeps (fun _ _ => fenced_step injective) acts minds start
    have attended := fenced.attended current observation registered observed
    have names : Names message observation.connectionGeneration := ⟨kind, envelope, decoded,
      FencedRunEnvelope.matchesObservation_generation fits⟩
    cases dir with
    | new => exact absurd (attended.waiting message member names) (not_someone quiescent)
    | cur =>
      rcases attended.claimed message member names with (sent | expired) | held
      · exact sent
      · rw [expired envelope decoded] at fits
        cases fits
      · exact absurd held (not_someone quiescent)
    | corrupt => exact absurd rfl inside

/-- Generations of different lengths. -/
def tally (connection : Nat) : String := String.ofList (List.replicate (connection + 1) 'g')

theorem tally_injective : Function.Injective tally := by
  intro first second same
  have lengths := congrArg (fun text : String => text.toList.length) same
  simpa [tally] using lengths

theorem vacant_beginning (mint : Nat → String) : Beginning mint vacant where
  quiescent := by
    intro task member
    cases member
  unsubscribed := rfl
  identified := by
    intro first second message member
    cases member
  unnamed := by
    intro dir message member
    cases member

def workerHost : AuthenticatedHost := ⟨"h", 10⟩

def remoteRun : RunSpec :=
  ⟨some ⟨"a", some 1⟩, some ⟨none, some ⟨"a", "r1", 1⟩⟩, some "r1", 1⟩

/-- A Run for the generation of connection 1. -/
def secondRun : InboxMessage :=
  ⟨"m", .fencedRun, .fenced ⟨1, "h", "s", tally 1, "worker", remoteRun⟩, some 1⟩

def connects : Act := .subscribe (some "worker") true (some workerHost) true

def walk (place steps : Nat) : List Act := List.replicate steps (.proceed place usual)

/-- Connection 0 is superseded after its preload is over, and the Run is delivered to connection 1. -/
def ranAfterPreload : List Act :=
  [connects] ++ walk 0 16 ++ [connects] ++ walk 1 16 ++ [.deliver secondRun] ++ walk 2 18

/-- The preload of connection 0 is not over when connection 1 is announced; it claims the Run that
    is delivered to connection 1, and leaves it. -/
def ranDuringPreload : List Act :=
  [connects] ++ walk 0 8 ++ [connects] ++ walk 1 16 ++ [.deliver secondRun] ++ walk 2 4 ++
    walk 0 16 ++ walk 2 16

/-- No subscription claims anything, and nothing known has the name of what is delivered. -/
def quietPreloads (world : World) : Act → Bool
  | .sweep => false
  | .deliver message =>
    [Place.new, .cur, .corrupt].all (fun dir => (world.maildir.files dir).all (fun other =>
      decide (other.fileName = message.fileName → other = message))) &&
    world.tasks.all (fun task => task.all (fun task => task.messages.all (fun other =>
      decide (other.fileName = message.fileName → other = message))))
  | .proceed place _ =>
    match world.tasks[place]?.join with
    | some (.scanning .drain route (.taking (_ :: _) _)) => route.preload.isNone
    | _ => true
  | _ => true

theorem minds_of_quiet (quiet : quietPreloads world act = true) : Minds world act := by
  cases act with
  | sweep => cases quiet
  | deliver message =>
    change ([Place.new, .cur, .corrupt].all _ && world.tasks.all _) = true at quiet
    rw [Bool.and_eq_true] at quiet
    rintro other (⟨dir, member⟩ | ⟨at_, task, found, member⟩) same
    · have files := quiet.1
      rw [all_eq_true] at files
      have files := files dir (by cases dir <;> decide)
      rw [all_eq_true] at files
      exact of_decide_eq_true (files other member) same
    · have tasks := quiet.2
      rw [all_eq_true] at tasks
      have held := tasks (some task) (mem_of_getElem? found)
      rw [Option.all_some, all_eq_true] at held
      exact of_decide_eq_true (held other member) same
  | proceed place chance =>
    unfold quietPreloads at quiet
    unfold Minds
    dsimp only at quiet ⊢
    split
    · rename_i there
      rw [there] at quiet
      intro preload
      rw [Option.isNone_iff_eq_none.1 quiet] at preload
      cases preload
    · trivial
  | _ => trivial

theorem second_run_sent :
    ⟨1, .control, secondRun⟩ ∈ (run (step "s" tally) vacant ranAfterPreload).sent := by
  have quiet : Along (step "s" tally) (fun world act => quietPreloads world act = true) vacant
      ranAfterPreload := by decide +kernel
  exact (fenced_runs_reach_their_generation "s" tally tally_injective (vacant_beginning tally)
    ranAfterPreload (along_mono (fun _ _ => minds_of_quiet) ranAfterPreload quiet)).2
    (by decide +kernel)
    ⟨1, true, some (observationOf "s" tally 1 (some "worker") true workerHost)⟩
    (observationOf "s" tally 1 (some "worker") true workerHost) (by decide +kernel) rfl .cur
    (by decide) secondRun (by decide +kernel) ⟨1, "h", "s", tally 1, "worker", remoteRun⟩ rfl rfl
    (by decide +kernel)

theorem second_run_stranded :
    Quiescent (run (step "s" tally) vacant ranDuringPreload) ∧
      (run (step "s" tally) vacant ranDuringPreload).subscriber =
        some ⟨1, true, some (observationOf "s" tally 1 (some "worker") true workerHost)⟩ ∧
      secondRun ∈ (run (step "s" tally) vacant ranDuringPreload).maildir.files .cur ∧
      FencedRunEnvelope.matchesObservation ⟨1, "h", "s", tally 1, "worker", remoteRun⟩ "s"
        (run (step "s" tally) vacant ranDuringPreload).now
        (observationOf "s" tally 1 (some "worker") true workerHost) = true ∧
      (run (step "s" tally) vacant ranDuringPreload).sent = [] := by
  decide +kernel

end Brokers
