import BambooAgent.Broker.Attendance

/- Whether a subscriber gets every message of its mailbox, whoever claims it. -/
namespace Brokers
open Maildir Interleavings World

def Sinks (connection : Nat) (route : Route) : Prop := route.connection = connection

/-- A step that leaves no message to an older connection: after the recover scan of the registered
    connection has listed `cur`, a message that is not a Run is claimed by a call that holds the
    sinks of that connection only. No mailbox is swept. -/
def Yields (world : World) : Act → Prop
  | .sweep => False
  | .proceed place _ =>
    match world.tasks[place]?.join with
    | some (.scanning .drain route (.taking (name :: _) _)) =>
      ∀ subscriber, world.subscriber = some subscriber →
        route.connection = subscriber.connection ∨
        (∀ message ∈ world.maildir.files .new, message.fileName = name → message.plain = false) ∨
        Someone (Loads (Sinks subscriber.connection)) world.tasks
    | _ => True
  | _ => True

/-- The broker has just started on what an earlier one left. -/
structure Started (world : World) : Prop where
  quiescent : Quiescent world
  unsubscribed : world.subscriber = none
  distinct : Distinct world.maildir

/-- The messages that are not Runs are to be sent to the sinks of the connection. -/
def courier (connection : Nat) : Duty where
  own := Sinks connection
  relevant message := message.plain = true
  done world message := ∃ lane, ⟨connection, lane, message⟩ ∈ world.sent

structure Tended (world : World) : Prop where
  unswept : Unswept world
  attended : ∀ subscriber, world.subscriber = some subscriber →
    Attended (courier subscriber.connection) world

section Kept
variable {world : World}

theorem obliges_courier {subscriber : Subscriber}
    (there : world.tasks[place]? = some (some task)) (registered : world.subscriber = some subscriber)
    (yields : Yields world (.proceed place chance)) :
    Obliges (courier subscriber.connection) world
      (world.advance sessionId place chance task) task where
  done := by
    rintro message ⟨lane, pushed⟩
    exact ⟨lane, sent_kept sessionId world place chance task pushed⟩
  claims := by
    rintro route name names out rfl
    unfold Yields at yields
    dsimp only at yields
    rw [join_eq_some.2 there] at yields
    rcases yields subscriber registered with own | other | loads
    · exact .inl own
    · refine .inr (.inl (fun message member named plain => ?_))
      have run := other message member named
      change message.plain = true at plain
      rw [run] at plain
      cases plain
    · exact .inr (.inr loads)
  sends := by
    rintro scan route message out rfl own plain
    refine ⟨lane route message, ?_⟩
    change _ ∈ ((world.send sessionId message route).turn place _).sent
    rw [send_plain plain, own]
    exact List.mem_append_right _ (List.mem_singleton.2 rfl)
  pushes := by
    rintro rfl
    exact ⟨subscriber, registered, rfl⟩

theorem attended_insert (there : world.tasks[place]? = some (some (.inserting route))) :
    Attended (courier route.connection)
      (world.advance sessionId place chance (.inserting route)) where
  claimed := by
    intro message _ _
    exact .inr (some_moved there ⟨rfl, rfl⟩)
  waiting := by
    intro message _ _
    exact some_moved there ⟨rfl, .inl rfl⟩

theorem tended_advance (tended : Tended world) (there : world.tasks[place]? = some (some task))
    (yields : Yields world (.proceed place chance)) :
    Tended (world.advance sessionId place chance task) where
  unswept := unswept_advance tended.unswept there
  attended := by
    intro now registered
    have onward : ∀ before, world.subscriber = some before →
        before.connection = now.connection → Attended (courier now.connection)
          (world.advance sessionId place chance task) := by
      intro before there' same
      rw [← same]
      exact attended_advance tended.unswept (tended.attended before there') there
        (obliges_courier there there' yields)
    rcases advance_subscriber sessionId world place chance task registered with
      same | ⟨_, _, _, _, _, before, there', same⟩ | ⟨route, rfl, same, _⟩
    · exact onward now same rfl
    · exact onward before there' same
    · rw [same]
      exact attended_insert there

theorem tended_step (yields : Yields world act) (tended : Tended world) :
    Tended (step sessionId mint world act) := by
  have calm : act ≠ .sweep := by
    rintro rfl
    exact yields
  have launched : ∀ {world' : World} {next : Option Task}, Unswept world' →
      world'.tasks = world.tasks ++ [next] → world'.maildir = world.maildir →
      world'.sent = world.sent → world'.subscriber = world.subscriber → Tended world' := by
    intro world' next unswept tasks maildir sent subscriber
    refine ⟨unswept, fun now registered => ?_⟩
    rw [subscriber] at registered
    refine attended_launch (tended.attended now registered) tasks maildir ?_
    rintro message ⟨lane, pushed⟩
    exact ⟨lane, by rw [sent]; exact pushed⟩
  have unswept := @unswept_step sessionId mint world act calm tended.unswept
  cases act with
  | deliver message => exact launched unswept rfl rfl rfl rfl
  | subscribe role ordered host lease => exact launched unswept rfl rfl rfl rfl
  | unsubscribe lease => exact launched unswept rfl rfl rfl rfl
  | ack messageId lease => exact launched unswept rfl rfl rfl rfl
  | sweep => exact absurd rfl calm
  | tick later =>
    refine ⟨unswept, fun now registered => ?_⟩
    have attended := tended.attended now registered
    exact ⟨attended.claimed, attended.waiting⟩
  | proceed place chance =>
    cases there : world.tasks[place]?.join with
    | none =>
      rw [step_idle there]
      exact tended
    | some task =>
      rw [step_proceed (join_eq_some.1 there)]
      exact tended_advance tended (join_eq_some.1 there) yields

theorem tended_of_start (started : Started world) : Tended world where
  unswept := unswept_of_rest started.quiescent started.distinct
  attended := by
    intro subscriber registered
    rw [started.unsubscribed] at registered
    cases registered

end Kept

/-- In a run that leaves no claim to an older connection, once no operation is in progress the
    registered subscriber has been sent every message of the mailbox that is not a Run. -/
theorem messages_reach_the_subscriber (sessionId : String) (mint : Nat → String) {world : World}
    (started : Started world) (acts : List Act)
    (yields : Along (step sessionId mint) Yields world acts)
    (quiescent : Quiescent (run (step sessionId mint) world acts)) :
    ∀ subscriber, (run (step sessionId mint) world acts).subscriber = some subscriber →
      ∀ dir, dir ≠ .corrupt → ∀ message ∈ (run (step sessionId mint) world acts).maildir.files dir,
        message.plain = true → ∃ lane, ⟨subscriber.connection, lane, message⟩ ∈
          (run (step sessionId mint) world acts).sent := by
  have tended := along_keeps (fun _ _ => tended_step) acts yields (tended_of_start started)
  intro subscriber registered dir inside message member plain
  have attended := tended.attended subscriber registered
  cases dir with
  | new => exact absurd (attended.waiting message member plain) (not_someone quiescent)
  | cur => exact (attended.claimed message member plain).resolve_right (not_someone quiescent)
  | corrupt => exact absurd rfl inside

theorem vacant_started : Started vacant where
  quiescent := by
    intro task member
    cases member
  unsubscribed := rfl
  distinct := by
    intro dir message member
    cases member

def onward (place steps : Nat) : List Act := List.replicate steps (.proceed place usual)

/-- A connection subscribes; then a message is delivered to it. -/
def deliveredOnline : List Act :=
  [.subscribe none false none false] ++ onward 0 16 ++ [.deliver note] ++ onward 1 16

/-- Every message is claimed with the sinks of the registered connection. -/
def ownClaims (world : World) : Act → Bool
  | .sweep => false
  | .proceed place _ =>
    match world.tasks[place]?.join with
    | some (.scanning .drain route _) =>
      world.subscriber.all (fun subscriber => decide (route.connection = subscriber.connection))
    | _ => true
  | _ => true

theorem yields_of_own (own : ownClaims world act = true) : Yields world act := by
  unfold ownClaims at own
  unfold Yields
  split at own
  · cases own
  · split
    · rename_i there
      rw [there] at own
      intro subscriber registered
      simp only [registered, Option.all_some, decide_eq_true_eq] at own
      exact .inl own
    · trivial
  · trivial

theorem online_note_sent :
    ∃ lane, ⟨0, lane, note⟩ ∈ (run (step "s" toString) vacant deliveredOnline).sent := by
  have own : Along (step "s" toString) (fun world act => ownClaims world act = true) vacant
      deliveredOnline := by decide +kernel
  exact messages_reach_the_subscriber "s" toString vacant_started deliveredOnline
    (along_mono (fun _ _ => yields_of_own) deliveredOnline own) (by decide +kernel)
    ⟨0, false, none⟩ (by decide +kernel) .cur (by decide) note (by decide +kernel) (by decide)

/-- A push holds the sinks of connection 0 when connection 1 subscribes; it claims the message after
    the recover scan of connection 1 and before its drain. -/
def strandedPush : List Act :=
  [.subscribe none false none false] ++ onward 0 16 ++
  [.deliver note] ++ onward 1 5 ++
  [.subscribe none false none false] ++ onward 2 6 ++
  onward 1 11 ++ onward 2 16

theorem message_stranded :
    Quiescent (run (step "s" toString) vacant strandedPush) ∧
      (run (step "s" toString) vacant strandedPush).subscriber = some ⟨1, false, none⟩ ∧
      note ∈ (run (step "s" toString) vacant strandedPush).maildir.files .cur ∧
      note.plain = true ∧
      ∀ lane, ⟨1, lane, note⟩ ∉ (run (step "s" toString) vacant strandedPush).sent := by
  refine ⟨by decide +kernel, by decide +kernel, by decide +kernel, by decide, fun lane => ?_⟩
  cases lane <;> decide +kernel

end Brokers
