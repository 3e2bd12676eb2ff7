import BambooAgent.Broker.Attendance

/- Fenced Runs and the generations that they name: who is sent one, who may retire one, and whether
   the one that it names gets it. -/
namespace Brokers
open Maildir Interleavings World Option Bool

/-- The fenced Run is for the connection of this generation. -/
def Names (message : InboxMessage) (generation : String) : Prop :=
  message.kind = .fencedRun ∧ ∃ envelope, message.body.envelope = some envelope ∧
    envelope.recipientConnectionGeneration = generation

namespace Task

/-- The route of a subscription that is not over. -/
def preload : Task → Option Route
  | .inserting route | .announcing route => some route
  | .scanning _ route _ => if route.preload.isSome then some route else none
  | _ => none

def delivers : Task → Option InboxMessage
  | .creating message | .writing message | .publishing message => some message
  | _ => none

/-- The messages in the hands of a call. -/
def messages : Task → List InboxMessage
  | .checking message | .creating message | .writing message | .publishing message => [message]
  | .scanning _ _ (.taking _ out) | .scanning _ _ (.reading _ _ out)
  | .scanning _ _ (.quarantining _ _ out) | .scanning _ _ (.sending out) => out
  | _ => []

end Task

/-- The message is in the mailbox or in the hands of a call. -/
def Known (world : World) (message : InboxMessage) : Prop :=
  (∃ dir, message ∈ world.maildir.files dir) ∨
    Someone (fun task => message ∈ task.messages) world.tasks

/-- A step that leaves no fenced Run of the current generation to a preload, and names no message
    like another one. No mailbox is swept. -/
def Minds (world : World) : Act → Prop
  | .sweep => False
  | .deliver message => ∀ other, Known world other → other.fileName = message.fileName →
    other = message
  | .proceed place _ =>
    match world.tasks[place]?.join with
    | some (.scanning .drain route (.taking (name :: _) _)) =>
      route.preload.isSome = true → ∀ subscriber observation, world.subscriber = some subscriber →
        subscriber.hostObservation = some observation →
        ∀ message ∈ world.maildir.files .new, message.fileName = name →
          ¬ Names message observation.connectionGeneration
    | _ => True
  | _ => True

section Moves
variable {sessionId : String} {world : World} {place : Nat} {chance : Chance}

/-- What the next task of a place has of the one before it. -/
structure Follows (sessionId : String) (world : World) (task next : Task) : Prop where
  preload : next.preload = none ∨ next.preload = task.preload
  delivers : next.delivers = none ∨ next.delivers = task.delivers ∨
    ∃ message, task = .checking message ∧ next = .creating message ∧
      world.refused sessionId message = false
  messages : ∀ message ∈ next.messages, message ∈ task.messages ∨
    ∃ dir, message ∈ world.maildir.files dir

theorem follows_plain (preload : next.preload = none) (delivers : next.delivers = none)
    (messages : next.messages = []) : Follows sessionId world task next where
  preload := .inl preload
  delivers := .inl delivers
  messages := by
    intro message member
    rw [messages] at member
    cases member

theorem follows_scan
    (messages : ∀ message ∈ (Task.scanning scan route goal).messages,
      message ∈ (Task.scanning scan route stage).messages ∨
        ∃ dir, message ∈ world.maildir.files dir) :
    Follows sessionId world (.scanning scan route stage) (.scanning scan route goal) where
  preload := .inr rfl
  delivers := .inl rfl
  messages := messages

theorem goes_on {tasks : List (Option Task)}
    (moved : tasks = world.tasks.set place (some after))
    (follows : Follows sessionId world task after) : ∃ next, tasks = world.tasks.set place next ∧
      ∀ after, next = some after → Follows sessionId world task after :=
  ⟨some after, moved, fun _ same => some.inj same ▸ follows⟩

theorem advance_next (there : world.tasks[place]? = some (some task)) : ∃ next,
    (world.advance sessionId place chance task).tasks = world.tasks.set place next ∧
      ∀ after, next = some after → Follows sessionId world task after := by
  have ends : ∀ after, (none : Option Task) = some after → Follows sessionId world task after :=
    fun _ impossible => by cases impossible
  cases task with
  | checking message =>
    refine ⟨_, rfl, fun after goes => ?_⟩
    split at goes
    · cases goes
    · rename_i accepted
      cases goes
      exact ⟨.inl rfl, .inr (.inr ⟨message, rfl, rfl, eq_false_iff.2 accepted⟩),
        fun _ member => .inl member⟩
  | creating message =>
    exact goes_on rfl ⟨.inl rfl, .inr (.inl rfl), fun _ member => .inl member⟩
  | writing message =>
    unfold advance
    dsimp only
    split
    · exact goes_on rfl ⟨.inl rfl, .inr (.inl rfl), fun _ member => .inl member⟩
    · exact ⟨_, rfl, ends⟩
  | publishing message =>
    unfold advance
    dsimp only
    split
    · exact goes_on rfl (follows_plain rfl rfl rfl)
    · exact ⟨_, rfl, ends⟩
  | pushing =>
    refine ⟨_, rfl, fun after goes => ?_⟩
    rw [map_eq_some_iff] at goes
    obtain ⟨current, _, rfl⟩ := goes
    exact follows_plain rfl rfl rfl
  | inserting route =>
    refine ⟨_, rfl, fun after goes => ?_⟩
    cases goes
    refine ⟨?_, .inl rfl, fun _ member => by cases member⟩
    change (if route.preload.isSome then some route else none) = none ∨
      (if route.preload.isSome then some route else none) = some route
    split
    · exact .inr rfl
    · exact .inl rfl
  | scanning scan route stage =>
    cases stage with
    | ensuring left =>
      cases left <;>
      · exact goes_on rfl (follows_scan (fun _ member => by cases member))
    | listing =>
      exact goes_on rfl (follows_scan (fun _ member => by cases member))
    | taking names out =>
      cases names with
      | nil =>
        exact goes_on rfl (follows_scan (fun _ member => .inl member))
      | cons name names =>
        cases scan with
        | recover =>
          exact goes_on rfl (follows_scan (fun _ member => .inl member))
        | drain =>
          unfold advance scanStep
          dsimp only
          split <;>
          · exact goes_on rfl (follows_scan (fun _ member => .inl member))
    | reading name names out =>
      unfold advance scanStep
      dsimp only
      split
      · rename_i message read
        refine ⟨_, rfl, fun after goes => ?_⟩
        cases goes
        refine follows_scan (fun other member => ?_)
        rcases List.mem_append.1 member with earlier | last
        · exact .inl earlier
        · split at read
          · rw [List.mem_singleton.1 last]
            exact .inr ⟨.cur, (find_eq_some read).1⟩
          · cases read
      · exact goes_on rfl (follows_scan (fun _ member => .inl member))
    | quarantining name names out =>
      exact goes_on rfl (follows_scan (fun _ member => .inl member))
    | sending out =>
      cases out with
      | nil =>
        refine ⟨_, rfl, fun after goes => ?_⟩
        unfold afterScan at goes
        split at goes
        · cases goes
          exact ⟨.inr rfl, .inl rfl, fun _ member => by cases member⟩
        · rename_i handed
          cases goes
          refine ⟨.inr ?_, .inl rfl, fun _ member => by cases member⟩
          change some route = if route.preload.isSome then some route else none
          rw [handed]
          rfl
        · cases goes
      | cons delivered out =>
        refine ⟨_, by unfold advance scanStep; rw [turn_tasks, send_tasks],
          fun after goes => ?_⟩
        cases goes
        exact follows_scan (fun _ member => .inl (List.mem_cons_of_mem _ member))
  | announcing route =>
    obtain ⟨subscriber, announced⟩ := announcing_subscriber world route
    unfold advance
    dsimp only
    rw [announced]
    exact ⟨_, rfl, ends⟩
  | unsubscribing lease =>
    obtain ⟨subscriber, unsubscribed⟩ := unsubscribe_subscriber world lease
    unfold advance
    dsimp only
    rw [unsubscribed]
    exact ⟨_, rfl, ends⟩
  | admitting messageId lease =>
    refine ⟨_, rfl, fun after goes => ?_⟩
    split at goes
    · cases goes
      exact follows_plain rfl rfl rfl
    · cases goes
  | seeking messageId =>
    refine ⟨_, rfl, fun after goes => ?_⟩
    rw [map_eq_some_iff] at goes
    obtain ⟨name, _, rfl⟩ := goes
    exact follows_plain rfl rfl rfl
  | removing messageId name =>
    unfold advance
    dsimp only
    split <;> exact ⟨_, rfl, ends⟩
  | sweeping sweep =>
    have goes : ∀ {condition : Bool} {sweep' : Sweep}, ∀ after,
        (if condition then none else some (Task.sweeping sweep')) = some after →
        Follows sessionId world (.sweeping sweep) after := by
      intro condition sweep' after goes
      split at goes
      · cases goes
      · cases goes
        exact follows_plain rfl rfl rfl
    cases sweep with
    | removing =>
      have same : world.tasks = world.tasks.set place (some (.sweeping .removing)) := by
        obtain ⟨inside, held⟩ := List.getElem?_eq_some_iff.1 there
        rw [← held, List.set_getElem_self]
      have stays : ∀ after, some (Task.sweeping .removing) = some after →
          Follows sessionId world (.sweeping .removing) after := by
        rintro after ⟨⟩
        exact follows_plain rfl rfl rfl
      unfold advance sweepStep
      dsimp only
      split
      · exact ⟨_, same, stays⟩
      · exact ⟨_, same, stays⟩
      · exact ⟨_, same, stays⟩
      · exact ⟨_, rfl, ends⟩
    | _ => exact ⟨_, rfl, goes⟩

theorem known_advance (there : world.tasks[place]? = some (some task))
    (known : Known (world.advance sessionId place chance task) message) : Known world message := by
  rcases known with ⟨dir, member⟩ | held
  · rcases advance_files sessionId world place chance task member with before | rfl
    · exact .inl before
    · exact .inr ⟨place, _, there, List.mem_singleton.2 rfl⟩
  · obtain ⟨next, tasks, follows⟩ := @advance_next sessionId world place chance task there
    rw [tasks] at held
    obtain ⟨at_, other, found, member⟩ := held
    rcases set_cases found with ⟨_, same⟩ | ⟨_, old⟩
    · rcases (follows other same.symm).messages message member with before | before
      · exact .inr ⟨place, task, there, before⟩
      · exact .inl before
    · exact .inr ⟨at_, other, old, member⟩

end Moves

/-- A generation that a connection was registered under, with nothing left to announce. -/
structure Spoken (world : World) (connection : Nat) : Prop where
  minted : connection < world.connections
  closed : Every (fun task => ∀ route, task.preload = some route → route.connection ≠ connection)
    world.tasks
  announced : ∀ subscriber, world.subscriber = some subscriber →
    subscriber.connection = connection → subscriber.hostObservation.isSome = true

/-- A route hands on the observation of its own connection. -/
structure Sincere (sessionId : String) (mint : Nat → String) (world : World) (route : Route) :
    Prop where
  minted : route.connection < world.connections
  own : ∀ observation, route.preload = some (some observation) →
    observation.connectionGeneration = mint route.connection

/-- A fenced Run of the generation goes to the connection, unless its credential runs out. -/
def guard (sessionId : String) (connection : Nat) (observation : WorkerHostObservation) : Duty where
  own route := route.preload = none
  relevant message := Names message observation.connectionGeneration
  done world message := ⟨connection, .control, message⟩ ∈ world.sent ∨
    ∀ envelope, message.body.envelope = some envelope →
      envelope.matchesObservation sessionId world.now observation = false

structure Fenced (sessionId : String) (mint : Nat → String) (world : World) : Prop where
  unswept : Unswept world
  identified : ∀ message other, Known world message → Known world other →
    message.fileName = other.fileName → message = other
  routes : Every (fun task => ∀ route, task.preload = some route →
    Sincere sessionId mint world route) world.tasks
  single : ∀ (first second : Nat) (task other : Task) (route route' : Route),
    world.tasks[first]? = some (some task) → world.tasks[second]? = some (some other) →
    task.preload = some route → other.preload = some route' →
    route.connection = route'.connection → first = second
  current : ∀ subscriber, world.subscriber = some subscriber →
    subscriber.connection < world.connections ∧ ∀ observation,
      subscriber.hostObservation = some observation →
        observation.connectionGeneration = mint subscriber.connection ∧
          Every (fun task => ∀ route, task.preload = some route →
            route.connection ≠ subscriber.connection) world.tasks
  filed : ∀ dir, ∀ message ∈ world.maildir.files dir, ∀ connection,
    Names message (mint connection) → Spoken world connection
  underway : Every (fun task => ∀ message, task.delivers = some message → ∀ connection,
    Names message (mint connection) → Spoken world connection) world.tasks
  attended : ∀ subscriber observation, world.subscriber = some subscriber →
    subscriber.hostObservation = some observation →
      Attended (guard sessionId subscriber.connection observation) world

section Kept
variable {world : World}

theorem preload_before (there : world.tasks[place]? = some (some task)) {at_ : Nat}
    (found : (world.advance sessionId place chance task).tasks[at_]? = some (some after))
    (preload : after.preload = some route) :
    ∃ before, world.tasks[at_]? = some (some before) ∧ before.preload = some route := by
  obtain ⟨next, tasks, follows⟩ := @advance_next sessionId world place chance task there
  rw [tasks] at found
  rcases set_cases found with ⟨rfl, same⟩ | ⟨_, old⟩
  · rcases (follows after same.symm).preload with none_ | kept
    · rw [none_] at preload
      cases preload
    · exact ⟨task, there, kept ▸ preload⟩
  · exact ⟨after, old, preload⟩

theorem spoken_advance (there : world.tasks[place]? = some (some task))
    (spoken : Spoken world connection) :
    Spoken (world.advance sessionId place chance task) connection where
  minted := by
    rw [(advance_now sessionId world place chance task).2]
    exact spoken.minted
  closed := by
    intro at_ after found route preload
    obtain ⟨before, held, preload⟩ := preload_before there found preload
    exact spoken.closed at_ before held route preload
  announced := by
    intro now registered same
    rcases advance_subscriber sessionId world place chance task registered with
      before | ⟨route, _, present, _, observed, _⟩ | ⟨route, rfl, own, _⟩
    · exact spoken.announced now before same
    · rw [observed]
      exact present
    · exact absurd (own.symm.trans same) (spoken.closed place _ there route rfl)

theorem routed_by_current {subscriber : Subscriber}
    (registered : world.subscriber = some subscriber)
    (observed : subscriber.hostObservation = some observation) (push : route.preload = none)
    (fits : fencedRunForObservation message sessionId world.now (some observation) = true) :
    world.routeFencedRun sessionId message route =
      world.push ⟨subscriber.connection, .control, message⟩ := by
  unfold routeFencedRun
  rw [registered]
  dsimp only
  rw [if_neg (by rw [push]; rintro ⟨impossible, _⟩; cases impossible), observed]
  exact if_pos fits

theorem obliges_guard {subscriber : Subscriber} (there : world.tasks[place]? = some (some task))
    (registered : world.subscriber = some subscriber)
    (observed : subscriber.hostObservation = some observation)
    (minds : Minds world (.proceed place chance)) :
    Obliges (guard sessionId subscriber.connection observation) world
      (world.advance sessionId place chance task) task where
  done := by
    rintro message (pushed | expired)
    · exact .inl (sent_kept sessionId world place chance task pushed)
    · refine .inr ?_
      rw [(advance_now sessionId world place chance task).1]
      exact expired
  claims := by
    rintro route name names out rfl
    unfold Minds at minds
    dsimp only at minds
    rw [join_eq_some.2 there] at minds
    cases handed : route.preload with
    | none => exact .inl handed
    | some preload =>
      exact .inr (.inl (minds (by rw [handed]; rfl) subscriber observation registered observed))
  sends := by
    rintro scan route message out rfl push ⟨fenced, names⟩
    change (_ ∈ ((world.send sessionId message route).turn place _).sent) ∨ _
    by_cases fits : fencedRunForObservation message sessionId world.now (some observation) = true
    · refine .inl ?_
      rw [send_fenced fenced, routed_by_current registered observed push fits]
      exact List.mem_append_right _ (List.mem_singleton.2 rfl)
    · refine .inr (fun envelope decoded => ?_)
      unfold fencedRunForObservation at fits
      rw [if_neg (by simpa using fenced), decoded] at fits
      change envelope.matchesObservation sessionId (world.send sessionId message route).now
        observation = false
      rw [send_now]
      exact eq_false_iff.2 fits
  pushes := by
    rintro rfl
    exact ⟨subscriber, registered, rfl⟩

theorem spoken_of_accepted (injective : Function.Injective mint)
    (fenced : Fenced sessionId mint world) (accepted : world.refused sessionId message = false)
    (names : Names message (mint connection)) : Spoken world connection := by
  obtain ⟨kind, envelope, decoded, generation⟩ := names
  unfold refused at accepted
  simp only [or_eq_false_iff, and_eq_false_iff, decide_eq_false_iff_not,
    not_eq_false'] at accepted
  obtain ⟨envelope', observation, decoded', observed, fits⟩ :=
    fencedRunForObservation_fenced kind (accepted.2.resolve_left (fun other => other kind))
  rw [decoded] at decoded'
  cases decoded'
  rw [bind_eq_some_iff] at observed
  obtain ⟨subscriber, registered, observed⟩ := observed
  obtain ⟨minted, announced⟩ := fenced.current subscriber registered
  obtain ⟨own, closed⟩ := announced observation observed
  have same : connection = subscriber.connection := injective (generation.symm.trans
    ((FencedRunEnvelope.matchesObservation_generation fits).trans own))
  subst same
  refine ⟨minted, closed, fun now there _ => ?_⟩
  rw [registered] at there
  cases there
  rw [observed]
  rfl

theorem fenced_advance (injective : Function.Injective mint) (fenced : Fenced sessionId mint world)
    (there : world.tasks[place]? = some (some task))
    (minds : Minds world (.proceed place chance)) :
    Fenced sessionId mint (world.advance sessionId place chance task) where
  unswept := unswept_advance fenced.unswept there
  identified := fun message other known known' =>
    fenced.identified message other (known_advance there known) (known_advance there known')
  routes := by
    intro at_ after found route preload
    obtain ⟨before, held, preload⟩ := preload_before there found preload
    have sincere := fenced.routes at_ before held route preload
    refine ⟨?_, sincere.own⟩
    rw [(advance_now sessionId world place chance task).2]
    exact sincere.minted
  single := by
    intro first second one other route route' found found' preload preload' same
    obtain ⟨before, held, preload⟩ := preload_before there found preload
    obtain ⟨before', held', preload'⟩ := preload_before there found' preload'
    exact fenced.single first second before before' route route' held held' preload preload' same
  current := by
    intro now registered
    rw [(advance_now sessionId world place chance task).2]
    have closed : ∀ connection, Every (fun task => ∀ route, task.preload = some route →
        route.connection ≠ connection) world.tasks →
        Every (fun task => ∀ route, task.preload = some route → route.connection ≠ connection)
          (world.advance sessionId place chance task).tasks := by
      intro connection closed at_ after found route preload
      obtain ⟨before, held, preload⟩ := preload_before there found preload
      exact closed at_ before held route preload
    rcases advance_subscriber sessionId world place chance task registered with
      before | ⟨route, rfl, _, own, observed, _⟩ | ⟨route, rfl, own, unobserved⟩
    · obtain ⟨minted, announced⟩ := fenced.current now before
      exact ⟨minted, fun observation observed =>
        ⟨(announced observation observed).1, closed _ (announced observation observed).2⟩⟩
    · have sincere := fenced.routes place _ there route rfl
      rw [own]
      refine ⟨sincere.minted, fun observation found => ?_⟩
      rw [observed] at found
      have handed : route.preload = some (some observation) := by
        cases preload : route.preload with
        | none =>
          rw [preload] at found
          cases found
        | some inner =>
          rw [preload] at found
          exact congrArg some found
      refine ⟨sincere.own observation handed, ?_⟩
      intro at_ after held route' preload same
      obtain ⟨before, held', preload⟩ := preload_before there held preload
      have one := fenced.single at_ place before _ route' route held' there preload rfl same
      subst one
      rcases set_cases held with ⟨_, impossible⟩ | ⟨different, _⟩
      · cases impossible
      · exact different rfl
    · have sincere := fenced.routes place _ there route rfl
      rw [own]
      refine ⟨sincere.minted, fun observation found => ?_⟩
      rw [unobserved] at found
      cases found
  filed := by
    intro dir message member connection names
    rcases advance_files sessionId world place chance task member with ⟨before, member⟩ | rfl
    · exact spoken_advance there (fenced.filed before message member connection names)
    · exact spoken_advance there (fenced.underway place _ there message rfl connection names)
  underway := by
    intro at_ after found message delivers connection names
    obtain ⟨next, tasks, follows⟩ := @advance_next sessionId world place chance task there
    rw [tasks] at found
    rcases set_cases found with ⟨_, same⟩ | ⟨_, old⟩
    · rcases (follows after same.symm).delivers with none_ | kept | ⟨checked, rfl, rfl, accepted⟩
      · rw [none_] at delivers
        cases delivers
      · exact spoken_advance there
          (fenced.underway place task there message (kept ▸ delivers) connection names)
      · cases delivers
        exact spoken_advance there (spoken_of_accepted injective fenced accepted names)
    · exact spoken_advance there (fenced.underway at_ after old message delivers connection names)
  attended := by
    intro now observation registered observed
    rcases advance_subscriber sessionId world place chance task registered with
      before | ⟨route, rfl, _, own, handed, _⟩ | ⟨route, rfl, _, unobserved⟩
    · exact attended_advance fenced.unswept (fenced.attended now observation before observed) there
        (obliges_guard there before observed minds)
    · -- nothing in the mailbox can name a generation that is announced only now
      have sincere := fenced.routes place _ there route rfl
      rw [handed] at observed
      have generation : observation.connectionGeneration = mint route.connection := by
        refine sincere.own observation ?_
        cases preload : route.preload with
        | none =>
          rw [preload] at observed
          cases observed
        | some inner =>
          rw [preload] at observed
          exact congrArg some observed
      have unnamed : ∀ dir, ∀ message ∈
          (world.advance sessionId place chance (.announcing route)).maildir.files dir,
          ¬ Names message observation.connectionGeneration := by
        intro dir message member names
        rw [generation] at names
        rcases advance_files sessionId world place chance _ member with ⟨before, member⟩ | other
        · exact (fenced.filed before message member _ names).closed place _ there route rfl rfl
        · cases other
      exact ⟨fun message member names => absurd names (unnamed _ message member),
        fun message member names => absurd names (unnamed _ message member)⟩
    · rw [unobserved] at observed
      cases observed

theorem spoken_launch (tasks : world'.tasks = world.tasks ++ [some task])
    (subscriber : world'.subscriber = world.subscriber)
    (connections : world.connections ≤ world'.connections)
    (fresh : ∀ route, task.preload = some route → route.connection = world.connections)
    (spoken : Spoken world connection) : Spoken world' connection where
  minted := lt_of_lt_of_le spoken.minted connections
  closed := by
    rw [tasks]
    refine every_launch spoken.closed (fun route preload same => ?_)
    rw [fresh route preload] at same
    exact absurd spoken.minted (by rw [same]; exact lt_irrefl _)
  announced := by
    rw [subscriber]
    exact spoken.announced

theorem fenced_launch (fenced : Fenced sessionId mint world) (unswept : Unswept world')
    (tasks : world'.tasks = world.tasks ++ [some task]) (maildir : world'.maildir = world.maildir)
    (subscriber : world'.subscriber = world.subscriber) (sent : world'.sent = world.sent)
    (now : world'.now = world.now) (connections : world.connections ≤ world'.connections)
    (fresh : ∀ route, task.preload = some route → route.connection = world.connections ∧
      Sincere sessionId mint world' route)
    (delivers : task.delivers = none)
    (identified : ∀ message ∈ task.messages, ∀ other, Known world other →
      other.fileName = message.fileName → other = message)
    (alone : ∀ message ∈ task.messages, ∀ other ∈ task.messages, message = other) :
    Fenced sessionId mint world' where
  unswept := unswept
  identified := by
    have before : ∀ message, Known world' message → Known world message ∨ message ∈ task.messages := by
      rintro message (⟨dir, member⟩ | ⟨at_, holder, found, member⟩)
      · rw [maildir] at member
        exact .inl (.inl ⟨dir, member⟩)
      · rw [tasks] at found
        rcases concat_cases found with old | ⟨_, same⟩
        · exact .inl (.inr ⟨at_, holder, old, member⟩)
        · cases same
          exact .inr member
    intro message other known known' same
    rcases before message known with known | member
    · rcases before other known' with known' | member'
      · exact fenced.identified message other known known' same
      · exact identified other member' message known same
    · rcases before other known' with known' | member'
      · exact (identified message member other known' same.symm).symm
      · exact alone message member other member'
  routes := by
    rw [tasks]
    have still : Every (fun task => ∀ route, task.preload = some route →
        Sincere sessionId mint world' route) world.tasks := by
      intro at_ other found route preload
      have sincere := fenced.routes at_ other found route preload
      exact ⟨lt_of_lt_of_le sincere.minted connections, sincere.own⟩
    exact every_launch still (fun route preload => (fresh route preload).2)
  single := by
    intro first second one other route route' found found' preload preload' same
    have split_ : ∀ {at_ : Nat} {holder : Task}, world'.tasks[at_]? = some (some holder) →
        world.tasks[at_]? = some (some holder) ∨ (at_ = world.tasks.length ∧ holder = task) := by
      intro at_ holder found
      rw [tasks] at found
      exact (concat_cases found).imp_right fun new => ⟨new.1, some.inj new.2⟩
    rcases split_ found with found | ⟨rfl, rfl⟩
    · rcases split_ found' with found' | ⟨rfl, rfl⟩
      · exact fenced.single first second one other route route' found found' preload preload' same
      · have minted := (fenced.routes first one found route preload).minted
        rw [same, (fresh route' preload').1] at minted
        exact absurd minted (lt_irrefl _)
    · rcases split_ found' with found' | ⟨rfl, rfl⟩
      · have minted := (fenced.routes second other found' route' preload').minted
        rw [← same, (fresh route preload).1] at minted
        exact absurd minted (lt_irrefl _)
      · rfl
  current := by
    rw [subscriber]
    intro current registered
    obtain ⟨minted, announced⟩ := fenced.current current registered
    refine ⟨lt_of_lt_of_le minted connections, fun observation observed => ?_⟩
    obtain ⟨own, closed⟩ := announced observation observed
    refine ⟨own, ?_⟩
    rw [tasks]
    refine every_launch closed (fun route preload same => ?_)
    rw [(fresh route preload).1] at same
    exact absurd minted (by rw [same]; exact lt_irrefl _)
  filed := by
    rw [maildir]
    intro dir message member connection names
    exact spoken_launch tasks subscriber connections (fun route preload => (fresh route preload).1)
      (fenced.filed dir message member connection names)
  underway := by
    rw [tasks]
    have still : Every (fun task => ∀ message, task.delivers = some message → ∀ connection,
        Names message (mint connection) → Spoken world' connection) world.tasks := by
      intro at_ other found message held connection names
      exact spoken_launch tasks subscriber connections
        (fun route preload => (fresh route preload).1)
        (fenced.underway at_ other found message held connection names)
    refine every_launch still (fun message held => ?_)
    rw [delivers] at held
    cases held
  attended := by
    rw [subscriber]
    intro current observation registered observed
    refine attended_launch (fenced.attended current observation registered observed) tasks maildir ?_
    rintro message (pushed | expired)
    · exact .inl (by rw [sent]; exact pushed)
    · exact .inr (by rw [now]; exact expired)

theorem fenced_step (injective : Function.Injective mint) (minds : Minds world act)
    (fenced : Fenced sessionId mint world) :
    Fenced sessionId mint (step sessionId mint world act) := by
  have calm : act ≠ .sweep := by
    rintro rfl
    exact minds
  have unswept := @unswept_step sessionId mint world act calm fenced.unswept
  cases act with
  | deliver message =>
    refine fenced_launch fenced unswept rfl rfl rfl rfl rfl le_rfl
      (fun route impossible => by cases impossible) rfl (fun held member other known same => ?_)
      (fun held member other member' => ?_)
    · rw [List.mem_singleton.1 member] at same ⊢
      exact minds other known same
    · rw [List.mem_singleton.1 member, List.mem_singleton.1 member']
  | subscribe role ordered host lease =>
    refine fenced_launch fenced unswept rfl rfl rfl rfl rfl (Nat.le_succ _)
      (fun route preload => ?_) rfl (fun _ member => by cases member)
      (fun _ member => by cases member)
    cases preload
    refine ⟨rfl, Nat.lt_succ_self _, fun observation handed => ?_⟩
    cases host with
    | none => cases handed
    | some host =>
      cases handed
      rfl
  | unsubscribe lease =>
    exact fenced_launch fenced unswept rfl rfl rfl rfl rfl le_rfl
      (fun route impossible => by cases impossible) rfl (fun _ member => by cases member)
      (fun _ member => by cases member)
  | ack messageId lease =>
    exact fenced_launch fenced unswept rfl rfl rfl rfl rfl le_rfl
      (fun route impossible => by cases impossible) rfl (fun _ member => by cases member)
      (fun _ member => by cases member)
  | sweep => exact absurd rfl calm
  | tick later =>
    refine ⟨unswept, fenced.identified, ?_, fenced.single, fenced.current, ?_, ?_, ?_⟩
    · intro at_ other found route preload
      have sincere := fenced.routes at_ other found route preload
      exact ⟨sincere.minted, sincere.own⟩
    · intro dir message member connection names
      have spoken := fenced.filed dir message member connection names
      exact ⟨spoken.minted, spoken.closed, spoken.announced⟩
    · intro at_ other found message held connection names
      have spoken := fenced.underway at_ other found message held connection names
      exact ⟨spoken.minted, spoken.closed, spoken.announced⟩
    · intro current observation registered observed
      have attended := fenced.attended current observation registered observed
      have later_ : ∀ message, (guard sessionId current.connection observation).done world message →
          (guard sessionId current.connection observation).done
            (step sessionId mint world (.tick later)) message := by
        rintro message (pushed | expired)
        · exact .inl pushed
        · refine .inr (fun envelope decoded => eq_false_iff.2 (fun fits => ?_))
          have before := FencedRunEnvelope.matchesObservation_earlier (Nat.le_add_right _ later) fits
          rw [expired envelope decoded] at before
          cases before
      refine ⟨fun message member names => ?_, attended.waiting⟩
      rcases attended.claimed message member names with finished | held
      · exact .inl (later_ message finished)
      · exact .inr held
  | proceed place chance =>
    cases there : world.tasks[place]?.join with
    | none =>
      rw [step_idle there]
      exact fenced
    | some task =>
      rw [step_proceed (join_eq_some.1 there)]
      exact fenced_advance injective fenced (join_eq_some.1 there) minds

end Kept

end Brokers
