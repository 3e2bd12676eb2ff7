import BambooAgent.Sessions.Consumption

/- Newer questions, and the law of answered ones over every run of saves and checkpoints. -/
namespace Sessions
open SortedMaps Compression Checks List Option

/- A newer question. -/

/-- The result of the call stands under an id that no earlier message has, and no later
    message answers the call. -/
def Standing (codec : Codec) (newer : ResponseOccurrence) (messages : List Message) : Prop :=
  ∃ before m after, messages = before ++ m :: after ∧
    occurrenceIn codec [m] newer.toolCallId = some newer ∧
    (∀ x ∈ before, x.id ≠ newer.toolResultMessageId) ∧
    ∀ x ∈ after, x.toolCallId ≠ some newer.toolCallId

/-- The copy asks the question of that result. -/
structure NewlyAsked (codec : Codec) (newer : ResponseOccurrence) (session : Session) : Prop where
  pending : ∃ pending, session.pendingQuestion = some pending ∧
    pending.toolCallId = newer.toolCallId
  standing : Standing codec newer session.messages

/-- The durable ledger does not list the occurrence. -/
def Unlisted (codec : Codec) (latest : Session) (newer : ResponseOccurrence) : Prop :=
  ∀ text consumed, latest.asks.2 = some text → codec.occurrences text = some consumed →
    newer ∉ consumed

variable {session : Session}

theorem occurrenceIn_single (found : occurrenceIn codec [m] newer.toolCallId = some newer) :
    m.id = newer.toolResultMessageId ∧ m.toolCallId = some newer.toolCallId := by
  obtain ⟨other, there, same⟩ := map_eq_some_iff.1 found
  have here : other = m := by simpa using mem_of_find?_eq_some there
  have called := List.find?_some there
  subst here
  exact ⟨congrArg ResponseOccurrence.toolResultMessageId same, by simpa using called⟩

theorem standing_found (standing : Standing codec newer messages) :
    occurrenceIn codec messages newer.toolCallId = some newer := by
  obtain ⟨before, m, after, rfl, found, _, silent⟩ := standing
  have last : occurrenceIn codec (m :: after) newer.toolCallId = some newer := by
    refine (occurrenceIn_append [m] after newer.toolCallId).trans ?_
    rw [occurrenceIn_none silent, found]
    rfl
  rw [occurrenceIn_append, last]
  rfl

theorem newlyAsked_pending (asked : NewlyAsked codec newer session) :
    pendingOccurrence codec session = some newer := by
  obtain ⟨pending, present, call⟩ := asked.pending
  unfold pendingOccurrence
  rw [present, bind_some, call]
  exact standing_found asked.standing

theorem standing_prefix (other : ∀ x ∈ front, x.id ≠ newer.toolResultMessageId)
    (standing : Standing codec newer messages) : Standing codec newer (front ++ messages) := by
  obtain ⟨before, m, after, rfl, found, fresh, silent⟩ := standing
  refine ⟨front ++ before, m, after, (append_assoc _ _ _).symm, found, ?_, silent⟩
  intro x member
  rcases mem_append.1 member with first | second
  · exact other x first
  · exact fresh x second

theorem standing_cons (other : first.id ≠ newer.toolResultMessageId)
    (standing : Standing codec newer messages) : Standing codec newer (first :: messages) := by
  have front : ∀ x ∈ [first], x.id ≠ newer.toolResultMessageId := by
    intro x only
    cases mem_singleton.1 only
    exact other
  exact standing_prefix front standing

theorem standing_suffix (quiet : ∀ x ∈ back, x.toolCallId ≠ some newer.toolCallId)
    (standing : Standing codec newer messages) : Standing codec newer (messages ++ back) := by
  obtain ⟨before, m, after, rfl, found, fresh, silent⟩ := standing
  refine ⟨before, m, after ++ back, by simp, found, fresh, ?_⟩
  intro x member
  rcases mem_append.1 member with first | second
  · exact silent x first
  · exact quiet x second

theorem standing_insert {front back : List Message} {x : Message}
    (other : x.id ≠ newer.toolResultMessageId) (quiet : x.toolCallId ≠ some newer.toolCallId)
    (standing : Standing codec newer (front ++ back)) :
    Standing codec newer (front ++ ([x] ++ back)) := by
  obtain ⟨before, m, after, split, found, fresh, silent⟩ := standing
  rcases append_eq_append_iff.1 split with ⟨middle, rfl, rfl⟩ | ⟨middle, rfl, tail⟩
  · have here : Standing codec newer (middle ++ m :: after) :=
      ⟨middle, m, after, rfl, found,
        fun y member => fresh y (mem_append_right _ member), silent⟩
    refine standing_prefix (fun y member => fresh y (mem_append_left _ member)) ?_
    exact standing_cons other here
  · cases middle with
    | nil =>
      have here : Standing codec newer back := ⟨[], m, after, tail.symm, found,
        (fun _ none => nomatch none), silent⟩
      rw [append_nil]
      exact standing_prefix fresh (standing_cons other here)
    | cons head rest =>
      obtain ⟨rfl, rfl⟩ := List.cons.inj tail
      refine ⟨before, m, rest ++ ([x] ++ back), by simp, found, fresh, ?_⟩
      intro y member
      rcases mem_append.1 member with early | late
      · exact silent y (mem_append_left _ early)
      · rcases mem_append.1 late with only | old
        · cases mem_singleton.1 only
          exact quiet
        · exact silent y (mem_append_right _ old)

theorem standing_unseen (unknown : newer.toolResultMessageId ∉ seen)
    (standing : Standing codec newer messages) :
    Standing codec newer (unseenMessages seen messages) := by
  obtain ⟨before, m, after, rfl, found, fresh, silent⟩ := standing
  have named := (occurrenceIn_single found).1
  induction before generalizing seen with
  | nil =>
    refine ⟨[], m, unseenMessages (m.id :: seen) after, ?_, found,
      (fun _ none => nomatch none), fun x picked => silent x (mem_unseen picked).1⟩
    rw [nil_append, unseenMessages, if_neg (by rw [named]; exact unknown)]
    rfl
  | cons first rest ih =>
    have later : ∀ x ∈ rest, x.id ≠ newer.toolResultMessageId :=
      fun x member => fresh x (mem_cons_of_mem first member)
    rw [cons_append, unseenMessages]
    split
    · exact ih unknown later
    · have other := fresh first mem_cons_self
      refine standing_cons other (ih ?_ later)
      intro known
      rcases mem_cons.1 known with here | old
      · exact other here.symm
      · exact unknown old

theorem standing_placePrompt (prompt : Option String) (other : draw.id ≠ newer.toolResultMessageId)
    (plain : ∀ m ∈ session.messages, Plain m) (standing : Standing codec newer session.messages) :
    Standing codec newer (placePrompt prompt draw session).messages := by
  cases prompt with
  | none => exact standing
  | some text =>
    obtain ⟨before, m, after, split, found, fresh, silent⟩ := standing
    have tool : m.role = .tool := by
      refine (plain m ?_ ?_).1
      · rw [split]
        exact mem_append_right _ mem_cons_self
      · rw [(occurrenceIn_single found).2]
        rfl
    have filtered : Standing codec newer
        (session.messages.filter (fun message => message.role ≠ .system)) := by
      refine ⟨before.filter (fun message => message.role ≠ .system), m,
        after.filter (fun message => message.role ≠ .system), ?_, found,
        fun x member => fresh x (mem_filter.1 member).1,
        fun x member => silent x (mem_filter.1 member).1⟩
      rw [split, filter_append, filter_cons_of_pos (by simp [tool])]
    exact standing_cons other filtered

/- The saves of a newly asked question. -/

variable {saved : Session}

theorem wasConsumed_newer (durable : Recorded codec answer latest)
    (unlisted : Unlisted codec latest newer) (asked : NewlyAsked codec newer session) :
    wasConsumed codec session latest newer.toolCallId = false := by
  obtain ⟨text, consumed, ledger, parsed, _⟩ := durable.ledger
  have present : latest.metadata.lookup consumedResponseOccurrencesKey = some text := ledger
  have absent := unlisted text consumed ledger parsed
  unfold wasConsumed
  rw [present]
  simp only [parsed, latest_eq, standing_found asked.standing, any_some,
    decide_eq_false_iff_not]
  exact absent

theorem adoptConsumed_newer (durable : Recorded codec answer latest)
    (unlisted : Unlisted codec latest newer) (asked : NewlyAsked codec newer session) :
    adoptDurableConsumedClarification codec session latest = session := by
  obtain ⟨pending, present, call⟩ := asked.pending
  have fresh := wasConsumed_newer durable unlisted asked
  unfold adoptDurableConsumedClarification
  rw [present]
  dsimp only
  rw [call, fresh]
  rfl

theorem newlyAsked_congr {next : Session} (asked : NewlyAsked codec newer session) (asks : next.asks = session.asks)
    (standing : Standing codec newer next.messages) : NewlyAsked codec newer next where
  pending := by
    have kept : next.pendingQuestion = session.pendingQuestion := congrArg Prod.fst asks
    rw [kept]
    exact asked.pending
  standing := standing

theorem standing_resumes (plain : ∀ m ∈ latest.messages, Plain m)
    (standing : Standing codec newer outcome.1.messages) :
    Standing codec newer (preserveResumesOf latest outcome).messages := by
  unfold preserveResumesOf preserveFinalizedHiddenChildResumes
  split
  · refine standing_suffix (fun x missing answers => ?_) standing
    obtain ⟨member, kept⟩ := mem_filter.1 missing
    simp only [Bool.and_eq_true] at kept
    have resumes := (plain x member (by rw [answers]; rfl)).2
    rw [resumes] at kept
    cases kept.2
  · exact standing

theorem prepareRuntime_newer (durable : Recorded codec answer latest)
    (unlisted : Unlisted codec latest newer) (plain : ∀ m ∈ latest.messages, Plain m)
    (unflagged : session.metadata.lookup actorParentQuestionHandoffKey ≠ some "true")
    (asked : NewlyAsked codec newer session)
    (run : prepareRuntime codec finalizeChildWait session latest = .ok answered) :
    NewlyAsked codec newer answered ∧ answered.pendingQuestion = session.pendingQuestion := by
  let P : Session → Prop := fun s =>
    NewlyAsked codec newer s ∧ s.pendingQuestion = session.pendingQuestion
  have kept : ∀ s next : Session, next.asks = s.asks → Standing codec newer next.messages →
      P s → P next := by
    rintro s next asks standing ⟨held, same⟩
    exact ⟨newlyAsked_congr held asks standing, (congrArg Prod.fst asks).trans same⟩
  refine prepareRuntime_rule (P := P) (Q := P) ?_ ?_ ?_ ?_ ?_ run
  · intro next handoff
    rcases handoff_shape handoff with ⟨_, rfl⟩ | ⟨asks, messages⟩
    · exact ⟨asked, rfl⟩
    · unfold adoptDurableActorParentQuestionHandoff at handoff
      rw [if_pos unflagged] at handoff
      cases handoff
      exact ⟨asked, rfl⟩
  · intro s next before outcomes
    refine kept s next (asks_adoptOutcomes outcomes) ?_ before
    rw [messages_adoptOutcomes outcomes]
    exact before.1.standing
  · intro s before
    refine kept s _ (by rw [asks_preserveResumesOf, asks_adoptFinalizedWait]) ?_ before
    refine standing_resumes plain ?_
    rw [messages_adoptFinalizedWait]
    exact before.1.standing
  · intro s before
    refine kept s _ (by rw [asks_preserveResumesOf, asks_adoptTaggedWait]) ?_ before
    refine standing_resumes plain ?_
    rw [messages_adoptTaggedWait]
    exact before.1.standing
  · intro s before
    rw [adoptConsumed_newer durable unlisted before.1]
    exact before

theorem standing_settleRuntime (clock : Clock) (adoptBypass : Bool)
    (letters : ∀ m ∈ latest.messages, restorable latest m = true → m.toolCallId = none)
    (standing : Standing codec newer answered.messages) :
    Standing codec newer (settleRuntime codec clock adoptBypass answered latest).messages := by
  rw [messages_settleRuntime]
  refine restore_rule (P := Standing codec newer) ?_ [] answered.messages standing
  intro front back message member admitted fresh whole
  refine standing_insert ?_ ?_ whole
  · obtain ⟨before, m, after, split, found, _, _⟩ := whole
    have there : m ∈ front ++ back := by
      rw [split]
      exact mem_append_right _ mem_cons_self
    have other := fresh m there
    rw [(occurrenceIn_single found).1] at other
    exact other.symm
  · rw [letters message member admitted]
    exact fun none => nomatch none

theorem asks_settleRuntime (clock : Clock) (adoptBypass : Bool) (answered : Session) :
    (settleRuntime codec clock adoptBypass answered latest).asks = answered.asks := by
  unfold settleRuntime
  rw [asks_adoptLedger]
  split
  · rw [asks_adoptPosture, asks_mergeAdmission, asks_restoreMissing, asks_applyAuthoritative]
  · rw [asks_mergeAdmission, asks_restoreMissing, asks_applyAuthoritative]

section
variable (durable : Recorded codec answer latest)
include durable

theorem saveRuntime_newer (unlisted : Unlisted codec latest newer)
    (plain : ∀ m ∈ latest.messages, Plain m)
    (letters : ∀ m ∈ latest.messages, restorable latest m = true → m.toolCallId = none)
    (unflagged : session.metadata.lookup actorParentQuestionHandoffKey ≠ some "true")
    (asked : NewlyAsked codec newer session)
    (run : mergeSaveRuntimeInner codec clock storage adoptBypass finalizeChildWait (some latest)
      session = .ok saved) :
    NewlyAsked codec newer saved ∧ saved.pendingQuestion = session.pendingQuestion := by
  refine saveRuntime_rule (P := fun s => NewlyAsked codec newer s ∧
    s.pendingQuestion = session.pendingQuestion) ?_ ?_ run
  · rintro s ⟨held, same⟩
    have asks := asks_adoptTaskControlPlane s latest
    exact ⟨newlyAsked_congr held asks (by
      rw [messages_adoptTaskControlPlane]
      exact held.standing), (congrArg Prod.fst asks).trans same⟩
  · intro candidate merged
    obtain ⟨answered, prepared, rfl⟩ := mergeRuntime_eq_ok merged
    obtain ⟨held, same⟩ := prepareRuntime_newer durable unlisted plain unflagged asked prepared
    have asks : (settleRuntime codec clock adoptBypass answered latest).asks = answered.asks :=
      asks_settleRuntime clock adoptBypass answered
    exact ⟨newlyAsked_congr held asks
      (standing_settleRuntime clock adoptBypass letters held.standing),
      (congrArg Prod.fst asks).trans same⟩

theorem reconcile_newer (unlisted : Unlisted codec latest newer)
    (unknown : ∀ m ∈ latest.messages, m.id ≠ newer.toolResultMessageId)
    (asked : NewlyAsked codec newer session)
    (run : reconcileRuntimeCheckpoint codec clock session latest = .ok candidate) :
    NewlyAsked codec newer candidate ∧ candidate.pendingQuestion = session.pendingQuestion := by
  obtain ⟨_, _, run⟩ := bind_eq_ok.1 run
  obtain ⟨supervised, outcomes, run⟩ := bind_eq_ok.1 run
  have asks : (mergeSessionInboxAdmission
      (appendMissingRuntimeMessages codec supervised latest) latest).asks = session.asks := by
    rw [asks_mergeAdmission, asks_appendMissing, asks_adoptOutcomes outcomes]
  have standing : Standing codec newer (mergeSessionInboxAdmission
      (appendMissingRuntimeMessages codec supervised latest) latest).messages := by
    rw [messages_mergeAdmission, messages_appendMissing, messages_adoptOutcomes outcomes]
    refine standing_prefix unknown (standing_unseen ?_ asked.standing)
    intro known
    obtain ⟨m, member, same⟩ := mem_map.1 known
    exact unknown m member same
  have appended := newlyAsked_congr asked asks standing
  dsimp only at run
  rw [adoptConsumed_newer durable unlisted appended] at run
  have tail : candidate.asks = session.asks ∧ Standing codec newer candidate.messages := by
    rw [← pure_eq_ok.1 run]
    rw [asks_adoptTaggedWait, asks_adoptPosture, asks_applyAuthoritative, asks,
      messages_adoptTaggedWait, messages_adoptPosture, messages_applyAuthoritative]
    exact ⟨rfl, standing⟩
  exact ⟨newlyAsked_congr asked tail.1 tail.2, congrArg Prod.fst tail.1⟩

theorem checkpoint_newer (unlisted : Unlisted codec latest newer)
    (durablePlain : ∀ m ∈ latest.messages, Plain m) (plain : ∀ m ∈ session.messages, Plain m)
    (unknown : ∀ m ∈ latest.messages, m.id ≠ newer.toolResultMessageId)
    (drawn : ∀ n, (draws n).id ≠ newer.toolResultMessageId) (asked : NewlyAsked codec newer session)
    (run : checkpointRuntimeSessionWithInput codec clock storage draws input (some latest)
      session = .ok saved) :
    NewlyAsked codec newer saved ∧ saved.pendingQuestion = session.pendingQuestion := by
  let P : Session → Prop := fun s => NewlyAsked codec newer s ∧
    s.pendingQuestion = session.pendingQuestion ∧ ∀ m ∈ s.messages, Plain m
  have result : P saved := by
    refine checkpoint_rule (P := P) ?_ ?_ ?_ (fun candidate merged => ?_) run
    · rintro s ⟨held, pending, own⟩
      have asks := asks_adoptTaskControlPlane s latest
      have messages := messages_adoptTaskControlPlane s latest
      exact ⟨newlyAsked_congr held asks (messages.symm ▸ held.standing),
        (congrArg Prod.fst asks).trans pending, messages.symm ▸ own⟩
    · rintro prompt _ n s ⟨held, pending, own⟩
      have asks := asks_placePrompt prompt (draws n) s
      exact ⟨newlyAsked_congr held asks
          (standing_placePrompt prompt (drawn n) own held.standing),
        (congrArg Prod.fst asks).trans pending, plain_placePrompt prompt (draws n) own⟩
    · rintro s next ⟨held, pending, own⟩ reconciled
      obtain ⟨again, kept⟩ := reconcile_newer durable unlisted unknown held reconciled
      exact ⟨again, kept.trans pending, reconcile_plain durablePlain own reconciled⟩
    · obtain ⟨first, same⟩ := reconcile_newer durable unlisted unknown asked merged
      exact ⟨first, same, reconcile_plain durablePlain plain merged⟩
  exact ⟨result.1, result.2.1⟩

end

/- The runs. -/

inductive SaveKind where
  | runtime
  | checkpoint

/-- One save over a durable session. A drawn identifier is no message's. -/
inductive Saves (codec : Codec) (latest session : Session) : SaveKind → Session → Prop where
  | runtime {clock : Clock} {storage : Storage} {adoptBypass finalizeChildWait : Bool}
      {saved : Session}
      (run : mergeSaveRuntimeInner codec clock storage adoptBypass finalizeChildWait
        (some latest) session = .ok saved) : Saves codec latest session .runtime saved
  | checkpoint {clock : Clock} {storage : Storage} {draws : Nat → Draw}
      {input : Option RootInput} {saved : Session}
      (fresh : ∀ n, ∀ m ∈ session.messages, (draws n).id ≠ m.id)
      (run : checkpointRuntimeSessionWithInput codec clock storage draws input (some latest)
        session = .ok saved) : Saves codec latest session .checkpoint saved

/-- Writers load, change their copies as they like, and save them. `meets` is what is asked of
    each save. -/
inductive Converses (codec : Codec) (meets : SaveKind → Session → Session → Prop) :
    World → World → Prop where
  | loads {world : World} (writer : String) :
      Converses codec meets world
        { world with held := Function.update world.held writer world.cell }
  | edits {world : World} (writer : String) {session : Session}
      (plain : ∀ m ∈ session.messages, Plain m) :
      Converses codec meets world
        { world with held := Function.update world.held writer (some session) }
  | saves {world : World} (writer : String) {kind : SaveKind} {latest session saved : Session}
      (cell : world.cell = some latest) (holds : world.held writer = some session)
      (meet : meets kind latest session) (save : Saves codec latest session kind saved) :
      Converses codec meets world
        { cell := some saved, held := Function.update world.held writer (some saved) }

/-- The durable session has recorded the answer; the copies may be from any time. -/
structure Answered (codec : Codec) (answer : Answer) (world : World) : Prop where
  cell : ∃ durable, world.cell = some durable ∧ Settled codec answer durable ∧
    ∀ m ∈ durable.messages, Plain m
  held : ∀ writer s, world.held writer = some s → ∀ m ∈ s.messages, Plain m

/-- Nothing of the save itself gets between the copy's newer question and its result. -/
def Undisturbed : SaveKind → Session → Session → ResponseOccurrence → Prop
  | .runtime, latest, session, _ =>
    session.metadata.lookup actorParentQuestionHandoffKey ≠ some "true" ∧
      ∀ m ∈ latest.messages, restorable latest m = true → m.toolCallId = none
  | .checkpoint, latest, _, newer => ∀ m ∈ latest.messages, m.id ≠ newer.toolResultMessageId

/-- What the saves owe an answered question, and a newer one. -/
structure AnswerLaw (codec : Codec) (answer : Answer)
    (meets : SaveKind → Session → Session → Prop) : Prop where
  closed : ∀ {start world : World} {durable : Session}, Answered codec answer start →
    Relation.ReflTransGen (Converses codec meets) start world → world.cell = some durable →
      Settled codec answer durable
  newer : ∀ {start world : World} {writer : String} {kind : SaveKind}
    {latest session saved : Session} {newer : ResponseOccurrence}, Answered codec answer start →
    Relation.ReflTransGen (Converses codec meets) start world → world.cell = some latest →
    world.held writer = some session → Saves codec latest session kind saved →
    NewlyAsked codec newer session → Unlisted codec latest newer →
    Undisturbed kind latest session newer →
      pendingOccurrence codec saved = some newer ∧
        saved.pendingQuestion = session.pendingQuestion

def AccountsFor (codec : Codec) (answer : Answer) : SaveKind → Session → Session → Prop
  | .runtime, latest, session =>
    Recorded codec answer session ∨ StillAsks codec latest session ∨
      session.metadata.lookup actorParentQuestionHandoffKey = some "true"
  | .checkpoint, latest, session =>
    Recorded codec answer session ∨
      StillAsks codec latest (appendMissingRuntimeMessages codec session latest)

theorem saves_settled (durable : Settled codec answer latest)
    (durablePlain : ∀ m ∈ latest.messages, Plain m) (plain : ∀ m ∈ session.messages, Plain m)
    (accounts : AccountsFor codec answer kind latest session)
    (save : Saves codec latest session kind saved) :
    Settled codec answer saved ∧ ∀ m ∈ saved.messages, Plain m := by
  cases save with
  | runtime run =>
    exact ⟨saveRuntime_settled durable durablePlain accounts run,
      saveRuntime_plain durablePlain plain run⟩
  | checkpoint fresh run => exact checkpoint_settled durable durablePlain plain accounts run

theorem converses_answered {next : World} (answered : Answered codec answer world)
    (step : Converses codec (AccountsFor codec answer) world next) :
    Answered codec answer next := by
  obtain ⟨durable, cell, settled, durablePlain⟩ := answered.cell
  cases step with
  | loads writer =>
    refine ⟨⟨durable, cell, settled, durablePlain⟩, held_update answered.held writer ?_⟩
    intro s loaded
    cases some.inj (cell.symm.trans loaded)
    exact durablePlain
  | edits writer plain =>
    exact ⟨⟨durable, cell, settled, durablePlain⟩, held_update answered.held writer
      (fun s same => some.inj same ▸ plain)⟩
  | @saves writer kind latest session saved here holds meet save =>
    cases some.inj (cell.symm.trans here)
    obtain ⟨after, plain⟩ := saves_settled settled durablePlain
      (answered.held writer session holds) meet save
    exact ⟨⟨saved, rfl, after, plain⟩, held_update answered.held writer
      (fun s same => some.inj same ▸ plain)⟩

theorem conversation_answered (answered : Answered codec answer start)
    (run : Relation.ReflTransGen (Converses codec (AccountsFor codec answer)) start world) :
    Answered codec answer world := by
  induction run with
  | refl => exact answered
  | tail _ step ih => exact converses_answered ih step

theorem saves_newer (durable : Recorded codec answer latest)
    (durablePlain : ∀ m ∈ latest.messages, Plain m) (plain : ∀ m ∈ session.messages, Plain m)
    (asked : NewlyAsked codec newer session) (unlisted : Unlisted codec latest newer)
    (undisturbed : Undisturbed kind latest session newer)
    (save : Saves codec latest session kind saved) :
    NewlyAsked codec newer saved ∧ saved.pendingQuestion = session.pendingQuestion := by
  cases save with
  | runtime run =>
    exact saveRuntime_newer durable unlisted durablePlain undisturbed.2 undisturbed.1 asked run
  | @checkpoint _ _ draws _ _ fresh run =>
    have drawn : ∀ n, (draws n).id ≠ newer.toolResultMessageId := by
      intro n
      obtain ⟨before, m, after, split, found, _, _⟩ := asked.standing
      have other := fresh n m (by
        rw [split]
        exact mem_append_right _ mem_cons_self)
      rw [(occurrenceIn_single found).1] at other
      exact other
    exact checkpoint_newer durable unlisted durablePlain plain undisturbed drawn asked run

/-- In every run whose saves account for the answer, the answer stays and its question stays
    closed; a newer question is kept. -/
theorem answerLaw_of_accounts (codec : Codec) (answer : Answer) :
    AnswerLaw codec answer (AccountsFor codec answer) where
  closed := by
    intro start world durable answered run cell
    obtain ⟨last, here, settled, _⟩ := (conversation_answered answered run).cell
    cases Option.some.inj (here.symm.trans cell)
    exact settled
  newer := by
    intro start world writer kind latest session saved newer answered run cell holds save asked
      unlisted undisturbed
    have reached := conversation_answered answered run
    obtain ⟨last, here, settled, durablePlain⟩ := reached.cell
    cases Option.some.inj (here.symm.trans cell)
    obtain ⟨kept, same⟩ := saves_newer settled.recorded durablePlain
      (reached.held writer session holds) asked unlisted undisturbed save
    exact ⟨newlyAsked_pending kept, same⟩

/- A copy from before the question is saved after the answer, and then one that asks. -/

def sampleAnswer : Answer := { occurrence := ⟨"call", "result", none⟩, content := "yes" }

def resultMessage (content : String) : Message :=
  { Compression.Message.toolResult "result" "call" content with
    createdAt := 5, metadata := none }

def unaskedCopy : Session := Session.new "s" "model" 1

def askingCopy : Session :=
  { unaskedCopy with
    messages := [resultMessage "waiting"],
    pendingQuestion := some
      { toolCallId := "call", toolName := "ask", question := "?", options := [],
        allowCustom := true, source := .pauseTool } }

def answeredSession : Session :=
  { unaskedCopy with
    messages := [resultMessage "yes"],
    metadata := unaskedCopy.metadata.insert consumedResponseOccurrencesKey "[asked]" }

def answeredWorld : World :=
  { cell := some answeredSession,
    held := fun writer => if writer = "early" then some unaskedCopy else some askingCopy }

theorem answeredWorld_answered : Answered sampleCodec sampleAnswer answeredWorld := by
  have plain : ∀ content, ∀ m ∈ [resultMessage content], Plain m := by
    intro content m only
    cases mem_singleton.1 only
    exact fun _ => ⟨rfl, rfl⟩
  refine ⟨⟨answeredSession, rfl, ⟨⟨?_, ?_⟩, ?_⟩, plain "yes"⟩, ?_⟩
  · exact ⟨"[asked]", [sampleAnswer.occurrence], rfl, rfl, mem_singleton.2 rfl⟩
  · exact ⟨resultMessage "yes", mem_singleton.2 rfl, rfl, rfl, rfl, rfl⟩
  · exact fun open_ => nomatch open_
  · intro writer s held
    by_cases early : writer = "early"
    · cases (if_pos early).symm.trans held
      exact fun _ none => nomatch none
    · cases (if_neg early).symm.trans held
      exact plain "waiting"

theorem early_copy_resurrects_question :
    ¬ AnswerLaw sampleCodec sampleAnswer (fun _ _ _ => True) := by
  intro law
  obtain ⟨dropped, again, first, second, open_⟩ : ∃ dropped again,
      mergeSaveRuntimeInner sampleCodec sampleClock (fun _ _ => .ok ()) true false
        (some answeredSession) unaskedCopy = .ok dropped ∧
      mergeSaveRuntimeInner sampleCodec sampleClock (fun _ _ => .ok ()) true false
        (some dropped) askingCopy = .ok again ∧
      pendingOccurrence sampleCodec again = some sampleAnswer.occurrence :=
    ⟨_, _, rfl, rfl, rfl⟩
  have early : Converses sampleCodec (fun _ _ _ => True) answeredWorld _ :=
    @Converses.saves _ _ _ "early" _ answeredSession unaskedCopy dropped rfl rfl trivial
      (.runtime first)
  have late := (Relation.ReflTransGen.single early).tail
    (@Converses.saves _ _ _ "asking" _ dropped askingCopy again rfl rfl trivial
      (.runtime second))
  have settled := law.closed answeredWorld_answered late rfl
  exact settled.closed open_

end Sessions
