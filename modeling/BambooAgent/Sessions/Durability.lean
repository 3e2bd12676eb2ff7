import Mathlib.Logic.Function.Basic
import Mathlib.Logic.Relation
import BambooAgent.Sessions.StagedChecks

/- The store as one cell, its writers and their copies, and the law that the durable lanes
   never go back. -/
namespace Sessions
open SortedMaps Compression Versions Checks Option

/-- What a session is through its lifetime, and which message ids the inbox gave out. -/
structure Lifetime where
  id : String
  kind : SessionKind
  createdAt : Nat
  inbox : String → Prop

/-- A message as the admission from the inbox writes it. -/
def Admitted (sessionId : String) (message : Message) : Prop :=
  typedMarker sessionId message = true ∧ message.role = .user

/-- A copy of the session, however old and however edited: it keeps its lifetime, and the
    messages under the inbox's ids are the admitted ones. -/
structure Copy (life : Lifetime) (session : Session) : Prop where
  id : session.id = life.id
  kind : session.kind = life.kind
  createdAt : session.createdAt = life.createdAt
  messages : ∀ m ∈ session.messages, life.inbox m.id ↔ Admitted life.id m

/-- The law from one durable state to the next. -/
structure Advances (durable next : Session) : Prop where
  version : durable.metadataVersion ≤ next.metadataVersion
  title : durable.metadataVersion = next.metadataVersion → next.title = durable.title
  pinned : durable.metadataVersion = next.metadataVersion → next.pinned = durable.pinned
  ledger : LedgerAdvances durable.modelContextState next.modelContextState
  admitted : ∀ m ∈ durable.messages, Admitted durable.id m →
    ∃ held ∈ next.messages, held.id = m.id ∧ Admitted next.id held
  sequence : lastAdmitted durable.inboxAdmission ≤ lastAdmitted next.inboxAdmission
  launch : durable.kind = .child → closesLaunch next = false →
    newerGeneration durable.launchGeneration next.launchGeneration = false
  cancelled : durable.kind = .child →
    newerGeneration durable.cancelledGeneration next.cancelledGeneration = false
  intent : durable.kind = .child →
    newerGeneration durable.intentGeneration next.intentGeneration = false

/-- The part of the law that the lanes outside the transcript keep. -/
structure LanesAdvance (durable next : Lanes) : Prop where
  group : Later durable.group next.group
  ledger : LedgerAdvances durable.ledger next.ledger
  sequence : lastAdmitted durable.admission ≤ lastAdmitted next.admission
  launch : durable.kind = .child → closes next.status = false →
    newerGeneration durable.launch next.launch = false
  cancelled : durable.kind = .child → newerGeneration durable.cancelled next.cancelled = false
  intent : durable.kind = .child → newerGeneration durable.intent next.intent = false

theorem advances_of_lanes (lanes : LanesAdvance durable.lanes next.lanes)
    (admitted : ∀ m ∈ durable.messages, Admitted durable.id m →
      ∃ held ∈ next.messages, held.id = m.id ∧ Admitted next.id held) : Advances durable next where
  version := lanes.group.version
  title := fun same => congrArg Prod.fst (lanes.group.value same)
  pinned := fun same => congrArg Prod.snd (lanes.group.value same)
  ledger := lanes.ledger
  admitted := admitted
  sequence := lanes.sequence
  launch := lanes.launch
  cancelled := lanes.cancelled
  intent := lanes.intent

/- Copies. -/

variable {life : Lifetime} {session latest : Session}

theorem copy_of_drawn (copy : Copy life session) (durable : Copy life latest)
    (id : result.id = session.id) (kind : result.kind = session.kind)
    (born : result.createdAt = session.createdAt)
    (drawn : Drawn latest.messages session.messages result.messages) : Copy life result where
  id := id.trans copy.id
  kind := kind.trans copy.kind
  createdAt := born.trans copy.createdAt
  messages := by
    intro m member
    rcases drawn m member with own | old
    · exact copy.messages m own
    · exact durable.messages m old

theorem copy_congr (copy : Copy life session) (lanes : next.lanes = session.lanes)
    (messages : next.messages = session.messages) : Copy life next where
  id := (congrArg Lanes.id lanes).trans copy.id
  kind := (congrArg Lanes.kind lanes).trans copy.kind
  createdAt := (congrArg Lanes.createdAt lanes).trans copy.createdAt
  messages := by
    rw [messages]
    exact copy.messages

theorem admitted_of_ids (durable : Copy life latest) (copy : Copy life result)
    (member : m ∈ latest.messages) (admitted : Admitted latest.id m)
    (there : held ∈ result.messages) (same : held.id = m.id) : Admitted result.id held := by
  rw [durable.id] at admitted
  rw [copy.id]
  exact (copy.messages held there).1 (same ▸ (durable.messages m member).2 admitted)

/- What a candidate carries of the durable session. -/

/-- A candidate that may be written over the durable session. -/
structure Carries (life : Lifetime) (latest candidate : Session) : Prop where
  copy : Copy life candidate
  lanes : LanesAdvance latest.lanes candidate.lanes
  admitted : ∀ m ∈ latest.messages, Admitted latest.id m →
    ∃ held ∈ candidate.messages, held.id = m.id

variable {candidate : Session}

theorem carries_advances (durable : Copy life latest) (carries : Carries life latest candidate) :
    Advances latest candidate := by
  refine advances_of_lanes carries.lanes ?_
  intro m member admitted
  obtain ⟨held, there, same⟩ := carries.admitted m member admitted
  exact ⟨held, there, same, admitted_of_ids durable carries.copy member admitted there same⟩

theorem carries_congr (carries : Carries life latest candidate)
    (lanes : next.lanes = candidate.lanes) (messages : next.messages = candidate.messages) :
    Carries life latest next where
  copy := copy_congr carries.copy lanes messages
  lanes := by
    rw [lanes]
    exact carries.lanes
  admitted := by
    rw [messages]
    exact carries.admitted

theorem lanesAdvance_of_authoritative {latest : Lanes}
    (authoritative : Authoritative latest before after)
    (ledger : LedgerAdvances latest.ledger before.ledger)
    (sequence : lastAdmitted latest.admission ≤ lastAdmitted before.admission) :
    LanesAdvance latest after where
  group := authoritative.group
  ledger := by
    rcases authoritative.ledger with own | durable
    · rw [own]
      exact ledger
    · rw [durable]
      exact laterOption_refl _
  sequence := by
    rw [authoritative.admission]
    exact sequence
  launch := authoritative.launch
  cancelled := authoritative.cancelled
  intent := authoritative.intent

theorem lanesAdvance_settled {latest : Lanes}
    (authoritative : Authoritative latest before after)
    (advances : LedgerAdvances latest.ledger ledger)
    (sequence : lastAdmitted latest.admission ≤ lastAdmitted admission) :
    LanesAdvance latest { after with admission := admission, ledger := ledger } where
  group := authoritative.group
  ledger := advances
  sequence := sequence
  launch := authoritative.launch
  cancelled := authoritative.cancelled
  intent := authoritative.intent

/- Saving. -/

theorem carries_task (carries : Carries life latest candidate) (durable : Session) :
    Carries life latest (adoptDurableTaskControlPlane candidate durable) :=
  carries_congr carries (lanes_adoptTaskControlPlane candidate durable)
    (messages_adoptTaskControlPlane candidate durable)

/- Runtime saves. -/

theorem prepareRuntime_drawn
    (run : prepareRuntime codec finalizeChildWait session latest = .ok answered) :
    (∃ status, answered.lanes = { session.lanes with status := status }) ∧
      Drawn latest.messages session.messages answered.messages := by
  let P : Session → Prop := fun s =>
    (∃ status, s.lanes = { session.lanes with status := status }) ∧
      Drawn latest.messages session.messages s.messages
  refine prepareRuntime_rule (P := P) (Q := P) ?_ ?_ ?_ ?_ ?_ run
  · intro next handoff
    exact ⟨⟨session.lanes.status, lanes_adoptHandoff handoff⟩, drawn_adoptHandoff handoff⟩
  · rintro s next ⟨⟨status, lanes⟩, drawn⟩ outcomes
    refine ⟨⟨status, (lanes_adoptOutcomes outcomes).trans lanes⟩, ?_⟩
    rw [messages_adoptOutcomes outcomes]
    exact drawn
  · rintro s ⟨⟨status, lanes⟩, drawn⟩
    obtain ⟨after, waited⟩ := lanes_adoptFinalizedWait codec s latest
    refine ⟨⟨after, ?_⟩, drawn_trans ?_ (drawn_preserveResumesOf latest _)⟩
    · rw [lanes_preserveResumesOf, waited, lanes]
    · rw [messages_adoptFinalizedWait]
      exact drawn
  · rintro s ⟨⟨status, lanes⟩, drawn⟩
    refine ⟨⟨status, ?_⟩, drawn_trans ?_ (drawn_preserveResumesOf latest _)⟩
    · rw [lanes_preserveResumesOf, lanes_adoptTaggedWait, lanes]
    · rw [messages_adoptTaggedWait]
      exact drawn
  · rintro s ⟨⟨status, lanes⟩, drawn⟩
    exact ⟨⟨status, (lanes_adoptConsumed codec s latest).trans lanes⟩,
      drawn_trans drawn (drawn_adoptConsumed codec s latest)⟩

theorem messages_settleRuntime (codec : Codec) (clock : Clock) (adoptBypass : Bool)
    (answered latest : Session) :
    (settleRuntime codec clock adoptBypass answered latest).messages =
      restoreFrom latest.id latest.inboxAdmission [] latest.messages answered.messages := by
  have restored : (restoreMissingAdmittedInboxMessages
      (applyAuthoritativeMetadata answered latest) latest).messages =
        restoreFrom latest.id latest.inboxAdmission [] latest.messages answered.messages := by
    rw [← messages_applyAuthoritative answered latest]
    rfl
  unfold settleRuntime
  rw [messages_adoptLedger]
  split
  · rw [messages_adoptPosture, messages_mergeAdmission, restored]
  · rw [messages_mergeAdmission, restored]

theorem lanes_adoptLedger (session latest : Session) :
    ∃ ledger, LedgerAdvances latest.modelContextState ledger ∧
      (adoptFresherDurableModelContextState session latest).lanes =
        { session.lanes with ledger := ledger } := by
  unfold adoptFresherDurableModelContextState
  split
  · exact ⟨latest.modelContextState, laterOption_refl _, rfl⟩
  · rename_i current
    exact ⟨session.modelContextState, ledger_current (by simpa using current), rfl⟩

theorem lanes_settleRuntime (codec : Codec) (clock : Clock) (adoptBypass : Bool)
    (answered latest : Session) :
    ∃ admission ledger, lastAdmitted latest.inboxAdmission ≤ lastAdmitted admission ∧
      LedgerAdvances latest.modelContextState ledger ∧
      (settleRuntime codec clock adoptBypass answered latest).lanes =
        { (applyAuthoritativeMetadata answered latest).lanes with
          admission := admission, ledger := ledger } := by
  obtain ⟨admission, sequence, admitted⟩ := lanes_mergeAdmission
    (restoreMissingAdmittedInboxMessages (applyAuthoritativeMetadata answered latest) latest)
    latest
  unfold settleRuntime
  obtain ⟨ledger, advances, adopted⟩ := lanes_adoptLedger
    (if adoptBypass then
      adoptFresherDiskPermissionPosture codec.rfc3339 clock
        (mergeSessionInboxAdmission (restoreMissingAdmittedInboxMessages
          (applyAuthoritativeMetadata answered latest) latest) latest) latest
    else
      mergeSessionInboxAdmission (restoreMissingAdmittedInboxMessages
        (applyAuthoritativeMetadata answered latest) latest) latest) latest
  refine ⟨admission, ledger, sequence, advances, ?_⟩
  rw [adopted]
  split
  · rw [lanes_adoptPosture, admitted, lanes_restoreMissing]
  · rw [admitted, lanes_restoreMissing]

variable {clock : Clock}

theorem mergeRuntime_carries (copy : Copy life session) (durable : Copy life latest)
    (run : mergeRuntime codec clock adoptBypass finalizeChildWait session latest = .ok candidate) :
    Carries life latest candidate := by
  obtain ⟨answered, prepared, result⟩ := mergeRuntime_eq_ok run
  obtain ⟨⟨status, answeredLanes⟩, drawn⟩ := prepareRuntime_drawn prepared
  have kind : answered.kind = session.kind := congrArg Lanes.kind answeredLanes
  have born : answered.createdAt = session.createdAt := congrArg Lanes.createdAt answeredLanes
  have sameKind : latest.kind = answered.kind :=
    (durable.kind.trans copy.kind.symm).trans kind.symm
  have sameBirth : latest.createdAt = answered.createdAt :=
    (durable.createdAt.trans copy.createdAt.symm).trans born.symm
  have authoritative := lanes_applyAuthoritative sameKind sameBirth
  obtain ⟨admission, ledger, sequence, advances, lanes⟩ :=
    lanes_settleRuntime codec clock adoptBypass answered latest
  have messages := messages_settleRuntime codec clock adoptBypass answered latest
  rw [result] at lanes messages
  generalize (applyAuthoritativeMetadata answered latest).lanes = merged at authoritative lanes
  have id : candidate.id = session.id :=
    (congrArg Lanes.id lanes).trans
      (authoritative.id.trans (congrArg Lanes.id answeredLanes))
  refine ⟨copy_of_drawn copy durable id ?_ ?_ ?_, ?_, ?_⟩
  · exact (congrArg Lanes.kind lanes).trans (authoritative.kind.trans kind)
  · exact (congrArg Lanes.createdAt lanes).trans (authoritative.createdAt.trans born)
  · rw [messages]
    exact drawn_trans drawn restore_drawn
  · rw [lanes]
    exact lanesAdvance_settled authoritative advances sequence
  · intro m member admitted
    rw [messages]
    exact restore_held member (by rw [admitted.1, Bool.true_or])

/- Runtime checkpoints. -/

theorem adoptConsumed_durable (holds : ∀ m ∈ durable.messages, m ∈ session.messages) :
    ∀ m ∈ durable.messages,
      m ∈ (adoptDurableConsumedClarification codec session durable).messages := by
  intro m member
  unfold adoptDurableConsumedClarification
  split
  · exact holds m member
  · split
    · exact holds m member
    · exact appendMissing_durable codec session durable member

theorem ledger_of_current
    (current : ensureModelContextCheckpointIsCurrent codec session latest = .ok u) :
    ledgerStaleOrConflicting session latest = false := by
  obtain ⟨_, _, checked⟩ := bind_eq_ok.1 current
  split at checked
  · cases checked
  · rename_i fresh
    simpa using fresh

theorem reconcile_shape
    (run : reconcileRuntimeCheckpoint codec clock session latest = .ok candidate) :
    ledgerStaleOrConflicting session latest = false ∧
    ∃ answered admission,
      lastAdmitted latest.inboxAdmission ≤ lastAdmitted admission ∧
      answered.lanes = { session.lanes with admission := admission } ∧
      candidate.lanes = (applyAuthoritativeMetadata answered latest).lanes ∧
      Drawn latest.messages session.messages candidate.messages ∧
      ∀ m ∈ latest.messages, m ∈ candidate.messages := by
  obtain ⟨_, current, run⟩ := bind_eq_ok.1 run
  obtain ⟨supervised, outcomes, run⟩ := bind_eq_ok.1 run
  have result := pure_eq_ok.1 run
  obtain ⟨admission, sequence, admitted⟩ := lanes_mergeAdmission
    (appendMissingRuntimeMessages codec supervised latest) latest
  refine ⟨ledger_of_current current, adoptDurableConsumedClarification codec
    (mergeSessionInboxAdmission (appendMissingRuntimeMessages codec supervised latest) latest)
    latest, admission, sequence, ?_, ?_, ?_, ?_⟩
  · rw [lanes_adoptConsumed, admitted, lanes_appendMissing, lanes_adoptOutcomes outcomes]
  · rw [← result, lanes_adoptTaggedWait, lanes_adoptPosture]
  · rw [← result, messages_adoptTaggedWait, messages_adoptPosture, messages_applyAuthoritative]
    refine drawn_trans ?_ (drawn_adoptConsumed codec _ latest)
    rw [messages_mergeAdmission, ← messages_adoptOutcomes outcomes]
    exact drawn_appendMissing codec supervised latest
  · rw [← result, messages_adoptTaggedWait, messages_adoptPosture, messages_applyAuthoritative]
    refine adoptConsumed_durable ?_
    intro m member
    rw [messages_mergeAdmission]
    exact appendMissing_durable codec supervised latest member

theorem reconcile_carries (copy : Copy life session) (durable : Copy life latest)
    (run : reconcileRuntimeCheckpoint codec clock session latest = .ok candidate) :
    Carries life latest candidate := by
  obtain ⟨current, answered, admission, sequence, answeredLanes, lanes, drawn, held⟩ :=
    reconcile_shape run
  have kind : answered.kind = session.kind := congrArg Lanes.kind answeredLanes
  have born : answered.createdAt = session.createdAt := congrArg Lanes.createdAt answeredLanes
  have id : answered.id = session.id := congrArg Lanes.id answeredLanes
  have ledger : answered.lanes.ledger = session.modelContextState :=
    congrArg Lanes.ledger answeredLanes
  have cursor : answered.lanes.admission = admission := congrArg Lanes.admission answeredLanes
  have authoritative := lanes_applyAuthoritative
    ((durable.kind.trans copy.kind.symm).trans kind.symm)
    ((durable.createdAt.trans copy.createdAt.symm).trans born.symm)
  rw [← lanes] at authoritative
  refine ⟨copy_of_drawn copy durable (authoritative.id.trans id)
    (authoritative.kind.trans kind) (authoritative.createdAt.trans born) drawn, ?_, ?_⟩
  · refine lanesAdvance_of_authoritative authoritative ?_ ?_
    · rw [ledger]
      exact ledger_current current
    · rw [cursor]
      exact sequence
  · intro m member _
    exact ⟨m, held m member, rfl⟩

theorem copy_placePrompt (prompt : Option String) (fresh : ¬ life.inbox draw.id)
    (copy : Copy life candidate) : Copy life (placePrompt prompt draw candidate) := by
  cases prompt with
  | none => exact copy
  | some text =>
    refine ⟨copy.id, copy.kind, copy.createdAt, ?_⟩
    intro m member
    rcases List.mem_cons.1 member with rfl | kept
    · constructor
      · intro given
        exact absurd given fresh
      · intro admitted
        cases admitted.2
    · exact copy.messages m (List.mem_filter.1 kept).1

theorem carries_placePrompt (prompt : Option String) (fresh : ¬ life.inbox draw.id)
    (carries : Carries life latest candidate) (durable : Copy life latest) :
    Carries life latest (placePrompt prompt draw candidate) := by
  cases prompt with
  | none => exact carries
  | some text =>
    have copy := copy_placePrompt (some text) fresh carries.copy
    refine ⟨copy, ?_, ?_⟩
    · exact carries.lanes
    · intro m member admitted
      obtain ⟨held, there, same⟩ := carries.admitted m member admitted
      have user : held.role = .user :=
        (admitted_of_ids durable carries.copy member admitted there same).2
      exact ⟨held, List.mem_cons_of_mem _ (List.mem_filter.2 ⟨there, by simp [user]⟩), same⟩

/- Retrieval-window checkpoints. -/

theorem mergeWindow_carries (copy : Copy life staged) (durable : Copy life latest)
    (kept : IdsKept latest.messages staged.messages)
    (run : mergeWindow codec clock staged latest = .ok candidate) :
    Carries life latest candidate := by
  obtain ⟨_, current, run⟩ := bind_eq_ok.1 run
  have result := pure_eq_ok.1 run
  obtain ⟨admission, sequence, admitted⟩ := lanes_mergeAdmission staged latest
  generalize reached : mergeSessionInboxAdmission staged latest = merged at result admitted
  have kind : merged.kind = staged.kind := congrArg Lanes.kind admitted
  have born : merged.createdAt = staged.createdAt := congrArg Lanes.createdAt admitted
  have authoritative := lanes_applyAuthoritative
    ((durable.kind.trans copy.kind.symm).trans kind.symm)
    ((durable.createdAt.trans copy.createdAt.symm).trans born.symm)
  have lanes : candidate.lanes = (applyAuthoritativeMetadata merged latest).lanes := by
    rw [← result, lanes_adoptPosture]
  have messages : candidate.messages = staged.messages := by
    rw [← result, messages_adoptPosture, messages_applyAuthoritative, ← reached,
      messages_mergeAdmission]
  rw [← lanes] at authoritative
  refine ⟨copy_of_drawn copy durable (authoritative.id.trans (congrArg Lanes.id admitted))
    (authoritative.kind.trans kind) (authoritative.createdAt.trans born) ?_, ?_, ?_⟩
  · rw [messages]
    exact drawn_refl _ _
  · refine lanesAdvance_of_authoritative authoritative ?_ ?_
    · have ledger : merged.lanes.ledger = staged.modelContextState :=
        congrArg Lanes.ledger admitted
      rw [ledger]
      exact ledger_current (ledger_of_current current)
    · have cursor : merged.lanes.admission = admission := congrArg Lanes.admission admitted
      rw [cursor]
      exact sequence
  · intro m member _
    rw [messages]
    exact kept m member

/- The world. -/

/-- The durable cell and the copies that the writers hold. -/
structure World where
  cell : Option Session
  held : String → Option Session

theorem held_update {P : Session → Prop} (others : ∀ writer s, held writer = some s → P s)
    (writer : String) (own : ∀ s, copy = some s → P s) :
    ∀ other s, Function.update held writer copy other = some s → P s := by
  intro other s present
  by_cases same : other = writer
  · subst same
    rw [Function.update_self] at present
    exact own s present
  · rw [Function.update_of_ne same] at present
    exact others other s present

/-- One save of a copy: the entry point that a writer called, and what it left in the cell. -/
inductive Write (codec : Codec) (life : Lifetime) (durable : Option Session) :
    Session → Session → Prop where
  | runtime {clock : Clock} {session : Session}
      (run : mergeSaveRuntimeInner codec clock storage adoptBypass finalizeChildWait durable
        session = .ok saved) : Write codec life durable session saved
  | checkpoint {clock : Clock} {session : Session}
      -- a drawn identifier is none of the inbox's
      (fresh : ∀ n, ¬ life.inbox (draws n).id)
      (run : checkpointRuntimeSessionWithInput codec clock storage draws input durable session =
        .ok saved) : Write codec life durable session saved
  | window {clock : Clock}
      (run : checkpointRetrievalWindow codec clock storage durable expectedBase staged =
        .ok (.committed saved)) : Write codec life durable staged saved

/-- A writer loads the durable session, changes its copy, or saves it. The locks make one save
    one step; between the steps of a writer the others take any of theirs. -/
inductive Step (codec : Codec) (life : Lifetime) : World → World → Prop where
  | loads {world : World} (writer : String) :
      Step codec life world { world with held := Function.update world.held writer world.cell }
  | edits {world : World} (writer : String) {session : Session} (copy : Copy life session) :
      Step codec life world
        { world with held := Function.update world.held writer (some session) }
  | saves {world : World} (writer : String) {session saved : Session}
      (holds : world.held writer = some session)
      (write : Write codec life world.cell session saved) :
      Step codec life world
        { cell := some saved, held := Function.update world.held writer (some saved) }

/-- Every copy in the world is one of the session. -/
structure Consistent (life : Lifetime) (world : World) : Prop where
  cell : ∀ s, world.cell = some s → Copy life s
  held : ∀ writer s, world.held writer = some s → Copy life s

theorem write_first (copy : Copy life session) (write : Write codec life none session saved) :
    Copy life saved := by
  have task : ∀ latest, none = some latest → ∀ s, Copy life s →
      Copy life (adoptDurableTaskControlPlane s latest) := fun _ absent => nomatch absent
  cases write with
  | runtime run =>
    obtain ⟨_, _, run⟩ := bind_eq_ok.1 run
    obtain ⟨_, _, run⟩ := bind_eq_ok.1 run
    exact written_rule task copy run
  | checkpoint fresh run =>
    obtain ⟨_, _, run⟩ := bind_eq_ok.1 run
    obtain ⟨prompt, _, run⟩ := bind_eq_ok.1 run
    exact attempts_rule task (fun n s held => copy_placePrompt prompt (fresh n) held)
      (fun _ absent => nomatch absent) maxTaskControlPlaneRebaseRetries copy run
  | window run =>
    obtain ⟨_, _, run⟩ := bind_eq_ok.1 run
    obtain ⟨_, wrote, run⟩ := bind_eq_ok.1 run
    cases pure_eq_ok.1 run
    exact written_rule task copy wrote

theorem write_carries (durable : Copy life latest) (copy : Copy life session)
    (write : Write codec life (some latest) session saved) : Carries life latest saved := by
  have task : ∀ s, Carries life latest s →
      Carries life latest (adoptDurableTaskControlPlane s latest) :=
    fun s carries => carries_task carries latest
  cases write with
  | runtime run =>
    exact saveRuntime_rule task (fun _ merged => mergeRuntime_carries copy durable merged) run
  | checkpoint fresh run =>
    exact checkpoint_rule task
      (fun prompt _ n s carries => carries_placePrompt prompt (fresh n) carries durable)
      (fun s next carries reconciled => reconcile_carries carries.copy durable reconciled)
      (fun _ merged => reconcile_carries copy durable merged) run
  | window run =>
    obtain ⟨_, valid, run⟩ := bind_eq_ok.1 run
    obtain ⟨_, _, run⟩ := bind_eq_ok.1 run
    obtain ⟨_, _, run⟩ := bind_eq_ok.1 run
    split at run
    · rename_i base
      obtain ⟨candidate, merged, run⟩ := bind_eq_ok.1 run
      obtain ⟨_, wrote, run⟩ := bind_eq_ok.1 run
      cases pure_eq_ok.1 run
      have kept := idsKept_trans (idsKept_of_base base)
        (idsKept_of_ids (ids_of_validateStaged valid))
      refine written_rule (fun other same => ?_) (mergeWindow_carries copy durable kept merged) wrote
      cases same
      exact task
    · cases pure_eq_ok.1 run

theorem step_consistent (consistent : Consistent life world) (step : Step codec life world next) :
    Consistent life next := by
  cases step with
  | loads writer => exact ⟨consistent.cell, held_update consistent.held writer consistent.cell⟩
  | edits writer copy =>
    exact ⟨consistent.cell,
      held_update consistent.held writer (fun s same => some.inj same ▸ copy)⟩
  | @saves writer session saved holds write =>
    have copy : Copy life saved := by
      cases cell : world.cell with
      | none =>
        rw [cell] at write
        exact write_first (consistent.held writer session holds) write
      | some latest =>
        rw [cell] at write
        exact (write_carries (consistent.cell latest cell)
          (consistent.held writer session holds) write).copy
    have only : ∀ s, some saved = some s → Copy life s :=
      fun s same => some.inj same ▸ copy
    exact ⟨only, held_update consistent.held writer only⟩

theorem reached_consistent (consistent : Consistent life start)
    (run : Relation.ReflTransGen (Step codec life) start world) : Consistent life world := by
  induction run with
  | refl => exact consistent
  | tail _ step ih => exact step_consistent ih step

theorem advances_refl (session : Session) : Advances session session := by
  have same : ∀ generation : Option Nat, newerGeneration generation generation = false := by
    intro generation
    cases generation <;> simp [newerGeneration]
  exact
    { version := le_rfl, title := fun _ => rfl, pinned := fun _ => rfl,
      ledger := laterOption_refl _, admitted := fun m member admitted => ⟨m, member, rfl, admitted⟩,
      sequence := le_rfl, launch := fun _ _ => same _, cancelled := fun _ => same _,
      intent := fun _ => same _ }

/-- In every run of any number of writers with copies of any age, the durable lanes of the
    next state are those of the last one or later ones. -/
theorem durable_lanes_never_go_back {codec : Codec} {life : Lifetime}
    {start world next : World} {durable : Session} (consistent : Consistent life start)
    (run : Relation.ReflTransGen (Step codec life) start world)
    (step : Step codec life world next) (cell : world.cell = some durable) :
    ∃ saved, next.cell = some saved ∧ Advances durable saved := by
  have reached := reached_consistent consistent run
  cases step with
  | loads writer => exact ⟨durable, cell, advances_refl durable⟩
  | edits writer copy => exact ⟨durable, cell, advances_refl durable⟩
  | @saves writer session saved holds write =>
    rw [cell] at write
    have carries := write_carries (reached.cell durable cell)
      (reached.held writer session holds) write
    exact ⟨saved, rfl, carries_advances (reached.cell durable cell) carries⟩

/- A child whose runner saves a copy from before an admission and a rename. -/

def sampleCodec : Codec where
  occurrences := fun text =>
    if text = "[]" then some []
    else if text = "[asked]" then some [⟨"call", "result", none⟩]
    else none
  consumedIds := fun _ => none
  contentGeneration := fun _ => none
  parentQuestion := fun _ => none
  parentQuestionResolution := fun _ => none
  runtimeState := fun _ => none
  eventJson := fun event => event.id
  summaryJson := fun summary => summary.content
  rfc3339 := fun _ => true
  canonicalUuid := fun _ => true
  birthToken := fun id _ _ => id
  mergeDurablePrefix := fun _ durable _ => durable

def sampleClock : Clock := { now := "now", wallRevision := 1, auditRevision := 0 }

def admittedMessage : Message :=
  { Compression.Message.user "m1" "hello" with
    createdAt := 5,
    metadata := some
      { sessionMessage := some
          { id := some "m1", targetSessionId := some "s", rest := "" },
        runtimeKind := none, permissionRequestGeneration := none, rest := "" } }

def sampleLife : Lifetime :=
  { id := "s", kind := .child, createdAt := 1, inbox := fun id => id = "m1" }

def runnerCopy : Session := { Session.new "s" "model" 1 with kind := .child }

def renamedChild : Session :=
  { runnerCopy with
    title := "Renamed", metadataVersion := 1, messages := [admittedMessage],
    runtimeMetadata := some
      { RuntimeMetadata.default with
        childCancelledGeneration := some 2,
        sessionInboxAdmission := some
          { admitted := [⟨"m1", 4⟩], lastAdmittedSequence := 4, lastObservedSequence := 4 } } }

def sampleWorld : World :=
  { cell := some renamedChild, held := fun _ => some runnerCopy }

theorem sampleWorld_consistent : Consistent sampleLife sampleWorld := by
  have copy : Copy sampleLife runnerCopy := ⟨rfl, rfl, rfl, fun m member => nomatch member⟩
  refine ⟨?_, fun writer s held => some.inj held ▸ copy⟩
  intro s held
  cases some.inj held
  refine ⟨rfl, rfl, rfl, ?_⟩
  intro m member
  cases List.mem_singleton.1 member
  exact ⟨fun _ => ⟨by decide, rfl⟩, fun _ => rfl⟩

theorem stale_save_keeps_durable_lanes :
    ∃ next saved, Step sampleCodec sampleLife sampleWorld next ∧ next.cell = some saved ∧
      Advances renamedChild saved := by
  obtain ⟨saved, run⟩ : ∃ saved, mergeSaveRuntimeInner sampleCodec sampleClock
      (fun _ _ => .ok ()) true false (some renamedChild) runnerCopy = .ok saved := ⟨_, rfl⟩
  have holds : sampleWorld.held "runner" = some runnerCopy := rfl
  have step : Step sampleCodec sampleLife sampleWorld _ := .saves "runner" holds (.runtime run)
  obtain ⟨after, cell, advances⟩ :=
    durable_lanes_never_go_back sampleWorld_consistent .refl step rfl
  exact ⟨_, after, step, cell, advances⟩

end Sessions
