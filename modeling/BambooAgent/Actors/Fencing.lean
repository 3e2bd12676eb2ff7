import BambooAgent.Actors.Histories
import BambooAgent.Sessions.Durability

/- Activations over whole histories: revisions, attempts and epochs only grow, and a fence whose
   activation is over or replaced changes nothing that matters any more. -/
namespace Actors
open Sessions Transactions Interleavings Checks

/- How a record develops. -/

def Onward (old new : Option ActorActivation) : Prop :=
  ∀ a, old = some a → ∃ b, new = some b ∧
    (Continues a b ∨ (a.attempt < b.attempt ∧ a.leaseEpoch < b.leaseEpoch))

structure Develops (old new : ActorDirectoryEntry) : Prop where
  revision : old.revision ≤ new.revision
  raised : old.revision = new.revision → old = new
  attempt : old.actor.currentAttempt ≤ new.actor.currentAttempt
  activation : Onward old.activation new.activation

theorem onward_refl (activation : Option ActorActivation) : Onward activation activation :=
  fun a held => ⟨a, held, .inl (continues_refl a)⟩

theorem onward_trans (first : Onward old mid) (second : Onward mid new) : Onward old new := by
  intro a held
  obtain ⟨b, there, ab⟩ := first a held
  obtain ⟨c, last, bc⟩ := second b there
  refine ⟨c, last, ?_⟩
  rcases ab with ab | ⟨attempt, epoch⟩
  · rcases bc with bc | ⟨attempt', epoch'⟩
    · exact .inl (continues_trans ab bc)
    · right
      rw [← ab.attempt]
      exact ⟨attempt', lt_of_le_of_lt ab.epoch epoch'⟩
  · rcases bc with bc | ⟨attempt', epoch'⟩
    · right
      rw [bc.attempt]
      exact ⟨attempt, lt_of_lt_of_le epoch bc.epoch⟩
    · exact .inr ⟨lt_trans attempt attempt', lt_trans epoch epoch'⟩

theorem develops_refl (entry : ActorDirectoryEntry) : Develops entry entry :=
  ⟨le_rfl, fun _ => rfl, le_rfl, onward_refl _⟩

theorem develops_trans (first : Develops old mid) (second : Develops mid new) :
    Develops old new where
  revision := le_trans first.revision second.revision
  raised := by
    intro same
    have low := first.revision
    have high := second.revision
    rw [first.raised (by omega), second.raised (by omega)]
  attempt := le_trans first.attempt second.attempt
  activation := onward_trans first.activation second.activation

theorem develops_raised (revision : moved.revision = old.revision)
    (attempt : old.actor.currentAttempt ≤ moved.actor.currentAttempt)
    (activation : Onward old.activation moved.activation) : Develops old (raised moved) where
  revision := by
    change old.revision ≤ moved.revision + 1
    omega
  raised := by
    intro same
    change old.revision = moved.revision + 1 at same
    omega
  attempt := attempt
  activation := activation

theorem onward_same (held : old = some a) (onward : Continues a b) :
    Onward old (some b) := by
  intro c there
  rw [held] at there
  cases there
  exact ⟨b, rfl, .inl onward⟩

theorem moves_develop (valid : old.Valid) (moves : Moves old moved) :
    Develops old (raised moved) := by
  cases moves with
  | bound policyRevision placementIntent idle =>
    exact develops_raised rfl le_rfl (onward_refl _)
  | claimed claim uuid attempt leaseEpoch next later =>
    refine develops_raised rfl ?_ ?_
    · change old.actor.currentAttempt ≤ attempt
      omega
    · intro a held
      have fits := valid.attempted
      rw [held] at fits later
      refine ⟨_, rfl, .inr ⟨?_, ?_⟩⟩
      · rw [fits.attempt, next]
        exact Nat.lt_succ_self _
      · rw [later]
        exact Nat.lt_succ_self _
  | worked a b held active onward same =>
    exact develops_raised rfl le_rfl (onward_same held onward)
  | ended a b state held onward closed idle =>
    exact develops_raised rfl le_rfl (onward_same held onward)
  | retired closed => exact develops_raised rfl le_rfl (onward_refl _)

theorem recordDeed_develops {written : ActorDirectoryEntry} (held : store.record place = some old)
    (valid : old.Valid) (deed : RecordDeed store place written) : Develops old written := by
  cases deed with
  | opened opening =>
    cases opening with
    | created vacant bare sees inert =>
      rw [held] at vacant
      cases vacant
    | observed before before_held sees observes same =>
      rw [held] at before_held
      cases before_held
      rw [same]
      exact develops_raised rfl le_rfl (onward_refl _)
  | moved before moved before_held marked sees moves same =>
    rw [held] at before_held
    cases before_held
    rw [same]
    exact moves_develop valid moves
  | revoked before a b before_held marked attempted onward closed same =>
    rw [held] at before_held
    cases before_held
    rw [same]
    exact develops_raised rfl le_rfl (onward_same attempted onward)

/- Whole histories. -/

def AllValid (store : Store) (place : Place) : Prop :=
  ∀ entry, store.record place = some entry → entry.Valid

theorem record_elsewhere {store : Store} {written : ActorDirectoryEntry}
    (different : place ≠ other) :
    (store.write (.record other written)).record place = store.record place :=
  Function.update_of_ne different ..

theorem allValid_write (store : Store) (write : Write) (deed : Deed store write)
    (valid : AllValid store place) : AllValid (store.write write) place := by
  intro entry held
  cases deed with
  | record other written fine deed =>
    by_cases same : place = other
    · subst same
      rw [write_record_self] at held
      cases held
      exact fine
    · rw [record_elsewhere same] at held
      exact valid entry held
  | marker other before before_held bare inert => exact valid entry held
  | session other session deed => exact valid entry held

theorem develops_write (store : Store) (write : Write) (deed : Deed store write)
    (from_ : AllValid store place ∧ ∃ old, store.record place = some old ∧ Develops first old) :
    AllValid (store.write write) place ∧
      ∃ new, (store.write write).record place = some new ∧ Develops first new := by
  obtain ⟨valid, old, held, developed⟩ := from_
  refine ⟨allValid_write store write deed valid, ?_⟩
  cases deed with
  | record other written fine deed =>
    by_cases same : place = other
    · subst same
      exact ⟨written, write_record_self ..,
        develops_trans developed (recordDeed_develops held (valid old held) deed)⟩
    · exact ⟨old, (record_elsewhere same).trans held, developed⟩
  | marker other before before_held bare inert => exact ⟨old, held, developed⟩
  | session other session deed => exact ⟨old, held, developed⟩

theorem moment_valid (valid : AllValid store place) (count : Nat) :
    AllValid (moment rules store events count) place :=
  moment_keeps allValid_write valid count

theorem moment_develops (valid : AllValid store place) (order : first ≤ last)
    (held : (moment rules store events first).record place = some old) :
    ∃ new, (moment rules store events last).record place = some new ∧ Develops old new := by
  obtain ⟨writes, along, reached⟩ := @moment_onward store _ _ rules events order
  rw [reached]
  exact (along_keeps develops_write writes along
    ⟨moment_valid valid first, old, held, develops_refl old⟩).2

/- Fences. -/

/-- The fence of an activation that has neither ended nor been replaced. -/
def Holds (entry : ActorDirectoryEntry) (fence : ActorActivationFence) : Prop :=
  ∃ a, entry.activation = some a ∧ a.status.isLive = true ∧ a.fence = fence

def holdsDecidable (fence : ActorActivationFence) : (activation : Option ActorActivation) →
    Decidable (∃ a, activation = some a ∧ a.status.isLive = true ∧ a.fence = fence)
  | none => .isFalse (fun ⟨_, impossible, _⟩ => nomatch impossible)
  | some a =>
    if both : a.status.isLive = true ∧ a.fence = fence then .isTrue ⟨a, rfl, both⟩
    else .isFalse (fun ⟨_, same, found⟩ => both (Option.some.inj same ▸ found))

instance (entry : ActorDirectoryEntry) (fence : ActorActivationFence) :
    Decidable (Holds entry fence) := holdsDecidable fence entry.activation

theorem never_again (held : Holds old fence) (lost : ¬ Holds mid fence) (first : Develops old mid)
    (second : Develops mid new) : ¬ Holds new fence := by
  rintro ⟨c, last, live, same⟩
  obtain ⟨a, there, _, was⟩ := held
  obtain ⟨b, between, ab⟩ := first.activation a there
  obtain ⟨c', last', bc⟩ := second.activation b between
  rw [last] at last'
  cases last'
  have attempt : c.attempt = a.attempt :=
    (congrArg ActorActivationFence.attempt same).trans
      (congrArg ActorActivationFence.attempt was).symm
  have epoch : c.leaseEpoch = a.leaseEpoch :=
    (congrArg ActorActivationFence.leaseEpoch same).trans
      (congrArg ActorActivationFence.leaseEpoch was).symm
  rcases ab with ab | ⟨newer, _⟩
  · rcases bc with bc | ⟨newer, _⟩
    · refine lost ⟨b, between, bc.live live, ?_⟩
      have level : b.leaseEpoch = c.leaseEpoch := by
        have low := ab.epoch
        have high := bc.epoch
        omega
      rw [← same]
      unfold ActorActivation.fence
      rw [bc.schema, bc.actorId, bc.activationId, bc.attempt, bc.run, bc.owner, level]
    · have level := ab.attempt
      omega
  · rcases bc with bc | ⟨newer', _⟩
    · have level := bc.attempt
      omega
    · omega

/- What is done under a lost fence. -/

inductive Under (fence : ActorActivationFence) : Act → Prop
  | start (now : Nat) : Under fence (.start fence now)
  | renew (now leaseExpiresAt : Nat) : Under fence (.renew fence now leaseExpiresAt)
  | checkpoint (now expected : Nat) : Under fence (.checkpoint fence now expected)
  | finish (now : Nat) (outcome : ActorActivationFinish) : Under fence (.finish fence now outcome)
  | validateFence (now : Nat) : Under fence (.validateFence fence now)
  | retireIfActivation (now : Nat) : Under fence (.retireIfActivation fence now)

/-- Nothing but the observation of the sessions is new, except that an actor whose last
    activation is the fence's may have been retired. -/
inductive Untouched (fence : ActorActivationFence) (old : ActorDirectoryEntry) :
    ActorDirectoryEntry → Prop
  | observed (view : ActorSession) (revision : Nat) :
      Untouched fence old { old.observing view with revision }
  | retired (view : ActorSession) (revision : Nat)
      (last : ∃ a, old.activation = some a ∧ a.fence = fence) :
      Untouched fence old { inState (old.observing view) .retired with revision }

theorem untouched_refl (fence : ActorActivationFence) (old : ActorDirectoryEntry) :
    Untouched fence old old := .observed old.actor old.revision

theorem untouched_activation (untouched : Untouched fence old new) :
    new.activation = old.activation := by
  cases untouched with
  | observed view revision => rfl
  | retired view revision last => rfl

theorem untouched_trans (first : Untouched fence old mid) (second : Untouched fence mid new) :
    Untouched fence old new := by
  cases second with
  | observed view revision =>
    cases first with
    | observed view' revision' => exact .observed view revision
    | retired view' revision' last => exact .retired view revision last
  | retired view revision last =>
    cases first with
    | observed view' revision' => exact .retired view revision last
    | retired view' revision' last' => exact .retired view revision last

/-- What a write may do to a record whose activation is not the fence's. -/
def Spares (fence : ActorActivationFence) (store : Store) (write : Write) : Prop :=
  ∀ place old written, write = .record place written → store.record place = some old →
    ¬ Holds old fence → Untouched fence old written

theorem spares_opened (fence : ActorActivationFence) (store : Store) (write : Write)
    (opened : Opened store write) : Spares fence store write := by
  rintro place old written rfl held _
  cases opened with
  | record _ _ valid opening =>
    cases opening with
    | created vacant bare sees inert =>
      rw [held] at vacant
      cases vacant
    | observed before before_held sees observes same =>
      rw [held] at before_held
      cases before_held
      rw [same]
      exact .observed written.actor (old.revision + 1)

/-- Without the fence's activation the operation changes nothing, or only retires. -/
def Powerless (fence : ActorActivationFence)
    (operation : ActorDirectoryEntry → Result (Mutation α)) : Prop :=
  ∀ entry mutation, ¬ Holds entry fence → operation entry = .ok mutation →
    mutation.changed = true →
    mutation.entry = inState entry .retired ∧ ∃ a, entry.activation = some a ∧ a.fence = fence

theorem permits_spares {operation : ActorDirectoryEntry → Result (Mutation α)}
    (powerless : Powerless fence operation) : Permits (Spares fence) operation where
  opened := spares_opened fence
  moved := by
    rintro s place entry mutation ready done changed _ _ old written same held lost
    cases same
    rw [ready.held] at held
    cases held
    obtain ⟨retired, last⟩ := powerless entry mutation lost done changed
    rw [retired]
    exact .retired entry.actor (entry.revision + 1) last

theorem currentLive_holds (live : currentLive entry fence now = .ok a) : Holds entry fence := by
  obtain ⟨held, _, lives, same, _⟩ := currentLive_eq_ok live
  exact ⟨a, held, lives, same⟩

theorem powerless_live {rest : ActorDirectoryEntry → ActorActivation → Result (Mutation α)} :
    Powerless fence (fun entry => currentLive entry fence now >>= rest entry) := by
  intro entry mutation lost done _
  obtain ⟨a, live, _⟩ := bind_eq_ok.1 done
  exact absurd (currentLive_holds live) lost

theorem powerless_renew (fence : ActorActivationFence) (now leaseExpiresAt : Nat) :
    Powerless fence (renewEntry fence now leaseExpiresAt) := by
  intro entry mutation lost done _
  unfold renewEntry at done
  cases held : entry.activation with
  | none =>
    rw [held] at done
    cases done
  | some a =>
    rw [held] at done
    obtain ⟨fits, _⟩ := unless_eq_ok.1 done
    obtain ⟨_, fits⟩ := not_or.1 fits
    obtain ⟨live, same⟩ := not_or.1 fits
    exact absurd ⟨a, held, eq_true_of_ne_false live, not_not.1 same⟩ lost

theorem powerless_finish (fence : ActorActivationFence) (now : Nat)
    (outcome : ActorActivationFinish) : Powerless fence (finishEntry fence now outcome) := by
  intro entry mutation lost done changed
  unfold finishEntry at done
  cases already : finishedAlready entry fence outcome with
  | some activation =>
    rw [already] at done
    cases done
    cases changed
  | none =>
    rw [already] at done
    obtain ⟨a, live, _⟩ := bind_eq_ok.1 done
    exact absurd (currentLive_holds live) lost

theorem powerless_retireIf (fence : ActorActivationFence) (now : Nat) :
    Powerless fence (retireIfEntry fence now) := by
  intro entry mutation lost done changed
  unfold retireIfEntry at done
  split at done
  · cases done
    cases changed
  · rename_i current
    obtain ⟨retired, retires, done⟩ := bind_eq_ok.1 done
    cases done
    obtain ⟨_, matched⟩ := not_or.1 current
    obtain ⟨a, held, same⟩ := Option.any_eq_true _ _ |>.1 (not_not.1 matched)
    have last : a.fence = fence := of_decide_eq_true same
    refine ⟨?_, a, held, last⟩
    obtain ⟨activation, revokes, retires⟩ := bind_eq_ok.1 retires
    cases retires
    rw [held] at revokes
    obtain ⟨b, closed, revokes⟩ := bind_eq_ok.1 revokes
    cases revokes
    unfold revoke at closed
    rw [if_neg (fun live => lost ⟨a, held, live, last⟩)] at closed
    cases closed
    rw [← held]
    rfl

theorem lost_fence_spares (rules : Rules) (store : Store) (under : Under fence act) :
    Along Store.write (Spares fence) store (transaction rules store act).writes := by
  cases under with
  | start now =>
    exact (done_keeps (actorTransaction_keeps (permits_spares powerless_live) ..)).along
  | renew now leaseExpiresAt =>
    exact (done_keeps (actorTransaction_keeps (permits_spares
      (powerless_renew fence now leaseExpiresAt)) ..)).along
  | checkpoint now expected =>
    exact (done_keeps (actorTransaction_keeps (permits_spares powerless_live) ..)).along
  | finish now outcome =>
    exact (done_keeps (actorTransaction_keeps (permits_spares
      (powerless_finish fence now outcome)) ..)).along
  | validateFence now => exact (actorTransaction_keeps (permits_spares powerless_live) ..).along
  | retireIfActivation now =>
    exact (done_keeps (actorTransaction_keeps (permits_spares
      (powerless_retireIf fence now)) ..)).along

theorem spares_write (lost : ¬ Holds first fence) (store : Store) (write : Write)
    (spares : Spares fence store write)
    (from_ : ∃ old, store.record place = some old ∧ Untouched fence first old) :
    ∃ new, (store.write write).record place = some new ∧ Untouched fence first new := by
  obtain ⟨old, held, untouched⟩ := from_
  cases write with
  | record other written =>
    by_cases same : place = other
    · subst same
      refine ⟨written, write_record_self .., untouched_trans untouched ?_⟩
      refine spares place old written rfl held ?_
      rintro ⟨a, there, live, same⟩
      rw [untouched_activation untouched] at there
      exact lost ⟨a, there, live, same⟩
    · exact ⟨old, (record_elsewhere same).trans held, untouched⟩
  | marker other marker => exact ⟨old, held, untouched⟩
  | session other session => exact ⟨old, held, untouched⟩

theorem lost_fence_untouched (rules : Rules) (under : Under fence event.act)
    (held : store.record place = some old) (lost : ¬ Holds old fence) :
    ∃ new, (step rules store event).record place = some new ∧ Untouched fence old new := by
  have whole := lost_fence_spares rules store under
  rw [← List.take_append_drop event.writes (transaction rules store event.act).writes] at whole
  exact along_keeps (spares_write lost) _ (along_append.1 whole).1
    ⟨old, held, untouched_refl fence old⟩

/- Acceptance. -/

def Accepted (store : Store) (fence : ActorActivationFence) (now : Nat) : Prop :=
  (validateFence store fence now).answer = .ok ()

theorem transaction_reads {value : α}
    (answered : (actorTransaction store actorId operation).answer = .ok value) :
    ∃ place entry mutation, lockActorRuntime store actorId = .ok place ∧
      (readOrCreateActorEntry store place).answer = .ok entry ∧
      operation entry = .ok mutation := by
  obtain ⟨place, located, answered⟩ := answer_bind.1 answered
  obtain ⟨entry, read, answered⟩ := answer_bind.1 answered
  obtain ⟨mutation, done, _⟩ := answer_bind.1 answered
  exact ⟨place, entry, mutation, located, read, done⟩

theorem opened_activation (store : Store)
    (write : Write) (opened : Opened store write)
    (same : (store.record place).bind ActorDirectoryEntry.activation = activation) :
    ((store.write write).record place).bind ActorDirectoryEntry.activation = activation := by
  cases opened with
  | record other written valid opening =>
    by_cases here : place = other
    · subst here
      rw [write_record_self]
      cases opening with
      | created vacant bare sees inert =>
        rw [vacant] at same
        rw [← same]
        exact inert.2.2
      | observed old held sees observes raised_ =>
        rw [held] at same
        rw [raised_]
        exact same
    · rw [record_elsewhere here]
      exact same
  | marker other entry held bare inert => exact same

theorem read_activation (read : (readOrCreateActorEntry store place).answer = .ok entry) :
    (store.record place).bind ActorDirectoryEntry.activation = entry.activation := by
  have opens := readOrCreate_keeps store place
  have ready := opens.answered entry read
  have same := along_keeps (@opened_activation place _) _ opens.along rfl
  have finished : run Store.write store (readOrCreateActorEntry store place).writes =
      (readOrCreateActorEntry store place).finished Store.write store := rfl
  rw [finished, ready.held] at same
  exact same.symm

theorem read_holds (read : (readOrCreateActorEntry store place).answer = .ok entry)
    (holds : Holds entry fence) : ∃ old, store.record place = some old ∧ Holds old fence := by
  obtain ⟨a, there, live, matched⟩ := holds
  have same := read_activation read
  cases held : store.record place with
  | none =>
    rw [held] at same
    have none_ : none = entry.activation := same
    rw [there] at none_
    cases none_
  | some old =>
    rw [held] at same
    exact ⟨old, rfl, a, same.trans there, live, matched⟩

theorem accepted_holds (accepted : Accepted store fence now) :
    ∃ place entry, lockActorRuntime store fence.actorId = .ok place ∧
      store.record place = some entry ∧ Holds entry fence := by
  obtain ⟨place, entry, mutation, located, read, done⟩ := transaction_reads accepted
  obtain ⟨a, live, _⟩ := bind_eq_ok.1 done
  obtain ⟨old, held, holds⟩ := read_holds read (currentLive_holds live)
  exact ⟨place, old, located, held, holds⟩

theorem accepted_unique (same : fence.actorId = fence'.actorId)
    (accepted : Accepted store fence now) (accepted' : Accepted store fence' now') :
    fence = fence' := by
  obtain ⟨place, entry, located, held, a, there, _, matched⟩ := accepted_holds accepted
  obtain ⟨place', entry', located', held', a', there', _, matched'⟩ := accepted_holds accepted'
  rw [← same, located] at located'
  cases located'
  rw [held] at held'
  cases held'
  rw [there] at there'
  cases there'
  rw [← matched, matched']

/- Everything together. -/

structure Fenced (rules : Rules) (store : Store) (events : List Event) (place : Place) :
    Prop where
  valid : ∀ count, AllValid (moment rules store events count) place
  develops : ∀ first last, first ≤ last → ∀ old,
    (moment rules store events first).record place = some old →
    ∃ new, (moment rules store events last).record place = some new ∧ Develops old new
  accepted : ∀ count fence now, Accepted (moment rules store events count) fence now →
    lockActorRuntime (moment rules store events count) fence.actorId = .ok place →
    ∃ entry, (moment rules store events count).record place = some entry ∧ Holds entry fence
  exclusive : ∀ count fence fence' now now', fence.actorId = fence'.actorId →
    Accepted (moment rules store events count) fence now →
    Accepted (moment rules store events count) fence' now' → fence = fence'
  lost : ∀ first mid last, first ≤ mid → mid ≤ last → ∀ fence held gone,
    (moment rules store events first).record place = some held → Holds held fence →
    (moment rules store events mid).record place = some gone → ¬ Holds gone fence →
    ∀ event, Under fence event.act → ∃ old new,
      (moment rules store events last).record place = some old ∧
      (step rules (moment rules store events last) event).record place = some new ∧
      Untouched fence old new

def sampleRules : Rules := { codec := sampleCodec, compactionPending := fun _ => false }

def sampleRoot : Session := Session.new "root" "model" 0

def rootStore : Store :=
  { roots := ["root"],
    session := fun place => if place = .root "root" then some sampleRoot else none,
    record := fun _ => none, marker := fun _ => none,
    listed := by
      intro place there
      by_cases same : place = .root "root"
      · rw [same]
        exact List.mem_cons_self
      · exact absurd (if_neg same) there }

def hostClaim : ActorActivationClaim :=
  { actorId := "root", runId := "run", leaseOwner := "host", leaseExpiresAt := 10,
    inboxGeneration := 0, placementRef := none, now := 0 }

def hostFence : ActorActivationFence :=
  { schemaVersion := 2, actorId := "root", activationId := "a", attempt := 1, runId := "run",
    leaseOwner := "host", leaseEpoch := 1 }

def claimed : Event := ⟨.claim hostClaim ⟨"a", by decide⟩, 9⟩

def cancelledThenEdited : List Event :=
  [claimed, ⟨.finish hostFence 1 .cancelled, 9⟩,
    ⟨.save (.root "root") { sampleRoot with title := "New title", metadataVersion := 1 }, 9⟩]

end Actors
