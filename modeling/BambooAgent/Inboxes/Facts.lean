import BambooAgent.Inboxes.Courses

/- What becomes of each file and each receipt under a step, and the facts about one message that
   no step can undo. -/
namespace Inboxes
open SortedMaps Crashes Checks Option

/-- How the file of one message may differ after a step. -/
structure Evolves (deed : Deed) (generation : Nat) (queue queue' : Queue)
    (transport transport' : Transport) : Prop where
  envelope : transport'.envelope = transport.envelope
  intent : transport'.intent = transport.intent
  lease : transport'.lease.map StoredLease.lineage = transport.lease.map StoredLease.lineage ∨
    ∃ lease, transport'.lease = some lease ∧ lease.token.epoch = epochOf transport.lease + 1
  coordinator : transport'.coordinatorIntent = transport.coordinatorIntent ∨
    deed = .promote generation ∧ transport'.coordinatorIntent.isSome = true
  failures : failuresOf transport'.lease ≤ failuresOf transport.lease ∨
    deed = .fail generation (failuresOf transport'.lease) ∧
      failuresOf transport'.lease = failuresOf transport.lease + 1
  dead : queue = .dead → queue' = .dead ∨ deed = .revive generation
  cancelled : queue = .cancelled → queue' = .cancelled

theorem Evolves.still (deed : Deed) (generation : Nat) (queue : Queue) (transport : Transport) :
    Evolves deed generation queue queue transport transport :=
  { envelope := rfl
    intent := rfl
    lease := .inl rfl
    coordinator := .inl rfl
    failures := .inl le_rfl
    dead := fun here => .inl here
    cancelled := id }

theorem rewrites_evolves
    (rewrites : Rewrites clock marks admitted deed queue name transport transport') :
    Evolves deed name.generation queue queue transport transport' := by
  cases rewrites with
  | lease queue name transport lease waiting unadmitted owned valid alive next failures =>
    exact { Evolves.still .lease name.generation queue transport with
      lease := .inr ⟨lease, rfl, next⟩
      failures := .inl failures }
  | extend queue name transport lease expiresAt waiting held alive =>
    refine { Evolves.still .extend name.generation queue transport with
      lease := .inl ?_, failures := .inl ?_ }
    · rw [held]
      rfl
    · rw [held]
      exact le_rfl
  | fail name transport lease failed unadmitted held alive valid counted lineage ended unretried
      third =>
    refine { Evolves.still (.fail name.generation failed.failureCount) name.generation .cur transport with
      lease := .inl ?_, failures := .inr ⟨rfl, ?_⟩ }
    · rw [held, map_some, map_some, lineage]
    · rw [held]
      exact counted
  | request name transport lease requested held dead =>
    refine { Evolves.still .request name.generation .dead transport with
      lease := .inl ?_, failures := .inl ?_ }
    · rw [held]
      rfl
    · rw [held]
      exact le_rfl
  | promote queue name transport intent waiting versioned supported =>
    exact { Evolves.still (.promote name.generation) name.generation queue transport with
      coordinator := .inr ⟨rfl, rfl⟩ }

theorem moves_evolves (moves : Moves admitted generation deed queue queue' transport) :
    Evolves deed generation queue queue' transport transport := by
  refine { Evolves.still deed generation queue transport with dead := ?_, cancelled := ?_ }
  · cases moves with
    | take queue transport waiting alive =>
      intro here
      rcases waiting with rfl | rfl <;> cases here
    | bury => exact fun here => nomatch here
    | revive => exact fun _ => .inr rfl
    | cancel => exact fun here => nomatch here
  · cases moves with
    | take queue transport waiting alive =>
      intro here
      rcases waiting with rfl | rfl <;> cases here
    | bury => exact fun here => nomatch here
    | revive => exact fun here => nomatch here
    | cancel => exact fun here => nomatch here

theorem does_forward (tidy : Tidy rules target clock inbox marks)
    (does : Does rules target clock deed inbox inbox')
    (held : inbox.transport queue name = some transport) :
    (∃ queue' name' transport', inbox'.transport queue' name' = some transport' ∧
      name'.generation = name.generation ∧
      Evolves deed name.generation queue queue' transport transport') ∨
    (∃ receipt, inbox.admitted.lookup transport.envelope.id = some receipt ∧
      inbox'.admitted = inbox.admitted) := by
  have stays : inbox'.transport queue name = some transport → (∃ queue' name' transport',
      inbox'.transport queue' name' = some transport' ∧ name'.generation = name.generation ∧
        Evolves deed name.generation queue queue' transport transport') :=
    fun still => ⟨queue, name, transport, still, rfl, .still _ _ _ _⟩
  cases does with
  | count => exact .inl (stays held)
  | marks => exact .inl (stays held)
  | publish inbox name₀ transport₀ marks₀ read sound unleased ungranted last fresh =>
    refine .inl (stays ?_)
    rw [Inbox.transport_put, if_neg]
    · exact held
    · rintro ⟨_, rfl⟩
      exact (fresh _ _ _ held).1 rfl
  | rewrite deed inbox queue₀ name₀ transport₀ transport' marks₀ read held₀ rewrites =>
    by_cases here : queue = queue₀ ∧ name = name₀
    · obtain ⟨rfl, rfl⟩ := here
      cases held₀.symm.trans held
      refine .inl ⟨queue, name, transport', ?_, rfl, rewrites_evolves rewrites⟩
      rw [Inbox.transport_put, if_pos ⟨rfl, rfl⟩]
    · refine .inl (stays ?_)
      rw [Inbox.transport_put, if_neg here]
      exact held
  | rename deed inbox queue₀ queue' name₀ name' transport₀ held₀ same moves =>
    by_cases here : queue = queue₀ ∧ name = name₀
    · obtain ⟨rfl, rfl⟩ := here
      cases held₀.symm.trans held
      refine .inl ⟨queue', name', transport, ?_, same, moves_evolves moves⟩
      rw [Inbox.transport_rename held, if_pos ⟨rfl, rfl⟩]
    · refine .inl (stays ?_)
      rw [Inbox.transport_rename held₀]
      by_cases there : queue = queue' ∧ name = name'
      · obtain ⟨rfl, rfl⟩ := there
        exact absurd (tidy.oneGeneration held held₀ same) here
      · rw [if_neg there, if_neg here]
        exact held
  | record => exact .inl (stays held)
  | clear inbox queue₀ name₀ transport₀ receipt held₀ admitted =>
    by_cases here : queue = queue₀ ∧ name = name₀
    · obtain ⟨rfl, rfl⟩ := here
      cases held₀.symm.trans held
      exact .inr ⟨receipt, admitted, rfl⟩
    · refine .inl (stays ?_)
      rw [Inbox.transport_remove, if_neg here]
      exact held

/-- A file is there because it was there before, or because it has just been published. -/
theorem does_backward (does : Does rules target clock deed inbox inbox')
    (held : inbox'.transport queue' name' = some transport') :
    (∃ queue name transport, inbox.transport queue name = some transport ∧
      name'.generation = name.generation ∧
      Evolves deed name.generation queue queue' transport transport') ∨
    (deed = .publish ∧ queue' = .new ∧ transport'.lease = none ∧
      transport'.coordinatorIntent = none) := by
  have stood : inbox.transport queue' name' = some transport' → (∃ queue name transport,
      inbox.transport queue name = some transport ∧ name'.generation = name.generation ∧
        Evolves deed name.generation queue queue' transport transport') :=
    fun before => ⟨queue', name', transport', before, rfl, .still _ _ _ _⟩
  cases does with
  | count => exact .inl (stood held)
  | marks => exact .inl (stood held)
  | publish inbox name₀ transport₀ marks₀ read sound unleased ungranted =>
    rcases Inbox.of_put held with ⟨rfl, rfl, rfl⟩ | ⟨_, old⟩
    · exact .inr ⟨rfl, rfl, unleased, ungranted⟩
    · exact .inl (stood old)
  | rewrite deed inbox queue₀ name₀ transport₀ transport₁ marks₀ read held₀ rewrites =>
    rcases Inbox.of_put held with ⟨rfl, rfl, rfl⟩ | ⟨_, old⟩
    · exact .inl ⟨queue', name', transport₀, held₀, rfl, rewrites_evolves rewrites⟩
    · exact .inl (stood old)
  | rename deed inbox queue₀ queue₁ name₀ name₁ transport₀ held₀ same moves =>
    rcases Inbox.of_rename held₀ held with ⟨rfl, rfl, rfl⟩ | ⟨_, old⟩
    · exact .inl ⟨queue₀, name₀, transport', held₀, same, moves_evolves moves⟩
    · exact .inl (stood old)
  | record => exact .inl (stood held)
  | clear => exact .inl (stood (Inbox.of_remove held).2)

/-- There is a file of the message with this receipt. -/
def Names (inbox : Inbox) (receipt : SessionInboxReceipt) : Prop :=
  ∃ queue name transport, inbox.transport queue name = some transport ∧
    name.generation = receipt.generation ∧ transport.envelope.id = receipt.id

theorem names_back (never : ¬ allowed .publish)
    (course : Course rules target clock allowed inbox inbox') (names : Names inbox' receipt) :
    Names inbox receipt := by
  induction course with
  | refl => exact names
  | tail before last ih =>
    obtain ⟨deed, may, does⟩ := last
    obtain ⟨queue', name', transport', held, generation, id⟩ := names
    rcases does_backward does held with
      ⟨queue, name, transport, stood, same, evolves⟩ | ⟨published, _⟩
    · refine ih ⟨queue, name, transport, stood, same.symm.trans generation, ?_⟩
      rw [← evolves.envelope]
      exact id
    · rw [published] at may
      exact absurd may never

theorem does_admitted (tidy : Tidy rules target clock inbox marks)
    (does : Does rules target clock deed inbox inbox') {id : String}
    (admitted : inbox.admitted.lookup id = some receipt) :
    ∃ receipt', inbox'.admitted.lookup id = some receipt' ∧
      receipt'.generation = receipt.generation ∧
      receipt'.semanticDigest = receipt.semanticDigest ∧ receipt'.intent = receipt.intent ∧
      receipt'.lease.map StoredLease.lineage = receipt.lease.map StoredLease.lineage := by
  cases does with
  | count => exact ⟨receipt, admitted, rfl, rfl, rfl, rfl⟩
  | marks => exact ⟨receipt, admitted, rfl, rfl, rfl, rfl⟩
  | publish => exact ⟨receipt, admitted, rfl, rfl, rfl, rfl⟩
  | rewrite => exact ⟨receipt, admitted, rfl, rfl, rfl, rfl⟩
  | rename =>
    refine ⟨receipt, ?_, rfl, rfl, rfl, rfl⟩
    rw [Inbox.rename_admitted]
    exact admitted
  | record inbox name transport receipt' held sameId generation leased leftover =>
    rw [Inbox.lookup_record]
    by_cases here : id = receipt'.id
    · subst here
      rw [sameId] at admitted
      have before := tidy.leftover held admitted
      refine ⟨receipt', if_pos rfl, ?_, ?_, ?_, ?_⟩
      · rw [generation]
        exact (tidy.generations held admitted).1 rfl
      · rw [leftover.digest, before.digest]
      · rw [leftover.intent, before.intent]
      · rw [leftover.lineage, before.lineage]
    · rw [if_neg here]
      exact ⟨receipt, admitted, rfl, rfl, rfl, rfl⟩
  | clear => exact ⟨receipt, admitted, rfl, rfl, rfl, rfl⟩

/- What was delivered is kept. -/

def Kept (rules : Rules) (inbox : Inbox) (envelope : SessionMessageEnvelope)
    (intent : Option SessionInboxActivationIntent) (receipt : SessionInboxReceipt) : Prop :=
  (∃ queue name transport, inbox.transport queue name = some transport ∧
    name.generation = receipt.generation ∧ transport.envelope.id = receipt.id ∧
    deliveryDigest rules transport.envelope transport.intent =
      deliveryDigest rules envelope intent ∧ transport.intent = intent) ∨
  (∃ admitted, inbox.admitted.lookup receipt.id = some admitted ∧
    admitted.generation = receipt.generation ∧
    admitted.semanticDigest = deliveryDigest rules envelope intent ∧ admitted.intent = intent)

theorem kept_does (tidy : Tidy rules target clock inbox marks)
    (does : Does rules target clock deed inbox inbox')
    (kept : Kept rules inbox envelope intent receipt) :
    Kept rules inbox' envelope intent receipt := by
  rcases kept with ⟨queue, name, transport, held, generation, id, digest, own⟩ |
    ⟨admitted, held, generation, digest, own⟩
  · rcases does_forward tidy does held with
      ⟨queue', name', transport', held', generation', evolves⟩ | ⟨admitted, found, same⟩
    · refine .inl ⟨queue', name', transport', held', generation'.trans generation, ?_, ?_, ?_⟩
      · rw [evolves.envelope, id]
      · rw [evolves.envelope, evolves.intent, digest]
      · rw [evolves.intent, own]
    · have leftover := tidy.leftover held found
      refine .inr ⟨admitted, ?_, ?_, ?_, ?_⟩
      · rw [same, ← id]
        exact found
      · rw [← generation]
        exact ((tidy.generations held found).1 rfl).symm
      · rw [leftover.digest, digest]
      · rw [leftover.intent, own]
  · obtain ⟨admitted', held', generation', digest', own', _⟩ := does_admitted tidy does held
    exact .inr ⟨admitted', held', generation'.trans generation, digest'.trans digest,
      own'.trans own⟩

/- Leases only go forward. -/

def Recorded (inbox : Inbox) (id : String) (lease : StoredLease) : Prop :=
  (∃ queue name transport, inbox.transport queue name = some transport ∧
    transport.envelope.id = id ∧ transport.lease = some lease) ∨
  (∃ receipt, inbox.admitted.lookup id = some receipt ∧ receipt.lease = some lease)

/-- The record has come as far as this token. -/
def Reached (inbox : Inbox) (id : String) (token : SessionInboxLeaseToken) : Prop :=
  ∃ lease, Recorded inbox id lease ∧
    (token.epoch < lease.token.epoch ∨
      lease.lineage = (token.consumer, token.epoch, token.incarnation))

variable {lease : StoredLease}

theorem epoch_of_lineage {lease' : StoredLease} (same : lease.lineage = lease'.lineage) :
    lease.token.epoch = lease'.token.epoch :=
  congrArg (fun lineage => lineage.2.1) same

section
variable (tidy : Tidy rules target clock inbox marks)
include tidy

theorem recorded_does {id : String} (does : Does rules target clock deed inbox inbox')
    (recorded : Recorded inbox id lease) :
    ∃ lease', Recorded inbox' id lease' ∧
      (lease.token.epoch < lease'.token.epoch ∨ lease'.lineage = lease.lineage) := by
  have inherits : ∀ {stored : Option StoredLease},
      stored.map StoredLease.lineage = some lease.lineage →
      ∃ lease', stored = some lease' ∧ lease'.lineage = lease.lineage := by
    intro stored same
    exact map_eq_some_iff.1 same
  rcases recorded with ⟨queue, name, transport, held, sameId, leased⟩ |
    ⟨receipt, admitted, leased⟩
  · rcases does_forward tidy does held with
      ⟨queue', name', transport', held', _, evolves⟩ | ⟨receipt, found, same⟩
    · have sameId' : transport'.envelope.id = id := by rw [evolves.envelope, sameId]
      rcases evolves.lease with lineage | ⟨lease', leased', epoch⟩
      · rw [leased] at lineage
        obtain ⟨lease', leased', same⟩ := inherits lineage
        exact ⟨lease', .inl ⟨queue', name', transport', held', sameId', leased'⟩, .inr same⟩
      · refine ⟨lease', .inl ⟨queue', name', transport', held', sameId', leased'⟩, .inl ?_⟩
        rw [epoch, leased]
        exact Nat.lt_succ_self _
    · have lineage := (tidy.leftover held found).lineage
      rw [leased] at lineage
      obtain ⟨lease', leased', sameLineage⟩ := inherits lineage
      refine ⟨lease', .inr ⟨receipt, ?_, leased'⟩, .inr sameLineage⟩
      rw [same, ← sameId]
      exact found
  · obtain ⟨receipt', held', _, _, _, lineage⟩ := does_admitted tidy does admitted
    rw [leased] at lineage
    obtain ⟨lease', leased', sameLineage⟩ := inherits lineage
    exact ⟨lease', .inr ⟨receipt', held', leased'⟩, .inr sameLineage⟩

theorem reached_does {id : String} (does : Does rules target clock deed inbox inbox')
    (reached : Reached inbox id token) : Reached inbox' id token := by
  obtain ⟨lease, recorded, further⟩ := reached
  obtain ⟨lease', recorded', next⟩ := recorded_does tidy does recorded
  refine ⟨lease', recorded', ?_⟩
  rcases further with later | same
  · rcases next with more | lineage
    · exact .inl (lt_trans later more)
    · rw [epoch_of_lineage lineage]
      exact .inl later
  · rcases next with more | lineage
    · have epoch : lease.token.epoch = token.epoch := congrArg (fun lineage => lineage.2.1) same
      exact .inl (by rw [← epoch]; exact more)
    · exact .inr (lineage.trans same)

theorem recorded_one {id : String} (first : Recorded inbox id lease)
    (second : Recorded inbox id lease') : lease.lineage = lease'.lineage := by
  rcases first with ⟨queue, name, transport, held, sameId, leased⟩ | ⟨receipt, admitted, leased⟩
  · rcases second with ⟨queue', name', transport', held', sameId', leased'⟩ |
      ⟨receipt', admitted', leased'⟩
    · obtain ⟨rfl, rfl⟩ := tidy.oneId held held' (sameId.trans sameId'.symm)
      cases held.symm.trans held'
      cases leased.symm.trans leased'
      rfl
    · subst sameId
      have lineage := (tidy.leftover held admitted').lineage
      rw [leased, leased'] at lineage
      exact (some.inj lineage).symm
  · rcases second with ⟨queue', name', transport', held', sameId', leased'⟩ |
      ⟨receipt', admitted', leased'⟩
    · subst sameId'
      have lineage := (tidy.leftover held' admitted).lineage
      rw [leased, leased'] at lineage
      exact some.inj lineage
    · cases admitted.symm.trans admitted'
      cases leased.symm.trans leased'
      rfl

end

/- Over a course. -/

theorem course_induct {F : Inbox → Prop}
    (step : ∀ deed inbox inbox' marks, allowed deed → Tidy rules target clock inbox marks →
      Does rules target clock deed inbox inbox' → F inbox → F inbox')
    (tidy : Tidy rules target clock inbox marks)
    (course : Course rules target clock allowed inbox inbox') (start : F inbox) : F inbox' := by
  induction course with
  | refl => exact start
  | tail before last ih =>
    obtain ⟨deed, may, does⟩ := last
    obtain ⟨_, kept⟩ := Course.tidy before tidy
    exact step deed _ _ _ may kept does ih

theorem kept_course (tidy : Tidy rules target clock inbox marks)
    (course : Course rules target clock allowed inbox inbox')
    (kept : Kept rules inbox envelope intent receipt) : Kept rules inbox' envelope intent receipt :=
  course_induct (F := fun inbox => Kept rules inbox envelope intent receipt)
    (fun _ _ _ _ _ tidy does => kept_does tidy does) tidy course kept

theorem reached_course {id : String} (tidy : Tidy rules target clock inbox marks)
    (course : Course rules target clock allowed inbox inbox') (reached : Reached inbox id token) :
    Reached inbox' id token :=
  course_induct (F := fun inbox => Reached inbox id token)
    (fun _ _ _ _ _ tidy does => reached_does tidy does) tidy course reached

end Inboxes
