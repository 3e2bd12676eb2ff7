import BambooAgent.Inboxes.Readiness

/- A message that was delivered without a permission is inert until a mark has granted it. -/
namespace Inboxes
open SortedMaps Crashes Checks

variable {rules : Rules}

/- Messages that are known. -/

/-- The message with this receipt is here, or has been admitted. -/
def Known (inbox : Inbox) (receipt : SessionInboxReceipt) : Prop :=
  Names inbox receipt ∨ ∃ admitted, inbox.admitted.lookup receipt.id = some admitted ∧
    admitted.generation = receipt.generation

theorem Kept.known (kept : Kept rules inbox envelope intent receipt) : Known inbox receipt := by
  rcases kept with ⟨queue, name, transport, held, generation, id, _, _⟩ |
    ⟨admitted, held, generation, _, _⟩
  · exact .inl ⟨queue, name, transport, held, generation, id⟩
  · exact .inr ⟨admitted, held, generation⟩

theorem known_does (tidy : Tidy rules target clock inbox marks)
    (does : Does rules target clock deed inbox inbox') (known : Known inbox receipt) :
    Known inbox' receipt := by
  rcases known with ⟨queue, name, transport, held, generation, id⟩ | ⟨admitted, held, generation⟩
  · rcases does_forward tidy does held with
      ⟨queue', name', transport', held', same, evolves⟩ | ⟨admitted, found, same⟩
    · exact .inl ⟨queue', name', transport', held', same.trans generation,
        by rw [evolves.envelope]; exact id⟩
    · refine .inr ⟨admitted, ?_, ?_⟩
      · rw [same, ← id]
        exact found
      · rw [← generation]
        exact ((tidy.generations held found).1 rfl).symm
  · obtain ⟨admitted', held', generation', _⟩ := does_admitted tidy does held
    exact .inr ⟨admitted', held', generation'.trans generation⟩

theorem Known.owns (known : Known inbox receipt) (tidy : Tidy rules target clock inbox marks)
    (held : inbox.transport queue name = some transport) :
    name.generation = receipt.generation ↔ transport.envelope.id = receipt.id := by
  rcases known with ⟨queue', name', transport', held', generation, id⟩ | ⟨admitted, found, generation⟩
  · constructor
    · intro same
      obtain ⟨rfl, rfl⟩ := tidy.oneGeneration held held' (same.trans generation.symm)
      cases held.symm.trans held'
      exact id
    · intro same
      obtain ⟨rfl, rfl⟩ := tidy.oneId held held' (same.trans id.symm)
      exact generation
  · rw [← generation]
    exact (tidy.generations held found).symm

theorem Known.granted (known : Known inbox receipt) (tidy : Tidy rules target clock inbox marks)
    (may : MayConsume inbox receipt.generation) : Granted inbox receipt := by
  obtain ⟨marks', queue, name, transport, activation, read, held, generation, message, opened⟩ := may
  exact ⟨marks', queue, name, transport, activation, read, held, generation,
    (known.owns tidy held).1 generation, message, by rw [generation]; exact opened⟩

/-- A deed that gives the message no permission. -/
def spares (receipt : SessionInboxReceipt) : Deed → Prop
  | .grant upTo => upTo < receipt.generation
  | .promote generation => generation ≠ receipt.generation
  | _ => True

theorem spares_granted (tidy : Tidy rules target clock inbox marks)
    (does : Does rules target clock deed inbox inbox') (spared : spares receipt deed)
    (read : inbox'.marks = .ok marks') (below : receipt.generation ≤ marks'.granted) :
    receipt.generation ≤ marks.granted := by
  rcases does_marks tidy does with same | ⟨marks₁, reads, moved⟩
  · rw [same] at read
    rw [tidy.same_marks read] at below
    exact below
  · cases reads.symm.trans read
    cases moved with
    | upgrade => exact below
    | grant marks upTo _ _ => exact absurd below (not_le.2 spared)
    | interrupt => exact below

theorem ungranted_does (tidy : Tidy rules target clock inbox marks)
    (does : Does rules target clock deed inbox inbox') (spared : spares receipt deed)
    (known : Known inbox receipt) (granted : Granted inbox' receipt) : Granted inbox receipt := by
  obtain ⟨marks', queue', name', transport', activation, read', held', generation, id, message,
    opened⟩ := granted
  obtain ⟨positive, reason⟩ := eligible_iff.1 opened
  rw [generation] at positive reason
  have reason' := reason.imp_left (spares_granted tidy does spared read')
  -- A file that has just been published is of a generation of its own.
  have stood : ∃ queue name transport, inbox.transport queue name = some transport ∧
      name'.generation = name.generation ∧
      Evolves deed name.generation queue queue' transport transport' := by
    rcases does_backward does held' with old | ⟨published, _, _, _⟩
    · exact old
    · subst published
      cases does with
      | publish inbox name₀ transport₀ marks₀ _ _ _ _ _ fresh unadmitted =>
        rcases Inbox.of_put held' with ⟨rfl, rfl, rfl⟩ | ⟨_, old⟩
        · rcases known with ⟨queue, name, transport, held, there, _⟩ | ⟨admitted, found, there⟩
          · exact absurd (there.trans generation.symm) (fresh _ _ _ held).1
          · exact absurd (there.trans generation.symm) (unadmitted _ _ found).1
        · exact ⟨queue', name', transport', old, rfl, .still _ _ _ _⟩
      | marks _ _ _ _ _ _ _ _ moved => cases moved
      | rewrite _ _ _ _ _ _ _ _ _ rewrites => cases rewrites
      | rename _ _ _ _ _ _ _ _ _ moves => cases moves
  obtain ⟨queue, name, transport, held, same, evolves⟩ := stood
  have here : name.generation = receipt.generation := same.symm.trans generation
  have unchanged : transport'.coordinatorIntent = transport.coordinatorIntent := by
    rcases evolves.coordinator with kept | ⟨promoted, _⟩
    · exact kept
    · rw [promoted] at spared
      exact absurd here spared
  refine ⟨marks, queue, name, transport, activation, tidy.read, held, here, ?_, ?_, ?_⟩
  · rw [← evolves.envelope]
    exact id
  · unfold messageActivationIntent at ⊢
    rw [← evolves.intent, ← unchanged]
    exact message
  · rw [here]
    exact eligible_iff.2 ⟨positive, reason'⟩

/- Calls. -/

def Call.grants (receipt : SessionInboxReceipt) : Call → Prop
  | .markActivation generation _ => receipt.generation ≤ generation
  | .markMessage other _ => other = receipt
  | _ => False

variable {call : Call}

section
variable (tidy : Tidy rules target clock inbox marks)
include tidy

theorem call_spares (known : Known inbox receipt) (other : ¬ call.grants receipt)
    (may : call.deeds inbox deed) : spares receipt deed := by
  cases deed with
  | grant upTo =>
    cases call with
    | markActivation generation policy =>
      cases may
      exact Nat.lt_of_not_le other
    | _ => cases may
  | promote generation =>
    cases call with
    | markMessage named policy =>
      obtain ⟨rfl, queue, name, transport, held, same, id⟩ := may
      intro mine
      apply other
      have owned := (known.owns tidy held).1 (same.trans mine)
      obtain ⟨namedId, namedGeneration⟩ := named
      dsimp only at mine id
      rw [← id, owned, mine]
      exact rfl
    | _ => cases may
  | _ => trivial

theorem known_course (course : Course rules target clock allowed inbox inbox')
    (known : Known inbox receipt) : Known inbox' receipt :=
  course_induct (F := fun inbox => Known inbox receipt)
    (fun _ _ _ _ _ tidy does held => known_does tidy does held) tidy course known

theorem ungranted_course (course : Course rules target clock allowed inbox inbox')
    (spared : ∀ deed, allowed deed → spares receipt deed) (known : Known inbox receipt)
    (ungranted : ¬ Granted inbox receipt) : ¬ Granted inbox' receipt := by
  have both := course_induct
    (F := fun inbox => Known inbox receipt ∧ ¬ Granted inbox receipt)
    (fun deed _ _ _ may tidy does held => ⟨known_does tidy does held.1,
      fun granted => held.2 (ungranted_does tidy does (spared deed may) held.1 granted)⟩)
    tidy course ⟨known, ungranted⟩
  exact both.2

end

/-- Every call is permitted that does not grant the message. -/
def ungranting (receipt : SessionInboxReceipt) (call : Call) (_ world' : World) : Prop :=
  call.grants receipt → ¬ Granted world'.inbox receipt

theorem ungranted_run (run : Run rules target (ungranting receipt) world world')
    (sound : world.Sound rules target) (known : Known world.inbox receipt)
    (ungranted : ¬ Granted world.inbox receipt) :
    Known world'.inbox receipt ∧ ¬ Granted world'.inbox receipt := by
  apply run_induct (F := fun inbox => Known inbox receipt ∧ ¬ Granted inbox receipt) _ run sound
    ⟨known, ungranted⟩
  intro world call left marks fits may tidy course ⟨known, ungranted⟩
  refine ⟨known_course tidy course known, ?_⟩
  by_cases mine : call.grants receipt
  · exact may mine
  · exact ungranted_course tidy course (fun _ => call_spares tidy known mine) known ungranted

/- What a message that is not granted is kept from. -/

structure Withheld (rules : Rules) (target : String) (world : World)
    (receipt : SessionInboxReceipt) : Prop where
  claim : ∀ request left given disk, world.clock ≤ request.request.now →
    claimOwned rules target request { inbox := world.inbox, left } = (.ok given, disk) →
    ∀ claim ∈ given, claim.claim.generation ≠ receipt.generation ∧
      claim.claim.envelope.id ≠ receipt.id
  turn : ∀ limit run scopedOnly left given disk,
    claimForTurn rules target limit run scopedOnly { inbox := world.inbox, left } =
      (.ok given, disk) →
    ∀ claim ∈ given, claim.generation ≠ receipt.generation ∧ claim.envelope.id ≠ receipt.id
  wake : ∀ now left found disk, world.clock ≤ now →
    inspectWakeReadiness rules target now { inbox := world.inbox, left } = (.ok found, disk) →
    ∀ candidate, found.ready = some candidate →
      candidate.generation ≠ receipt.generation ∧ candidate.id ≠ receipt.id

theorem claims_spare (deed : Deed) (may : claims deed) : spares receipt deed := by
  cases deed <;> first | exact trivial | cases may

theorem moves_spare (deed : Deed) (may : recovers deed) : spares receipt deed := by
  cases deed <;> first | exact trivial | cases may

theorem withheld (sound : world.Sound rules target) (known : Known world.inbox receipt)
    (ungranted : ¬ Granted world.inbox receipt) : Withheld rules target world receipt where
  claim := by
    intro request left given disk later run claim member
    obtain ⟨marks, tidy⟩ := sound
    obtain ⟨_, handed⟩ := keeps_ran (keeps_claimOwned tidy) run
    obtain ⟨between, course, stands⟩ := (handed_each (handed given rfl)).2 claim member
    obtain ⟨_, tidy'⟩ := course.tidy tidy
    have known' := known_course tidy course known
    have closed := ungranted_course tidy course claims_spare known ungranted
    have generation : claim.claim.generation ≠ receipt.generation := by
      intro same
      have may := stands.consumable
      rw [same] at may
      exact closed (known'.granted tidy' may)
    refine ⟨generation, fun same => generation ?_⟩
    obtain ⟨transport, lease, held, envelope, _, _⟩ := stands.stands
    have owned := (known'.owns tidy' held).2 (by rw [envelope]; exact same)
    rw [stands.named] at owned
    exact owned
  turn := by
    intro limit run scopedOnly left given disk ran claim member
    obtain ⟨marks, tidy⟩ := sound
    obtain ⟨_, turned⟩ := keeps_ran (keeps_claimForTurn tidy) ran
    obtain ⟨may, between, course, _, transport, held, envelope, named⟩ :=
      turned given rfl claim member
    obtain ⟨_, tidy'⟩ := course.tidy tidy
    have generation : claim.generation ≠ receipt.generation := by
      intro same
      rw [same] at may
      exact ungranted (known.granted tidy may)
    refine ⟨generation, fun same => generation ?_⟩
    rw [← named]
    exact ((known_course tidy course known).owns tidy' held).2 (by rw [envelope]; exact same)
  wake := by
    intro now left found disk later ran candidate ready
    obtain ⟨marks, tidy⟩ := sound
    obtain ⟨course, inspected⟩ := keeps_ran (keeps_inspectWakeReadiness tidy) ran
    obtain ⟨interrupt, tidy', scan⟩ := inspected found rfl
    have known' := known_course tidy course known
    have closed := ungranted_course tidy course moves_spare known ungranted
    rcases wakeReadiness_sound scan ready with impossible | ⟨⟨queue, name⟩, _, made, _⟩
    · cases impossible
    · obtain ⟨transport, policy, wakes, rfl⟩ := wakeCandidate_sound made
      have generation : name.generation ≠ receipt.generation := by
        intro same
        have may := wakes.mayConsume tidy'
        rw [same] at may
        exact closed (known'.granted tidy' may)
      exact ⟨generation, fun same =>
        generation ((known'.owns tidy' (readOwned_eq_ok wakes.read)).2 same)⟩

/- Marks and upgrades. -/

def Call.isMark : Call → Prop
  | .markActivation _ _ | .markMessage _ _ => True
  | _ => False

theorem marks_widen (marking : call.isMark) (may : call.deeds inbox deed) : widens deed := by
  cases call with
  | markActivation generation policy => cases deed <;> first | exact trivial | cases may
  | markMessage receipt policy => cases deed <;> first | exact trivial | cases may
  | _ => cases marking

theorem keeps_mark (marking : call.isMark) (tidy : Tidy rules target clock inbox marks) :
    Keeps rules target clock (call.deeds inbox) inbox (call.run rules target)
      (fun _ inbox' => Idle inbox' (call.run rules target)) := by
  cases call with
  | markActivation generation policy => exact keeps_markActivationEligible tidy
  | markMessage receipt policy => exact keeps_markMessage tidy
  | _ => cases marking

theorem quiet_mark (marking : call.isMark) (tidy : Tidy rules target clock inbox marks) :
    Quiet inbox (call.run rules target) := by
  cases call with
  | markActivation generation policy => exact quiet_markActivationEligible tidy
  | markMessage receipt policy => exact quiet_markMessage tidy
  | _ => cases marking

theorem delivered_ungranted {receipt : SessionInboxDeliveryReceipt}
    (tidy : Tidy rules target clock inbox marks) (aimed : envelope.targetSessionId = target)
    (first : lookupReceipt rules inbox envelope none = .ok none)
    (run : deliver rules envelope gate none { inbox, left } = (.ok receipt, disk)) :
    Known disk.inbox receipt.delivery ∧ ¬ Granted disk.inbox receipt.delivery := by
  obtain ⟨course, delivered⟩ := keeps_ran (keeps_deliver tidy aimed) run
  obtain ⟨_, kept, staged, _⟩ := delivered receipt rfl
  refine ⟨kept.known, ?_⟩
  rintro ⟨marks', queue, name, transport, activation, read, held, generation, _, message, opened⟩
  obtain ⟨⟨marks'', read', above⟩, own⟩ := staged first rfl
  cases read.symm.trans read'
  obtain ⟨plain, ungranted⟩ := own held generation
  unfold messageActivationIntent at message
  rw [plain, ungranted] at message
  cases message
  obtain ⟨_, below | impossible⟩ := eligible_iff.1 opened
  · rw [generation] at below
    exact absurd below (not_le.2 above)
  · cases impossible

end Inboxes
