import BambooAgent.Inboxes.Marks

/- What one step may do to an inbox, said once for all programs, and what every inbox keeps
   under such steps. -/
namespace Inboxes
open SortedMaps Crashes Checks

/- What a file must be like. -/

def StoredLease.lineage (lease : StoredLease) : String × Nat × Nat :=
  (lease.token.consumer, lease.token.epoch, lease.token.incarnation)

def epochOf (lease : Option StoredLease) : Nat :=
  (lease.map (fun lease => lease.token.epoch)).getD 0

def failuresOf (lease : Option StoredLease) : Nat :=
  (lease.map (fun lease => lease.failureCount)).getD 0

def Queue.waiting (queue : Queue) : Prop := queue = .new ∨ queue = .cur

def Placed : Queue → Option StoredLease → Prop
  | .new, stored => ∀ lease, stored = some lease → lease.deadLetteredAt.isSome = true →
      lease.retryRequestedAt.isSome = true
  | .cur, stored => ∀ lease, stored = some lease → lease.retryRequestedAt = none
  | .dead, stored => ∃ lease, stored = some lease ∧ lease.deadLetteredAt.isSome = true
  | .cancelled, stored => stored = none
  | .corrupt, _ => False

structure FileSound (rules : Rules) (target : String) (clock : Time) (generation : Nat)
    (marks : Marks) (queue : Queue) (name : Name) (transport : Transport) : Prop where
  positive : 0 < name.generation
  bounded : name.generation ≤ generation
  envelope : rules.validEnvelope transport.envelope = true
  aimed : transport.envelope.targetSessionId = target
  unscoped : transport.envelope.isScopedLoopControl = false
  intent : transport.intent.all (fun intent => intent.supported) = true
  unbound : transport.intent.all (fun intent => intent.expectedRunId.isNone) = true
  coordinator : transport.coordinatorIntent.all (fun intent => intent.supported) = true
  fenced : transport.intent.isSome = true ∨ transport.coordinatorIntent.isSome = true →
    marks.versioned = true
  leased : ∀ lease, transport.lease = some lease → lease.valid = true ∧ marks.owned = true
  dead : ∀ lease, transport.lease = some lease → lease.deadLetteredAt.isSome = true →
    lease.failureCount = maxExplicitFailures ∧ lease.token.expiresAt ≤ clock
  placed : Placed queue transport.lease

structure ReceiptSound (generation : Nat) (id : String) (receipt : AdmittedReceipt) : Prop where
  id : receipt.id = id
  positive : 0 < receipt.generation
  bounded : receipt.generation ≤ generation
  intent : receipt.intent.all (fun intent => intent.supported) = true
  leased : ∀ lease, receipt.lease = some lease → lease.valid = true

/-- A file that an interrupted ack has left under its receipt. -/
structure Leftover (rules : Rules) (queue : Queue) (transport : Transport)
    (receipt : AdmittedReceipt) : Prop where
  queue : queue = .cur
  digest : receipt.semanticDigest = deliveryDigest rules transport.envelope transport.intent
  intent : receipt.intent = transport.intent
  lineage : receipt.lease.map StoredLease.lineage = transport.lease.map StoredLease.lineage
  alive : ∀ lease, transport.lease = some lease → lease.deadLetteredAt = none

structure Tidy (rules : Rules) (target : String) (clock : Time) (inbox : Inbox) (marks : Marks) :
    Prop where
  read : inbox.marks = .ok marks
  granted : marks.granted ≤ inbox.generation
  file : ∀ {queue name transport}, inbox.transport queue name = some transport →
    FileSound rules target clock inbox.generation marks queue name transport
  oneGeneration : ∀ {queue name transport queue' name' transport'},
    inbox.transport queue name = some transport → inbox.transport queue' name' = some transport' →
    name.generation = name'.generation → queue = queue' ∧ name = name'
  oneId : ∀ {queue name transport queue' name' transport'},
    inbox.transport queue name = some transport → inbox.transport queue' name' = some transport' →
    transport.envelope.id = transport'.envelope.id → queue = queue' ∧ name = name'
  receipt : ∀ {id receipt}, inbox.admitted.lookup id = some receipt →
    ReceiptSound inbox.generation id receipt
  generations : ∀ {queue name transport id receipt},
    inbox.transport queue name = some transport → inbox.admitted.lookup id = some receipt →
    (transport.envelope.id = id ↔ name.generation = receipt.generation)
  leftover : ∀ {queue name transport receipt},
    inbox.transport queue name = some transport →
    inbox.admitted.lookup transport.envelope.id = some receipt →
    Leftover rules queue transport receipt

theorem tidy_empty (rules : Rules) (target : String) (clock : Time) :
    Tidy rules target clock .empty
      { granted := 0, versioned := false, interrupt := 0, owned := false } :=
  { read := rfl
    granted := le_rfl
    file := fun held => by cases held
    oneGeneration := fun held => by cases held
    oneId := fun held => by cases held
    receipt := fun held => by cases held
    generations := fun held => by cases held
    leftover := fun held => by cases held }

theorem FileSound.mono (sound : FileSound rules target clock generation marks queue name transport)
    (later : clock ≤ clock') (more : generation ≤ generation')
    (versioned : marks.versioned = true → marks'.versioned = true)
    (owned : marks.owned = true → marks'.owned = true) :
    FileSound rules target clock' generation' marks' queue name transport :=
  { sound with
    bounded := le_trans sound.bounded more
    fenced := fun some => versioned (sound.fenced some)
    leased := fun lease held =>
      ⟨(sound.leased lease held).1, owned (sound.leased lease held).2⟩
    dead := fun lease held dead =>
      ⟨(sound.dead lease held dead).1, le_trans (sound.dead lease held dead).2 later⟩ }

theorem Tidy.later (tidy : Tidy rules target clock inbox marks) (later : clock ≤ clock') :
    Tidy rules target clock' inbox marks :=
  { tidy with file := fun held => (tidy.file held).mono later le_rfl id id }

/- The steps. -/

/-- What a step is for. -/
inductive Deed where
  | count
  | upgrade
  | grant (upTo : Nat)
  | interrupt
  | publish
  | lease
  | extend
  | fail (generation failures : Nat)
  | request
  | promote (generation : Nat)
  | move
  | revive (generation : Nat)
  | record
  | clear

inductive MarksMove (generation : Nat) : Deed → Marks → Marks → Prop
  | upgrade (marks versioned owned) (fenced : marks.versioned = true → versioned = true)
      (leased : marks.owned = true → owned = true) :
      MarksMove generation .upgrade marks { marks with versioned, owned }
  | grant (marks upTo) (further : marks.granted ≤ upTo) (delivered : upTo ≤ generation) :
      MarksMove generation (.grant upTo) marks { marks with granted := upTo }
  | interrupt (marks level) (further : marks.interrupt ≤ level) :
      MarksMove generation .interrupt marks { marks with interrupt := level }

/-- A file is written anew, with the message that it had. -/
inductive Rewrites (clock : Time) (marks : Marks) (admitted : Option AdmittedReceipt) :
    Deed → Queue → Name → Transport → Transport → Prop
  | lease (queue name transport lease) (waiting : Queue.waiting queue) (unadmitted : admitted = none)
      (owned : marks.owned = true) (valid : lease.valid = true)
      (alive : lease.deadLetteredAt = none)
      (next : lease.token.epoch = epochOf transport.lease + 1)
      (failures : lease.failureCount ≤ failuresOf transport.lease) :
      Rewrites clock marks admitted .lease queue name transport
        { transport with lease := some lease }
  | extend (queue name transport lease expiresAt) (waiting : Queue.waiting queue)
      (held : transport.lease = some lease) (alive : lease.deadLetteredAt = none) :
      Rewrites clock marks admitted .extend queue name transport
        { transport with
          lease := some { lease with token := { lease.token with expiresAt } } }
  | fail (name transport lease failed) (unadmitted : admitted = none)
      (held : transport.lease = some lease) (alive : lease.deadLetteredAt = none)
      (valid : failed.valid = true) (counted : failed.failureCount = lease.failureCount + 1)
      (lineage : failed.lineage = lease.lineage) (ended : failed.token.expiresAt ≤ clock)
      (unretried : failed.retryRequestedAt = none)
      (third : failed.deadLetteredAt.isSome = true →
        failed.failureCount = maxExplicitFailures) :
      Rewrites clock marks admitted (.fail name.generation failed.failureCount) .cur name transport
        { transport with lease := some failed }
  | request (name transport lease requested) (held : transport.lease = some lease)
      (dead : lease.deadLetteredAt.isSome = true) :
      Rewrites clock marks admitted .request .dead name transport
        { transport with lease := some { lease with retryRequestedAt := some requested } }
  | promote (queue name transport intent) (waiting : Queue.waiting queue)
      (versioned : marks.versioned = true)
      (supported : SessionInboxActivationIntent.supported intent = true) :
      Rewrites clock marks admitted (.promote name.generation) queue name transport
        { transport with coordinatorIntent := some intent }

/-- A file is renamed; its place follows from its lease. -/
inductive Moves (admitted : Option AdmittedReceipt) (generation : Nat) :
    Deed → Queue → Queue → Transport → Prop
  | take (queue transport) (waiting : Queue.waiting queue)
      (alive : ∀ lease, transport.lease = some lease → lease.deadLetteredAt = none) :
      Moves admitted generation .move queue .cur transport
  | bury (transport lease) (unadmitted : admitted = none) (held : transport.lease = some lease)
      (dead : lease.deadLetteredAt.isSome = true) :
      Moves admitted generation .move .cur .dead transport
  | revive (transport lease) (held : transport.lease = some lease)
      (requested : lease.retryRequestedAt.isSome = true) :
      Moves admitted generation (.revive generation) .dead .new transport
  | cancel (transport) (unleased : transport.lease = none) :
      Moves admitted generation .move .new .cancelled transport

inductive Does (rules : Rules) (target : String) (clock : Time) : Deed → Inbox → Inbox → Prop
  | count (inbox) :
      Does rules target clock .count inbox { inbox with generation := inbox.generation + 1 }
  | marks (deed inbox activation interrupt marks marks') (read : inbox.marks = .ok marks)
      (reads : { inbox with activation, interrupt }.marks = .ok marks')
      (moved : MarksMove inbox.generation deed marks marks') :
      Does rules target clock deed inbox { inbox with activation, interrupt }
  | publish (inbox name transport marks) (read : inbox.marks = .ok marks)
      (sound : FileSound rules target clock inbox.generation marks .new name transport)
      (unleased : transport.lease = none) (ungranted : transport.coordinatorIntent = none)
      (last : marks.granted < name.generation)
      (fresh : ∀ queue name' transport', inbox.transport queue name' = some transport' →
        name'.generation ≠ name.generation ∧ transport'.envelope.id ≠ transport.envelope.id)
      (unadmitted : ∀ id receipt, inbox.admitted.lookup id = some receipt →
        receipt.generation ≠ name.generation ∧ id ≠ transport.envelope.id) :
      Does rules target clock .publish inbox (inbox.put .new name transport)
  | rewrite (deed inbox queue name transport transport' marks) (read : inbox.marks = .ok marks)
      (held : inbox.transport queue name = some transport)
      (rewrites : Rewrites clock marks (inbox.admitted.lookup transport.envelope.id) deed queue
        name transport transport') :
      Does rules target clock deed inbox (inbox.put queue name transport')
  | rename (deed inbox queue queue' name name' transport)
      (held : inbox.transport queue name = some transport)
      (same : name'.generation = name.generation)
      (moves : Moves (inbox.admitted.lookup transport.envelope.id) name.generation deed queue
        queue' transport) :
      Does rules target clock deed inbox (inbox.rename queue queue' name name')
  | record (inbox name transport receipt) (held : inbox.transport .cur name = some transport)
      (id : receipt.id = transport.envelope.id) (generation : receipt.generation = name.generation)
      (leased : ∀ lease, receipt.lease = some lease → lease.valid = true)
      (leftover : Leftover rules .cur transport receipt) :
      Does rules target clock .record inbox (inbox.record receipt)
  | clear (inbox queue name transport receipt)
      (held : inbox.transport queue name = some transport)
      (admitted : inbox.admitted.lookup transport.envelope.id = some receipt) :
      Does rules target clock .clear inbox (inbox.remove queue name)

end Inboxes
