import BambooAgent.Inboxes.Deeds

/- Every step keeps an inbox tidy. -/
namespace Inboxes
open SortedMaps Crashes Checks Option

variable {inbox : Inbox}

namespace Inbox

@[simp] theorem put_marks (queue : Queue) (name : Name) (transport : Transport) :
    (inbox.put queue name transport).marks = inbox.marks := marks_congr rfl rfl

@[simp] theorem remove_marks (queue : Queue) (name : Name) :
    (inbox.remove queue name).marks = inbox.marks := marks_congr rfl rfl

theorem rename_frame (queue queue' : Queue) (name name' : Name) :
    (inbox.rename queue queue' name name').activation = inbox.activation ∧
      (inbox.rename queue queue' name name').interrupt = inbox.interrupt ∧
      (inbox.rename queue queue' name name').generation = inbox.generation ∧
      (inbox.rename queue queue' name name').admitted = inbox.admitted := by
  unfold rename
  split <;> exact ⟨rfl, rfl, rfl, rfl⟩

@[simp] theorem rename_marks (queue queue' : Queue) (name name' : Name) :
    (inbox.rename queue queue' name name').marks = inbox.marks :=
  marks_congr (rename_frame _ _ _ _).1 (rename_frame _ _ _ _).2.1

@[simp] theorem rename_generation (queue queue' : Queue) (name name' : Name) :
    (inbox.rename queue queue' name name').generation = inbox.generation :=
  (rename_frame _ _ _ _).2.2.1

@[simp] theorem rename_admitted (queue queue' : Queue) (name name' : Name) :
    (inbox.rename queue queue' name name').admitted = inbox.admitted :=
  (rename_frame _ _ _ _).2.2.2

@[simp] theorem record_transport (receipt : AdmittedReceipt) (queue : Queue) (name : Name) :
    (inbox.record receipt).transport queue name = inbox.transport queue name := rfl

theorem lookup_record (receipt : AdmittedReceipt) (id : String) :
    (inbox.record receipt).admitted.lookup id =
      if id = receipt.id then some receipt else inbox.admitted.lookup id :=
  SortedMap.lookup_insert _ _ _ _

theorem of_put {transport : Transport}
    (held : (inbox.put queue name transport).transport other key = some found) :
    (other = queue ∧ key = name ∧ found = transport) ∨
      (¬ (other = queue ∧ key = name) ∧ inbox.transport other key = some found) := by
  rw [transport_put] at held
  by_cases here : other = queue ∧ key = name
  · rw [if_pos here] at held
    exact .inl ⟨here.1, here.2, (some.inj held).symm⟩
  · rw [if_neg here] at held
    exact .inr ⟨here, held⟩

theorem of_remove (held : (inbox.remove queue name).transport other key = some found) :
    ¬ (other = queue ∧ key = name) ∧ inbox.transport other key = some found := by
  rw [transport_remove] at held
  by_cases here : other = queue ∧ key = name
  · rw [if_pos here] at held
    cases held
  · rw [if_neg here] at held
    exact ⟨here, held⟩

theorem of_rename {transport : Transport} (stood : inbox.transport queue name = some transport)
    (held : (inbox.rename queue queue' name name').transport other key = some found) :
    (other = queue' ∧ key = name' ∧ found = transport) ∨
      (¬ (other = queue ∧ key = name) ∧ inbox.transport other key = some found) := by
  rw [transport_rename stood] at held
  by_cases there : other = queue' ∧ key = name'
  · rw [if_pos there] at held
    exact .inl ⟨there.1, there.2, (some.inj held).symm⟩
  · rw [if_neg there] at held
    by_cases here : other = queue ∧ key = name
    · rw [if_pos here] at held
      cases held
    · rw [if_neg here] at held
      exact .inr ⟨here, held⟩

end Inbox

/- The counter and the marks. -/

theorem tidy_count (tidy : Tidy rules target clock inbox marks) :
    Tidy rules target clock { inbox with generation := inbox.generation + 1 } marks :=
  { read := (marks_congr rfl rfl).trans tidy.read
    granted := Nat.le_succ_of_le tidy.granted
    file := fun held => (tidy.file held).mono le_rfl (Nat.le_succ _) id id
    oneGeneration := tidy.oneGeneration
    oneId := tidy.oneId
    receipt := fun held => { tidy.receipt held with
      bounded := Nat.le_succ_of_le (tidy.receipt held).bounded }
    generations := tidy.generations
    leftover := tidy.leftover }

theorem marksMove_mono (moved : MarksMove generation deed marks marks')
    (granted : marks.granted ≤ generation) :
    marks'.granted ≤ generation ∧ (marks.versioned = true → marks'.versioned = true) ∧
      (marks.owned = true → marks'.owned = true) := by
  cases moved with
  | upgrade marks versioned owned fenced leased => exact ⟨granted, fenced, leased⟩
  | grant marks upTo further delivered => exact ⟨delivered, id, id⟩
  | interrupt marks level further => exact ⟨granted, id, id⟩

theorem tidy_marks (tidy : Tidy rules target clock inbox marks)
    (reads : { inbox with activation, interrupt }.marks = .ok marks')
    (moved : MarksMove inbox.generation deed marks marks') :
    Tidy rules target clock { inbox with activation, interrupt } marks' := by
  obtain ⟨granted, versioned, owned⟩ := marksMove_mono moved tidy.granted
  exact
    { read := reads
      granted := granted
      file := fun held => (tidy.file held).mono le_rfl le_rfl versioned owned
      oneGeneration := tidy.oneGeneration
      oneId := tidy.oneId
      receipt := fun held => { tidy.receipt held with }
      generations := tidy.generations
      leftover := tidy.leftover }

/- Files. -/

theorem tidy_publish (tidy : Tidy rules target clock inbox marks)
    (sound : FileSound rules target clock inbox.generation marks .new name transport)
    (fresh : ∀ queue name' transport', inbox.transport queue name' = some transport' →
      name'.generation ≠ name.generation ∧ transport'.envelope.id ≠ transport.envelope.id)
    (unadmitted : ∀ id receipt, inbox.admitted.lookup id = some receipt →
      receipt.generation ≠ name.generation ∧ id ≠ transport.envelope.id) :
    Tidy rules target clock (inbox.put .new name transport) marks where
  read := by exact tidy.read
  granted := tidy.granted
  file := by
    intro queue key found held
    rcases Inbox.of_put held with ⟨rfl, rfl, rfl⟩ | ⟨_, old⟩
    · exact sound
    · exact tidy.file old
  oneGeneration := by
    intro queue key found queue' key' found' held held' same
    rcases Inbox.of_put held with ⟨rfl, rfl, rfl⟩ | ⟨_, old⟩
    · rcases Inbox.of_put held' with ⟨rfl, rfl, rfl⟩ | ⟨_, old'⟩
      · exact ⟨rfl, rfl⟩
      · exact absurd same.symm (fresh _ _ _ old').1
    · rcases Inbox.of_put held' with ⟨rfl, rfl, rfl⟩ | ⟨_, old'⟩
      · exact absurd same (fresh _ _ _ old).1
      · exact tidy.oneGeneration old old' same
  oneId := by
    intro queue key found queue' key' found' held held' same
    rcases Inbox.of_put held with ⟨rfl, rfl, rfl⟩ | ⟨_, old⟩
    · rcases Inbox.of_put held' with ⟨rfl, rfl, rfl⟩ | ⟨_, old'⟩
      · exact ⟨rfl, rfl⟩
      · exact absurd same.symm (fresh _ _ _ old').2
    · rcases Inbox.of_put held' with ⟨rfl, rfl, rfl⟩ | ⟨_, old'⟩
      · exact absurd same (fresh _ _ _ old).2
      · exact tidy.oneId old old' same
  receipt := tidy.receipt
  generations := by
    intro queue key found id receipt held admitted
    rcases Inbox.of_put held with ⟨rfl, rfl, rfl⟩ | ⟨_, old⟩
    · obtain ⟨generation, other⟩ := unadmitted _ _ admitted
      exact ⟨fun same => absurd same.symm other, fun same => absurd same.symm generation⟩
    · exact tidy.generations old admitted
  leftover := by
    intro queue key found receipt held admitted
    rcases Inbox.of_put held with ⟨rfl, rfl, rfl⟩ | ⟨_, old⟩
    · exact absurd rfl (unadmitted _ _ admitted).2
    · exact tidy.leftover old admitted

section
variable (tidy : Tidy rules target clock inbox marks)
include tidy

theorem tidy_put (held : inbox.transport queue name = some transport)
    (same : transport'.envelope = transport.envelope)
    (sound : FileSound rules target clock inbox.generation marks queue name transport')
    (leftover : ∀ receipt, inbox.admitted.lookup transport.envelope.id = some receipt →
      Leftover rules queue transport' receipt) :
    Tidy rules target clock (inbox.put queue name transport') marks := by
  have origin : ∀ {other key found},
      (inbox.put queue name transport').transport other key = some found →
      ∃ before, inbox.transport other key = some before ∧
        before.envelope = found.envelope := by
    intro other key found now
    rcases Inbox.of_put now with ⟨rfl, rfl, rfl⟩ | ⟨_, old⟩
    · exact ⟨transport, held, same.symm⟩
    · exact ⟨found, old, rfl⟩
  exact
    { read := by exact tidy.read
      granted := tidy.granted
      file := by
        intro other key found now
        rcases Inbox.of_put now with ⟨rfl, rfl, rfl⟩ | ⟨_, old⟩
        · exact sound
        · exact tidy.file old
      oneGeneration := by
        intro other key found other' key' found' now now' generation
        obtain ⟨_, old, _⟩ := origin now
        obtain ⟨_, old', _⟩ := origin now'
        exact tidy.oneGeneration old old' generation
      oneId := by
        intro other key found other' key' found' now now' id
        obtain ⟨_, old, kept⟩ := origin now
        obtain ⟨_, old', kept'⟩ := origin now'
        exact tidy.oneId old old' (by rw [kept, kept']; exact id)
      receipt := tidy.receipt
      generations := by
        intro other key found id receipt now admitted
        obtain ⟨_, old, kept⟩ := origin now
        rw [← kept]
        exact tidy.generations old admitted
      leftover := by
        intro other key found receipt now admitted
        rcases Inbox.of_put now with ⟨rfl, rfl, rfl⟩ | ⟨_, old⟩
        · exact leftover receipt (by rw [same] at admitted; exact admitted)
        · exact tidy.leftover old admitted }

theorem tidy_rename (held : inbox.transport queue name = some transport)
    (same : name'.generation = name.generation) (placed : Placed queue' transport.lease)
    (leftover : inbox.admitted.lookup transport.envelope.id ≠ none → queue' = .cur) :
    Tidy rules target clock (inbox.rename queue queue' name name') marks := by
  have origin : ∀ {other key found},
      (inbox.rename queue queue' name name').transport other key = some found →
      ∃ before place, inbox.transport before place = some found ∧
        place.generation = key.generation ∧
        (before = queue ∧ place = name ∧ other = queue' ∧ key = name' ∨
          ¬ (before = queue ∧ place = name) ∧ before = other ∧ place = key) := by
    intro other key found now
    rcases Inbox.of_rename held now with ⟨rfl, rfl, rfl⟩ | ⟨elsewhere, old⟩
    · exact ⟨queue, name, held, same.symm, .inl ⟨rfl, rfl, rfl, rfl⟩⟩
    · exact ⟨other, key, old, rfl, .inr ⟨elsewhere, rfl, rfl⟩⟩
  have together : ∀ {other key found other' key' found'},
      (inbox.rename queue queue' name name').transport other key = some found →
      (inbox.rename queue queue' name name').transport other' key' = some found' →
      (∀ {before place before' place'}, inbox.transport before place = some found →
        inbox.transport before' place' = some found' →
        place.generation = key.generation → place'.generation = key'.generation →
        before = before' ∧ place = place') → other = other' ∧ key = key' := by
    intro other key found other' key' found' now now' one
    obtain ⟨before, place, old, generation, where'⟩ := origin now
    obtain ⟨before', place', old', generation', where''⟩ := origin now'
    obtain ⟨rfl, rfl⟩ := one old old' generation generation'
    rcases where' with ⟨rfl, rfl, rfl, rfl⟩ | ⟨elsewhere, rfl, rfl⟩
    · rcases where'' with ⟨_, _, rfl, rfl⟩ | ⟨elsewhere', _, _⟩
      · exact ⟨rfl, rfl⟩
      · exact absurd ⟨rfl, rfl⟩ elsewhere'
    · rcases where'' with ⟨rfl, rfl, _, _⟩ | ⟨_, rfl, rfl⟩
      · exact absurd ⟨rfl, rfl⟩ elsewhere
      · exact ⟨rfl, rfl⟩
  exact
    { read := by rw [Inbox.rename_marks]; exact tidy.read
      granted := by rw [Inbox.rename_generation]; exact tidy.granted
      file := by
        intro other key found now
        rw [Inbox.rename_generation]
        rcases Inbox.of_rename held now with ⟨rfl, rfl, rfl⟩ | ⟨_, old⟩
        · have sound := tidy.file held
          exact { sound with
            positive := by rw [same]; exact sound.positive
            bounded := by rw [same]; exact sound.bounded
            placed := placed }
        · exact tidy.file old
      oneGeneration := by
        intro other key found other' key' found' now now' generation
        apply together now now'
        intro before place before' place' old old' here there
        exact tidy.oneGeneration old old' (by rw [here, there]; exact generation)
      oneId := by
        intro other key found other' key' found' now now' id
        apply together now now'
        intro before place before' place' old old' _ _
        exact tidy.oneId old old' id
      receipt := by
        rw [Inbox.rename_admitted, Inbox.rename_generation]
        exact tidy.receipt
      generations := by
        intro other key found id receipt now admitted
        rw [Inbox.rename_admitted] at admitted
        obtain ⟨before, place, old, generation, _⟩ := origin now
        rw [← generation]
        exact tidy.generations old admitted
      leftover := by
        intro other key found receipt now admitted
        rw [Inbox.rename_admitted] at admitted
        rcases Inbox.of_rename held now with ⟨rfl, rfl, rfl⟩ | ⟨_, old⟩
        · exact { tidy.leftover held admitted with
            queue := leftover (by rw [admitted]; exact some_ne_none _) }
        · exact tidy.leftover old admitted }

theorem tidy_remove : Tidy rules target clock (inbox.remove queue name) marks where
  read := by exact tidy.read
  granted := tidy.granted
  file := fun held => tidy.file (Inbox.of_remove held).2
  oneGeneration := fun held held' => tidy.oneGeneration (Inbox.of_remove held).2
    (Inbox.of_remove held').2
  oneId := fun held held' => tidy.oneId (Inbox.of_remove held).2 (Inbox.of_remove held').2
  receipt := tidy.receipt
  generations := fun held => tidy.generations (Inbox.of_remove held).2
  leftover := fun held => tidy.leftover (Inbox.of_remove held).2

theorem tidy_record (held : inbox.transport .cur name = some transport)
    (id : receipt.id = transport.envelope.id) (generation : receipt.generation = name.generation)
    (leased : ∀ lease, receipt.lease = some lease → lease.valid = true)
    (leftover : Leftover rules .cur transport receipt) :
    Tidy rules target clock (inbox.record receipt) marks := by
  have sound := tidy.file held
  exact
    { read := by exact tidy.read
      granted := tidy.granted
      file := tidy.file
      oneGeneration := tidy.oneGeneration
      oneId := tidy.oneId
      receipt := by
        intro key found admitted
        rw [Inbox.lookup_record] at admitted
        by_cases here : key = receipt.id
        · rw [if_pos here] at admitted
          cases admitted
          exact
            { id := here.symm
              positive := by rw [generation]; exact sound.positive
              bounded := by rw [generation]; exact sound.bounded
              intent := by rw [leftover.intent]; exact sound.intent
              leased := leased }
        · rw [if_neg here] at admitted
          exact tidy.receipt admitted
      generations := by
        intro other key found id' found' now admitted
        rw [Inbox.lookup_record] at admitted
        by_cases here : id' = receipt.id
        · rw [if_pos here] at admitted
          cases admitted
          rw [here, id, generation]
          constructor
          · intro same
            obtain ⟨_, rfl⟩ := tidy.oneId now held same
            rfl
          · intro same
            obtain ⟨rfl, rfl⟩ := tidy.oneGeneration now held same
            rw [Inbox.record_transport] at now
            rw [held] at now
            cases now
            rfl
        · rw [if_neg here] at admitted
          exact tidy.generations now admitted
      leftover := by
        intro other key found found' now admitted
        rw [Inbox.lookup_record] at admitted
        by_cases here : found.envelope.id = receipt.id
        · rw [if_pos here] at admitted
          cases admitted
          obtain ⟨rfl, rfl⟩ := tidy.oneId now held (here.trans id)
          rw [Inbox.record_transport, held] at now
          cases now
          exact leftover
        · rw [if_neg here] at admitted
          exact tidy.leftover now admitted }

end

/- One step. -/

theorem placed_alive (waiting : Queue.waiting queue) (valid : lease.valid = true)
    (alive : lease.deadLetteredAt = none) : Placed queue (some lease) := by
  have unrequested : lease.retryRequestedAt = none := by
    simp [StoredLease.valid, alive] at valid
    exact valid.2
  rcases waiting with rfl | rfl
  · intro other same dead
    cases same
    rw [alive] at dead
    cases dead
  · intro other same
    cases same
    exact unrequested

theorem rewrites_sound (sound : FileSound rules target clock generation marks queue name transport)
    (rewrites : Rewrites clock marks admitted deed queue name transport transport') :
    transport'.envelope = transport.envelope ∧
      FileSound rules target clock generation marks queue name transport' := by
  cases rewrites with
  | lease queue name transport lease waiting unadmitted owned valid alive =>
    refine ⟨rfl, { sound with leased := ?_, dead := ?_, placed := ?_ }⟩
    · intro other same
      cases same
      exact ⟨valid, owned⟩
    · intro other same dead
      cases same
      rw [alive] at dead
      cases dead
    · exact placed_alive waiting valid alive
  | extend queue name transport lease expiresAt waiting held alive =>
    refine ⟨rfl, { sound with leased := ?_, dead := ?_, placed := ?_ }⟩
    · intro other same
      cases same
      exact sound.leased lease held
    · intro other same dead
      cases same
      rw [alive] at dead
      cases dead
    · exact placed_alive waiting (sound.leased lease held).1 alive
  | fail name transport lease failed unadmitted held alive valid counted lineage ended unretried
      third =>
    refine ⟨rfl, { sound with leased := ?_, dead := ?_, placed := ?_ }⟩
    · intro other same
      cases same
      exact ⟨valid, (sound.leased lease held).2⟩
    · intro other same dead
      cases same
      exact ⟨third dead, ended⟩
    · intro other same
      cases same
      exact unretried
  | request name transport lease requested held dead =>
    refine ⟨rfl, { sound with leased := ?_, dead := ?_, placed := ?_ }⟩
    · intro other same
      cases same
      obtain ⟨valid, owned⟩ := sound.leased lease held
      refine ⟨?_, owned⟩
      simp [StoredLease.valid] at valid ⊢
      exact ⟨valid.1, dead⟩
    · intro other same _
      cases same
      exact sound.dead lease held dead
    · exact ⟨_, rfl, dead⟩
  | promote queue name transport intent waiting versioned supported =>
    exact ⟨rfl, { sound with coordinator := supported, fenced := fun _ => versioned }⟩

theorem rewrites_leftover (leftover : Leftover rules queue transport receipt)
    (rewrites : Rewrites clock marks (some receipt) deed queue name transport transport') :
    Leftover rules queue transport' receipt := by
  cases rewrites with
  | lease queue name transport lease waiting unadmitted => cases unadmitted
  | extend queue name transport lease expiresAt waiting held alive =>
    refine { leftover with lineage := ?_, alive := ?_ }
    · rw [leftover.lineage, held]
      rfl
    · intro other same
      cases same
      exact alive
  | fail name transport lease failed unadmitted => cases unadmitted
  | request => cases leftover.queue
  | promote => exact { leftover with }

theorem does_tidy (tidy : Tidy rules target clock inbox marks)
    (does : Does rules target clock deed inbox inbox') :
    ∃ marks', Tidy rules target clock inbox' marks' := by
  cases does with
  | count => exact ⟨marks, tidy_count tidy⟩
  | marks deed inbox activation interrupt marks₀ marks' read reads moved =>
    cases (tidy.read.symm.trans read)
    exact ⟨marks', tidy_marks tidy reads moved⟩
  | publish inbox name transport marks₀ read sound _ _ _ fresh unadmitted =>
    cases (tidy.read.symm.trans read)
    exact ⟨marks, tidy_publish tidy sound fresh unadmitted⟩
  | rewrite deed inbox queue name transport transport' marks₀ read held rewrites =>
    cases (tidy.read.symm.trans read)
    obtain ⟨same, sound⟩ := rewrites_sound (tidy.file held) rewrites
    refine ⟨marks, tidy_put tidy held same sound ?_⟩
    intro receipt admitted
    rw [admitted] at rewrites
    exact rewrites_leftover (tidy.leftover held admitted) rewrites
  | rename deed inbox queue queue' name name' transport held same moves =>
    refine ⟨marks, ?_⟩
    cases moves with
    | take queue transport waiting alive =>
      apply tidy_rename tidy held same _ (fun _ => rfl)
      intro lease leased
      have valid := ((tidy.file held).leased lease leased).1
      simp [StoredLease.valid, alive lease leased] at valid
      exact valid.2
    | bury transport lease unadmitted leased dead =>
      have placed' : Placed .dead transport.lease := ⟨lease, leased, dead⟩
      apply tidy_rename tidy held same placed'
      intro some
      exact absurd unadmitted some
    | revive transport lease leased requested =>
      apply tidy_rename tidy held same
      · intro other leased' _
        rw [leased] at leased'
        cases leased'
        exact requested
      · intro some
        obtain ⟨receipt, admitted⟩ := ne_none_iff_exists'.1 some
        cases (tidy.leftover held admitted).queue
    | cancel transport unleased =>
      have placed' : Placed .cancelled transport.lease := unleased
      apply tidy_rename tidy held same placed'
      intro some
      obtain ⟨receipt, admitted⟩ := ne_none_iff_exists'.1 some
      cases (tidy.leftover held admitted).queue
  | record inbox name transport receipt held id generation leased leftover =>
    exact ⟨marks, tidy_record tidy held id generation leased leftover⟩
  | clear inbox queue name transport receipt held admitted => exact ⟨marks, tidy_remove tidy⟩

end Inboxes
