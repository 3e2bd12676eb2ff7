import BambooAgent.Ready.RetryChanges

/- Whole histories of attempts: what is stored, and how often the runtime is entered. -/
namespace Ready.Retries
open SortedMaps Interleavings Option

/- What holds of a store and its attempts. -/

structure Chain (seen : List Tickets.Snapshot) (entries : List Entry) : Prop where
  valid : ∀ (i : Nat) (entry : Entry), entries[i]? = some entry →
    validateReadyRetryRecord entry.record = .ok ()
  first : ∀ entry, entries[0]? = some entry → entry.why = .created
  step : ∀ (i : Nat) (before after : Entry), entries[i]? = some before →
    entries[i + 1]? = some after → Allowed seen before.record after.record after.why

def Holds (entries : List Entry) (value : VersionedReadyRetry) : Prop :=
  ∃ i entry, value.revision = i + 1 ∧ entries[i]? = some entry ∧ entry.record = value.record

/-- The revision was stored to reserve an attempt. -/
def Reserved (entries : List Entry) (revision : Nat) (record : ReadyRetryRecord) : Prop :=
  ∃ i before entry, revision = i + 2 ∧ entries[i]? = some before ∧ entries[i + 1]? = some entry ∧
    entry.record = record ∧ entry.why = .reserve

def StageFair (seen : List Tickets.Snapshot) (entries : List Entry) (context : RetryContext) :
    Stage → Prop
  | .loading _ => True
  | .creating record => validateReadyRetryRecord record = .ok ()
  | .loaded value => Holds entries value
  | .saving value record why now => Holds entries value ∧
    validateReadyRetryRecord record = .ok () ∧ Allowed seen value.record record why ∧
      Prepared context now record why
  | .permitted value => Holds entries value ∧ Permit context value.record
  | .reserved value _ | .admitted value => Reserved entries value.revision value.record

def Fair (s : Recovery) (attempt : Attempt) : Prop :=
  attempt.context.snapshot ∈ s.seen ∧
    StageFair s.seen (s.entries attempt.context.key) attempt.context attempt.stage

/-- The reservation that an attempt has, until it is settled. -/
def Attempt.ticket (attempt : Attempt) : Option (ReadyRetryKey × Nat) :=
  match attempt.stage with
  | .reserved value _ | .admitted value => some (attempt.context.key, value.revision)
  | _ => none

/-- The reservation that an attempt may still enter the runtime with. -/
def Attempt.unspent (attempt : Attempt) : Option (ReadyRetryKey × Nat) :=
  match attempt.stage with
  | .reserved value _ => some (attempt.context.key, value.revision)
  | _ => none

def Admission.ticket (admission : Admission) : ReadyRetryKey × Nat :=
  (admission.key, admission.revision)

/-- The admission was of a reservation, within its window. -/
def Timely (entries : List Entry) (admission : Admission) : Prop :=
  ∃ record, Reserved entries admission.revision record ∧
    record.lastSeenAtMs ≤ admission.now ∧ admission.now < record.expiresAtMs

structure Sound (s : Recovery) : Prop where
  chains : ∀ key, Chain s.seen (s.entries key)
  fair : Every (Fair s) s.attempts
  timely : ∀ admission ∈ s.admissions, Timely (s.entries admission.key) admission
  separate : ∀ (place other : Nat) (a b : Attempt) (ticket : ReadyRetryKey × Nat),
    s.attempts[place]? = some (some a) → s.attempts[other]? = some (some b) →
      a.ticket = some ticket → b.ticket = some ticket → place = other
  unused : ∀ (place : Nat) (a : Attempt) (ticket : ReadyRetryKey × Nat),
    s.attempts[place]? = some (some a) → a.unspent = some ticket →
      ∀ admission ∈ s.admissions, admission.ticket ≠ ticket
  once : (s.admissions.map Admission.ticket).Nodup

/- More entries and snapshots. -/

/-- Nothing that was stored or read is forgotten. -/
structure Grows (s s' : Recovery) : Prop where
  entries : ∀ key, ∃ more, s'.entries key = s.entries key ++ more
  seen : ∀ snapshot ∈ s.seen, snapshot ∈ s'.seen

theorem kept_entry {i : Nat} (found : entries[i]? = some entry) (more : List Entry) :
    (entries ++ more)[i]? = some entry := by
  rw [List.getElem?_append_left (List.getElem?_eq_some_iff.1 found).1]
  exact found

theorem Holds.grow (holds : Holds entries value) : Holds (entries ++ more) value := by
  obtain ⟨i, entry, revision, found, same⟩ := holds
  exact ⟨i, entry, revision, kept_entry found more, same⟩

theorem Reserved.grow (reserved : Reserved entries revision record) :
    Reserved (entries ++ more) revision record := by
  obtain ⟨i, before, entry, same, one, two, rest⟩ := reserved
  exact ⟨i, before, entry, same, kept_entry one more, kept_entry two more, rest⟩

theorem Reserved.le_length (reserved : Reserved entries revision record) :
    revision ≤ entries.length := by
  obtain ⟨i, before, entry, same, _, found, _⟩ := reserved
  have := (List.getElem?_eq_some_iff.1 found).1
  omega

theorem fair_grows (grows : Grows s s') {attempt : Attempt} (fair : Fair s attempt) :
    Fair s' attempt := by
  obtain ⟨member, stage⟩ := fair
  obtain ⟨more, same⟩ := grows.entries attempt.context.key
  refine ⟨grows.seen _ member, ?_⟩
  rw [same]
  cases found : attempt.stage with
  | loading now => trivial
  | creating record =>
    rw [found] at stage
    exact stage
  | loaded value =>
    rw [found] at stage
    exact stage.grow
  | saving value record why now =>
    rw [found] at stage
    obtain ⟨holds, valid, allowed, prepared⟩ := stage
    exact ⟨holds.grow, valid, allowed.mono grows.seen, prepared⟩
  | permitted value =>
    rw [found] at stage
    exact ⟨stage.1.grow, stage.2⟩
  | reserved value checks =>
    rw [found] at stage
    exact stage.grow
  | admitted value =>
    rw [found] at stage
    exact stage.grow

theorem chain_seen (chain : Chain seen entries) (less : ∀ snapshot ∈ seen, snapshot ∈ later) :
    Chain later entries where
  valid := chain.valid
  first := chain.first
  step := fun i before after one two => (chain.step i before after one two).mono less

theorem chain_append (chain : Chain seen entries)
    (valid : validateReadyRetryRecord entry.record = .ok ())
    (first : entries = [] → entry.why = .created)
    (next : ∀ last, entries[entries.length - 1]? = some last → entries ≠ [] →
      Allowed seen last.record entry.record entry.why) : Chain seen (entries ++ [entry]) := by
  have cases_ : ∀ (i : Nat) (found : Entry), (entries ++ [entry])[i]? = some found →
      entries[i]? = some found ∨ (i = entries.length ∧ found = entry) := by
    intro i found there
    exact concat_cases there
  refine ⟨?_, ?_, ?_⟩
  · intro i found there
    rcases cases_ i found there with old | ⟨_, rfl⟩
    · exact chain.valid i found old
    · exact valid
  · intro found there
    rcases cases_ 0 found there with old | ⟨none_, rfl⟩
    · exact chain.first found old
    · exact first (List.eq_nil_of_length_eq_zero none_.symm)
  · intro i before after one two
    rcases cases_ (i + 1) after two with old | ⟨last, rfl⟩
    · rcases cases_ i before one with older | ⟨here, _⟩
      · exact chain.step i before after older old
      · have := (List.getElem?_eq_some_iff.1 old).1
        omega
    · rcases cases_ i before one with older | ⟨here, _⟩
      · refine next before ?_ ?_
        · rw [← last]
          exact older
        · rintro rfl
          cases last
      · omega

/- An attempt moves on. -/

section Moves
variable {place : Nat} {attempt : Attempt}

/-- No attempt has had this ticket. -/
def Fresh (s : Recovery) (ticket : ReadyRetryKey × Nat) : Prop :=
  (s.entries ticket.1).length < ticket.2

theorem ticket_known (sound : Sound s) (there : s.attempts[place]? = some (some attempt))
    (has : attempt.ticket = some ticket) : ¬ Fresh s ticket := by
  obtain ⟨_, stage⟩ := sound.fair place attempt there
  unfold Attempt.ticket at has
  split at has
  · rename_i value checks found
    rw [found] at stage
    cases has
    exact not_lt.2 stage.le_length
  · rename_i value found
    rw [found] at stage
    cases has
    exact not_lt.2 stage.le_length
  · cases has

theorem ticket_of_unspent (has : attempt.unspent = some ticket) : attempt.ticket = some ticket := by
  unfold Attempt.unspent at has
  unfold Attempt.ticket
  split at has
  · rename_i value checks found
    rw [found]
    exact has
  · cases has

/-- The tickets of an attempt that has moved on were its own, or are new. -/
structure Ticketed (s : Recovery) (attempt moved : Attempt) : Prop where
  ticket : ∀ ticket, moved.ticket = some ticket → attempt.ticket = some ticket ∨ Fresh s ticket
  unspent : ∀ ticket, moved.unspent = some ticket →
    attempt.unspent = some ticket ∨ Fresh s ticket

theorem ticketed_none (none_ : moved.ticket = none) : Ticketed s attempt moved where
  ticket := by
    intro ticket has
    rw [none_] at has
    cases has
  unspent := by
    intro ticket has
    rw [ticket_of_unspent has] at none_
    cases none_

theorem separate_set (sound : Sound s) (there : s.attempts[place]? = some (some attempt))
    (moves : ∀ moved, next = some moved → ∀ ticket, moved.ticket = some ticket →
      attempt.ticket = some ticket ∨ Fresh s ticket) :
    ∀ (at_ other : Nat) (a b : Attempt) (ticket : ReadyRetryKey × Nat),
      (s.attempts.set place next)[at_]? = some (some a) →
      (s.attempts.set place next)[other]? = some (some b) →
        a.ticket = some ticket → b.ticket = some ticket → at_ = other := by
  have apart : ∀ (at_ : Nat) (a moved : Attempt) (ticket : ReadyRetryKey × Nat),
      s.attempts[at_]? = some (some a) → next = some moved → a.ticket = some ticket →
        moved.ticket = some ticket → place = at_ := by
    intro at_ a moved ticket found same one two
    rcases moves moved same ticket two with before | fresh
    · exact sound.separate place at_ attempt a ticket there found before one
    · exact absurd fresh (ticket_known sound found one)
  intro at_ other a b ticket foundA foundB one two
  rw [List.getElem?_set] at foundA foundB
  split at foundA
  · rename_i here
    split at foundB
    · rename_i here'
      exact here.symm.trans here'
    · split at foundA
      · exact here.symm.trans (apart other b a ticket foundB (some.inj foundA) two one)
      · cases foundA
  · split at foundB
    · rename_i here'
      split at foundB
      · exact (apart at_ a b ticket foundA (some.inj foundB) one two).symm.trans here'
      · cases foundB
    · exact sound.separate at_ other a b ticket foundA foundB one two

theorem timely_grows (grows : Grows s s') (timely : Timely (s.entries admission.key) admission) :
    Timely (s'.entries admission.key) admission := by
  obtain ⟨record, reserved, rest⟩ := timely
  obtain ⟨more, same⟩ := grows.entries admission.key
  exact ⟨record, same ▸ reserved.grow, rest⟩

theorem sound_move (sound : Sound s) (there : s.attempts[place]? = some (some attempt))
    (grows : Grows s s') (attempts : s'.attempts = s.attempts.set place next)
    (admissions : s'.admissions = s.admissions)
    (chains : ∀ key, Chain s'.seen (s'.entries key))
    (moves : ∀ moved, next = some moved → Fair s' moved ∧ Ticketed s attempt moved) : Sound s' where
  chains := chains
  fair := by
    rw [attempts]
    exact every_set sound.fair (fun _ fair => fair_grows grows fair)
      (fun moved same => (moves moved same).1)
  timely := by
    rw [admissions]
    exact fun admission member => timely_grows grows (sound.timely admission member)
  separate := by
    rw [attempts]
    exact separate_set sound there (fun moved same => (moves moved same).2.ticket)
  unused := by
    rw [attempts, admissions]
    intro at_ a ticket found unspent admission member spent
    rcases set_cases found with ⟨_, same⟩ | ⟨_, old⟩
    · rcases (moves a same.symm).2.unspent ticket unspent with before | fresh
      · exact sound.unused place attempt ticket there before admission member spent
      · obtain ⟨record, reserved, _⟩ := sound.timely admission member
        subst spent
        exact absurd fresh (not_lt.2 reserved.le_length)
    · exact sound.unused at_ a ticket old unspent admission member spent
  once := by
    rw [admissions]
    exact sound.once

theorem grows_refl (s : Recovery) : Grows s s :=
  ⟨fun _ => ⟨[], (List.append_nil _).symm⟩, fun _ member => member⟩

section
variable (sound : Sound s)
include sound

theorem sound_stop (there : s.attempts[place]? = some (some attempt)) : Sound (s.stop place) := by
  have kept : Grows s (s.stop place) := ⟨(grows_refl s).entries, fun _ member => member⟩
  refine sound_move sound there kept rfl rfl sound.chains ?_
  intro moved same
  cases same

theorem sound_stage (there : s.attempts[place]? = some (some attempt))
    (fair : StageFair s.seen (s.entries attempt.context.key) attempt.context stage)
    (free : ({ attempt with stage := stage } : Attempt).ticket = none) :
    Sound (s.setStage place attempt stage) := by
  have kept : Grows s (s.setStage place attempt stage) :=
    ⟨(grows_refl s).entries, fun _ member => member⟩
  refine sound_move sound there kept rfl rfl sound.chains ?_
  intro moved same
  cases same
  exact ⟨⟨(sound.fair place attempt there).1, fair⟩, ticketed_none free⟩

theorem sound_see (snapshot : Tickets.Snapshot) : Sound (s.see snapshot) := by
  have kept : Grows s (s.see snapshot) :=
    ⟨(grows_refl s).entries, fun _ member => List.mem_append_left _ member⟩
  exact ⟨fun key => chain_seen (sound.chains key) kept.seen,
    fun at_ a found => fair_grows kept (sound.fair at_ a found), sound.timely, sound.separate,
    sound.unused, sound.once⟩

section
variable (there : s.attempts[place]? = some (some attempt))
include there

theorem sound_save (holds : Holds (s.entries attempt.context.key) value)
    (allowed : Allowed s.seen value.record record why)
    (prepared : Prepared attempt.context now record why) :
    Sound (save s place attempt value record why now) := by
  unfold save
  split
  · exact sound_stop sound there
  · rename_i valid
    exact sound_stage sound there ⟨holds, valid, allowed, prepared⟩ rfl

theorem sound_follow (holds : Holds (s.entries attempt.context.key) value)
    (lawful : Lawful s.seen attempt.context now value.record verdict) :
    Sound (follow s place attempt value now verdict) := by
  cases verdict with
  | stop answer => exact sound_stop sound there
  | save record why => exact sound_save sound there holds lawful.1 lawful.2

theorem sound_saveResult (holds : Holds (s.entries attempt.context.key) value)
    (lawful : ∀ record, result = .ok record → Allowed s.seen value.record record why ∧
      Prepared attempt.context 0 record why) :
    Sound (saveResult s place attempt value why result) := by
  cases result with
  | error error => exact sound_stop sound there
  | ok record => exact sound_save sound there holds (lawful record rfl).1 (lawful record rfl).2

end

end

/- What the steps store. -/

theorem grows_append (s : Recovery) (key : ReadyRetryKey) (entry : Entry) :
    Grows s (s.append key entry) where
  entries := by
    intro other
    change ∃ more, (if other = key then s.entries other ++ [entry] else s.entries other) =
      s.entries other ++ more
    split
    · exact ⟨[entry], rfl⟩
    · exact ⟨[], (List.append_nil _).symm⟩
  seen := fun _ member => member

theorem append_entries (s : Recovery) (key : ReadyRetryKey) (entry : Entry) :
    (s.append key entry).entries key = s.entries key ++ [entry] := if_pos rfl

section
variable (sound : Sound s)
include sound

theorem chains_append (chain : Chain s.seen (s.entries key ++ [entry])) (other : ReadyRetryKey) :
    Chain (s.append key entry).seen ((s.append key entry).entries other) := by
  change Chain s.seen (if other = key then s.entries other ++ [entry] else s.entries other)
  split
  · rename_i same
    rw [same]
    exact chain
  · exact sound.chains other

theorem sound_append {key : ReadyRetryKey} (chain : Chain s.seen (s.entries key ++ [entry])) :
    Sound (s.append key entry) := by
  have grows := grows_append s key entry
  exact ⟨chains_append sound chain, fun at_ a found => fair_grows grows (sound.fair at_ a found),
    fun admission member => timely_grows grows (sound.timely admission member), sound.separate,
    sound.unused, sound.once⟩

theorem chain_exchange (holds : Holds (s.entries key) value)
    (valid : validateReadyRetryRecord record = .ok ())
    (allowed : Allowed s.seen value.record record why)
    (current : (s.entries key).length = value.revision) :
    Chain s.seen (s.entries key ++ [⟨record, why⟩]) := by
  obtain ⟨i, entry, revision, found, same⟩ := holds
  refine chain_append (sound.chains key) valid ?_ ?_
  · intro none_
    rw [none_] at found
    cases found
  · intro last here _
    rw [current, revision, Nat.add_sub_cancel, found] at here
    cases here
    rw [same]
    exact allowed

section
variable (there : s.attempts[place]? = some (some attempt))
include there

theorem sound_resume (holds : Holds (s.entries attempt.context.key) value)
    (valid : validateReadyRetryRecord record = .ok ())
    (allowed : Allowed s.seen value.record record why)
    (prepared : Prepared attempt.context now record why)
    (current : (s.entries attempt.context.key).length = value.revision) :
    Sound (resume (s.append attempt.context.key ⟨record, why⟩) place attempt
      ⟨value.revision + 1, record⟩ why now) := by
  have chain := chain_exchange sound holds valid allowed current
  have stored := sound_append sound chain
  have after := append_entries s attempt.context.key ⟨record, why⟩
  have last : ((s.append attempt.context.key ⟨record, why⟩).entries attempt.context.key)[
      value.revision]? = some ⟨record, why⟩ := by
    rw [after, ← current, List.getElem?_append_right le_rfl, Nat.sub_self]
    rfl
  have held : Holds ((s.append attempt.context.key ⟨record, why⟩).entries attempt.context.key)
      ⟨value.revision + 1, record⟩ := ⟨value.revision, _, rfl, last, rfl⟩
  cases why with
  | created => exact prepared.elim
  | epoch => exact sound_follow stored there held (lawful_admissible prepared.1 prepared.2)
  | floor => exact sound_stage stored there ⟨held, prepared⟩ rfl
  | reserve =>
    have kept : Grows s ((s.append attempt.context.key ⟨record, .reserve⟩).setStage place attempt
        (.reserved ⟨value.revision + 1, record⟩
          (if attempt.context.pendingKey.isSome then 2 else 1))) :=
      ⟨(grows_append s _ _).entries, fun _ member => member⟩
    refine sound_move sound there kept rfl rfl (chains_append sound chain) ?_
    intro moved same
    cases same
    obtain ⟨i, before, revision, found, _⟩ := holds
    refine ⟨⟨(sound.fair place attempt there).1, i, before, ⟨record, .reserve⟩, ?_, ?_, ?_, rfl,
      rfl⟩, ?_⟩
    · rw [revision]
    · change ((s.append attempt.context.key ⟨record, .reserve⟩).entries
        attempt.context.key)[i]? = some before
      rw [after]
      exact kept_entry found _
    · rw [← revision]
      exact last
    · have fresh : Fresh s (attempt.context.key, value.revision + 1) := by
        change (s.entries attempt.context.key).length < value.revision + 1
        rw [current]
        exact Nat.lt_succ_self _
      constructor
      · intro ticket has
        cases has
        exact .inr fresh
      · intro ticket has
        cases has
        exact .inr fresh
  | quarantine => exact sound_stop stored there
  | failure => exact sound_stop stored there
  | observed => exact sound_stop stored there
  | conflict => exact sound_stop stored there

theorem sound_exchange (stage : attempt.stage = .saving value record why now) :
    Sound (exchange s place attempt value.revision record why now acknowledged) := by
  obtain ⟨_, fair⟩ := sound.fair place attempt there
  rw [stage] at fair
  obtain ⟨holds, valid, allowed, prepared⟩ := fair
  unfold exchange
  split
  · rename_i current
    split
    · exact sound_resume sound there holds valid allowed prepared current
    · exact sound_stop (sound_append sound (chain_exchange sound holds valid allowed current)) there
  · exact sound_stop sound there

theorem sound_create (stage : attempt.stage = .creating record) :
    Sound (exchange s place attempt 0 record .created 0 acknowledged) := by
  obtain ⟨_, fair⟩ := sound.fair place attempt there
  rw [stage] at fair
  unfold exchange
  split
  · rename_i empty
    have nothing : s.entries attempt.context.key = [] := List.eq_nil_of_length_eq_zero empty
    have chain : Chain s.seen (s.entries attempt.context.key ++ [⟨record, .created⟩]) := by
      refine chain_append (sound.chains _) fair (fun _ => rfl) ?_
      intro _ _ some_
      exact absurd nothing some_
    have stored := sound_append sound chain
    split
    · refine sound_stage stored there ⟨0, ⟨record, .created⟩, rfl, ?_, rfl⟩ rfl
      rw [append_entries, nothing]
      rfl
    · exact sound_stop stored there
  · exact sound_stop sound there

theorem sound_load : Sound (load s place attempt now) := by
  unfold load
  split
  · rename_i entry last
    refine sound_stage sound there ⟨(s.entries attempt.context.key).length - 1, entry, ?_, ?_, rfl⟩
      rfl
    · change (s.entries attempt.context.key).length = _
      have : (s.entries attempt.context.key) ≠ [] := by
        intro none_
        rw [none_] at last
        cases last
      have := List.length_pos_iff.2 this
      omega
    · rw [← List.getLast?_eq_getElem?]
      exact last
  · split
    · exact sound_stop sound there
    · rename_i record made
      exact sound_stage sound there (freshRecord_valid made) rfl

theorem sound_enter (stage : attempt.stage = .reserved value checks) :
    Sound (enter s place attempt value checks reading) := by
  obtain ⟨member, fair⟩ := sound.fair place attempt there
  rw [stage] at fair
  have own : attempt.ticket = some (attempt.context.key, value.revision) := by
    unfold Attempt.ticket
    rw [stage]
  have live : attempt.unspent = some (attempt.context.key, value.revision) := by
    unfold Attempt.unspent
    rw [stage]
  unfold enter
  split
  · exact sound_stop sound there
  · rename_i now timely
    split
    · let admission : Admission := ⟨attempt.context.key, value.revision, now⟩
      let admitted : Attempt := { attempt with stage := .admitted value }
      change Sound { s with
        attempts := s.attempts.set place (some admitted)
        admissions := s.admissions ++ [admission] }
      refine ⟨sound.chains, ?_, ?_, ?_, ?_, ?_⟩
      · refine every_set sound.fair (fun _ fair => fair) (fun moved same => ?_)
        cases same
        exact ⟨member, fair⟩
      · intro other there'
        rcases List.mem_append.1 there' with old | new
        · exact sound.timely other old
        · rw [List.mem_singleton] at new
          subst new
          exact ⟨value.record, fair, checkTime_spec timely⟩
      · refine separate_set sound there (fun moved same ticket has => .inl ?_)
        cases same
        rw [own]
        exact has
      · intro at_ a ticket found unspent other there' spent
        rcases set_cases found with ⟨_, same⟩ | ⟨different, found⟩
        · cases same
          cases unspent
        · rcases List.mem_append.1 there' with old | new
          · exact sound.unused at_ a ticket found unspent other old spent
          · rw [List.mem_singleton] at new
            subst new
            subst spent
            exact different (sound.separate place at_ attempt a _ there found own
              (ticket_of_unspent unspent)).symm
      · rw [List.map_append, List.nodup_append]
        refine ⟨sound.once, List.nodup_singleton _, ?_⟩
        rintro ticket old _ new rfl
        obtain ⟨other, there', rfl⟩ := List.mem_map.1 old
        exact sound.unused place attempt _ there live other there' (List.mem_singleton.1 new)
    · have kept : Grows s (s.setStage place attempt (.reserved value (checks - 1))) :=
        ⟨(grows_refl s).entries, fun _ member => member⟩
      refine sound_move sound there kept rfl rfl sound.chains ?_
      intro moved same
      cases same
      refine ⟨⟨member, fair⟩, ?_, ?_⟩
      · intro ticket has
        rw [own]
        exact .inl has
      · intro ticket has
        rw [live]
        exact .inl has

end

end

theorem reserved_holds (reserved : Reserved entries value.revision value.record) :
    Holds entries value := by
  obtain ⟨i, before, entry, same, _, found, record, _⟩ := reserved
  exact ⟨i + 1, entry, same, found, record⟩

section
variable (sound : Sound s)
include sound

theorem reserved_live (reserved : Reserved (s.entries key) revision record) :
    record.phase ≠ .quarantined ∧ record.attempts ≤ readyRetryLimit := by
  obtain ⟨i, before, entry, _, one, two, rfl, why⟩ := reserved
  obtain ⟨_, phase, _⟩ := ((sound.chains key).step i before entry one two).reserved why
  refine ⟨?_, attempts_of_valid ((sound.chains key).valid (i + 1) entry two)⟩
  rw [phase]
  nofun

theorem sound_refuse (there : s.attempts[place]? = some (some attempt))
    (holds : Holds (s.entries attempt.context.key) value) (live : value.record.phase ≠ .quarantined)
    (bounded : value.record.attempts ≤ readyRetryLimit) :
    Sound (saveResult (s.see snapshot) place attempt value .failure
      (failure value.record kind reason snapshot reading)) :=
  sound_saveResult (sound_see sound snapshot) there holds
    (fun _ made => ⟨failure_spec live bounded made, trivial⟩)

theorem sound_stepOf (there : s.attempts[place]? = some (some attempt)) (act : Act) :
    Sound (stepOf s place attempt act) := by
  obtain ⟨member, fair⟩ := sound.fair place attempt there
  cases act with
  | begin_ _ _ _ _ _ => exact sound
  | load _ =>
    unfold stepOf
    dsimp only
    split
    · exact sound_load sound there
    · exact sound
  | decide_ _ reading =>
    unfold stepOf
    dsimp only
    split
    · rename_i value now stage
      rw [stage] at fair
      exact sound_follow sound there fair lawful_check
    · exact sound_stop sound there
    · exact sound
  | exchange _ acknowledged =>
    unfold stepOf
    dsimp only
    split
    · rename_i record stage
      exact sound_create sound there stage
    · rename_i value record why now stage
      exact sound_exchange sound there stage
    · exact sound
  | refuse _ kind reason snapshot reading =>
    unfold stepOf
    dsimp only
    split
    · rename_i value stage
      rw [stage] at fair
      obtain ⟨holds, permit⟩ := fair
      obtain ⟨i, entry, _, found, same⟩ := holds
      refine sound_refuse sound there ⟨i, entry, ‹_›, found, same⟩ permit.live ?_
      rw [← same]
      exact attempts_of_valid ((sound.chains _).valid i entry found)
    · rename_i value stage
      rw [stage] at fair
      obtain ⟨live, bounded⟩ := reserved_live sound fair
      exact sound_refuse sound there (reserved_holds fair) live bounded
    · exact sound
  | reserve _ operationId hash reading =>
    unfold stepOf
    dsimp only
    split
    · rename_i value stage
      rw [stage] at fair
      exact sound_saveResult sound there fair.1 (fun _ made => reserve_spec fair.2 member made)
    · exact sound
  | enter _ reading =>
    unfold stepOf
    dsimp only
    split
    · rename_i value checks stage
      exact sound_enter sound there stage
    · exact sound
  | observe _ dispatchKey snapshot reading =>
    unfold stepOf
    dsimp only
    split
    · rename_i value stage
      rw [stage] at fair
      refine sound_saveResult (sound_see sound snapshot) there (reserved_holds fair)
        (fun _ made => ⟨observed_spec (reserved_live sound fair).1 ?_ made, trivial⟩)
      exact List.mem_append_right _ List.mem_cons_self
    · exact sound
  | reject _ reading =>
    unfold stepOf
    dsimp only
    split
    · rename_i value _ stage _
      rw [stage] at fair
      exact sound_saveResult sound there (reserved_holds fair)
        (fun _ made => ⟨conflict_spec (reserved_live sound fair).1 made, trivial⟩)
    · exact sound
  | lose _ => exact sound_stop sound there

theorem sound_begin (snapshot : Tickets.Snapshot) (workId identityHash : String)
    (remainingMs : Nat) (reading : Option Nat) :
    Sound (beginAttempt s snapshot workId identityHash remainingMs reading) := by
  unfold beginAttempt
  split
  · rename_i work now found
    split
    · have seen := sound_see sound snapshot
      let launched : Attempt := ⟨contextOf snapshot work workId identityHash remainingMs, .loading now⟩
      have split_ : ∀ (at_ : Nat) (a : Attempt),
          (s.attempts ++ [some launched])[at_]? = some (some a) →
            s.attempts[at_]? = some (some a) ∨ a = launched := by
        intro at_ a there
        exact (concat_cases there).imp_right fun new => some.inj new.2
      refine ⟨seen.chains, every_launch seen.fair ⟨?_, trivial⟩, seen.timely, ?_, ?_, seen.once⟩
      · exact List.mem_append_right _ List.mem_cons_self
      · intro at_ other a b ticket foundA foundB one two
        rcases split_ at_ a foundA with oldA | rfl
        · rcases split_ other b foundB with oldB | rfl
          · exact sound.separate at_ other a b ticket oldA oldB one two
          · cases two
        · cases one
      · intro at_ a ticket there unspent
        rcases split_ at_ a there with old | rfl
        · exact sound.unused at_ a ticket old unspent
        · cases unspent
    · exact sound
  · exact sound

theorem sound_step (act : Act) : Sound (step s act) := by
  cases act with
  | begin_ snapshot workId identityHash remainingMs reading =>
    exact sound_begin sound snapshot workId identityHash remainingMs reading
  | _ =>
    simp only [step]
    split
    · rename_i place attempt found
      obtain ⟨a, there, same⟩ := map_eq_some_iff.1 found
      cases same
      exact sound_stepOf sound (join_eq_some_iff.1 there) _
    · exact sound

end

end Moves

theorem chain_nil (seen : List Tickets.Snapshot) : Chain seen [] := by
  have none_ : ∀ (i : Nat) (entry : Entry), ([] : List Entry)[i]? ≠ some entry := by
    intro i entry found
    cases found
  refine ⟨?_, ?_, ?_⟩
  · exact fun i entry found => absurd found (none_ i entry)
  · exact fun entry found => absurd found (none_ 0 entry)
  · exact fun i before after found _ => absurd found (none_ i before)

theorem sound_new : Sound .new := by
  have nobody : ∀ (place : Nat) (a : Attempt), Recovery.new.attempts[place]? ≠ some (some a) := by
    intro place a found
    cases found
  refine ⟨fun _ => chain_nil _, ?_, ?_, ?_, ?_, .nil⟩
  · exact fun place a found => absurd found (nobody place a)
  · intro admission member
    cases member
  · exact fun place other a b ticket found _ _ _ => absurd found (nobody place a)
  · exact fun place a ticket found _ => absurd found (nobody place a)

end Ready.Retries
