import BambooAgent.Mutations.KeyLocks

/- Runs of the store: what every step keeps, and when a lock stays in the table for nobody. -/
namespace Mutations
open SortedMaps Interleavings List SortedMap Option Bool

variable {cache : CacheState}

section Steps
variable {place : Nat}

theorem capacity_pos (config : Config) : 0 < config.capacity := by
  unfold Config.capacity
  omega

section
variable (sound : Sound config s)
include sound

theorem sound_setPhase (there : s.requests[place]? = some r)
    (lives : phase.live = true → r.phase.live = true)
    (owns : phase.owns = true → r.phase.owns = true ∨ unlocked s r.lock = true)
    (unrecorded : phase.unrecorded = true → r.phase.unrecorded = true) :
    Sound config (s.setPhase place r phase) where
  locked := locked_setPhase sound.locked there lives owns
  kept := sound.kept
  absent := by
    intro q member pending
    rcases member_cases member with rfl | old
    · exact sound.absent r (mem_of_getElem? there) (unrecorded pending)
    · exact sound.absent q old pending

theorem sound_onward (there : s.requests[place]? = some r) (owns : r.phase.owns = true)
    (unrecorded : phase.unrecorded = true → r.phase.unrecorded = true) :
    Sound config (s.setPhase place r phase) :=
  sound_setPhase sound there (fun _ => live_of_owns owns) (fun _ => .inl owns) unrecorded

theorem sound_dropGuard (there : s.requests[place]? = some r) (response : Option HttpResponse) :
    Sound config (dropGuard place r response s) where
  locked := locked_dropGuard sound.locked there response
  kept := sound.kept
  absent := by
    intro q member pending
    rcases member_cases member with rfl | old
    · cases pending
    · exact sound.absent q old pending

theorem sound_arrive (keyDigest payloadFingerprint : String) (revalidate : Bool) :
    Sound config (lockKey s keyDigest payloadFingerprint revalidate) where
  locked := locked_arrive sound.locked keyDigest payloadFingerprint revalidate
  kept := sound.kept
  absent := by
    intro q member pending
    rcases mem_append.1 member with old | new
    · exact sound.absent q old pending
    · cases mem_singleton.1 new
      cases pending

end

theorem pruned_held (held : (cache.pruneExpired now).entries.lookup key = some entry) :
    cache.entries.lookup key = some entry ∧ now < entry.expiresAt := by
  have both := lookup_retain.1 held
  exact ⟨both.1, of_decide_eq_true both.2⟩

theorem held_pruned (held : cache.entries.lookup key = some entry) (early : now < entry.expiresAt) :
    (cache.pruneExpired now).entries.lookup key = some entry :=
  lookup_retain.2 ⟨held, decide_eq_true early⟩

theorem pruned_absent (now : Nat) (absent : cache.entries.lookup key = none) :
    (cache.pruneExpired now).entries.lookup key = none := by
  cases held : (cache.pruneExpired now).entries.lookup key with
  | none => rfl
  | some entry =>
    rw [(pruned_held held).1] at absent
    cases absent

theorem answered_unrecorded (pending : (answered r found).unrecorded = true) : found = none := by
  cases found with
  | none => rfl
  | some entry =>
    simp only [answered] at pending
    split at pending
    · cases pending
    · split at pending <;> cases pending

theorem sound_check (sound : Sound config s) (there : s.requests[place]? = some r)
    (owns : r.phase.owns = true) (now : Nat) : Sound config (check s place r now) where
  locked := by
    have moved : Locked (s.setPhase place r
        (answered r ((s.cache.pruneExpired now).entries.lookup r.keyDigest))) :=
      locked_setPhase sound.locked there (fun _ => live_of_owns owns) (fun _ => .inl owns)
    exact ⟨moved.linked, moved.separate, moved.fresh, moved.exclusive⟩
  kept := kept_prune sound.kept now
  absent := by
    intro q member pending
    rcases member_cases member with rfl | old
    · exact answered_unrecorded pending
    · exact pruned_absent now (sound.absent q old pending)

theorem owner_unique (locked : Locked s) (first : s.requests[place]? = some r)
    (second : s.requests[other]? = some q) (owns : r.phase.owns = true)
    (taken : q.phase.owns = true) (same : r.keyDigest = q.keyDigest) : place = other := by
  have mine := locked.linked r (mem_of_getElem? first) (live_of_owns owns)
  have theirs := locked.linked q (mem_of_getElem? second) (live_of_owns taken)
  rw [same, theirs] at mine
  exact locked.exclusive place other r q first second owns taken (some.inj mine).symm

theorem inserted_absent (kept : Kept capacity cache) (positive : 0 < capacity)
    (different : key ≠ keyDigest) (payloadFingerprint : String) (response : HttpResponse)
    (expiresAt : Nat) (absent : cache.entries.lookup key = none) :
    (cache.insertBounded capacity keyDigest payloadFingerprint response expiresAt).entries.lookup
      key = none := by
  simp only [CacheState.insertBounded]
  rw [lookup_insert_other _ _ different]
  rcases makeRoom_cases positive kept.bounded with ⟨same, _⟩ | ⟨other, entry, _, _, _, same⟩
  · rw [same]
    exact absent
  · rw [same, lookup_erase, absent, ite_self]

theorem sound_store (sound : Sound config s) (there : s.requests[place]? = some r)
    (storing : r.phase = .storing captured) (now later : Nat) :
    Sound config (storeReceipt config s place r captured now later) where
  locked := by
    have owns : r.phase.owns = true := by rw [storing]; rfl
    have moved : Locked (s.setPhase place r (.returning captured.toResponse)) :=
      locked_setPhase sound.locked there (fun _ => live_of_owns owns) (fun _ => .inl owns)
    exact ⟨moved.linked, moved.separate, moved.fresh, moved.exclusive⟩
  kept := kept_insert (kept_prune sound.kept now) (capacity_pos config) _ _ _ _
  absent := by
    intro q member pending
    obtain ⟨other, found⟩ := mem_iff_getElem?.1 member
    rcases request_cases found with ⟨_, rfl⟩ | ⟨different, old⟩
    · cases pending
    · have owns : r.phase.owns = true := by rw [storing]; rfl
      have keys : q.keyDigest ≠ r.keyDigest := by
        intro same
        exact different (owner_unique sound.locked old there (owns_of_unrecorded pending) owns same)
      exact inserted_absent (kept_prune sound.kept now) (capacity_pos config) keys _ _ _
        (pruned_absent now (sound.absent q (mem_of_getElem? old) pending))

theorem sound_stepOf (sound : Sound config s) (there : s.requests[place]? = some r) (act : Act) :
    Sound config (stepOf config s place r act) := by
  cases act with
  | arrive keyDigest payloadFingerprint revalidate => exact sound
  | acquire other now =>
    cases phase : r.phase with
    | waiting =>
      simp only [stepOf, phase]
      split
      · refine sound_setPhase sound there (fun _ => by rw [phase]; rfl) (fun _ => .inr ‹_›) ?_
        intro pending
        cases pending
      · exact sound
    | _ => simpa only [stepOf, phase] using sound
  | check other =>
    cases phase : r.phase with
    | checking now =>
      simp only [stepOf, phase]
      exact sound_check sound there (by rw [phase]; rfl) now
    | _ => simpa only [stepOf, phase] using sound
  | respond other response =>
    cases phase : r.phase with
    | operating existing =>
      simp only [stepOf, phase]
      refine sound_onward sound there (by rw [phase]; rfl) ?_
      intro pending
      cases existing with
      | true => cases pending
      | false => rw [phase]; rfl
    | _ => simpa only [stepOf, phase] using sound
  | capture other buffered =>
    cases phase : r.phase with
    | capturing response =>
      simp only [stepOf, phase]
      exact sound_onward sound there (by rw [phase]; rfl) (fun _ => by rw [phase]; rfl)
    | _ => simpa only [stepOf, phase] using sound
  | store other now later =>
    cases phase : r.phase with
    | storing captured =>
      simp only [stepOf, phase]
      exact sound_store sound there phase now later
    | _ => simpa only [stepOf, phase] using sound
  | finish other =>
    cases phase : r.phase with
    | returning response =>
      simp only [stepOf, phase]
      exact sound_dropGuard sound there _
    | _ => simpa only [stepOf, phase] using sound
  | cancel other =>
    cases phase : r.phase with
    | waiting =>
      simp only [stepOf, phase]
      refine sound_setPhase sound there (fun live => nomatch live) (fun owns => nomatch owns) ?_
      intro pending
      cases pending
    | checking now =>
      simp only [stepOf, phase]
      exact sound_dropGuard sound there _
    | operating existing =>
      simp only [stepOf, phase]
      exact sound_dropGuard sound there _
    | capturing response =>
      simp only [stepOf, phase]
      exact sound_dropGuard sound there _
    | storing captured =>
      simp only [stepOf, phase]
      exact sound_dropGuard sound there _
    | returning response => simpa only [stepOf, phase] using sound
    | ended response => simpa only [stepOf, phase] using sound

theorem step_cases (config : Config) (s : Store) (act : Act) :
    (∃ keyDigest payloadFingerprint revalidate,
      act = .arrive keyDigest payloadFingerprint revalidate ∧
        step config s act = lockKey s keyDigest payloadFingerprint revalidate) ∨
    (∃ place r, act.place = some place ∧ s.requests[place]? = some r ∧
      step config s act = stepOf config s place r act) ∨
    (∃ place, act.place = some place ∧ s.requests[place]? = none ∧ step config s act = s) := by
  have taken : ∀ {act : Act} {place : Nat}, act.place = some place →
      (∃ r, s.requests[place]? = some r ∧ step config s act = stepOf config s place r act) ∨
        (s.requests[place]? = none ∧ step config s act = s) := by
    intro act place own
    cases found : s.requests[place]? with
    | none =>
      refine .inr ⟨rfl, ?_⟩
      cases act with
      | arrive => cases own
      | _ =>
        cases own
        simp only [step, Act.place, bind_some, found, map_none]
    | some r =>
      refine .inl ⟨r, rfl, ?_⟩
      cases act with
      | arrive => cases own
      | _ =>
        cases own
        simp only [step, Act.place, bind_some, found, map_some]
  cases own : act.place with
  | none =>
    cases act with
    | arrive keyDigest payloadFingerprint revalidate => exact .inl ⟨_, _, _, rfl, rfl⟩
    | _ => cases own
  | some place =>
    rcases taken own with ⟨r, there, same⟩ | ⟨gone, same⟩
    · exact .inr (.inl ⟨place, r, rfl, there, same⟩)
    · exact .inr (.inr ⟨place, rfl, gone, same⟩)

theorem sound_step (sound : Sound config s) (act : Act) : Sound config (step config s act) := by
  rcases step_cases config s act with
    ⟨_, _, _, _, same⟩ | ⟨place, r, _, there, same⟩ | ⟨_, _, _, same⟩
  · rw [same]
    exact sound_arrive sound ..
  · rw [same]
    exact sound_stepOf sound there act
  · rw [same]
    exact sound

end Steps

/- The table. -/

/-- How many requests own this key or wait for it. -/
def requestsOf (s : Store) (keyDigest : String) : Nat :=
  s.requests.countP (fun q => q.keyDigest = keyDigest && q.phase.live)

/-- No lock is in the table for nobody. -/
def Clean (s : Store) : Prop :=
  ∀ keyDigest lock, s.keyLocks.lookup keyDigest = some lock → 0 < requestsOf s keyDigest

def lastWaiter (s : Store) : Act → Bool
  | .cancel place =>
    match s.requests[place]? with
    | some r => r.phase = .waiting && requestsOf s r.keyDigest = 1
    | none => false
  | _ => false

theorem requestsOf_setPhase (there : s.requests[place]? = some r) (keyDigest : String) :
    requestsOf (s.setPhase place r phase) keyDigest =
      requestsOf s keyDigest - (if r.keyDigest = keyDigest && r.phase.live then 1 else 0) +
        (if r.keyDigest = keyDigest && phase.live then 1 else 0) := by
  obtain ⟨inside, found⟩ := List.getElem?_eq_some_iff.1 there
  unfold requestsOf Store.setPhase
  rw [countP_set inside, found]

theorem requestsOf_pos (member : r ∈ s.requests) (live : r.phase.live = true) :
    0 < requestsOf s r.keyDigest :=
  countP_pos_iff.2 ⟨r, member, by simp [live]⟩

theorem clean_onward (clean : Clean s) (there : s.requests[place]? = some r)
    (before : r.phase.live = true) (after : phase.live = true) :
    Clean (s.setPhase place r phase) := by
  intro keyDigest lock held
  have some_ := clean keyDigest lock held
  rw [requestsOf_setPhase there, before, after]
  split <;> omega

theorem clean_arrive (clean : Clean s) (keyDigest payloadFingerprint : String)
    (revalidate : Bool) : Clean (lockKey s keyDigest payloadFingerprint revalidate) := by
  intro key lock held
  unfold requestsOf lockKey
  rw [countP_append]
  by_cases same : key = keyDigest
  · subst same
    simp [Phase.live]
  · have old : s.keyLocks.lookup key = some lock :=
      (lookup_insert_other _ _ same).symm.trans held
    have some_ := clean key lock old
    unfold requestsOf at some_
    omega

section
variable (sound : Sound config s)
include sound

theorem clean_dropGuard (clean : Clean s) (there : s.requests[place]? = some r)
    (live : r.phase.live = true) (response : Option HttpResponse) :
    Clean (dropGuard place r response s) := by
  have released : Sound config (s.setPhase place r (.ended response)) :=
    sound_setPhase sound there (fun live => nomatch live) (fun owns => nomatch owns)
      (fun pending => nomatch pending)
  have linked := sound.locked.linked r (mem_of_getElem? there) live
  intro key lock held
  change 0 < requestsOf (s.setPhase place r (.ended response)) key
  by_cases same : key = r.keyDigest
  · -- the lock stayed because some request still refers to it
    have table : (s.setPhase place r (.ended response)).keyLocks.lookup r.keyDigest =
        some r.lock := linked
    simp only [dropGuard, table] at held
    split at held
    · rw [same, lookup_erase, if_pos rfl] at held
      cases held
    · rename_i several
      have counted : 0 < (s.setPhase place r (.ended response)).requests.countP
          (fun q => q.lock = r.lock && q.phase.live) := by
        unfold strongCount at several
        omega
      obtain ⟨q, member, refers⟩ := countP_pos_iff.1 counted
      rw [and_eq_true, decide_eq_true_eq] at refers
      have theirs := released.locked.linked q member refers.2
      rw [refers.1] at theirs
      have keys := released.locked.separate q.keyDigest r.keyDigest r.lock theirs table
      rw [same, ← keys]
      exact requestsOf_pos member refers.2
  · have old : s.keyLocks.lookup key = some lock := by
      simp only [dropGuard] at held
      split at held
      · split at held
        · rw [lookup_erase_other _ same] at held
          exact held
        · exact held
      · exact held
    have some_ := clean key lock old
    rw [requestsOf_setPhase there]
    have other : r.keyDigest ≠ key := Ne.symm same
    simpa [other] using some_

theorem clean_dropWaiter (clean : Clean s) (there : s.requests[place]? = some r)
    (waiting : r.phase = .waiting) :
    Clean (s.setPhase place r (.ended none)) ↔ requestsOf s r.keyDigest ≠ 1 := by
  have live : r.phase.live = true := by rw [waiting]; rfl
  have some_ := requestsOf_pos (mem_of_getElem? there) live
  have left : ∀ key, requestsOf (s.setPhase place r (.ended none)) key =
      requestsOf s key - if r.keyDigest = key then 1 else 0 := by
    intro key
    rw [requestsOf_setPhase there, live]
    simp [Phase.live]
  constructor
  · intro after last
    have table := after r.keyDigest r.lock
      (sound.locked.linked r (mem_of_getElem? there) live)
    rw [left, if_pos rfl] at table
    omega
  · intro more key lock held
    have before := clean key lock held
    rw [left]
    split
    · rename_i same
      rw [← same] at ⊢
      omega
    · omega

theorem clean_stepOf (clean : Clean s) (there : s.requests[place]? = some r)
    (own : act.place = some place) :
    Clean (stepOf config s place r act) ↔ lastWaiter s act = false := by
  have onward : ∀ {next : Store} {phase : Phase}, next.keyLocks = s.keyLocks →
      next.requests = (s.setPhase place r phase).requests → r.phase.live = true →
      phase.live = true → Clean next := by
    intro next phase table moved before after
    have kept : Clean (s.setPhase place r phase) := clean_onward clean there before after
    unfold Clean requestsOf at ⊢
    rw [table, moved]
    exact kept
  cases act with
  | arrive a b c => cases own
  | acquire other now =>
    refine iff_of_true ?_ rfl
    cases phase : r.phase with
    | waiting =>
      simp only [stepOf, phase]
      split
      · exact clean_onward clean there (by rw [phase]; rfl) rfl
      · exact clean
    | _ => simpa only [stepOf, phase] using clean
  | check other =>
    refine iff_of_true ?_ rfl
    cases phase : r.phase with
    | checking now =>
      simp only [stepOf, phase]
      refine onward rfl rfl (by rw [phase]; rfl) ?_
      unfold answered
      split
      · split
        · rfl
        · split <;> rfl
      · rfl
    | _ => simpa only [stepOf, phase] using clean
  | respond other response =>
    refine iff_of_true ?_ rfl
    cases phase : r.phase with
    | operating existing =>
      simp only [stepOf, phase]
      exact clean_onward clean there (by rw [phase]; rfl) (by cases existing <;> rfl)
    | _ => simpa only [stepOf, phase] using clean
  | capture other buffered =>
    refine iff_of_true ?_ rfl
    cases phase : r.phase with
    | capturing response =>
      simp only [stepOf, phase]
      refine clean_onward clean there (by rw [phase]; rfl) ?_
      unfold capture
      split
      · split <;> rfl
      · rfl
    | _ => simpa only [stepOf, phase] using clean
  | store other now later =>
    refine iff_of_true ?_ rfl
    cases phase : r.phase with
    | storing captured =>
      simp only [stepOf, phase]
      exact onward rfl rfl (by rw [phase]; rfl) rfl
    | _ => simpa only [stepOf, phase] using clean
  | finish other =>
    refine iff_of_true ?_ rfl
    cases phase : r.phase with
    | returning response =>
      simp only [stepOf, phase]
      exact clean_dropGuard sound clean there (by rw [phase]; rfl) _
    | _ => simpa only [stepOf, phase] using clean
  | cancel other =>
    cases own
    cases phase : r.phase with
    | waiting =>
      simp only [stepOf, phase, lastWaiter, there]
      rw [clean_dropWaiter sound clean there phase]
      simp
    | checking now =>
      simp only [stepOf, phase, lastWaiter, there]
      exact iff_of_true (clean_dropGuard sound clean there (by rw [phase]; rfl) _) rfl
    | operating existing =>
      simp only [stepOf, phase, lastWaiter, there]
      exact iff_of_true (clean_dropGuard sound clean there (by rw [phase]; rfl) _) rfl
    | capturing response =>
      simp only [stepOf, phase, lastWaiter, there]
      exact iff_of_true (clean_dropGuard sound clean there (by rw [phase]; rfl) _) rfl
    | storing captured =>
      simp only [stepOf, phase, lastWaiter, there]
      exact iff_of_true (clean_dropGuard sound clean there (by rw [phase]; rfl) _) rfl
    | returning response =>
      simp only [stepOf, phase, lastWaiter, there]
      exact iff_of_true clean rfl
    | ended response =>
      simp only [stepOf, phase, lastWaiter, there]
      exact iff_of_true clean rfl

theorem clean_step (clean : Clean s) (act : Act) :
    Clean (step config s act) ↔ lastWaiter s act = false := by
  rcases step_cases config s act with
    ⟨_, _, _, rfl, same⟩ | ⟨place, r, own, there, same⟩ | ⟨place, own, gone, same⟩
  · exact iff_of_true (clean_arrive clean _ _ _) rfl
  · rw [same]
    exact clean_stepOf sound clean there own
  · rw [same]
    refine iff_of_true clean ?_
    cases act with
    | cancel other =>
      cases own
      simp only [lastWaiter, gone]
    | _ => rfl

end

/- What the receipts promise. -/

/-- The numbers of the receipts have not started over. -/
def numbered (s : Store) : Act → Bool
  | .store .. => decide (s.cache.stores < u64Modulus)
  | _ => true

def orderly (s : Store) (act : Act) : Bool := !lastWaiter s act && numbered s act

/-- The clock reading with which this step takes out what has expired. -/
def expiryReading (s : Store) : Act → Option Nat
  | .check place =>
    match s.requests[place]? with
    | some r =>
      match r.phase with
      | .checking now => some now
      | _ => none
    | none => none
  | .store _ now _ => some now
  | _ => none

/-- A full cache takes in another receipt, and none in it is older than this one. -/
structure Evicted (config : Config) (s : Store) (act : Act) (entry : CachedEntry) : Prop where
  storing : ∃ place now later, act = .store place now later ∧
    (s.cache.pruneExpired now).entries.size = config.capacity ∧
    ∀ other o, (s.cache.pruneExpired now).entries.lookup other = some o → entry.age ≤ o.age

structure Idempotent (config : Config) (s : Store) : Prop where
  exclusive : ∀ (place other : Nat) (r q : Request), s.requests[place]? = some r →
    s.requests[other]? = some q → r.phase.owns = true → q.phase.owns = true →
    r.keyDigest = q.keyDigest → place = other
  stored : ∀ (place : Nat) (r : Request) (captured : HttpResponse) (now later : Nat),
    s.requests[place]? = some r → r.phase = .storing captured →
    (step config s (.store place now later)).requests[place]? =
        some { r with phase := .returning captured.toResponse } ∧
      ∃ entry, (step config s (.store place now later)).cache.entries.lookup r.keyDigest =
          some entry ∧ entry.payloadFingerprint = r.payloadFingerprint ∧
        entry.response = captured ∧ entry.expiresAt = later + config.ttl
  replayed : ∀ (place : Nat) (r : Request) (now : Nat) (entry : CachedEntry),
    s.requests[place]? = some r → r.phase = .checking now → r.revalidate = false →
    s.cache.entries.lookup r.keyDigest = some entry → now < entry.expiresAt →
    r.payloadFingerprint = entry.payloadFingerprint →
    (step config s (.check place)).requests[place]? =
      some { r with phase := .returning entry.response.toResponse }
  conflicting : ∀ (place : Nat) (r : Request) (now : Nat) (entry : CachedEntry),
    s.requests[place]? = some r → r.phase = .checking now →
    s.cache.entries.lookup r.keyDigest = some entry → now < entry.expiresAt →
    r.payloadFingerprint ≠ entry.payloadFingerprint →
    (step config s (.check place)).requests[place]? =
      some { r with phase := .returning conflictResponse }
  lasting : ∀ (act : Act) (key : String) (entry : CachedEntry), orderly s act = true →
    s.cache.entries.lookup key = some entry →
    (step config s act).cache.entries.lookup key = some entry ∨
      (∃ now ∈ expiryReading s act, entry.expiresAt ≤ now) ∨ Evicted config s act entry
  released : ∀ (place other : Nat) (r q : Request) (now : Nat), s.requests[place]? = some r →
    s.requests[other]? = some q → r.phase.owns = true →
    (∀ response, r.phase ≠ .returning response) → q.phase = .waiting → q.keyDigest = r.keyDigest →
    (step config s (.cancel place)).cache = s.cache ∧
      (step config (step config s (.cancel place)) (.acquire other now)).requests[other]? =
        some { q with phase := .checking now }
  bounded : s.cache.entries.size ≤ config.capacity
  clean : Clean s

section Promises
variable {s : Store} {place : Nat}

theorem setPhase_self (there : s.requests[place]? = some r) (phase : Phase) :
    (s.setPhase place r phase).requests[place]? = some { r with phase := phase } := by
  unfold Store.setPhase
  rw [List.getElem?_set, if_pos rfl, if_pos (List.getElem?_eq_some_iff.1 there).1]

theorem setPhase_other (phase : Phase) (different : other ≠ place) :
    (s.setPhase place r phase).requests[other]? = s.requests[other]? := by
  unfold Store.setPhase
  rw [List.getElem?_set, if_neg (Ne.symm different)]

section
variable (there : s.requests[place]? = some r)
include there

theorem step_taken (own : act.place = some place) :
    step config s act = stepOf config s place r act := by
  rcases step_cases config s act with
    ⟨_, _, _, rfl, _⟩ | ⟨other, q, theirs, found, same⟩ | ⟨other, theirs, gone, _⟩
  · cases own
  · rw [own] at theirs
    cases theirs
    rw [there] at found
    cases found
    exact same
  · rw [own] at theirs
    cases theirs
    rw [there] at gone
    cases gone

theorem step_check (checking : r.phase = .checking now) :
    step config s (.check place) = check s place r now := by
  rw [step_taken there rfl]
  simp only [stepOf, checking]

theorem check_found (checking : r.phase = .checking now)
    (held : s.cache.entries.lookup r.keyDigest = some entry) (early : now < entry.expiresAt) :
    (step config s (.check place)).requests[place]? =
      some { r with phase := answered r (some entry) } := by
  rw [step_check there checking]
  unfold check
  dsimp only
  rw [held_pruned held early]
  exact setPhase_self there _

theorem step_store (storing : r.phase = .storing captured) (now later : Nat) :
    step config s (.store place now later) = storeReceipt config s place r captured now later := by
  rw [step_taken there rfl]
  simp only [stepOf, storing]

end

theorem prune_lasts (held : cache.entries.lookup key = some entry) (now : Nat) :
    (cache.pruneExpired now).entries.lookup key = some entry ∨ entry.expiresAt ≤ now := by
  by_cases early : now < entry.expiresAt
  · exact .inl (held_pruned held early)
  · exact .inr (Nat.le_of_not_lt early)

theorem oldest_age (kept : Kept capacity cache) (below : cache.stores < u64Modulus)
    (first : oldest cache.entries.entries = some (key, entry))
    (held : cache.entries.lookup other = some o) : entry.age ≤ o.age := by
  obtain ⟨member, least⟩ := oldest_spec first
  have mine := kept.aged key entry (mem_entries.1 member)
  have theirs := kept.aged other o held
  have order := least (other, o) (mem_entries.2 held)
  rw [mine.2, theirs.2, Nat.mod_eq_of_lt (by omega), Nat.mod_eq_of_lt (by omega)] at order
  exact order

theorem store_lasts (sound : Sound config s) (there : s.requests[place]? = some r)
    (storing : r.phase = .storing captured) (below : s.cache.stores < u64Modulus)
    (held : s.cache.entries.lookup key = some entry) :
    (storeReceipt config s place r captured now later).cache.entries.lookup key = some entry ∨
      entry.expiresAt ≤ now ∨ Evicted config s (.store place now later) entry := by
  have absent := sound.absent r (mem_of_getElem? there) (by rw [storing]; rfl)
  have different : key ≠ r.keyDigest := by
    rintro rfl
    rw [held] at absent
    cases absent
  have kept := kept_prune sound.kept now
  rcases prune_lasts held now with still | expired
  · simp only [storeReceipt, Store.setPhase, CacheState.insertBounded]
    rw [lookup_insert_other _ _ different]
    rcases makeRoom_cases (capacity_pos config) kept.bounded with
      ⟨same, _⟩ | ⟨first, gone, least, size, found, same⟩
    · rw [same]
      exact .inl still
    · rw [same, lookup_erase]
      split
      · rename_i here
        subst here
        rw [found] at still
        cases still
        refine .inr (.inr ⟨place, now, later, rfl, size, ?_⟩)
        intro other o theirs
        exact oldest_age kept below least theirs
      · exact .inl still
  · exact .inr (.inl expired)

theorem cache_stepOf (there : s.requests[place]? = some r) (own : act.place = some place) :
    (stepOf config s place r act).cache = s.cache ∨
      (∃ now ∈ expiryReading s act,
        (stepOf config s place r act).cache = s.cache.pruneExpired now) ∨
      ∃ captured now later, r.phase = .storing captured ∧ act = .store place now later ∧
        stepOf config s place r act = storeReceipt config s place r captured now later := by
  cases act with
  | arrive a b c => cases own
  | check other =>
    cases own
    cases phase : r.phase with
    | checking now =>
      refine .inr (.inl ⟨now, ?_, ?_⟩)
      · simp [expiryReading, there, phase]
      · simp only [stepOf, phase]
        rfl
    | _ => exact .inl (by simp only [stepOf, phase])
  | store other now later =>
    cases own
    cases phase : r.phase with
    | storing captured =>
      exact .inr (.inr ⟨captured, now, later, rfl, rfl, by simp only [stepOf, phase]⟩)
    | _ => exact .inl (by simp only [stepOf, phase])
  | acquire other now =>
    left
    cases phase : r.phase with
    | waiting =>
      simp only [stepOf, phase]
      split <;> rfl
    | _ => simp only [stepOf, phase]
  | cancel other =>
    left
    cases phase : r.phase <;> simp only [stepOf, phase] <;> rfl
  | _ =>
    left
    cases phase : r.phase <;> simp only [stepOf, phase]
    rfl

theorem receipt_lasts (sound : Sound config s) (fine : orderly s act = true)
    (held : s.cache.entries.lookup key = some entry) :
    (step config s act).cache.entries.lookup key = some entry ∨
      (∃ now ∈ expiryReading s act, entry.expiresAt ≤ now) ∨ Evicted config s act entry := by
  rcases step_cases config s act with
    ⟨_, _, _, _, same⟩ | ⟨place, r, own, there, same⟩ | ⟨_, _, _, same⟩
  · rw [same]
    exact .inl held
  · rw [same]
    rcases cache_stepOf there own with
      still | ⟨now, reading, pruned⟩ | ⟨captured, now, later, storing, rfl, stored⟩
    · rw [still]
      exact .inl held
    · rw [pruned]
      rcases prune_lasts held now with still | expired
      · exact .inl still
      · exact .inr (.inl ⟨now, reading, expired⟩)
    · have below : s.cache.stores < u64Modulus := by
        simp only [orderly, numbered, and_eq_true, decide_eq_true_eq] at fine
        exact fine.2
      rw [stored]
      rcases store_lasts sound there storing below held with still | expired | evicted
      · exact .inl still
      · exact .inr (.inl ⟨now, rfl, expired⟩)
      · exact .inr (.inr evicted)
  · rw [same]
    exact .inl held

theorem cancel_releases (sound : Sound config s) (there : s.requests[place]? = some r)
    (found : s.requests[other]? = some q) (owns : r.phase.owns = true)
    (unfinished : ∀ response, r.phase ≠ .returning response) (waiting : q.phase = .waiting)
    (same : q.keyDigest = r.keyDigest) (now : Nat) :
    (step config s (.cancel place)).cache = s.cache ∧
      (step config (step config s (.cancel place)) (.acquire other now)).requests[other]? =
        some { q with phase := .checking now } := by
  have dropped : step config s (.cancel place) = dropGuard place r none s := by
    rw [step_taken there rfl]
    cases phase : r.phase with
    | waiting => rw [phase] at owns; cases owns
    | returning response => exact absurd phase (unfinished response)
    | ended response => rw [phase] at owns; cases owns
    | _ => simp only [stepOf, phase]
  have different : other ≠ place := by
    rintro rfl
    rw [there] at found
    cases found
    rw [waiting] at owns
    cases owns
  have moved : (dropGuard place r none s).requests[other]? = some q :=
    (setPhase_other _ different).trans found
  have locks : q.lock = r.lock := by
    have theirs := sound.locked.linked q (mem_of_getElem? found) (by rw [waiting]; rfl)
    have mine := sound.locked.linked r (mem_of_getElem? there) (live_of_owns owns)
    rw [same, mine] at theirs
    exact (some.inj theirs).symm
  have free : unlocked (dropGuard place r none s) q.lock = true := by
    rw [unlocked_iff]
    intro p member shared
    obtain ⟨index, at_⟩ := mem_iff_getElem?.1 member
    rcases request_cases at_ with ⟨_, rfl⟩ | ⟨elsewhere, old⟩
    · rfl
    · cases taken : p.phase.owns with
      | false => rfl
      | true =>
        exact absurd (sound.locked.exclusive index place p r old there taken owns
          (shared.trans locks)) elsewhere
  rw [dropped, step_taken moved rfl]
  simp only [stepOf, waiting, free, if_true]
  exact ⟨rfl, setPhase_self moved _⟩

theorem idempotent_of_sound (sound : Sound config s) (clean : Clean s) : Idempotent config s where
  exclusive := fun _ _ _ _ first second owns taken same =>
    owner_unique sound.locked first second owns taken same
  stored := by
    intro place r captured now later there storing
    rw [step_store there storing]
    exact ⟨setPhase_self there _, _, lookup_insert_self .., rfl, rfl, rfl⟩
  replayed := by
    intro place r now entry there checking plain held early same
    rw [check_found there checking held early]
    simp [answered, plain, same]
  conflicting := by
    intro place r now entry there checking held early different
    rw [check_found there checking held early]
    simp [answered, Ne.symm different]
  lasting := fun _ _ _ fine held => receipt_lasts sound fine held
  released := fun _ _ _ _ now there found owns unfinished waiting same =>
    cancel_releases sound there found owns unfinished waiting same now
  bounded := sound.kept.bounded
  clean := clean

end Promises

theorem sound_new (config : Config) : Sound config .new where
  locked := by
    constructor
    · intro r member
      cases member
    · intro key other lock held
      cases held
    · intro key lock held
      cases held
    · intro place other r q found
      cases found
  kept := by
    refine ⟨Nat.zero_le _, rfl, ?_, ?_⟩
    · intro key entry held
      cases held
    · intro key other a b held
      cases held
  absent := fun _ member => nomatch member

theorem sound_run (config : Config)
    (orderly_ : Along (step config) (fun s act => orderly s act = true) .new acts) :
    Sound config (run (step config) .new acts) ∧ Clean (run (step config) .new acts) := by
  have keeps : ∀ (s : Store) (act : Act), orderly s act = true → Sound config s ∧ Clean s →
      Sound config (step config s act) ∧ Clean (step config s act) := by
    intro s act fine both
    rw [orderly, and_eq_true, not_eq_true'] at fine
    exact ⟨sound_step both.1 act, (clean_step both.1 both.2 act).2 fine.1⟩
  have start : Clean .new := fun _ _ held => nomatch held
  exact along_keeps keeps acts orderly_ ⟨sound_new config, start⟩

/-- In any order of steps, also one that leaves a lock behind, a key has one owner at most, the
    cache is within its capacity, and what runs without a receipt of its key has none in the cache. -/
theorem owners_exclusive (config : Config) (acts : List Act) :
    (∀ (place other : Nat) (r q : Request), (run (step config) .new acts).requests[place]? = some r →
      (run (step config) .new acts).requests[other]? = some q → r.phase.owns = true →
      q.phase.owns = true → r.keyDigest = q.keyDigest → place = other) ∧
    (run (step config) .new acts).cache.entries.size ≤ config.capacity ∧
    ∀ r ∈ (run (step config) .new acts).requests, r.phase.unrecorded = true →
      (run (step config) .new acts).cache.entries.lookup r.keyDigest = none := by
  have sound := run_keeps (P := Sound config) (fun _ act sound => sound_step sound act) acts
    (sound_new config)
  exact ⟨fun _ _ _ _ first second => owner_unique sound.locked first second, sound.kept.bounded,
    sound.absent⟩

theorem idempotent_iff_orderly (config : Config) (acts : List Act)
    (orderly_ : Along (step config) (fun s act => orderly s act = true) .new acts) :
    Idempotent config (run (step config) .new acts) ∧
      ∀ act, Clean (step config (run (step config) .new acts) act) ↔
        lastWaiter (run (step config) .new acts) act = false := by
  have both := sound_run config orderly_
  exact ⟨idempotent_of_sound both.1 both.2, clean_step both.1 both.2⟩

def sampleConfig : Config := { ttl := 600, requestedCapacity := 1, errorValue := id }

def sampleResponse : HttpResponse := { status := 201, headers := [], body := [1, 2] }

/-- One request runs its operation while another waits, and the receipt is replayed to it. -/
def sampleActs : List Act :=
  [.arrive "k" "f" false, .acquire 0 5, .check 0, .arrive "k" "f" false, .respond 0 sampleResponse,
    .capture 0 true, .store 0 6 6, .finish 0, .acquire 1 7, .check 1, .finish 1]

theorem sample_idempotent :
    (run (step sampleConfig) .new sampleActs).requests.map Request.phase =
        [.ended (some sampleResponse), .ended (some sampleResponse)] ∧
      Idempotent sampleConfig (run (step sampleConfig) .new sampleActs) := by
  refine ⟨by decide +kernel, ?_⟩
  exact (idempotent_iff_orderly sampleConfig sampleActs (by decide +kernel)).1

/-- The waiter is dropped after the owner it waited for has released the key. -/
def orphanedActs : List Act :=
  [.arrive "k" "f" false, .acquire 0 5, .check 0, .arrive "k" "f" false, .cancel 0, .cancel 1]

theorem orphaned_lock :
    (run (step sampleConfig) .new orphanedActs).requests.all (fun r => !r.phase.live) = true ∧
      (run (step sampleConfig) .new orphanedActs).keyLocks.contains "k" = true ∧
      ¬ Clean (run (step sampleConfig) .new orphanedActs) := by
  refine ⟨by decide +kernel, by decide +kernel, ?_⟩
  intro clean
  have held : (run (step sampleConfig) .new orphanedActs).keyLocks.lookup "k" = some 0 := by
    decide +kernel
  exact absurd (clean "k" 0 held) (by decide +kernel)

end Mutations
