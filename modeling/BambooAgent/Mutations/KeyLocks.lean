import BambooAgent.Mutations.Idempotency

/- Who owns a key, what the table of key locks holds, and how long a receipt stays. -/
namespace Mutations
open SortedMaps Interleavings List Bool
open SortedMap hiding entries

/-- Every request that lives refers to the lock in the table, and one owns it at most. -/
structure Locked (s : Store) : Prop where
  linked : ∀ r ∈ s.requests, r.phase.live = true → s.keyLocks.lookup r.keyDigest = some r.lock
  separate : ∀ key other lock, s.keyLocks.lookup key = some lock →
    s.keyLocks.lookup other = some lock → key = other
  fresh : ∀ key lock, s.keyLocks.lookup key = some lock → lock < s.nextLock
  exclusive : ∀ (place other : Nat) (r q : Request), s.requests[place]? = some r →
    s.requests[other]? = some q → r.phase.owns = true → q.phase.owns = true → r.lock = q.lock → place = other

/-- The receipts are within the capacity and numbered in the order of their storing. -/
structure Kept (capacity : Nat) (cache : CacheState) : Prop where
  bounded : cache.entries.size ≤ capacity
  counted : cache.nextSequence = cache.stores % u64Modulus
  aged : ∀ key entry, cache.entries.lookup key = some entry →
    entry.age < cache.stores ∧ entry.sequence = entry.age % u64Modulus
  distinct : ∀ key other a b, cache.entries.lookup key = some a →
    cache.entries.lookup other = some b → a.age = b.age → key = other

/-- The operation of this request runs, or has run, without a receipt of its key. -/
def Phase.unrecorded : Phase → Bool
  | .operating existing => !existing
  | .capturing _ | .storing _ => true
  | _ => false

structure Sound (config : Config) (s : Store) : Prop where
  locked : Locked s
  kept : Kept config.capacity s.cache
  absent : ∀ r ∈ s.requests, r.phase.unrecorded = true →
    s.cache.entries.lookup r.keyDigest = none

theorem live_of_owns {phase : Phase} (owns : phase.owns = true) : phase.live = true := by
  cases phase <;> simp_all [Phase.owns, Phase.live]

theorem owns_of_unrecorded {phase : Phase} (unrecorded : phase.unrecorded = true) :
    phase.owns = true := by
  cases phase <;> simp_all [Phase.unrecorded, Phase.owns]

/- Locks. -/

section Locks
variable {s : Store}

theorem request_cases (found : (s.setPhase place r phase).requests[other]? = some q) :
    (other = place ∧ q = { r with phase := phase }) ∨
      (other ≠ place ∧ s.requests[other]? = some q) := by
  exact set_cases found

theorem member_cases (member : q ∈ (s.setPhase place r phase).requests) :
    q = { r with phase := phase } ∨ q ∈ s.requests := by
  obtain ⟨other, found⟩ := mem_iff_getElem?.1 member
  rcases request_cases found with ⟨_, same⟩ | ⟨_, old⟩
  · exact .inl same
  · exact .inr (mem_of_getElem? old)

theorem unlocked_iff :
    unlocked s lock = true ↔ ∀ q ∈ s.requests, q.lock = lock → q.phase.owns = false := by
  simp only [unlocked, all_eq_true, not_eq_true', and_eq_false_iff,
    decide_eq_false_iff_not]
  constructor
  · intro every q member same
    rcases every q member with other | free
    · exact absurd same other
    · exact free
  · intro every q member
    by_cases same : q.lock = lock
    · exact .inr (every q member same)
    · exact .inl same

section
variable (locked : Locked s)
include locked

theorem locked_setPhase (there : s.requests[place]? = some r)
    (lives : phase.live = true → r.phase.live = true)
    (owns : phase.owns = true → r.phase.owns = true ∨ unlocked s r.lock = true) :
    Locked (s.setPhase place r phase) where
  linked := by
    intro q member live
    rcases member_cases member with rfl | old
    · exact locked.linked r (mem_of_getElem? there) (lives live)
    · exact locked.linked q old live
  separate := locked.separate
  fresh := locked.fresh
  exclusive := by
    have apart : ∀ (other : Nat) (q : Request), s.requests[other]? = some q → other ≠ place →
        phase.owns = true → q.phase.owns = true → r.lock = q.lock → False := by
      intro other q found different owning taken same
      rcases owns owning with before | free
      · exact different (locked.exclusive other place q r found there taken before same.symm)
      · rw [unlocked_iff.1 free q (mem_of_getElem? found) same.symm] at taken
        cases taken
    intro i j a b foundA foundB ownsA ownsB same
    rcases request_cases foundA with ⟨rfl, rfl⟩ | ⟨differentA, oldA⟩
    · rcases request_cases foundB with ⟨rfl, rfl⟩ | ⟨differentB, oldB⟩
      · rfl
      · exact (apart j b oldB differentB ownsA ownsB same).elim
    · rcases request_cases foundB with ⟨rfl, rfl⟩ | ⟨differentB, oldB⟩
      · exact (apart i a oldA differentA ownsB ownsA same.symm).elim
      · exact locked.exclusive i j a b oldA oldB ownsA ownsB same

theorem locked_erase (idle : ∀ q ∈ s.requests, q.phase.live = true → q.keyDigest ≠ keyDigest) :
    Locked { s with keyLocks := s.keyLocks.erase keyDigest } where
  linked := by
    intro q member live
    have other := idle q member live
    exact (lookup_erase_other _ other).trans (locked.linked q member live)
  separate := by
    intro key other lock first second
    rw [lookup_erase] at first second
    split at first
    · cases first
    · split at second
      · cases second
      · exact locked.separate key other lock first second
  fresh := by
    intro key lock held
    rw [lookup_erase] at held
    split at held
    · cases held
    · exact locked.fresh key lock held
  exclusive := locked.exclusive

theorem idle_of_count (held : s.keyLocks.lookup keyDigest = some lock)
    (single : strongCount s lock = 1) :
    ∀ q ∈ s.requests, q.phase.live = true → q.keyDigest ≠ keyDigest := by
  intro q member live same
  have linked := locked.linked q member live
  rw [same, held] at linked
  have counted : 0 < s.requests.countP (fun q => q.lock = lock && q.phase.live) := by
    apply countP_pos_iff.2
    exact ⟨q, member, by simp [Option.some.inj linked, live]⟩
  unfold strongCount at single
  omega

theorem locked_dropGuard (there : s.requests[place]? = some r) (response : Option HttpResponse) :
    Locked (dropGuard place r response s) := by
  have released : Locked (s.setPhase place r (.ended response)) :=
    locked_setPhase locked there (fun live => nomatch live) (fun owns => nomatch owns)
  unfold dropGuard
  dsimp only
  split
  · rename_i lock held
    split
    · rename_i single
      exact locked_erase released (idle_of_count released held single)
    · exact released
  · exact released

theorem locked_arrive (keyDigest payloadFingerprint : String) (revalidate : Bool) :
    Locked (lockKey s keyDigest payloadFingerprint revalidate) := by
  have appended : ∀ {other : Nat} {q : Request},
      (lockKey s keyDigest payloadFingerprint revalidate).requests[other]? = some q →
      q.phase.owns = true → s.requests[other]? = some q := by
    intro other q found owns
    unfold lockKey at found
    rw [List.getElem?_append] at found
    split at found
    · exact found
    · obtain ⟨_, rfl⟩ := List.getElem?_eq_some_iff.1 found
      rw [getElem_singleton] at owns
      cases owns
  have table : ∀ key, (lockKey s keyDigest payloadFingerprint revalidate).keyLocks.lookup key =
      if key = keyDigest then some ((s.keyLocks.lookup keyDigest).getD s.nextLock)
      else s.keyLocks.lookup key := fun key => lookup_insert ..
  have kept : ∀ {key lock}, s.keyLocks.lookup key = some lock →
      (lockKey s keyDigest payloadFingerprint revalidate).keyLocks.lookup key = some lock := by
    intro key lock held
    rw [table]
    split
    · rename_i same
      rw [← same, held]
      rfl
    · exact held
  -- what is in the table afterwards was there, or is the new lock
  have entered : ∀ {key lock},
      (lockKey s keyDigest payloadFingerprint revalidate).keyLocks.lookup key = some lock →
      s.keyLocks.lookup key = some lock ∨
        (key = keyDigest ∧ lock = s.nextLock ∧ s.keyLocks.lookup keyDigest = none) := by
    intro key lock held
    rw [table] at held
    split at held
    · rename_i same
      cases old : s.keyLocks.lookup keyDigest with
      | some before =>
        rw [old] at held
        rw [same, old]
        exact .inl held
      | none =>
        rw [old] at held
        exact .inr ⟨same, (Option.some.inj held).symm, rfl⟩
    · exact .inl held
  constructor
  · intro q member live
    rcases mem_append.1 member with old | new
    · exact kept (locked.linked q old live)
    · cases mem_singleton.1 new
      rw [table, if_pos rfl]
  · intro key other lock first second
    rcases entered first with oldA | ⟨rfl, rfl, _⟩
    · rcases entered second with oldB | ⟨rfl, rfl, _⟩
      · exact locked.separate key other lock oldA oldB
      · exact absurd (locked.fresh key s.nextLock oldA) (lt_irrefl _)
    · rcases entered second with oldB | ⟨rfl, _, _⟩
      · exact absurd (locked.fresh other s.nextLock oldB) (lt_irrefl _)
      · rfl
  · intro key lock held
    change lock < if s.keyLocks.contains keyDigest then s.nextLock else s.nextLock + 1
    rcases entered held with old | ⟨_, rfl, none_⟩
    · have below := locked.fresh key lock old
      split <;> omega
    · rw [if_neg (by rw [contains_false.2 none_]; exact false_ne_true)]
      omega
  · intro i j a b foundA foundB ownsA ownsB same
    exact locked.exclusive i j a b (appended foundA ownsA) (appended foundB ownsB) ownsA ownsB same

end

end Locks

/- Receipts. -/

theorem oldest_spec : ∀ {entries : List (String × CachedEntry)} {first : String × CachedEntry},
    oldest entries = some first →
      first ∈ entries ∧ ∀ other ∈ entries, first.2.sequence ≤ other.2.sequence := by
  intro entries
  induction entries with
  | nil => simp [oldest]
  | cons head rest ih =>
    intro first found
    simp only [oldest] at found
    split at found
    · rename_i none_
      cases found
      have empty : rest = [] := by
        cases rest with
        | nil => rfl
        | cons next more =>
          simp only [oldest] at none_
          split at none_
          · cases none_
          · split at none_ <;> cases none_
      subst empty
      simp
    · rename_i other least
      obtain ⟨member, below⟩ := ih least
      split at found
      · cases found
        refine ⟨mem_cons_of_mem _ member, ?_⟩
        intro q inside
        rcases mem_cons.1 inside with rfl | later
        · omega
        · exact below q later
      · cases found
        refine ⟨mem_cons_self, ?_⟩
        intro q inside
        rcases mem_cons.1 inside with rfl | later
        · exact le_rfl
        · have := below q later
          omega

theorem oldest_exists (some_ : entries ≠ []) :
    ∃ first, oldest entries = some first := by
  cases entries with
  | nil => exact absurd rfl some_
  | cons head rest =>
    simp only [oldest]
    split
    · exact ⟨_, rfl⟩
    · split <;> exact ⟨_, rfl⟩

theorem makeRoom_small (small : entries.size < capacity) (rounds : Nat) :
    makeRoom capacity rounds entries = entries := by
  cases rounds with
  | zero => rfl
  | succ rounds =>
    simp only [makeRoom]
    rw [if_neg (by omega)]

theorem makeRoom_cases (positive : 0 < capacity) (bounded : entries.size ≤ capacity) :
    (makeRoom capacity entries.size entries = entries ∧ entries.size < capacity) ∨
      ∃ key entry, oldest entries.entries = some (key, entry) ∧ entries.size = capacity ∧
        entries.lookup key = some entry ∧
        makeRoom capacity entries.size entries = entries.erase key := by
  rcases lt_or_ge entries.size capacity with small | full
  · exact .inl ⟨makeRoom_small small _, small⟩
  · have size : entries.size = capacity := le_antisymm bounded full
    have some_ : entries.entries ≠ [] := by
      intro empty
      rw [SortedMap.size, empty] at size
      simp at size
      omega
    obtain ⟨⟨key, entry⟩, first⟩ := oldest_exists some_
    have held := mem_entries.1 (oldest_spec first).1
    refine .inr ⟨key, entry, first, size, held, ?_⟩
    cases counted : entries.size with
    | zero => omega
    | succ rounds =>
      simp only [makeRoom]
      rw [if_pos full, first]
      exact makeRoom_small (by have := size_erase_lt held; omega) rounds

theorem kept_subset (kept : Kept capacity cache) (bounded : entries.size ≤ capacity)
    (subset : ∀ key entry, entries.lookup key = some entry → cache.entries.lookup key = some entry) :
    Kept capacity { cache with entries := entries } where
  bounded := bounded
  counted := kept.counted
  aged := fun key entry held => kept.aged key entry (subset key entry held)
  distinct := fun key other a b first second =>
    kept.distinct key other a b (subset key a first) (subset other b second)

theorem kept_prune (kept : Kept capacity cache) (now : Nat) :
    Kept capacity (cache.pruneExpired now) := by
  refine kept_subset kept ?_ (fun key entry held => (lookup_retain.1 held).1)
  have := size_retain_le cache.entries (fun entry => decide (now < entry.expiresAt))
  have := kept.bounded
  omega

theorem kept_insert (kept : Kept capacity cache) (positive : 0 < capacity)
    (keyDigest payloadFingerprint : String) (response : HttpResponse) (expiresAt : Nat) :
    Kept capacity
      (cache.insertBounded capacity keyDigest payloadFingerprint response expiresAt) := by
  have room : (makeRoom capacity cache.entries.size cache.entries).size < capacity ∧
      ∀ key entry, (makeRoom capacity cache.entries.size cache.entries).lookup key = some entry →
        cache.entries.lookup key = some entry := by
    rcases makeRoom_cases positive kept.bounded with
      ⟨same, small⟩ | ⟨key, entry, _, size, held, same⟩
    · rw [same]
      exact ⟨small, fun _ _ held => held⟩
    · rw [same]
      refine ⟨by have := size_erase_lt held; omega, ?_⟩
      intro other o there
      rw [lookup_erase] at there
      split at there
      · cases there
      · exact there
  have old := kept_subset kept (le_of_lt room.1) room.2
  constructor
  · have := size_insert_le (makeRoom capacity cache.entries.size cache.entries) keyDigest
      { payloadFingerprint := payloadFingerprint, response := response, expiresAt := expiresAt,
        sequence := cache.nextSequence, age := cache.stores }
    simp only [CacheState.insertBounded]
    omega
  · simp only [CacheState.insertBounded]
    rw [kept.counted, Nat.mod_add_mod]
  · intro key entry held
    simp only [CacheState.insertBounded, lookup_insert] at held
    split at held
    · cases held
      exact ⟨Nat.lt_succ_self _, kept.counted⟩
    · have aged := old.aged key entry held
      exact ⟨Nat.lt_succ_of_lt aged.1, aged.2⟩
  · intro key other a b first second same
    simp only [CacheState.insertBounded, lookup_insert] at first second
    split at first
    · split at second
      · rename_i here there
        rw [here, there]
      · cases first
        have := (old.aged other b second).1
        simp only at same this
        omega
    · split at second
      · cases second
        have := (old.aged key a first).1
        simp only at same this
        omega
      · exact old.distinct key other a b first second same

end Mutations
