import BambooAgent.Tickets.Claiming
import BambooAgent.Tickets.Ownership

/- Claimants that prepare a Start from one snapshot and execute it on a later one. What
   holds them to the capacity is that a prepared command is good for one sequence number. -/
namespace Tickets
open SortedMaps Evolutions SortedMap

def StartsNothing : Publication → Prop
  | .operated _ _ operations => ∀ workId tempId workspace uuid,
      (.start workId tempId workspace, uuid) ∉ operations
  | _ => True

/-- A claim: the snapshot it was prepared from and the command it gave. -/
structure Claim where
  observed : SnapshotRef
  command : Command

/-- The scope, the claims in the hands of the claimants, and those that were published. -/
structure ClaimState where
  snapshot : Snapshot
  prepared : List Claim
  obtained : List Claim

def ClaimState.initial (binding : ScopeBinding) : ClaimState := ⟨Snapshot.empty binding, [], []⟩

inductive ClaimStep (codec : Codec) (capacity : Nat) : ClaimState → ClaimState → Prop where
  | prepares {commit : String}
      (run : prepareReadyClaim commit state.snapshot authority observed operationId candidates
        capacity = .ok (.prepared command)) :
      ClaimStep codec capacity state
        { state with prepared := ⟨observed, command⟩ :: state.prepared }
  | publishes (known : claim ∈ state.prepared)
      (fresh : Fresh state.snapshot ((stamped uuids 0 claim.command.operations).map Prod.snd))
      (run : execute codec files health state.snapshot authority uuids claim.command =
        .ok (receipt, some next)) :
      ClaimStep codec capacity state
        { state with snapshot := next, obtained := claim :: state.obtained }
  | repeats (known : claim ∈ state.prepared)
      (run : execute codec files health state.snapshot authority uuids claim.command =
        .ok (receipt, none)) :
      ClaimStep codec capacity state state
  | proceeds (idle : StartsNothing p) (step : Publishes codec p state.snapshot next) :
      ClaimStep codec capacity state { state with snapshot := next }

abbrev ClaimRun (codec : Codec) (capacity : Nat) : ClaimState → ClaimState → Prop :=
  Relation.ReflTransGen (ClaimStep codec capacity)

theorem occupied_card (snapshot : Snapshot) :
    occupied snapshot = (snapshot.assignments.keysWhere holdsResources).card :=
  countP_values holdsResources snapshot.assignments

theorem occupied_insert
    (old : ∀ key b, next.assignments.lookup key = some b → holdsResources b = true →
      key = uuid ∨ ∃ a, snapshot.assignments.lookup key = some a ∧ holdsResources a = true) :
    occupied next ≤ occupied snapshot + 1 := by
  rw [occupied_card, occupied_card]
  have inside : next.assignments.keysWhere holdsResources ⊆
      insert uuid (snapshot.assignments.keysWhere holdsResources) := by
    intro key member
    obtain ⟨b, found, holds⟩ := mem_keysWhere.1 member
    rw [Finset.mem_insert]
    rcases old key b found holds with same | ⟨a, before, held⟩
    · exact .inl same
    · exact .inr (mem_keysWhere.2 ⟨a, before, held⟩)
  calc (next.assignments.keysWhere holdsResources).card
      ≤ (insert uuid (snapshot.assignments.keysWhere holdsResources)).card :=
        Finset.card_le_card inside
    _ ≤ (snapshot.assignments.keysWhere holdsResources).card + 1 := Finset.card_insert_le _ _

theorem occupied_le
    (old : ∀ key b, next.assignments.lookup key = some b → holdsResources b = true →
      ∃ a, snapshot.assignments.lookup key = some a ∧ holdsResources a = true) :
    occupied next ≤ occupied snapshot := by
  rw [occupied_card, occupied_card]
  apply Finset.card_le_card
  intro key member
  obtain ⟨b, found, holds⟩ := mem_keysWhere.1 member
  obtain ⟨a, before, held⟩ := old key b found holds
  exact mem_keysWhere.2 ⟨a, before, held⟩

theorem occupied_same (facts : SameFacts snapshot next) : occupied next = occupied snapshot := by
  unfold occupied
  rw [facts.assignments]

section
variable (all : AllAccounted snapshot)
include all

theorem occupied_changes (change : Changes codec files authority ids uuid operation snapshot next) :
    occupied next ≤ occupied snapshot + 1 := by
  have old : ∀ key b, next.assignments.lookup key = some b → holdsResources b = true →
      key = uuid ∨ ∃ a, snapshot.assignments.lookup key = some a ∧ holdsResources a = true := by
    intro key b found holds
    rcases change.assignments.origin key b found with ⟨a, before, edit⟩ | ⟨named, _⟩
    · exact .inr
        ⟨a, before, held_before (all key a before) (change_carried all before edit) holds⟩
    · exact .inl named
  exact occupied_insert old

theorem occupied_idle (change : Changes codec files authority ids uuid operation snapshot next)
    (idle : ∀ workId tempId workspace, operation ≠ .start workId tempId workspace) :
    occupied next ≤ occupied snapshot := by
  apply occupied_le
  intro key b found holds
  rcases change.assignments.origin key b found with ⟨a, before, edit⟩ | ⟨_, new⟩
  · exact ⟨a, before, held_before (all key a before) (change_carried all before edit) holds⟩
  · cases new with
    | started _ _ => exact absurd rfl (idle _ _ _)

theorem occupied_hosted (change : HostChanges snapshot next) :
    occupied next ≤ occupied snapshot := by
  apply occupied_le
  intro key b found holds
  rcases change.assignments.origin key b found with ⟨a, before, edit⟩ | impossible
  · exact ⟨a, before, held_before (all key a before) (hostChange_carried (all key a before) edit)
      holds⟩
  · exact impossible.elim

theorem accounted_step (step : Publishes codec p snapshot next) : AllAccounted next :=
  publishes_kept accounted_kept all step

theorem occupied_publishes (step : Publishes codec p snapshot next) (idle : StartsNothing p) :
    occupied next ≤ occupied snapshot := by
  rcases publishes_cases step with ⟨files, authority, operations, after, ids, same, operated⟩ | change
  · subst same
    have ended : AllAccounted after ∧ occupied after ≤ occupied snapshot := by
      apply operated_applied (P := fun s => AllAccounted s ∧ occupied s ≤ occupied snapshot) operated
      · intro ids after uuid operation middle later member here new run
        have quiet : ∀ workId tempId workspace, operation ≠ .start workId tempId workspace := by
          intro workId tempId workspace same
          exact idle workId tempId workspace uuid (same ▸ member)
        exact ⟨accounted_kept.applied trivial here.1 new run,
          le_trans (occupied_idle here.1 (apply_changes run) quiet) here.2⟩
      · exact ⟨all, le_refl _⟩
    rw [occupied_same operated.same]
    exact ended.2
  · exact occupied_hosted all change

end

/-- What preparing against the current snapshot promises about a command. -/
structure Promised (capacity : Nat) (snapshot : Snapshot) (claim : Claim) : Prop where
  seq : claim.command.expectedSeq = claim.observed.seq
  single : ∃ workId workspace, claim.command.operations = [.start workId "assignment" workspace]
  past : claim.observed.seq ≤ snapshot.seq
  room : claim.observed.seq = snapshot.seq → occupied snapshot < capacity

structure ClaimsSound (capacity : Nat) (state : ClaimState) : Prop where
  accounted : AllAccounted state.snapshot
  bounded : occupied state.snapshot ≤ capacity
  prepared : ∀ claim ∈ state.prepared, Promised capacity state.snapshot claim
  obtained : ∀ claim ∈ state.obtained, claim.observed.seq < state.snapshot.seq
  distinct : state.obtained.Pairwise (fun a b => a.observed.seq ≠ b.observed.seq)

theorem prepareReadyClaim_ok {commit operationId : String}
    (run : prepareReadyClaim commit snapshot authority observed operationId candidates capacity =
      .ok (.prepared command)) :
    observed.seq = snapshot.seq ∧ occupied snapshot < capacity ∧ ∃ work candidate,
      command = claimCommand snapshot operationId work candidate := by
  simp only [prepareReadyClaim, bind_eq_ok, rejectIf_eq_ok, not_not] at run
  obtain ⟨_, _, _, _, _, current, _, _, _, _, rest⟩ := run
  have seq : observed.seq = snapshot.seq := by rw [current]
  split at rest
  · cases rest
  · split at rest
    · cases rest
    · rename_i chosen _
      cases rest
      exact ⟨seq, by omega, chosen.1, chosen.2, rfl⟩

theorem promised_later (promised : Promised capacity snapshot claim)
    (moved : next.seq = snapshot.seq + 1) : Promised capacity next claim where
  seq := promised.seq
  single := promised.single
  past := by
    have past := promised.past
    omega
  room := by
    have past := promised.past
    omega

theorem claims_start (binding : ScopeBinding) :
    ClaimsSound capacity (ClaimState.initial binding) where
  accounted := accounted_empty binding
  bounded := Nat.zero_le capacity
  prepared := by
    intro claim member
    cases member
  obtained := by
    intro claim member
    cases member
  distinct := List.Pairwise.nil

section
variable (sound : ClaimsSound capacity state)
include sound

theorem claims_prepares (promised : Promised capacity state.snapshot claim) :
    ClaimsSound capacity { state with prepared := claim :: state.prepared } where
  accounted := sound.accounted
  bounded := sound.bounded
  prepared := by
    intro other member
    rcases List.mem_cons.1 member with same | before
    · exact same ▸ promised
    · exact sound.prepared other before
  obtained := sound.obtained
  distinct := sound.distinct

theorem claims_proceeds (step : Publishes codec p state.snapshot next)
    (bounded : occupied next ≤ capacity) :
    ClaimsSound capacity { state with snapshot := next } where
  accounted := accounted_step sound.accounted step
  bounded := bounded
  prepared := fun claim member => promised_later (sound.prepared claim member) (publishes_seq step)
  obtained := by
    intro claim member
    have before := sound.obtained claim member
    have moved := publishes_seq step
    show claim.observed.seq < next.seq
    omega
  distinct := sound.distinct

theorem claims_publishes (known : claim ∈ state.prepared)
    (fresh : Fresh state.snapshot ((stamped uuids 0 claim.command.operations).map Prod.snd))
    (run : execute codec files health state.snapshot authority uuids claim.command =
      .ok (receipt, some next)) :
    ClaimsSound capacity { state with snapshot := next, obtained := claim :: state.obtained } := by
  have promised := sound.prepared claim known
  obtain ⟨workId, workspace, single⟩ := promised.single
  obtain ⟨_, _, current, _, after, ids, operated, same⟩ := execute_ok run
  have observed : claim.observed.seq = state.snapshot.seq := promised.seq.symm.trans current
  have room := promised.room observed
  have step : Publishes codec _ state.snapshot next := .executed fresh run
  have grown : occupied next ≤ occupied state.snapshot + 1 := by
    obtain ⟨applied, _⟩ := operate_ok operated
    rw [single] at applied
    have moved := Batches.foldlM_single.1 applied
    have change := apply_changes (applyOperation_ok moved)
    have start : AllAccounted { state.snapshot with seq := state.snapshot.seq + 1 } :=
      sound.accounted
    have facts : SameFacts after next := by
      subst same
      exact sameFacts_published ⟨rfl, rfl, rfl, rfl, rfl, rfl, rfl, rfl⟩
    rw [occupied_same facts]
    have added := occupied_changes start change
    exact added
  have moved := claims_proceeds sound step (by omega)
  have after := publishes_seq step
  refine ⟨moved.accounted, moved.bounded, moved.prepared, ?_, ?_⟩
  · intro other member
    rcases List.mem_cons.1 member with same | before
    · subst same
      show other.observed.seq < next.seq
      omega
    · exact moved.obtained other before
  · refine List.Pairwise.cons ?_ sound.distinct
    intro other member
    have before := sound.obtained other member
    omega

theorem claims_step (step : ClaimStep codec capacity state later) : ClaimsSound capacity later := by
  cases step with
  | prepares run =>
    obtain ⟨seq, room, work, candidate, same⟩ := prepareReadyClaim_ok run
    subst same
    exact claims_prepares sound ⟨seq.symm, ⟨_, _, rfl⟩, le_of_eq seq, fun _ => room⟩
  | publishes known fresh run => exact claims_publishes sound known fresh run
  | repeats _ _ => exact sound
  | proceeds idle step =>
    have fewer := occupied_publishes sound.accounted step idle
    exact claims_proceeds sound step (le_trans fewer sound.bounded)

end

theorem claims_sound (run : ClaimRun codec capacity (ClaimState.initial binding) state) :
    ClaimsSound capacity state := by
  induction run with
  | refl => exact claims_start binding
  | tail _ step sound => exact claims_step sound step

/-- However the claimants interleave, the holders stay within the capacity, and no two
    published claims were prepared from the same snapshot. -/
theorem claims_within_capacity {binding : ScopeBinding}
    (run : ClaimRun codec capacity (ClaimState.initial binding) state) :
    occupied state.snapshot ≤ capacity ∧
      state.obtained.Pairwise (fun a b => a.observed ≠ b.observed) := by
  have sound := claims_sound run
  refine ⟨sound.bounded, sound.distinct.imp ?_⟩
  intro a b different same
  exact different (by rw [same])

/-- One Ready Work, and the Start that a claimant of capacity one prepares for it. -/
def Sample.oneReady : Snapshot :=
  Sample.reached [.command "a" Sample.supervisor
    [.create "x" .work none (Sample.contract "first") SortedSet.empty, .ready "x"]]

def Sample.claim : Claim :=
  ⟨⟨"commit", 1, 0⟩, scriptCommand Sample.oneReady "claim" [.start "a0" "assignment" none]⟩

theorem claims_within_capacity_one :
    ∃ state, ClaimRun Sample.codec 1 (ClaimState.initial Sample.binding) state ∧
      state.obtained = [Sample.claim] ∧ occupied state.snapshot ≤ 1 ∧
      state.obtained.Pairwise (fun a b => a.observed ≠ b.observed) := by
  have readied : (play Sample.codec Sample.files (Snapshot.empty Sample.binding)
      (.command "a" Sample.supervisor
        [.create "x" .work none (Sample.contract "first") SortedSet.empty, .ready "x"])) =
      some Sample.oneReady := rfl
  have idle : StartsNothing (.operated Sample.files Sample.supervisor
      (stamped (identifiers "a") 0
        [.create "x" .work none (Sample.contract "first") SortedSet.empty, .ready "x"])) := by
    intro workId tempId workspace uuid member
    simp [stamped] at member
  have prepared : prepareReadyClaim "commit" Sample.oneReady Sample.supervisor ⟨"commit", 1, 0⟩
      "claim" [⟨"a0", none⟩] 1 = .ok (.prepared Sample.claim.command) := rfl
  have played : (play Sample.codec Sample.files Sample.oneReady
      (.command "claim" Sample.supervisor [.start "a0" "assignment" none])).isSome = true := by
    decide
  obtain ⟨next, started⟩ := Option.isSome_iff_exists.mp played
  obtain ⟨fresh, receipt, executed⟩ := play_command started
  have claimed : ClaimRun Sample.codec 1 (ClaimState.initial Sample.binding)
      ⟨Sample.oneReady, [Sample.claim], []⟩ :=
    (Relation.ReflTransGen.refl.tail (.proceeds idle (play_publishes readied))).tail
      (.prepares prepared)
  have known : Sample.claim ∈ [Sample.claim] := List.mem_singleton.mpr rfl
  have run : ClaimRun Sample.codec 1 (ClaimState.initial Sample.binding)
      ⟨next, [Sample.claim], [Sample.claim]⟩ := claimed.tail (.publishes known fresh executed)
  have safe := claims_within_capacity run
  exact ⟨_, run, rfl, safe.1, safe.2⟩

end Tickets
