import BambooAgent.ProviderTranscripts.Loading

/- What a replay hands to a provider: groups of the requested route and of the current epoch, and
   none from before a switch. -/
namespace ProviderTranscripts
open List hiding after
open Checks

variable {state : ProviderTranscriptState}

def Same (group held : ProviderTranscriptGroup) : Prop :=
  ∃ sequence, group = { held with sequence }

theorem Same.refl (group : ProviderTranscriptGroup) : Same group group := ⟨group.sequence, rfl⟩

theorem Same.trans (left : Same first second) (right : Same second third) : Same first third := by
  obtain ⟨sequence, rfl⟩ := left
  obtain ⟨_, rfl⟩ := right
  exact ⟨sequence, rfl⟩

theorem Same.epoch (same : Same group held) : group.epoch = held.epoch := by
  obtain ⟨_, rfl⟩ := same
  rfl

def Parts (state : ProviderTranscriptState) : Call → Prop
  | .activate family protocol boundary => protocol.supportsFamily family = true ∧
      isSha256Hex boundary = true ∧ ¬ state.hasRoute family protocol boundary ∧
      state.isSwitch = true
  | .deactivate => ¬ (state.activeFamily.isNone && state.activeProtocol.isNone &&
      state.activeProviderBoundarySha256.isNone) = true
  | .invalidate _ count => ¬ (count = 0 ∨ state.isEmpty = true)
  | .append _ _ | .prune _ | .merge _ _ => False

/-- How many epochs a parting moves on. -/
def Call.epochs : Call → Nat
  | invalidate _ count => count
  | _ => 1

/-- There is an epoch left to part to. -/
def unspent (state : ProviderTranscriptState) (call : Call) : Prop :=
  Parts state call → state.epoch + call.epochs ≤ u64Max

/- What a call does to the groups. -/

/-- The call has appended the group, under its route and in the epoch of the time. -/
def AppendedBy (rules : Rules) (group : ProviderTranscriptGroup) (state : ProviderTranscriptState)
    (call : Call) : Prop :=
  call = .append group.anchorMessageId group.items ∧ group.epoch = state.epoch ∧
    (call.run rules state).hasRoute group.family group.protocol group.providerBoundarySha256

def SnapshotBy (group : ProviderTranscriptGroup) (call : Call) : Prop :=
  ∃ durable order, call = .merge durable order ∧ ∃ held ∈ durable.groups, Same group held

theorem append_shape {id : String} (run : state.appendGroup rules anchor items = .ok (id, after)) :
    after = state ∨ ∃ group, after.groups = state.groups ++ [group] ∧
      after.epoch = state.epoch ∧ group.epoch = state.epoch ∧ group.anchorMessageId = anchor ∧
      group.items = items ∧
      after.hasRoute group.family group.protocol group.providerBoundarySha256 := by
  cases items with
  | nil => cases run
  | cons first rest =>
    obtain ⟨⟨boundary, unbound⟩, routed, run⟩ := bind_eq_ok.1 run
    obtain ⟨group, built, run⟩ := bind_eq_ok.1 run
    split at run
    · split at run
      · cases run
        exact .inl rfl
      · cases run
    · cases run
      obtain ⟨epoch, _, anchored, sameBoundary, sameItems, _, _, same, family, protocol⟩ :=
        new_shape built
      cases same
      refine .inr ⟨group, ?_⟩
      rcases routeOf_eq_ok routed with ⟨rfl, route⟩ | ⟨rfl, _⟩
      · refine ⟨rfl, rfl, epoch, anchored, sameItems, ?_⟩
        rw [family, protocol, sameBoundary]
        exact route
      · refine ⟨rfl, rfl, epoch, anchored, sameItems, ?_⟩
        rw [family, protocol, sameBoundary]
        exact ⟨rfl, rfl, rfl⟩

theorem prune_groups (live : List String) : (state.pruneDanglingGroups live).groups =
    state.groups.filter (fun group => decide (group.anchorMessageId ∈ live)) := by
  unfold ProviderTranscriptState.pruneDanglingGroups
  dsimp only
  split
  · rfl
  · rfl

theorem prune_epoch (live : List String) :
    (state.pruneDanglingGroups live).epoch = state.epoch := by
  unfold ProviderTranscriptState.pruneDanglingGroups
  dsimp only
  split
  · rfl
  · rfl

theorem gather_added
    (member : added ∈ (ProviderTranscriptState.gather winner live gathered group).added) :
    added ∈ gathered.added ∨ added = group ∧ group.epoch ≤ winner.epoch := by
  unfold ProviderTranscriptState.gather at member
  split at member
  · split at member
    · exact .inl member
    · split at member
      · exact .inl member
      · rename_i past
        rcases mem_append.1 member with earlier | pushed
        · exact .inl earlier
        · exact .inr ⟨mem_singleton.1 pushed, Nat.le_of_not_lt past⟩
  · exact .inl member

theorem gathered_added :
    ∀ {groups : List ProviderTranscriptGroup} {gathered : ProviderTranscriptState.Gathered},
    added ∈ (groups.foldl (ProviderTranscriptState.gather winner live) gathered).added →
    added ∈ gathered.added ∨ added ∈ groups ∧ added.epoch ≤ winner.epoch := by
  intro groups
  induction groups with
  | nil => exact fun member => .inl member
  | cons group rest ih =>
    intro gathered member
    rcases ih member with scanned | ⟨later, past⟩
    · rcases gather_added scanned with earlier | ⟨rfl, past⟩
      · exact .inl earlier
      · exact .inr ⟨mem_cons_self, past⟩
    · exact .inr ⟨mem_cons_of_mem _ later, past⟩

theorem merge_shape (durable : ProviderTranscriptState) (order : List String) :
    ∃ winner, (winner = durable ∨ winner = state) ∧
      winner.epoch = max state.epoch durable.epoch ∧
      (state.mergeDurablePrefix durable order).2.epoch = winner.epoch ∧
      ∀ group ∈ (state.mergeDurablePrefix durable order).2.groups, ∃ held, Same group held ∧
        (held ∈ winner.groups ∨
          (held ∈ durable.groups ∨ held ∈ state.groups) ∧ held.epoch ≤ winner.epoch) := by
  unfold ProviderTranscriptState.mergeDurablePrefix
  dsimp only
  generalize chosen : (if state.epoch < durable.epoch ∨
    durable.epoch = state.epoch ∧ state.stateRevision ≤ durable.stateRevision then durable
    else state) = winner
  have won : (winner = durable ∨ winner = state) ∧
      winner.epoch = max state.epoch durable.epoch := by
    rw [← chosen]
    split
    · exact ⟨.inl rfl, by omega⟩
    · exact ⟨.inr rfl, by omega⟩
  generalize scan : (durable.groups ++ state.groups).foldl
    (ProviderTranscriptState.gather winner order)
    { seen := winner.groups.map (fun group => group.id), added := [] } = gathered
  generalize pruning : ProviderTranscriptState.pruneDanglingGroups
    { winner with groups := winner.groups ++ gathered.added } order = pruned
  have epoch : pruned.epoch = winner.epoch := by
    rw [← pruning]
    exact prune_epoch order
  have groups : ∀ group ∈ (pruned.normalize order).groups, ∃ held, Same group held ∧
      (held ∈ winner.groups ∨
        (held ∈ durable.groups ∨ held ∈ state.groups) ∧ held.epoch ≤ winner.epoch) := by
    intro group member
    obtain ⟨held, kept, same⟩ := mem_normalize member
    rw [← pruning, prune_groups] at kept
    refine ⟨held, same, ?_⟩
    rcases mem_append.1 (mem_filter.1 kept).1 with winning | added
    · exact .inl winning
    · rw [← scan] at added
      rcases gathered_added added with impossible | ⟨listed, past⟩
      · exact absurd impossible not_mem_nil
      · exact .inr ⟨mem_append.1 listed, past⟩
  refine ⟨winner, won.1, won.2, ?_⟩
  split
  · exact ⟨epoch, groups⟩
  · exact ⟨epoch, groups⟩

theorem activate_shape (run : state.activateRoute family protocol boundary = .ok (changed, after)) :
    after.groups = state.groups ∧
      (Parts state (.activate family protocol boundary) ∧
          after.epoch = saturatingAdd state.epoch 1 ∨
        ¬ Parts state (.activate family protocol boundary) ∧ after.epoch = state.epoch) := by
  obtain ⟨_, supported, run⟩ := bind_eq_ok.1 run
  obtain ⟨_, hex, run⟩ := bind_eq_ok.1 run
  have supported := eq_true_of_ne_false (refuse_eq_ok.1 supported)
  have hex := eq_true_of_ne_false (refuse_eq_ok.1 hex)
  split at run
  · rename_i same
    cases run
    exact ⟨rfl, .inr ⟨fun parts => parts.2.2.1 same, rfl⟩⟩
  · rename_i other
    cases run
    by_cases switch : state.isSwitch = true
    · rw [if_pos switch]
      exact ⟨rfl, .inl ⟨⟨supported, hex, other, switch⟩, rfl⟩⟩
    · rw [if_neg switch]
      exact ⟨rfl, .inr ⟨fun parts => switch parts.2.2.2, rfl⟩⟩

theorem activate_refused (run : state.activateRoute family protocol boundary = .error error) :
    ¬ Parts state (.activate family protocol boundary) := by
  rintro ⟨supported, hex, other, _⟩
  unfold ProviderTranscriptState.activateRoute at run
  rw [supported, hex, if_neg other] at run
  cases run

theorem call_epoch (call : Call) :
    Parts state call ∧
        (call.run rules state).epoch = saturatingAdd state.epoch call.epochs ∨
      ¬ Parts state call ∧ state.epoch ≤ (call.run rules state).epoch := by
  cases call with
  | activate family protocol boundary =>
    unfold Call.run
    dsimp only
    split
    · rename_i run
      rcases (activate_shape run).2 with ⟨parts, epoch⟩ | ⟨stays, epoch⟩
      · exact .inl ⟨parts, epoch⟩
      · exact .inr ⟨stays, le_of_eq epoch.symm⟩
    · rename_i refused
      exact .inr ⟨activate_refused refused, le_rfl⟩
  | deactivate =>
    unfold Call.run Parts ProviderTranscriptState.deactivateRoute
    dsimp only
    split
    · rename_i inactive
      exact .inr ⟨not_not.2 inactive, le_rfl⟩
    · rename_i active
      exact .inl ⟨active, rfl⟩
  | invalidate reason count =>
    unfold Call.run Parts ProviderTranscriptState.invalidateRepeated
    dsimp only
    split
    · rename_i nothing
      exact .inr ⟨not_not.2 nothing, le_rfl⟩
    · rename_i something
      exact .inl ⟨something, rfl⟩
  | append anchor items =>
    refine .inr ⟨id, ?_⟩
    unfold Call.run
    dsimp only
    split
    · rename_i run
      rcases append_shape run with rfl | ⟨_, _, epoch, _⟩
      · exact le_rfl
      · exact le_of_eq epoch.symm
    · exact le_rfl
  | prune live => exact .inr ⟨id, le_of_eq (prune_epoch live).symm⟩
  | merge durable order =>
    refine .inr ⟨id, ?_⟩
    obtain ⟨winner, _, later, epoch, _⟩ := merge_shape durable order
    unfold Call.run
    rw [epoch, later]
    exact le_max_left _ _

theorem call_held (member : group ∈ (call.run rules state).groups) :
    (∃ held ∈ state.groups, Same group held) ∨ AppendedBy rules group state call ∨
      SnapshotBy group call := by
  have kept : group ∈ state.groups → (∃ held ∈ state.groups, Same group held) ∨
      AppendedBy rules group state call ∨ SnapshotBy group call :=
    fun held => .inl ⟨group, held, .refl group⟩
  cases call with
  | activate family protocol boundary =>
    unfold Call.run at member
    dsimp only at member
    split at member
    · rename_i run
      rw [(activate_shape run).1] at member
      exact kept member
    · exact kept member
  | deactivate =>
    unfold Call.run ProviderTranscriptState.deactivateRoute at member
    dsimp only at member
    split at member
    · exact kept member
    · exact kept member
  | invalidate reason count =>
    unfold Call.run ProviderTranscriptState.invalidateRepeated at member
    dsimp only at member
    split at member
    · exact kept member
    · exact kept member
  | append anchor items =>
    cases run : state.appendGroup rules anchor items with
    | error error =>
      unfold Call.run at member
      dsimp only at member
      rw [run] at member
      exact kept member
    | ok result =>
      obtain ⟨id, after⟩ := result
      have ran : (Call.append anchor items).run rules state = after := by
        unfold Call.run
        dsimp only
        rw [run]
      rw [ran] at member
      rcases append_shape run with rfl | ⟨pushed, groups, _, epoch, rfl, rfl, route⟩
      · exact kept member
      · rw [groups] at member
        rcases mem_append.1 member with old | new
        · exact kept old
        · cases mem_singleton.1 new
          exact .inr (.inl ⟨rfl, epoch, by rw [ran]; exact route⟩)
  | prune live =>
    unfold Call.run at member
    rw [prune_groups] at member
    exact kept (mem_filter.1 member).1
  | merge durable order =>
    obtain ⟨winner, won, _, _, held⟩ := merge_shape durable order
    obtain ⟨before, same, origin⟩ := held group member
    have either : before ∈ durable.groups ∨ before ∈ state.groups := by
      rcases origin with winning | ⟨added, _⟩
      · rcases won with rfl | rfl
        · exact .inl winning
        · exact .inr winning
      · exact added
    rcases either with durably | lively
    · exact .inr (.inr ⟨durable, order, rfl, before, durably, same⟩)
    · exact .inl ⟨before, lively, same⟩

/-- No group is ahead of its transcript. -/
def Behind (state : ProviderTranscriptState) : Prop :=
  ∀ group ∈ state.groups, group.epoch ≤ state.epoch

theorem call_onward (may : unspent state call) : state.epoch ≤ (call.run rules state).epoch := by
  rcases call_epoch call with ⟨parts, epoch⟩ | ⟨_, onward⟩
  · rw [epoch, saturatingAdd_room (may parts)]
    exact Nat.le_add_right _ _
  · exact onward

theorem call_parts (may : unspent state call) (parts : Parts state call) :
    state.epoch < (call.run rules state).epoch := by
  rcases call_epoch call with ⟨_, epoch⟩ | ⟨stays, _⟩
  · rw [epoch, saturatingAdd_room (may parts)]
    apply Nat.lt_add_of_pos_right
    cases call with
    | invalidate reason count => exact Nat.pos_of_ne_zero (fun none => parts (.inl none))
    | activate | deactivate | append | prune | merge => exact Nat.one_pos
  · exact absurd parts stays

theorem call_behind (behind : Behind state) (wellFormed : call.WellFormed rules)
    (may : unspent state call) : Behind (call.run rules state) := by
  intro group member
  have onward : state.epoch ≤ (call.run rules state).epoch := call_onward may
  rcases call_held member with ⟨held, old, same⟩ | ⟨_, epoch, _⟩ | ⟨durable, order, rfl, held, old, same⟩
  · rw [same.epoch]
    exact le_trans (behind held old) onward
  · rw [epoch]
    exact onward
  · obtain ⟨wire, loads⟩ := wellFormed
    obtain ⟨winner, _, later, epoch, _⟩ := merge_shape durable order
    unfold Call.run
    rw [same.epoch, epoch, later]
    exact le_trans ((sound_of_loads loads).past held old) (le_max_right _ _)

/- Histories. -/

theorem history_cut (history : History rules permitted past state)
    (cut : past = before ++ (found, call) :: later) :
    History rules permitted before found ∧ call.WellFormed rules ∧ permitted found call := by
  induction history generalizing later with
  | start => exact absurd cut.symm (by simp)
  | step earlier wellFormed may ih =>
    rcases eq_nil_or_concat later with rfl | ⟨shorter, last, rfl⟩
    · obtain ⟨rfl, ends⟩ := append_inj' cut rfl
      cases ends
      exact ⟨earlier, wellFormed, may⟩
    · rw [concat_eq_append, ← cons_append, ← append_assoc] at cut
      exact ih (append_inj' cut rfl).1

section
variable (history : History rules unspent past state)
include history

theorem history_behind : Behind state := by
  induction history with
  | start => exact fun _ impossible => absurd impossible not_mem_nil
  | step _ wellFormed may ih => exact call_behind ih wellFormed may

theorem history_onward : ∀ earlier ∈ past, earlier.1.epoch ≤ state.epoch := by
  induction history with
  | start => exact fun _ impossible => absurd impossible not_mem_nil
  | step _ _ may ih =>
    apply forall_pushed
    · exact fun earlier member => le_trans (ih earlier member) (call_onward may)
    · exact call_onward may

theorem history_parted (cut : past = before ++ (parted, parting) :: later)
    (parts : Parts parted parting) : parted.epoch < state.epoch := by
  induction history generalizing later with
  | start => exact absurd cut.symm (by simp)
  | step earlier wellFormed may ih =>
    rcases eq_nil_or_concat later with rfl | ⟨shorter, last, rfl⟩
    · obtain ⟨rfl, ends⟩ := append_inj' cut rfl
      cases ends
      exact call_parts may parts
    · rw [concat_eq_append, ← cons_append, ← append_assoc] at cut
      exact lt_of_lt_of_le (ih (append_inj' cut rfl).1) (call_onward may)

end

theorem history_held (history : History rules permitted past state) :
    ∀ group ∈ state.groups, ∃ call ∈ past, ∃ held, Same group held ∧
      (AppendedBy rules held call.1 call.2 ∨ SnapshotBy held call.2) := by
  induction history with
  | start => exact fun _ impossible => absurd impossible not_mem_nil
  | @step past state call _ _ _ ih =>
    intro group member
    rcases call_held member with ⟨held, old, same⟩ | brought
    · obtain ⟨earlier, listed, first, like, origin⟩ := ih held old
      exact ⟨earlier, mem_append_left _ listed, first, same.trans like, origin⟩
    · exact ⟨(state, call), mem_append_right _ mem_cons_self, group, .refl group, brought⟩

/- Replays. -/

theorem mem_replayableGroups :
    group ∈ state.replayableGroups family protocol boundary ↔
      (state.hasRoute family protocol boundary ∧ protocol.supportsFamily family = true) ∧
      group ∈ state.groups ∧ group.epoch = state.epoch ∧ group.family = family ∧
      group.protocol = protocol ∧ group.providerBoundarySha256 = boundary := by
  unfold ProviderTranscriptState.replayableGroups
  split
  · rename_i foreign
    simp only [not_mem_nil, false_iff]
    rintro ⟨⟨route, supported⟩, _⟩
    rcases foreign with other | unsupported
    · exact other route
    · rw [supported] at unsupported
      cases unsupported
  · rename_i own
    push Not at own
    simp [own.1, eq_true_of_ne_false own.2, and_assoc]

/-- What is replayed on a route has come in under it, in the epoch that is current. -/
def OwnRoute (rules : Rules) (past : List (ProviderTranscriptState × Call))
    (state : ProviderTranscriptState) : Prop :=
  ∀ family protocol boundary, ∀ group ∈ state.replayableGroups family protocol boundary,
    group.family = family ∧ group.protocol = protocol ∧
      group.providerBoundarySha256 = boundary ∧ group.epoch = state.epoch ∧
      ∃ call ∈ past, ∃ held, Same group held ∧
        (AppendedBy rules held call.1 call.2 ∨ SnapshotBy held call.2)

/-- What was there when the route was left, or before, is not replayed again. -/
def NeverReturns (past : List (ProviderTranscriptState × Call))
    (state : ProviderTranscriptState) : Prop :=
  ∀ before parted parting later, past = before ++ (parted, parting) :: later →
    Parts parted parting → ∀ earlier ∈ before ++ [(parted, parting)],
    ∀ group ∈ earlier.1.groups, ∀ family protocol boundary,
    ∀ replayed ∈ state.replayableGroups family protocol boundary, ¬ Same replayed group

theorem own_route (history : History rules permitted past state) : OwnRoute rules past state := by
  intro family protocol boundary group member
  obtain ⟨_, held, epoch, sameFamily, sameProtocol, sameBoundary⟩ := mem_replayableGroups.1 member
  exact ⟨sameFamily, sameProtocol, sameBoundary, epoch, history_held history group held⟩

theorem never_returns (history : History rules unspent past state) : NeverReturns past state := by
  intro before parted parting later cut parts earlier listed group held family protocol boundary
    replayed member same
  obtain ⟨_, _, current, _⟩ := mem_replayableGroups.1 member
  have beyond := history_parted history cut parts
  have cutHere := history_cut history cut
  have old : group.epoch ≤ parted.epoch := by
    rcases mem_append.1 listed with previous | last
    · obtain ⟨first, second, split⟩ := append_of_mem previous
      have behind := history_behind (history_cut cutHere.1 split).1
      exact le_trans (behind group held) (history_onward cutHere.1 earlier previous)
    · cases mem_singleton.1 last
      exact history_behind cutHere.1 group held
  rw [same.epoch] at current
  exact absurd (lt_of_le_of_lt old beyond) (not_lt.2 (le_of_eq current.symm))

/-- What is replayed is of the route that asks for it, whatever has happened, and never from before
    a parting where every parting has an epoch left to go to. -/
theorem replays_stay_on_their_route (rules : Rules)
    (past : List (ProviderTranscriptState × Call)) (state : ProviderTranscriptState) :
    (∀ permitted, History rules permitted past state → OwnRoute rules past state) ∧
      (History rules unspent past state → NeverReturns past state) :=
  ⟨fun _ history => own_route history, never_returns⟩

def otherBoundary : String := String.ofList (List.replicate 64 'f')

/-- A group is appended, the route is left, and the transcript returns to it. -/
def thereAndBack (state : ProviderTranscriptState) : List (ProviderTranscriptState × Call) :=
  let appended := (Call.append "m" [search]).run plainRules state
  let left : Call := .activate .openAi .openAiResponsesV1 otherBoundary
  let back : Call := .activate .openAi .openAiResponsesV1 plainRules.unboundProviderBoundarySha256
  [(state, .append "m" [search]), (appended, left), (left.run plainRules appended, back)]

def returned (state : ProviderTranscriptState) : ProviderTranscriptState :=
  (Call.activate .openAi .openAiResponsesV1 plainRules.unboundProviderBoundarySha256).run plainRules
    ((Call.activate .openAi .openAiResponsesV1 otherBoundary).run plainRules
      ((Call.append "m" [search]).run plainRules state))

theorem search_admitted : Call.WellFormed plainRules (.append "m" [search]) := by
  intro item member
  cases mem_singleton.1 member
  rfl

theorem activate_wellFormed (family : ProviderFamily) (protocol : ProviderProtocol)
    (boundary : String) : Call.WellFormed plainRules (.activate family protocol boundary) := trivial

theorem thereAndBack_history (history : History plainRules permitted past state)
    (may : ∀ call ∈ thereAndBack state, permitted call.1 call.2) :
    History plainRules permitted (past ++ thereAndBack state) (returned state) := by
  have first := history.step search_admitted (may _ mem_cons_self)
  have second := first.step (activate_wellFormed _ _ _)
    (may _ (mem_cons_of_mem _ mem_cons_self))
  have third := second.step (activate_wellFormed _ _ _)
    (may _ (mem_cons_of_mem _ (mem_cons_of_mem _ mem_cons_self)))
  rw [append_assoc, append_assoc] at third
  exact third

theorem search_stays_away : NeverReturns (thereAndBack .default) (returned .default) := by
  refine (replays_stay_on_their_route plainRules _ _).2 ?_
  refine thereAndBack_history .start ?_
  have low : ∀ call ∈ thereAndBack .default, call.1.epoch + call.2.epochs ≤ 3 := by decide +kernel
  exact fun call member _ => Nat.le_trans (low call member) (by decide)

/-- A snapshot in the last epoch there is. -/
def spent : ProviderTranscriptState := { ProviderTranscriptState.default with epoch := u64Max }

theorem search_returns : ¬ ∀ (rules : Rules) (past : List (ProviderTranscriptState × Call))
    (state : ProviderTranscriptState), History rules (fun _ _ => True) past state →
      OwnRoute rules past state ∧ NeverReturns past state := by
  intro always
  have loads : Call.WellFormed plainRules (.merge spent []) :=
    ⟨serialize spent, loads_of_sound (sound_parted sound_default (by decide) rfl rfl
      (.inl ⟨rfl, rfl, rfl⟩))⟩
  let start := (Call.merge spent []).run plainRules .default
  have merged : History plainRules (fun _ _ => True) [(.default, .merge spent [])] start :=
    .step .start loads trivial
  have history := thereAndBack_history merged (fun _ _ => trivial)
  have never := (always plainRules _ _ history).2
  let appended := (Call.append "m" [search]).run plainRules start
  let leave : Call := .activate .openAi .openAiResponsesV1 otherBoundary
  have parts : Parts appended leave := by
    refine ⟨rfl, ?_, ?_, ?_⟩
    all_goals decide +kernel
  have comesBack : ∃ group ∈ appended.groups,
      group ∈ (returned start).replayableGroups .openAi .openAiResponsesV1
        plainRules.unboundProviderBoundarySha256 := by
    decide +kernel
  obtain ⟨group, held, replayed⟩ := comesBack
  exact never [(.default, .merge spent []), (start, .append "m" [search])] appended leave _ rfl
    parts (appended, leave) (by simp) group held _ _ _ group replayed (.refl group)

end ProviderTranscripts
