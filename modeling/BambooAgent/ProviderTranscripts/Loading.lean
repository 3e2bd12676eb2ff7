import Mathlib.Data.List.Nodup
import BambooAgent.ProviderTranscripts.State

/- What the decoder asks of a transcript, and that every history keeps it. -/
namespace ProviderTranscripts
open List hiding after count
open Checks

variable {rules : Rules} {state : ProviderTranscriptState}

/-- The active route: none at all, or a whole one. -/
def Routed (state : ProviderTranscriptState) : Prop :=
  (state.activeFamily = none ∧ state.activeProtocol = none ∧
    state.activeProviderBoundarySha256 = none) ∨
  ∃ family protocol boundary, state.hasRoute family protocol boundary ∧
    protocol.supportsFamily family = true ∧ isSha256Hex boundary = true

def currentGroups (state : ProviderTranscriptState) : List ProviderTranscriptGroup :=
  state.groups.filter (fun group => decide (group.epoch = state.epoch))

/-- A transcript that is in order but for the positions in its epoch. -/
structure Composed (rules : Rules) (state : ProviderTranscriptState) : Prop where
  schema : state.schemaVersion = providerTranscriptSchemaVersion
  routed : Routed state
  admitted : ∀ group ∈ state.groups, group.Admitted rules
  ids : (state.groups.map (fun group => group.id)).Nodup
  past : ∀ group ∈ state.groups, group.epoch ≤ state.epoch
  route : ∀ group ∈ state.groups, group.epoch = state.epoch →
    state.hasRoute group.family group.protocol group.providerBoundarySha256

/-- A transcript that can be loaded again. -/
structure Sound (rules : Rules) (state : ProviderTranscriptState) : Prop
    extends Composed rules state where
  sequences : ((currentGroups state).map (fun group => group.sequence)).Nodup
  below : ∀ group ∈ currentGroups state, group.sequence < state.nextSequence

variable {group : ProviderTranscriptGroup}

theorem mem_currentGroups :
    group ∈ currentGroups state ↔ group ∈ state.groups ∧ group.epoch = state.epoch := by
  unfold currentGroups
  rw [mem_filter, decide_eq_true_eq]

/-- The scan of the current epoch passes when every group is of the route and at a new
    position; what it returns is the largest of them. -/
theorem checkCurrent_eq_ok :
    ∀ {groups : List ProviderTranscriptGroup} {sequences : List Nat} {largest last : Option Nat},
    checkCurrent wire groups sequences largest = .ok last ↔
      (∀ group ∈ groups, wire.activeFamily = some group.family ∧
        wire.activeProtocol = some group.protocol ∧
        wire.activeProviderBoundarySha256 = some group.providerBoundarySha256 ∧
        group.sequence ∉ sequences) ∧
      (groups.map (fun group => group.sequence)).Nodup ∧
      last = groups.foldl (fun largest group =>
        some (largest.elim group.sequence (fun current => max current group.sequence)))
        largest := by
  intro groups
  induction groups with
  | nil =>
    intro sequences largest last
    constructor
    · intro run
      cases run
      exact ⟨(fun _ impossible => nomatch impossible), nodup_nil, rfl⟩
    · rintro ⟨_, _, rfl⟩
      rfl
  | cons group rest ih =>
    intro sequences largest last
    rw [map_cons, nodup_cons]
    constructor
    · intro run
      obtain ⟨_, family, run⟩ := bind_eq_ok.1 run
      obtain ⟨_, protocol, run⟩ := bind_eq_ok.1 run
      obtain ⟨_, boundary, run⟩ := bind_eq_ok.1 run
      obtain ⟨_, fresh, run⟩ := bind_eq_ok.1 run
      obtain ⟨others, nodup, found⟩ := ih.1 run
      refine ⟨?_, ⟨?_, nodup⟩, found⟩
      · intro other member
        rcases mem_cons.1 member with rfl | further
        · exact ⟨not_not.1 (refuse_eq_ok.1 family), not_not.1 (refuse_eq_ok.1 protocol),
            not_not.1 (refuse_eq_ok.1 boundary), refuse_eq_ok.1 fresh⟩
        · obtain ⟨family', protocol', boundary', unseen⟩ := others other further
          exact ⟨family', protocol', boundary', fun seen => unseen (mem_cons_of_mem _ seen)⟩
      · intro repeated
        obtain ⟨other, member, same⟩ := mem_map.1 repeated
        refine (others other member).2.2.2 ?_
        rw [same]
        exact mem_cons_self
    · rintro ⟨every, ⟨fresh, nodup⟩, found⟩
      obtain ⟨family, protocol, boundary, unseen⟩ := every group mem_cons_self
      refine bind_eq_ok.2 ⟨(), refuse_neg (not_not.2 family), bind_eq_ok.2 ⟨(),
        refuse_neg (not_not.2 protocol), bind_eq_ok.2 ⟨(), refuse_neg (not_not.2 boundary),
        bind_eq_ok.2 ⟨(), refuse_neg unseen, ih.2 ⟨?_, nodup, found⟩⟩⟩⟩⟩
      intro other member
      obtain ⟨family', protocol', boundary', unseen'⟩ :=
        every other (mem_cons_of_mem _ member)
      refine ⟨family', protocol', boundary', ?_⟩
      intro seen
      rcases mem_cons.1 seen with same | earlier
      · exact fresh (mem_map.2 ⟨other, member, same⟩)
      · exact unseen' earlier

theorem largest_reaches (groups : List ProviderTranscriptGroup) (largest : Option Nat)
    (bound : Nat) :
    (groups.foldl (fun largest group =>
        some (largest.elim group.sequence (fun current => max current group.sequence)))
        largest).any (fun sequence => decide (bound ≤ sequence)) = true ↔
      largest.any (fun sequence => decide (bound ≤ sequence)) = true ∨
        ∃ group ∈ groups, bound ≤ group.sequence := by
  induction groups generalizing largest with
  | nil => simp
  | cons group rest ih =>
    rw [foldl_cons, ih]
    cases largest with
    | none => simp
    | some current => simp [or_assoc]

/- Loading. -/

theorem route_checks {protocol : Option ProviderProtocol}
    :
    (¬ ([family.isSome, protocol.isSome, boundary.isSome].any id = true ∧
        [family.isSome, protocol.isSome, boundary.isSome].all id = false) ∧
      ¬ boundary.any (fun boundary => !isSha256Hex boundary) = true ∧
      ¬ family.any (fun family => protocol.any (fun protocol =>
        !protocol.supportsFamily family)) = true) ↔
    (family = none ∧ protocol = none ∧ boundary = none) ∨ ∃ family' protocol' boundary',
      (family = some family' ∧ protocol = some protocol' ∧ boundary = some boundary') ∧
        protocol'.supportsFamily family' = true ∧ isSha256Hex boundary' = true := by
  cases family <;> cases protocol <;> cases boundary <;> simp [and_comm]

theorem sound_of_loads (run : deserialize rules wire = .ok state) : Sound rules state := by
  obtain ⟨groups, decoded, run⟩ := bind_eq_ok.1 run
  obtain ⟨rfl, admitted⟩ := (mapM_same (fun _ _ => deserializeGroup_eq_ok)).1 decoded
  obtain ⟨version, schema, run⟩ := bind_eq_ok.1 run
  obtain ⟨_, whole, run⟩ := bind_eq_ok.1 run
  obtain ⟨_, hex, run⟩ := bind_eq_ok.1 run
  obtain ⟨_, supported, run⟩ := bind_eq_ok.1 run
  obtain ⟨_, ids, run⟩ := bind_eq_ok.1 run
  obtain ⟨_, past, run⟩ := bind_eq_ok.1 run
  obtain ⟨largest, scan, run⟩ := bind_eq_ok.1 run
  obtain ⟨_, below, run⟩ := bind_eq_ok.1 run
  cases run
  obtain ⟨every, sequences, rfl⟩ := checkCurrent_eq_ok.1 scan
  exact
    { schema := by
        unfold loadSchemaVersion at schema
        split at schema
        · split at schema
          · exact (Except.ok.inj schema).symm
          · cases schema
        · split at schema
          · exact (Except.ok.inj schema).symm
          · cases schema
      routed := route_checks.1 ⟨refuse_eq_ok.1 whole, refuse_eq_ok.1 hex,
        refuse_eq_ok.1 supported⟩
      admitted
      ids := not_not.1 (refuse_eq_ok.1 ids)
      past := by simpa using refuse_eq_ok.1 past
      route := by
        intro group member here
        obtain ⟨family, protocol, boundary, _⟩ := every group (mem_currentGroups.2 ⟨member, here⟩)
        exact ⟨family, protocol, boundary⟩
      sequences
      below := by
        have unreached := refuse_eq_ok.1 below
        rw [largest_reaches] at unreached
        push Not at unreached
        exact unreached.2 }

theorem loads_of_sound (sound : Sound rules state) :
    deserialize rules (serialize state) = .ok state := by
  obtain ⟨whole, hex, supported⟩ := route_checks.2 sound.routed
  have every : ∀ group ∈ currentGroups state, state.activeFamily = some group.family ∧
      state.activeProtocol = some group.protocol ∧
      state.activeProviderBoundarySha256 = some group.providerBoundarySha256 ∧
      group.sequence ∉ ([] : List Nat) := by
    intro group member
    obtain ⟨listed, here⟩ := mem_currentGroups.1 member
    obtain ⟨family, protocol, boundary⟩ := sound.route group listed here
    exact ⟨family, protocol, boundary, not_mem_nil⟩
  have scan : checkCurrent (serialize state) (currentGroups state) [] none = .ok _ :=
    checkCurrent_eq_ok.2 ⟨every, sound.sequences, rfl⟩
  refine bind_eq_ok.2 ⟨state.groups,
    (mapM_same (fun _ _ => deserializeGroup_eq_ok)).2 ⟨rfl, sound.admitted⟩,
    bind_eq_ok.2 ⟨providerTranscriptSchemaVersion, if_pos sound.schema, bind_eq_ok.2 ⟨(),
    refuse_neg whole, bind_eq_ok.2 ⟨(), refuse_neg hex, bind_eq_ok.2 ⟨(),
    refuse_neg supported, bind_eq_ok.2 ⟨(), refuse_neg (not_not.2 sound.ids),
    bind_eq_ok.2 ⟨(), refuse_neg ?_, bind_eq_ok.2 ⟨_, scan, bind_eq_ok.2 ⟨(),
    refuse_neg ?_, ?_⟩⟩⟩⟩⟩⟩⟩⟩⟩
  · intro future
    obtain ⟨group, member, later⟩ := any_eq_true.1 future
    exact absurd (of_decide_eq_true later) (not_lt.2 (sound.past group member))
  · rw [largest_reaches]
    push Not
    exact ⟨Bool.false_ne_true, sound.below⟩
  · rw [← sound.schema]
    rfl

/- The calls. -/

theorem sound_default : Sound rules .default :=
  { schema := rfl
    routed := .inl ⟨rfl, rfl, rfl⟩
    admitted := fun _ impossible => absurd impossible not_mem_nil
    ids := nodup_nil
    past := fun _ impossible => absurd impossible not_mem_nil
    route := fun _ impossible => absurd impossible not_mem_nil
    sequences := nodup_nil
    below := fun _ impossible => absurd impossible not_mem_nil }

theorem sound_parted (sound : Sound rules state) (later : state.epoch < parted.epoch)
    (groups : parted.groups = state.groups) (schema : parted.schemaVersion = state.schemaVersion)
    (routed : Routed parted) : Sound rules parted := by
  have earlier : ∀ group ∈ parted.groups, group.epoch < parted.epoch := by
    intro group member
    rw [groups] at member
    exact lt_of_le_of_lt (sound.past group member) later
  have empty : currentGroups parted = [] := by
    apply filter_eq_nil_iff.2
    intro group member here
    exact absurd (of_decide_eq_true here) (ne_of_lt (earlier group member))
  exact
    { schema := schema.trans sound.schema
      routed
      admitted := by rw [groups]; exact sound.admitted
      ids := by rw [groups]; exact sound.ids
      past := fun group member => le_of_lt (earlier group member)
      route := fun group member here => absurd here (ne_of_lt (earlier group member))
      sequences := by rw [empty]; exact nodup_nil
      below := fun group member => by rw [empty] at member; cases member }

theorem saturatingAdd_room (room : a + b ≤ u64Max) : saturatingAdd a b = a + b :=
  min_eq_left room

theorem routed_of (route : state.hasRoute family protocol boundary)
    (supported : protocol.supportsFamily family = true) (hex : isSha256Hex boundary = true) :
    Routed state := .inr ⟨family, protocol, boundary, route, supported, hex⟩

theorem isSwitch_false (quiet : state.isSwitch = false) : state.activeFamily = none ∧
    state.activeProtocol = none ∧ state.activeProviderBoundarySha256 = none ∧
    state.groups = [] := by
  simpa [ProviderTranscriptState.isSwitch, and_assoc] using quiet

theorem sound_activate (sound : Sound rules state) (room : state.epoch + 1 ≤ u64Max)
    (run : state.activateRoute family protocol boundary = .ok (changed, after)) :
    Sound rules after := by
  obtain ⟨_, supported, run⟩ := bind_eq_ok.1 run
  obtain ⟨_, hex, run⟩ := bind_eq_ok.1 run
  have supported := eq_true_of_ne_false (refuse_eq_ok.1 supported)
  have hex := eq_true_of_ne_false (refuse_eq_ok.1 hex)
  split at run
  · cases run
    exact sound
  · cases run
    by_cases switch : state.isSwitch = true
    · rw [if_pos switch]
      refine sound_parted sound ?_ rfl rfl (routed_of ⟨rfl, rfl, rfl⟩ supported hex)
      rw [saturatingAdd_room room]
      exact Nat.lt_succ_self _
    · rw [if_neg switch]
      obtain ⟨_, _, _, empty⟩ := isSwitch_false (eq_false_of_ne_true switch)
      have none : ∀ group : ProviderTranscriptGroup, group ∉ state.groups := by
        intro group member
        rw [empty] at member
        cases member
      exact
        { sound with
          routed := routed_of ⟨rfl, rfl, rfl⟩ supported hex
          route := fun group member => absurd member (none group) }

theorem sound_deactivate (sound : Sound rules state) (room : state.epoch + 1 ≤ u64Max) :
    Sound rules state.deactivateRoute.2 := by
  unfold ProviderTranscriptState.deactivateRoute
  split
  · exact sound
  · refine sound_parted sound ?_ rfl rfl (.inl ⟨rfl, rfl, rfl⟩)
    rw [saturatingAdd_room room]
    exact Nat.lt_succ_self _

theorem sound_invalidate (sound : Sound rules state) (room : state.epoch + count ≤ u64Max) :
    Sound rules (state.invalidateRepeated reason count) := by
  unfold ProviderTranscriptState.invalidateRepeated
  split
  · exact sound
  · rename_i counted
    push Not at counted
    refine sound_parted sound ?_ rfl rfl sound.routed
    rw [saturatingAdd_room room]
    exact Nat.lt_add_of_pos_right (Nat.pos_of_ne_zero counted.1)

theorem composed_kept {groups : List ProviderTranscriptGroup} (composed : Composed rules state)
    (kept : groups.Sublist state.groups) : Composed rules { state with groups } :=
  { schema := composed.schema
    routed := composed.routed
    admitted := fun group member => composed.admitted group (kept.subset member)
    ids := composed.ids.sublist (kept.map _)
    past := fun group member => composed.past group (kept.subset member)
    route := fun group member here => composed.route group (kept.subset member) here }

theorem composed_prune (composed : Composed rules state) :
    Composed rules (state.pruneDanglingGroups live) := by
  unfold ProviderTranscriptState.pruneDanglingGroups
  dsimp only
  split
  · exact { composed_kept composed filter_sublist with }
  · exact composed_kept composed filter_sublist

theorem sound_prune (sound : Sound rules state) : Sound rules (state.pruneDanglingGroups live) := by
  have kept : (state.groups.filter (fun group => decide (group.anchorMessageId ∈ live))).Sublist
    state.groups := filter_sublist
  have pruned : Sound rules { state with
      groups := state.groups.filter (fun group => decide (group.anchorMessageId ∈ live)) } :=
    { composed_kept sound.toComposed kept with
      sequences := sound.sequences.sublist ((kept.filter _).map _)
      below := fun group member => sound.below group ((kept.filter _).subset member) }
  unfold ProviderTranscriptState.pruneDanglingGroups
  dsimp only
  split
  · exact { pruned with }
  · exact pruned

/- Groups that come in. -/

theorem new_admitted {sequence : Nat} (admitted : ∀ item ∈ items, item.Admitted rules)
    (run : ProviderTranscriptGroup.new rules epoch sequence anchor boundary items = .ok group) :
    group.Admitted rules := by
  obtain ⟨sameEpoch, sameSequence, sameAnchor, sameBoundary, sameItems, _⟩ := new_shape run
  refine ⟨?_, ?_⟩
  · rw [sameItems]
    exact admitted
  · rw [sameEpoch, sameSequence, sameAnchor, sameBoundary, sameItems]
    exact run

theorem new_boundary {sequence : Nat}
    (run : ProviderTranscriptGroup.new rules epoch sequence anchor boundary items = .ok group) :
    isSha256Hex boundary = true := by
  obtain ⟨_, _, run⟩ := bind_eq_ok.1 run
  cases items with
  | nil => cases run
  | cons first rest =>
    obtain ⟨_, hex, _⟩ := bind_eq_ok.1 run
    exact eq_true_of_ne_false (refuse_eq_ok.1 hex)

/-- The position of a group is no part of its admission. -/
theorem admitted_resequenced (admitted : group.Admitted rules) (sequence : Nat) :
    ProviderTranscriptGroup.Admitted rules { group with sequence } := by
  refine ⟨admitted.items, ?_⟩
  have built := admitted.built
  obtain ⟨id, epoch, sequence', anchor, family, protocol, boundary, items⟩ := group
  dsimp only at built
  obtain ⟨_, anchored, built⟩ := bind_eq_ok.1 built
  refine bind_eq_ok.2 ⟨(), anchored, ?_⟩
  cases items with
  | nil => cases built
  | cons first rest =>
    obtain ⟨_, hex, built⟩ := bind_eq_ok.1 built
    obtain ⟨identity, valid, built⟩ := bind_eq_ok.1 built
    refine bind_eq_ok.2 ⟨(), hex, bind_eq_ok.2 ⟨identity, valid, ?_⟩⟩
    cases built
    rfl

theorem routeOf_eq_ok (run : state.routeOf rules family protocol = .ok (boundary, unbound)) :
    (unbound = false ∧ state.hasRoute family protocol boundary) ∨
      (unbound = true ∧ state.activeFamily = none) := by
  unfold ProviderTranscriptState.routeOf at run
  split at run
  · rename_i activeFamily activeProtocol activeBoundary familyIs protocolIs boundaryIs
    split at run
    · rename_i same
      cases run
      exact .inl ⟨rfl, by rw [familyIs, same.1], by rw [protocolIs, same.2], boundaryIs⟩
    · cases run
  · rename_i familyIs _ _
    cases run
    exact .inr ⟨rfl, familyIs⟩
  · cases run

theorem forall_pushed {α : Type} {items : List α} {item : α} {P : α → Prop}
    (old : ∀ other ∈ items, P other) (new : P item) : ∀ other ∈ items ++ [item], P other := by
  intro other member
  rcases mem_append.1 member with earlier | pushed
  · exact old other earlier
  · cases mem_singleton.1 pushed
    exact new

theorem nodup_pushed {α β : Type} {items : List α} {item : α} {field : α → β}
    (old : (items.map field).Nodup) (fresh : field item ∉ items.map field) :
    ((items ++ [item]).map field).Nodup := by
  rw [map_append, nodup_append]
  refine ⟨old, nodup_singleton _, ?_⟩
  rintro _ earlier _ pushed rfl
  cases mem_singleton.1 pushed
  exact fresh earlier

theorem sound_pushed (sound : Sound rules state) (admitted : group.Admitted rules)
    (unseen : group.id ∉ state.groups.map (fun group => group.id))
    (here : group.epoch = state.epoch) (last : group.sequence = state.nextSequence)
    (room : state.nextSequence + 1 ≤ u64Max)
    (route : state.hasRoute group.family group.protocol group.providerBoundarySha256) :
    Sound rules { state with
      groups := state.groups ++ [group]
      nextSequence := saturatingAdd state.nextSequence 1
      stateRevision := revision } := by
  have current : currentGroups { state with
      groups := state.groups ++ [group]
      nextSequence := saturatingAdd state.nextSequence 1
      stateRevision := revision } = currentGroups state ++ [group] := by
    unfold currentGroups
    simp [here]
  exact
    { schema := sound.schema
      routed := sound.routed
      admitted := forall_pushed sound.admitted admitted
      ids := nodup_pushed sound.ids unseen
      past := forall_pushed sound.past (le_of_eq here)
      route := forall_pushed sound.route (fun _ => route)
      sequences := by
        rw [current]
        apply nodup_pushed sound.sequences
        intro listed
        obtain ⟨other, member, same⟩ := mem_map.1 listed
        have below := sound.below other member
        rw [same, last] at below
        exact absurd below (lt_irrefl _)
      below := by
        rw [current]
        rw [saturatingAdd_room room]
        apply forall_pushed (fun other member => Nat.lt_succ_of_lt (sound.below other member))
        rw [last]
        exact Nat.lt_succ_self _ }

theorem sound_append {id : String} (sound : Sound rules state)
    (admitted : ∀ item ∈ items, item.Admitted rules) (room : state.nextSequence + 1 ≤ u64Max)
    (run : state.appendGroup rules anchor items = .ok (id, after)) : Sound rules after := by
  cases items with
  | nil => cases run
  | cons first rest =>
    obtain ⟨⟨boundary, unbound⟩, routed, run⟩ := bind_eq_ok.1 run
    obtain ⟨group, built, run⟩ := bind_eq_ok.1 run
    split at run
    · split at run
      · cases run
        exact sound
      · cases run
    · rename_i fresh
      cases run
      obtain ⟨epoch, sequence, _, sameBoundary, _, _, _, same, family, protocol⟩ := new_shape built
      cases same
      have supported := (tryFromPayload_shape (admitted first mem_cons_self)).2.2.2.2.2
      have unseen : group.id ∉ state.groups.map (fun group => group.id) := by
        intro listed
        obtain ⟨other, member, same⟩ := mem_map.1 listed
        exact List.find?_eq_none.1 fresh other member (decide_eq_true same)
      rcases routeOf_eq_ok routed with ⟨rfl, route⟩ | ⟨rfl, inactive⟩
      · refine sound_pushed sound (new_admitted admitted built) unseen epoch sequence room ?_
        rw [family, protocol, sameBoundary]
        exact route
      · -- Without a route the epoch has no groups yet.
        have routed' : Sound rules { state with
            activeFamily := some first.family
            activeProtocol := some first.protocol
            activeProviderBoundarySha256 := some boundary
            stateRevision := saturatingAdd state.stateRevision 1 } :=
          { sound with
            routed := routed_of ⟨rfl, rfl, rfl⟩ supported (new_boundary built)
            route := by
              intro other member there
              have impossible := (sound.route other member there).1
              rw [inactive] at impossible
              cases impossible }
        refine sound_pushed routed' (new_admitted admitted built) unseen epoch sequence room ?_
        rw [family, protocol, sameBoundary]
        exact ⟨rfl, rfl, rfl⟩

/- The merge. -/

/-- What a scan has added fits the winner. -/
structure Gathers (rules : Rules) (winner : ProviderTranscriptState)
    (gathered : ProviderTranscriptState.Gathered) : Prop where
  composed : Composed rules { winner with groups := winner.groups ++ gathered.added }
  seen : ∀ group ∈ winner.groups ++ gathered.added, group.id ∈ gathered.seen

theorem gathers_gather (gathers : Gathers rules winner gathered) (admitted : group.Admitted rules) :
    Gathers rules winner (ProviderTranscriptState.gather winner live gathered group) := by
  have noted : Gathers rules winner { gathered with seen := group.id :: gathered.seen } :=
    { composed := gathers.composed
      seen := fun other member => mem_cons_of_mem _ (gathers.seen other member) }
  unfold ProviderTranscriptState.gather
  split
  · rename_i fresh
    split
    · exact noted
    · rename_i fitting
      split
      · exact noted
      · rename_i past
        have unseen : group.id ∉ (winner.groups ++ gathered.added).map (fun group => group.id) := by
          intro listed
          obtain ⟨other, member, same⟩ := mem_map.1 listed
          have known := gathers.seen other member
          rw [same] at known
          exact fresh.2 known
        refine ⟨?_, ?_⟩
        · rw [← append_assoc]
          exact
            { schema := gathers.composed.schema
              routed := gathers.composed.routed
              admitted := forall_pushed gathers.composed.admitted admitted
              ids := nodup_pushed gathers.composed.ids unseen
              past := forall_pushed gathers.composed.past (Nat.le_of_not_lt past)
              route := by
                apply forall_pushed gathers.composed.route
                intro here
                by_contra foreign
                exact fitting ⟨here, foreign⟩ }
        · rw [← append_assoc]
          exact forall_pushed
            (fun other member => mem_cons_of_mem _ (gathers.seen other member))
            mem_cons_self
  · exact gathers

theorem gathers_all :
    ∀ {groups : List ProviderTranscriptGroup} {gathered : ProviderTranscriptState.Gathered},
    (∀ group ∈ groups, group.Admitted rules) → Gathers rules winner gathered →
    Gathers rules winner (groups.foldl (ProviderTranscriptState.gather winner live) gathered) := by
  intro groups
  induction groups with
  | nil => exact fun _ gathers => gathers
  | cons group rest ih =>
    intro gathered admitted gathers
    exact ih (fun other later => admitted other (mem_cons_of_mem _ later))
      (gathers_gather gathers (admitted group mem_cons_self))

/- New positions. -/

theorem mem_resequence {groups : List ProviderTranscriptGroup}
    (member : group ∈ ProviderTranscriptState.resequence groups) :
    ∃ before ∈ groups, ∃ sequence, sequence < groups.length ∧ group = { before with sequence } := by
  obtain ⟨⟨before, sequence⟩, listed, rfl⟩ := mem_map.1 member
  exact ⟨before, fst_mem_of_mem_zipIdx listed, sequence,
    by simpa using snd_lt_of_mem_zipIdx listed, rfl⟩

theorem resequence_ids (groups : List ProviderTranscriptGroup) :
    (ProviderTranscriptState.resequence groups).map (fun group => group.id) =
      groups.map (fun group => group.id) := by
  unfold ProviderTranscriptState.resequence
  rw [map_map]
  conv_rhs => rw [← zipIdx_map_fst 0 groups, map_map]
  rfl

theorem resequence_sequences (groups : List ProviderTranscriptGroup) :
    (ProviderTranscriptState.resequence groups).map (fun group => group.sequence) =
      List.range' 0 groups.length := by
  unfold ProviderTranscriptState.resequence
  rw [map_map, ← zipIdx_map_snd 0 groups]
  rfl

theorem normalize_order (state : ProviderTranscriptState) (order : List String) :
    (state.groups.filter (fun group => !decide (group.epoch = state.epoch)) ++
      (state.groups.filter (fun group => decide (group.epoch = state.epoch))).mergeSort
        (ProviderTranscriptState.precedes order)).Perm state.groups := by
  have sorted := mergeSort_perm
    (state.groups.filter (fun group => decide (group.epoch = state.epoch)))
    (ProviderTranscriptState.precedes order)
  exact (List.Perm.append_left _ sorted).trans (perm_append_comm.trans
    (filter_append_perm _ _))

theorem mem_normalize (member : group ∈ (state.normalize order).groups) :
    ∃ before ∈ state.groups, ∃ sequence, group = { before with sequence } := by
  rcases mem_append.1 member with old | current
  · exact ⟨group, (mem_filter.1 old).1, group.sequence, rfl⟩
  · obtain ⟨before, listed, sequence, _, rfl⟩ := mem_resequence current
    have sorted := (mergeSort_perm _ _).mem_iff.1 listed
    exact ⟨before, (mem_filter.1 sorted).1, sequence, rfl⟩

theorem currentGroups_normalize (state : ProviderTranscriptState) (order : List String) :
    currentGroups (state.normalize order) = ProviderTranscriptState.resequence
      ((state.groups.filter (fun group => decide (group.epoch = state.epoch))).mergeSort
        (ProviderTranscriptState.precedes order)) := by
  unfold currentGroups ProviderTranscriptState.normalize
  rw [filter_append]
  have old : (state.groups.filter (fun group => !decide (group.epoch = state.epoch))).filter
      (fun group => decide (group.epoch = state.epoch)) = [] := by
    apply filter_eq_nil_iff.2
    intro group member here
    have past := (mem_filter.1 member).2
    rw [here] at past
    cases past
  rw [old]
  apply filter_eq_self.2
  intro group member
  obtain ⟨before, listed, sequence, _, rfl⟩ := mem_resequence member
  exact (mem_filter.1 ((mergeSort_perm _ _).mem_iff.1 listed)).2

theorem normalize_ids (state : ProviderTranscriptState) (order : List String) :
    ((state.normalize order).groups.map (fun group => group.id)).Perm
      (state.groups.map (fun group => group.id)) := by
  unfold ProviderTranscriptState.normalize
  rw [map_append, resequence_ids, ← map_append]
  exact (normalize_order state order).map _

theorem sound_normalize (composed : Composed rules state) :
    Sound rules (state.normalize order) :=
  { schema := composed.schema
    routed := composed.routed
    admitted := by
      intro group member
      obtain ⟨before, listed, sequence, rfl⟩ := mem_normalize member
      exact admitted_resequenced (composed.admitted before listed) sequence
    ids := (normalize_ids state order).nodup_iff.2 composed.ids
    past := by
      intro group member
      obtain ⟨before, listed, sequence, rfl⟩ := mem_normalize member
      exact composed.past before listed
    route := by
      intro group member here
      obtain ⟨before, listed, sequence, rfl⟩ := mem_normalize member
      exact composed.route before listed here
    sequences := by
      rw [currentGroups_normalize, resequence_sequences]
      exact nodup_range'
    below := by
      intro group member
      rw [currentGroups_normalize] at member
      obtain ⟨before, listed, sequence, bound, rfl⟩ := mem_resequence member
      unfold ProviderTranscriptState.normalize ProviderTranscriptState.resequence
      simpa using bound }

theorem sound_merge (live : Composed rules state) (sound : Composed rules durable) :
    Sound rules (state.mergeDurablePrefix durable order).2 := by
  unfold ProviderTranscriptState.mergeDurablePrefix
  dsimp only
  generalize chosen : (if state.epoch < durable.epoch ∨
    durable.epoch = state.epoch ∧ state.stateRevision ≤ durable.stateRevision then durable
    else state) = winner
  have won : Composed rules winner := by
    rw [← chosen]
    split
    · exact sound
    · exact live
  have admitted : ∀ group ∈ durable.groups ++ state.groups, group.Admitted rules := by
    intro group member
    rcases mem_append.1 member with durably | lively
    · exact sound.admitted group durably
    · exact live.admitted group lively
  have begun : Gathers rules winner
      { seen := winner.groups.map (fun group => group.id), added := [] } :=
    { composed := by rw [append_nil]; exact won
      seen := by
        intro group member
        rw [append_nil] at member
        exact mem_map_of_mem member }
  have gathered := @gathers_all rules winner order _ _ admitted begun
  have merged := @sound_normalize rules _ order (@composed_prune rules _ order gathered.composed)
  split
  · exact { merged with }
  · exact merged

/- Histories. -/

def room (state : ProviderTranscriptState) : Call → Prop
  | .activate _ _ _ | .deactivate => state.epoch + 1 ≤ u64Max
  | .invalidate _ count => state.epoch + count ≤ u64Max
  | .append _ _ => state.nextSequence + 1 ≤ u64Max
  | .prune _ | .merge _ _ => True

theorem call_sound (sound : Sound rules state) (wellFormed : call.WellFormed rules)
    (may : room state call) : Sound rules (call.run rules state) := by
  cases call with
  | activate family protocol boundary =>
    unfold Call.run
    dsimp only
    split
    · rename_i run
      exact sound_activate sound may run
    · exact sound
  | deactivate => exact sound_deactivate sound may
  | invalidate reason count => exact sound_invalidate sound may
  | append anchor items =>
    unfold Call.run
    dsimp only
    split
    · rename_i run
      exact sound_append sound wellFormed may run
    · exact sound
  | prune live => exact sound_prune sound
  | merge durable order =>
    obtain ⟨wire, loads⟩ := wellFormed
    exact sound_merge sound.toComposed (sound_of_loads loads).toComposed

theorem history_sound (history : History rules room past state) : Sound rules state := by
  induction history with
  | start => exact sound_default
  | step _ wellFormed may ih => exact call_sound ih wellFormed may

/-- What a session has written of its transcript it can read again. -/
theorem transcripts_load_again {past : List (ProviderTranscriptState × Call)}
    (history : History rules room past state) :
    deserialize rules (serialize state) = .ok state := loads_of_sound (history_sound history)

/-- A payload names its kind, and ids are spelled out. -/
def plainRules : Rules :=
  { inferAndValidateItem := fun _ _ _ payload =>
      if payload = "search" then .ok .openAiToolSearchCall else .error .unsupportedItemType
    stableItemId := fun _ _ _ _ _ payload => .ok payload
    validateGroupOrder := fun _ _ => .ok ()
    stableGroupId := fun epoch _ _ boundary anchor items =>
      ", ".intercalate (toString epoch :: boundary :: anchor :: items)
    unboundProviderBoundarySha256 := String.ofList (List.replicate 64 '0') }

def search : ProviderTranscriptItem :=
  { family := .openAi, protocol := .openAiResponsesV1, origin := .provider, author := .model,
    kind := .openAiToolSearchCall, id := "search", payload := "search" }

def searched : ProviderTranscriptState :=
  (Call.append "m" [search]).run plainRules .default

theorem searched_loads : deserialize plainRules (serialize
    ((Call.merge searched ["m"]).run plainRules searched)) =
      .ok ((Call.merge searched ["m"]).run plainRules searched) := by
  have admitted : Call.WellFormed plainRules (.append "m" [search]) := by
    intro item member
    cases List.mem_singleton.mp member
    rfl
  have appended : History plainRules room [(.default, .append "m" [search])] searched :=
    .step .start admitted (by unfold room; decide)
  have durable := transcripts_load_again appended
  exact transcripts_load_again (.step appended ⟨_, durable⟩ trivial)

end ProviderTranscripts
