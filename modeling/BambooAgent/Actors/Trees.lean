import BambooAgent.Actors.Deeds

/- The two acts that replace rows all over a tree: the cancellation of a deleted child's
   descendants and the observations carried forward by a title or pin save. -/
namespace Actors
open Sessions Transactions Interleavings Checks List

/- Rows of different places do not disturb each other. -/

inductive Row (store : Store) (place : Place) : Write → Prop
  | row (written : ActorDirectoryEntry) (valid : written.Valid)
      (deed : RecordDeed store place written) : Row store place (.record place written)

theorem deed_elsewhere (sessions : store'.session = store.session)
    (records : store'.record place = store.record place) (markers : store'.marker = store.marker)
    (deed : RecordDeed store place written) : RecordDeed store' place written := by
  cases deed with
  | opened opening =>
    cases opening with
    | created vacant bare sees inert =>
      exact .opened (.created (records.trans vacant) (by rw [markers, bare])
        (sees_of_sessions sessions sees) inert)
    | observed old held sees observes same =>
      exact .opened (.observed old (records.trans held) (sees_of_sessions sessions sees) observes
        same)
  | moved old moved held marked sees moves same =>
    exact .moved old moved (records.trans held) (by rw [markers]; exact marked)
      (sees_of_sessions sessions sees) moves same
  | revoked old a b held marked attempted onward closed same =>
    exact .revoked old a b (records.trans held) (by rw [markers]; exact marked) attempted onward
      closed same

/-- Rows for different places, each right in the store that all of them were computed from. -/
inductive Rows (store : Store) : List Place → List Write → Prop
  | nil : Rows store [] []
  | skip {places : List Place} {writes : List Write}
      (rest : Rows store places writes) : Rows store (place :: places) writes
  | cons {places : List Place} {write : Write} {writes : List Write}
      (row : Row store place write) (rest : Rows store places writes) :
      Rows store (place :: places) (write :: writes)

theorem rows_along (rows : Rows store places writes) (distinct : places.Nodup) :
    ∀ {store' : Store}, store'.session = store.session → store'.marker = store.marker → (∀ place ∈
      places, store'.record place = store.record place) → Along Store.write Deed store' writes := by
  induction rows with
  | nil => exact fun _ _ _ => trivial
  | skip rest ih =>
    intro store' sessions markers records
    exact ih (nodup_cons.1 distinct).2 sessions markers
      (fun place member => records place (mem_cons_of_mem _ member))
  | @cons place places write writes row rest ih =>
    intro store' sessions markers records
    obtain ⟨fresh, others⟩ := nodup_cons.1 distinct
    cases row with
    | row written valid deed =>
      refine ⟨.record place written valid (deed_elsewhere sessions
        (records place mem_cons_self) markers deed), ?_⟩
      refine ih others sessions markers (fun other member => ?_)
      have elsewhere : other ≠ place := fun same => fresh (same ▸ member)
      have kept : (store'.write (.record place written)).record other = store'.record other :=
        Function.update_of_ne elsewhere ..
      rw [kept]
      exact records other (mem_cons_of_mem _ member)

theorem rows_option (row : ∀ one, write = some one → Row store place one)
    (rest : Rows store places writes) : Rows store (place :: places) (write.toList ++ writes) := by
  cases write with
  | none => exact .skip rest
  | some one => exact .cons (row one rfl) rest

/- Cancelled descendants. -/

theorem cancelEntry_eq_ok (live : a.status.isLive = true)
    (found : cancelEntry now entry a = .ok cancelled) :
    cancelled.Valid ∧ ∃ b, Continues a b ∧ b.status.isLive = false ∧
      cancelled = raised ((inState entry .cold).activated b) := by
  obtain ⟨b, revokes, found⟩ := bind_eq_ok.1 found
  obtain ⟨written, revises, found⟩ := bind_eq_ok.1 found
  obtain ⟨_, valid, found⟩ := bind_eq_ok.1 found
  cases found
  obtain ⟨onward, closed⟩ := revoke_eq_ok live revokes
  exact ⟨validate_eq_ok valid, b, onward, closed, revised_eq_ok revises⟩

theorem descendantRow_row {id : String}
    (found : descendantRow store rootId childId now id = .ok write) :
    ∀ one, write = some one → Row store (.child rootId id) one := by
  intro one same
  unfold descendantRow at found
  dsimp only at found
  cases held : store.record (.child rootId id) with
  | none =>
    cases marked : store.marker (.child rootId id) with
    | none =>
      rw [held, marked] at found
      cases found
      cases same
    | some marker =>
      rw [held, marked] at found
      cases found
  | some entry =>
    rw [held] at found
    obtain ⟨_, _, found⟩ := bind_eq_ok.1 found
    obtain ⟨_, found⟩ := unless_eq_ok.1 found
    cases marked : store.marker (.child rootId id) with
    | none =>
      rw [marked] at found
      dsimp only at found
      split at found
      · cases found
        cases same
      · cases found
    | some marker =>
      rw [marked] at found
      obtain ⟨_, found⟩ := unless_eq_ok.1 found
      split at found
      · cases found
        cases same
      · cases lives : entry.activation.filter (fun activation => activation.status.isLive) with
        | none =>
          rw [lives] at found
          cases found
          cases same
        | some a =>
          rw [lives] at found
          obtain ⟨cancelled, cancels, found⟩ := bind_eq_ok.1 found
          cases found
          cases same
          obtain ⟨attempted, live⟩ := Option.filter_eq_some_iff.1 lives
          obtain ⟨valid, b, onward, closed, whole⟩ := cancelEntry_eq_ok live cancels
          exact .row cancelled valid
            (.revoked entry a b held (by rw [marked]; simp) attempted onward closed whole)

theorem descendantRows_rows :
    ∀ {children : List String} {writes : List Write},
      descendantRows store rootId childId now children = .ok writes →
      Rows store (children.map (fun id => .child rootId id)) writes := by
  intro children
  induction children with
  | nil =>
    intro writes found
    cases found
    exact .nil
  | cons id rest ih =>
    intro writes found
    unfold descendantRows at found
    split at found
    · exact .skip (ih found)
    · obtain ⟨row, here, found⟩ := bind_eq_ok.1 found
      obtain ⟨rows, there, found⟩ := bind_eq_ok.1 found
      cases found
      exact rows_option (descendantRow_row here) (ih there)

variable {children : List String}

theorem children_nodup (distinct : children.Nodup) :
    (children.map (fun id => Place.child rootId id)).Nodup :=
  distinct.map (fun _ _ same => (Place.child.inj same).2)

theorem cancelDescendants_deeds (store : Store) (rootId childId : String)
    (distinct : children.Nodup) (now : Nat) :
    Along Store.write Deed store
      (cancelDescendantActivations store rootId childId children now).writes := by
  unfold cancelDescendantActivations
  cases found : descendantRows store rootId childId now children with
  | error refused => exact trivial
  | ok rows =>
    exact rows_along (descendantRows_rows found) (children_nodup distinct) rfl rfl
      (fun _ _ => rfl)

/- Observations carried forward. -/

theorem scan_unique {id : String} (scanned : scanActorRelPath store id = .ok place)
    (there : store.session other ≠ none) (same : other.id = id)
    (rooted : validateSessionId other.rootId = true) : other = place := by
  unfold scanActorRelPath at scanned
  dsimp only at scanned
  have candidate : other ∈
      (if (store.session (.root id)).isSome then [Place.root id] else []) ++
        (store.roots.filter (fun rootId =>
          validateSessionId rootId && (store.session (.child rootId id)).isSome)).map
          (fun rootId => Place.child rootId id) := by
    cases other with
    | root id =>
      cases same
      have here : (store.session (.root (Place.root id).id)).isSome :=
        Option.isSome_iff_ne_none.2 there
      rw [if_pos here]
      exact mem_append_left _ mem_cons_self
    | child rootId id =>
      cases same
      refine mem_append_right _ (mem_map.2 ⟨rootId, mem_filter.2 ⟨?_, ?_⟩, rfl⟩)
      · exact store.listed _ there
      · simp only [Bool.and_eq_true]
        exact ⟨rooted, Option.isSome_iff_ne_none.2 there⟩
  split at scanned
  · cases scanned
  · rename_i only whole
    cases scanned
    rw [whole] at candidate
    exact mem_singleton.1 candidate
  · cases scanned

theorem presented_eq_ok (found : presented previous updatedAt change = .ok incoming) :
    incoming.metadataVersion = previous.metadataVersion + 1 ∧
      incoming.projectIdMeta = previous.projectIdMeta := by
  cases change with
  | title title generated =>
    obtain ⟨titleVersion, _, found⟩ := bind_eq_ok.1 found
    obtain ⟨metadataVersion, next, found⟩ := bind_eq_ok.1 found
    cases found
    exact ⟨checkedNext_eq_ok next, rfl⟩
  | pinned =>
    obtain ⟨metadataVersion, next, found⟩ := bind_eq_ok.1 found
    cases found
    exact ⟨checkedNext_eq_ok next, rfl⟩

/-- A row that the census has found to say what the sessions say. -/
structure Fresh (store : Store) (place : Place) (entry : ActorDirectoryEntry) : Prop where
  held : store.record place = some entry
  marked : store.marker place ≠ none
  located : scanActorRelPath store entry.actor.actorId = .ok place
  named : validateSessionId place.id = true
  actorId : entry.actor.actorId = place.id
  root : entry.actor.rootActorId = place.rootId
  own : Reads store place entry.actor.observedMetadataVersion entry.actor.projectId
  ancestors : ∀ ancestor ∈ entry.actor.ancestorObservations, Observed store entry.actor ancestor

theorem titleObservationRow_fresh (found : titleObservationRow store place = .ok (some entry)) :
    Fresh store place entry := by
  unfold titleObservationRow at found
  cases held : store.record place with
  | none =>
    cases marked : store.marker place with
    | none =>
      rw [held, marked] at found
      cases found
    | some marker =>
      rw [held, marked] at found
      cases found
  | some row =>
    cases marked : store.marker place with
    | none =>
      rw [held, marked] at found
      cases found
    | some marker =>
      rw [held, marked] at found
      obtain ⟨located, scanned, found⟩ := bind_eq_ok.1 found
      obtain ⟨placed, found⟩ := unless_eq_ok.1 found
      obtain ⟨session, loaded, found⟩ := bind_eq_ok.1 found
      obtain ⟨expected, made, found⟩ := bind_eq_ok.1 found
      obtain ⟨_, census, found⟩ := bind_eq_ok.1 found
      obtain ⟨lineage, valid, found⟩ := bind_eq_ok.1 found
      obtain ⟨stale, found⟩ := unless_eq_ok.1 found
      cases found
      obtain ⟨named, there⟩ := not_or.1 placed
      obtain ⟨_, stale⟩ := not_or.1 stale
      obtain ⟨version, observations⟩ := not_or.1 stale
      have matched := (unless_eq_ok.1 census).1
      obtain ⟨_, matched⟩ := not_or.1 matched
      obtain ⟨incarnation, matched⟩ := not_or.1 matched
      have project := not_not.1 (not_or.1 matched).1
      have same := (matchesSession_iff made).1 (not_not.1 incarnation)
      have own := loaded_reads loaded made
      have above := lineage_observed valid
      obtain ⟨main, _, whole, id, _⟩ := loadDurable_eq_ok loaded
      obtain ⟨_, _, _, _, _, _, rfl⟩ := fromSession_eq_ok made
      have root : entry.actor.rootActorId = place.rootId := by
        rw [same.root, whole]
      have actorId : entry.actor.actorId = place.id := by
        rw [same.actorId, whole]
        exact id
      rw [← project, ← show entry.actor.observedMetadataVersion = session.metadataVersion from
        not_not.1 version] at own
      refine ⟨held, by rw [marked]; simp, ?_, not_not.1 named, actorId, root, own, ?_⟩
      · rw [actorId, scanned, not_not.1 there]
      · rw [not_not.1 observations]
        intro ancestor member
        have seen := above ancestor member
        refine ⟨?_, ?_⟩
        · have located := seen.located
          unfold ancestorPlace at ⊢
          rw [same.root]
          exact located
        · have reads := seen.reads
          unfold ancestorPlace at ⊢
          rw [same.root, project]
          exact reads

section Carried
variable {previous : Session}

theorem reads_saved
    (held : ∃ main, store.session at_ = some main ∧
      main.metadataVersion = previous.metadataVersion ∧
      main.projectIdMeta = previous.projectIdMeta)
    (next : incoming.metadataVersion = previous.metadataVersion + 1)
    (same : incoming.projectIdMeta = previous.projectIdMeta)
    (reads : Reads store place version project) :
    Reads (store.write (.session at_ incoming)) place
      (if place = at_ then incoming.metadataVersion else version) project ∧
      (place = at_ → incoming.metadataVersion = version + 1) := by
  obtain ⟨main, there, main_version, main_project⟩ := held
  obtain ⟨session, found, versioned, owned⟩ := reads
  by_cases here : place = at_
  · subst here
    rw [there] at found
    cases found
    rw [if_pos rfl]
    refine ⟨⟨incoming, Function.update_self .., rfl, ?_⟩, fun _ => ?_⟩
    · unfold sessionProject at ⊢
      rw [same, ← main_project]
      exact owned
    · rw [next, ← main_version, versioned]
  · rw [if_neg here]
    refine ⟨⟨session, ?_, versioned, owned⟩, fun same => absurd same here⟩
    exact (Function.update_of_ne here ..).trans found

theorem located_iff {id : String} (located : scanActorRelPath store id = .ok place)
    (named : place.id = id) (there : store.session at_ ≠ none)
    (rooted : validateSessionId at_.rootId = true) : id = at_.id ↔ place = at_ := by
  constructor
  · intro same
    exact (scan_unique located there same.symm rooted).symm
  · intro same
    rw [← named, same]

theorem parentPlace_id (rootId parentId : String) :
    (parentPlace rootId parentId).id = parentId := by
  unfold parentPlace
  split
  · rfl
  · rfl

theorem carryRow_row (fresh : Fresh store place entry)
    (held : ∃ main, store.session at_ = some main ∧
      main.metadataVersion = previous.metadataVersion ∧
      main.projectIdMeta = previous.projectIdMeta)
    (next : incoming.metadataVersion = previous.metadataVersion + 1)
    (same : incoming.projectIdMeta = previous.projectIdMeta)
    (rooted : validateSessionId at_.rootId = true)
    (found : carryRow at_.id incoming.metadataVersion place entry = .ok write) :
    ∀ one, write = some one → Row (store.write (.session at_ incoming)) place one := by
  intro one is_
  have there : store.session at_ ≠ none := by
    obtain ⟨main, main_held, _⟩ := held
    rw [main_held]
    simp
  unfold carryRow at found
  split at found
  · obtain ⟨written, revises, found⟩ := bind_eq_ok.1 found
    obtain ⟨_, valid, found⟩ := bind_eq_ok.1 found
    cases found
    cases is_
    cases revised_eq_ok revises
    have own := reads_saved held next same fresh.own
    have own_iff := located_iff fresh.located fresh.actorId.symm there rooted
    have above_iff : ∀ ancestor ∈ entry.actor.ancestorObservations,
        (ancestor.actorId = at_.id ↔ ancestorPlace entry.actor ancestor = at_) := by
      intro ancestor member
      have located := (fresh.ancestors ancestor member).located
      exact located_iff located (parentPlace_id ..) there rooted
    refine .row _ (validate_eq_ok valid)
      (.opened (.observed entry fresh.held ⟨?_, ?_⟩ ⟨?_, ?_, ?_, ?_⟩ rfl))
    · have reads := own.1
      simp only [← own_iff] at reads
      exact reads
    · intro ancestor member
      obtain ⟨older, before, rfl⟩ := mem_map.1 member
      have reads := (reads_saved held next same (fresh.ancestors older before).reads).1
      by_cases matched : older.actorId = at_.id
      · rw [if_pos ((above_iff older before).1 matched)] at reads
        rw [if_pos matched]
        exact reads
      · rw [if_neg (fun placed => matched ((above_iff older before).2 placed))] at reads
        rw [if_neg matched]
        exact reads
    · exact fun _ => rfl
    · change entry.actor.observedMetadataVersion ≤
        if entry.actor.actorId = at_.id then incoming.metadataVersion
          else entry.actor.observedMetadataVersion
      split
      · rename_i matched
        have step := own.2 (own_iff.1 matched)
        omega
      · exact le_rfl
    · refine forall₂_map_right_iff.2 (forall₂_same.2 (fun ancestor member => ?_))
      have step := (reads_saved held next same (fresh.ancestors ancestor member).reads).2
      split
      · rename_i matched
        have moved := step ((above_iff ancestor member).1 matched)
        exact ⟨rfl, rfl, by change ancestor.metadataVersion ≤ incoming.metadataVersion; omega⟩
      · exact ⟨rfl, rfl, le_rfl⟩
    · intro _
      refine ⟨rfl, ?_, ?_⟩
      · change (if entry.actor.actorId = at_.id then incoming.metadataVersion
            else entry.actor.observedMetadataVersion) ≤ entry.actor.observedMetadataVersion + 1
        split
        · rename_i matched
          have step := own.2 (own_iff.1 matched)
          omega
        · exact Nat.le_succ _
      · refine forall₂_map_right_iff.2 (forall₂_same.2 (fun ancestor member => ?_))
        have step := (reads_saved held next same (fresh.ancestors ancestor member).reads).2
        split
        · rename_i matched
          have moved := step ((above_iff ancestor member).1 matched)
          change incoming.metadataVersion ≤ ancestor.metadataVersion + 1
          omega
        · exact Nat.le_succ _
  · cases found
    cases is_

theorem rooted_of_fresh (fresh : Fresh store place entry) :
    validateSessionId place.rootId = true := by
  cases place with
  | root id => exact fresh.named
  | child rootId id =>
    have scanned := fresh.located
    unfold scanActorRelPath at scanned
    dsimp only at scanned
    split at scanned
    · cases scanned
    · rename_i only whole
      cases scanned
      have member := mem_singleton.2 (rfl : Place.child rootId id = Place.child rootId id)
      rw [← whole] at member
      rcases mem_append.1 member with root | child
      · split at root
        · cases mem_singleton.1 root
        · cases root
      · obtain ⟨other, kept, same⟩ := mem_map.1 child
        cases same
        have both := (mem_filter.1 kept).2
        simp only [Bool.and_eq_true] at both
        exact both.1
    · cases scanned

theorem carryRows_rows (held : ∃ main, store.session at_ = some main ∧
      main.metadataVersion = previous.metadataVersion ∧
      main.projectIdMeta = previous.projectIdMeta)
    (next : incoming.metadataVersion = previous.metadataVersion + 1)
    (same : incoming.projectIdMeta = previous.projectIdMeta) :
    ∀ {places : List Place} {writes : List Write},
      (∀ place ∈ places, place.rootId = at_.rootId) →
      carryRows store at_.id incoming.metadataVersion places = .ok writes →
      Rows (store.write (.session at_ incoming)) places writes := by
  intro places
  induction places with
  | nil =>
    intro writes _ found
    cases found
    exact .nil
  | cons place rest ih =>
    intro writes inTree found
    obtain ⟨row, here, found⟩ := bind_eq_ok.1 found
    obtain ⟨write, carried_, found⟩ := bind_eq_ok.1 found
    obtain ⟨others, there, found⟩ := bind_eq_ok.1 found
    cases found
    refine rows_option ?_ (ih (fun other member => inTree other (.tail _ member)) there)
    cases row with
    | none =>
      cases carried_
      exact fun one impossible => nomatch impossible
    | some entry =>
      have fresh := titleObservationRow_fresh here
      have rooted := rooted_of_fresh fresh
      rw [inTree place mem_cons_self] at rooted
      exact carryRow_row fresh held next same rooted carried_

end Carried

theorem treePlaces_rootId : ∀ place ∈ treePlaces rootId children, place.rootId = rootId := by
  intro place member
  rcases mem_cons.1 member with rfl | child
  · rfl
  · obtain ⟨id, _, rfl⟩ := mem_map.1 child
    rfl

theorem treePlaces_nodup (distinct : children.Nodup) : (treePlaces rootId children).Nodup := by
  refine nodup_cons.2 ⟨?_, children_nodup distinct⟩
  intro member
  obtain ⟨id, _, impossible⟩ := mem_map.1 member
  cases impossible

theorem savePresentation_keeps (store : Store) (place : Place) (distinct : children.Nodup)
    (change : Presentation) (updatedAt : Nat) :
    Keeps Store.write Deed store (savePresentation store place children change updatedAt)
      (fun _ _ => True) := by
  refine keeps_checked (fun previous loaded => ?_)
  refine keeps_checked (fun ordinary _ => ?_)
  refine keeps_checked (fun incoming made => ?_)
  refine keeps_checked (fun rows found => ?_)
  obtain ⟨next, same⟩ := presented_eq_ok made
  obtain ⟨main, there, whole, named, _⟩ := loadDurable_eq_ok loaded
  have held : ∃ main, store.session place = some main ∧
      main.metadataVersion = previous.metadataVersion ∧
      main.projectIdMeta = previous.projectIdMeta :=
    ⟨main, there, by rw [whole], by rw [whole]; rfl⟩
  have id : previous.id = place.id := by
    rw [whole]
    exact named
  refine keeps_bind (keeps_put (Q := fun _ s' => s' = store.write (.session place incoming))
    (.session place incoming ?_) rfl) ?_
  · intro _ current held
    rw [there] at held
    cases held
    rw [same, whole]
    rfl
  · rintro _ s' _ rfl
    refine ⟨?_, fun _ _ => trivial⟩
    cases ordinary with
    | false =>
      cases found
      exact trivial
    | true =>
      rw [id] at found
      exact rows_along (carryRows_rows held next same treePlaces_rootId found)
        (treePlaces_nodup distinct) rfl rfl (fun _ _ => rfl)

end Actors
