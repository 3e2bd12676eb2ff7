import BambooAgent.Actors.Trees

/- A run seen as the list of its durable writes: every state in which a crash can leave the
   files is one of its moments, and each write of it is a deed. -/
namespace Actors
open Sessions Transactions Interleavings Checks List

def history (rules : Rules) : Store → List Event → List Write
  | _, [] => []
  | store, event :: rest =>
    (transaction rules store event.act).writes.take event.writes ++
      history rules (step rules store event) rest

def moment (rules : Rules) (store : Store) (events : List Event) (count : Nat) : Store :=
  run Store.write store ((history rules store events).take count)

variable {store : Store}

theorem run_append :
    run Store.write store (first ++ second) =
      run Store.write (run Store.write store first) second :=
  foldl_append

theorem run_history (rules : Rules) : ∀ (events : List Event) (store : Store),
    run (step rules) store events = run Store.write store (history rules store events) := by
  intro events
  induction events with
  | nil => exact fun _ => rfl
  | cons event rest ih =>
    intro store
    have first : history rules store (event :: rest) =
        (transaction rules store event.act).writes.take event.writes ++
          history rules (step rules store event) rest := rfl
    rw [run_cons, ih, first, run_append]
    rfl

theorem moment_last (rules : Rules) (store : Store) (events : List Event) :
    moment rules store events (history rules store events).length =
      run (step rules) store events := by
  rw [run_history]
  unfold moment
  rw [take_length]

/- Every write of a run is a deed. -/

theorem saveSession_keeps (store : Store) (place : Place) (session : Session) :
    Keeps Store.write Deed store (saveSession store place session) (fun _ _ => True) := by
  refine keeps_checked (fun _ accepted => keeps_put (.session place session ?_) trivial)
  intro child previous held
  obtain ⟨_, accepted⟩ := unless_eq_ok.1 accepted
  rw [child] at accepted
  obtain ⟨_, accepted⟩ := unless_eq_ok.1 accepted
  unfold validateChildProjectForWrite at accepted
  rw [held] at accepted
  obtain ⟨_, accepted⟩ := unless_eq_ok.1 accepted
  exact not_not.1 (unless_eq_ok.1 accepted).1

theorem claimRoot_keeps (rules : Rules) (store : Store) (claim : ActorActivationClaim)
    (expected : Session) (uuid : Uuid) :
    Keeps Store.write Deed store (claimRootActivationObserved rules store claim expected uuid)
      (fun _ _ => True) := by
  refine keeps_checked (fun _ _ => ?_)
  split
  · exact keeps_check (fun _ _ => trivial)
  · refine keeps_checked (fun place _ => ?_)
    refine keeps_checked (fun _ _ => ?_)
    exact opening_keeps (permits_deeds (onlyMoves_claim claim uuid))
      (readOrCreate_keeps store place)

theorem claimActivation_keeps (store : Store) (claim : ActorActivationClaim) (uuid : Uuid) :
    Keeps Store.write Deed store (claimActivation store claim uuid) (fun _ _ => True) := by
  exact keeps_checked (fun _ _ =>
    actorTransaction_keeps (permits_deeds (onlyMoves_claim claim uuid)) store claim.actorId)

theorem bindControlPlane_keeps (store : Store) (actorId : String)
    (binding : ActorControlPlaneBinding) :
    Keeps Store.write Deed store (bindControlPlane store actorId binding) (fun _ _ => True) := by
  unfold bindControlPlane
  split
  · exact keeps_check (fun _ _ => trivial)
  · exact actorTransaction_keeps (permits_deeds (onlyMoves_bind binding)) store actorId

theorem done_keeps {t : Transacted α} (keeps : Keeps Store.write C store t Q) :
    Keeps Store.write C store (done t) (fun _ _ => True) := by
  exact keeps_bind keeps (fun _ _ _ _ => keeps_pure trivial)

theorem transaction_deeds (rules : Rules) (store : Store) (act : Act) :
    Along Store.write Deed store (transaction rules store act).writes := by
  cases act with
  | ensure actorId =>
    exact (done_keeps (actorTransaction_keeps (permits_deeds onlyMoves_ensure) store actorId)).along
  | bindControlPlane actorId binding =>
    exact (done_keeps (bindControlPlane_keeps store actorId binding)).along
  | claim claim uuid => exact (done_keeps (claimActivation_keeps store claim uuid)).along
  | claimRoot claim expected uuid =>
    exact (done_keeps (claimRoot_keeps rules store claim expected uuid)).along
  | start fence now =>
    exact (done_keeps (actorTransaction_keeps (permits_deeds (onlyMoves_start fence now)) store
      fence.actorId)).along
  | renew fence now leaseExpiresAt =>
    exact (done_keeps (actorTransaction_keeps (permits_deeds
      (onlyMoves_renew fence now leaseExpiresAt)) store fence.actorId)).along
  | checkpoint fence now expected =>
    exact (done_keeps (actorTransaction_keeps (permits_deeds
      (onlyMoves_checkpoint fence now expected)) store fence.actorId)).along
  | finish fence now outcome =>
    exact (done_keeps (actorTransaction_keeps (permits_deeds
      (onlyMoves_finish fence now outcome)) store fence.actorId)).along
  | validateFence fence now =>
    exact (actorTransaction_keeps (permits_deeds (onlyMoves_validate fence now)) store
      fence.actorId).along
  | retire actorId now =>
    exact (done_keeps (actorTransaction_keeps (permits_deeds (onlyMoves_retire now)) store
      actorId)).along
  | retireIfActivation fence now =>
    exact (done_keeps (actorTransaction_keeps (permits_deeds (onlyMoves_retireIf fence now)) store
      fence.actorId)).along
  | cancelDescendants rootId childId children distinct now =>
    exact cancelDescendants_deeds store rootId childId distinct now
  | save place session => exact (saveSession_keeps store place session).along
  | savePresentation place children distinct change updatedAt =>
    exact (savePresentation_keeps store place distinct change updatedAt).along

theorem history_deeds (rules : Rules) : ∀ (events : List Event) (store : Store),
    Along Store.write Deed store (history rules store events) := by
  intro events
  induction events with
  | nil => exact fun _ => trivial
  | cons event rest ih =>
    intro store
    refine along_append.2 ⟨?_, ih (step rules store event)⟩
    have whole := transaction_deeds rules store event.act
    rw [← take_append_drop event.writes (transaction rules store event.act).writes] at whole
    exact (along_append.1 whole).1

theorem moment_keeps {P : Store → Prop} (keeps : ∀ s write, Deed s write → P s → P (s.write write))
    (holds : P store) (count : Nat) : P (moment rules store events count) := by
  have whole := history_deeds rules events store
  rw [← take_append_drop count (history rules store events)] at whole
  exact along_keeps keeps _ (along_append.1 whole).1 holds

theorem moment_between (whole : Along Store.write C store (history rules store events))
    (order : first ≤ last) :
    ∃ writes, Along Store.write C (moment rules store events first) writes ∧
      moment rules store events last =
        run Store.write (moment rules store events first) writes := by
  refine ⟨((history rules store events).take last).drop first, ?_, ?_⟩
  · rw [← take_append_drop last (history rules store events)] at whole
    have upto := (along_append.1 whole).1
    rw [← take_append_drop first ((history rules store events).take last),
      take_take, min_eq_left order] at upto
    exact (along_append.1 upto).2
  · unfold moment
    rw [← run_append]
    congr 1
    rw [show (history rules store events).take first =
      ((history rules store events).take last).take first by
        rw [take_take, min_eq_left order]]
    exact (take_append_drop first _).symm

theorem moment_onward (order : first ≤ last) :
    ∃ writes, Along Store.write Deed (moment rules store events first) writes ∧
      moment rules store events last =
        run Store.write (moment rules store events first) writes :=
  moment_between (history_deeds rules events store) order

theorem moment_next :
    moment rules store events (first + 1) = moment rules store events first ∨
      ∃ write, Deed (moment rules store events first) write ∧
        moment rules store events (first + 1) =
          (moment rules store events first).write write := by
  have whole := history_deeds rules events store
  rw [← take_append_drop (first + 1) (history rules store events), take_add_one] at whole
  have upto := (along_append.1 whole).1
  unfold moment
  rw [take_add_one, run_append]
  cases there : (history rules store events)[first]? with
  | none => exact .inl rfl
  | some write =>
    rw [there] at upto
    exact .inr ⟨write, (along_append.1 upto).2.1, rfl⟩

end Actors
