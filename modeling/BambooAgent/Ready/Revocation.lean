import BambooAgent.Ready.Scheduler

/- A revoke that has returned leaves no call of an older policy inside the Host. -/
namespace Ready
open Interleavings List Bool

/- What holds of a scheduler. -/

/-- A Host call of this generation may be in progress or come. -/
def Call.validated (generation : Nat) : Call → Bool
  | .install _ captured _ (.validating _ _) | .reconcile captured (.running _ _) =>
    captured = generation
  | _ => false

/-- No call of the generation is past its checks. -/
def Drained (s : ReadyWorkScheduler) (generation : Nat) : Prop :=
  Every (fun call => Call.validated generation call = false) s.calls

/-- An install that began then has captured this generation. -/
structure Captured (s : ReadyWorkScheduler) (generation began : Nat) : Prop where
  known : generation ≤ s.current
  past : began < s.begun
  before : ∀ other revoked, revokedAt s other = some revoked → other < generation →
    revoked < began
  after : ∀ other revoked, revokedAt s other = some revoked → generation ≤ other →
    began < revoked

/-- The revoke that began then has cancelled a generation, and all up to it are drained or still to
    be waited for. -/
def Draining (s : ReadyWorkScheduler) (began : Nat) (pending : List Nat) : Prop :=
  ∃ last, revokedAt s last = some began ∧
    ∀ generation ≤ last, generation ∈ pending ∨ Drained s generation

def Fair (s : ReadyWorkScheduler) : Call → Prop
  | .install _ generation began _ => Captured s generation began
  | .reconcile generation (.running installed _) =>
    Captured s generation installed.began ∧ installed.generation = generation
  | .reconcile generation _ => generation ≤ s.current
  | .revoke began pending => Draining s began pending

structure Sound (s : ReadyWorkScheduler) : Prop where
  length : s.revocations.length = s.current + 1
  fresh : revokedAt s s.current = none
  closed : ∀ generation, generation < s.current → ∃ revoked, revokedAt s generation = some revoked
  past : ∀ generation revoked, revokedAt s generation = some revoked → revoked < s.begun
  fair : Every (Fair s) s.calls
  retired : ∀ generation, generation < s.current → alive s generation = true →
    generation ∈ s.retired
  exclusive : ∀ (place other : Nat) (call call' : Call), s.calls[place]? = some (some call) →
    s.calls[other]? = some (some call') → call.holdsState = true → call'.holdsState = true →
      place = other
  used : ∀ (place generation : Nat) (installed : InstalledPolicy) (host : Option HostCall),
    s.calls[place]? = some (some (.reconcile generation (.running installed host))) →
      s.installed = some installed
  installed : ∀ installed, s.installed = some installed →
    Captured s installed.generation installed.began
  fences : ∀ fence ∈ s.fences, Captured s fence.generation fence.began
  returned : ∀ began ∈ s.returned, Draining s began []

section Steps
variable {place : Nat} {call : Call}

theorem revokedAt_lt (sound : Sound s) (found : revokedAt s generation = some revoked) :
    generation < s.current := by
  have inside : generation < s.revocations.length := by
    by_contra outside
    unfold revokedAt at found
    rw [List.getElem?_eq_none (Nat.le_of_not_lt outside)] at found
    cases found
  have other : generation ≠ s.current := by
    rintro rfl
    rw [sound.fresh] at found
    cases found
  have := sound.length
  omega

theorem isRevoked_iff :
    isRevoked s generation = true ↔ ∃ revoked, revokedAt s generation = some revoked :=
  Option.isSome_iff_exists

theorem current_of_live (sound : Sound s) (known : generation ≤ s.current)
    (live : ¬ isRevoked s generation = true) : generation = s.current := by
  by_contra other
  exact live (isRevoked_iff.2 (sound.closed generation (by omega)))

theorem validated_refers (validated : call.validated generation = true) :
    call.refers generation = true ∧ call.holdsActive generation = true := by
  cases call with
  | install policy captured began stage =>
    cases stage <;> simp_all [Call.validated, Call.refers, Call.holdsActive]
  | reconcile captured stage =>
    cases stage <;> simp_all [Call.validated, Call.refers, Call.holdsActive]
  | revoke began pending => cases validated

theorem drained_of_free (free : activeFree s generation = true) : Drained s generation := by
  intro at_ other found
  have idle := all_eq_true.1 free (some other) (mem_of_getElem? found)
  rw [Option.any_some] at idle
  refine eq_false_iff.2 (fun validated => ?_)
  rw [(validated_refers validated).2] at idle
  cases idle

theorem drained_of_dead (dead : ¬ alive s generation = true) : Drained s generation := by
  intro at_ other found
  refine eq_false_iff.2 (fun validated => dead ?_)
  rw [alive, or_eq_true, any_eq_true]
  exact .inr ⟨some other, mem_of_getElem? found, (validated_refers validated).1⟩

/- A call moves on. -/

/-- What the step of a call may change. -/
def ReadyWorkScheduler.after (s : ReadyWorkScheduler) (place : Nat) (next : Option Call)
    (installed : Option InstalledPolicy) (fences : List ReadyAdmissionFence)
    (returned : List Nat) : ReadyWorkScheduler :=
  { s with
    calls := s.calls.set place next
    installed := installed
    fences := fences
    returned := returned }

/-- A call may go on to one that refers to no more, and has no lock that was not free. -/
structure Moves (s : ReadyWorkScheduler) (call next : Call) : Prop where
  fair : Fair s next
  refers : ∀ generation, next.refers generation = true → call.refers generation = true
  validated : ∀ generation, next.validated generation = true →
    call.validated generation = true ∨ isRevoked s generation = false
  state : next.holdsState = true → call.holdsState = true ∨ stateFree s = true

variable {installed : Option InstalledPolicy} {fences : List ReadyAdmissionFence}
  {returned : List Nat} {next : Option Call}

theorem drained_after (there : s.calls[place]? = some (some call))
    (moves : ∀ call', next = some call' → Moves s call call')
    (revoked : isRevoked s generation = true) (drained : Drained s generation) :
    Drained (s.after place next installed fences returned) generation := by
  refine every_set drained (fun _ idle => idle) (fun call' same => ?_)
  refine eq_false_iff.2 (fun validated => ?_)
  rcases (moves call' same).validated generation validated with before | live
  · rw [drained place call there] at before
    cases before
  · rw [revoked] at live
    cases live

section
variable (sound : Sound s)
include sound

section
variable (there : s.calls[place]? = some (some call))
include there

section
variable (moves : ∀ call', next = some call' → Moves s call call')
include moves

theorem draining_after (draining : Draining s began pending) :
    Draining (s.after place next installed fences returned) began pending := by
  obtain ⟨last, revoked, waits⟩ := draining
  refine ⟨last, revoked, fun generation upto => (waits generation upto).imp_right ?_⟩
  have bound := revokedAt_lt sound revoked
  have closed : isRevoked s generation = true :=
    isRevoked_iff.2 (sound.closed generation (by omega))
  exact drained_after there moves closed

theorem fair_after (fair : Fair s other) :
    Fair (s.after place next installed fences returned) other := by
  cases other with
  | install policy generation began stage =>
    exact ⟨fair.known, fair.past, fair.before, fair.after⟩
  | reconcile generation stage =>
    cases stage with
    | running used host =>
      exact ⟨⟨fair.1.known, fair.1.past, fair.1.before, fair.1.after⟩, fair.2⟩
    | _ => exact fair
  | revoke began pending => exact draining_after sound there moves fair

theorem sound_after (policy : ∀ new, installed = some new → Captured s new.generation new.began)
    (holds : installed = s.installed ∨ call.holdsState = true)
    (runs : ∀ generation used host,
      next = some (.reconcile generation (.running used host)) → installed = some used)
    (fenced : ∀ fence ∈ fences, Captured s fence.generation fence.began)
    (drained : ∀ began ∈ returned, Draining s began []) :
    Sound (s.after place next installed fences returned) where
  length := sound.length
  fresh := sound.fresh
  closed := sound.closed
  past := sound.past
  fair := every_set sound.fair (fun _ fair => fair_after sound there moves fair)
    (fun call' same => fair_after sound there moves (moves call' same).fair)
  retired := by
    intro generation old alive_
    refine sound.retired generation old ?_
    rw [alive, or_eq_true, any_eq_true] at alive_ ⊢
    refine alive_.imp_right ?_
    rintro ⟨held, member, refers⟩
    obtain ⟨at_, found⟩ := mem_iff_getElem?.1 member
    rcases set_cases found with ⟨_, rfl⟩ | ⟨_, old⟩
    · cases held with
      | none => cases refers
      | some call' =>
        exact ⟨some call, mem_of_getElem? there, (moves call' rfl).refers generation refers⟩
    · exact ⟨held, mem_of_getElem? old, refers⟩
  exclusive := by
    have taken : ∀ (at_ : Nat) (other : Call), s.calls[at_]? = some (some other) →
        other.holdsState = true → ∀ call', next = some call' → call'.holdsState = true →
          at_ = place := by
      intro at_ other found holding call' same holding'
      rcases (moves call' same).state holding' with before | free
      · exact sound.exclusive at_ place other call found there holding before
      · have idle := all_eq_true.1 free (some other) (mem_of_getElem? found)
        rw [Option.any_some, holding] at idle
        cases idle
    intro at_ at' one two foundOne foundTwo holdsOne holdsTwo
    change (s.calls.set place next)[at_]? = _ at foundOne
    change (s.calls.set place next)[at']? = _ at foundTwo
    rw [List.getElem?_set] at foundOne foundTwo
    split at foundOne
    · rename_i here
      split at foundTwo
      · rename_i here'
        exact here.symm.trans here'
      · split at foundOne
        · exact here.symm.trans (taken at' two foundTwo holdsTwo one (Option.some.inj foundOne)
            holdsOne).symm
        · cases foundOne
    · split at foundTwo
      · rename_i here'
        split at foundTwo
        · exact (taken at_ one foundOne holdsOne two (Option.some.inj foundTwo) holdsTwo).trans here'
        · cases foundTwo
      · exact sound.exclusive at_ at' one two foundOne foundTwo holdsOne holdsTwo
  used := by
    intro at_ generation used host found
    rcases set_cases found with ⟨_, same⟩ | ⟨different, old⟩
    · exact runs generation used host same.symm
    · rcases holds with same | holding
      · exact same.trans (sound.used at_ generation used host old)
      · exact absurd (sound.exclusive place at_ _ _ there old holding rfl).symm different
  installed := by
    intro new same
    have captured := policy new same
    exact ⟨captured.known, captured.past, captured.before, captured.after⟩
  fences := by
    intro fence member
    have captured := fenced fence member
    exact ⟨captured.known, captured.past, captured.before, captured.after⟩
  returned := fun began member => draining_after sound there moves (drained began member)

end

theorem sound_end : Sound (s.setCall place none) := by
  have ended : Sound (s.after place none s.installed s.fences s.returned) :=
    sound_after sound there nofun sound.installed (.inl rfl) nofun sound.fences sound.returned
  exact ended

theorem sound_clear (holding : call.holdsState = true) :
    Sound ({ s with installed := none }.setCall place none) := by
  have ended : Sound (s.after place none none s.fences s.returned) :=
    sound_after sound there nofun nofun (.inr holding) nofun sound.fences sound.returned
  exact ended

theorem sound_go (moves : Moves s call call')
    (runs : ∀ generation used host,
      call' = .reconcile generation (.running used host) → s.installed = some used) :
    Sound (s.setCall place (some call')) := by
  have went : Sound (s.after place (some call') s.installed s.fences s.returned) := by
    refine sound_after sound there ?_ sound.installed (.inl rfl) ?_ sound.fences sound.returned
    · intro _ same
      cases same
      exact moves
    · intro generation used host same
      exact runs generation used host (Option.some.inj same)
  exact went

/- One lemma for each kind of step. -/

theorem sound_acquire : Sound (acquire s place call) := by
  have fair := sound.fair place call there
  unfold acquire
  split
  · split
    · exact sound_go sound there ⟨fair, fun _ => id, nofun, nofun⟩ nofun
    · exact sound
  · split
    · rename_i free
      exact sound_go sound there ⟨fair, fun _ => id, nofun, fun _ => .inr free⟩ nofun
    · exact sound
  · split
    · exact sound_go sound there ⟨fair, fun _ => id, nofun, nofun⟩ nofun
    · exact sound
  · split
    · rename_i free
      exact sound_go sound there ⟨fair, fun _ => id, nofun, fun _ => .inr free⟩ nofun
    · exact sound
  · split
    · rename_i free
      refine sound_go sound there ⟨?_, ?_, nofun, nofun⟩ nofun
      · obtain ⟨last, revoked, waits⟩ := fair
        refine ⟨last, revoked, fun other upto => ?_⟩
        rcases waits other upto with waiting | drained
        · rcases mem_cons.1 waiting with rfl | later
          · exact .inr (drained_of_free free)
          · exact .inl later
        · exact .inr drained
      · intro other member
        have member := contains_iff_mem.1 member
        exact contains_iff_mem.2 (mem_cons_of_mem _ member)
    · exact sound
  · exact sound

theorem sound_cancelled : Sound (cancelled s place call) := by
  unfold cancelled
  split
  · split
    · split
      · exact sound_end sound there
      · exact sound
    · split
      · exact sound_end sound there
      · exact sound
    · split
      · exact sound_end sound there
      · exact sound
    · exact sound
  · split
    · split
      · exact sound_end sound there
      · exact sound
    · split
      · exact sound_end sound there
      · exact sound
    · split
      · exact sound_clear sound there rfl
      · exact sound
    · exact sound
  · exact sound

end

theorem sound_installGo
    (there : s.calls[place]? = some (some (.install policy generation began stage))) :
    Sound (installGo s place policy generation began stage) := by
  have fair := sound.fair place _ there
  unfold installGo
  split
  · split
    · exact sound_end sound there
    · exact sound_go sound there ⟨fair, fun _ => id, nofun, nofun⟩ nofun
  · split
    · exact sound_end sound there
    · rename_i live
      split
      · exact sound_end sound there
      · have cleared : Sound (s.after place
            (some (.install policy generation began (.validating [.authority, .budget] none)))
            none s.fences s.returned) := by
          refine sound_after sound there ?_ nofun (.inr rfl) nofun sound.fences sound.returned
          intro _ same
          cases same
          refine ⟨fair, fun _ => id, fun other validated => .inr ?_, fun _ => .inl rfl⟩
          have same : generation = other := of_decide_eq_true validated
          rw [← same]
          exact eq_false_iff.2 live
        exact cleared
  · exact sound

theorem sound_reconcileGo (there : s.calls[place]? = some (some (.reconcile generation stage))) :
    Sound (reconcileGo s place now generation stage) := by
  have fair := sound.fair place _ there
  unfold reconcileGo
  split
  · split
    · exact sound_end sound there
    · exact sound_go sound there ⟨fair, fun _ => id, nofun, nofun⟩ nofun
  · split
    · exact sound_end sound there
    · rename_i live
      split
      · exact sound_end sound there
      · rename_i installed held
        split
        · exact sound_clear sound there rfl
        · rename_i usable
          have captured := sound.installed installed held
          have now_ : generation = s.current := current_of_live sound fair live
          have same : installed.generation = generation := by
            rw [now_]
            refine current_of_live sound captured.known (fun revoked => usable ?_)
            rw [revoked, Bool.true_or]
          refine sound_go sound there ⟨⟨same ▸ captured, same⟩, fun _ => id, ?_, fun _ => .inl rfl⟩ ?_
          · intro other validated
            have same : generation = other := of_decide_eq_true validated
            rw [← same]
            exact .inr (eq_false_iff.2 live)
          · intro _ used _ runs
            cases runs
            exact held
  · exact sound

end

theorem captured_fence {installed : InstalledPolicy} (captured : Captured s installed.generation
    installed.began) (retry : Option RetryDeadline) (kind : HostCall) :
    ∀ fence ∈ fenceOf installed retry kind, Captured s fence.generation fence.began := by
  intro fence member
  cases kind <;> simp only [fenceOf, mem_singleton, not_mem_nil] at member
  all_goals
    subst member
    exact captured

theorem sound_hostCall (sound : Sound s) (there : s.calls[place]? = some (some call)) :
    Sound (hostCall s place kind retry call) := by
  have fair := sound.fair place call there
  unfold hostCall
  split
  · exact sound_go sound there
      ⟨fair, fun _ => id, fun _ validated => .inl validated, fun _ => .inl rfl⟩ nofun
  · rename_i generation installed
    have held := sound.used place generation installed none there
    have went : Sound (s.after place
        (some (.reconcile generation (.running installed (some kind)))) s.installed
        (s.fences ++ fenceOf installed retry kind) s.returned) := by
      refine sound_after sound there ?_ sound.installed (.inl rfl) ?_ ?_ sound.returned
      · intro _ same
        cases same
        exact ⟨fair, fun _ => id, fun _ validated => .inl validated, fun _ => .inl rfl⟩
      · intro _ _ _ same
        cases same
        exact held
      · intro fence member
        rcases mem_append.1 member with old | new
        · exact sound.fences fence old
        · exact captured_fence (sound.installed installed held) retry kind fence new
    exact went
  · exact sound

theorem sound_hostAnswer (sound : Sound s) (there : s.calls[place]? = some (some call)) :
    Sound (hostAnswer s place ok call) := by
  have fair := sound.fair place call there
  unfold hostAnswer
  split
  · split
    · exact sound_go sound there
        ⟨fair, fun _ => id, fun _ validated => .inl validated, fun _ => .inl rfl⟩ nofun
    · exact sound_end sound there
  · rename_i generation installed _
    refine sound_go sound there
      ⟨fair, fun _ => id, fun _ validated => .inl validated, fun _ => .inl rfl⟩ ?_
    intro _ _ _ same
    cases same
    exact sound.used place generation installed _ there
  · exact sound

theorem sound_finish (sound : Sound s) (there : s.calls[place]? = some (some call)) :
    Sound (finish s place now disabled call) := by
  have fair := sound.fair place call there
  unfold finish
  split
  · rename_i policy generation began
    have installs : Sound (s.after place none
        (some ⟨policy, generation, began, now + policy.lifetime⟩) s.fences s.returned) := by
      refine sound_after sound there nofun ?_ (.inr rfl) nofun sound.fences sound.returned
      intro new same
      cases same
      exact fair
    exact installs
  · split
    · exact sound_clear sound there rfl
    · exact sound_end sound there
  · rename_i began
    have returns : Sound (s.after place none s.installed s.fences (s.returned ++ [began])) := by
      refine sound_after sound there nofun sound.installed (.inl rfl) nofun sound.fences ?_
      intro other member
      rcases mem_append.1 member with old | new
      · exact sound.returned other old
      · rw [mem_singleton] at new
        subst new
        exact fair
    exact returns
  · exact sound

/- Calls that begin. -/

theorem captured_current (sound : Sound s) (call : Call) :
    Captured (s.begin_ call) s.current s.begun where
  known := le_rfl
  past := Nat.lt_succ_self _
  before := fun _ revoked found _ => sound.past _ revoked found
  after := fun _ _ found least => absurd (revokedAt_lt sound found) (not_lt.2 least)

theorem captured_later (captured : Captured s generation began) (call : Call) :
    Captured (s.begin_ call) generation began :=
  ⟨captured.known, Nat.lt_succ_of_lt captured.past, captured.before, captured.after⟩

theorem sound_begin (sound : Sound s) (fair : Fair (s.begin_ call) call)
    (current : ∀ generation, call.refers generation = true → generation = s.current)
    (idle : ∀ generation, call.validated generation = false) (free : call.holdsState = false) :
    Sound (s.begin_ call) := by
  have split_ : ∀ (at_ : Nat) (other : Call), (s.calls ++ [some call])[at_]? = some (some other) →
      s.calls[at_]? = some (some other) ∨ other = call := by
    intro at_ other found
    exact (concat_cases found).imp_right fun new => Option.some.inj new.2
  have drains : ∀ began pending, Draining s began pending →
      Draining (s.begin_ call) began pending := by
    rintro began pending ⟨last, revoked, waits⟩
    refine ⟨last, revoked, fun generation upto => (waits generation upto).imp_right ?_⟩
    exact fun drained => every_launch drained (idle generation)
  refine ⟨sound.length, sound.fresh, sound.closed, ?_, ?_, ?_, ?_, ?_, ?_, ?_, ?_⟩
  · exact fun generation revoked found => Nat.lt_succ_of_lt (sound.past generation revoked found)
  · refine every_launch (fun at_ other found => ?_) fair
    have before := sound.fair at_ other found
    cases other with
    | install policy generation began stage => exact captured_later before call
    | reconcile generation stage =>
      cases stage with
      | running used host => exact ⟨captured_later before.1 call, before.2⟩
      | _ => exact before
    | revoke began pending => exact drains began pending before
  · intro generation old alive_
    refine sound.retired generation old ?_
    rw [alive, or_eq_true, any_eq_true] at alive_ ⊢
    refine alive_.imp_right ?_
    rintro ⟨held, member, refers⟩
    rcases mem_append.1 member with before | new
    · exact ⟨held, before, refers⟩
    · rw [mem_singleton] at new
      subst new
      exact absurd (current generation refers) (ne_of_lt old)
  · intro at_ at' one two foundOne foundTwo holdsOne holdsTwo
    rcases split_ at_ one foundOne with one_ | rfl
    · rcases split_ at' two foundTwo with two_ | rfl
      · exact sound.exclusive at_ at' one two one_ two_ holdsOne holdsTwo
      · rw [free] at holdsTwo
        cases holdsTwo
    · rw [free] at holdsOne
      cases holdsOne
  · intro at_ generation used host found
    rcases split_ at_ _ found with before | rfl
    · exact sound.used at_ generation used host before
    · cases free
  · exact fun installed held => captured_later (sound.installed installed held) call
  · exact fun fence member => captured_later (sound.fences fence member) call
  · exact fun began member => drains began [] (sound.returned began member)

/-- The scheduler once a revoke has replaced the current generation. -/
def ReadyWorkScheduler.rotated (s : ReadyWorkScheduler) : ReadyWorkScheduler :=
  { s with
    revocations := s.revocations.set s.current (some s.begun) ++ [none]
    current := s.revocations.length
    retired := s.retired.filter (alive s) ++ [s.current] }

theorem revokedAt_rotated (sound : Sound s) (generation : Nat) :
    revokedAt s.rotated generation =
      if generation = s.current then some s.begun else revokedAt s generation := by
  have length := sound.length
  unfold revokedAt ReadyWorkScheduler.rotated
  rcases Nat.lt_trichotomy generation s.revocations.length with inside | rfl | beyond
  · rw [List.getElem?_append_left (by simpa using inside), List.getElem?_set]
    by_cases same : s.current = generation
    · rw [if_pos same, if_pos (by omega), if_pos same.symm]
      rfl
    · rw [if_neg same, if_neg (Ne.symm same)]
  · rw [List.getElem?_append_right (by simp), length_set, Nat.sub_self, if_neg (by omega),
      List.getElem?_eq_none le_rfl]
    rfl
  · rw [List.getElem?_eq_none (by simp; omega), if_neg (by omega),
      List.getElem?_eq_none (le_of_lt beyond)]

theorem captured_rotated (sound : Sound s) (captured : Captured s generation began) (call : Call) :
    Captured (s.rotated.begin_ call) generation began where
  known := by
    have known := captured.known
    have length := sound.length
    change generation ≤ s.revocations.length
    omega
  past := Nat.lt_succ_of_lt captured.past
  before := by
    intro other revoked found less
    have found : revokedAt s.rotated other = some revoked := found
    rw [revokedAt_rotated sound, if_neg (by have := captured.known; omega)] at found
    exact captured.before other revoked found less
  after := by
    intro other revoked found least
    have found : revokedAt s.rotated other = some revoked := found
    rw [revokedAt_rotated sound] at found
    split at found
    · cases found
      exact captured.past
    · exact captured.after other revoked found least

theorem sound_revoke (sound : Sound s) : Sound (revoke s) := by
  have length := sound.length
  have waits : ∀ generation ≤ s.current,
      generation ∈ (s.retired.filter (alive s) ++ [s.current]).filter (alive s) ∨
        Drained s generation := by
    intro generation upto
    by_cases lives : alive s generation = true
    · refine .inl (mem_filter.2 ⟨?_, lives⟩)
      rcases Nat.lt_or_eq_of_le upto with old | rfl
      · exact mem_append_left _
          (mem_filter.2 ⟨sound.retired generation old lives, lives⟩)
      · exact mem_append_right _ mem_cons_self
    · exact .inr (drained_of_dead lives)
  let call : Call :=
    .revoke s.begun ((s.retired.filter (alive s) ++ [s.current]).filter (alive s))
  have drained : ∀ generation, Drained s generation →
      Drained (s.rotated.begin_ call) generation :=
    fun generation idle => every_launch idle rfl
  have drains : ∀ began pending, Draining s began pending →
      Draining (s.rotated.begin_ call) began pending := by
    rintro began pending ⟨last, revoked, each⟩
    refine ⟨last, ?_, fun generation upto => (each generation upto).imp_right (drained _)⟩
    change revokedAt s.rotated last = some began
    rw [revokedAt_rotated sound, if_neg (ne_of_lt (revokedAt_lt sound revoked))]
    exact revoked
  have held : ∀ (at_ : Nat) (other : Call), (s.calls ++ [some call])[at_]? = some (some other) →
      s.calls[at_]? = some (some other) ∨ other = call := by
    intro at_ other found
    exact (concat_cases found).imp_right fun new => Option.some.inj new.2
  refine ⟨?_, ?_, ?_, ?_, ?_, ?_, ?_, ?_, ?_, ?_, ?_⟩
  · change (s.revocations.set s.current (some s.begun) ++ [none]).length = s.revocations.length + 1
    simp
  · change revokedAt s.rotated s.revocations.length = none
    rw [revokedAt_rotated sound, if_neg (by omega)]
    unfold revokedAt
    rw [List.getElem?_eq_none le_rfl]
    rfl
  · intro generation old
    have old : generation < s.revocations.length := old
    change ∃ revoked, revokedAt s.rotated generation = some revoked
    rw [revokedAt_rotated sound]
    split
    · exact ⟨s.begun, rfl⟩
    · exact sound.closed generation (by omega)
  · intro generation revoked found
    have found : revokedAt s.rotated generation = some revoked := found
    rw [revokedAt_rotated sound] at found
    split at found
    · cases found
      exact Nat.lt_succ_self _
    · exact Nat.lt_succ_of_lt (sound.past generation revoked found)
  · refine every_launch (fun at_ other found => ?_) ?_
    · have before := sound.fair at_ other found
      cases other with
      | install policy generation began stage => exact captured_rotated sound before call
      | reconcile generation stage =>
        cases stage with
        | running used host => exact ⟨captured_rotated sound before.1 call, before.2⟩
        | _ =>
          have known : generation ≤ s.current := before
          change generation ≤ s.revocations.length
          omega
      | revoke began pending => exact drains began pending before
    · refine ⟨s.current, ?_, fun generation upto => (waits generation upto).imp_right (drained _)⟩
      change revokedAt s.rotated s.current = some s.begun
      rw [revokedAt_rotated sound, if_pos rfl]
  · intro generation old alive_
    have old : generation < s.revocations.length := old
    have lives : alive s generation = true := by
      rw [alive, or_eq_true, any_eq_true] at alive_
      rcases alive_ with now | ⟨other, member, refers⟩
      · have now : s.revocations.length = generation := of_decide_eq_true now
        omega
      · rcases mem_append.1 member with before | new
        · rw [alive, or_eq_true, any_eq_true]
          exact .inr ⟨other, before, refers⟩
        · rw [mem_singleton] at new
          subst new
          exact (mem_filter.1 (contains_iff_mem.1 refers)).2
    rcases lt_or_ge generation s.current with less | least
    · exact mem_append_left _
        (mem_filter.2 ⟨sound.retired generation less lives, lives⟩)
    · rw [show generation = s.current by omega]
      exact mem_append_right _ mem_cons_self
  · intro at_ at' one two foundOne foundTwo holdsOne holdsTwo
    rcases held at_ one foundOne with one_ | rfl
    · rcases held at' two foundTwo with two_ | rfl
      · exact sound.exclusive at_ at' one two one_ two_ holdsOne holdsTwo
      · cases holdsTwo
    · cases holdsOne
  · intro at_ generation used host found
    rcases held at_ _ found with before | new
    · exact sound.used at_ generation used host before
    · exact absurd new (by simp [call])
  · exact fun installed there => captured_rotated sound (sound.installed installed there) call
  · exact fun fence member => captured_rotated sound (sound.fences fence member) call
  · exact fun began member => drains began [] (sound.returned began member)

theorem sound_stepOf (sound : Sound s) (there : s.calls[place]? = some (some call)) (act : Act) :
    Sound (stepOf s place call act) := by
  cases act with
  | acquire _ => exact sound_acquire sound there
  | cancelled _ => exact sound_cancelled sound there
  | go _ now =>
    cases call with
    | install policy generation began stage => exact sound_installGo sound there
    | reconcile generation stage => exact sound_reconcileGo sound there
    | revoke began pending => exact sound
  | host _ kind retry => exact sound_hostCall sound there
  | answer _ ok => exact sound_hostAnswer sound there
  | finish _ now disabled => exact sound_finish sound there
  | drop _ => exact sound_end sound there
  | _ => exact sound

theorem step_at (there : s.calls[place]? = some (some call)) (about : act.place = some place) :
    step s act = stepOf s place call act := by
  cases act <;> simp only [Act.place, reduceCtorEq, Option.some.injEq] at about
  all_goals
    subst about
    simp only [step, Act.place, Option.bind_some, there, Option.join_some, Option.map_some]

theorem sound_step (sound : Sound s) (act : Act) : Sound (step s act) := by
  cases about : act.place with
  | none =>
    cases act <;> simp only [Act.place, reduceCtorEq] at about
    · rename_i policy
      change Sound (install s policy)
      unfold install
      split
      · refine sound_begin sound (captured_current sound _) ?_ (fun _ => rfl) rfl
        exact fun generation same => (of_decide_eq_true same).symm
      · exact sound
    · refine sound_begin sound le_rfl ?_ (fun _ => rfl) rfl
      exact fun generation same => (of_decide_eq_true same).symm
    · exact sound_revoke sound
  | some place =>
    cases there : s.calls[place]?.join with
    | none =>
      have idle : step s act = s := by
        cases act <;> simp only [Act.place, reduceCtorEq, Option.some.injEq] at about
        all_goals
          subst about
          simp only [step, Act.place, Option.bind_some, there, Option.map_none]
      rw [idle]
      exact sound
    | some call =>
      have there := Option.join_eq_some_iff.1 there
      rw [step_at there about]
      exact sound_stepOf sound there act

end Steps

theorem sound_new : Sound .new where
  length := rfl
  fresh := rfl
  closed := nofun
  past := by
    intro generation revoked found
    cases generation <;> cases found
  fair := nofun
  retired := nofun
  exclusive := nofun
  used := nofun
  installed := nofun
  fences := nofun
  returned := nofun

/- What a revoke guarantees. -/

def Call.inHost : Call → Option Nat
  | .install _ _ began (.validating _ (some _)) => some began
  | .reconcile _ (.running installed (some _)) => some installed.began
  | _ => none

theorem captured_revoked (captured : Captured s generation began)
    (cancelled : revokedAt s last = some revoked) (older : began < revoked) :
    generation ≤ last := by
  by_contra later
  have before := captured.before last revoked cancelled (Nat.lt_of_not_le later)
  omega

theorem host_free (sound : Sound s) (member : revoked ∈ s.returned) :
    Every (fun call => ∀ began, call.inHost = some began → ¬ began < revoked) s.calls := by
  intro place call there began inside older
  obtain ⟨last, cancelled, drained⟩ := sound.returned revoked member
  have idle : ∀ generation, Captured s generation began → call.validated generation = false := by
    intro generation captured
    have upto := captured_revoked captured cancelled older
    exact (drained generation upto).resolve_left nofun place call there
  have fair := sound.fair place call there
  unfold Call.inHost at inside
  split at inside
  · cases inside
    exact absurd (idle _ fair) (by simp [Call.validated])
  · cases inside
    exact absurd (idle _ fair.1) (by simp [Call.validated])
  · cases inside

theorem fence_fails (sound : Sound s) (member : revoked ∈ s.returned) (handed : fence ∈ s.fences)
    (older : fence.began < revoked) (now : Nat) (reading : Option Nat) :
    fence.check (isRevoked s) now reading = .error "Host policy revoked before admission" := by
  obtain ⟨last, cancelled, _⟩ := sound.returned revoked member
  have upto := captured_revoked (sound.fences fence handed) cancelled older
  have bound := revokedAt_lt sound cancelled
  have gone : isRevoked s fence.generation = true :=
    isRevoked_iff.2 (sound.closed fence.generation (by omega))
  rw [ReadyAdmissionFence.check, if_pos gone]

theorem pass_older (sound : Sound s) {place revoked : Nat}
    (there : s.calls[place]? = some (some (.reconcile generation (.running used host))))
    (cancelled : revokedAt s generation = some revoked) : used.began < revoked :=
  (sound.fair place _ there).1.after generation revoked cancelled le_rfl

theorem pass_keeps (sound : Sound s)
    (there : s.calls[place]? = some (some (.reconcile generation stage)))
    (cancelled_ : revokedAt s generation = some revoked) (held : s.installed = some policy)
    (later : revoked < policy.began) (about : act.place = some place) :
    (step s act).installed = some policy := by
  have gone : isRevoked s generation = true := isRevoked_iff.2 ⟨revoked, cancelled_⟩
  have idle : ∀ used host, stage ≠ .running used host := by
    rintro used host rfl
    have older := pass_older sound there cancelled_
    have same := sound.used place generation used host there
    rw [held] at same
    cases same
    omega
  rw [step_at there about]
  cases stage with
  | running used host => exact absurd rfl (idle used host)
  | waitsActive | hasActive | waitsState | hasState =>
    cases act <;>
      simp only [stepOf, acquire, cancelled, reconcileGo, hostCall, hostAnswer, finish, gone,
        if_true]
    all_goals first | exact held | (split <;> exact held)

/-- In every run: once a revoke has returned, no Host call is in progress for a policy whose install
    began before it, the fences of such a policy fail, and a pass of a revoked generation neither
    runs nor clears a policy that was installed after. -/
theorem revocation_is_barrier (acts : List Act) :
    let s := run step .new acts
    (∀ revoked ∈ s.returned,
      Every (fun call => ∀ began, call.inHost = some began → ¬ began < revoked) s.calls ∧
      ∀ fence ∈ s.fences, fence.began < revoked → ∀ now reading,
        fence.check (isRevoked s) now reading = .error "Host policy revoked before admission") ∧
    ∀ place generation stage revoked,
      s.calls[place]? = some (some (.reconcile generation stage)) →
      revokedAt s generation = some revoked →
      (∀ used host, stage = .running used host → used.began < revoked) ∧
      ∀ policy, s.installed = some policy → revoked < policy.began →
        ∀ act, act.place = some place → (step s act).installed = some policy := by
  intro s
  have sound : Sound s :=
    run_keeps (P := Sound) (fun _ act sound => sound_step sound act) acts sound_new
  refine ⟨fun revoked member => ⟨host_free sound member, ?_⟩, ?_⟩
  · exact fun fence handed older now reading => fence_fails sound member handed older now reading
  · intro place generation stage revoked there cancelled
    refine ⟨?_, fun policy held later act about =>
      pass_keeps sound there cancelled held later about⟩
    rintro used host rfl
    exact pass_older sound there cancelled

end Ready
