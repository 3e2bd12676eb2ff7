import BambooAgent.Permissions.Evaluation
import BambooAgent.Library.Checks

/- A denial comes before everything that could allow, and more restrictive rules only ever restrict:
   precedence and monotonicity of the evaluator. -/
namespace Permissions
open PermissionConfig Checks SwapRemove List

variable {config : PermissionConfig}

/- What the searches find. -/

/-- The rule holds of the request. -/
def Applies (host : Host) (clock : Clock) (input : PermissionEvaluation)
    (effect : PermissionRuleEffect) (rule : DurablePermissionRule) : Prop :=
  rule.effect = effect ∧
    rule.isMatch host clock input.permissionType input.resource input.workspacePath = true

theorem matchingDurableRule_eq_none :
    config.matchingDurableRule host clock input effect = none ↔
      ∀ rule ∈ config.durableRules, ¬ Applies host clock input effect rule := by
  unfold matchingDurableRule
  rw [List.head?_eq_none_iff, ← length_eq_zero_iff, ]
  unfold Applies
  simp

theorem whitelist_fold (rules : List PermissionRule) (permissionType : PermissionType)
    (resource : String) (allowed : Option Bool) :
    rules.foldl (fun allowed rule =>
        if allowed = some false then allowed
        else if rule.isMatch host clock permissionType resource then some rule.allowed
        else allowed) allowed = some false ↔
      allowed = some false ∨ ∃ rule ∈ rules, rule.allowed = false ∧
        rule.isMatch host clock permissionType resource = true := by
  induction rules generalizing allowed with
  | nil => simp
  | cons rule rest ih =>
    rw [foldl_cons, ih]
    by_cases denied : allowed = some false
    · simp [denied]
    · by_cases holds : rule.isMatch host clock permissionType resource = true
      · cases allows : rule.allowed with
        | true => simp [denied, holds, allows]
        | false => simp [holds, allows]
      · simp [denied, holds]

theorem isWhitelistAllowed_eq_false :
    config.isWhitelistAllowed host clock permissionType resource = some false ↔
      ∃ rule ∈ config.whitelist, rule.allowed = false ∧
        rule.isMatch host clock permissionType resource = true := by
  unfold isWhitelistAllowed
  rw [whitelist_fold]
  simp

/- Denials. -/

/-- Something denies the request explicitly. -/
def Denied (desk : Desk) (moment : Moment) (config : PermissionConfig)
    (input : PermissionEvaluation) : Prop :=
  input.platformHardDeny.isSome = true ∨
    (∃ rule ∈ config.durableRules, Applies desk.host moment.clock input .deny rule) ∨
    ((∃ deny ∈ config.typedScopedSessionDenies input.sessionId input.permissionType,
        deny.isMatch desk.host moment.clock input.permissionType input.resource = true) ∨
      ∃ deny ∈ config.scopedSessionDenies input.sessionId input.permissionType,
        deny.isMatch desk.host moment.clock input.permissionType input.resource = true) ∨
    ∃ rule ∈ config.whitelist, rule.allowed = false ∧
      rule.isMatch desk.host moment.clock input.permissionType input.resource = true

theorem isScopedSessionDenied_iff :
    config.isScopedSessionDenied host clock sessionId permissionType resource = true ↔
      (∃ deny ∈ config.typedScopedSessionDenies sessionId permissionType,
        deny.isMatch host clock permissionType resource = true) ∨
      ∃ deny ∈ config.scopedSessionDenies sessionId permissionType,
        deny.isMatch host clock permissionType resource = true := by
  unfold isScopedSessionDenied
  rw [Bool.or_eq_true, any_eq_true, any_eq_true]
  constructor
  · rintro (typed | ⟨deny, member, holds⟩)
    · exact .inl typed
    · exact .inr ⟨deny, member, (Bool.and_eq_true_iff.1 holds).2⟩
  · rintro (typed | ⟨deny, member, holds⟩)
    · exact .inl typed
    · refine .inr ⟨deny, member, Bool.and_eq_true_iff.2 ⟨?_, holds⟩⟩
      exact (Bool.and_eq_true_iff.1 holds).1

theorem reason_if [Decidable c] {reason : PermissionDenyReason}
    {rest : Option PermissionDenyReason} :
    (if c then some reason else rest) = none ↔ ¬ c ∧ rest = none := by
  split
  · simp [*]
  · simp [*]

/-- Nothing that narrows the request denies it. -/
def Unrestricted (desk : Desk) (moment : Moment) (config : PermissionConfig)
    (restricting : Option PermissionEvaluation) : Prop :=
  ∀ restriction ∈ restricting,
    config.matchingDurableRule desk.host moment.clock restriction .deny = none ∧
    config.isScopedSessionDenied desk.host moment.clock restriction.sessionId
      restriction.permissionType restriction.resource = false ∧
    config.isWhitelistAllowed desk.host moment.clock restriction.permissionType
      restriction.resource ≠ some false

theorem denial_eq_none :
    config.denial desk moment input restricting = none ↔
      input.platformHardDeny = none ∧
      config.matchingDurableRule desk.host moment.clock input .deny = none ∧
      config.isScopedSessionDenied desk.host moment.clock input.sessionId input.permissionType
        input.resource = false ∧
      config.isWhitelistAllowed desk.host moment.clock input.permissionType input.resource ≠
        some false ∧
      Unrestricted desk moment config restricting ∧
      ¬ ((config.resolution input).effective = .plan ∧ input.riskLevel ≠ .low) := by
  unfold denial
  cases platform : input.platformHardDeny with
  | some message => simp
  | none =>
    cases denied : config.matchingDurableRule desk.host moment.clock input .deny with
    | some rule => simp
    | none =>
      rw [reason_if, reason_if, reason_if]
      unfold Unrestricted
      cases restricting with
      | none => simp
      | some restriction => simp [and_assoc]

theorem denial_of_denied (denied : Denied desk moment config input) :
    config.denial desk moment input restricting ≠ none := by
  rw [Ne, denial_eq_none, matchingDurableRule_eq_none]
  rintro ⟨platform, rules, session, legacy, _⟩
  rcases denied with hard | ⟨rule, member, applies⟩ | session' | listed
  · rw [platform] at hard
    cases hard
  · exact rules rule member applies
  · rw [isScopedSessionDenied_iff.2 session'] at session
    cases session
  · exact legacy (isWhitelistAllowed_eq_false.2 listed)

theorem denial_of_plan (plan : config.mode = .plan) (risky : input.riskLevel ≠ .low) :
    config.denial desk moment input restricting ≠ none := by
  rw [Ne, denial_eq_none]
  rintro ⟨_, _, _, _, _, unplanned⟩
  refine unplanned ⟨?_, risky⟩
  unfold resolution resolvePermissionMode
  rw [plan]

theorem evaluation_denied (denied : config.denial desk moment input restricting ≠ none) :
    (config.evaluateWithAdditionalRestrictions desk moment input additional restricting).1.isDeny =
      true := by
  unfold evaluateWithAdditionalRestrictions
  cases found : config.denial desk moment input restricting with
  | none => exact absurd found denied
  | some reason => rfl

/- More restrictive configurations. -/

/-- The same but for the restrictions. -/
structure SameGrants (desk : Desk) (clock : Clock) (config narrowed : PermissionConfig) :
    Prop where
  typed : narrowed.typedScopedSessionGrants = config.typedScopedSessionGrants
  scopedGrants : narrowed.scopedSessionGrants = config.scopedSessionGrants
  oneShot : narrowed.oneShotGrants = config.oneShotGrants
  typedOneShot : narrowed.typedOneShotGrants = config.typedOneShotGrants
  enabled : narrowed.enabled = config.enabled
  mode : narrowed.mode = config.mode
  threshold : narrowed.confirmThreshold = config.confirmThreshold
  revision : narrowed.policyRevision = config.policyRevision
  allows : ∀ input, narrowed.matchingDurableRule desk.host clock input .allow =
    config.matchingDurableRule desk.host clock input .allow
  denies : ∀ input, narrowed.matchingDurableRule desk.host clock input .deny = none →
    config.matchingDurableRule desk.host clock input .deny = none
  session : ∀ sessionId permissionType resource,
    narrowed.isScopedSessionDenied desk.host clock sessionId permissionType resource = false →
    config.isScopedSessionDenied desk.host clock sessionId permissionType resource = false
  legacy : ∀ permissionType resource,
    narrowed.isWhitelistAllowed desk.host clock permissionType resource ≠ some false →
    narrowed.isWhitelistAllowed desk.host clock permissionType resource =
      config.isWhitelistAllowed desk.host clock permissionType resource

theorem SameGrants.resolution (same : SameGrants desk clock config narrowed) :
    narrowed.resolution input = config.resolution input := by
  unfold PermissionConfig.resolution
  rw [same.mode]

theorem SameGrants.policy (same : SameGrants desk clock config narrowed) :
    narrowed.effectivePolicy input = config.effectivePolicy input := by
  unfold effectivePolicy
  rw [same.resolution, same.revision]

theorem SameGrants.denial (same : SameGrants desk moment.clock config narrowed)
    (undenied : narrowed.denial desk moment input restricting = none) :
    config.denial desk moment input restricting = none := by
  rw [denial_eq_none] at undenied ⊢
  obtain ⟨platform, rules, session, legacy, restrictions, unplanned⟩ := undenied
  refine ⟨platform, same.denies _ rules, same.session _ _ _ session, ?_, ?_, ?_⟩
  · rw [← same.legacy _ _ legacy]
    exact legacy
  · intro restriction member
    obtain ⟨rules, session, legacy⟩ := restrictions restriction member
    refine ⟨same.denies _ rules, same.session _ _ _ session, ?_⟩
    rw [← same.legacy _ _ legacy]
    exact legacy
  · rw [← same.resolution]
    exact unplanned

theorem SameGrants.consumed (same : SameGrants desk clock config narrowed) :
    (narrowed.consumed moment input).1 = (config.consumed moment input).1 := by
  unfold PermissionConfig.consumed consumeOnceForGeneration consumeOnce
  rw [same.oneShot, same.typedOneShot]
  split
  · rfl
  · split
    · split
      · rfl
      · dsimp only
        split
        · rfl
        · rfl
    · dsimp only
      split
      · rfl
      · rfl

theorem SameGrants.granted (same : SameGrants desk clock config narrowed) :
    narrowed.isScopedSessionGranted host clock sessionId permissionType resource =
      config.isScopedSessionGranted host clock sessionId permissionType resource := by
  unfold isScopedSessionGranted
  rw [same.typed, same.scopedGrants]

theorem SameGrants.settle (same : SameGrants desk moment.clock config narrowed)
    (undenied : narrowed.denial desk moment input restricting = none)
    (asks : narrowed.configuredAlwaysAsk desk moment input additional restricting =
      config.configuredAlwaysAsk desk moment input additional restricting)
    (rule : narrowed.matchingDurableRule desk.host moment.clock input .alwaysAsk =
      config.matchingDurableRule desk.host moment.clock input .alwaysAsk) :
    narrowed.settle desk moment input additional restricting =
      config.settle desk moment input additional restricting := by
  have unlisted := (denial_eq_none.1 undenied).2.2.2.1
  unfold PermissionConfig.settle buildRequest
  rw [same.resolution, same.policy, asks, rule, same.granted, same.allows, same.legacy _ _ unlisted,
    same.enabled, same.threshold, same.revision]

def outcome (desk : Desk) (moment : Moment) (config : PermissionConfig)
    (input : PermissionEvaluation) (additional : Option (String × String))
    (restricting : Option PermissionEvaluation) : PermissionOutcome :=
  (config.evaluateWithAdditionalRestrictions desk moment input additional restricting).1

theorem outcome_eq :
    outcome desk moment config input additional restricting =
      match config.denial desk moment input restricting with
      | some reason => .deny reason (config.effectivePolicy input)
      | none =>
        if (config.consumed moment input).1 = true then
          .allow .oneShot (config.effectivePolicy input)
        else config.settle desk moment input additional restricting := by
  unfold outcome evaluateWithAdditionalRestrictions
  cases config.denial desk moment input restricting with
  | some reason => rfl
  | none =>
    dsimp only
    split
    · rfl
    · rfl

theorem SameGrants.outcome (same : SameGrants desk moment.clock config narrowed)
    (asks : narrowed.configuredAlwaysAsk desk moment input additional restricting =
      config.configuredAlwaysAsk desk moment input additional restricting)
    (rule : narrowed.matchingDurableRule desk.host moment.clock input .alwaysAsk =
      config.matchingDurableRule desk.host moment.clock input .alwaysAsk) :
    outcome desk moment narrowed input additional restricting =
        outcome desk moment config input additional restricting ∨
      (outcome desk moment narrowed input additional restricting).isDeny = true := by
  rw [outcome_eq, outcome_eq]
  cases undenied : narrowed.denial desk moment input restricting with
  | some reason => exact .inr rfl
  | none =>
    rw [same.denial undenied, same.consumed, same.settle undenied asks rule, same.policy]
    exact .inl rfl

theorem configuredAlwaysAsk_eq_false :
    config.configuredAlwaysAsk desk moment input additional restricting = false ↔
      config.matchingDurableRule desk.host moment.clock input .alwaysAsk = none ∧
      (∀ restriction ∈ restricting,
        config.matchingDurableRule desk.host moment.clock restriction .alwaysAsk = none) ∧
      ∀ rule ∈ config.askRules,
        (desk.analysis.matchesToolCall rule input.toolName input.toolArgs ||
          additional.any (fun context =>
            desk.analysis.matchesToolCall rule context.1 context.2)) = false := by
  unfold configuredAlwaysAsk
  rw [Bool.or_eq_false_iff, Bool.or_eq_false_iff, and_assoc]
  cases restricting with
  | none => simp
  | some restriction => simp

theorem SameGrants.allowed (same : SameGrants desk moment.clock config narrowed)
    (asks : narrowed.configuredAlwaysAsk desk moment input additional restricting = false →
      config.configuredAlwaysAsk desk moment input additional restricting = false)
    (allowed : (Permissions.outcome desk moment narrowed input additional restricting).isAllow =
      true) :
    (Permissions.outcome desk moment config input additional restricting).isAllow = true := by
  rw [outcome_eq] at allowed ⊢
  cases undenied : narrowed.denial desk moment input restricting with
  | some reason =>
    rw [undenied] at allowed
    cases allowed
  | none =>
    rw [undenied, same.consumed] at allowed
    rw [same.denial undenied]
    dsimp only at allowed
    split at allowed
    · rename_i authorized
      rw [if_pos authorized]
      rfl
    · rename_i unauthorized
      rw [if_neg unauthorized]
      cases asked : narrowed.configuredAlwaysAsk desk moment input additional restricting with
      | false =>
        have quiet := asks asked
        have unruled := configuredAlwaysAsk_eq_false.1 asked
        have unruled' := configuredAlwaysAsk_eq_false.1 quiet
        rw [same.settle undenied (asked.trans quiet.symm)
          (unruled.1.trans unruled'.1.symm)] at allowed
        exact allowed
      | true =>
        -- A question is left out only where all questions are.
        unfold PermissionConfig.settle at allowed ⊢
        dsimp only at allowed
        rw [asked, Bool.or_true, same.resolution] at allowed
        split at allowed
        · rename_i silent
          rw [if_pos silent]
          rfl
        · cases allowed

/- The additions. -/

theorem matchingDurableRule_appended (other : rule.effect ≠ effect) :
    matchingDurableRule host clock { config with durableRules := config.durableRules ++ [rule] }
        input effect =
      config.matchingDurableRule host clock input effect := by
  unfold matchingDurableRule
  rw [filter_append]
  have none : [rule].filter (fun rule => decide (rule.effect = effect) &&
      rule.isMatch host clock input.permissionType input.resource input.workspacePath) = [] := by
    simp [other]
  rw [none, append_nil]

theorem matchingDurableRule_more
    (nothing : matchingDurableRule host clock
      { config with durableRules := config.durableRules ++ [rule] } input effect = none) :
    config.matchingDurableRule host clock input effect = none := by
  rw [matchingDurableRule_eq_none] at nothing ⊢
  exact fun other member => nothing other (mem_append_left _ member)

theorem addDurableRule_eq (fresh : ∀ other ∈ config.durableRules, other.id ≠ rule.id)
    (added : config.addDurableRule host rule = .ok narrowed) :
    narrowed = { config with durableRules := config.durableRules ++ [rule] } := by
  obtain ⟨_, _, added⟩ := bind_eq_ok.1 added
  cases added
  congr 2
  apply filter_eq_self.2
  exact fun other member => decide_eq_true (fresh other member)

/-- One more rule or session decision that denies. What is replaced was of the same id, key or
    pattern, so that nothing may stand there yet. -/
inductive AddsDeny (desk : Desk) (clock : Clock) (config : PermissionConfig) :
    PermissionConfig → Prop
  | durable {rule narrowed} (deny : rule.effect = .deny)
      (fresh : ∀ other ∈ config.durableRules, other.id ≠ rule.id)
      (added : config.addDurableRule desk.host rule = .ok narrowed) :
      AddsDeny desk clock config narrowed
  | legacy {rule} (deny : rule.allowed = false)
      (fresh : ∀ other ∈ config.whitelist, whitelistKey other ≠ whitelistKey rule) :
      AddsDeny desk clock config (config.addRule rule)
  | session (before : now.instant ≤ clock.instant) (duration sessionId
      permissionType resourcePattern)
      (fresh : ∀ other ∈ config.scopedSessionDenies sessionId permissionType,
        other.resourcePattern ≠ resourcePattern) :
      AddsDeny desk clock config
        (config.denyScopedSessionPermission now duration sessionId permissionType resourcePattern)
  | typedSession {duration sessionId permissionType matcher narrowed}
      (before : now.instant ≤ clock.instant)
      (fresh : ∀ other ∈ config.typedScopedSessionDenies sessionId permissionType,
        (other.matcher.kind, other.matcher.value) ≠ (matcher.kind, matcher.value))
      (added : config.denyTypedScopedSessionPermission desk.host now duration sessionId
        permissionType matcher = .ok narrowed) : AddsDeny desk clock config narrowed

/-- One more rule that asks, durable or legacy. -/
inductive AddsAlwaysAsk (desk : Desk) (config : PermissionConfig) : PermissionConfig → Prop
  | durable {rule narrowed} (ask : rule.effect = .alwaysAsk)
      (fresh : ∀ other ∈ config.durableRules, other.id ≠ rule.id)
      (added : config.addDurableRule desk.host rule = .ok narrowed) :
      AddsAlwaysAsk desk config narrowed
  | legacy (rule) :
      AddsAlwaysAsk desk config { config with askRules := config.askRules ++ [rule] }

theorem sameGrants_refl : SameGrants desk clock config config :=
  { typed := rfl, scopedGrants := rfl, oneShot := rfl, typedOneShot := rfl, enabled := rfl
    mode := rfl, threshold := rfl, revision := rfl
    allows := fun _ => rfl
    denies := fun _ none => none
    session := fun _ _ _ undenied => undenied
    legacy := fun _ _ _ => rfl }

theorem sameGrants_durable (restricts : rule.effect ≠ .allow) :
    SameGrants desk clock config { config with durableRules := config.durableRules ++ [rule] } :=
  { (sameGrants_refl : SameGrants desk clock config config) with
    allows := fun _ => matchingDurableRule_appended restricts
    denies := fun _ => matchingDurableRule_more }

theorem sameGrants_legacy (deny : rule.allowed = false)
    (fresh : ∀ other ∈ config.whitelist, whitelistKey other ≠ whitelistKey rule) :
    SameGrants desk clock config (config.addRule rule) :=
  { (sameGrants_refl : SameGrants desk clock config config) with
    legacy := by
      intro permissionType resource unlisted
      have kept : config.whitelist.filter (fun other =>
          decide (whitelistKey other ≠ whitelistKey rule)) = config.whitelist :=
        filter_eq_self.2 (fun other member => decide_eq_true (fresh other member))
      unfold isWhitelistAllowed addRule at unlisted ⊢
      rw [kept, foldl_append, foldl_cons, foldl_nil] at unlisted ⊢
      split at unlisted
      · rename_i denied
        exact absurd denied unlisted
      · rename_i open'
        rw [if_neg open']
        split at unlisted
        · rw [deny] at unlisted
          exact absurd rfl unlisted
        · rename_i other
          rw [if_neg other] }

theorem mem_updated {α : Type} {table : String → PermissionType → List α} {fresh : List α}
    {item : α} (kept : item ∈ table sessionId permissionType → item ∈ fresh)
    (member : item ∈ table sessionId' permissionType') :
    item ∈ Function.update table sessionId (Function.update (table sessionId) permissionType fresh)
      sessionId' permissionType' := by
  by_cases session : sessionId' = sessionId
  · subst session
    rw [Function.update_self]
    by_cases type : permissionType' = permissionType
    · subst type
      rw [Function.update_self]
      exact kept member
    · rw [Function.update_of_ne type]
      exact member
  · rw [Function.update_of_ne session]
    exact member

theorem sameGrants_session (before : now.instant ≤ clock.instant)
    (fresh : ∀ other ∈ config.scopedSessionDenies sessionId permissionType,
      other.resourcePattern ≠ resourcePattern) :
    SameGrants desk clock config (config.denyScopedSessionPermission now duration sessionId
      permissionType resourcePattern) :=
  { (sameGrants_refl : SameGrants desk clock config config) with
    session := by
      intro sessionId' permissionType' resource undenied
      apply eq_false_of_ne_true
      intro denied
      rw [← Bool.not_eq_true] at undenied
      apply undenied
      rw [isScopedSessionDenied_iff] at denied ⊢
      rcases denied with typed | ⟨deny, member, holds⟩
      · exact .inl typed
      · refine .inr ⟨deny, mem_updated ?_ member, holds⟩
        intro listed
        have alive : deny.isExpired now = false := by
          have lasting := (Bool.and_eq_true_iff.1 holds).1
          unfold SessionGrant.isExpired at lasting ⊢
          simp only [Bool.not_eq_true', decide_eq_false_iff_not, not_lt] at lasting ⊢
          exact le_trans before lasting
        simp [mem_filter, listed, alive, fresh deny listed] }

theorem sameGrants_typedSession (before : now.instant ≤ clock.instant)
    (fresh : ∀ other ∈ config.typedScopedSessionDenies sessionId permissionType,
      (other.matcher.kind, other.matcher.value) ≠ (matcher.kind, matcher.value))
    (added : config.denyTypedScopedSessionPermission desk.host now duration sessionId
      permissionType matcher = .ok narrowed) : SameGrants desk clock config narrowed := by
  obtain ⟨_, _, added⟩ := bind_eq_ok.1 added
  cases added
  exact
    { (sameGrants_refl : SameGrants desk clock config config) with
      session := by
        intro sessionId' permissionType' resource undenied
        apply eq_false_of_ne_true
        intro denied
        rw [← Bool.not_eq_true] at undenied
        apply undenied
        rw [isScopedSessionDenied_iff] at denied ⊢
        rcases denied with ⟨deny, member, holds⟩ | untyped
        · refine .inl ⟨deny, mem_updated ?_ member, holds⟩
          intro listed
          have alive : deny.isExpired now = false := by
            have lasting := (Bool.and_eq_true_iff.1 holds).1
            unfold TypedSessionGrant.isExpired at lasting ⊢
            simp only [Bool.not_eq_true', decide_eq_false_iff_not, not_lt] at lasting ⊢
            exact le_trans before lasting
          have other := fresh deny listed
          apply mem_append_left
          exact mem_filter.2 ⟨listed, by simp only [alive, decide_eq_true other]; rfl⟩
        · exact .inr untyped }

theorem addsDeny_outcome (adds : AddsDeny desk moment.clock config narrowed) :
    outcome desk moment narrowed input additional restricting =
        outcome desk moment config input additional restricting ∨
      (outcome desk moment narrowed input additional restricting).isDeny = true := by
  cases adds with
  | durable deny fresh added =>
    cases addDurableRule_eq fresh added
    have unasked : ∀ input, matchingDurableRule desk.host moment.clock
        { config with durableRules := config.durableRules ++ [_] } input .alwaysAsk =
        config.matchingDurableRule desk.host moment.clock input .alwaysAsk :=
      fun _ => matchingDurableRule_appended (by rw [deny]; decide)
    apply (sameGrants_durable (by rw [deny]; decide)).outcome
    · unfold configuredAlwaysAsk
      simp only [unasked]
    · exact unasked input
  | legacy deny fresh => exact (sameGrants_legacy deny fresh).outcome rfl rfl
  | session before _ _ _ _ fresh => exact (sameGrants_session before fresh).outcome rfl rfl
  | typedSession before fresh added =>
    have same := sameGrants_typedSession before fresh added
    obtain ⟨_, _, added⟩ := bind_eq_ok.1 added
    cases added
    exact same.outcome rfl rfl

theorem addsAlwaysAsk_allowed (adds : AddsAlwaysAsk desk config narrowed)
    (allowed : (outcome desk moment narrowed input additional restricting).isAllow = true) :
    (outcome desk moment config input additional restricting).isAllow = true := by
  cases adds with
  | durable ask fresh added =>
    cases addDurableRule_eq fresh added
    refine (sameGrants_durable (by rw [ask]; decide)).allowed ?_ allowed
    intro quiet
    obtain ⟨unruled, restrictions, rules⟩ := configuredAlwaysAsk_eq_false.1 quiet
    refine configuredAlwaysAsk_eq_false.2 ⟨matchingDurableRule_more unruled, ?_, rules⟩
    exact fun restriction member => matchingDurableRule_more (restrictions restriction member)
  | legacy rule =>
    have same : SameGrants desk moment.clock config
        { config with askRules := config.askRules ++ [rule] } :=
      { (sameGrants_refl : SameGrants desk moment.clock config config) with typed := rfl }
    refine same.allowed ?_ allowed
    intro quiet
    obtain ⟨unruled, restrictions, rules⟩ := configuredAlwaysAsk_eq_false.1 quiet
    refine configuredAlwaysAsk_eq_false.2 ⟨unruled, restrictions, ?_⟩
    exact fun other member => rules other (mem_append_left _ member)

/- The evaluators. -/

/-- An evaluator in which denials come first and restrictions only restrict. -/
structure Restrictive (desk : Desk) (moment : Moment)
    (evaluator : PermissionConfig → PermissionEvaluation → PermissionOutcome × PermissionConfig) :
    Prop where
  denied : ∀ config input, Denied desk moment config input →
    (evaluator config input).1.isDeny = true
  deny : ∀ config narrowed input, AddsDeny desk moment.clock config narrowed →
    (evaluator narrowed input).1 = (evaluator config input).1 ∨
      (evaluator narrowed input).1.isDeny = true
  ask : ∀ config narrowed input, AddsAlwaysAsk desk config narrowed →
    (evaluator narrowed input).1.isAllow = true → (evaluator config input).1.isAllow = true
  plan : ∀ config input, config.mode = .plan → input.riskLevel ≠ .low →
    (evaluator config input).1.isAllow = false

theorem isAllow_of_isDeny {outcome : PermissionOutcome} (deny : outcome.isDeny = true) :
    outcome.isAllow = false := by
  cases outcome with
  | allow => cases deny
  | deny => rfl
  | ask => rfl

theorem restrictive (desk : Desk) (moment : Moment)
    (additional : PermissionEvaluation → Option (String × String))
    (restricting : PermissionEvaluation → Option PermissionEvaluation) :
    Restrictive desk moment (fun config input => config.evaluateWithAdditionalRestrictions desk
      moment input (additional input) (restricting input)) :=
  { denied := fun _ _ denied => evaluation_denied (denial_of_denied denied)
    deny := fun _ _ _ adds => addsDeny_outcome adds
    ask := fun _ _ _ adds allowed => addsAlwaysAsk_allowed adds allowed
    plan := fun _ _ plan risky =>
      isAllow_of_isDeny (evaluation_denied (denial_of_plan plan risky)) }

theorem send_cases (desk : Desk) (moment : Moment) (input : PermissionEvaluation) :
    (∀ config : PermissionConfig,
      (config.evaluateFrameworkScopedSessionSend desk moment input).1.isDeny = true) ∨
    ∃ additional restricting, ∀ config : PermissionConfig,
      config.evaluateFrameworkScopedSessionSend desk moment input =
        config.evaluateWithAdditionalRestrictions desk moment input additional restricting := by
  unfold evaluateFrameworkScopedSessionSend
  split
  · split
    · exact .inl (fun _ => evaluation_denied (denial_of_denied (.inl rfl)))
    · exact .inr ⟨_, _, fun _ => rfl⟩
  · exact .inl (fun _ => evaluation_denied (denial_of_denied (.inl rfl)))

theorem restrictive_send (desk : Desk) (moment : Moment) : Restrictive desk moment
    (fun config input => config.evaluateFrameworkScopedSessionSend desk moment input) := by
  have under := fun additional restricting =>
    restrictive desk moment (fun _ => additional) (fun _ => restricting)
  constructor
  · intro config input denied
    rcases send_cases desk moment input with always | ⟨additional, restricting, same⟩
    · exact always config
    · rw [same]
      exact (under additional restricting).denied config input denied
  · intro config narrowed input adds
    rcases send_cases desk moment input with always | ⟨additional, restricting, same⟩
    · exact .inr (always narrowed)
    · rw [same, same]
      exact (under additional restricting).deny config narrowed input adds
  · intro config narrowed input adds allowed
    rcases send_cases desk moment input with always | ⟨additional, restricting, same⟩
    · rw [isAllow_of_isDeny (always narrowed)] at allowed
      cases allowed
    · rw [same] at allowed ⊢
      exact (under additional restricting).ask config narrowed input adds allowed
  · intro config input plan risky
    rcases send_cases desk moment input with always | ⟨additional, restricting, same⟩
    · exact isAllow_of_isDeny (always config)
    · rw [same]
      exact (under additional restricting).plan config input plan risky

/-- Denials come first and restrictions only restrict, in every evaluation there is. -/
theorem evaluations_are_restrictive (desk : Desk) (moment : Moment) :
    Restrictive desk moment (fun config input => config.evaluate desk moment input) ∧
      Restrictive desk moment
        (fun config input => config.evaluateFrameworkRootSpawn desk moment input) ∧
      Restrictive desk moment
        (fun config input => config.evaluateFrameworkScopedSessionSend desk moment input) :=
  ⟨restrictive desk moment (fun _ => none) (fun _ => none),
    restrictive desk moment (fun input => some ("session_control",
      desk.analysis.createArguments input.toolArgs)) (fun _ => none),
    restrictive_send desk moment⟩

end Permissions
