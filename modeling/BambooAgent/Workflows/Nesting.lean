import BambooAgent.Library.Checks
import BambooAgent.Workflows.Bundles

/- What the checks of a bundle show of the definitions that call each other: that there is no cycle
   among them, and when their nesting stays within the limit of the root. -/
namespace Workflows
open WorkflowDefinitionBundle

def Calls (bundle : WorkflowDefinitionBundle β) (caller called : String) : Prop :=
  ∃ definition, bundle.getKey caller = some definition ∧
    ∃ step ∈ definition.steps, nestedKey step.kind = some called

/-- A chain of this many calls from the root. -/
inductive CallChain (bundle : WorkflowDefinitionBundle β) : Nat → String → Prop where
  | root : CallChain bundle 0 bundle.rootKey
  | call {calls caller called} (earlier : CallChain bundle calls caller)
      (next : Calls bundle caller called) : CallChain bundle (calls + 1) called

def Complete (bundle : WorkflowDefinitionBundle β) : Prop :=
  ∀ name, Relation.ReflTransGen (Calls bundle) bundle.rootKey name →
    ∃ definition, bundle.getKey name = some definition ∧
      key definition.id definition.revision = name

def Acyclic (bundle : WorkflowDefinitionBundle β) : Prop :=
  ∀ name, Relation.ReflTransGen (Calls bundle) bundle.rootKey name →
    ¬ Relation.TransGen (Calls bundle) name name

/- What the traversals follow. -/

variable {compiler : Compiler β} {definition : WorkflowRunDefinition β}
  {compiled : CompiledWorkflow β}

theorem compile_eq_ok (compiles : compiler.compile definition = .ok compiled) :
    compiled = ⟨definition, compiler.order definition⟩ := by
  unfold Compiler.compile at compiles
  split at compiles
  · cases compiles
  · exact (Except.ok.inj compiles).symm

theorem mem_order :
    (∃ step ∈ compiler.order definition, nestedKey step.2.kind = some called) ↔
      ∃ step ∈ definition.steps, nestedKey step.kind = some called := by
  constructor
  · rintro ⟨step, held, kind⟩
    obtain ⟨original, member, rfl⟩ :=
      List.mem_map.1 ((compiler.order_perm definition).mem_iff.1 held)
    exact ⟨original, member, kind⟩
  · rintro ⟨step, member, kind⟩
    exact ⟨(step.id, step), (compiler.order_perm definition).mem_iff.2
      (List.mem_map.2 ⟨step, member, rfl⟩), kind⟩

theorem checkNested_eq_ok (checked : checkNested missing bundle compiled kind = .ok found) :
    found = (nestedKey kind).toList := by
  cases kind with
  | tool tool args capabilities => exact (Except.ok.inj checked).symm
  | agent agent prompt capabilities => exact (Except.ok.inj checked).symm
  | workflow workflowId revision args =>
    unfold checkNested at checked
    dsimp only at checked
    split at checked
    · cases checked
    · split at checked
      · cases checked
      · exact (Except.ok.inj checked).symm

theorem stepTarget_eq_ok
    (asked : stepTarget ports rootLimits bundle compiled kind = .ok (target, capabilities, nested)) :
    nested = (nestedKey kind).toList := by
  cases kind with
  | tool tool args listed =>
    cases asked
    rfl
  | agent agent prompt listed =>
    obtain ⟨spec, _, asked⟩ := Checks.bind_eq_ok.1 asked
    split at asked
    · cases asked
    · split at asked
      · cases asked
      · cases asked
        rfl
  | workflow workflowId revision args =>
    obtain ⟨found, checked, asked⟩ := Checks.bind_eq_ok.1 asked
    cases asked
    exact checkNested_eq_ok checked

theorem preflightStep_eq_ok
    (passed : preflightStep ports allowed rootLimits bundle compiled step = .ok nested) :
    nested = (nestedKey step.kind).toList := by
  obtain ⟨⟨target, capabilities, found⟩, asked, passed⟩ := Checks.bind_eq_ok.1 passed
  dsimp only at passed
  split at passed
  · cases passed
  · split at passed
    · cases passed
    · cases passed
      exact stepTarget_eq_ok asked

theorem mem_targets {steps : List (String × WorkflowStepDefinition)}
    {check : String × WorkflowStepDefinition → Except WorkflowRunError (List String)}
    (each : ∀ step found, check step = .ok found → found = (nestedKey step.2.kind).toList)
    (checked : steps.mapM check = .ok lists) :
    called ∈ lists.flatten ↔ ∃ step ∈ steps, nestedKey step.2.kind = some called := by
  have pairs := (Checks.mapM_eq_ok steps lists).1 checked
  clear checked
  induction pairs with
  | nil => exact ⟨fun member => (List.not_mem_nil member).elim,
      fun ⟨_, member, _⟩ => (List.not_mem_nil member).elim⟩
  | @cons step found steps lists passed later ih =>
    rw [List.flatten_cons, List.mem_append, each step found passed, Option.mem_toList,
      List.exists_mem_cons_iff]
    exact or_congr Iff.rfl ih

theorem validTargets_eq_ok (valid : validTargets compiler bundle here = .ok found) :
    (∃ definition, bundle.getKey here = some definition ∧
      key definition.id definition.revision = here) ∧
    ∀ called, called ∈ found ↔ Calls bundle here called := by
  unfold validTargets at valid
  split at valid
  · cases valid
  · rename_i definition got
    split at valid
    · cases valid
    · rename_i identity
      obtain ⟨compiled, compiles, valid⟩ := Checks.bind_eq_ok.1 valid
      obtain ⟨lists, checked, valid⟩ := Checks.bind_eq_ok.1 valid
      cases valid
      cases compile_eq_ok compiles
      refine ⟨⟨definition, got, not_not.1 identity⟩, fun called => ?_⟩
      rw [mem_targets (fun _ _ passed => checkNested_eq_ok passed) checked, mem_order]
      constructor
      · exact fun steps => ⟨definition, got, steps⟩
      · rintro ⟨other, same, steps⟩
        cases got.symm.trans same
        exact steps

theorem preflightTargets_eq_ok
    (passed : preflightTargets compiler ports allowed rootLimits bundle here = .ok found) :
    ∀ called, called ∈ found ↔ Calls bundle here called := by
  unfold preflightTargets at passed
  split at passed
  · cases passed
  · rename_i definition got
    split at passed
    · cases passed
    · obtain ⟨compiled, compiles, passed⟩ := Checks.bind_eq_ok.1 passed
      obtain ⟨lists, checked, passed⟩ := Checks.bind_eq_ok.1 passed
      cases passed
      cases compile_eq_ok compiles
      intro called
      rw [mem_targets (fun _ _ passed => preflightStep_eq_ok passed) checked, mem_order]
      constructor
      · exact fun steps => ⟨definition, got, steps⟩
      · rintro ⟨other, same, steps⟩
        cases got.symm.trans same
        exact steps

section Traversed
variable {bundle : WorkflowDefinitionBundle β}
  {inspect : String → δ → Except WorkflowRunError Unit}

theorem traversed_of_called
    (follows : ∀ here found, targets here = .ok found →
      ∀ called, called ∈ found ↔ Calls bundle here called)
    (accepts : Traversals.Accepts range inspect (Traversals.spread targets next) final []
      [(bundle.rootKey, label)])
    (called : Relation.ReflTransGen (Calls bundle) bundle.rootKey name) :
    Relation.ReflTransGen (Traversals.Edge targets) bundle.rootKey name := by
  induction called with
  | refl => exact .refl
  | tail walk call ih =>
    obtain ⟨_, _, found, known⟩ := Traversals.accepts_complete accepts ih
    exact ih.tail ⟨found, known, (follows _ found known _).2 call⟩

theorem called_seen
    (follows : ∀ here found, targets here = .ok found →
      ∀ called, called ∈ found ↔ Calls bundle here called)
    (accepts : Traversals.Accepts range inspect (Traversals.spread targets next) final []
      [(bundle.rootKey, label)])
    (called : Relation.ReflTransGen (Calls bundle) bundle.rootKey name) :
    Traversals.Seen final name ∧ ∃ found, targets name = .ok found := by
  obtain ⟨seen, _, known⟩ :=
    Traversals.accepts_complete accepts (traversed_of_called follows accepts called)
  exact ⟨seen, known⟩

end Traversed

/- Validation. -/

theorem noCycle_eq_ok (passed : noCycle here path = .ok ()) : here ∉ path := by
  exact (Checks.unless_eq_ok.1 passed).1

theorem accepts_of_validateBundle [DecidableEq β]
    {secretFree : WorkflowDefinitionBundle β → Except String Unit} {root : WorkflowRunDefinition β}
    {bundle : WorkflowDefinitionBundle β}
    (valid : validateBundle compiler secretFree root bundle = .ok ()) :
    ∃ final, Traversals.Accepts (bundle.definitions.map Prod.fst) noCycle
      (Traversals.spread (validTargets compiler bundle) (fun here path => path ++ [here]))
      final [] [(bundle.rootKey, [])] := by
  obtain ⟨identity, valid⟩ := Checks.unless_eq_ok.1 valid
  rw [not_or, not_or, not_not, not_not] at identity
  have same : bundle.rootKey = key root.id root.revision := by
    unfold rootKey
    rw [identity.1, identity.2.1]
  split at valid
  · cases valid
  · rw [← same] at valid
    cases searched : Traversals.search (bundle.definitions.map Prod.fst)
        (fun key => .preflight ("pinned bundle is missing " ++ key)) noCycle
        (Traversals.spread (validTargets compiler bundle) (fun here path => path ++ [here]))
        [] [(bundle.rootKey, [])] with
    | error error =>
      rw [searched] at valid
      cases valid
    | ok final => exact ⟨final, Traversals.accepts_of_search searched⟩

theorem validateBundle_sound [DecidableEq β]
    {secretFree : WorkflowDefinitionBundle β → Except String Unit} {root : WorkflowRunDefinition β}
    {bundle : WorkflowDefinitionBundle β}
    (valid : validateBundle compiler secretFree root bundle = .ok ()) :
    Complete bundle ∧ Acyclic bundle := by
  obtain ⟨final, accepts⟩ := accepts_of_validateBundle valid
  have follows := fun here found known => (@validTargets_eq_ok β compiler bundle here found known).2
  constructor
  · intro name called
    obtain ⟨_, found, known⟩ := called_seen follows accepts called
    exact (validTargets_eq_ok known).1
  · intro name called cycle
    have edge : ∀ {a b}, Relation.ReflTransGen (Calls bundle) bundle.rootKey a →
        Calls bundle a b → Traversals.FreshEdge (validTargets compiler bundle) final [] a b := by
      intro a b called call
      obtain ⟨seen, found, known⟩ := called_seen follows accepts called
      obtain ⟨seen', _⟩ := called_seen follows accepts (called.tail call)
      exact ⟨⟨found, known, (follows _ found known _).2 call⟩,
        ⟨seen, fun ⟨_, member⟩ => List.not_mem_nil member⟩,
        ⟨seen', fun ⟨_, member⟩ => List.not_mem_nil member⟩⟩
    have walk : ∀ other, Relation.TransGen (Calls bundle) name other →
        Relation.TransGen (Traversals.FreshEdge (validTargets compiler bundle) final [])
          name other := by
      intro other walk
      induction walk with
      | single call => exact .single (edge called call)
      | tail walk call ih => exact ih.tail (edge (called.trans walk.to_reflTransGen) call)
    exact Traversals.accepts_acyclic (fun _ _ passed => noCycle_eq_ok passed) accepts name
      (walk name cycle)

/- Depth. -/

theorem chain_shorter {bundle : WorkflowDefinitionBundle β} (chain : CallChain bundle calls name) :
    ∀ fewer ≤ calls, ∃ other, CallChain bundle fewer other := by
  induction chain with
  | root =>
    intro fewer le
    obtain rfl := Nat.le_zero.1 le
    exact ⟨_, .root⟩
  | @call calls caller called earlier next ih =>
    intro fewer le
    rcases Nat.le_succ_iff.1 le with le | rfl
    · exact ih fewer le
    · exact ⟨called, .call earlier next⟩

theorem nestedKey_eq_some (calls : nestedKey kind = some called) :
    ∃ workflowId revision args, kind = .workflow workflowId revision args ∧
      key workflowId revision = called := by
  cases kind with
  | tool tool args capabilities => cases calls
  | agent agent prompt capabilities => cases calls
  | workflow workflowId revision args =>
    exact ⟨workflowId, revision, args, rfl, Option.some.inj calls⟩

theorem dispatchWorkflow_eq_ok {target : WorkflowRunDefinition β} :
    dispatchWorkflow rootLimits bundle depth workflowId revision = .ok (target, later) ↔
      depth + 1 < rootLimits.maxNestingDepth ∧
        bundle.getKey (key workflowId revision) = some target ∧ later = depth + 1 := by
  unfold dispatchWorkflow WorkflowDefinitionBundle.get
  rw [Checks.unless_eq_ok, not_le]
  refine and_congr_right fun _ => ?_
  cases bundle.getKey (key workflowId revision) with
  | none => exact ⟨fun same => (by cases same), fun both => (by cases both.1)⟩
  | some definition =>
    constructor
    · intro same
      cases same
      exact ⟨rfl, rfl⟩
    · rintro ⟨same, rfl⟩
      cases same
      rfl

theorem dispatchWorkflow_too_deep {bundle : WorkflowDefinitionBundle β} :
    dispatchWorkflow rootLimits bundle depth workflowId revision = .error depthExceeded ↔
      rootLimits.maxNestingDepth ≤ depth + 1 := by
  unfold dispatchWorkflow
  split
  · rename_i deep
    exact ⟨fun _ => deep, fun _ => rfl⟩
  · rename_i shallow
    refine ⟨fun failed => ?_, fun deep => absurd deep shallow⟩
    split at failed
    · cases failed
    · cases failed

theorem chain_of_started (started : Started rootLimits bundle definition depth) :
    ∃ name, CallChain bundle depth name ∧ bundle.getKey name = some definition := by
  induction started with
  | root pinned => exact ⟨bundle.rootKey, .root, pinned⟩
  | @nested definition depth step workflowId revision args target later caller held kind
      dispatched ih =>
    obtain ⟨name, chain, got⟩ := ih
    obtain ⟨_, found, rfl⟩ := dispatchWorkflow_eq_ok.1 dispatched
    exact ⟨key workflowId revision, .call chain ⟨definition, got, step, held, by rw [kind]; rfl⟩,
      found⟩

theorem started_of_chain {bundle : WorkflowDefinitionBundle β}
    (chain : CallChain bundle calls name) :
    calls < rootLimits.maxNestingDepth → ∀ definition, bundle.getKey name = some definition →
      Started rootLimits bundle definition calls := by
  induction chain with
  | root => exact fun _ definition got => .root got
  | @call calls caller called earlier next ih =>
    intro within definition got
    obtain ⟨callerDefinition, held, step, member, kind⟩ := next
    obtain ⟨workflowId, revision, args, same, rfl⟩ := nestedKey_eq_some kind
    exact .nested (ih (Nat.lt_of_succ_lt within) callerDefinition held) member same
      (dispatchWorkflow_eq_ok.2 ⟨within, got, rfl⟩)

theorem failsTooDeep_iff {bundle : WorkflowDefinitionBundle β}
    (positive : 0 < rootLimits.maxNestingDepth) :
    FailsTooDeep rootLimits bundle ↔
      ∃ calls name, CallChain bundle calls name ∧ rootLimits.maxNestingDepth ≤ calls := by
  constructor
  · rintro ⟨definition, depth, started, step, held, workflowId, revision, args, kind, failed⟩
    obtain ⟨name, chain, got⟩ := chain_of_started started
    exact ⟨depth + 1, key workflowId revision,
      .call chain ⟨definition, got, step, held, by rw [kind]; rfl⟩,
      dispatchWorkflow_too_deep.1 failed⟩
  · rintro ⟨calls, name, chain, deep⟩
    obtain ⟨other, exactly⟩ := chain_shorter chain _ deep
    obtain ⟨depth, limit⟩ := Nat.exists_eq_succ_of_ne_zero (Nat.pos_iff_ne_zero.1 positive)
    rw [limit] at exactly
    cases exactly with
    | call earlier next =>
      obtain ⟨definition, got, step, held, kind⟩ := next
      obtain ⟨workflowId, revision, args, same, _⟩ := nestedKey_eq_some kind
      refine ⟨definition, depth, started_of_chain earlier ?_ definition got, step, held,
        workflowId, revision, args, same, dispatchWorkflow_too_deep.2 (le_of_eq limit)⟩
      rw [limit]
      exact Nat.lt_succ_self depth

/- Preflight. -/

theorem withinDepth_eq_ok :
    withinDepth rootLimits here depth = .ok () ↔ depth < rootLimits.maxNestingDepth := by
  unfold withinDepth
  rw [Checks.unless_eq_ok, not_le]
  exact ⟨And.left, fun within => ⟨within, rfl⟩⟩

/-- Every chain of as many calls as the limit shows in the first visits: some definition that
    calls another is first visited at the last depth within the limit, or below it. -/
def LongChainsShow (compiler : Compiler β) (ports : SessionPorts) (allowed : Finset String)
    (rootLimits : WorkflowBudgets) (bundle : WorkflowDefinitionBundle β) : Prop :=
  ∀ visits, preflightVisits (fun _ _ => .ok ()) compiler ports allowed rootLimits bundle =
      .ok visits →
    (∃ calls name, CallChain bundle calls name ∧ rootLimits.maxNestingDepth ≤ calls) →
      rootLimits.maxNestingDepth = 0 ∨ ∃ name depth, (name, depth) ∈ visits ∧
        (∃ called, Calls bundle name called) ∧ rootLimits.maxNestingDepth ≤ depth + 1

theorem preflightBundle_eq_ok :
    (∃ agents, preflightBundle compiler ports allowed rootLimits bundle = .ok agents) ↔
      ∃ visits, preflightVisits (withinDepth rootLimits) compiler ports allowed rootLimits bundle =
        .ok visits := by
  unfold preflightBundle
  cases preflightVisits (withinDepth rootLimits) compiler ports allowed rootLimits bundle with
  | error error => exact ⟨fun ⟨_, same⟩ => (by cases same), fun ⟨_, same⟩ => (by cases same)⟩
  | ok visits => exact ⟨fun _ => ⟨visits, rfl⟩, fun _ => ⟨_, rfl⟩⟩

theorem limited_visits :
    preflightVisits (withinDepth rootLimits) compiler ports allowed rootLimits bundle =
        .ok visits ↔
      preflightVisits (fun _ _ => .ok ()) compiler ports allowed rootLimits bundle = .ok visits ∧
        0 < rootLimits.maxNestingDepth ∧
        ∀ name depth, (name, depth) ∈ visits → (∃ called, Calls bundle name called) →
          depth + 1 < rootLimits.maxNestingDepth := by
  constructor
  · intro visited
    have accepts := Traversals.accepts_of_search visited
    obtain ⟨worked, each⟩ := Traversals.accepts_closed accepts
    refine ⟨Traversals.search_of_accepts (Traversals.accepts_uninspected accepts),
      withinDepth_eq_ok.1 (worked _ List.mem_cons_self).2, ?_⟩
    rintro name depth member ⟨called, call⟩
    obtain ⟨_, found, expanded, passed⟩ := each name depth member
    obtain ⟨items, known, rfl⟩ := Traversals.spread_eq_ok.1 expanded
    have there := (preflightTargets_eq_ok known called).2 call
    exact withinDepth_eq_ok.1 (passed (called, depth + 1) (List.mem_map.2 ⟨called, there, rfl⟩)).2
  · rintro ⟨visited, positive, shallow⟩
    refine Traversals.search_of_accepts
      (Traversals.accepts_inspected (Traversals.accepts_of_search visited) ?_ ?_)
    · intro entry member
      obtain rfl := List.mem_singleton.1 member
      exact withinDepth_eq_ok.2 positive
    · intro name depth found member expanded entry child
      obtain ⟨items, known, rfl⟩ := Traversals.spread_eq_ok.1 expanded
      obtain ⟨called, there, rfl⟩ := List.mem_map.1 child
      exact withinDepth_eq_ok.2
        (shallow name depth member ⟨called, (preflightTargets_eq_ok known called).1 there⟩)

def calling (id : String) (called : List String) : WorkflowRunDefinition Unit where
  id := id
  revision := 1
  inputSchema := .object [("type", .string "object")]
  steps := called.map (fun target => ⟨"call-" ++ target, .workflow target 1 (.object []), none⟩)
  budgets := ⟨1, 0, 4, 0, 4, 1000, none, none⟩
  rest := ()

def sharedBundle : WorkflowDefinitionBundle Unit where
  rootId := "root"
  rootRevision := 1
  definitions := [calling "first" ["second"], calling "last" [],
    calling "root" ["first", "shared"], calling "second" ["shared"],
    calling "shared" ["last"]].map (fun definition => (key definition.id 1, definition))

def inOrder : Compiler Unit where
  check := fun _ => .ok ()
  order := fun definition => definition.steps.map (fun step => (step.id, step))
  order_perm := fun _ => .refl _

def openPorts : SessionPorts := ⟨fun _ => .ok none, fun _ _ => .allow⟩

def sharedCalls : List (String × List String) :=
  [(key "root" 1, [key "first" 1, key "shared" 1]), (key "shared" 1, [key "last" 1]),
    (key "last" 1, []), (key "first" 1, [key "second" 1]), (key "second" 1, [key "shared" 1])]

end Workflows
