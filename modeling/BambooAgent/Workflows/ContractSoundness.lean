import BambooAgent.Library.Checks
import BambooAgent.Workflows.Contracts

/- What the contract of a nested input proves: which values its target then accepts. -/
namespace Workflows
open JsonValues Checks Option Bool

theorem under_ok {checked : Except Flaw Unit} (passed : under place checked = .ok ()) :
    checked = .ok () := by
  cases checked with
  | error flaw => cases passed
  | ok done => rfl

theorem shape_of_propertiesShape : ∀ {object : List (String × Json)} {children : Json},
    propertiesShape object = .ok () → object.lookup "properties" = some children →
      ∃ fields, children = .object fields ∧ childrenShape fields = .ok () := by
  intro object
  induction object with
  | nil => exact fun _ found => by cases found
  | cons first rest ih =>
    intro children passed found
    obtain ⟨key, value⟩ := first
    unfold propertiesShape at passed
    by_cases here : key = "properties"
    · subst here
      cases found
      cases children with
      | object fields => exact ⟨fields, rfl, passed⟩
      | _ => cases passed
    · rw [if_neg here] at passed
      rw [List.lookup_cons, beq_false_of_ne (Ne.symm here)] at found
      exact ih passed found

theorem shape_of_childrenShape : ∀ {fields : List (String × Json)} {child : Json},
    childrenShape fields = .ok () → fields.lookup token = some child →
      schemaShape child = .ok () := by
  intro fields
  induction fields with
  | nil => exact fun _ found => by cases found
  | cons first rest ih =>
    intro child passed found
    obtain ⟨key, value⟩ := first
    obtain ⟨_, shaped, later⟩ := bind_eq_ok.1 passed
    by_cases here : token = key
    · subst here
      rw [List.lookup_cons_self] at found
      cases found
      exact under_ok shaped
    · rw [List.lookup_cons, beq_false_of_ne here] at found
      exact ih later found

theorem shape_of_itemsShape : ∀ {object : List (String × Json)} {child : Json},
    itemsShape object = .ok () → object.lookup "items" = some child →
      schemaShape child = .ok () := by
  intro object
  induction object with
  | nil => exact fun _ found => by cases found
  | cons first rest ih =>
    intro child passed found
    obtain ⟨key, value⟩ := first
    unfold itemsShape at passed
    by_cases here : key = "items"
    · subst here
      cases found
      exact under_ok passed
    · rw [if_neg here] at passed
      rw [List.lookup_cons, beq_false_of_ne (Ne.symm here)] at found
      exact ih passed found

theorem object_of_shape (shaped : schemaShape schema = .ok ()) :
    ∃ object, schema = .object object := by
  cases schema with
  | object object => exact ⟨object, rfl⟩
  | _ => cases shaped

theorem shape_child (shaped : schemaShape schema = .ok ())
    (found : schemaChild schema token = some next) : schemaShape next = .ok () := by
  obtain ⟨object, rfl⟩ := object_of_shape shaped
  obtain ⟨_, _, shaped⟩ := bind_eq_ok.1 shaped
  obtain ⟨_, properties, shaped⟩ := bind_eq_ok.1 shaped
  obtain ⟨_, _, shaped⟩ := bind_eq_ok.1 shaped
  obtain ⟨_, items, _⟩ := bind_eq_ok.1 shaped
  unfold schemaChild at found
  split at found
  · exact shape_of_itemsShape items found
  · obtain ⟨children, here, found⟩ := bind_eq_some_iff.1 found
    obtain ⟨fields, rfl, children⟩ := shape_of_propertiesShape properties here
    exact shape_of_childrenShape children found

theorem shape_at : ∀ {tokens : List String} {schema next : Json},
    schemaShape schema = .ok () → tokens.foldlM schemaChild schema = some next →
      schemaShape next = .ok () := by
  intro tokens
  induction tokens with
  | nil =>
    intro schema next shaped found
    cases found
    exact shaped
  | cons token rest ih =>
    intro schema next shaped found
    obtain ⟨middle, here, found⟩ := bind_eq_some_iff.1 found
    exact ih (shape_child shaped here) found

/-- The path does not go into a secret handle, and takes an index where only an array is. -/
def plainStep (schema : Json) (token : String) : Bool :=
  !(schema.asObject.any isSecret && token = "$secret") &&
    (!(parseIndex token).isSome ||
      (schema.get "type").any (fun types => !matchesTypes types (.object [])))

def plainPath : Json → List String → Bool
  | _, [] => true
  | schema, token :: rest =>
    plainStep schema token && (schemaChild schema token).all (fun next => plainPath next rest)

theorem checked_cases (passed : checked schema value children = .ok ()) :
    ∃ object, schema = .object object ∧
      (isSecret object = true ∧ isSecretHandle value = true ∨
        isSecret object = false ∧ checkValue object value = .ok () ∧
          children object = .ok () ∧ checkBounds object value = .ok ()) := by
  unfold checked at passed
  cases schema with
  | object object =>
    refine ⟨object, rfl, ?_⟩
    dsimp only [Json.asObject] at passed
    split at passed
    · rename_i secret
      split at passed
      · rename_i handle
        exact .inl ⟨secret, handle⟩
      · cases passed
    · rename_i plain
      obtain ⟨_, self, passed⟩ := bind_eq_ok.1 passed
      obtain ⟨_, inside, bounds⟩ := bind_eq_ok.1 passed
      exact .inr ⟨eq_false_iff.2 plain, self, inside, bounds⟩
  | _ => cases passed

theorem matches_of_checkValue (passed : checkValue object value = .ok ())
    (typed : object.lookup "type" = some types) : matchesTypes types value = true := by
  unfold checkValue at passed
  split at passed
  · cases passed
  · rename_i fits
    rw [typed] at fits
    simpa using fits

theorem matchesType_object (kind : String) (fields : List (String × Json)) :
    matchesType kind (.object fields) = matchesType kind (.object []) := by
  unfold matchesType
  split <;> rfl

theorem matchesTypes_object (types : Json) (fields : List (String × Json)) :
    matchesTypes types (.object fields) = matchesTypes types (.object []) := by
  cases types with
  | string kind => exact matchesType_object kind fields
  | array kinds =>
    exact List.any_congr rfl (fun kind => matchesType_object kind fields)
  | _ => rfl

theorem valid_field : ∀ {fields : List (String × Json)} {child childSchema : Json},
    validateFields fields object = .ok () → fields.lookup token = some child →
      ((object.lookup "properties").bind Json.asObject).bind (fun schemas =>
        schemas.lookup token) = some childSchema → validateAt child childSchema = .ok () := by
  intro fields
  induction fields with
  | nil => exact fun _ found => by cases found
  | cons first rest ih =>
    intro child childSchema passed found known
    obtain ⟨key, here⟩ := first
    obtain ⟨_, first, later⟩ := bind_eq_ok.1 passed
    by_cases same : token = key
    · subst same
      rw [List.lookup_cons_self] at found
      cases found
      rw [known] at first
      exact under_ok first
    · rw [List.lookup_cons, beq_false_of_ne same] at found
      exact ih later found known

theorem valid_item : ∀ {items : List Json} {index start : Nat} {child itemSchema : Json},
    validateItems items start itemSchema = .ok () → items[index]? = some child →
      validateAt child itemSchema = .ok () := by
  intro items
  induction items with
  | nil => exact fun _ found => by cases found
  | cons first rest ih =>
    intro index start child itemSchema passed found
    obtain ⟨_, here, later⟩ := bind_eq_ok.1 passed
    cases index with
    | zero =>
      cases found
      exact under_ok here
    | succ index => exact ih later found

theorem handle_field (handle : isSecretHandle (.object fields) = true)
    (found : (fields.lookup token).isSome = true) : token = "$secret" := by
  obtain ⟨short, named⟩ := and_eq_true_iff.1 handle
  have short : fields.length = 1 := of_decide_eq_true short
  obtain ⟨⟨key, inner⟩, rfl⟩ := List.length_eq_one_iff.1 short
  have only : ∀ name, ((name, inner).1 = key ∨ ([(key, inner)].lookup name).isSome = false) := by
    intro name
    by_cases same : name = key
    · exact .inl same
    · right
      rw [List.lookup_cons, beq_false_of_ne same]
      rfl
  rcases only token with here | absent
  · rcases only "$secret" with there | missing
    · exact here.trans there.symm
    · cases held : [(key, inner)].lookup "$secret" with
      | none =>
        rw [held] at named
        cases named
      | some text =>
        rw [held] at missing
        cases missing
  · rw [absent] at found
    cases found

theorem pointerIndex_parse (found : pointerIndex token = some index) :
    (parseIndex token).isSome = true := by
  unfold pointerIndex at found
  split at found
  · cases found
  · rw [found]
    rfl

theorem valid_child {inner : Json} (valid : validateAt value schema = .ok ()) (plain : plainStep schema token = true)
    (known : schemaChild schema token = some next)
    (found : child value token = some inner) : validateAt inner next = .ok () := by
  obtain ⟨outside, typed⟩ := and_eq_true_iff.1 plain
  cases value with
  | object fields =>
    obtain ⟨object, rfl, ⟨secret, handle⟩ | ⟨_, self, inside, _⟩⟩ := checked_cases valid
    · have same := (handle_field handle : (fields.lookup token).isSome = true → _) (by
        show (child (.object fields) token).isSome = true
        rw [found]
        rfl)
      simp [Json.asObject, secret, same] at outside
    · by_cases numeric : (parseIndex token).isSome = true
      · rw [numeric, ] at typed
        cases held : (Json.object object).get "type" with
        | none =>
          rw [held] at typed
          cases typed
        | some types =>
          rw [held] at typed
          have fits := matches_of_checkValue self held
          rw [matchesTypes_object] at fits
          simp [fits] at typed
      · unfold schemaChild at known
        rw [if_neg numeric] at known
        refine valid_field inside found ?_
        obtain ⟨properties, here, there⟩ := bind_eq_some_iff.1 known
        obtain ⟨schemas, opened, there⟩ := bind_eq_some_iff.1 there
        have here : object.lookup "properties" = some properties := here
        rw [here, bind_some, opened]
        exact there
  | array items =>
    obtain ⟨index, parsed, found⟩ := bind_eq_some_iff.1 found
    have numeric := pointerIndex_parse parsed
    unfold schemaChild at known
    rw [if_pos numeric] at known
    obtain ⟨object, rfl, ⟨_, handle⟩ | ⟨_, _, inside, _⟩⟩ := checked_cases valid
    · cases handle
    · have here : object.lookup "items" = some next := known
      rw [here] at inside
      exact valid_item inside found
  | _ => cases found

theorem valid_at : ∀ {tokens : List String} {schema next value inner : Json},
    validateAt value schema = .ok () → plainPath schema tokens = true →
      tokens.foldlM schemaChild schema = some next → tokens.foldlM child value = some inner →
        validateAt inner next = .ok () := by
  intro tokens
  induction tokens with
  | nil =>
    intro schema next value inner valid _ known found
    cases known
    cases found
    exact valid
  | cons token rest ih =>
    intro schema next value inner valid plain known found
    obtain ⟨middle, here, known⟩ := bind_eq_some_iff.1 known
    obtain ⟨held, there, found⟩ := bind_eq_some_iff.1 found
    obtain ⟨step, later⟩ := and_eq_true_iff.1 plain
    rw [here] at later
    exact ih (valid_child valid step here there) later known found

theorem valuePointer_valid {inner : Json}
    (valid : validateAt root schema = .ok ()) (split : pointerTokens pointer = some tokens)
    (plain : plainPath schema tokens = true) (known : schemaAtPointer schema pointer = some next)
    (found : resolveRef.at_ root pointer = .ok inner) : validateAt inner next = .ok () := by
  unfold schemaAtPointer at known
  rw [split] at known
  unfold resolveRef.at_ at found
  split at found
  · rename_i empty
    cases found
    unfold pointerTokens at split
    rw [if_pos empty] at split
    cases split
    cases known
    exact valid
  · unfold valuePointer at found
    rw [split] at found
    split at found
    · cases found
    · rename_i here
      cases found
      exact valid_at valid plain known here

mutual
theorem resolve_plain (scope : RunScope) : ∀ (value : Json), containsRef value = false →
    resolveTemplate scope value = .ok value
  | .object fields, plain => by
    unfold containsRef at plain
    obtain ⟨tagged, inside⟩ := or_eq_false_iff.1 plain
    unfold resolveTemplate
    rw [if_neg (by rw [tagged]; exact false_ne_true), resolveFields_plain scope fields inside]
    rfl
  | .array items, plain => by
    unfold containsRef at plain
    unfold resolveTemplate
    rw [resolveItems_plain scope items plain]
    rfl
  | .null, _ => by unfold resolveTemplate; rfl
  | .bool _, _ => by unfold resolveTemplate; rfl
  | .number _, _ => by unfold resolveTemplate; rfl
  | .string _, _ => by unfold resolveTemplate; rfl
theorem resolveFields_plain (scope : RunScope) : ∀ (fields : List (String × Json)),
    fieldsContainRef fields = false → resolveFields scope fields = .ok fields
  | [], _ => by unfold resolveFields; rfl
  | (key, value) :: rest, plain => by
    unfold fieldsContainRef at plain
    obtain ⟨here, later⟩ := or_eq_false_iff.1 plain
    unfold resolveFields
    rw [resolve_plain scope value here, resolveFields_plain scope rest later]
    rfl
theorem resolveItems_plain (scope : RunScope) : ∀ (items : List Json),
    itemsContainRef items = false → resolveItems scope items = .ok items
  | [], _ => by unfold resolveItems; rfl
  | value :: rest, plain => by
    unfold itemsContainRef at plain
    obtain ⟨here, later⟩ := or_eq_false_iff.1 plain
    unfold resolveItems
    rw [resolve_plain scope value here, resolveItems_plain scope rest later]
    rfl
end

section Types
variable {object : List (String × Json)}

/-- A schema that says nothing but a type. -/
def bareType (schema : Json) : Bool :=
  schema.asObject.any (fun object => object.all (fun field =>
    field.1 = "type" || field = ("x-bamboo-secret", .bool false)))

theorem lookup_bare (bare : object.all (fun field =>
      field.1 = "type" || field = ("x-bamboo-secret", .bool false)) = true)
    (other : key ≠ "type") : object.lookup key = none ∨
      key = "x-bamboo-secret" ∧ object.lookup key = some (.bool false) := by
  induction object with
  | nil => exact .inl rfl
  | cons first rest ih =>
    obtain ⟨name, held⟩ := first
    rw [List.all_cons, and_eq_true] at bare
    by_cases same : key = name
    · subst same
      have here : key = "x-bamboo-secret" ∧ held = .bool false := by simpa [other] using bare.1
      exact .inr ⟨here.1, by rw [List.lookup_cons_self, here.2]⟩
    · rw [List.lookup_cons, beq_false_of_ne same]
      exact ih bare.2

theorem lookup_bare_none (bare : object.all (fun field =>
      field.1 = "type" || field = ("x-bamboo-secret", .bool false)) = true)
    (other : key ≠ "type") (another : key ≠ "x-bamboo-secret") : object.lookup key = none :=
  (lookup_bare bare other).resolve_right (fun both => another both.1)

theorem propertiesShape_none : ∀ {object : List (String × Json)},
    object.lookup "properties" = none → propertiesShape object = .ok () := by
  intro object
  induction object with
  | nil => exact fun _ => by rfl
  | cons first rest ih =>
    intro missing
    obtain ⟨key, held⟩ := first
    by_cases same : "properties" = key
    · rw [← same] at missing
      cases missing
    · rw [List.lookup_cons, beq_false_of_ne same] at missing
      unfold propertiesShape
      rw [if_neg (Ne.symm same)]
      exact ih missing

theorem itemsShape_none : ∀ {object : List (String × Json)},
    object.lookup "items" = none → itemsShape object = .ok () := by
  intro object
  induction object with
  | nil => exact fun _ => by rfl
  | cons first rest ih =>
    intro missing
    obtain ⟨key, held⟩ := first
    by_cases same : "items" = key
    · rw [← same] at missing
      cases missing
    · rw [List.lookup_cons, beq_false_of_ne same] at missing
      unfold itemsShape
      rw [if_neg (Ne.symm same)]
      exact ih missing

theorem kind_of_shape (shaped : schemaShape source = .ok ())
    (typed : schemaType source = some kind) : validKind kind = true := by
  obtain ⟨object, rfl⟩ := object_of_shape shaped
  obtain ⟨_, keywords, _⟩ := bind_eq_ok.1 shaped
  obtain ⟨types, held, text⟩ := bind_eq_some_iff.1 typed
  cases types with
  | string name =>
    cases text
    unfold keywordsShape at keywords
    split at keywords
    · cases keywords
    · split at keywords
      · cases keywords
      · split at keywords
        · cases keywords
        · rename_i valid
          have held : object.lookup "type" = some (.string kind) := held
          rw [held] at valid
          simpa [validType] using valid
  | _ => cases text

theorem schemaShape_bare (bare : bareType target = true) (typed : schemaType target = some kind)
    (valid : validKind kind = true) : schemaShape target = .ok () := by
  cases target with
  | object object =>
    obtain ⟨types, held, text⟩ := bind_eq_some_iff.1 typed
    have held : object.lookup "type" = some types := held
    cases types with
    | string name =>
      cases text
      have known : object.find? (fun field => !supported.contains field.1) = none := by
        refine List.find?_eq_none.2 (fun field member => ?_)
        have either := List.all_eq_true.1 bare field member
        rcases or_eq_true_iff.1 either with named | secret
        · rw [of_decide_eq_true named]
          decide
        · rw [of_decide_eq_true secret]
          decide
      have secret : (object.lookup "x-bamboo-secret").any (fun value => !isBoolean value) =
          false := by
        rcases lookup_bare bare (show "x-bamboo-secret" ≠ "type" by decide) with none_ | some_
        · rw [none_]
          rfl
        · rw [some_.2]
          rfl
      have keywords : keywordsShape object = .ok () := by
        unfold keywordsShape
        rw [known, held, secret, lookup_bare_none bare (show "enum" ≠ "type" by decide) (by decide),
          lookup_bare_none bare (show "required" ≠ "type" by decide) (by decide)]
        simp [validType, valid]
      have additional : additionalShape object = .ok () := by
        unfold additionalShape
        rw [lookup_bare_none bare (show "additionalProperties" ≠ "type" by decide) (by decide)]
        rfl
      have bounds : boundsShape object = .ok () := by
        unfold boundsShape
        rw [lookup_bare_none bare (show "minimum" ≠ "type" by decide) (by decide),
          lookup_bare_none bare (show "maximum" ≠ "type" by decide) (by decide)]
        rfl
      have properties := propertiesShape_none
        (lookup_bare_none bare (show "properties" ≠ "type" by decide) (by decide))
      have items := itemsShape_none
        (lookup_bare_none bare (show "items" ≠ "type" by decide) (by decide))
      unfold schemaShape
      rw [keywords, properties, additional, items, bounds]
      rfl
    | _ => cases text
  | _ => cases bare

theorem validateFields_free : ∀ {fields : List (String × Json)},
    object.lookup "properties" = none → object.lookup "additionalProperties" = none →
      validateFields fields object = .ok () := by
  intro fields properties additional
  induction fields with
  | nil => rfl
  | cons first rest ih =>
    unfold validateFields
    rw [properties, additional, ih]
    rfl

theorem valid_bare (bare : bareType target = true) (typed : schemaType target = some kind)
    (fits : matchesType kind value = true) : validateAt value target = .ok () := by
  cases target with
  | object object =>
    obtain ⟨types, held, text⟩ := bind_eq_some_iff.1 typed
    have held : object.lookup "type" = some types := held
    cases types with
    | string name =>
      cases text
      have open_ : isSecret object = false := by
        unfold isSecret
        rcases lookup_bare bare (show "x-bamboo-secret" ≠ "type" by decide) with none_ | some_
        · rw [none_]
          rfl
        · rw [some_.2]
          decide
      have self : checkValue object value = .ok () := by
        unfold checkValue
        rw [held, lookup_bare_none bare (show "enum" ≠ "type" by decide) (by decide),
          lookup_bare_none bare (show "required" ≠ "type" by decide) (by decide)]
        simp [matchesTypes, fits]
      have bounds : checkBounds object value = .ok () := by
        unfold checkBounds
        rw [lookup_bare_none bare (show "minimum" ≠ "type" by decide) (by decide),
          lookup_bare_none bare (show "maximum" ≠ "type" by decide) (by decide)]
        rfl
      have passes : ∀ children : List (String × Json) → Except Flaw Unit,
          children object = .ok () → checked (.object object) value children = .ok () := by
        intro children inside
        unfold checked
        dsimp only [Json.asObject]
        rw [if_neg (by rw [open_]; exact false_ne_true), self, inside, bounds]
        rfl
      cases value with
      | object fields =>
        exact passes _ (validateFields_free
          (lookup_bare_none bare (show "properties" ≠ "type" by decide) (by decide))
          (lookup_bare_none bare (show "additionalProperties" ≠ "type" by decide) (by decide)))
      | array items =>
        unfold validateAt
        refine passes _ ?_
        rw [lookup_bare_none bare (show "items" ≠ "type" by decide) (by decide)]
        rfl
      | _ =>
        unfold validateAt
        exact passes _ rfl
    | _ => cases text
  | _ => cases bare

theorem matches_of_valid (valid : validateAt value source = .ok ())
    (open_ : source.asObject.any isSecret = false) (typed : schemaType source = some kind) :
    matchesType kind value = true := by
  have passed : ∃ children, checked source value children = .ok () := by
    cases value with
    | _ =>
      exact ⟨_, valid⟩
  obtain ⟨children, passed⟩ := passed
  obtain ⟨object, rfl, ⟨secret, _⟩ | ⟨_, self, _, _⟩⟩ := checked_cases passed
  · rw [Json.asObject, any_some, secret] at open_
    cases open_
  · obtain ⟨types, held, text⟩ := bind_eq_some_iff.1 typed
    cases types with
    | string name =>
      cases text
      exact matches_of_checkValue self held
    | _ => cases text

end Types

/- The contract. -/

theorem validateSchema_ok :
    validateSchema schema value = .ok () ↔
      schemaShape schema = .ok () ∧ validateAt value schema = .ok () := by
  unfold validateSchema validateSchemaShape
  cases schemaShape schema with
  | error flaw => exact ⟨fun passed => (by cases passed), fun both => (by cases both.1)⟩
  | ok done =>
    cases validateAt value schema with
    | error flaw => exact ⟨fun passed => (by cases passed), fun both => (by cases both.2)⟩
    | ok done => exact ⟨fun _ => ⟨rfl, rfl⟩, fun _ => rfl⟩

/-- The input of the run and the outputs of its steps are valid for their schemas. -/
structure ScopeValid (compiled : CompiledWorkflow β) (scope : RunScope) : Prop where
  args : validateSchema compiled.definition.inputSchema scope.args = .ok ()
  outputs : ∀ step definition schema output, compiled.steps.lookup step = some definition →
    definition.outputSchema = some schema → scope.outputs step = some output →
      validateSchema schema output = .ok ()

/-- Whatever the template is resolved to in a valid run, the target accepts. -/
def Accepted (compiled : CompiledWorkflow β) (template target : Json) : Prop :=
  ∀ scope value, ScopeValid compiled scope → resolveTemplate scope template = .ok value →
    validateSchema target value = .ok ()

def rootSchema (compiled : CompiledWorkflow β) : ValueRef → Option (Json × String)
  | .args pointer => some (compiled.definition.inputSchema, pointer)
  | .step step pointer =>
    ((compiled.steps.lookup step).bind (·.outputSchema)).map (fun schema => (schema, pointer))
  | .literal _ | .item _ _ => none

/-- The reference is read on a plain path, at a schema that is the target, or is open where the
    target says nothing but a type. -/
def plainSource (compiled : CompiledWorkflow β) (target : Json) (reference : ValueRef) : Bool :=
  (rootSchema compiled reference).all (fun root =>
    (pointerTokens root.2).all (fun tokens => plainPath root.1 tokens)) &&
  (sourceSchema compiled reference).all (fun source =>
    source = target || (!source.asObject.any isSecret && bareType target))

/-- The template has no reference, or is an object that is one, plain unless it is a literal. -/
def plainTemplate (compiled : CompiledWorkflow β) (template target : Json) : Bool :=
  !containsRef template ||
    (template.asObject.isSome && (parseRef template).all (plainSource compiled target))

section Sound
variable {compiled : CompiledWorkflow β}

theorem target_accepts (shaped : schemaShape source = .ok ())
    (valid : validateAt value source = .ok ()) (compatible : schemaCompatible source target = true)
    (plain : (source = target || (!source.asObject.any isSecret && bareType target)) = true) :
    validateSchema target value = .ok () := by
  rw [validateSchema_ok]
  rcases or_eq_true_iff.1 plain with same | both
  · rw [← of_decide_eq_true same]
    exact ⟨shaped, valid⟩
  · obtain ⟨open_, bare⟩ := and_eq_true_iff.1 both
    have open_ : source.asObject.any isSecret = false := by simpa using open_
    rcases or_eq_true_iff.1 compatible with same | typed
    · rw [← of_decide_eq_true same]
      exact ⟨shaped, valid⟩
    · rw [and_eq_true, and_eq_true] at typed
      obtain ⟨⟨some_, same⟩, _⟩ := typed
      obtain ⟨kind, held⟩ := isSome_iff_exists.1 some_
      have there : schemaType target = some kind := (of_decide_eq_true same).symm.trans held
      exact ⟨schemaShape_bare bare there (kind_of_shape shaped held),
        valid_bare bare there (matches_of_valid valid open_ held)⟩

theorem valid_reference (valid : ScopeValid compiled scope)
    (plain : (rootSchema compiled reference).all (fun root =>
      (pointerTokens root.2).all (fun tokens => plainPath root.1 tokens)) = true)
    (known : sourceSchema compiled reference = some source)
    (found : resolveRef scope reference = .ok value) :
    schemaShape source = .ok () ∧ validateAt value source = .ok () := by
  have each : ∀ {schema root : Json} {pointer : String}, validateSchema schema root = .ok () →
      (pointerTokens pointer).all (fun tokens => plainPath schema tokens) = true →
      schemaAtPointer schema pointer = some source →
      resolveRef.at_ root pointer = .ok value →
        schemaShape source = .ok () ∧ validateAt value source = .ok () := by
    intro schema root pointer valid plain known found
    obtain ⟨shaped, valid⟩ := validateSchema_ok.1 valid
    obtain ⟨tokens, split, path⟩ := bind_eq_some_iff.1 known
    rw [split] at plain
    exact ⟨shape_at shaped path, valuePointer_valid valid split plain known found⟩
  cases reference with
  | args pointer => exact each valid.args plain known found
  | step step pointer =>
    obtain ⟨schema, held, path⟩ := bind_eq_some_iff.1 known
    obtain ⟨definition, there, declared⟩ := bind_eq_some_iff.1 held
    have plain : (pointerTokens pointer).all (fun tokens => plainPath schema tokens) = true := by
      rw [rootSchema, held] at plain
      exact plain
    rw [resolveRef] at found
    split at found
    · cases found
    · rename_i output here
      exact each (valid.outputs step definition schema output there declared here) plain path found
  | item name pointer => cases known
  | literal value => cases known

/-- An accepted contract of a plain template holds in every run. -/
theorem contract_sound (accepts : validateNestedInputContract template target compiled = .ok ())
    (plain : plainTemplate compiled template target = true) :
    Accepted compiled template target := by
  intro scope value valid resolved
  have passed : ∀ {value : Json}, (validateSchema target value).mapError
      (fun error => "nested workflow input is incompatible: " ++ error) = .ok () →
        validateSchema target value = .ok () := by
    intro value checked
    cases held : validateSchema target value with
    | error error =>
      rw [held] at checked
      cases checked
    | ok done => rfl
  unfold validateNestedInputContract at accepts
  by_cases refers : containsRef template = true
  · rw [refers, Bool.not_true, if_neg Bool.false_ne_true] at accepts
    unfold plainTemplate at plain
    rw [refers, Bool.not_true, Bool.false_or, Bool.and_eq_true] at plain
    obtain ⟨shape, plain⟩ := plain
    cases template with
    | object fields =>
      cases parsed : parseRef (.object fields) with
      | none =>
        rw [parsed] at accepts
        cases accepts
      | some reference =>
        have tagged : (fields.lookup "from").isSome = true := by
          rw [parseRef] at parsed
          cases held : fields.lookup "from" with
          | none =>
            rw [held] at parsed
            cases parsed
          | some tag => rfl
        unfold resolveTemplate at resolved
        rw [if_pos tagged, parsed] at resolved
        rw [parsed] at accepts plain
        obtain ⟨path, plain⟩ := Bool.and_eq_true_iff.1 plain
        have dynamic : ∀ {source : Json}, sourceSchema compiled reference = some source →
            schemaCompatible source target = true → validateSchema target value = .ok () := by
          intro source known compatible
          rw [known] at plain
          obtain ⟨shaped, held⟩ := valid_reference valid path known resolved
          exact target_accepts shaped held compatible plain
        cases reference with
        | literal held =>
          cases resolved
          exact passed accepts
        | item name pointer => cases accepts
        | _ =>
          dsimp only at accepts
          split at accepts
          · cases accepts
          · rename_i source known
            split at accepts
            · rename_i compatible
              exact dynamic known compatible
            · cases accepts
    | _ => cases shape
  · have free : containsRef template = false := Bool.eq_false_iff.2 refers
    rw [free, ] at accepts
    rw [resolve_plain scope template free] at resolved
    cases resolved
    exact passed accepts

end Sound

/- A step gives a number to a nested workflow. -/

def numberSchema : Json := .object [("minimum", .number (.int 1)), ("type", .string "integer")]

def boundedSchema : Json := .object [("minimum", .number (.int 5)), ("type", .string "integer")]

def sampleBudgets : WorkflowBudgets :=
  { maxConcurrency := 1, maxAgents := 0, maxSteps := 2, maxRetries := 0, maxNestingDepth := 2,
    wallTimeMs := 1, maxTokens := none, maxCostMicros := none }

def sampleTemplate : Json := .object [("from", .string "step"), ("step", .string "count")]

def sampleCompiled : CompiledWorkflow Unit :=
  { definition :=
      { id := "parent", revision := 1, inputSchema := .object [], steps := [],
        budgets := sampleBudgets, rest := () },
    steps := [("count",
      { id := "count", kind := .tool "count" .null [], outputSchema := some numberSchema })] }

def sampleScope : RunScope :=
  { args := .object [], outputs := fun step => if step = "count" then some (.number (.int 3))
      else none,
    items := fun _ => none }

theorem sampleScope_valid : ScopeValid sampleCompiled sampleScope := by
  refine ⟨by decide +kernel, ?_⟩
  intro step definition schema output found declared given
  unfold sampleCompiled at found
  rw [List.lookup_cons] at found
  split at found
  · cases found
    cases declared
    unfold sampleScope at given
    dsimp only at given
    split at given
    · cases given
      decide +kernel
    · cases given
  · cases found

theorem contract_sound_sample :
    validateSchema (.object [("type", .string "integer")]) (.number (.int 3)) = .ok () := by
  have accepted : Accepted sampleCompiled sampleTemplate (.object [("type", .string "integer")]) :=
    contract_sound (by decide +kernel) (by decide +kernel)
  exact accepted sampleScope _ sampleScope_valid (by decide +kernel)

/-- The contract is accepted and the run is valid, and the number is refused. -/
theorem bounded_target_refuses :
    validateNestedInputContract sampleTemplate boundedSchema sampleCompiled = .ok () ∧
      ¬ Accepted sampleCompiled sampleTemplate boundedSchema := by
  refine ⟨by decide +kernel, fun accepted => ?_⟩
  have refused : validateSchema boundedSchema (.number (.int 3)) ≠ .ok () := by decide +kernel
  exact refused (accepted sampleScope _ sampleScope_valid (by decide +kernel))

end Workflows
