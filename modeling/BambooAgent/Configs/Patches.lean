import BambooAgent.Library.Checks
import BambooAgent.Library.Json

/- A patch of the configuration merged into it, against the merge patches of RFC 7386, and a value
   set at a dot path of it. -/
namespace Configs
open JsonValues

/-- Insertion, and removal where there is no value; the order of the members is of no account. -/
def assign (key : String) (value : Option Json) : List (String × Json) → List (String × Json)
  | [] => (value.map (fun new => (key, new))).toList
  | (k, old) :: rest =>
    if key = k then
      match value with
      | none => assign key none rest
      | some new => (k, new) :: rest
    else (k, old) :: assign key value rest

mutual
def deepMergeJson : (dst src : Json) → Json
  | .object fields, .object patch => .object (deepMergeFields fields patch)
  | _, src => src
def deepMergeFields (fields : List (String × Json)) :
    List (String × Json) → List (String × Json)
  | [] => fields
  | (key, value) :: rest =>
    if value = .null then deepMergeFields (assign key none fields) rest
    else
      match fields.lookup key with
      | some existing =>
        if existing.asObject.isSome && value.asObject.isSome then
          deepMergeFields (assign key (some (deepMergeJson existing value)) fields) rest
        else deepMergeFields (assign key (some value) fields) rest
      | none => deepMergeFields (assign key (some value) fields) rest
end

mutual
/-- As RFC 7386 has it; what is absent is merged into as null is. -/
def mergePatch (target : Json) : (patch : Json) → Json
  | .object patch => .object (mergePatchFields (target.asObject.getD []) patch)
  | patch => patch
def mergePatchFields (fields : List (String × Json)) :
    List (String × Json) → List (String × Json)
  | [] => fields
  | (key, value) :: rest =>
    if value = .null then mergePatchFields (assign key none fields) rest
    else mergePatchFields
      (assign key (some (mergePatch ((fields.lookup key).getD .null) value)) fields) rest
end

mutual
/-- An object of the patch that meets none in the target has no null member. -/
def fits (target : Json) : (patch : Json) → Bool
  | .object patch =>
    (target.asObject.isSome || patch.all (fun field => field.2 ≠ .null)) &&
      fitsFields (target.asObject.getD []) patch
  | _ => true
def fitsFields (fields : List (String × Json)) : List (String × Json) → Bool
  | [] => true
  | (key, value) :: rest => fits ((fields.lookup key).getD .null) value && fitsFields fields rest
end

mutual
/-- No object names a member twice. -/
def distinct : Json → Bool
  | .object fields => distinctFields fields
  | _ => true
def distinctFields : List (String × Json) → Bool
  | [] => true
  | (key, value) :: rest => (rest.lookup key).isNone && distinct value && distinctFields rest
end

def walk : Json → (path : List String) → Option Json
  | value, [] => some value
  | value, key :: rest => (value.get key).bind (fun inner => walk inner rest)

/-- The patch says nothing of what is at the path or above. -/
def silent : (patch : Json) → (path : List String) → Bool
  | .object patch, key :: rest => (patch.lookup key).all (fun value => silent value rest)
  | _, _ => false

/-- What becomes of a member that the patch has a value for. -/
def merged (merge : Json → Json → Json) (old : Option Json) (value : Json) : Option Json :=
  if value = .null then none else some (merge (old.getD .null) value)

/-- The members of a patch, merged one by one. -/
def overlay (merge : Json → Json → Json) (fields : List (String × Json)) :
    List (String × Json) → List (String × Json)
  | [] => fields
  | (key, value) :: rest =>
    overlay merge (assign key (merged merge (fields.lookup key) value) fields) rest

theorem distinct_cons : distinctFields ((key, value) :: rest) ↔
    rest.lookup key = none ∧ distinct value ∧ distinctFields rest := by
  rw [distinctFields, Bool.and_eq_true, Bool.and_eq_true, Option.isNone_iff_eq_none, and_assoc]

theorem lookup_cons {key : String} {value : Json} : List.lookup key ((k, value) :: fields) =
    if key = k then some value else fields.lookup key := by
  by_cases same : key = k <;> simp [List.lookup_cons, same, beq_false_of_ne]

theorem lookup_assign : (assign key value fields).lookup other =
    if other = key then value else fields.lookup other := by
  induction fields with
  | nil => cases value <;> simp [assign, lookup_cons]
  | cons field rest ih =>
    obtain ⟨k, old⟩ := field
    unfold assign
    split
    · cases value <;> simp_all [lookup_cons]
    · rw [lookup_cons, lookup_cons]
      split <;> simp_all [eq_comm]

theorem assign_same (held : fields.lookup key = value) : assign key value fields = fields := by
  induction fields with
  | nil => cases held; rfl
  | cons field rest ih =>
    obtain ⟨k, old⟩ := field
    rw [lookup_cons] at held
    unfold assign
    split at held
    · subst held
      simp_all
    · simp_all

theorem assign_new (fresh : fields.lookup key = none) :
    assign key (some value) fields = fields ++ [(key, value)] := by
  induction fields with
  | nil => rfl
  | cons field rest ih =>
    obtain ⟨k, old⟩ := field
    rw [lookup_cons] at fresh
    unfold assign
    split at fresh <;> simp_all

/-- What a patch without repeated names makes of a member. -/
theorem lookup_overlay (named : distinctFields patch) :
    (overlay merge fields patch).lookup key =
      match patch.lookup key with
      | none => fields.lookup key
      | some value => merged merge (fields.lookup key) value := by
  induction patch generalizing fields with
  | nil => rfl
  | cons field rest ih =>
    obtain ⟨k, value⟩ := field
    obtain ⟨single, one, named⟩ := distinct_cons.1 named
    rw [overlay, ih named, lookup_assign, lookup_cons]
    by_cases here : key = k
    · subst here
      rw [if_pos rfl, if_pos rfl, single]
    · rw [if_neg here, if_neg here]

theorem lookup_of_mem {field : String × Json} (named : distinctFields patch)
    (member : field ∈ patch) : patch.lookup field.1 = some field.2 := by
  induction patch with
  | nil => cases member
  | cons head rest ih =>
    obtain ⟨k, value⟩ := head
    obtain ⟨single, one, named⟩ := distinct_cons.1 named
    rw [lookup_cons]
    rcases List.mem_cons.1 member with rfl | later
    · exact if_pos rfl
    · have held := ih named later
      rw [if_neg, held]
      rintro rfl
      rw [single] at held
      cases held

theorem mem_of_lookup {patch : List (String × Json)} (present : patch.lookup key = some value) :
    (key, value) ∈ patch := by
  obtain ⟨before, after, rfl, -⟩ := List.lookup_eq_some_iff.1 present
  simp

theorem overlay_same (held : ∀ field ∈ patch,
      fields.lookup field.1 = merged merge (fields.lookup field.1) field.2) :
    overlay merge fields patch = fields := by
  induction patch with
  | nil => rfl
  | cons field rest ih =>
    rw [overlay, assign_same (held field (by simp))]
    exact ih (fun other member => held other (by simp [member]))

theorem overlay_new (fresh : ∀ field ∈ patch, fields.lookup field.1 = none)
    (named : distinctFields patch) (whole : ∀ field ∈ patch, field.2 ≠ .null)
    (verbatim : ∀ value, merge .null value = value) :
    overlay merge fields patch = fields ++ patch := by
  induction patch generalizing fields with
  | nil => exact (List.append_nil fields).symm
  | cons field rest ih =>
    obtain ⟨k, value⟩ := field
    obtain ⟨single, one, named⟩ := distinct_cons.1 named
    have here := fresh (k, value) (by simp)
    rw [overlay, here, merged, if_neg (whole (k, value) (by simp)), Option.getD_none, verbatim,
      ih _ named (fun other member => whole other (by simp [member])), assign_new here,
      List.append_assoc, List.singleton_append]
    intro other member
    rw [lookup_assign, if_neg, fresh other (by simp [member])]
    intro same
    simpa [same] using List.lookup_eq_none_iff.1 single other member

theorem deepMergeJson_leaf (apart : dst.asObject = none ∨ src.asObject = none) :
    deepMergeJson dst src = src := by
  unfold deepMergeJson
  split
  · simp [Json.asObject] at apart
  · rfl

theorem deepMergeFields_eq :
    deepMergeFields fields patch = overlay deepMergeJson fields patch := by
  induction patch generalizing fields with
  | nil => rfl
  | cons field rest ih =>
    rw [deepMergeFields, overlay, merged]
    split
    · exact ih
    · cases held : fields.lookup field.1 with
      | none => rw [deepMergeJson_leaf (.inl rfl), ih]
      | some existing =>
        dsimp only
        rw [ih, ih]
        split
        · rfl
        · rename_i apart
          rw [deepMergeJson_leaf (by simpa [imp_iff_not_or] using apart)]

theorem overlay_whole (named : distinctFields patch) (whole : ∀ field ∈ patch, field.2 ≠ .null) :
    overlay deepMergeJson [] patch = patch :=
  overlay_new (fun _ _ => rfl) named whole (fun _ => deepMergeJson_leaf (.inl rfl))

theorem mergePatchFields_eq :
    mergePatchFields fields patch = overlay mergePatch fields patch := by
  induction patch generalizing fields with
  | nil => rfl
  | cons field rest ih =>
    rw [mergePatchFields, overlay, merged]
    split <;> exact ih

theorem fitsFields_congr (same : ∀ key, patch.lookup key ≠ none →
    left.lookup key = right.lookup key) : fitsFields left patch = fitsFields right patch := by
  induction patch with
  | nil => rfl
  | cons field rest ih =>
    rw [fitsFields, fitsFields, same field.1 (by simp), ih]
    intro key present
    refine same key ?_
    rw [lookup_cons]
    split
    · exact Option.some_ne_none _
    · exact present

theorem distinct_of_mem (named : distinctFields patch) : ∀ field ∈ patch, distinct field.2 := by
  induction patch with
  | nil => exact List.forall_mem_nil _
  | cons field rest ih =>
    obtain ⟨-, one, named⟩ := distinct_cons.1 named
    exact List.forall_mem_cons.2 ⟨one, ih named⟩

theorem members_iff (named : distinctFields patch) (each : ∀ field ∈ patch, ∀ dst,
      (deepMergeJson dst field.2 = mergePatch dst field.2 ↔ fits dst field.2)) :
    overlay deepMergeJson fields patch = overlay mergePatch fields patch ↔
      fitsFields fields patch := by
  induction patch generalizing fields with
  | nil => simp [overlay, fitsFields]
  | cons field rest ih =>
    obtain ⟨key, value⟩ := field
    obtain ⟨head, tail⟩ := List.forall_mem_cons.1 each
    obtain ⟨single, one, named⟩ := distinct_cons.1 named
    have others : ∀ new, fitsFields (assign key new fields) rest = fitsFields fields rest :=
      fun new => fitsFields_congr (fun other present => by
        rw [lookup_assign, if_neg]
        rintro rfl
        exact present single)
    rw [overlay, overlay, fitsFields, Bool.and_eq_true, ← head,
      ← others (merged mergePatch (fields.lookup key) value), ← ih named tail]
    constructor
    · intro same
      have here := congrArg (List.lookup key) same
      rw [lookup_overlay named, lookup_overlay named, single] at here
      simp only [lookup_assign, if_true] at here
      refine ⟨?_, by rwa [here] at same⟩
      unfold merged at here
      split at here
      · rename_i null
        rw [null, deepMergeJson_leaf (.inr rfl), mergePatch]
        exact nofun
      · exact Option.some.inj here
    · rintro ⟨same, later⟩
      rw [← later, merged, merged, same]

theorem mergePatch_leaf (leaf : src.asObject = none) : mergePatch dst src = src := by
  cases src <;> first | rfl | cases leaf

theorem merge_iff (named : distinct src) :
    deepMergeJson dst src = mergePatch dst src ↔ fits dst src := by
  induction src using Json.member_induction generalizing dst with
  | leaf src leaf =>
    rw [deepMergeJson_leaf (.inr leaf)]
    cases src <;> cases leaf <;> exact iff_of_true rfl rfl
  | object patch each =>
    rw [distinct] at named
    have inner := distinct_of_mem named
    rw [fits, mergePatch, mergePatchFields_eq, Bool.and_eq_true, Bool.or_eq_true,
      ← members_iff named (fun field member _ => each field member (inner field member))]
    cases holds : dst.asObject with
    | some fields =>
      obtain rfl : dst = .object fields := by cases dst <;> simp_all [Json.asObject]
      simp [deepMergeJson, deepMergeFields_eq]
    | none =>
      rw [deepMergeJson_leaf (.inl holds)]
      constructor
      · intro same
        replace same := Json.object.inj same
        have whole : ∀ field ∈ patch, field.2 ≠ .null := by
          intro field member null
          have here := lookup_of_mem named member
          rw [same] at here
          simp [lookup_overlay named, lookup_of_mem named member, merged, null] at here
        exact ⟨.inr (by simpa using whole), (overlay_whole named whole).trans same⟩
      · rintro ⟨clear, same⟩
        exact congrArg _ ((overlay_whole named (by simpa using clear)).symm.trans same)

theorem merge_again (named : distinct src) :
    deepMergeJson (mergePatch dst src) src = mergePatch dst src := by
  induction src using Json.member_induction generalizing dst with
  | leaf src leaf =>
    rw [deepMergeJson_leaf (.inr leaf), mergePatch_leaf leaf]
  | object patch each =>
    rw [distinct] at named
    have inner := distinct_of_mem named
    rw [mergePatch, mergePatchFields_eq, deepMergeJson, deepMergeFields_eq, overlay_same]
    intro field member
    rw [lookup_overlay named, lookup_of_mem named member]
    dsimp only
    unfold merged
    split
    · rfl
    · rw [Option.getD_some, each field member (inner field member)]

/-- A null of the patch is no member of what the patch makes. -/
theorem walk_null (named : distinct src) (deep : path ≠ [])
    (null : walk src path = some .null) : walk (mergePatch dst src) path = none := by
  induction src using Json.member_induction generalizing dst path with
  | leaf src leaf =>
    cases path with
    | nil => exact absurd rfl deep
    | cons key rest => simp [walk, Json.get, leaf] at null
  | object patch each =>
    rw [distinct] at named
    have inner := distinct_of_mem named
    cases path with
    | nil => exact absurd rfl deep
    | cons key rest =>
      obtain ⟨value, present, null⟩ := Option.bind_eq_some_iff.1 null
      change patch.lookup key = some value at present
      have member := mem_of_lookup present
      have held : (mergePatch dst (.object patch)).get key =
          merged mergePatch ((dst.asObject.getD []).lookup key) value := by
        rw [mergePatch, mergePatchFields_eq]
        exact (lookup_overlay named).trans (by rw [present])
      rw [walk, held]
      unfold merged
      split
      · rfl
      · rename_i other
        refine each (key, value) member (inner _ member) ?_ null
        rintro rfl
        exact other (Option.some.inj null)

/-- What the patch does not mention stays. -/
theorem walk_silent (named : distinct src) (quiet : silent src path) :
    walk (deepMergeJson dst src) path = walk dst path := by
  induction src using Json.member_induction generalizing dst path with
  | leaf src leaf => cases src <;> cases path <;> first | cases quiet | cases leaf
  | object patch each =>
    rw [distinct] at named
    have inner := distinct_of_mem named
    cases path with
    | nil => simp [silent] at quiet
    | cons key rest =>
      rw [silent] at quiet
      have held : (deepMergeJson dst (.object patch)).get key =
          ((patch.lookup key).map (deepMergeJson ((dst.get key).getD .null))).or (dst.get key) := by
        cases holds : dst.asObject with
        | none =>
          have verbatim : deepMergeJson .null = id := funext (fun _ => deepMergeJson_leaf (.inl rfl))
          have absent : dst.get key = none := by rw [Json.get, holds, Option.bind_none]
          rw [deepMergeJson_leaf (.inl holds), absent, Option.getD_none, verbatim, Option.map_id,
            Option.or_none]
          rfl
        | some fields =>
          obtain rfl : dst = .object fields := by cases dst <;> simp_all [Json.asObject]
          rw [deepMergeJson, deepMergeFields_eq]
          refine (lookup_overlay named).trans ?_
          cases present : patch.lookup key with
          | none => rfl
          | some value =>
            rw [present] at quiet
            refine if_neg ?_
            rintro rfl
            simp [silent] at quiet
      rw [walk, walk, held]
      cases present : patch.lookup key with
      | none => rfl
      | some value =>
        rw [present] at quiet
        have member := mem_of_lookup present
        refine (each (key, value) member (inner _ member) quiet).trans ?_
        cases dst.get key with
        | some old => rfl
        | none => cases rest <;> [simp [silent] at quiet; rfl]

/-- A patch is merged as RFC 7386 has it unless it brings an object with a null member to where
    there is none. -/
theorem merge_patch_iff (target : Json) (patch : List (String × Json))
    (named : distinct (.object patch)) :
    (deepMergeJson target (.object patch) = mergePatch target (.object patch) ↔
      fits target (.object patch)) ∧
    (∀ path, silent (.object patch) path →
      walk (deepMergeJson target (.object patch)) path = walk target path) ∧
    (fits target (.object patch) →
      deepMergeJson (deepMergeJson target (.object patch)) (.object patch) =
        deepMergeJson target (.object patch) ∧
      ∀ path, walk (.object patch) path = some .null →
        walk (deepMergeJson target (.object patch)) path = none) := by
  refine ⟨merge_iff named, fun path => walk_silent named, fun fitting => ?_⟩
  rw [(merge_iff named).2 fitting]
  refine ⟨merge_again named, fun path null => walk_null named ?_ null⟩
  rintro rfl
  cases null

theorem nested_patch_merges :
    deepMergeJson (.object [("a", .object [("b", .bool true), ("c", .null)])])
        (.object [("a", .object [("b", .null)])]) =
      mergePatch (.object [("a", .object [("b", .bool true), ("c", .null)])])
        (.object [("a", .object [("b", .null)])]) :=
  (merge_patch_iff _ _ (by decide)).1.2 (by decide)

/-- A null that is brought with its object stays. -/
theorem null_brought :
    ¬ ∀ (target : Json) (patch : List (String × Json)), distinct (.object patch) →
      deepMergeJson target (.object patch) = mergePatch target (.object patch) := fun same =>
  absurd (same (.object []) [("a", .object [("b", .null)])] (by decide)) (by decide)

inductive DotPathError where
  | invalidValue (key message : String)

def jsonTypeName : Json → String
  | .null => "null"
  | .bool _ => "a boolean"
  | .number _ => "a number"
  | .string _ => "a string"
  | .array _ => "an array"
  | .object _ => "an object"

def resolvePath : (root : Json) → (segments : List String) → Option Json
  | node, [] => some node
  | .object map, seg :: rest => (map.lookup seg).bind (resolvePath · rest)
  | .array items, seg :: rest =>
    (parseIndex seg).bind (fun idx => items[idx]?.bind (resolvePath · rest))
  | _, _ :: _ => none

/-- A mutable reference: what it refers to, and the whole with something else there. -/
structure Place where
  node : Json
  put : Json → Json

/-- One step of the loop. The segments before it are for the errors. -/
def enter (key : String) (past : List String) (node : Json) (seg : String) (last : Bool) :
    Except DotPathError Place :=
  let root := ".".intercalate past
  match node with
  | .object map =>
    .ok ⟨(map.lookup seg).getD (.object []), fun new => .object (assign seg (some new) map)⟩
  | .array items =>
    match parseIndex seg with
    | none => .error (.invalidValue key
        s!"'{root}' is an array; segment '{seg}' must be a numeric index")
    | some idx =>
      match items[idx]? with
      | some item => .ok ⟨item, fun new => .array (items.set idx new)⟩
      | none =>
        if last && idx = items.length then .ok ⟨.null, fun new => .array (items ++ [new])⟩
        else
          let length := if last then s!" (length {items.length})" else ""
          .error (.invalidValue key s!"array index {idx} out of range for '{root}'{length}")
  | other =>
    let type := jsonTypeName other
    .error (.invalidValue key
      s!"cannot descend into '{root}': it holds {type} — not an object/array")

/-- The code has no empty path. -/
def applyPath (key : String) (value : Json) (past : List String) (node : Json) :
    (segments : List String) → Except DotPathError Json
  | [] => .ok value
  | seg :: rest => do
    let place ← enter key past node seg rest.isEmpty
    let inner ← applyPath key value (past ++ [seg]) place.node rest
    .ok (place.put inner)

/-- Segments that name neither one member nor one item. -/
def Apart (first second : String) : Prop :=
  first ≠ second ∧ ∀ idx, parseIndex first = some idx → parseIndex second ≠ some idx

/-- Paths that part before either ends. -/
inductive Parting : (path other : List String) → Prop
  | here (apart : Apart first second) : Parting (first :: path) (second :: other)
  | later (parting : Parting path other) : Parting (first :: path) (first :: other)

/-- What one step refers to, and that nothing else changes with it. -/
structure Entered (key : String) (node : Json) (seg : String) (place : Place) : Prop where
  inside : ∀ new rest, resolvePath (place.put new) (seg :: rest) = resolvePath new rest
  beside : ∀ new other rest, Apart seg other →
    resolvePath (place.put new) (other :: rest) = resolvePath node (other :: rest)
  below : ∀ next rest, resolvePath place.node (next :: rest) = resolvePath node (seg :: next :: rest)
  again : ∀ past last new, enter key past (place.put new) seg last = .ok ⟨new, place.put⟩

theorem assign_assign :
    assign key (some new) (assign key (some old) fields) = assign key (some new) fields := by
  induction fields with
  | nil => simp [assign]
  | cons field rest ih =>
    obtain ⟨k, _⟩ := field
    by_cases same : key = k <;> simp [assign, same, ih]

theorem enter_ok (entered : enter key past node seg last = .ok place) :
    Entered key node seg place := by
  unfold enter at entered
  dsimp only at entered
  split at entered
  · rename_i map
    cases entered
    refine ⟨fun new rest => ?_, fun new other rest apart => ?_, fun next rest => ?_, fun _ _ new => ?_⟩
    · simp [resolvePath, lookup_assign]
    · simp [resolvePath, lookup_assign, apart.1.symm]
    · cases held : map.lookup seg <;> simp [resolvePath, held]
    · simp [enter, lookup_assign, assign_assign]
  · rename_i items
    split at entered
    · cases entered
    · rename_i idx index
      have beside : ∀ other (later : List Json), Apart seg other →
          (∀ i ≠ idx, later[i]? = items[i]?) → ∀ rest,
          resolvePath (.array later) (other :: rest) = resolvePath (.array items) (other :: rest) := by
        intro other later apart same rest
        cases named : parseIndex other with
        | none => simp [resolvePath, named]
        | some i =>
          have differ : i ≠ idx := by
            rintro rfl
            exact apart.2 i index named
          simp [resolvePath, named, same i differ]
      split at entered
      · rename_i item held
        cases entered
        have inside := (List.getElem?_eq_some_iff.1 held).1
        refine ⟨fun new rest => ?_, fun new other rest apart => beside other _ apart ?_ rest,
          fun next rest => ?_, fun _ _ new => ?_⟩
        · simp [resolvePath, index, inside]
        · exact fun i differ => List.getElem?_set_ne differ.symm
        · simp [resolvePath, index, held]
        · simp [enter, index, inside]
      · split at entered
        · rename_i vacant last
          cases entered
          obtain ⟨-, rfl⟩ : _ ∧ idx = items.length := by simpa using last
          refine ⟨fun new rest => ?_, fun new other rest apart => beside other _ apart ?_ rest,
            fun next rest => ?_, fun _ _ new => ?_⟩
          · simp [resolvePath, index]
          · intro i differ
            rw [List.getElem?_append]
            split
            · rfl
            · rw [List.getElem?_singleton, if_neg (by omega), List.getElem?_eq_none (by omega)]
          · simp [resolvePath, index]
          · simp [enter, index]
        · cases entered
  · cases entered

theorem applyPath_cons (set : applyPath key value past node (seg :: rest) = .ok after) :
    ∃ place inner, Entered key node seg place ∧ after = place.put inner ∧
      applyPath key value (past ++ [seg]) place.node rest = .ok inner := by
  obtain ⟨place, entered, set⟩ := Checks.bind_eq_ok.1 set
  obtain ⟨inner, below, same⟩ := Checks.bind_eq_ok.1 set
  cases same
  exact ⟨place, inner, enter_ok entered, rfl, below⟩

theorem resolve_set (set : applyPath key value past node path = .ok after) :
    resolvePath after path = some value := by
  induction path generalizing past node after with
  | nil =>
    cases set
    rfl
  | cons seg rest ih =>
    obtain ⟨place, inner, entered, rfl, below⟩ := applyPath_cons set
    rw [entered.inside, ih below]

theorem resolve_parting (parting : Parting path other)
    (set : applyPath key value past node path = .ok after) :
    resolvePath after other = resolvePath node other := by
  induction parting generalizing past node after with
  | here apart =>
    obtain ⟨place, inner, entered, rfl, -⟩ := applyPath_cons set
    exact entered.beside inner _ _ apart
  | later parting ih =>
    obtain ⟨place, inner, entered, rfl, below⟩ := applyPath_cons set
    rw [entered.inside, ih below]
    cases parting <;> exact entered.below _ _

theorem set_again (set : applyPath key value past node path = .ok after) :
    applyPath key new past after path = applyPath key new past node path := by
  induction path generalizing past node after with
  | nil => rfl
  | cons seg rest ih =>
    obtain ⟨place, entered, run⟩ := Checks.bind_eq_ok.1 set
    obtain ⟨inner, below, same⟩ := Checks.bind_eq_ok.1 run
    cases same
    rw [applyPath, applyPath, (enter_ok entered).again, entered, Checks.ok_bind, Checks.ok_bind,
      ih below]

theorem enter_held (held : resolvePath node (seg :: rest) = some old) :
    ∃ place, enter key past node seg last = .ok place ∧ place.put place.node = node ∧
      resolvePath place.node rest = some old := by
  cases node with
  | object map =>
    obtain ⟨child, there, below⟩ := Option.bind_eq_some_iff.1 held
    exact ⟨_, rfl, by simp [there, assign_same there], by simpa [there] using below⟩
  | array items =>
    obtain ⟨idx, index, inside⟩ := Option.bind_eq_some_iff.1 held
    obtain ⟨item, there, below⟩ := Option.bind_eq_some_iff.1 inside
    refine ⟨⟨item, fun new => .array (items.set idx new)⟩, by simp [enter, index, there], ?_, below⟩
    obtain ⟨_, rfl⟩ := List.getElem?_eq_some_iff.1 there
    simp
  | _ => cases held

theorem set_held (held : resolvePath node path = some old) :
    applyPath key old past node path = .ok node := by
  induction path generalizing past node with
  | nil =>
    cases held
    rfl
  | cons seg rest ih =>
    obtain ⟨place, entered, whole, below⟩ := enter_held held
    rw [applyPath, entered, Checks.ok_bind, ih below, Checks.ok_bind, whole]

/-- A dot-path set is read back, leaves every path that parts from its own, is undone by setting
    what was there, and keeps nothing of an earlier set at its path. -/
theorem dot_path_set_exact (root value : Json) (key : String) (path : List String)
    (set : applyPath key value [] root path = .ok after) :
    resolvePath after path = some value ∧
    (∀ other, Parting path other → resolvePath after other = resolvePath root other) ∧
    (∀ new, applyPath key new [] after path = applyPath key new [] root path) ∧
    ∀ old, resolvePath root path = some old → applyPath key old [] after path = .ok root :=
  ⟨resolve_set set, fun _ parting => resolve_parting parting set, fun _ => set_again set,
    fun _ held => (set_again set).trans (set_held held)⟩

theorem pushed_host_read :
    resolvePath (.object [("hosts", .array [.string "a", .string "b"])]) ["hosts", "1"] =
      some (.string "b") :=
  (dot_path_set_exact (.object [("hosts", .array [.string "a"])]) (.string "b") "hosts.1"
    ["hosts", "1"] rfl).1

end Configs
