import Mathlib.Data.List.Infix
import Mathlib.Data.List.TakeWhile
import BambooAgent.Permissions.Matching

/- What the globs of legacy rules and grants match. -/
namespace Permissions
open Compression List

variable {text beginning rest pattern base : String}

theorem startsWith_iff : startsWith text beginning = true ↔ ∃ rest, text = beginning ++ rest := by
  rw [startsWith, isPrefixOf_iff_prefix]
  constructor
  · rintro ⟨rest, same⟩
    exact ⟨String.ofList rest, String.toList_injective (by simp [← same])⟩
  · rintro ⟨rest, rfl⟩
    exact ⟨rest.toList, String.toList_append.symm⟩

theorem dropChars_append : dropChars (beginning ++ rest) beginning.toList.length = rest := by
  simp [dropChars]

theorem containsText_slash : containsText text "/" = true ↔ '/' ∈ text.toList := by
  simp only [containsText, any_eq_true, mem_tails, isPrefixOf_iff_prefix]
  constructor
  · rintro ⟨rest, suffix, begins⟩
    exact suffix.subset (begins.subset (by decide))
  · intro member
    obtain ⟨before, after, same⟩ := append_of_mem member
    exact ⟨'/' :: after, ⟨before, same.symm⟩, ⟨after, rfl⟩⟩

/- One reading of the resource. -/

theorem endsWith_subtree (base : String) : endsWith (base ++ "/**") "/*" = false := by
  simp [endsWith, List.isSuffixOf, List.isPrefixOf]

theorem matchPatternInternal_subtree :
    matchPatternInternal (base ++ "/**") resource = true ↔
      resource = base ∨ ∃ rest, resource = base ++ "/" ++ rest := by
  have subtree : endsWith (base ++ "/**") "/**" = true := by simp [endsWith]
  have directory : dropLastChars (base ++ "/**") 3 = base := by simp [dropLastChars]
  rw [matchPatternInternal, endsWith_subtree base, subtree, directory]
  simp only [Bool.false_and, Bool.false_eq_true, if_false, if_true, Bool.and_eq_true,
    Bool.or_eq_true, decide_eq_true_eq]
  constructor
  · rintro ⟨begins, whole | below⟩
    · obtain ⟨rest, rfl⟩ := startsWith_iff.1 begins
      left
      have empty : rest.toList = [] := by simpa using whole
      rw [String.toList_eq_nil_iff.1 empty, String.append_empty]
    · obtain ⟨rest, rfl⟩ := startsWith_iff.1 begins
      rw [dropChars_append] at below
      obtain ⟨rest, rfl⟩ := startsWith_iff.1 below
      exact .inr ⟨rest, String.append_assoc.symm⟩
  · rintro (rfl | ⟨rest, rfl⟩)
    · exact ⟨startsWith_iff.2 ⟨"", String.append_empty.symm⟩, .inl rfl⟩
    · rw [String.append_assoc, dropChars_append]
      exact ⟨startsWith_iff.2 ⟨_, rfl⟩, .inr (startsWith_iff.2 ⟨rest, rfl⟩)⟩

theorem matchPatternInternal_children (plain : containsText (base ++ "/*") "**" = false) :
    matchPatternInternal (base ++ "/*") resource = true ↔
      ∃ name, resource = base ++ "/" ++ name ∧ '/' ∉ name.toList := by
  have children : endsWith (base ++ "/*") "/*" = true := by simp [endsWith]
  have directory : dropLastChars (base ++ "/*") 1 = base ++ "/" := by
    simp [dropLastChars, ← String.toList_inj, take_append]
  rw [matchPatternInternal, children, plain, directory]
  simp only [Bool.not_false, Bool.and_self, if_true, Bool.and_eq_true, Bool.not_eq_true',
    ← Bool.not_eq_true, containsText_slash]
  constructor
  · rintro ⟨begins, flat⟩
    obtain ⟨name, rfl⟩ := startsWith_iff.1 begins
    rw [dropChars_append] at flat
    exact ⟨name, rfl, flat⟩
  · rintro ⟨name, rfl, flat⟩
    rw [dropChars_append]
    exact ⟨startsWith_iff.2 ⟨name, rfl⟩, flat⟩

/- The other name of `/tmp`. -/

def readings (pattern resource : String) : List String :=
  let resource := normalizePathSeparators resource
  [resource] ++
    (if startsWith resource "/private/tmp/" && startsWith pattern "/tmp/" then
      ["/tmp/" ++ dropChars resource 13] else []) ++
    (if startsWith resource "/tmp/" && startsWith pattern "/private/tmp/" then
      ["/private/tmp/" ++ dropChars resource 5] else [])

theorem matchGlobPattern_readings (resource : String) (narrow : pattern ≠ "*" ∧ pattern ≠ "**/*")
    (named : (startsWith pattern "*." && !containsText pattern "/") = false) :
    matchGlobPattern pattern resource = true ↔
      ∃ reading ∈ readings pattern resource, matchPatternInternal pattern reading = true := by
  rw [matchGlobPattern, if_neg (not_or.2 narrow), named, if_neg Bool.false_ne_true]
  simp only [readings, Bool.or_eq_true, Bool.and_eq_true, mem_append, mem_cons,
    not_mem_nil, or_false, mem_ite_nil_right, or_and_right, exists_or,
    exists_eq_left, and_assoc, exists_and_left]

theorem matchGlobPattern_slashed (resource : String) (slashed : '/' ∈ pattern.toList)
    (narrow : pattern ≠ "**/*") :
    matchGlobPattern pattern resource = true ↔
      ∃ reading ∈ readings pattern resource, matchPatternInternal pattern reading = true := by
  apply matchGlobPattern_readings resource ⟨?_, narrow⟩
  · rw [containsText_slash.2 slashed, Bool.not_true, Bool.and_false]
  · rintro rfl
    exact absurd slashed (by decide)

theorem endsWith_iff : endsWith text rest = true ↔ ∃ beginning, text = beginning ++ rest := by
  rw [endsWith, isSuffixOf_iff_suffix]
  constructor
  · rintro ⟨beginning, same⟩
    exact ⟨String.ofList beginning, String.toList_injective (by simp [← same])⟩
  · rintro ⟨beginning, rfl⟩
    exact ⟨beginning.toList, String.toList_append.symm⟩

/-- A pattern matches itself as a text, whatever its stars. -/
theorem matchPatternInternal_self (pattern : String) :
    matchPatternInternal pattern pattern = true := by
  by_cases children : (endsWith pattern "/*" && !containsText pattern "**") = true
  · obtain ⟨ends, plain⟩ := Bool.and_eq_true_iff.1 children
    obtain ⟨base, rfl⟩ := endsWith_iff.1 ends
    exact (matchPatternInternal_children (by simpa using plain)).2
      ⟨"*", by rw [String.append_assoc]; rfl, by decide⟩
  · by_cases subtree : endsWith pattern "/**" = true
    · obtain ⟨base, rfl⟩ := endsWith_iff.1 subtree
      exact matchPatternInternal_subtree.2 (.inr ⟨"**", by rw [String.append_assoc]; rfl⟩)
    · rw [matchPatternInternal, if_neg children, if_neg subtree, decide_eq_true rfl]

theorem normalizePathSeparators_bare (bare : '\\' ∉ text.toList) :
    normalizePathSeparators text = text := by
  rw [normalizePathSeparators, map_congr_left (g := id), map_id, String.ofList_toList]
  intro c member
  apply if_neg
  rintro rfl
  exact bare member

theorem matchGlobPattern_self (bare : '\\' ∉ pattern.toList) :
    matchGlobPattern pattern pattern = true := by
  rw [matchGlobPattern, normalizePathSeparators_bare bare]
  split
  · rfl
  · split
    · rw [endsWith, isSuffixOf_iff_suffix, dropChars, String.toList_ofList]
      exact drop_suffix 1 pattern.toList
    · rw [matchPatternInternal_self]
      rfl

/- Rules and grants. -/

variable (host : Host)

def normalizedResource (permissionType : PermissionType) (resource : String) : Option String :=
  if shouldNormalizePath permissionType resource then canonicalizePathForMatching host resource
  else some resource

def normalizedPattern (permissionType : PermissionType) (pattern : String) : Option String :=
  if shouldNormalizePath permissionType pattern then
    canonicalizePathPatternForMatching host pattern
  else some pattern

theorem matchesResource_normalized
    (resources : normalizedResource host permissionType resource = some place)
    (patterns : normalizedPattern host permissionType pattern = some base) :
    matchesResource host pattern permissionType resource = matchGlobPattern base place := by
  change (normalizedResource host permissionType resource).any (fun resource =>
    (normalizedPattern host permissionType pattern).any (fun pattern =>
      matchGlobPattern pattern resource)) = _
  rw [resources, patterns]
  rfl

theorem canonicalizePathPattern_plain (plain : pattern.toList.any isGlob = false)
    (bare : '\\' ∉ pattern.toList) (trimmed : trim pattern = pattern)
    (known : canonicalizePathForMatching host pattern = some place) :
    canonicalizePathPatternForMatching host pattern = some place := by
  have literal : pattern.toList.takeWhile (fun c => !isGlob c) = pattern.toList := by
    apply takeWhile_eq_self_iff.2
    simpa using plain
  have straight : isAbsolute pattern = true ∧ hasPathTraversal pattern = false := by
    rw [canonicalizePathForMatching] at known
    split at known
    · cases known
    · rename_i absolute
      split at known
      · cases known
      · rename_i climbs
        exact ⟨Bool.not_eq_false _ ▸ absolute, Bool.eq_false_iff.2 climbs⟩
  have filled : pattern.isEmpty = false := by
    by_contra empty
    have nothing : pattern = "" := by simpa using empty
    rw [nothing] at straight
    cases straight.1
  rw [canonicalizePathPatternForMatching, trimmed, normalizePathSeparators_bare bare]
  dsimp only
  rw [literal, filled, straight.1, straight.2, if_neg (by decide), if_pos rfl, if_pos rfl, known]

/-- What the patterns of rules and grants match, once pattern and resource are normalised. -/
theorem legacy_globs_exact (clock : Clock) (rule : PermissionRule) (grant : SessionGrant)
    (resource : String) (current : rule.isExpired clock = false)
    (current' : grant.isExpired clock = false)
    (same : grant.resourcePattern = rule.resourcePattern) :
    grant.isMatch host clock rule.toolType resource =
      rule.isMatch host clock rule.toolType resource ∧
    (∀ base place, normalizedPattern host rule.toolType rule.resourcePattern =
        some (base ++ "/**") → normalizedResource host rule.toolType resource = some place →
      (rule.isMatch host clock rule.toolType resource = true ↔
        ∃ reading ∈ readings (base ++ "/**") place,
          reading = base ∨ ∃ rest, reading = base ++ "/" ++ rest)) ∧
    (∀ base place, normalizedPattern host rule.toolType rule.resourcePattern =
        some (base ++ "/*") → containsText (base ++ "/*") "**" = false →
      normalizedResource host rule.toolType resource = some place →
      (rule.isMatch host clock rule.toolType resource = true ↔
        ∃ reading ∈ readings (base ++ "/*") place,
          ∃ name, reading = base ++ "/" ++ name ∧ '/' ∉ name.toList)) ∧
    (rule.resourcePattern.toList.any isGlob = false → '\\' ∉ rule.resourcePattern.toList →
      trim rule.resourcePattern = rule.resourcePattern →
      (shouldNormalizePath rule.toolType rule.resourcePattern = true →
        ∃ place, canonicalizePathForMatching host rule.resourcePattern = some place ∧
          '\\' ∉ place.toList) →
      rule.isMatch host clock rule.toolType rule.resourcePattern = true) := by
  have ruled : ∀ resource, rule.isMatch host clock rule.toolType resource =
      matchesResource host rule.resourcePattern rule.toolType resource := by
    intro resource
    rw [PermissionRule.isMatch, current, decide_eq_true rfl]
    rfl
  refine ⟨?_, ?_, ?_, ?_⟩
  · rw [ruled, SessionGrant.isMatch, current', same]
    rfl
  · intro base place patterns resources
    have narrow : base ++ "/**" ≠ "**/*" := fun wide => by
      have ends := endsWith_subtree base
      rw [wide] at ends
      exact absurd ends (by decide)
    rw [ruled, matchesResource_normalized host resources patterns,
      matchGlobPattern_slashed place (by simp) narrow]
    simp only [matchPatternInternal_subtree]
  · intro base place patterns plain resources
    have narrow : base ++ "/*" ≠ "**/*" := fun wide => by
      rw [wide] at plain
      exact absurd plain (by decide)
    rw [ruled, matchesResource_normalized host resources patterns,
      matchGlobPattern_slashed place (by simp) narrow]
    simp only [matchPatternInternal_children plain]
  · intro plain bare trimmed known
    rw [ruled]
    by_cases normal : shouldNormalizePath rule.toolType rule.resourcePattern = true
    · obtain ⟨place, found, bare'⟩ := known normal
      have patterns := canonicalizePathPattern_plain host plain bare trimmed found
      rw [matchesResource_normalized host ((if_pos normal).trans found)
        ((if_pos normal).trans patterns), matchGlobPattern_self bare']
    · rw [matchesResource_normalized host (if_neg normal) (if_neg normal),
        matchGlobPattern_self bare]

/-- A host whose paths are all new. -/
def bareHost : Host := { realpath := fun _ => none, parseUrl := fun _ => none }

def ruleOf (pattern : String) : PermissionRule :=
  { toolType := .writeFile, resourcePattern := pattern, allowed := true, expiresAt := none }

theorem legacy_globs_exact_sample :
    (ruleOf "/srv/**").isMatch bareHost { utc := 0, instant := 0 } .writeFile "/srv/a/b" = true :=
  ((legacy_globs_exact bareHost { utc := 0, instant := 0 } (ruleOf "/srv/**")
    { expiresAt := 0, resourcePattern := "/srv/**" } "/srv/a/b" rfl rfl rfl).2.1 "/srv" "/srv/a/b"
    (by decide) (by decide)).2 ⟨"/srv/a/b", by decide, .inr ⟨"a/b", by decide⟩⟩

/-- One pattern ends in a slash and a star and matches more than children. -/
theorem legacy_globs_everything :
    (ruleOf "**/*").isMatch bareHost { utc := 0, instant := 0 } .writeFile "/srv/a/b" = true ∧
      ∀ name, "/srv/a/b" ≠ "**" ++ "/" ++ name := by
  refine ⟨by decide, ?_⟩
  intro name same
  have first := congrArg (fun text => text.toList.head?) same
  simp at first

end Permissions
