import Mathlib.Data.List.Dedup
import AgentGym.Core.Contracts
import AgentGym.Lib.Text
import AgentGym.Verifier.StateDiff

/-!
# Verification predicates

Each predicate turns one comparison of two worlds into an assertion; `buildResult`
collects assertions into a result. The lemma beside a predicate says when it passes.
-/

namespace AgentGym.Verifier

def buildResult (assertions : List AssertionResult) (metadata : List (String × Json)) : VerificationResult :=
  let categoryPassed (category : Category) :=
    (assertions.filter fun a => a.category == category).all AssertionResult.passed
  { passed := assertions.all AssertionResult.passed
    score := if assertions.isEmpty then 0
      else ((assertions.filter AssertionResult.passed).length : Rat) / assertions.length
    assertions
    requiredChangesPassed := categoryPassed .required
    forbiddenChangesPassed := categoryPassed .forbidden
    invariantsPassed := categoryPassed .invariant
    metadata }

/-- A JSON `null` for an absent value. -/
def orNull (v : Option Json) : Json := v.getD .null

section Assertions

variable [PyText]

def assertEqual (id : String) (expected actual : Json) (category : Category) (message : Option String) :
    AssertionResult :=
  let passed := actual.pyEq expected
  let wanted := PyText.repr expected
  let got := PyText.repr actual
  let default := if passed then s!"{id}: matched expected value" else s!"{id}: expected {wanted}, got {got}"
  ⟨id, passed, category, expected, actual, message.getD default⟩

theorem assertEqual_passed (id : String) (expected actual : Json) (category : Category)
    (message : Option String) : (assertEqual id expected actual category message).passed = actual.pyEq expected :=
  rfl

/-- `_resource_field`: the value of a field that exists. -/
def resourceField (resources : Resources) (resourceId field kind : String) : Option Json :=
  ((collection resources kind).get? resourceId).bind (·.get? field)

def assertUnchanged (initial final : Resources) (resourceId kind : String) (category : Category)
    (assertionId : Option String) : AssertionResult :=
  let passed := unchanged initial final resourceId kind
  let id := assertionId.getD s!"unchanged:{kind}:{resourceId}"
  let name := PyText.repr (.str resourceId)
  let message := if passed then s!"{id}: {kind} resource {name} is unchanged"
    else s!"{id}: {kind} resource {name} changed or is missing"
  ⟨id, passed, category, orNull ((collection initial kind).get? resourceId),
    orNull ((collection final kind).get? resourceId), message⟩

def assertFieldContains (final : Resources) (pageId fieldOrFragment : String) (fragment : Option String)
    (kind : String) (category : Category) (assertionId : Option String) : AssertionResult :=
  let field := if fragment.isSome then fieldOrFragment else "body"
  let expected := fragment.getD fieldOrFragment
  let actual := resourceField final pageId field kind
  let passed := match actual with
    | some (.str text) => textContains text expected
    | _ => false
  let id := assertionId.getD s!"field-contains:{kind}:{pageId}:{field}"
  let name := PyText.repr (.str pageId)
  let fieldName := PyText.repr (.str field)
  let message := if passed then s!"{id}: {kind} resource {name} field {fieldName} contains the fragment"
    else s!"{id}: {kind} resource {name} field {fieldName} is missing the fragment"
  ⟨id, passed, category, .str expected, orNull actual, message⟩

section Numbers

variable [PyFloat]

def assertVersionBumpedBy (initial final : Resources) (pageId : String) (delta : Int) (category : Category)
    (assertionId : Option String) : AssertionResult :=
  let expected := (resourceField initial pageId "version" "pages").bind fun v => addNumbers v delta
  let actual := resourceField final pageId "version" "pages"
  let passed := match expected, actual with
    | some e, some v => (numeric? v).isSome && v.pyEq e
    | _, _ => false
  let id := assertionId.getD s!"version-bumped-by:pages:{pageId}"
  let name := PyText.repr (.str pageId)
  let message := if passed then s!"{id}: page {name} version increased by {delta}"
    else s!"{id}: page {name} did not increase by {delta}"
  ⟨id, passed, category, orNull expected, orNull actual, message⟩

/-- The ids of pages that `compare` reports and that are not allowed to change. -/
def outsideAllowed (initial final : Resources) (allowed : List String) : List String :=
  match (compare initial final).get? "pages" with
  | none => []
  | some diff =>
    sortIds ((diff.created ++ diff.deleted ++ diff.updated).dedup.filter fun id => !allowed.contains id)

def assertNoOtherPagesChanged (initial final : Resources) (allowed : List String) (category : Category)
    (assertionId : String) : AssertionResult :=
  let outside := outsideAllowed initial final allowed
  let passed := outside.isEmpty
  let listed := PyText.repr (.arr (outside.map .str))
  let message := if passed then s!"{assertionId}: no pages outside the allowed set changed"
    else s!"{assertionId}: unexpected changed pages: {listed}"
  ⟨assertionId, passed, category, .arr [], .arr (outside.map .str), message⟩

/-! ### When a predicate passes -/

theorem assertVersionBumpedBy_iff {initial final : Resources} {pageId : String} {delta n : Int}
    {category : Category} {assertionId : Option String}
    (version : resourceField initial pageId "version" "pages" = some (.int n)) :
    (assertVersionBumpedBy initial final pageId delta category assertionId).passed = true ↔
      ∃ v, resourceField final pageId "version" "pages" = some v ∧ numeric? v = some ((n + delta : Int) : Rat) := by
  simp only [assertVersionBumpedBy, version, Option.bind_some, addNumbers]
  cases resourceField final pageId "version" "pages" with
  | none => simp
  | some v =>
    simp only [Option.some.injEq, exists_eq_left', Bool.and_eq_true]
    cases v <;> simp [numeric?, Json.pyEq, Json.eqBy, Json.pyScalarEq, Json.number?]

theorem assertVersionBumpedBy_isSome {initial final : Resources} {pageId : String} {delta : Int}
    {category : Category} {assertionId : Option String}
    (passed : (assertVersionBumpedBy initial final pageId delta category assertionId).passed = true) :
    (resourceField initial pageId "version" "pages").isSome = true := by
  cases version : resourceField initial pageId "version" "pages" with
  | none => simp [assertVersionBumpedBy, version] at passed
  | some v => rfl

omit [PyText] in
theorem outsideAllowed_eq_nil {initial final : Resources} {allowed : List String} :
    outsideAllowed initial final allowed = [] ↔
      ∀ k ∉ allowed, Unreported ((collection initial "pages").get? k) ((collection final "pages").get? k) := by
  rw [outsideAllowed, compare_get?]
  by_cases named : "pages" ∈ initial.keys ∨ "pages" ∈ final.keys
  · rw [if_pos named]
    have reported : ∀ k, k ∈ ((kindDiff (collection initial "pages") (collection final "pages")).created ++
        (kindDiff (collection initial "pages") (collection final "pages")).deleted ++
        (kindDiff (collection initial "pages") (collection final "pages")).updated).dedup ↔
        ¬ Unreported ((collection initial "pages").get? k) ((collection final "pages").get? k) := by
      intro k
      rw [List.mem_dedup, List.mem_append, List.mem_append, or_assoc, mem_reported_iff]
    constructor
    · intro empty k free
      by_contra changed
      rw [List.eq_nil_iff_forall_not_mem] at empty
      refine empty k (mem_sortIds.mpr (List.mem_filter.mpr ⟨(reported k).mpr changed, ?_⟩))
      simpa using free
    · intro same
      rw [List.eq_nil_iff_forall_not_mem]
      intro k member
      obtain ⟨changed, free⟩ := List.mem_filter.mp (mem_sortIds.mp member)
      exact (reported k).mp changed (same k (by simpa using free))
  · rw [if_neg named]
    obtain ⟨left, right⟩ := not_or.mp named
    simp [collection_absent left, collection_absent right, Unreported]

end Numbers

theorem assertFieldContains_iff {final : Resources} {pageId text : String} {category : Category}
    {assertionId : Option String} :
    (assertFieldContains final pageId text none "pages" category assertionId).passed = true ↔
      ∃ body, resourceField final pageId "body" "pages" = some (.str body) ∧ textContains body text = true := by
  simp only [assertFieldContains, Option.isSome_none, Bool.false_eq_true, if_false, Option.getD_none]
  split
  · rename_i body found
    simp [found]
  · rename_i other
    simp only [Bool.false_eq_true, false_iff, not_exists, not_and]
    intro body found
    exact absurd found (other body)

end Assertions

end AgentGym.Verifier
