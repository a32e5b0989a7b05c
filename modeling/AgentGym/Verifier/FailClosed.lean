import Mathlib.Algebra.Order.Field.Rat
import AgentGym.Verifier.ExactBody
import AgentGym.Verifier.Raising

/-!
# Failing closed

Whatever the task's metadata and the two worlds hold, `verify` passes only a task whose
configuration is complete. It answers unless the family compares pages while some version
delta cannot be computed, or prints a value with an integer of too many digits.
-/

namespace AgentGym.Verifier

/-! ### Configurations -/

def ExpectedBody (config : Json) (pageId : String) : Prop :=
  ∃ body, config.get? "expected_final_body" = some (.str body) ∨
    ∃ bodies, config.get? "expected_final_body" = some (.obj bodies) ∧ bodies.lookup pageId = some (.str body)

/-- A fragment for the page: its entry in a mapping, or the text of the only target. -/
def ExpectedFragment (config : Json) (targets : List String) (pageId : String) : Prop :=
  let fragments := (config.get? "expected_content_fragments").or (config.get? "expected_fragments")
  ∃ text, (∃ kvs, fragments = some (.obj kvs) ∧ kvs.lookup pageId = some (.str text)) ∨
    (fragments = some (.str text) ∧ targets = [pageId])

def ExpectedResponse (config : Json) : Prop :=
  ∃ response, config.get? "expected_response" = some (.str response) ∧ response ≠ ""

/-- What a family needs of the configuration. -/
inductive FamilyConfigured (task : Task) (initial : WorldSnapshot) (config : Json) : String → Prop
  | retrieval (response : ExpectedResponse config) : FamilyConfigured task initial config "retrieval"
  | editPage {targets : List String} (named : PageIds config "expected_page_ids" targets)
      (bodies : ∀ k ∈ targets, ExpectedBody config k) : FamilyConfigured task initial config "edit_page"
  | preservation {targets forbidden fragments : List String} (named : PageIds config "expected_page_ids" targets)
      (bodies : ∀ k ∈ targets, ExpectedBody config k)
      (preserved : config.get? "preserved_body_fragments" = some (.arr (fragments.map .str)))
      (listed : PageIds config "forbidden_page_ids" forbidden) : FamilyConfigured task initial config "preservation"
  | concurrentEdit {target fragment : String} {rest : List String} {concurrency : Json}
      (named : PageIds config "expected_page_ids" (target :: rest))
      (bodies : ∀ k ∈ target :: rest, ExpectedBody config k)
      (found : concurrencyOf task.metadata config = some concurrency)
      (page : concurrency.get? "page_id" = some (.str target))
      (human : humanEditFragment task.metadata config initial target = some fragment) (nonempty : fragment ≠ "") :
      FamilyConfigured task initial config "concurrent_edit"
  | allowed {targets : List String} (mode : permissionMode task.metadata config = .str "allowed")
      (named : PageIds config "expected_page_ids" targets) (fragments : ∀ k ∈ targets, ExpectedFragment config targets k) :
      FamilyConfigured task initial config "permissions"
  | deniedWrite {targets : List String} (mode : permissionMode task.metadata config = .str "denied_write")
      (named : PageIds config "expected_page_ids" targets) : FamilyConfigured task initial config "permissions"
  | deniedRead (mode : permissionMode task.metadata config = .str "denied_read") (response : ExpectedResponse config) :
      FamilyConfigured task initial config "permissions"

def Configured (task : Task) (initial : WorldSnapshot) : Prop :=
  ∃ family config, task.metadata.get? "family" = some (.str family) ∧
    task.metadata.get? "verifier_config" = some (.obj config) ∧ FamilyConfigured task initial (.obj config) family

theorem expectedFinalBody_ok [PyText] {config : Json} {k body : String} {n : Nat}
    (found : expectedFinalBody config k n = .ok body) : ExpectedBody config k := by
  unfold expectedFinalBody at found
  dsimp only at found
  split at found
  · rename_i text configured
    exact ⟨text, Or.inl configured⟩
  · rename_i bodies configured
    split at found
    · rename_i text entry
      exact ⟨text, Or.inr ⟨bodies, configured, entry⟩⟩
    · split at found <;> simp at found
  · simp at found
  · simp at found
  · split at found <;> simp at found

theorem expectedFragment_of_some {config : Json} {targets : List String} (named : targetPageIds config = .ok targets)
    {k text : String} (found : (contentFragments config).get? k = some (.str text)) : ExpectedFragment config targets k := by
  unfold contentFragments at found
  unfold ExpectedFragment
  dsimp only
  split at found
  · rename_i fragments configured
    exact ⟨text, Or.inl ⟨fragments, configured, found⟩⟩
  · rename_i fragment configured
    rw [named] at found
    split at found
    · rename_i pageId single
      obtain rfl := Except.ok.inj single
      rw [Json.get?_obj, Entries.lookup_cons] at found
      split at found
      · rename_i same
        exact ⟨fragment, Or.inr ⟨configured, by rw [same]⟩⟩
      · simp at found
    · simp [Json.get?] at found
  · simp [Json.get?] at found

theorem preservedBodyFragments_ok {config : Json} {fragments : List String}
    (found : preservedBodyFragments config = .ok fragments) :
    config.get? "preserved_body_fragments" = some (.arr (fragments.map .str)) := by
  unfold preservedBodyFragments at found
  split at found
  · rename_i values configured
    dsimp only at found
    split at found
    · simp at found
    · rename_i all
      obtain rfl := Except.ok.inj found
      have string : ∀ (v : Json) (s : String), string? v = some s → v = .str s := by
        intro v s same
        cases v <;> simp_all [string?]
      rw [configured, ← filterMap_strings string (not_not.mp all)]
  · simp at found

theorem humanEditFragment_nonempty {metadata : Dict String Json} {config : Json} {initial : WorldSnapshot}
    {pageId fragment : String} (found : humanEditFragment metadata config initial pageId = some fragment) :
    fragment ≠ "" := by
  have nonempty : ∀ {v : Option Json} {s : String}, v.bind nonemptyString? = some s → s ≠ "" := by
    intro v s same
    obtain ⟨w, -, same⟩ := Option.bind_eq_some_iff.mp same
    exact (nonemptyString?_eq_some.mp same).2
  unfold humanEditFragment at found
  split at found
  · rename_i explicit
    exact Option.some.inj found ▸ nonempty explicit
  · split at found
    · exact (nonemptyString?_eq_some.mp found).2
    · split at found
      · rename_i own
        obtain ⟨key, -, own⟩ := List.exists_of_findSome?_eq_some own
        exact Option.some.inj found ▸ nonempty own
      · split at found
        · simp at found
        · rename_i body own
          have full : body ≠ "" := nonempty own
          split at found
          · dsimp only at found
            split at found
            · rename_i cut
              obtain rfl := Option.some.inj found
              intro empty
              have characters := congrArg String.toList empty
              simp only [String.toList_ofList] at characters
              simp [characters] at cut
            · exact Option.some.inj found ▸ full
          · exact Option.some.inj found ▸ full
    · simp at found

/-! ### Results -/

/-- The flags and the score say what `passed` says. -/
def Consistent (result : VerificationResult) : Prop :=
  (result.passed = true ↔ result.requiredChangesPassed = true ∧ result.forbiddenChangesPassed = true ∧
    result.invariantsPassed = true) ∧ (result.passed = true ↔ result.score = 1)

theorem buildResult_consistent {as : List AssertionResult} (nonempty : as ≠ []) (metadata : List (String × Json)) :
    Consistent (buildResult as metadata) := by
  constructor
  · simp only [buildResult, List.all_eq_true, List.mem_filter, beq_iff_eq]
    constructor
    · intro all
      exact ⟨fun a member => all a member.1, fun a member => all a member.1, fun a member => all a member.1⟩
    · rintro ⟨required, forbidden, invariant⟩ a member
      cases category : a.category with
      | required => exact required a ⟨member, category⟩
      | forbidden => exact forbidden a ⟨member, category⟩
      | invariant => exact invariant a ⟨member, category⟩
  · have positive : (as.length : Rat) ≠ 0 := by
      rw [Nat.cast_ne_zero]
      exact fun none => nonempty (List.length_eq_zero_iff.mp none)
    have counted : (as.filter AssertionResult.passed).length = as.length ↔ ∀ a ∈ as, a.passed = true :=
      List.length_filter_eq_length_iff
    have empty : as.isEmpty = false := by simpa using nonempty
    simp only [buildResult, List.all_eq_true, empty, Bool.false_eq_true, if_false]
    rw [div_eq_one_iff_eq positive, Nat.cast_inj, counted]

theorem replaceVersionAssertion_ne_nil (replacement : AssertionResult) (k : String) (as : List AssertionResult) :
    replaceVersionAssertion replacement k as ≠ [] := by
  cases as with
  | nil => simp [replaceVersionAssertion]
  | cons a as =>
    rw [replaceVersionAssertion]
    split <;> simp

section Families

variable [PyText] [PyFloat] {task : Task} {initial final : WorldSnapshot} {trajectory config : Json}

theorem verifyEdit_ne_nil (exactBody : Bool) : verifyEdit initial final config exactBody ≠ [] := by
  unfold verifyEdit
  split <;> simp

theorem verifyPreservation_ne_nil : verifyPreservation initial final config ≠ [] := by
  unfold verifyPreservation
  dsimp only
  split
  · exact verifyEdit_ne_nil true
  · split
    · simp
    · split
      · simp
      · split <;> simp [verifyEdit_ne_nil]

theorem verifyConcurrent_ne_nil : verifyConcurrent task initial final config ≠ [] := by
  unfold verifyConcurrent
  dsimp only
  split
  · exact verifyEdit_ne_nil true
  · split
    · simp
    · exact replaceVersionAssertion_ne_nil _ _ _

theorem verifyDeniedWrite_ne_nil : verifyDeniedWrite initial final config ≠ [] := by
  unfold verifyDeniedWrite
  split <;> simp

theorem verify_consistent : Consistent (verify task initial final trajectory) := by
  have failure : ∀ message, Consistent (configurationFailure message) := fun message =>
    buildResult_consistent (by simp) _
  unfold verify
  split
  · split
    · split
      · unfold verifyFamily
        split
        · exact buildResult_consistent (by simp [verifyReadOnly]) _
        · unfold verifyPermissions
          split
          · exact buildResult_consistent (by simp [verifyReadOnly]) _
          · exact buildResult_consistent verifyDeniedWrite_ne_nil _
          · exact buildResult_consistent (verifyEdit_ne_nil false) _
          · exact failure _
        · exact buildResult_consistent verifyConcurrent_ne_nil _
        · exact buildResult_consistent verifyPreservation_ne_nil _
        · exact buildResult_consistent (verifyEdit_ne_nil true) _
      · exact failure _
    · exact buildResult_consistent (by simp) _
  · exact buildResult_consistent (by simp) _

/-! ### What a passing family says about its configuration -/

omit [PyFloat] in
theorem expectedResponse_of_pass (all : AllPass (verifyReadOnly initial final trajectory config)) :
    ExpectedResponse config := by
  unfold verifyReadOnly at all
  obtain ⟨-, all⟩ := allPass_cons.mp all
  split at all
  · rename_i response found
    obtain ⟨v, field, same⟩ := Option.bind_eq_some_iff.mp found
    obtain ⟨rfl, nonempty⟩ := nonemptyString?_eq_some.mp same
    exact ⟨response, field, nonempty⟩
  · simp [configurationFailureAssertion] at all

theorem editOk_bodies {targets : List String} {delta : String → Int}
    (edit : EditOk initial final config true targets delta) : ∀ k ∈ targets, ExpectedBody config k := by
  intro k member
  obtain ⟨body, configured, -⟩ := (edit.bodies k member).exact rfl
  exact expectedFinalBody_ok configured

theorem familyConfigured_edit (all : AllPass (verifyEdit initial final config true)) :
    FamilyConfigured task initial config "edit_page" := by
  obtain ⟨targets, named⟩ := targets_of_verifyEdit all
  exact .editPage (pageIdCollection_iff.mp named) (editOk_bodies ((allPass_verifyEdit named).mp all))

theorem familyConfigured_allowed (mode : permissionMode task.metadata config = .str "allowed")
    (all : AllPass (verifyEdit initial final config false)) : FamilyConfigured task initial config "permissions" := by
  obtain ⟨targets, named⟩ := targets_of_verifyEdit all
  refine .allowed mode (pageIdCollection_iff.mp named) fun k member => ?_
  obtain ⟨text, found⟩ := (((allPass_verifyEdit named).mp all).bodies k member).configured rfl
  exact expectedFragment_of_some named found

theorem familyConfigured_deniedWrite (mode : permissionMode task.metadata config = .str "denied_write")
    (all : AllPass (verifyDeniedWrite initial final config)) : FamilyConfigured task initial config "permissions" := by
  unfold verifyDeniedWrite at all
  split at all
  · simp [configurationFailureAssertion] at all
  · rename_i targets named
    exact .deniedWrite mode (pageIdCollection_iff.mp named)

theorem familyConfigured_preservation (all : AllPass (verifyPreservation initial final config)) :
    FamilyConfigured task initial config "preservation" := by
  obtain ⟨targets, named⟩ := targets_of_verifyPreservation all
  cases targets with
  | nil => exact absurd rfl (pageIdCollection_ok named).1
  | cons target rest =>
    obtain ⟨edit, fragments, forbidden, preserved, -, listed, -⟩ := (allPass_verifyPreservation named).mp all
    exact .preservation (pageIdCollection_iff.mp named) (editOk_bodies edit) (preservedBodyFragments_ok preserved)
      (pageIdCollection_iff.mp listed)

theorem familyConfigured_concurrent (all : AllPass (verifyConcurrent task initial final config)) :
    FamilyConfigured task initial config "concurrent_edit" := by
  obtain ⟨targets, named⟩ := targets_of_verifyConcurrent all
  obtain ⟨nonempty, distinct⟩ := pageIdCollection_ok named
  cases targets with
  | nil => exact absurd rfl nonempty
  | cons target rest =>
    obtain ⟨edit, concurrency, fragment, -, found, page, human, -⟩ :=
      (allPass_verifyConcurrent named (List.nodup_cons.mp distinct).1).mp all
    exact .concurrentEdit (pageIdCollection_iff.mp named) (editOk_bodies edit) found page human
      (humanEditFragment_nonempty human)

/-- A run passes only where the task is completely configured. -/
theorem configured_of_pass (passed : (verify task initial final trajectory).passed = true) :
    Configured task initial := by
  unfold verify at passed
  split at passed
  · rename_i family familyField
    split at passed
    · rename_i supported
      split at passed
      · rename_i config configField
        refine ⟨family, config, familyField, configField, ?_⟩
        simp only [supportedFamilies, List.contains_iff_mem, List.mem_cons, List.not_mem_nil, or_false] at supported
        obtain rfl | rfl | rfl | rfl | rfl := supported
        · exact .retrieval (expectedResponse_of_pass (buildResult_passed.mp passed))
        · exact familyConfigured_edit (buildResult_passed.mp passed)
        · exact familyConfigured_preservation (buildResult_passed.mp passed)
        · exact familyConfigured_concurrent (buildResult_passed.mp passed)
        · change (verifyPermissions _ _ _ _ _ _).passed = true at passed
          unfold verifyPermissions at passed
          split at passed
          · rename_i mode
            exact .deniedRead mode (expectedResponse_of_pass (buildResult_passed.mp passed))
          · rename_i mode
            exact familyConfigured_deniedWrite mode (buildResult_passed.mp passed)
          · rename_i mode
            exact familyConfigured_allowed mode (buildResult_passed.mp passed)
          · simp [configurationFailure, buildResult_passed, configurationFailureAssertion] at passed
      · simp [configurationFailure, buildResult_passed, configurationFailureAssertion] at passed
    · simp [unknownFamilyResult, buildResult_passed] at passed
  · simp [unknownFamilyResult, buildResult_passed] at passed

end Families

/-- `verify` answers, its flags and score agree, and it passes configured tasks only. -/
def FailsClosed [PyText] [PyFloat] (task : Task) (initial final : WorldSnapshot) (trajectory : Json) : Prop :=
  ∃ result, verify? task initial final trajectory = .ok result ∧ Consistent result ∧
    (result.passed = true → Configured task initial)

theorem failsClosed_iff [PyText] [PyFloat] (task : Task) (initial final : WorldSnapshot) (trajectory : Json) :
    FailsClosed task initial final trajectory ↔ Answerable task initial final := by
  constructor
  · rintro ⟨result, answered, -⟩
    exact ((returns_verify? result).mp answered).1
  · intro answerable
    exact ⟨_, (returns_verify? _).mpr ⟨answerable, rfl⟩, verify_consistent, configured_of_pass⟩

def versioned (version : Json) : Json := .obj [("version", version)]

/-- An integer that no double can hold. -/
def hugeInt : Json := .int (Nat.pow 10 400)

/-- An integer of too many digits for a text. -/
def wordyInt : Json := .int (Nat.pow 10 5000)

theorem wordy_not_printable : ¬ Printable (versioned wordyInt) := by
  simp only [Printable, versioned, wordyInt, Json.allInts, Json.allIntsEntries, PyValue.hasText_iff]
  decide +kernel

section Raising

variable [PyFloat] {initial final : WorldSnapshot}

theorem comparePrinting_overflow (raises : compareRaises initial.resources final.resources = true) (values : List Json) :
    comparePrinting initial final values = .error (.overflow .intTooLarge) := by
  rw [comparePrinting, compare?, if_pos raises]
  rfl

theorem comparePrinting_digits (computed : compareRaises initial.resources final.resources = false) {values : List Json}
    (wordy : ¬ ∀ v ∈ values, Printable v) : comparePrinting initial final values = .error .digits := by
  rw [comparePrinting, compare?, computed, print, if_neg wordy]
  rfl

end Raising

theorem homeTask_raises [PyText] [PyFloat] {initial final : WorldSnapshot} {e : VerifierError}
    (raises : comparePrinting initial final (invariantTexts initial final) = .error e) (trajectory : Json) :
    verify? homeTask initial final trajectory = .error e ∧ ¬ FailsClosed homeTask initial final trajectory := by
  have raised : verify? homeTask initial final trajectory = .error e := by
    show ((comparePrinting initial final (invariantTexts initial final)).map _).map _ = _
    rw [raises]
    rfl
  refine ⟨raised, ?_⟩
  rintro ⟨result, answered, -⟩
  cases raised.symm.trans answered

/-- Versions that cannot be subtracted, and a version that cannot be printed. -/
theorem huge_version_raises :
    let judge (before after : Json) := @verify? asciiText integers homeTask (homeWorld (versioned before) [])
      (homeWorld (versioned after) []) (.arr [])
    let closed (before after : Json) := @FailsClosed asciiText integers homeTask (homeWorld (versioned before) [])
      (homeWorld (versioned after) []) (.arr [])
    (judge (.float (1 / 2)) hugeInt = .error (.overflow .intTooLarge) ∧ ¬ closed (.float (1 / 2)) hugeInt) ∧
      judge (.int 1) wordyInt = .error .digits ∧ ¬ closed (.int 1) wordyInt := by
  constructor
  · have raises : compareRaises (homeWorld (versioned (.float (1 / 2))) []).resources
        (homeWorld (versioned hugeInt) []).resources = true := by decide +kernel
    exact @homeTask_raises asciiText integers _ _ _ (@comparePrinting_overflow integers _ _ raises _) _
  · have computed : compareRaises (homeWorld (versioned (.int 1)) []).resources
        (homeWorld (versioned wordyInt) []).resources = false := by decide +kernel
    refine @homeTask_raises asciiText integers _ _ _ (@comparePrinting_digits integers _ _ computed _ ?_) _
    intro printable
    exact wordy_not_printable ((printable_invariantTexts.mp printable).histories "home").pages.2

end AgentGym.Verifier
