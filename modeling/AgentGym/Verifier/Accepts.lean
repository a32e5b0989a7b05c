import AgentGym.Verifier.PageEdit

/-!
# What the verifier accepts

For each family, the worlds whose assertions all pass, said without the assertions. The
families that edit share `EditOk`: the targets as configured, every other page and
collection as before, every history grown as its page did.
-/

namespace AgentGym.Verifier

open World (ConfluenceStore resourceKind)

def AllPass (assertions : List AssertionResult) : Prop := ∀ a ∈ assertions, a.passed = true

@[simp] theorem allPass_nil : AllPass [] := by simp [AllPass]

@[simp] theorem allPass_cons {a : AssertionResult} {as : List AssertionResult} :
    AllPass (a :: as) ↔ a.passed = true ∧ AllPass as := by
  simp [AllPass]

@[simp] theorem allPass_append {as bs : List AssertionResult} :
    AllPass (as ++ bs) ↔ AllPass as ∧ AllPass bs := by
  simp [AllPass, or_imp, forall_and]

theorem allPass_flatMap {α : Type} {xs : List α} {f : α → List AssertionResult} :
    AllPass (xs.flatMap f) ↔ ∀ x ∈ xs, AllPass (f x) := by
  simp only [AllPass, List.mem_flatMap]
  exact ⟨fun h x member a own => h a ⟨x, member, own⟩, fun h a ⟨x, member, own⟩ => h x member a own⟩

theorem allPass_map {α : Type} {xs : List α} {f : α → AssertionResult} :
    AllPass (xs.map f) ↔ ∀ x ∈ xs, (f x).passed = true := by
  simp [AllPass]

theorem buildResult_passed {as : List AssertionResult} {metadata : List (String × Json)} :
    (buildResult as metadata).passed = true ↔ AllPass as := by
  simp [buildResult, AllPass]

/-! ### Worlds by page -/

def pageOf (w : WorldSnapshot) (k : String) : Option Json := (collection w.resources "pages").get? k

def historyOf (w : WorldSnapshot) (k : String) : Option Json := (collection w.resources "page_versions").get? k

theorem pageBody_eq_some {w : WorldSnapshot} {k body : String} :
    pageBody w k = some body ↔ resourceField w.resources k "body" "pages" = some (.str body) := by
  unfold pageBody
  split
  · rename_i found
    simp [found]
  · rename_i other
    simp only [reduceCtorEq, false_iff]
    exact fun found => other body found

/-! ### Worlds taken from a store -/

section Taken

variable {w : WorldSnapshot} {s : ConfluenceStore} (taken : w.resources = s.resources)
include taken

theorem pageOf_taken (k : String) : pageOf w k = (s.pages.get? k).map Json.ofDict := by
  rw [pageOf, taken]
  show (Dict.ofEntries (s.pages.mapValues Json.ofDict).entries).get? k = _
  rw [Dict.ofEntries_entries, Dict.get?_mapValues]

theorem historyOf_taken (k : String) :
    historyOf w k = (s.pageVersions.get? k).map fun ds => .arr (ds.map Json.ofDict) := by
  rw [historyOf, taken]
  show (Dict.ofEntries (s.pageVersions.mapValues fun ds => Json.arr (ds.map Json.ofDict)).entries).get? k = _
  rw [Dict.ofEntries_entries, Dict.get?_mapValues]

end Taken

/-! ### Histories -/

/-- The history of a page that changed: as long as its version, the old entries kept, the last one
the page. -/
structure Grown (page : List (String × Json)) (initial final : Option Json) : Prop where
  version : ∃ entries, final = some (.arr entries) ∧ page.lookup "version" = some (.int entries.length)
  prior : ∀ e ∈ ((entriesOf final).zip (entriesOf initial)).take (overlap (entriesOf initial) (entriesOf final)),
    e.1.sameText e.2 = true
  last : ∃ entry, (entriesOf final).getLast? = some entry ∧ entry.sameText (.obj page) = true

def HistoryOk (initialPage finalPage initialHistory finalHistory : Option Json) : Prop :=
  if (orNull initialPage).sameText (orNull finalPage) = true then
    (orNull initialHistory).sameText (orNull finalHistory) = true
  else ∃ page, finalPage = some (.obj page) ∧ Grown page initialHistory finalHistory

theorem historyOk_unchanged {page history : Option Json} : HistoryOk page page history history := by
  rw [HistoryOk, if_pos (Json.sameText_refl _)]
  exact Json.sameText_refl _

theorem eq_of_mem_zip {α : Type} {xs ys : List α} {e : α × α} (h : e ∈ (xs ++ ys).zip xs) : e.1 = e.2 := by
  induction xs with
  | nil => simp at h
  | cons x xs ih =>
    rw [List.cons_append, List.zip_cons_cons] at h
    rcases List.mem_cons.mp h with rfl | later
    · rfl
    · exact ih later

/-- A page of another version, whose history has new entries up to the page as it is. -/
theorem historyOk_appended {page page' : List (String × Json)} {history : Option Json} {old new : List Json} {version : Int}
    (before : page.lookup "version" = some (.int version))
    (after : page'.lookup "version" = some (.int (old.length + new.length))) (raised : version ≠ old.length + new.length)
    (entries : entriesOf history = old) (last : (old ++ new).getLast? = some (.obj page')) :
    HistoryOk (some (.obj page)) (some (.obj page')) history (some (.arr (old ++ new))) := by
  rw [HistoryOk, if_neg]
  · refine ⟨page', rfl, ⟨_, rfl, ?_⟩, ?_, _, last, Json.sameText_refl _⟩
    · rw [after, List.length_append]
      push_cast
      rfl
    · intro e member
      have zipped := List.mem_of_mem_take member
      rw [entries, entriesOf] at zipped
      rw [eq_of_mem_zip zipped]
      exact Json.sameText_refl _
  · intro same
    have versions : Json.optEqBy Json.textScalarEq (some (.int version)) (some (.int (old.length + new.length))) = true := by
      rw [← before, ← after]
      exact Json.optEqBy_get? Json.textScalarEq_laws same "version"
    exact raised (Json.pyEq_int.mp (Json.pyEq_of_sameText versions))

theorem allPass_historyAssertions {initialPage finalPage initialHistory finalHistory : Option Json}
    {pageId : String} :
    AllPass (historyAssertions initialPage finalPage initialHistory finalHistory pageId) ↔
      HistoryOk initialPage finalPage initialHistory finalHistory := by
  unfold historyAssertions HistoryOk
  split
  · simp [historyAssertion]
  · split
    · rename_i page
      simp only [allPass_cons, allPass_nil, and_true, historyLength, historyPriorEntries, historyFinalEntry,
        historyAssertion, List.all_eq_true, Option.some.injEq, Json.obj.injEq, exists_eq_left']
      constructor
      · rintro ⟨length, prior, last⟩
        refine ⟨?_, prior, ?_⟩
        · split at length
          · rename_i version entries field
            exact ⟨entries, rfl, by rw [field, eq_of_beq length]⟩
          · simp at length
        · split at last
          · exact ⟨_, by assumption, last⟩
          · simp at last
      · rintro ⟨⟨entries, rfl, field⟩, prior, entry, final, same⟩
        exact ⟨by simp [field], prior, by rw [final]; exact same⟩
    · rename_i other
      simp only [allPass_cons, historyAssertion, Bool.false_eq_true, false_and, false_iff, not_exists, not_and]
      intro page found
      exact absurd found (other page)

theorem allPass_pageHistoryInvariants {initial final : WorldSnapshot} :
    AllPass (pageHistoryInvariants initial final) ↔
      ∀ k, HistoryOk (pageOf initial k) (pageOf final k) (historyOf initial k) (historyOf final k) := by
  simp only [pageHistoryInvariants, allPass_flatMap, allPass_historyAssertions, mem_unionIds,
    Dict.mem_keys_iff]
  constructor
  · intro all k
    by_cases named : ((pageOf initial k).isSome ∨ (pageOf final k).isSome) ∨
        (historyOf initial k).isSome ∨ (historyOf final k).isSome
    · exact all k named
    · simp only [not_or, Option.not_isSome_iff_eq_none] at named
      obtain ⟨⟨page, page'⟩, history, history'⟩ := named
      rw [page, page', history, history']
      exact historyOk_unchanged
  · intro all k _
    exact all k

theorem allPass_worldInvariants [PyText] {initial final : WorldSnapshot} :
    AllPass (worldInvariants initial final) ↔
      (∀ kind ∈ unchangedInvariantKinds,
        (resourceKind final.resources kind).pyEq (resourceKind initial.resources kind) = true) ∧
      ∀ k, HistoryOk (pageOf initial k) (pageOf final k) (historyOf initial k) (historyOf final k) := by
  rw [worldInvariants, allPass_append, allPass_map, allPass_pageHistoryInvariants]
  rfl

theorem verify_family [PyText] [PyFloat] {task : Task} {initial final : WorldSnapshot} {trajectory : Json}
    {family : String} {config : List (String × Json)} (supported : family ∈ supportedFamilies)
    (familyField : task.metadata.get? "family" = some (.str family))
    (configField : task.metadata.get? "verifier_config" = some (.obj config)) :
    verify task initial final trajectory = verifyFamily family task initial final trajectory (.obj config)
      [("verifier_id", .str verifierId), ("family", .str family)] := by
  simp [verify, familyField, configField, supported]

/-! ### Edits -/

section Edits

variable [PyText] [PyFloat]

/-- The page's version went up from an integer by exactly `delta`. -/
def VersionRaised (initial final : WorldSnapshot) (k : String) (delta : Int) : Prop :=
  (assertVersionBumpedBy initial.resources final.resources k delta .required none).passed = true

/-- What the configuration asks of the body of one target. -/
structure BodyOk (final : WorldSnapshot) (config : Json) (exactBody : Bool) (targetCount : Nat) (k : String) :
    Prop where
  fragment : ∀ text, (contentFragments config).get? k = some (.str text) →
    ∃ body, pageBody final k = some body ∧ textContains body text = true
  configured : exactBody = false → ∃ text, (contentFragments config).get? k = some (.str text)
  exact : exactBody = true → ∃ body, expectedFinalBody config k targetCount = .ok body ∧
    pageBody final k = some body

/-- The final world is the initial one with the targets edited and nothing else touched. -/
structure EditOk (initial final : WorldSnapshot) (config : Json) (exactBody : Bool) (targets : List String)
    (delta : String → Int) : Prop where
  bodies : ∀ k ∈ targets, BodyOk final config exactBody targets.length k
  versions : ∀ k ∈ targets, VersionRaised initial final k (delta k)
  others : ∀ k ∉ targets, Unreported (pageOf initial k) (pageOf final k)
  kinds : ∀ kind ∈ unchangedInvariantKinds,
    (resourceKind final.resources kind).pyEq (resourceKind initial.resources kind) = true
  histories : ∀ k, HistoryOk (pageOf initial k) (pageOf final k) (historyOf initial k) (historyOf final k)

theorem EditOk.congr {initial final : WorldSnapshot} {config : Json} {exactBody : Bool}
    {targets : List String} {d d' : String → Int} (same : ∀ k ∈ targets, d k = d' k)
    (h : EditOk initial final config exactBody targets d) : EditOk initial final config exactBody targets d' where
  bodies := h.bodies
  versions k member := same k member ▸ h.versions k member
  others := h.others
  kinds := h.kinds
  histories := h.histories

omit [PyFloat] in
theorem allPass_bodies {final : WorldSnapshot} {config : Json} {exactBody : Bool} {targetCount : Nat}
    {k : String} :
    AllPass (bodyContains final k ((contentFragments config).get? k) exactBody) ∧
      AllPass (if exactBody then bodyExact final config k targetCount else []) ↔
      BodyOk final config exactBody targetCount k := by
  have contains : AllPass (bodyContains final k ((contentFragments config).get? k) exactBody) ↔
      (∀ text, (contentFragments config).get? k = some (.str text) →
        ∃ body, pageBody final k = some body ∧ textContains body text = true) ∧
      (exactBody = false → ∃ text, (contentFragments config).get? k = some (.str text)) := by
    unfold bodyContains
    split
    · rename_i text found
      simp [found, assertFieldContains_iff, pageBody_eq_some]
    · rename_i other
      have none : ∀ text, ¬ (contentFragments config).get? k = some (.str text) := fun text found =>
        other text found
      cases exactBody <;> simp [none, configurationFailureAssertion]
  have exact : AllPass (if exactBody then bodyExact final config k targetCount else []) ↔
      (exactBody = true → ∃ body, expectedFinalBody config k targetCount = .ok body ∧
        pageBody final k = some body) := by
    cases exactBody with
    | false => simp
    | true =>
      simp only [if_true, true_imp_iff, bodyExact]
      split
      · rename_i failed
        simp [failed, configurationFailureAssertion]
      · rename_i body configured
        rw [configured]
        cases pageBody final k with
        | none => simp [assertEqual_passed, orNull, Json.pyEq, Json.eqBy, Json.pyScalarEq, Json.number?]
        | some actual => simp [assertEqual_passed, orNull, Json.pyEq_str]
  rw [contains, exact]
  constructor
  · rintro ⟨⟨fragment, configured⟩, exact⟩
    exact ⟨fragment, configured, exact⟩
  · rintro ⟨fragment, configured, exact⟩
    exact ⟨⟨fragment, configured⟩, exact⟩

omit [PyFloat] in
theorem allPass_bodies_exact {final : WorldSnapshot} {config : Json} {targetCount : Nat} {k : String} :
    AllPass (bodyContains final k ((contentFragments config).get? k) true) ∧
      AllPass (bodyExact final config k targetCount) ↔ BodyOk final config true targetCount k := by
  rw [← allPass_bodies, if_pos rfl]

theorem allPass_verifyEdit {initial final : WorldSnapshot} {config : Json} {exactBody : Bool}
    {targets : List String} (named : targetPageIds config = .ok targets) :
    AllPass (verifyEdit initial final config exactBody) ↔
      EditOk initial final config exactBody targets fun _ => 1 := by
  have others : (assertNoOtherPagesChanged initial.resources final.resources targets .forbidden
      "no-other-pages-changed").passed = true ↔
      ∀ k ∉ targets, Unreported (pageOf initial k) (pageOf final k) := by
    simp only [assertNoOtherPagesChanged, List.isEmpty_iff]
    exact outsideAllowed_eq_nil
  simp only [verifyEdit, named, allPass_append, allPass_flatMap, targetAssertions, allPass_bodies, allPass_cons,
    allPass_nil, and_true, others, allPass_worldInvariants]
  constructor
  · rintro ⟨⟨targets, others⟩, kinds, histories⟩
    exact ⟨fun k member => (targets k member).1, fun k member => (targets k member).2, others, kinds, histories⟩
  · rintro ⟨bodies, versions, others, kinds, histories⟩
    exact ⟨⟨fun k member => ⟨bodies k member, versions k member⟩, others⟩, kinds, histories⟩

/-! ### Assertion ids -/

omit [PyText] [PyFloat] in
theorem isConfigurationFailure_head {a : AssertionResult} (h : isConfigurationFailure a = true) :
    a.id.toList.head? = some 'c' := by
  have start : "configuration:".toList <+: a.id.toList := List.isPrefixOf_iff_prefix.mp h
  obtain ⟨rest, whole⟩ := start
  rw [← whole]
  rfl

omit [PyText] [PyFloat] in
theorem id_ne {start start' : String} (n : Nat) (differ : start.toList.take n ≠ start'.toList.take n)
    (long : n ≤ start.toList.length) (long' : n ≤ start'.toList.length) (x y : String) :
    start ++ x ≠ start' ++ y := by
  intro same
  have lists := congrArg (List.take n ∘ String.toList) same
  simp only [Function.comp_apply, String.toList_append, List.take_append_of_le_length long,
    List.take_append_of_le_length long'] at lists
  exact differ lists

/-- The only configuration failures of an exact edit are targets without an expected body. -/
theorem configuration_of_verifyEdit {initial final : WorldSnapshot} {config : Json} {targets : List String}
    (named : targetPageIds config = .ok targets) {a : AssertionResult}
    (member : a ∈ verifyEdit initial final config true) (failure : isConfigurationFailure a = true) :
    a.passed = false ∧ ∃ k ∈ targets, ∃ message, expectedFinalBody config k targets.length = .error message := by
  have head := isConfigurationFailure_head failure
  have notHead : ∀ (c : Char) (start x : String), start.toList.head? = some c → c ≠ 'c' →
      (start ++ x).toList.head? ≠ some 'c' := by
    intro c start x first different
    rw [String.toList_append, List.head?_append, first]
    simpa using different
  simp only [verifyEdit, named, targetAssertions, List.mem_append, List.mem_flatMap, List.mem_singleton,
    if_true] at member
  rcases member with (⟨k, target, (contains | exact) | rfl⟩ | rfl) | invariant
  · unfold bodyContains at contains
    split at contains
    · obtain rfl := List.mem_singleton.mp contains
      exact absurd head (notHead 'p' "page-body-contains:" k rfl (by decide))
    · simp at contains
  · unfold bodyExact at exact
    split at exact
    · rename_i message failed
      obtain rfl := List.mem_singleton.mp exact
      exact ⟨rfl, k, target, message, failed⟩
    · obtain rfl := List.mem_singleton.mp exact
      exact absurd head (notHead 'p' "page-body-exact:" k rfl (by decide))
  · exact absurd head (notHead 'p' "page-version-bumped-by-one:" k rfl (by decide))
  · have head : "no-other-pages-changed".toList.head? = some 'c' := head
    exact absurd head (by decide)
  · rw [worldInvariants, List.mem_append, List.mem_map] at invariant
    rcases invariant with ⟨kind, _, rfl⟩ | history
    · exact absurd head (notHead 'u' "unchanged:" kind rfl (by decide))
    · obtain ⟨k, _, own⟩ := List.mem_flatMap.mp history
      unfold historyAssertions at own
      split at own
      · obtain rfl := List.mem_singleton.mp own
        exact absurd head (notHead 'p' "page-history-unchanged:" k rfl (by decide))
      · split at own
        · simp only [List.mem_cons, List.not_mem_nil, or_false] at own
          rcases own with rfl | rfl | rfl
          · exact absurd head (notHead 'p' "page-history-length:" k rfl (by decide))
          · exact absurd head (notHead 'p' "page-history-prior-entries:" k rfl (by decide))
          · exact absurd head (notHead 'p' "page-history-final-entry:" k rfl (by decide))
        · obtain rfl := List.mem_singleton.mp own
          exact absurd head (notHead 'p' "page-history-final-page:" k rfl (by decide))

theorem any_configuration {initial final : WorldSnapshot} {config : Json} {targets : List String}
    (named : targetPageIds config = .ok targets)
    (h : (verifyEdit initial final config true).any isConfigurationFailure = true) :
    ¬ AllPass (verifyEdit initial final config true) ∧
      ∃ k ∈ targets, ∃ message, expectedFinalBody config k targets.length = .error message := by
  obtain ⟨a, member, failure⟩ := List.any_eq_true.mp h
  obtain ⟨failed, unconfigured⟩ := configuration_of_verifyEdit named member failure
  refine ⟨fun all => ?_, unconfigured⟩
  simp [all a member] at failed

omit [PyText] [PyFloat] in
theorem isConfigurationFailure_failure (message : String) :
    isConfigurationFailure (configurationFailureAssertion message) = true := by
  show "configuration:".toList.isPrefixOf ("configuration:" ++ message).toList = true
  rw [List.isPrefixOf_iff_prefix, String.toList_append]
  exact List.prefix_append _ _

theorem verifyEdit_unnamed {initial final : WorldSnapshot} {config : Json} {exactBody : Bool} {message : String}
    (unnamed : targetPageIds config = .error message) :
    (verifyEdit initial final config exactBody).any isConfigurationFailure = true ∧
      ¬ AllPass (verifyEdit initial final config exactBody) := by
  simp only [verifyEdit, unnamed]
  exact ⟨by simp [isConfigurationFailure_failure], by simp [configurationFailureAssertion]⟩

theorem targets_of_verifyEdit {initial final : WorldSnapshot} {config : Json} {exactBody : Bool}
    (all : AllPass (verifyEdit initial final config exactBody)) :
    ∃ targets, targetPageIds config = .ok targets := by
  cases named : targetPageIds config with
  | ok targets => exact ⟨targets, rfl⟩
  | error message => exact absurd all (verifyEdit_unnamed named).2

/-! ### The editing families -/

/-- What preservation asks beyond the edit. -/
def PreservationOk (initial final : WorldSnapshot) (config : Json) (target : String) : Prop :=
  ∃ fragments forbidden, preservedBodyFragments config = .ok fragments ∧
    (∀ fragment ∈ fragments, ∃ before after, pageBody initial target = some before ∧
      pageBody final target = some after ∧ textContains before fragment = true ∧
      textContains after fragment = true) ∧
    pageIdCollection config "forbidden_page_ids" = .ok forbidden ∧
    ∀ k ∈ forbidden, unchanged initial.resources final.resources k "pages" = true

omit [PyText] [PyFloat] in
theorem allPass_bodyFragmentPreservation {initial final : WorldSnapshot} {k : String}
    {fragments : List String} :
    AllPass (bodyFragmentPreservation initial final k fragments) ↔
      ∀ fragment ∈ fragments, ∃ before after, pageBody initial k = some before ∧
        pageBody final k = some after ∧ textContains before fragment = true ∧
        textContains after fragment = true := by
  have each (P : String → Prop) : (∀ e ∈ fragments.zipIdx, P e.1) ↔ ∀ fragment ∈ fragments, P fragment := by
    conv_rhs => rw [← List.zipIdx_map_fst 0 fragments]
    exact List.forall_mem_map.symm
  rw [bodyFragmentPreservation, allPass_map, ← each]
  refine forall₂_congr fun e _ => ?_
  cases pageBody initial k <;> cases pageBody final k <;> simp

/-- An edit that fails as misconfigured is no good edit. -/
theorem misconfigured_iff {initial final : WorldSnapshot} {config : Json} {targets : List String}
    (named : targetPageIds config = .ok targets)
    (failure : (verifyEdit initial final config true).any isConfigurationFailure = true) (steps : String → Int) (P : Prop) :
    AllPass (verifyEdit initial final config true) ↔ EditOk initial final config true targets steps ∧ P := by
  obtain ⟨fails, k, member, message, unconfigured⟩ := any_configuration named failure
  refine iff_of_false fails ?_
  rintro ⟨edit, -⟩
  obtain ⟨body, configured, _⟩ := (edit.bodies k member).exact rfl
  exact absurd (unconfigured.symm.trans configured) (by simp)

theorem allPass_verifyPreservation {initial final : WorldSnapshot} {config : Json} {target : String}
    {rest : List String} (named : targetPageIds config = .ok (target :: rest)) :
    AllPass (verifyPreservation initial final config) ↔
      EditOk initial final config true (target :: rest) (fun _ => 1) ∧
        PreservationOk initial final config target := by
  unfold verifyPreservation
  dsimp only
  split
  · rename_i failure
    exact misconfigured_iff named failure _ _
  · simp only [named, PreservationOk, List.headD_cons]
    split
    · rename_i message failed
      simp [failed, configurationFailureAssertion]
    · rename_i fragments found
      split
      · rename_i message failed
        simp [failed, configurationFailureAssertion]
      · rename_i forbidden listed
        simp only [allPass_append, allPass_verifyEdit named, allPass_bodyFragmentPreservation, allPass_map,
          assertUnchanged, found, listed, Except.ok.injEq]
        constructor
        · rintro ⟨⟨edit, kept⟩, same⟩
          exact ⟨edit, fragments, forbidden, rfl, kept, rfl, same⟩
        · rintro ⟨edit, _, _, rfl, kept, rfl, same⟩
          exact ⟨⟨edit, kept⟩, same⟩

omit [PyText] [PyFloat] in
theorem replaceVersionAssertion_append {replacement a : AssertionResult} {k : String}
    {before after : List AssertionResult}
    (others : ∀ b ∈ before, b.id ≠ s!"page-version-bumped-by-one:{k}")
    (own : a.id = s!"page-version-bumped-by-one:{k}") :
    replaceVersionAssertion replacement k (before ++ a :: after) = before ++ replacement :: after := by
  induction before with
  | nil => simp [replaceVersionAssertion, own]
  | cons b before ih =>
    obtain ⟨other, others⟩ := List.forall_mem_cons.mp others
    rw [List.cons_append, replaceVersionAssertion, if_neg other, ih others, List.cons_append]

theorem targets_of_verifyPreservation {initial final : WorldSnapshot} {config : Json}
    (all : AllPass (verifyPreservation initial final config)) :
    ∃ targets, targetPageIds config = .ok targets := by
  cases named : targetPageIds config with
  | ok targets => exact ⟨targets, rfl⟩
  | error message =>
    obtain ⟨failure, fails⟩ := @verifyEdit_unnamed _ _ initial final _ true _ named
    simp only [verifyPreservation, failure, if_true] at all
    exact absurd all fails

/-- What a concurrent edit asks beyond the edit. -/
def ConcurrencyOk (task : Task) (initial final : WorldSnapshot) (config : Json) (target : String) : Prop :=
  ∃ concurrency fragment body, concurrencyOf task.metadata config = some concurrency ∧
    concurrency.get? "page_id" = some (.str target) ∧
    humanEditFragment task.metadata config initial target = some fragment ∧
    pageBody final target = some body ∧ textContains body fragment = true

omit [PyFloat] in
theorem bodies_ids {final : WorldSnapshot} {config : Json} {fragment : Option Json} {exactBody : Bool}
    {targetCount : Nat} {k : String} :
    ∀ b ∈ bodyContains final k fragment exactBody ++ bodyExact final config k targetCount,
      b.id ≠ s!"page-version-bumped-by-one:{k}" := by
  have failure : ∀ message, (configurationFailureAssertion message).id ≠ "page-version-bumped-by-one:" ++ k :=
    fun message => id_ne 6 (by decide) (by decide) (by decide) message k
  intro b member
  rcases List.mem_append.mp member with contains | exact
  · unfold bodyContains at contains
    split at contains
    · obtain rfl := List.mem_singleton.mp contains
      exact id_ne 6 (by decide) (by decide) (by decide) k k
    · split at contains
      · simp at contains
      · obtain rfl := List.mem_singleton.mp contains
        exact failure _
  · unfold bodyExact at exact
    split at exact
    · obtain rfl := List.mem_singleton.mp exact
      exact failure _
    · obtain rfl := List.mem_singleton.mp exact
      exact id_ne 6 (by decide) (by decide) (by decide) k k

omit [PyText] [PyFloat] in
theorem allPass_concurrencyPage {concurrency : Json} {target : String} :
    AllPass (concurrencyPage concurrency target) ↔ concurrency.get? "page_id" = some (.str target) := by
  unfold concurrencyPage
  split
  · rename_i pageId found
    by_cases same : pageId = target
    · simp [found, same]
    · simp [found, same, configurationFailureAssertion]
  · rename_i other
    simp only [allPass_cons, configurationFailureAssertion, Bool.false_eq_true, false_and, false_iff]
    exact fun found => other target found

omit [PyFloat] in
theorem humanEditPreserved_iff {task : Task} {initial final : WorldSnapshot} {config : Json} {target : String} :
    (humanEditPreserved task initial final config target).passed = true ↔
      ∃ fragment body, humanEditFragment task.metadata config initial target = some fragment ∧
        pageBody final target = some body ∧ textContains body fragment = true := by
  unfold humanEditPreserved
  split
  · rename_i missing
    simp [missing, configurationFailureAssertion]
  · rename_i fragment found
    simp [found, assertFieldContains_iff, pageBody_eq_some]

theorem allPass_verifyConcurrent {task : Task} {initial final : WorldSnapshot} {config : Json}
    {target : String} {rest : List String} (named : targetPageIds config = .ok (target :: rest))
    (distinct : target ∉ rest) :
    AllPass (verifyConcurrent task initial final config) ↔
      EditOk initial final config true (target :: rest) (fun k => if k = target then 2 else 1) ∧
        ConcurrencyOk task initial final config target := by
  unfold verifyConcurrent
  dsimp only
  split
  · rename_i failure
    exact misconfigured_iff named failure _ _
  · simp only [named, List.headD_cons]
    split
    · rename_i missing
      simp [missing, ConcurrencyOk, configurationFailureAssertion]
    · rename_i concurrency found
      -- The first target's version assertion is the one replaced.
      have shape : verifyEdit initial final config true ++ concurrencyPage concurrency target ++
          [humanEditPreserved task initial final config target] =
          (bodyContains final target ((contentFragments config).get? target) true ++
            bodyExact final config target (target :: rest).length) ++
          assertVersionBumpedBy initial.resources final.resources target 1 .required
            (some s!"page-version-bumped-by-one:{target}") ::
          (rest.flatMap (targetAssertions initial final config true (target :: rest).length) ++
            [assertNoOtherPagesChanged initial.resources final.resources (target :: rest) .forbidden
              "no-other-pages-changed"] ++ worldInvariants initial final ++
            concurrencyPage concurrency target ++
            [humanEditPreserved task initial final config target]) := by
        simp [verifyEdit, named, targetAssertions, List.append_assoc]
      have others : (assertNoOtherPagesChanged initial.resources final.resources (target :: rest) .forbidden
          "no-other-pages-changed").passed = true ↔
          ∀ k ∉ target :: rest, Unreported (pageOf initial k) (pageOf final k) := by
        simp only [assertNoOtherPagesChanged, List.isEmpty_iff]
        exact outsideAllowed_eq_nil
      rw [shape, replaceVersionAssertion_append bodies_ids rfl]
      simp only [allPass_append, allPass_cons, allPass_nil, and_true, if_true, allPass_bodies_exact,
        allPass_flatMap, targetAssertions, others, allPass_worldInvariants, allPass_concurrencyPage,
        humanEditPreserved_iff]
      constructor
      · rintro ⟨body, raised, ⟨⟨⟨⟨targets, others⟩, kinds, histories⟩, page⟩, fragment, text, human, stored, contained⟩⟩
        refine ⟨⟨?_, ?_, others, kinds, histories⟩, concurrency, fragment, text, found, page, human, stored, contained⟩
        · intro k member
          rcases List.mem_cons.mp member with rfl | later
          · exact body
          · exact (targets k later).1
        · intro k member
          rcases List.mem_cons.mp member with rfl | later
          · rw [if_pos rfl]; exact raised
          · have other : k ≠ target := by rintro rfl; exact distinct later
            rw [if_neg other]
            exact (targets k later).2
      · rintro ⟨edit, _, fragment, text, found', page, human, stored, contained⟩
        obtain rfl := Option.some.inj (found.symm.trans found')
        have raised := edit.versions target List.mem_cons_self
        rw [if_pos rfl] at raised
        refine ⟨edit.bodies target List.mem_cons_self, raised, ⟨⟨⟨?_, edit.others⟩, edit.kinds, edit.histories⟩, page⟩,
          fragment, text, human, stored, contained⟩
        intro k later
        have other : k ≠ target := by rintro rfl; exact distinct later
        have raised := edit.versions k (List.mem_cons_of_mem _ later)
        rw [if_neg other] at raised
        exact ⟨edit.bodies k (List.mem_cons_of_mem _ later), raised⟩

theorem targets_of_verifyConcurrent {task : Task} {initial final : WorldSnapshot} {config : Json}
    (all : AllPass (verifyConcurrent task initial final config)) :
    ∃ targets, targetPageIds config = .ok targets := by
  cases named : targetPageIds config with
  | ok targets => exact ⟨targets, rfl⟩
  | error message =>
    obtain ⟨failure, fails⟩ := @verifyEdit_unnamed _ _ initial final _ true _ named
    simp only [verifyConcurrent, failure, if_true] at all
    exact absurd all fails

end Edits

end AgentGym.Verifier
