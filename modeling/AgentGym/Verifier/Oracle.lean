import AgentGym.Verifier.Raising
import AgentGym.World.Coherent

/-!
# What the verifier lets pass

The trusted action of every family is accepted: an update, two updates, or none at all,
taken on a store whose histories are as long as the versions of its pages and, where
pages are compared, hold no integer of too many digits for a text.
-/

namespace AgentGym.Verifier

open World

/-- Validated pages under their own ids, each history as long as the version of its page. -/
structure Counted (s : ConfluenceStore) : Prop where
  valid : s.Valid
  keyed : s.Keyed
  length : ∀ {k : String} {p : Page}, s.pages.get? k = some p.modelDump → p.version = (s.getPageVersions k).length

theorem counted_of_coherent {s : ConfluenceStore} (h : s.Coherent) : Counted s :=
  ⟨h.valid, h.keyed, h.version_eq⟩

/-- No integer in a page or a history is too long for a text. -/
def Printed (s : ConfluenceStore) : Prop :=
  (∀ e ∈ s.pages.entries, Printable (.ofDict e.2)) ∧ ∀ e ∈ s.pageVersions.entries, ∀ d ∈ e.2, Printable (.ofDict d)

instance (s : ConfluenceStore) : Decidable (Printed s) := inferInstanceAs (Decidable (_ ∧ _))

/-! ### Rewriting one page -/

/-- `s'` is `s` with page `q` in its place and `new` appended to its history. -/
structure Rewritten (s : ConfluenceStore) (q : Page) (new : List PageData) (s' : ConfluenceStore) : Prop where
  users : s'.users = s.users
  spaces : s'.spaces = s.spaces
  permissions : s'.permissions = s.permissions
  pages : ∀ k, s'.pages.get? k = if k = q.id then some q.modelDump else s.pages.get? k
  histories : ∀ k, s'.pageVersions.get? k =
    if k = q.id then some (s.getPageVersions q.id ++ new) else s.pageVersions.get? k

theorem updated_rewritten (s : ConfluenceStore) (q : Page) : Rewritten s q [q.modelDump] (s.updated q) where
  users := rfl
  spaces := rfl
  permissions := rfl
  pages := ConfluenceStore.updated_pages s q
  histories _ := Dict.get?_set _ _ _ _

theorem Rewritten.updated {s s' : ConfluenceStore} {q r : Page} {new : List PageData} (w : Rewritten s q new s')
    (same : r.id = q.id) : Rewritten s r (new ++ [r.modelDump]) (s'.updated r) where
  users := w.users
  spaces := w.spaces
  permissions := w.permissions
  pages k := by
    rw [ConfluenceStore.updated_pages, w.pages, same]
    by_cases other : k = q.id <;> simp [other]
  histories k := by
    have grown : s'.getPageVersions q.id = s.getPageVersions q.id ++ new := by
      simp [ConfluenceStore.getPageVersions, w.histories]
    show (s'.pageVersions.set r.id (s'.getPageVersions r.id ++ [r.modelDump])).get? k = _
    rw [Dict.get?_set, w.histories, same, grown, List.append_assoc]
    by_cases other : k = q.id <;> simp [other]

section Worlds

variable [PyText] [PyFloat] {s s' : ConfluenceStore} (counted : Counted s) {p q : Page} {new : List PageData}
  (found : s.pages.get? q.id = some p.modelDump) (w : Rewritten s q new s')
  {initial final : WorldSnapshot} (before : initial.resources = s.resources)
  (after : final.resources = s'.resources)
include found w before after

omit [PyText] [PyFloat] found before in
theorem pageBody_rewritten : pageBody final q.id = some q.body := by
  have page : (pageOf final q.id).bind (·.get? "body") = some (.str q.body) := by
    rw [pageOf_taken after, w.pages, if_pos rfl]
    rfl
  exact pageBody_eq_some.mpr page

omit [PyText] [PyFloat] w after in
theorem pageBody_initial : pageBody initial q.id = some p.body := by
  have page : (pageOf initial q.id).bind (·.get? "body") = some (.str p.body) := by
    rw [pageOf_taken before, found]
    rfl
  exact pageBody_eq_some.mpr page

omit [PyText] [PyFloat] found in
theorem resourceKind_rewritten {kind : String} (member : kind ∈ unchangedInvariantKinds) :
    resourceKind final.resources kind = resourceKind initial.resources kind := by
  simp only [unchangedInvariantKinds, List.mem_cons, List.not_mem_nil, or_false] at member
  rw [before, after]
  rcases member with rfl | rfl | rfl
  · exact w.users
  · exact w.spaces
  · exact w.permissions

include counted in
/-- A rewritten page that counts its new entries satisfies everything an edit is held to. -/
theorem edit_of_rewritten (last : new.getLast? = some q.modelDump) (number : q.version = p.version + new.length)
    {config : Json} {exactBody : Bool} (body : BodyOk final config exactBody 1 q.id) :
    EditOk initial final config exactBody [q.id] fun _ => new.length := by
  have positive : new ≠ [] := by
    rintro rfl
    simp at last
  have positive := List.length_pos_of_ne_nil positive
  have raised : q.version ≠ p.version := by omega
  refine ⟨?_, ?_, ?_, ?_, ?_⟩
  · intro k member
    rw [List.mem_singleton.mp member]
    exact body
  · intro k member
    rw [List.mem_singleton.mp member, VersionRaised, assertVersionBumpedBy_iff (n := p.version)]
    · refine ⟨.int q.version, ?_, ?_⟩
      · show (pageOf final q.id).bind _ = _
        rw [pageOf_taken after, w.pages, if_pos rfl]
        rfl
      · rw [number]
        rfl
    · show (pageOf initial q.id).bind _ = _
      rw [pageOf_taken before, found]
      rfl
  · intro k other
    rw [List.mem_singleton] at other
    rw [pageOf_taken before, pageOf_taken after, w.pages, if_neg other]
    cases s.pages.get? k with
    | none => exact Or.inl ⟨rfl, rfl⟩
    | some d => exact Or.inr ⟨_, _, rfl, rfl, rfl, rfl, Json.pyEq_refl _⟩
  · intro kind member
    rw [resourceKind_rewritten w before after member]
    exact Json.pyEq_refl _
  · intro k
    rw [pageOf_taken before, pageOf_taken after, historyOf_taken before, historyOf_taken after, w.pages, w.histories]
    by_cases target : k = q.id
    · subst target
      have old : entriesOf ((s.pageVersions.get? q.id).map fun ds => .arr (ds.map Json.ofDict)) =
          (s.getPageVersions q.id).map Json.ofDict := by
        unfold ConfluenceStore.getPageVersions
        cases s.pageVersions.get? q.id <;> rfl
      have total : q.version = (((s.getPageVersions q.id).map Json.ofDict).length : Int) + (new.map Json.ofDict).length := by
        rw [List.length_map, List.length_map, number, counted.length found]
      rw [if_pos rfl, if_pos rfl, found, Option.map_some, Option.map_some, Option.map_some, List.map_append]
      refine historyOk_appended p.get?_version (q.get?_version.trans (congrArg _ (congrArg _ total))) ?_ old ?_
      · exact fun same => raised (same ▸ total)
      · rw [← List.map_append, List.getLast?_map, List.getLast?_append, last]
        rfl
    · rw [if_neg target, if_neg target]
      exact historyOk_unchanged

omit [PyText] [PyFloat] in
/-- Only one page changes, and its version is an integer in both worlds. -/
theorem subtractable_of_rewritten : Subtractable initial.resources final.resources := by
  intro kind id old new left right different
  by_cases pages : kind = "pages"
  · subst pages
    have here := (pageOf_taken before id).symm.trans left
    have there := (pageOf_taken after id).symm.trans right
    rw [w.pages] at there
    by_cases target : id = q.id
    · rw [target, found] at here
      rw [if_pos target] at there
      obtain rfl := Option.some.inj here
      obtain rfl := Option.some.inj there
      rfl
    · rw [if_neg target] at there
      obtain rfl := Option.some.inj (here.symm.trans there)
      simp [Json.pyEq_refl] at different
  by_cases histories : kind = "page_versions"
  · subst histories
    have here := (historyOf_taken before id).symm.trans left
    obtain ⟨ds, -, rfl⟩ := Option.map_eq_some_iff.mp here
    rfl
  · have same : initial.resources.get? kind = final.resources.get? kind := by
      rw [before, after]
      simp [ConfluenceStore.resources, Dict.get?, Entries.lookup_cons, w.users, w.spaces, w.permissions, Ne.symm pages,
        Ne.symm histories]
    rw [collection, same] at left
    obtain rfl := Option.some.inj (left.symm.trans right)
    simp [Json.pyEq_refl] at different

end Worlds

theorem Printed.page {s : ConfluenceStore} (printed : Printed s) {w : WorldSnapshot} (taken : w.resources = s.resources)
    (k : String) : Printable (orNull (pageOf w k)) := by
  rw [pageOf_taken taken]
  cases found : s.pages.get? k with
  | none => rfl
  | some d => exact printed.1 _ (Dict.mem_entries_iff.mpr found)

theorem Printed.entries {s : ConfluenceStore} (printed : Printed s) {w : WorldSnapshot} (taken : w.resources = s.resources)
    (k : String) : ∀ v ∈ entriesOf (historyOf w k), Printable v := by
  rw [historyOf_taken taken]
  cases found : s.pageVersions.get? k with
  | none => simp [entriesOf]
  | some ds =>
    intro v member
    obtain ⟨d, stored, rfl⟩ := List.mem_map.mp member
    exact printed.2 _ (Dict.mem_entries_iff.mpr found) d stored

theorem Printed.version {s : ConfluenceStore} (printed : Printed s) {k : String} {d : PageData}
    (stored : d ∈ s.getPageVersions k) : Printable (.ofDict d) := by
  unfold ConfluenceStore.getPageVersions at stored
  cases found : s.pageVersions.get? k with
  | none => simp [found] at stored
  | some ds =>
    rw [found] at stored
    exact printed.2 _ (Dict.mem_entries_iff.mpr found) d stored

/-- A page with the declared fields alone is printed with its version. -/
theorem printable_page {p : Page} (plain : p.extras = Dict.empty) (short : PyValue.HasText p.version) :
    Printable (.ofDict p.modelDump) := by
  simp [Printable, Json.ofDict, Page.modelDump, Page.fieldEntries, plain, Dict.empty, Json.allInts, Json.allIntsEntries,
    short]

theorem Printed.history {s : ConfluenceStore} (printed : Printed s) {w : WorldSnapshot} (taken : w.resources = s.resources)
    (k : String) : Printable (orNull (historyOf w k)) := by
  have entries := printed.entries taken k
  rw [historyOf_taken taken] at entries ⊢
  cases found : s.pageVersions.get? k with
  | none => rfl
  | some ds =>
    rw [found] at entries
    exact Json.allInts_arr.mpr entries

theorem Printed.updated {s : ConfluenceStore} (printed : Printed s) {q : Page} (page : Printable (.ofDict q.modelDump)) :
    Printed (s.updated q) := by
  refine ⟨fun e member => ?_, fun e member d stored => ?_⟩
  · have found := Dict.mem_entries_iff.mp member
    rw [ConfluenceStore.updated_pages] at found
    split at found
    · rwa [← Option.some.inj found]
    · exact printed.1 e (Dict.mem_entries_iff.mpr found)
  · have found := Dict.mem_entries_iff.mp member
    rw [(updated_rewritten s q).histories] at found
    split at found
    · obtain same := Option.some.inj found
      rw [← same] at stored
      rcases List.mem_append.mp stored with old | new
      · exact printed.version old
      · rwa [List.mem_singleton.mp new]
    · exact printed.2 e (Dict.mem_entries_iff.mpr found) d stored

/-- Printed pages and histories are all that the history assertions print. -/
theorem historyPrintable_of_printed {s s' : ConfluenceStore} (printed : Printed s) (printed' : Printed s')
    {initial final : WorldSnapshot} (before : initial.resources = s.resources) (after : final.resources = s'.resources)
    (k : String) : HistoryPrintable (pageOf initial k) (pageOf final k) (historyOf initial k) (historyOf final k) where
  pages := ⟨printed.page before k, printed'.page after k⟩
  untouched _ := ⟨printed.history before k, printed'.history after k⟩
  last _ _ entry member := printed'.entries after k entry (List.mem_of_getLast? member)
  prior _ _ earlier entry old later split _ := by
    have member : (entry, old) ∈ (entriesOf (historyOf final k)).zip (entriesOf (historyOf initial k)) :=
      List.mem_of_mem_take (split ▸ List.mem_append_right _ List.mem_cons_self)
    obtain ⟨new, prior⟩ := List.of_mem_zip member
    exact ⟨printed'.entries after k entry new, printed.entries before k old prior⟩

theorem rewritten_answers {s s' : ConfluenceStore} {p q : Page} {new : List PageData}
    (found : s.pages.get? q.id = some p.modelDump) (w : Rewritten s q new s') (printed : Printed s)
    (printed' : Printed s') {initial final : WorldSnapshot} (before : initial.resources = s.resources)
    (after : final.resources = s'.resources) :
    Subtractable initial.resources final.resources ∧ EditPrintable initial final := by
  refine ⟨subtractable_of_rewritten found w before after, fun kind member => Or.inl ?_,
    historyPrintable_of_printed printed printed' before after⟩
  rw [resourceKind_rewritten w before after member]
  exact Json.pyEq_refl _

/-! ### Configurations -/

/-- The configuration names exactly these ids under the key. -/
def Names (config : Json) (key : String) (ids : List String) : Prop :=
  config.get? key = some (.arr (ids.map .str)) ∨ ∃ id, ids = [id] ∧ config.get? key = some (.str id)

theorem pageIdCollection_names {config : Json} {key : String} {ids : List String} (names : Names config key ids)
    (nonempty : ids ≠ []) (distinct : ids.Nodup) (sound : ∀ id ∈ ids, id ≠ "") :
    pageIdCollection config key = .ok ids := by
  refine pageIdCollection_iff.mpr ⟨nonempty, distinct, sound, ?_⟩
  rcases names with listed | ⟨id, rfl, single⟩
  · exact Or.inr listed
  · exact Or.inl ⟨id, single, rfl⟩

/-- The configured content fragment, if there is one, occurs in the body. -/
def FragmentIn (config : Json) (pageId body : String) : Prop :=
  ∀ text, (contentFragments config).get? pageId = some (.str text) → textContains body text = true

/-- What preservation configures besides the target and its body. -/
structure Preserving (s : ConfluenceStore) (config : Json) (target before after : String) : Prop where
  fragments : ∃ texts : List String, config.get? "preserved_body_fragments" = some (.arr (texts.map .str)) ∧
    ∀ text ∈ texts, textContains before text = true ∧ textContains after text = true
  forbidden : ∃ ids, Names config "forbidden_page_ids" ids ∧ ids ≠ [] ∧ ids.Nodup ∧
    ∀ id ∈ ids, id ≠ "" ∧ id ≠ target ∧ (s.pages.get? id).isSome = true

/-- Verification passes, with every assertion true. -/
def AllTrue (result : VerificationResult) : Prop := result.passed = true ∧ AllPass result.assertions

theorem allTrue_buildResult {assertions : List AssertionResult} {metadata : List (String × Json)}
    (all : AllPass assertions) : AllTrue (buildResult assertions metadata) :=
  ⟨buildResult_passed.mpr all, all⟩

/-- `verify` answers, and everything it asserts is true. -/
def Accepted [PyText] [PyFloat] (task : Task) (initial final : WorldSnapshot) (trajectory : Json) : Prop :=
  ∃ result, verify? task initial final trajectory = .ok result ∧ AllTrue result

section Answers

variable [PyText] [PyFloat] {task : Task} {initial final : WorldSnapshot} {trajectory : Json} {family : String}
  {config : List (String × Json)} (familyField : task.metadata.get? "family" = some (.str family))
  (configField : task.metadata.get? "verifier_config" = some (.obj config))
include familyField configField

/-- A family that edits answers on worlds it can compare and print. -/
theorem accepted_edit (answers : Subtractable initial.resources final.resources ∧ EditPrintable initial final)
    (kind : family ∈ ["edit_page", "preservation", "concurrent_edit"] ∨
      family = "permissions" ∧ permissionMode task.metadata (.obj config) = .str "allowed")
    (all : AllTrue (verify task initial final trajectory)) : Accepted task initial final trajectory := by
  refine ⟨_, (returns_verify? _).mpr ⟨(answerable_iff familyField configField).mpr ?_, rfl⟩, all⟩
  rcases kind with edits | ⟨rfl, mode⟩
  · exact (familyAnswers_edit edits).mpr fun _ => answers
  · exact familyAnswers_permissions.mpr ⟨by simp [mode], fun _ _ => answers, by simp [mode]⟩

/-- The others answer on a world that stays as it is. -/
theorem accepted_unchanged (same : final.resources = initial.resources)
    (kind : family = "retrieval" ∨ family = "permissions" ∧
      (permissionMode task.metadata (.obj config) = .str "denied_read" ∨
        permissionMode task.metadata (.obj config) = .str "denied_write"))
    (all : AllTrue (verify task initial final trajectory)) : Accepted task initial final trajectory := by
  have printable : WorldPrintable initial final := Or.inl (by rw [same]; exact Json.pyEq_refl _)
  have subtractable : Subtractable initial.resources final.resources := by
    intro kind id old new left right different
    rw [same] at right
    obtain rfl := Option.some.inj (left.symm.trans right)
    simp [Json.pyEq_refl] at different
  refine ⟨_, (returns_verify? _).mpr ⟨(answerable_iff familyField configField).mpr ?_, rfl⟩, all⟩
  rcases kind with rfl | ⟨rfl, mode⟩
  · exact familyAnswers_retrieval.mpr printable
  · refine familyAnswers_permissions.mpr ⟨fun _ => printable, fun allowed => ?_, fun _ _ => ⟨subtractable, printable⟩⟩
    rw [allowed] at mode
    simp at mode

end Answers

section Families

variable [PyText] [PyFloat]

omit [PyFloat] in
theorem worldUnchanged_same {initial final : WorldSnapshot} (same : final.resources = initial.resources)
    {category : Category} {assertionId : String} :
    (worldUnchanged initial final category assertionId).passed = true := by
  show (Json.ofDict final.resources).pyEq (.ofDict initial.resources) = true
  rw [same]
  exact Json.pyEq_refl _

omit [PyFloat] in
theorem bodyOk_exact {final : WorldSnapshot} {config : Json} {k e : String} (stored : pageBody final k = some e)
    (configured : expectedFinalBody config k 1 = .ok e) (fragment : FragmentIn config k e) :
    BodyOk final config true 1 k where
  fragment text found := ⟨e, stored, fragment text found⟩
  configured inexact := by simp at inexact
  exact _ := ⟨e, configured, stored⟩

variable {s : ConfluenceStore} (counted : Counted s) {p : Page} (found : s.pages.get? p.id = some p.modelDump)
  {config : Json} (named : targetPageIds config = .ok [p.id]) {initial final : WorldSnapshot}
  (before : initial.resources = s.resources)
include counted found named before

theorem oracle_edit {e : String} (configured : expectedFinalBody config p.id 1 = .ok e)
    (fragment : FragmentIn config p.id e)
    (after : final.resources = (s.updated (p.changed none (some e))).resources) :
    AllPass (verifyEdit initial final config true) := by
  have w := updated_rewritten s (p.changed none (some e))
  exact (allPass_verifyEdit named).mpr
    (edit_of_rewritten (q := p.changed none (some e)) counted found w before after rfl rfl
      (bodyOk_exact (pageBody_rewritten w after) configured fragment))

theorem oracle_preservation {e : String} (configured : expectedFinalBody config p.id 1 = .ok e)
    (fragment : FragmentIn config p.id e) (preserving : Preserving s config p.id p.body e)
    (after : final.resources = (s.updated (p.changed none (some e))).resources) :
    AllPass (verifyPreservation initial final config) := by
  have w := updated_rewritten s (p.changed none (some e))
  have edit := (allPass_verifyEdit named).mp (oracle_edit counted found named before configured fragment after)
  obtain ⟨⟨texts, listed, kept⟩, ids, names, nonempty, distinct, others⟩ := preserving
  have strings : (texts.map Json.str).filterMap string? = texts := by
    rw [List.filterMap_map]
    exact List.filterMap_some
  refine (allPass_verifyPreservation named).mpr ⟨edit, texts, ids, ?_, ?_, ?_, ?_⟩
  · simp [preservedBodyFragments, listed, strings]
  · intro text member
    exact ⟨p.body, e, pageBody_initial found before, pageBody_rewritten w after, kept text member⟩
  · exact pageIdCollection_names names nonempty distinct fun id member => (others id member).1
  · intro id member
    obtain ⟨_, other, present⟩ := others id member
    obtain ⟨d, stored⟩ := Option.isSome_iff_exists.mp present
    have left : (collection initial.resources "pages").get? id = some (.ofDict d) := by
      have page := pageOf_taken before id
      rw [stored] at page
      exact page
    have right : (collection final.resources "pages").get? id = some (.ofDict d) := by
      have page := pageOf_taken after id
      rw [w.pages, Page.changed_id, if_neg other, stored] at page
      exact page
    simp only [unchanged, left, right]
    exact Json.pyEq_refl _

theorem oracle_concurrent {task : Task} {h e fragment : String} {concurrency : Json}
    (configured : expectedFinalBody config p.id 1 = .ok e) (requested : FragmentIn config p.id e)
    (metadata : concurrencyOf task.metadata config = some concurrency)
    (page : concurrency.get? "page_id" = some (.str p.id))
    (human : humanEditFragment task.metadata config initial p.id = some fragment)
    (kept : textContains e fragment = true)
    (after : final.resources =
      ((s.updated (p.changed none (some h))).updated ((p.changed none (some h)).changed none (some e))).resources) :
    AllPass (verifyConcurrent task initial final config) := by
  have w := (updated_rewritten s (p.changed none (some h))).updated
    (r := (p.changed none (some h)).changed none (some e)) rfl
  have stored := pageBody_rewritten w after
  have number : ((p.changed none (some h)).changed none (some e)).version = p.version + 2 := by
    rw [Page.changed_version, Page.changed_version]
    omega
  have edit := edit_of_rewritten (q := (p.changed none (some h)).changed none (some e)) counted found w before
    after rfl number (bodyOk_exact stored configured requested)
  refine (allPass_verifyConcurrent named List.not_mem_nil).mpr ⟨edit.congr ?_, concurrency, fragment, e,
    metadata, page, human, stored, kept⟩
  intro k member
  have same : k = p.id := List.mem_singleton.mp member
  rw [if_pos same]
  rfl

theorem oracle_allowed (q : Page) (same : q.id = p.id) (number : q.version = p.version + 1) {text : String}
    (configured : (contentFragments config).get? p.id = some (.str text)) (kept : textContains q.body text = true)
    (after : final.resources = (s.updated q).resources) : AllPass (verifyEdit initial final config false) := by
  have w := updated_rewritten s q
  rw [← same] at found named configured
  refine (allPass_verifyEdit named).mpr (edit_of_rewritten counted found w before after rfl number
    ⟨?_, fun _ => ⟨text, configured⟩, by simp⟩)
  intro text' configured'
  obtain rfl := Json.str.inj (Option.some.inj (configured.symm.trans configured'))
  exact ⟨q.body, pageBody_rewritten w after, kept⟩

omit counted found in
theorem oracle_denied_write {d : PageData} (present : s.pages.get? p.id = some d)
    (after : final.resources = s.resources) : AllPass (verifyDeniedWrite initial final config) := by
  have same : final.resources = initial.resources := after.trans before.symm
  have page := pageOf_taken before p.id
  rw [present] at page
  have page : (collection initial.resources "pages").get? p.id = some (.ofDict d) := page
  have others : outsideAllowed initial.resources initial.resources [p.id] = [] := by
    refine outsideAllowed_eq_nil.mpr fun k _ => ?_
    have lookup : (collection initial.resources "pages").get? k = (s.pages.get? k).map Json.ofDict :=
      pageOf_taken before k
    rw [lookup]
    cases s.pages.get? k with
    | none => exact Or.inl ⟨rfl, rfl⟩
    | some d => exact Or.inr ⟨_, _, rfl, rfl, rfl, rfl, Json.pyEq_refl _⟩
  have target : unchanged initial.resources final.resources p.id "pages" = true := by
    simp only [unchanged, same, page]
    exact Json.pyEq_refl _
  have outside : (outsideAllowed initial.resources final.resources [p.id]).isEmpty = true := by
    rw [same, others]
    rfl
  simp only [verifyDeniedWrite, named, List.headD_cons, allPass_cons, allPass_nil, and_true]
  exact ⟨target, outside, worldUnchanged_same same⟩

end Families

/-- A completion whose final answer is this one. -/
def CompletedWith (trajectory : Json) (answer : String) : Prop :=
  ∃ event ∈ trajectoryEvents trajectory, isCompleted event = true ∧ finalAnswer event = some answer

theorem oracle_read_only [PyText] {initial final : WorldSnapshot} (same : final.resources = initial.resources)
    {trajectory config : Json} {expected answer : String}
    (response : config.get? "expected_response" = some (.str expected)) (nonempty : expected ≠ "")
    (completed : CompletedWith trajectory answer) (contained : textContains answer expected = true) :
    AllPass (verifyReadOnly initial final trajectory config) := by
  obtain ⟨event, member, type, answered⟩ := completed
  have answers : answer ∈ ((trajectoryEvents trajectory).filter isCompleted).filterMap finalAnswer :=
    List.mem_filterMap.mpr ⟨event, List.mem_filter.mpr ⟨member, type⟩, answered⟩
  have evidence : (completionEvidence trajectory expected).passed = true := by
    unfold completionEvidence
    dsimp only
    split
    · rfl
    · rename_i missing
      exact absurd contained (List.find?_eq_none.mp missing answer answers)
  simp [verifyReadOnly, response, nonemptyString?, nonempty, evidence, worldUnchanged_same same]

/-- The oracle of every family is accepted. -/
theorem oracle_accepted [PyText] [PyFloat] {s : ConfluenceStore} (counted : Counted s) {task : Task}
    {family : String} {config : List (String × Json)} (familyField : task.metadata.get? "family" = some (.str family))
    (configField : task.metadata.get? "verifier_config" = some (.obj config)) (ids ids' : String × String)
    (trajectory : Json) :
    let initial := s.snapshot ids.1 ids.2
    let accepted (s' : ConfluenceStore) := Accepted task initial (s'.snapshot ids'.1 ids'.2) trajectory
    let mode := permissionMode task.metadata (.obj config)
    (∀ p : Page, s.pages.get? p.id = some p.modelDump → p.id ≠ "" →
      Names (.obj config) "expected_page_ids" [p.id] →
      (∀ e, expectedFinalBody (.obj config) p.id 1 = .ok e → FragmentIn (.obj config) p.id e →
        family = "edit_page" ∨ family = "preservation" ∧ Preserving s (.obj config) p.id p.body e →
        ∃ q s', s.updatePage p.id none none (some e) (some p.version) = (.ok q, s') ∧
          (Printed s → Printed s' → accepted s')) ∧
      (∀ h e fragment concurrency, family = "concurrent_edit" → expectedFinalBody (.obj config) p.id 1 = .ok e →
        FragmentIn (.obj config) p.id e → concurrencyOf task.metadata (.obj config) = some concurrency →
        concurrency.get? "page_id" = some (.str p.id) →
        humanEditFragment task.metadata (.obj config) initial p.id = some fragment → textContains e fragment = true →
        ∃ q s₁ q' s', s.updatePage p.id none none (some h) (some p.version) = (.ok q, s₁) ∧
          s₁.updatePage p.id none none (some e) (some q.version) = (.ok q', s') ∧
          (Printed s → Printed s' → accepted s')) ∧
      (∀ text updates title body expected q s', family = "permissions" → mode = .str "allowed" →
        (contentFragments (.obj config)).get? p.id = some (.str text) →
        s.updatePage p.id updates title body expected = (.ok q, s') → textContains q.body text = true →
        Printed s → Printed s' → accepted s') ∧
      (family = "permissions" → mode = .str "denied_write" → accepted s)) ∧
    (∀ expected answer, family = "retrieval" ∨ family = "permissions" ∧ mode = .str "denied_read" →
      (Json.obj config).get? "expected_response" = some (.str expected) → expected ≠ "" →
      CompletedWith trajectory answer → textContains answer expected = true → accepted s) := by
  intro initial accepted mode
  have single : ∀ p : Page, p.id ≠ "" → Names (.obj config) "expected_page_ids" [p.id] →
      targetPageIds (.obj config) = .ok [p.id] := fun p nonempty names =>
    pageIdCollection_names names (by simp) (by simp) (by simpa using nonempty)
  refine ⟨fun p found nonempty names => ⟨?_, ?_, ?_, ?_⟩, ?_⟩
  · intro e configured fragment kind
    refine ⟨_, _, ConfluenceStore.updatePage_body e found, fun printed printed' => ?_⟩
    have w := updated_rewritten s (p.changed none (some e))
    rcases kind with rfl | ⟨rfl, preserving⟩
    · refine accepted_edit familyField configField
        (rewritten_answers (q := p.changed none (some e)) found w printed printed' rfl rfl) (Or.inl (by decide)) ?_
      rw [verify_family (by decide) familyField configField]
      exact allTrue_buildResult (oracle_edit counted found (single p nonempty names) rfl configured fragment rfl)
    · refine accepted_edit familyField configField
        (rewritten_answers (q := p.changed none (some e)) found w printed printed' rfl rfl) (Or.inl (by decide)) ?_
      rw [verify_family (by decide) familyField configField]
      exact allTrue_buildResult
        (oracle_preservation counted found (single p nonempty names) rfl configured fragment preserving rfl)
  · rintro h e fragment concurrency rfl configured requested metadata page human kept
    have edited : (s.updated (p.changed none (some h))).pages.get? (p.changed none (some h)).id =
        some (p.changed none (some h)).modelDump := by rw [ConfluenceStore.updated_pages, if_pos rfl]
    refine ⟨_, _, _, _, ConfluenceStore.updatePage_body h found, ConfluenceStore.updatePage_body e edited,
      fun printed printed' => ?_⟩
    have w := (updated_rewritten s (p.changed none (some h))).updated
      (r := (p.changed none (some h)).changed none (some e)) rfl
    refine accepted_edit familyField configField (rewritten_answers
      (q := (p.changed none (some h)).changed none (some e)) found w printed printed' rfl rfl) (Or.inl (by decide)) ?_
    rw [verify_family (by decide) familyField configField]
    exact allTrue_buildResult (oracle_concurrent counted found (single p nonempty names) rfl configured requested
      metadata page human kept rfl)
  · rintro text updates title body expected q s' rfl allowed configured ran kept printed printed'
    obtain ⟨same, number, rfl⟩ := ConfluenceStore.updatePage_inv found ran
    have stored : s.pages.get? q.id = some p.modelDump := same ▸ found
    refine accepted_edit familyField configField
      (rewritten_answers stored (updated_rewritten s q) printed printed' rfl rfl) (Or.inr ⟨rfl, allowed⟩) ?_
    rw [verify_family (by decide) familyField configField]
    show AllTrue (verifyPermissions _ _ _ _ _ _)
    simp only [verifyPermissions, show permissionMode task.metadata (.obj config) = .str "allowed" from allowed]
    exact allTrue_buildResult
      (oracle_allowed counted found (single p nonempty names) rfl q same number configured kept rfl)
  · rintro rfl denied
    refine accepted_unchanged familyField configField rfl (Or.inr ⟨rfl, Or.inr denied⟩) ?_
    rw [verify_family (by decide) familyField configField]
    show AllTrue (verifyPermissions _ _ _ _ _ _)
    simp only [verifyPermissions, show permissionMode task.metadata (.obj config) = .str "denied_write" from denied]
    exact allTrue_buildResult (oracle_denied_write (single p nonempty names) rfl found rfl)
  · intro expected answer kind response nonempty completed contained
    have all : AllPass (verifyReadOnly initial (s.snapshot ids'.1 ids'.2) trajectory (.obj config)) :=
      oracle_read_only rfl response nonempty completed contained
    rcases kind with rfl | ⟨rfl, denied⟩
    · refine accepted_unchanged familyField configField rfl (Or.inl rfl) ?_
      rw [verify_family (by decide) familyField configField]
      exact allTrue_buildResult all
    · refine accepted_unchanged familyField configField rfl (Or.inr ⟨rfl, Or.inl denied⟩) ?_
      rw [verify_family (by decide) familyField configField]
      show AllTrue (verifyPermissions _ _ _ _ _ _)
      simp only [verifyPermissions, show permissionMode task.metadata (.obj config) = .str "denied_read" from denied]
      exact allTrue_buildResult all

/-- A page and its nameless neighbour. -/
def namelessStore : ConfluenceStore :=
  (ConfluenceStore.soloStore ["ann"] ⟨"home", "eng", "Home", "Hello", 1, "ann", Dict.empty, Page.noExtras⟩).created
    ⟨"", "eng", "Nameless", "Hello", 1, "ann", Dict.empty, Page.noExtras⟩

theorem namelessStore_coherent : namelessStore.Coherent :=
  (ConfluenceStore.soloStore_coherent ["ann"] rfl).created (by decide) rfl

/-- A page with a field of more digits than the interpreter prints. -/
def wordyStore : ConfluenceStore :=
  .soloStore ["ann"] ⟨"home", "eng", "Home", "Hello", 1, "ann", ⟨[("count", .int (Nat.pow 10 5000))], List.nodup_singleton _⟩,
    List.forall_mem_singleton.mpr (by decide)⟩

/-- Empty ids, an empty human edit and an empty response are taken for missing ones, and a page that
cannot be printed is not judged. -/
theorem empty_text_refused :
    let update := @ConfluenceStore.updatePage plainInts
    let judge (task : Task) (initial final : ConfluenceStore) (trajectory : Json) : Option Bool :=
      (@verify? asciiText integers task (initial.snapshot "initial" "") (final.snapshot "final" "")
        trajectory).toOption.map VerificationResult.passed
    let passes (family : String) (config : List (String × Json)) (final : ConfluenceStore) (trajectory : Json) :=
      judge (taskOf family config) namelessStore final trajectory
    let completed : Json := .obj [("type", .str "agent.completed"), ("payload", .obj [("final_answer", .str "Done")])]
    namelessStore.Coherent ∧ (namelessStore.pages.get? "").isSome = true ∧
    passes "edit_page" [("expected_page_ids", .arr [.str ""]), ("expected_final_body", .str "Bye")]
      (update namelessStore "" none none (some "Bye") (some 1)).2 .null = some false ∧
    passes "preservation" [("expected_page_ids", .arr [.str "home"]), ("expected_final_body", .str "Bye"),
        ("preserved_body_fragments", .arr []), ("forbidden_page_ids", .arr [.str ""])]
      (update namelessStore "home" none none (some "Bye") (some 1)).2 .null = some false ∧
    passes "concurrent_edit" [("expected_page_ids", .arr [.str "home"]), ("expected_final_body", .str "Bye"),
        ("concurrency", .obj [("page_id", .str "home"), ("human_edit", .obj [("body", .str "")])])]
      (update (update namelessStore "home" none none (some "") (some 1)).2 "home" none none (some "Bye") (some 2)).2
      .null = some false ∧
    textContains "Done" "" = true ∧
    passes "retrieval" [("expected_response", .str "")] namelessStore completed = some false ∧
    wordyStore.Coherent ∧
    judge homeTask wordyStore (update wordyStore "home" none none (some "Bye") (some 1)).2 .null = none := by
  refine ⟨namelessStore_coherent, ?_, ?_, ?_, ?_, ?_, ?_, ConfluenceStore.soloStore_coherent ["ann"] rfl, ?_⟩
  all_goals decide +kernel

theorem oracle_accepted_home :
    let home : Page := ⟨"home", "eng", "Home", "Hello", 1, "ann", Dict.empty, Page.noExtras⟩
    let store := ConfluenceStore.soloStore ["ann"] home
    ∃ q s', @ConfluenceStore.updatePage plainInts store "home" none none (some "Bye") (some 1) = (.ok q, s') ∧
      @Accepted asciiText integers homeTask (store.snapshot "initial" "") (s'.snapshot "final" "") .null := by
  intro home store
  have coherent : store.Coherent := ConfluenceStore.soloStore_coherent ["ann"] rfl
  have accepted := @oracle_accepted asciiText integers store (counted_of_coherent coherent) homeTask "edit_page" _
    rfl rfl ("initial", "") ("final", "") .null
  have silent : FragmentIn (.obj [("expected_page_ids", .arr [.str "home"]), ("expected_final_body", .str "Bye")])
      "home" "Bye" := by
    intro text configured
    have none : (contentFragments (.obj [("expected_page_ids", .arr [.str "home"]),
        ("expected_final_body", .str "Bye")])).get? "home" = none := rfl
    exact absurd (none.symm.trans configured) (by simp)
  obtain ⟨q, s', ran, passes⟩ := (accepted.1 home rfl (by decide) (Or.inl rfl)).1 "Bye" rfl silent (Or.inl rfl)
  refine ⟨q, s', ran, passes (by decide +kernel) ?_⟩
  have final : s' = (@ConfluenceStore.updatePage plainInts store "home" none none (some "Bye") (some 1)).2 :=
    (congrArg Prod.snd ran).symm
  rw [final]
  decide +kernel

end AgentGym.Verifier
