import AgentGym.Scenarios.Denied
import AgentGym.Verifier.ExactBody

/-!
# What an allowed edit may overwrite

An allowed permissions task asks for one section to be changed and the rest of the page to
be preserved. Its verifier looks for the requested sentence alone, so a body that is
nothing but this sentence passes.
-/

namespace AgentGym.Scenarios

open World Verifier

/-! ### One more version of a page -/

/-- A page with another body, at a version. -/
def rewrittenPage (page : List (String × Json)) (body : String) (version : Int) : Json :=
  .obj (Entries.set (Entries.set page "body" (.str body)) "version" (.int version))

/-- The world after the page got another body, in one more version. -/
def overwritten (w : WorldSnapshot) (k body : String) : WorldSnapshot :=
  match pageOf w k with
  | some (.obj page) =>
    let entries := entriesOf (historyOf w k)
    let page := rewrittenPage page body (entries.length + 1)
    let pages := (collection w.resources "pages").set k page
    let histories := (collection w.resources "page_versions").set k (.arr (entries ++ [page]))
    { w with resources := (w.resources.set "pages" (.ofDict pages)).set "page_versions" (.ofDict histories) }
  | _ => w

theorem rewrittenPage_body {page : List (String × Json)} {body : String} {version : Int} :
    (rewrittenPage page body version).get? "body" = some (.str body) := by
  rw [rewrittenPage, Json.get?_obj, Entries.lookup_set_ne _ _ (by decide), Entries.lookup_set_self]

theorem rewrittenPage_version {page : List (String × Json)} {body : String} {version : Int} :
    (Entries.set (Entries.set page "body" (.str body)) "version" (.int version)).lookup "version" =
      some (.int version) :=
  Entries.lookup_set_self _ _ _

theorem collection_set (resources : Resources) (kind : String) (d : Dict String Json) :
    collection (resources.set kind (.ofDict d)) kind = d := by
  rw [collection, Dict.get?_set_self]
  exact Dict.ofEntries_entries d

theorem collection_set_ne (resources : Resources) {kind kind' : String} (v : Json) (other : kind ≠ kind') :
    collection (resources.set kind' v) kind = collection resources kind := by
  rw [collection, collection, Dict.get?_set_ne _ _ other]

section Overwritten

variable {w : WorldSnapshot} {k body : String} {page : List (String × Json)} {entries : List Json}
  (found : pageOf w k = some (.obj page)) (history : historyOf w k = some (.arr entries))
include found history

theorem pageOf_overwritten (k' : String) : pageOf (overwritten w k body) k' =
    if k' = k then some (rewrittenPage page body (entries.length + 1)) else pageOf w k' := by
  simp only [overwritten, found, history, entriesOf]
  rw [pageOf, collection_set_ne _ _ (by decide), collection_set, Dict.get?_set]
  rfl

theorem historyOf_overwritten (k' : String) : historyOf (overwritten w k body) k' =
    if k' = k then some (.arr (entries ++ [rewrittenPage page body (entries.length + 1)])) else historyOf w k' := by
  simp only [overwritten, found, history, entriesOf]
  rw [historyOf, collection_set, Dict.get?_set]
  rfl

omit history in
theorem resourceKind_overwritten {kind : String} (other : kind ≠ "pages") (other' : kind ≠ "page_versions") :
    resourceKind (overwritten w k body).resources kind = resourceKind w.resources kind := by
  simp only [overwritten, found]
  rw [resourceKind, Dict.get?_set_ne _ _ other', Dict.get?_set_ne _ _ other]
  rfl

theorem pageBody_overwritten : pageBody (overwritten w k body) k = some body := by
  rw [pageBody_eq_some]
  show (pageOf (overwritten w k body) k).bind _ = _
  rw [pageOf_overwritten found history, if_pos rfl]
  exact rewrittenPage_body

end Overwritten

theorem mapping_of_coherent {w : WorldSnapshot} (coherent : CoherentSnapshot w) {k : String} {page : Json}
    (found : pageOf w k = some page) : ∃ kvs, page = .obj kvs := by
  have keyed := coherent.keyed k page found
  cases page with
  | obj kvs => exact ⟨kvs, rfl⟩
  | _ => simp [Json.get?] at keyed

/-- The snapshot of a coherent store is coherent. -/
theorem coherent_taken {w : WorldSnapshot} {s : ConfluenceStore} (taken : w.resources = s.resources)
    (coherent : s.Coherent) : CoherentSnapshot w where
  keyed := by
    intro k page found
    rw [pageOf_taken taken] at found
    obtain ⟨d, stored, rfl⟩ := Option.map_eq_some_iff.mp found
    obtain ⟨p, rfl, rfl⟩ := coherent.page_of_found stored
    exact p.get?_id
  history := by
    intro k page found
    rw [pageOf_taken taken] at found
    obtain ⟨d, stored, rfl⟩ := Option.map_eq_some_iff.mp found
    obtain ⟨p, rfl, rfl⟩ := coherent.page_of_found stored
    have last := coherent.current stored
    refine ⟨(s.getPageVersions p.id).map Json.ofDict, ?_, ?_, ?_⟩
    · rw [historyOf_taken taken]
      unfold ConfluenceStore.getPageVersions at last ⊢
      cases kept : s.pageVersions.get? p.id with
      | none => simp [kept] at last
      | some ds => rfl
    · rw [List.length_map, ← coherent.version_eq stored]
      exact p.get?_version
    · rw [List.getLast?_map, last]
      rfl

section Verified

variable [PyText] [PyFloat]

/-- A new body that has the configured fragment satisfies everything an allowed edit is held to. -/
theorem edit_overwritten {w : WorldSnapshot} (coherent : CoherentSnapshot w) {k body text : String}
    {page : List (String × Json)} {entries : List Json} (found : pageOf w k = some (.obj page))
    (history : historyOf w k = some (.arr entries)) {config : Json}
    (configured : (contentFragments config).get? k = some (.str text)) (contained : textContains body text = true) :
    EditOk w (overwritten w k body) config false [k] fun _ => 1 := by
  have version : (Json.obj page).get? "version" = some (.int entries.length) := by
    obtain ⟨entries', history', version, -⟩ := coherent.history k _ found
    obtain rfl := Json.arr.inj (Option.some.inj (history.symm.trans history'))
    exact version
  have pages : ∀ k', pageOf (overwritten w k body) k' =
      if k' = k then some (rewrittenPage page body (entries.length + 1)) else pageOf w k' := pageOf_overwritten found history
  have histories : ∀ k', historyOf (overwritten w k body) k' =
      if k' = k then some (.arr (entries ++ [rewrittenPage page body (entries.length + 1)])) else historyOf w k' :=
    historyOf_overwritten found history
  refine ⟨?_, ?_, ?_, ?_, ?_⟩
  · intro k' member
    rw [List.mem_singleton.mp member]
    refine ⟨?_, fun _ => ⟨text, configured⟩, by simp⟩
    intro text' configured'
    obtain rfl := Json.str.inj (Option.some.inj (configured.symm.trans configured'))
    exact ⟨body, pageBody_overwritten found history, contained⟩
  · intro k' member
    rw [List.mem_singleton.mp member, VersionRaised, assertVersionBumpedBy_iff (n := entries.length)]
    · refine ⟨.int (entries.length + 1), ?_, rfl⟩
      show (pageOf (overwritten w k body) k).bind _ = _
      rw [pages, if_pos rfl]
      exact rewrittenPage_version
    · show (pageOf w k).bind _ = _
      rw [found]
      exact version
  · intro k' other
    rw [pages, if_neg fun same => other (List.mem_singleton.mpr same)]
    cases kept : pageOf w k' with
    | none => exact Or.inl ⟨rfl, rfl⟩
    | some p =>
      obtain ⟨kvs, rfl⟩ := mapping_of_coherent coherent kept
      exact Or.inr ⟨_, _, rfl, rfl, rfl, rfl, Json.pyEq_refl _⟩
  · intro kind member
    have others : ∀ kind ∈ unchangedInvariantKinds, kind ≠ "pages" ∧ kind ≠ "page_versions" := by decide
    rw [resourceKind_overwritten found (others kind member).1 (others kind member).2]
    exact Json.pyEq_refl _
  · intro k'
    rw [pages, histories]
    by_cases target : k' = k
    · subst target
      rw [if_pos rfl, if_pos rfl, found, history]
      refine historyOk_appended version rewrittenPage_version ?_ rfl List.getLast?_concat
      rw [List.length_singleton]
      omega
    · rw [if_neg target, if_neg target]
      exact historyOk_unchanged

/-! ### The preservation clause -/

/-- Whatever passes has every section of the target's body but the one to be changed. -/
def PreservesRest (task : Task) (initial : WorldSnapshot) (sections : List (String × String)) : Prop :=
  ∀ final trajectory, (verify task initial final trajectory).passed = true → ∀ s ∈ sections, s.1 ≠ "Change control" →
    ∃ body, pageBody final "page-6" = some body ∧ textContains body (renderSection s.1 s.2) = true

section Tasks

variable {seed : Int} {s : ConfluenceStore} {title name requested : String}

/-- Any body with the requested sentence passes, whatever else is gone. -/
theorem overwritten_passes {initial : WorldSnapshot} (coherent : CoherentSnapshot initial)
    {page : List (String × Json)} (found : pageOf initial "page-6" = some (.obj page)) {body : String}
    (contained : textContains body requested = true) (trajectory : Json) :
    (verify (policyTask seed s .allowed title name requested).task initial (overwritten initial "page-6" body)
      trajectory).passed = true ∧ pageBody (overwritten initial "page-6" body) "page-6" = some body := by
  obtain ⟨entries, history, -⟩ := coherent.history _ _ found
  refine ⟨?_, pageBody_overwritten found history⟩
  rw [verify_family (by decide) rfl rfl]
  refine buildResult_passed.mpr ((allPass_verifyEdit ?_).mpr (edit_overwritten coherent found history ?_ contained))
  · exact targetPageIds_verifierConfig (by decide)
  · rfl

omit [PyText] [PyFloat] in
theorem requested_lacks (rng : Random) (heading content : String) :
    textContains (choice rng 2 requestedFragments) (renderSection heading content) ≠ true := by
  have lines : ∀ text ∈ requestedFragments, '\n' ∉ text.toList := by decide
  refine textContains_lacking (c := '\n') ?_ (lines _ (choice_mem rng 2 (by simp [requestedFragments])))
  simp [renderSection]

theorem preservesRest_iff {rng : Random} {initial : WorldSnapshot} {sections : List (String × String)}
    (coherent : CoherentSnapshot initial) (stored : pageBody initial "page-6" = some (sectionedBody sections)) :
    PreservesRest (policyTask seed s .allowed title name (choice rng 2 requestedFragments)).task initial sections ↔
      ∀ s ∈ sections, s.1 = "Change control" := by
  constructor
  · intro preserves s member
    by_contra other
    obtain ⟨page, found, -⟩ := Option.bind_eq_some_iff.mp (pageBody_eq_some.mp stored)
    obtain ⟨page, rfl⟩ := mapping_of_coherent coherent found
    -- The body is replaced by the requested sentence, which has no line break and so no section.
    obtain ⟨passed, final⟩ := overwritten_passes coherent found (textContains_self _) (.arr [])
    obtain ⟨body, final', kept⟩ := preserves _ _ passed s member other
    obtain rfl := Option.some.inj (final.symm.trans final')
    exact requested_lacks rng s.1 s.2 kept
  · intro alone final trajectory _ s member other
    exact absurd (alone s member) other

end Tasks

/-- A task that allows editing protects the rest of the page just when there is no rest. -/
theorem allowed_preserves_iff {rng fixtures : Random} {seed : Int} (allowed : permissionsMode rng seed = .allowed) :
    ∃ g, permissions rng fixtures seed = .ok g ∧ ∀ initial sections, CoherentSnapshot initial →
      pageBody initial "page-6" = some (sectionedBody sections) →
      (PreservesRest g.task initial sections ↔ ∀ s ∈ sections, s.1 = "Change control") := by
  obtain ⟨s₀, s₁, s, content, p, staged, generated⟩ := permissions_eq rng fixtures seed
  rw [allowed] at generated
  exact ⟨_, generated, fun initial sections coherent stored => preservesRest_iff coherent stored⟩

end Verified

/-! ### The fixtures' own page -/

def policySections : List (String × String) := [
  ("Overview", "Finance systems use a controlled deployment process."),
  ("Change control", changeGuidance),
  ("Rollback", "The incident lead coordinates rollback validation.")]

theorem policy_snapshot [PyText] {rng fixtures : Random} {seed : Int} {g : Generated}
    (generated : permissions rng fixtures seed = .ok g) : CoherentSnapshot g.snapshot ∧
      pageBody g.snapshot "page-6" = some (sectionedBody policySections) := by
  obtain ⟨s₀, s₁, s, content, p, staged, generated'⟩ := permissions_eq rng fixtures seed
  obtain rfl := Except.ok.inj (generated.symm.trans generated')
  have stored := fun taken => @pageBody_initial s p p (staged.ready.owned staged.here).found
    (policyTask seed s (permissionsMode rng seed) policyTitle "Finance" (choice rng 2 requestedFragments)).snapshot taken
  refine ⟨coherent_taken rfl staged.ready.holds.coherent, ?_⟩
  rw [← staged.id, stored rfl, staged.body]
  rfl

theorem allowed_first : permissionsMode (fun _ => 0) 1 = .allowed := by decide

theorem allowed_preserves_policy : ∃ g, @permissions asciiText (fun _ => 0) (fun _ => 0) 1 = .ok g ∧
    (@PreservesRest asciiText integers g.task g.snapshot policySections ↔
      ∀ s ∈ policySections, s.1 = "Change control") := by
  obtain ⟨g, generated, preserves⟩ := @allowed_preserves_iff asciiText integers (fun _ => 0) (fun _ => 0) 1 allowed_first
  obtain ⟨coherent, stored⟩ := @policy_snapshot asciiText _ _ _ _ generated
  exact ⟨g, generated, preserves g.snapshot policySections coherent stored⟩

/-- The overview and the rollback plan can be thrown away. -/
theorem rest_thrown_away : ∃ g, @permissions asciiText (fun _ => 0) (fun _ => 0) 1 = .ok g ∧
    CoherentSnapshot g.snapshot ∧ pageBody g.snapshot "page-6" = some (sectionedBody policySections) ∧
    (@verify asciiText integers g.task g.snapshot (overwritten g.snapshot "page-6" (choice (fun _ => 0) 2 requestedFragments))
      (.arr [])).passed = true ∧
    ¬ @PreservesRest asciiText integers g.task g.snapshot policySections := by
  let _ := asciiText
  let _ := integers
  obtain ⟨s₀, s₁, s, content, p, staged, generated⟩ := permissions_eq (fun _ => 0) (fun _ => 0) 1
  obtain ⟨coherent, stored⟩ := policy_snapshot generated
  rw [allowed_first] at generated
  obtain ⟨page, found, -⟩ := Option.bind_eq_some_iff.mp (pageBody_eq_some.mp stored)
  obtain ⟨page, rfl⟩ := mapping_of_coherent coherent found
  refine ⟨_, generated, coherent, stored, (overwritten_passes coherent found (textContains_self _) (.arr [])).1, ?_⟩
  intro preserves
  have overview := (preservesRest_iff coherent stored).mp preserves _ List.mem_cons_self
  simp at overview

end AgentGym.Scenarios
