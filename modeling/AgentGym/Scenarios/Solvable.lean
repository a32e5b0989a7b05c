import AgentGym.Runner.Executor
import AgentGym.Scenarios.Staging
import AgentGym.Verifier.Oracle
import AgentGym.Verifier.Witnessed

/-!
# Which tasks can be solved

A task is solvable when its own actor can get it accepted by requests alone, answering
with nothing it was neither told nor shown. Every family but one generates only such
tasks; a permissions task that denies reading asks for the text it keeps from the actor.
-/

namespace AgentGym.Scenarios

open World Verifier

/-! ### Solving a task -/

/-- The world a task starts in. -/
def stagedWorld [LaxInt] (g : Generated) : ConfluenceStore :=
  ((ConfluenceStore.ofCollections (.obj []) (.obj []) (.obj [])).restore g.snapshot).2

/-- The human edit the metadata of a task ask for. -/
def humanEditOf (task : Task) : Option HumanEditRequest :=
  match Runner.plannedEdit (task.metadata.get? "concurrency") with
  | some (pageId, actor, body) =>
    if named : pageId ≠ "" then
      if signed : actor ≠ "" then some ⟨pageId, actor, body, named, signed⟩ else none
    else none
  | none => none

def isRequestBy (actor : String) : Event → Prop
  | .request header _ => header = some actor
  | .humanEdit _ => False

/-- Requests of the task's actor, and at most once the human edit of the task. -/
def Attempt (task : Task) (events : List Event) : Prop :=
  (∀ e ∈ events, isRequestBy task.actorId e) ∨
    ∃ edit before after, humanEditOf task = some edit ∧ events = before ++ .humanEdit edit :: after ∧
      ∀ e ∈ before ++ after, isRequestBy task.actorId e

/-- What the verifier asks an answer to contain. -/
def expectedResponse (task : Task) : Option Json :=
  (task.metadata.get? "verifier_config").bind (·.get? "expected_response")

/-- The trajectory of an agent that completed with this answer. -/
def completion (answer : String) : Json :=
  .arr [.obj [("type", .str "agent.completed"), ("payload", .obj [("final_answer", .str answer)])]]

section Solving

variable [PyText]

/-- The text occurs in a page the API returned to the actor. -/
def Told (actor : String) (served : World.History) (text : String) : Prop :=
  ∃ t ∈ served, isRequestBy actor t.event ∧
    ∃ x ∈ shows t.event t.response, textContains x.2.title text = true ∨ textContains x.2.body text = true

/-- The task can be solved by its own actor. -/
def Solvable [PyFloat] (ids : String × String) (g : Generated) : Prop :=
  ∃ events answer result, Attempt g.task events ∧
    verify? g.task g.snapshot ((Machine.final handle (stagedWorld g) events).snapshot ids.1 ids.2)
      (completion answer) = .ok result ∧ result.passed = true ∧
    ∀ text, expectedResponse g.task = some (.str text) → textContains g.task.goal text = true ∨
      Told g.task.actorId (Machine.trace handle (stagedWorld g) events) text

end Solving

theorem completedWith_completion (answer : String) : CompletedWith (completion answer) answer :=
  ⟨_, List.mem_cons_self, rfl, rfl⟩

theorem stagedWorld_eq [LaxInt] {g : Generated} {s : ConfluenceStore} (valid : s.Valid) {id time : String}
    (taken : g.snapshot = s.snapshot id time) : stagedWorld g = s := by
  rw [stagedWorld, taken, ConfluenceStore.restore_snapshot valid]

/-- Staged pages have their declared fields and a first version, so all of them can be printed. -/
theorem Ready.printed {variant : Variant} {s : ConfluenceStore} {content : String → Option Page}
    (ready : Ready variant s content) : Printed s := by
  have page : ∀ {k p}, content k = some p → Printable (.ofDict p.modelDump) := by
    intro k p here
    obtain ⟨t, -, -, plays⟩ := ready.template here
    exact printable_page plays.plain (by rw [(ready.holds.first here).2]; decide)
  refine ⟨fun e member => ?_, fun e member d stored => ?_⟩
  · have found := Dict.mem_entries_iff.mp member
    rw [ready.holds.pages] at found
    obtain ⟨p, here, dump⟩ := Option.map_eq_some_iff.mp found
    exact dump ▸ page here
  · have listed : d ∈ s.getPageVersions e.1 := by
      rw [ConfluenceStore.getPageVersions, Dict.mem_entries_iff.mp member]
      exact stored
    rw [ready.holds.histories, Option.mem_toList, Option.map_eq_some_iff] at listed
    obtain ⟨p, here, dump⟩ := listed
    exact dump ▸ page here

/-! ### What the plans promise -/

/-- The body has well-formed sections of the four headings. -/
def Sectioned (body : String) : Prop :=
  ∃ sections, body = sectionedBody sections ∧ WellFormed sections ∧
    sections.map Prod.fst = ["Overview", "Deployment", "Rollback", "Ownership"]

theorem sectioned_of_lines {overview deployment rollback ownership : String} (first : OneLine overview)
    (second : OneLine deployment) (third : OneLine rollback) (fourth : OneLine ownership) :
    Sectioned (sectionedBody [("Overview", overview), ("Deployment", deployment), ("Rollback", rollback),
      ("Ownership", ownership)]) := by
  refine ⟨_, rfl, .of_lines (by simp) ?_, rfl⟩
  simp only [List.forall_mem_cons, List.not_mem_nil, IsEmpty.forall_iff, implies_true, and_true]
  refine ⟨⟨?_, first⟩, ⟨?_, second⟩, ⟨?_, third⟩, ?_, fourth⟩ <;> exact oneLine_literal (by decide)

theorem editBody_sectioned (payments : Bool) : Sectioned (editBody payments) := by
  unfold editBody
  split <;> refine sectioned_of_lines ?_ ?_ ?_ ?_ <;> exact oneLine_literal (by decide)

theorem preservationBody_sectioned (payments : Bool) : Sectioned (preservationBody payments) := by
  unfold preservationBody
  split <;> refine sectioned_of_lines ?_ ?_ ?_ ?_ <;> exact oneLine_literal (by decide)

theorem concurrentBody_sectioned : Sectioned concurrentBody := by
  refine sectioned_of_lines ?_ ?_ ?_ ?_ <;> exact oneLine_literal (by decide)

/-- What a plan must keep is in the body before and after the planned edit. -/
def EditPlan.Keeps (plan : EditPlan) (body : String) (preserved : String → List String) : Prop :=
  ∃ after, plan.expectedBody = some after ∧ textContains after plan.fragment = true ∧
    ∀ text ∈ preserved after, textContains body text = true ∧ textContains after text = true

theorem Sectioned.replaced {body heading content difficulty goal : String} (sectioned : Sectioned body)
    (listed : heading ∈ ["Overview", "Deployment", "Rollback", "Ownership"]) (line : OneLine heading)
    (text : OneLine content) :
    EditPlan.Keeps ⟨heading, content, replaceSection body heading content, difficulty, goal⟩ body
      fun after => sectionTexts after (some heading) := by
  obtain ⟨sections, rfl, wf, headings⟩ := sectioned
  exact wf.replaceSection_keeps line.2 (headings ▸ listed) text.plain

theorem Sectioned.appended {body heading content fragment difficulty goal : String} (sectioned : Sectioned body)
    (within : textContains (renderSection heading content) fragment = true) :
    EditPlan.Keeps ⟨heading, fragment, some (appendSection body heading content), difficulty, goal⟩ body
      fun _ => sectionTexts body none := by
  obtain ⟨sections, rfl, wf, _⟩ := sectioned
  exact ⟨_, rfl, textContains_append_right within _, wf.appendSection_keeps heading content⟩

theorem editPlan_keeps (kind : EditKind) {body : String} (sectioned : Sectioned body) (title spaceName : String) :
    ∃ preserved, (editPlan kind body title spaceName).Keeps body preserved := by
  cases kind with
  | replaceObsolete =>
    refine ⟨_, sectioned.replaced ?_ ?_ ?_⟩
    · decide
    · exact oneLine_literal (by decide)
    · exact oneLine_literal (by decide)
  | updateParagraph =>
    refine ⟨_, sectioned.replaced ?_ ?_ ?_⟩
    · decide
    · exact oneLine_literal (by decide)
    · exact oneLine_literal (by decide)
  | addSection => exact ⟨_, sectioned.appended (textContains_self _)⟩
  | appendChecklist => exact ⟨_, sectioned.appended (textContains_self _)⟩

theorem preservationPlan_keeps (kind : PreservationKind) {body : String} (sectioned : Sectioned body)
    (title spaceName : String) :
    let plan := preservationPlan kind body title spaceName
    plan.Keeps body (preservationPreserved kind plan.heading body) := by
  cases kind with
  | appendWithoutRewrite => exact sectioned.appended (textContains_content _ _)
  | _ =>
    refine sectioned.replaced ?_ ?_ ?_
    · decide
    · exact oneLine_literal (by decide)
    · exact oneLine_literal (by decide)

theorem concurrentPlan_possible (kind : ChangeKind) :
    let plan := concurrentPlan kind
    ∃ human after, appendToSection concurrentBody plan.humanHeading plan.humanFragment = some human ∧
      replaceSection human plan.heading plan.requested = some after ∧
      textContains after plan.requested = true ∧ textContains after plan.humanFragment = true := by
  obtain ⟨sections, body, wf, headings⟩ := concurrentBody_sectioned
  rw [body]
  cases kind with
  | _ =>
    refine wf.noted_replaced ?_ ?_ ?_ ?_ ?_ ?_
    · exact forall_literal (P := fun cs => '\n' ∉ cs) (by decide)
    · exact forall_literal (P := fun cs => '\n' ∉ cs) (by decide)
    · rw [headings]
      decide
    · rw [headings]
      decide
    · decide
    · exact (oneLine_literal (by decide)).plain

/-! ### The configurations -/

section Configurations

variable {k : String} {fragment body : Option String} {texts : Option (List String)} {response : Option String}
  {extra : List (String × Json)}

theorem targetPageIds_verifierConfig (nonempty : k ≠ "") :
    targetPageIds (.obj (verifierConfig k fragment body texts response ++ extra)) = .ok [k] :=
  pageIdCollection_names (Or.inl rfl) (by simp) (by simp) (by simpa using nonempty)

theorem fragmentIn_verifierConfig {after : String} (within : ∀ text, fragment = some text → textContains after text = true) :
    FragmentIn (.obj (verifierConfig k fragment body texts response ++ extra)) k after := by
  intro text configured
  cases fragment with
  | none => simp [verifierConfig, contentFragments, Entries.lookup_cons] at configured
  | some wanted =>
    simp [verifierConfig, contentFragments, Entries.lookup_cons] at configured
    exact within text (by rw [configured])

end Configurations

/-! ### The editing families -/

section Editing

variable [PyText] [PyFloat]

/-- Events that lead to an accepted world solve the task with an answer the actor was told. -/
theorem solvable_of_final {g : Generated} {s s' : ConfluenceStore} {id time : String} (valid : s.Valid)
    (taken : g.snapshot = s.snapshot id time) (events : List Event) (attempt : Attempt g.task events)
    (run : Machine.final handle s events = s') {ids : String × String} (answer : String)
    (accepted : Accepted g.task g.snapshot (s'.snapshot ids.1 ids.2) (completion answer))
    (told : ∀ text, expectedResponse g.task = some (.str text) → textContains g.task.goal text = true ∨
      Told g.task.actorId (Machine.trace handle s events) text) : Solvable ids g := by
  obtain ⟨result, judged, passed, -⟩ := accepted
  rw [Solvable, stagedWorld_eq valid taken]
  exact ⟨events, answer, result, attempt, by rw [run, judged], passed, told⟩

/-- One update by the owner solves a task whose verifier accepts the updated world. -/
theorem solvable_of_put {g : Generated} {variant : Variant} {s : ConfluenceStore} {content : String → Option Page}
    (ready : Ready variant s content) {p : Page} (here : content p.id = some p) {id time : String}
    (taken : g.snapshot = s.snapshot id time) (owner : g.task.actorId = p.ownerId)
    (silent : expectedResponse g.task = none) (after : String) (passes : ∀ final trajectory,
      final.resources = (s.updated (p.changed none (some after))).resources →
        Subtractable g.snapshot.resources final.resources ∧ EditPrintable g.snapshot final →
          Accepted g.task g.snapshot final trajectory) (ids : String × String) : Solvable ids g := by
  have first := (ready.holds.first here).2
  have owned := ready.owned here
  have put := owned.put ⟨none, some after⟩ (some "1") (by rw [first]; rfl)
  obtain ⟨t, -, -, plays⟩ := ready.template here
  have printed := ready.printed.updated (q := p.changed none (some after))
    (printable_page plays.plain (by rw [Page.changed_version, first]; decide))
  have before : g.snapshot.resources = s.resources := by rw [taken]; rfl
  refine solvable_of_final ready.holds.valid taken
    [.request (some p.ownerId) (.updatePage p.id ⟨none, some after⟩ (some "1"))] (Or.inl ?_) rfl "" ?_ (by simp [silent])
  · intro e member
    rw [List.mem_singleton.mp member, owner]
    rfl
  · rw [Machine.final, Machine.final, put]
    exact passes _ (completion "") rfl (rewritten_answers (q := p.changed none (some after)) owned.found
      (updated_rewritten s _) ready.printed printed before rfl)

theorem editPage_solvable (rng fixtures : Random) (seed : Int) (ids : String × String) :
    ∃ g, editPage rng fixtures seed = .ok g ∧ Solvable ids g := by
  have known : ∃ t ∈ templatesForVariant .default, t.pageId = choice rng 1 editTargets := by
    have all : ∀ k ∈ editTargets, ∃ t ∈ templatesForVariant .default, t.pageId = k := by decide
    exact all _ (choice_mem rng 1 (by simp [editTargets]))
  obtain ⟨s₀, s₁, s, content, p, staged⟩ := exists_dressed fixtures (Or.inl rfl) known
    (canonicalTitle (choice rng 1 editTargets)) fun title => editBody (textContains title "Payments")
  obtain ⟨name, named⟩ := staged.ready.pageSpaceName_eq staged.here
  obtain ⟨_, after, planned, within, _⟩ := editPlan_keeps (choice rng 0 editKinds)
    (editBody_sectioned (textContains p.title "Payments")) p.title name
  have owner := staged.ready.pageOwnerId_eq staged.here
  refine ⟨_, by
    simp only [editPage]
    rw [staged.built, ok_bind, staged.titled, ok_bind, staged.shown, ok_bind, staged.filled, ok_bind, named, ok_bind,
      planned, orNotFound_some, ok_bind, owner, ok_bind]
    rfl, ?_⟩
  obtain ⟨nonempty, here⟩ := staged.own
  rw [← staged.id]
  refine solvable_of_put staged.ready here rfl rfl rfl after (fun final trajectory taken answers => ?_) ids
  refine accepted_edit rfl rfl answers (Or.inl (by decide)) ?_
  rw [verify_family (by decide) rfl rfl]
  refine allTrue_buildResult (oracle_edit (counted_of_coherent staged.ready.holds.coherent)
    (staged.ready.owned here).found (targetPageIds_verifierConfig nonempty) rfl rfl
    (fragmentIn_verifierConfig ?_) taken)
  rintro text same
  rwa [← Option.some.inj same]

omit [PyText] [PyFloat] in
/-- The other pages, as the verifier takes them. -/
theorem forbiddenPages_guard {s : ConfluenceStore} {content : String → Option Page} (ready : Ready .default s content)
    (k : String) : forbiddenPages s k ≠ [] ∧ (forbiddenPages s k).Nodup ∧
      ∀ id ∈ forbiddenPages s k, id ≠ "" ∧ id ≠ k ∧ (s.pages.get? id).isSome = true := by
  have listed : ∀ id, id ∈ forbiddenPages s k ↔ (s.pages.get? id).isSome = true ∧ id ≠ k := by
    intro id
    rw [forbiddenPages, Verifier.mem_sortIds, List.mem_filter, Dict.mem_keys_iff]
    simp
  refine ⟨?_, ?_, ?_⟩
  · have other : ∃ t ∈ pageTemplates, t.pageId ≠ k := by
      by_cases first : k = "page-1"
      · subst first
        decide
      · exact ⟨_, List.mem_cons_self, fun same => first same.symm⟩
    obtain ⟨t, member, other⟩ := other
    obtain ⟨p, here, _⟩ := ready.page member
    have present := (listed t.pageId).mpr ⟨by rw [ready.holds.found here]; rfl, other⟩
    exact List.ne_nil_of_mem present
  · exact ((List.perm_insertionSort _ _).nodup_iff).mpr (s.pages.keys_nodup.filter _)
  · intro id member
    obtain ⟨present, other⟩ := (listed id).mp member
    obtain ⟨d, found⟩ := Option.isSome_iff_exists.mp present
    rw [ready.holds.pages] at found
    obtain ⟨p, here, _⟩ := Option.map_eq_some_iff.mp found
    exact ⟨ready.id_nonempty here, other, present⟩

theorem preservation_solvable (rng fixtures : Random) (seed : Int) (ids : String × String) :
    ∃ g, preservation rng fixtures seed = .ok g ∧ Solvable ids g := by
  have known : ∃ t ∈ templatesForVariant .default, t.pageId = choice rng 1 preservationTargets := by
    have all : ∀ k ∈ preservationTargets, ∃ t ∈ templatesForVariant .default, t.pageId = k := by decide
    exact all _ (choice_mem rng 1 (by simp [preservationTargets]))
  obtain ⟨s₀, s₁, s, content, p, staged⟩ := exists_dressed fixtures (Or.inl rfl) known
    (canonicalTitle (choice rng 1 preservationTargets)) fun title => preservationBody (textContains title "Payments")
  obtain ⟨name, named⟩ := staged.ready.pageSpaceName_eq staged.here
  obtain ⟨after, planned, within, kept⟩ := preservationPlan_keeps (choice rng 0 preservationKinds)
    (preservationBody_sectioned (textContains p.title "Payments")) p.title name
  have owner := staged.ready.pageOwnerId_eq staged.here
  refine ⟨_, by
    simp only [preservation]
    rw [staged.built, ok_bind, staged.titled, ok_bind, staged.shown, ok_bind, staged.filled, ok_bind, named, ok_bind,
      planned, orNotFound_some, ok_bind, owner, ok_bind]
    rfl, ?_⟩
  obtain ⟨nonempty, here⟩ := staged.own
  rw [← staged.id]
  refine solvable_of_put staged.ready here rfl rfl rfl after (fun final trajectory taken answers => ?_) ids
  refine accepted_edit rfl rfl answers (Or.inl (by decide)) ?_
  rw [verify_family (by decide) rfl rfl]
  refine allTrue_buildResult (oracle_preservation (counted_of_coherent staged.ready.holds.coherent)
    (staged.ready.owned here).found (targetPageIds_verifierConfig nonempty) rfl rfl
    (fragmentIn_verifierConfig ?_) ⟨⟨_, rfl, ?_⟩, _, Or.inl rfl, forbiddenPages_guard staged.ready _⟩ taken)
  · rintro text same
    rwa [← Option.some.inj same]
  · rw [staged.body]
    exact kept

omit [PyText] [PyFloat] in
theorem humanFragment_found (kind : ChangeKind) {k requested after : String} {texts : List String}
    {metadata : Dict String Json} {initial : WorldSnapshot} :
    humanEditFragment metadata (.obj (verifierConfig k (some requested) (some after) (some texts) none ++
      [("preserve_concurrent_fragment", .str (concurrentPlan kind).humanFragment)])) initial k =
      some (concurrentPlan kind).humanFragment := by
  have nonempty : (concurrentPlan kind).humanFragment ≠ "" := by
    have line : OneLine (concurrentPlan kind).humanFragment := by cases kind <;> exact oneLine_literal (by decide)
    intro empty
    exact line.1 (by rw [empty]; rfl)
  simp [humanEditFragment, verifierConfig, Entries.lookup_cons, nonemptyString?, nonempty]

theorem concurrentEdit_solvable (rng fixtures : Random) (seed : Int) (ids : String × String) :
    ∃ g, concurrentEdit rng fixtures seed = .ok g ∧ Solvable ids g := by
  have known : ∃ t ∈ templatesForVariant .default, t.pageId = choice rng 1 concurrentTargets := by
    have all : ∀ k ∈ concurrentTargets, ∃ t ∈ templatesForVariant .default, t.pageId = k := by decide
    exact all _ (choice_mem rng 1 (by simp [concurrentTargets]))
  obtain ⟨s₀, s₁, s, content, p, staged⟩ := exists_dressed fixtures (Or.inl rfl) known
    (canonicalTitle (choice rng 1 concurrentTargets)) fun _ => concurrentBody
  obtain ⟨name, named⟩ := staged.ready.pageSpaceName_eq staged.here
  obtain ⟨human, after, noted, planned, within, kept⟩ := concurrentPlan_possible (choice rng 0 changeKinds)
  have owner := staged.ready.pageOwnerId_eq staged.here
  have title := staged.ready.pageTitle_eq staged.here
  refine ⟨_, by
    simp only [concurrentEdit]
    rw [staged.built, ok_bind, staged.titled, ok_bind, staged.filled, ok_bind, noted, orNotFound_some, ok_bind,
      planned, orNotFound_some, ok_bind, title, ok_bind, named, ok_bind, owner, ok_bind]
    rfl, ?_⟩
  obtain ⟨nonempty, here⟩ := staged.own
  rw [← staged.id]
  -- The note comes first, so the agent updates the second version.
  let edit : HumanEditRequest := ⟨p.id, "human-editor", human, nonempty, by decide⟩
  have owned := staged.ready.owned here
  have first := (staged.ready.holds.first here).2
  have put := (owned.updated none (some human)).put ⟨none, some after⟩ (some "2")
    (by rw [Page.changed_version, first]; rfl)
  let update : Event := .request (some p.ownerId) (.updatePage p.id ⟨none, some after⟩ (some "2"))
  have run : Machine.final handle s [.humanEdit edit, update] = (s.updated (p.changed none (some human))).updated
      ((p.changed none (some human)).changed none (some after)) := by
    have noted := owned.humanEdit (show edit.pageId = p.id from rfl)
    rw [Machine.final, Machine.final, Machine.final, noted]
    exact congrArg Prod.snd put
  obtain ⟨t, -, -, plays⟩ := staged.ready.template here
  have printed : Printed ((s.updated (p.changed none (some human))).updated
      ((p.changed none (some human)).changed none (some after))) := by
    refine (staged.ready.printed.updated ?_).updated ?_
    · exact printable_page plays.plain (by rw [Page.changed_version, first]; decide)
    · exact printable_page plays.plain (by rw [Page.changed_version, Page.changed_version, first]; decide)
  have rewritten := (updated_rewritten s (p.changed none (some human))).updated
    (r := (p.changed none (some human)).changed none (some after)) rfl
  refine solvable_of_final staged.ready.holds.valid rfl [.humanEdit edit, update]
    (Or.inr ⟨edit, [], _, ?_, rfl, ?_⟩) run "" ?_ ?_
  · exact (dif_pos nonempty).trans (dif_pos (by decide))
  · intro e member
    rw [List.mem_singleton.mp member]
    rfl
  · refine accepted_edit rfl rfl (rewritten_answers
      (q := (p.changed none (some human)).changed none (some after)) owned.found rewritten
      staged.ready.printed printed rfl rfl) (Or.inl (by decide)) ?_
    rw [verify_family (by decide) rfl rfl]
    refine allTrue_buildResult (oracle_concurrent (counted_of_coherent staged.ready.holds.coherent)
      owned.found (targetPageIds_verifierConfig nonempty) rfl rfl (fragmentIn_verifierConfig ?_) rfl rfl
      (humanFragment_found _) kept rfl)
    intro text same
    exact Option.some.inj same ▸ within
  · intro text expected
    cases expected

end Editing

/-! ### Retrieval -/

section Retrieval

theorem setTitles_ready {titles : List (String × String)} (known : ∀ e ∈ titles, ∃ t ∈ pageTemplates, t.pageId = e.1)
    {s : ConfluenceStore} {content : String → Option Page} (ready : Ready .default s content) :
    ∃ s' content', setTitles titles s = .ok s' ∧ Ready .default s' content' := by
  induction titles generalizing s content with
  | nil => exact ⟨s, content, rfl, ready⟩
  | cons e titles ih =>
    obtain ⟨first, later⟩ := List.forall_mem_cons.mp known
    obtain ⟨t, member, id⟩ := first
    obtain ⟨p, here, _⟩ := ready.page member
    obtain ⟨s₁, titled, ready₁⟩ := ready.setPage here (some e.2) none
    obtain ⟨s', content', rest, ready'⟩ := ih later ready₁
    refine ⟨s', content', ?_, ready'⟩
    rw [setTitles, ← id, titled]
    exact rest

/-- Every page has a counterpart in another space. -/
theorem distractorOf_isSome {s : ConfluenceStore} {content : String → Option Page} (ready : Ready .default s content)
    {k : String} {p : Page} (here : content k = some p) : (distractorOf s k p.spaceId).isSome = true := by
  have elsewhere : ∃ t ∈ pageTemplates, t.spaceId ≠ p.spaceId := by
    by_cases first : p.spaceId = "space-1"
    · rw [first]
      decide
    · exact ⟨_, List.mem_cons_self, fun same => first same.symm⟩
  obtain ⟨t, member, other⟩ := elsewhere
  obtain ⟨q, there, id, plays⟩ := ready.page member
  have apart : t.pageId ≠ k := by
    rintro rfl
    obtain rfl := Option.some.inj (there.symm.trans here)
    exact other plays.space.symm
  have listed : t.pageId ∈ s.pages.keys := by
    rw [Dict.mem_keys_iff, ready.holds.found there]
    rfl
  refine List.find?_isSome.mpr ⟨t.pageId, listed, ?_⟩
  rw [ready.pageSpaceId_eq there, plays.space]
  simp [apart, Except.toOption, other]

theorem stageDistractor_ready (mode : RetrievalMode) {s : ConfluenceStore} {content : String → Option Page}
    (ready : Ready .default s content) {k : String} {p : Page} (here : content k = some p) (title : String) :
    ∃ s' distractors content', stageDistractor mode s k title = .ok (s', distractors) ∧
      Ready .default s' content' := by
  cases mode with
  | similarTitle =>
    obtain ⟨other, found⟩ := Option.isSome_iff_exists.mp (distractorOf_isSome ready here)
    have listed := Dict.mem_keys_iff.mp (List.mem_of_find?_eq_some found)
    obtain ⟨d, stored⟩ := Option.isSome_iff_exists.mp listed
    rw [ready.holds.pages] at stored
    obtain ⟨q, there, _⟩ := Option.map_eq_some_iff.mp stored
    obtain ⟨s', titled, ready'⟩ := ready.setPage there (some (title ++ " Notes")) none
    refine ⟨s', [other], _, ?_, ready'⟩
    simp only [stageDistractor]
    rw [ready.pageSpaceId_eq here, ok_bind, found]
    simp only [titled, ok_bind]
    rfl
  | spaceDisambiguation => exact ⟨s, [], content, rfl, ready⟩
  | latestGuidance => exact ⟨s, [], content, rfl, ready⟩

/-- What the target holds once its guidance is staged: the text the answer must contain. -/
structure Guided (s : ConfluenceStore) (k ownerId expected : String) (q : Page) : Prop where
  coherent : s.Coherent
  owned : Owned s q
  id : q.id = k
  owner : q.ownerId = ownerId
  within : textContains q.body expected = true

theorem stageLatest_guided [PyText] (mode : RetrievalMode) {s : ConfluenceStore} {content : String → Option Page}
    (ready : Ready .default s content) {p : Page} (here : content p.id = some p) (latest : String) :
    ∃ s' expected q, stageLatest mode s p.id p.body latest = .ok (s', expected) ∧
      (expected = p.body ∨ expected = latest) ∧ Guided s' p.id p.ownerId expected q := by
  have owned := ready.owned here
  have plain : Guided s p.id p.ownerId p.body p := ⟨ready.holds.coherent, owned, rfl, rfl, textContains_self _⟩
  cases mode with
  | latestGuidance =>
    let body := p.body ++ blankLine ++ latest
    have updated : s.updatePage p.id none none (some body) none =
        (.ok (p.changed none (some body)), s.updated (p.changed none (some body))) :=
      ConfluenceStore.updatePage_ok (q := { p with body := body }) owned.found
        (ConfluenceStore.mergeChanges_body p body) (by simp)
    refine ⟨_, latest, p.changed none (some body), ?_, Or.inr rfl, ready.holds.coherent.changed owned.found _ _,
      owned.updated _ _, rfl, rfl, textContains_append_right (textContains_self latest) _⟩
    rw [stageLatest, updated]
    rfl
  | spaceDisambiguation => exact ⟨s, p.body, p, rfl, Or.inl rfl, plain⟩
  | similarTitle => exact ⟨s, p.body, p, rfl, Or.inl rfl, plain⟩

theorem latestFragments_oneLine : ∀ text ∈ latestFragments, OneLine text := by
  simp only [latestFragments, List.forall_mem_cons, List.not_mem_nil, IsEmpty.forall_iff, implies_true, and_true]
  refine ⟨?_, ?_, ?_⟩ <;> exact oneLine_literal (by decide)

theorem guidance_oneLine (title : String) : OneLine (guidance title).2 := by
  unfold guidance
  split <;> exact oneLine_literal (by decide)

theorem OneLine.ne_empty {text : String} (line : OneLine text) : text ≠ "" := by
  rintro rfl
  exact line.1 (by decide)

variable [PyText] [PyFloat]

theorem retrieval_solvable (rng fixtures : Random) (seed : Int) (ids : String × String) :
    ∃ g, retrieval rng fixtures seed = .ok g ∧ Solvable ids g := by
  have known : ∃ t ∈ templatesForVariant .default, t.pageId = choice rng 1 retrievalTargets := by
    have all : ∀ k ∈ retrievalTargets, ∃ t ∈ templatesForVariant .default, t.pageId = k := by decide
    exact all _ (choice_mem rng 1 (by simp [retrievalTargets]))
  obtain ⟨t, member, id⟩ := known
  obtain ⟨s₀, built, ready₀⟩ := buildStore_ready fixtures .default (Or.inl rfl)
  have titles : ∀ e ∈ canonicalTitles, ∃ t ∈ pageTemplates, t.pageId = e.1 := by decide
  obtain ⟨s₁, content₁, titled, ready₁⟩ := setTitles_ready titles ready₀
  obtain ⟨p₁, here₁, _, _⟩ := ready₁.page member
  have title := ready₁.pageTitle_eq here₁
  obtain ⟨name, named⟩ := ready₁.pageSpaceName_eq here₁
  obtain ⟨s₂, others, content₂, distracted, ready₂⟩ :=
    stageDistractor_ready (choice rng 0 retrievalModes) ready₁ here₁ p₁.title
  obtain ⟨p₂, here₂, own, _⟩ := ready₂.page member
  obtain ⟨s₃, filled, ready₃⟩ := ready₂.setPage here₂ none (some (guidance p₁.title).2)
  -- The target as it stands before the latest guidance.
  let p₃ := retouched p₂ none (some (guidance p₁.title).2)
  have here₃ : Function.update content₂ t.pageId (some p₃) p₃.id = some p₃ := by
    rw [show p₃.id = t.pageId from own, Function.update_self]
  obtain ⟨s, expected, q, latest, text, guided⟩ :=
    stageLatest_guided (choice rng 0 retrievalModes) ready₃ here₃ (choice rng 2 latestFragments)
  rw [show p₃.id = t.pageId from own] at guided
  rw [show p₃.id = t.pageId from own, show p₃.body = (guidance p₁.title).2 from rfl] at latest
  have owner : pageOwnerId s t.pageId = .ok q.ownerId := guided.id ▸ guided.owned.pageOwnerId_eq
  have nonempty : expected ≠ "" := by
    rcases text with rfl | rfl
    · exact (guidance_oneLine p₁.title).ne_empty
    · exact (latestFragments_oneLine _ (choice_mem rng 2 (by simp [latestFragments]))).ne_empty
  refine ⟨_, by
    simp only [retrieval]
    rw [built, ok_bind, titled, ok_bind, ← id, title, ok_bind, named, ok_bind, distracted, ok_bind]
    simp only
    rw [filled, ok_bind, latest, ok_bind, owner, ok_bind]
    rfl, ?_⟩
  let read : Event := .request (some q.ownerId) (.getPage q.id)
  have run : Machine.final handle s [read] = s := by rw [Machine.final, Machine.final, guided.owned.get]
  refine solvable_of_final guided.coherent.valid rfl [read] (Or.inl ?_) run expected ?_ ?_
  · intro e served
    rw [List.mem_singleton.mp served]
    rfl
  · refine accepted_unchanged rfl rfl rfl (Or.inl rfl) ?_
    rw [verify_family (by decide) rfl rfl]
    exact allTrue_buildResult (oracle_read_only rfl rfl nonempty (completedWith_completion expected)
      (textContains_self expected))
  · intro wanted response
    obtain rfl := Json.str.inj (Option.some.inj response)
    refine Or.inr ⟨_, List.mem_cons_self, rfl, (q.id, q), ?_, Or.inr guided.within⟩
    rw [Machine.transition, guided.owned.get]
    exact List.mem_cons_self

end Retrieval

end AgentGym.Scenarios
