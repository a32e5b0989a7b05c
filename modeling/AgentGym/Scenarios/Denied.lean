import AgentGym.Scenarios.Solvable

/-!
# The permissions family

Two of its modes are solvable. The third denies the actor the page and yet has the
verifier wait for a text that stands on no other page: whatever the actor asks, it is
never shown that text.
-/

namespace AgentGym.Scenarios

open World Verifier

/-! ### Everyone who may not read -/

section Denial

variable [PyText]

def bob : ActorIdentity := ⟨"bob", ["bob", "bob", "bob", "Bob Singh", "bob@example.test"]⟩

variable {variant : Variant} {s : ConfluenceStore} {content : String → Option Page} (ready : Ready variant s content)
include ready

omit [PyText] in
theorem bob_resolved : resolveActor s (some "bob") = .ok bob := by
  unfold resolveActor
  rw [ready.holds.users]
  rfl

theorem bob_notAdmin : isGlobalAdmin s bob = .ok false := by
  have role : PyText.casefold "reader" = "reader" :=
    PyText.casefold_lower "reader" (forall_literal (P := fun cs => ∀ c ∈ cs, 'a' ≤ c ∧ c ≤ 'z')
      (by simp [Char.le_def]))
  have found : fixtureUsers.lookup bob.userId = some (.obj [("id", .str "bob"), ("username", .str "bob"),
      ("name", .str "Bob Singh"), ("email", .str "bob@example.test"), ("role", .str "reader")]) := rfl
  simp only [isGlobalAdmin, ready.holds.users, mappingEntries, Except.map, found]
  simp [adminUser, Entries.lookup_cons, World.isTrue, role, adminTokens]

/-- Of the pages of the permissions fixtures Bob reads the first alone. -/
theorem bob_reads {k : String} {p : Page} {t : PageTemplate} (here : content k = some p) (id : t.pageId = k)
    (plays : Plays t p) (owner : t.ownerId ∉ bob.aliases)
    (allowed : canReadPage s p.modelDump bob = .ok true) : fixtureAcl.ReaderListsGrant "bob" t.pageId t.spaceId := by
  have known : ActorOf fixtureUserDict bob := ⟨_, rfl, rfl⟩
  have notOwner : isPageOwner p.modelDump bob = false := by
    simpa [isPageOwner, ownedBy, pyStr, plays.owner] using owner
  have granted := (ready.staged.canReadPage_iff known (bob_notAdmin ready) notOwner).mp allowed
  rw [(ready.holds.first here).1, ← id, plays.space] at granted
  exact granted

end Denial

/-! ### What the denied actor is told -/

def policyTitle : String := "Deployment Change Policy"

theorem changeGuidance_capital : 'A' ∈ changeGuidance.toList :=
  forall_literal (P := fun cs => 'A' ∈ cs) (by decide)

/-- Nothing on the first page says what the guidance is. -/
theorem firstPage_silent (fixtures : Random) {p : Page}
    (here : fixtureContent fixtures .permissions "page-1" = some p) :
    textContains p.title changeGuidance ≠ true ∧ textContains p.body changeGuidance ≠ true := by
  obtain rfl := Option.some.inj here
  have texts : ∀ text ∈ ["Deployment Runbook", "Deployment Guide", "Deployment Procedures",
      "Production deployment steps for the engineering team.",
      "Release checklist and rollback instructions for production."], 'A' ∉ text.toList := by
    simp only [List.forall_mem_cons, List.not_mem_nil, IsEmpty.forall_iff, implies_true, and_true]
    refine ⟨?_, ?_, ?_, ?_, ?_⟩ <;> exact forall_literal (P := fun cs => 'A' ∉ cs) (by decide)
  constructor
  · refine textContains_lacking changeGuidance_capital (texts _ ?_)
    have some₀ : ["Deployment Runbook", "Deployment Guide", "Deployment Procedures"] ≠ [] := by simp
    have drawn := choice_mem fixtures 0 some₀
    exact List.mem_append_left ["Production deployment steps for the engineering team.",
      "Release checklist and rollback instructions for production."] drawn
  · refine textContains_lacking changeGuidance_capital (texts _ ?_)
    have some₁ : ["Production deployment steps for the engineering team.",
        "Release checklist and rollback instructions for production."] ≠ [] := by simp
    have drawn := choice_mem fixtures 1 some₁
    exact List.mem_append_right ["Deployment Runbook", "Deployment Guide", "Deployment Procedures"] drawn

theorem deniedGoal_silent (requested : String) :
    textContains (permissionsGoal .deniedRead policyTitle "Finance" requested) changeGuidance ≠ true := by
  refine textContains_lacking changeGuidance_capital ?_
  unfold permissionsGoal
  repeat' apply lacking_append
  all_goals exact forall_literal (P := fun cs => 'A' ∉ cs) (by decide)

section Modes

variable [PyText]

/-- The staged store of the permissions family, with the policy page in it. -/
abbrev PolicyStaged (fixtures : Random) (s₀ s₁ s : ConfluenceStore) (content : String → Option Page) (p : Page) : Prop :=
  Dressed fixtures .permissions "page-6" (some policyTitle) (fun _ => permissionsBody) s₀ s₁ s content p

variable {fixtures : Random} {s₀ s₁ s : ConfluenceStore} {content : String → Option Page} {p : Page}
  (staged : PolicyStaged fixtures s₀ s₁ s content p)
include staged

theorem policy_plays : p.spaceId = "space-3" ∧ p.ownerId = "carol" := by
  obtain ⟨t, member, id, plays⟩ := staged.ready.template staged.here
  have policy : ∀ t ∈ pageTemplates, t.pageId = "page-6" → t.spaceId = "space-3" ∧ t.ownerId = "carol" := by decide
  rw [plays.space, plays.owner]
  exact policy t member id

/-- Whatever Bob asks of the staged store, no page he is shown has the guidance. -/
theorem bob_never_told {events : List Event}
    (idle : ∀ t ∈ Machine.trace handle s events, accepted t.event t.response = none) :
    ¬ Told "bob" (Machine.trace handle s events) changeGuidance := by
  have ready := staged.ready
  rintro ⟨t, served, asked, ⟨k, q⟩, shown, told⟩
  obtain ⟨header, apiCall, actor, d, event, resolved, found, allowed, same⟩ :=
    (run_of_idle ready.holds.valid ready.holds.keyed events idle).2 t served _ shown
  rw [event] at asked
  obtain rfl : header = some "bob" := asked
  obtain rfl := Except.ok.inj ((bob_resolved ready).symm.trans resolved)
  -- The store has never changed, so what is shown is the page itself.
  rw [ready.holds.pages] at found
  obtain ⟨p', here, rfl⟩ := Option.map_eq_some_iff.mp found
  have shownPage : q = p' := by
    rcases same with now | earlier
    · exact (Page.modelDump_injective now).symm
    · rw [ready.holds.histories, here] at earlier
      exact Page.modelDump_injective (List.mem_singleton.mp earlier)
  subst shownPage
  obtain ⟨u, member, id, plays⟩ := ready.cast.known here
  have strangers : ∀ u ∈ templatesForVariant .permissions, u.ownerId ∉ bob.aliases := by decide
  have readable : ∀ u ∈ templatesForVariant .permissions,
      fixtureAcl.ReaderListsGrant "bob" u.pageId u.spaceId → u.pageId = "page-1" := by decide
  have first := readable u member (bob_reads ready here id plays (strangers u member) allowed)
  obtain rfl : k = "page-1" := id.symm.trans first
  rw [staged.others "page-1" (by decide)] at here
  obtain ⟨title, body⟩ := firstPage_silent fixtures here
  rcases told with told | told
  · exact title told
  · exact body told

/-! ### The three modes -/

variable [PyFloat] {seed : Int} {ids : String × String} {requested name : String}

/-- The task of a mode, staged. -/
def policyTask (seed : Int) (s : ConfluenceStore) (mode : PermissionsMode) (title name requested : String) : Generated :=
  stagedTask "permissions" seed s (permissionsGoal mode title name requested) mode.actorId mode.difficulty
    (verifierConfig "page-6" (if mode = .allowed then some requested else none) none none
      (if mode = .deniedRead then some changeGuidance else none) ++ [("operation", .str "edit")])
    [("mode", .str mode.value)]

theorem deniedRead_unsolvable : ¬ Solvable ids (policyTask seed s .deniedRead policyTitle "Finance" requested) := by
  rintro ⟨events, answer, result, -, judged, passed, told⟩
  have valid := staged.ready.holds.valid
  rw [stagedWorld_eq valid rfl] at judged told
  rw [((returns_verify? _).mp judged).2, verify_family (by decide) rfl rfl] at passed
  have all : AllPass (verifyReadOnly _ _ _ _) := buildResult_passed.mp passed
  have idle := writes_unchanged valid staged.ready.holds.keyed events rfl rfl (allPass_cons.mp all).1
  rcases told changeGuidance rfl with goal | shown
  · exact deniedGoal_silent requested goal
  · exact bob_never_told staged idle shown

theorem deniedWrite_solvable : Solvable ids (policyTask seed s .deniedWrite p.title name requested) := by
  have found := staged.ready.owned staged.here |>.found
  obtain ⟨nonempty, _⟩ := staged.own
  refine solvable_of_final staged.ready.holds.valid rfl [] (Or.inl (by simp)) rfl "" ?_ nofun
  refine accepted_unchanged rfl rfl rfl (Or.inr ⟨rfl, Or.inr rfl⟩) ?_
  rw [verify_family (by decide) rfl rfl]
  refine allTrue_buildResult (oracle_denied_write (p := p) ?_ rfl found rfl)
  rw [staged.id] at nonempty ⊢
  exact targetPageIds_verifierConfig nonempty

theorem allowed_solvable : Solvable ids (policyTask seed s .allowed p.title name requested) := by
  obtain ⟨nonempty, here⟩ := staged.own
  have found := (staged.ready.owned staged.here).found
  refine solvable_of_put staged.ready here rfl (policy_plays staged).2.symm rfl requested
    (fun final trajectory taken answers => ?_) ids
  refine accepted_edit rfl rfl answers (Or.inr ⟨rfl, rfl⟩) ?_
  rw [verify_family (by decide) rfl rfl]
  refine allTrue_buildResult (oracle_allowed (counted_of_coherent staged.ready.holds.coherent) found ?_
    rfl (p.changed none (some requested)) rfl rfl ?_ (textContains_self requested) taken)
  · rw [staged.id] at nonempty ⊢
    exact targetPageIds_verifierConfig nonempty
  · rw [staged.id]
    rfl

omit staged [PyFloat] in
theorem permissions_eq (rng fixtures : Random) (seed : Int) : ∃ s₀ s₁ s content p,
    PolicyStaged fixtures s₀ s₁ s content p ∧ permissions rng fixtures seed =
      .ok (policyTask seed s (permissionsMode rng seed) policyTitle "Finance" (choice rng 2 requestedFragments)) := by
  have known : ∃ t ∈ templatesForVariant .permissions, t.pageId = "page-6" := by decide
  obtain ⟨s₀, s₁, s, content, p, staged⟩ := exists_dressed fixtures (Or.inr rfl) known (some policyTitle)
    fun _ => permissionsBody
  refine ⟨s₀, s₁, s, content, p, staged, ?_⟩
  -- The entries written again are the ones the fixtures already have.
  have same : setPermission "pages" "page-6" (accessEntry ["alice", "carol"] ["carol"])
      (setPermission "spaces" "space-3" (accessEntry ["alice", "carol"] ["carol"]) s.permissions) = s.permissions := by
    rw [staged.ready.holds.permissions]
    rfl
  have kept : ∀ permissions, permissions = s.permissions → ({ s with permissions } : ConfluenceStore) = s := by
    rintro _ rfl
    rfl
  have title : pageTitle s "page-6" = .ok policyTitle := by
    rw [staged.ready.pageTitle_eq staged.here, staged.title_eq policyTitle rfl]
  have named : pageSpaceName s "page-6" = .ok "Finance" := by
    rw [pageSpaceName, staged.ready.pageSpaceId_eq staged.here, staged.ready.holds.spaces, (policy_plays staged).1]
    rfl
  simp only [permissions]
  rw [staged.built, ok_bind, show "Deployment Change Policy" = policyTitle from rfl, staged.titled, ok_bind,
    staged.filled, ok_bind, kept _ same, title, ok_bind, named, ok_bind]
  rfl

omit staged in
theorem permissions_solvable_iff (rng fixtures : Random) (seed : Int) (ids : String × String) :
    ∃ g, permissions rng fixtures seed = .ok g ∧ (Solvable ids g ↔ permissionsMode rng seed ≠ .deniedRead) := by
  obtain ⟨s₀, s₁, s, content, p, staged, generated⟩ := permissions_eq rng fixtures seed
  refine ⟨_, generated, ?_⟩
  generalize permissionsMode rng seed = mode
  have title := staged.title_eq policyTitle rfl
  cases mode with
  | deniedRead => simpa using deniedRead_unsolvable staged
  | deniedWrite =>
    rw [← title]
    simpa using deniedWrite_solvable staged
  | allowed =>
    rw [← title]
    simpa using allowed_solvable staged

end Modes

/-- Every generated task can be solved by its own actor, but for the permissions tasks that deny reading. -/
theorem solvable_iff [PyText] [PyFloat] (family : Family) (rng fixtures : Random) (seed : Int)
    (ids : String × String) :
    ∃ g, generate rng fixtures seed family = .ok g ∧
      (Solvable ids g ↔ ¬ (family = .permissions ∧ permissionsMode rng seed = .deniedRead)) := by
  have always : ∀ {run : Except PyError Generated} {other : Family}, other ≠ .permissions →
      (∃ g, run = .ok g ∧ Solvable ids g) →
      ∃ g, run = .ok g ∧ (Solvable ids g ↔ ¬ (other = .permissions ∧ permissionsMode rng seed = .deniedRead)) := by
    rintro run other different ⟨g, generated, solvable⟩
    exact ⟨g, generated, by simp [different, solvable]⟩
  cases family with
  | retrieval => exact always (by decide) (retrieval_solvable rng fixtures seed ids)
  | editPage => exact always (by decide) (editPage_solvable rng fixtures seed ids)
  | preservation => exact always (by decide) (preservation_solvable rng fixtures seed ids)
  | concurrentEdit => exact always (by decide) (concurrentEdit_solvable rng fixtures seed ids)
  | permissions =>
    obtain ⟨g, generated, solvable⟩ := permissions_solvable_iff rng fixtures seed ids
    exact ⟨g, generated, by simpa using solvable⟩

/-- A task drawn to deny reading has no solution. -/
theorem denied_task_unsolvable :
    permissionsMode (fun _ => 0) 2 = .deniedRead ∧
    ∃ g, @generate asciiText (fun _ => 0) (fun _ => 0) 2 .permissions = .ok g ∧
      g.task.actorId = "bob" ∧ ¬ @Solvable asciiText integers ("final", "") g := by
  have mode : permissionsMode (fun _ => 0) 2 = .deniedRead := by decide
  let _ := asciiText
  let _ := integers
  obtain ⟨s₀, s₁, s, content, p, staged, generated⟩ := permissions_eq (fun _ => 0) (fun _ => 0) 2
  rw [mode] at generated
  exact ⟨mode, _, generated, rfl, deniedRead_unsolvable staged⟩

end AgentGym.Scenarios
