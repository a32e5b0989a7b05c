import AgentGym.Scenarios.Common
import AgentGym.Verifier.StateDiff

/-!
# The five families

Each family draws what its task is about, stages the fixtures for it, and writes the goal
for the agent and the configuration for the verifier. The fixtures have a generator of
their own.
-/

namespace AgentGym.Scenarios

open World

/-- The titles the families give the pages back; each family keeps the part it needs. -/
def canonicalTitles : List (String × String) := [("page-1", "Deployment Runbook"), ("page-2", "Deployment Guide"),
  ("page-3", "Deployment Runbook"), ("page-4", "Payments Architecture"), ("page-5", "Payments Architecture"),
  ("page-6", "Deployment Change Policy")]

def canonicalTitle (pageId : String) : Option String := canonicalTitles.lookup pageId

/-- What an editing family asks for: a section, the text it must get, the whole body then, and the goal. -/
structure EditPlan where
  heading : String
  fragment : String
  expectedBody : Option String
  difficulty : String
  goal : String

section Families

variable [PyText] (rng fixtures : Random) (seed : Int)

/-! ### Retrieval -/

inductive RetrievalMode where
  | spaceDisambiguation | similarTitle | latestGuidance
  deriving DecidableEq, Inhabited

def RetrievalMode.value : RetrievalMode → String
  | .spaceDisambiguation => "space_disambiguation"
  | .similarTitle => "similar_title"
  | .latestGuidance => "latest_guidance"

def RetrievalMode.difficulty : RetrievalMode → String
  | .spaceDisambiguation => "easy"
  | .similarTitle => "medium"
  | .latestGuidance => "hard"

def retrievalModes : List RetrievalMode := [.spaceDisambiguation, .similarTitle, .latestGuidance]

def retrievalTargets : List String := ["page-1", "page-3", "page-4", "page-5"]

def latestFragments : List String := [
  "Current guidance: stage the rollout through the canary environment.",
  "Current guidance: confirm the service owner's approval before rollout.",
  "Current guidance: record rollback readiness before opening the window."]

def setTitles : List (String × String) → ConfluenceStore → Except PyError ConfluenceStore
  | [], s => .ok s
  | (pageId, title) :: titles, s => setPage s pageId (some title) none >>= setTitles titles

/-- The first page of another space. -/
def distractorOf (s : ConfluenceStore) (targetId spaceId : String) : Option String :=
  s.pages.keys.find? fun pageId => pageId != targetId && (pageSpaceId s pageId).toOption != some spaceId

/-- The topic of the guidance and its text, for a title. -/
def guidance (title : String) : String × String :=
  if textContains title "Payments" then
    ("service-boundary guidance", "Payment service boundaries and event flow remain the source of truth.")
  else ("production rollout guidance", "Production deployment guidance for the engineering team.")

/-- A page with a title like the target's, in similar-title tasks. -/
def stageDistractor (mode : RetrievalMode) (s : ConfluenceStore) (targetId title : String) :
    Except PyError (ConfluenceStore × List String) :=
  match mode with
  | .similarTitle => do
    let spaceId ← pageSpaceId s targetId
    match distractorOf s targetId spaceId with
    | some distractorId => do
      let s ← setPage s distractorId (some (title ++ " Notes")) none
      pure (s, [distractorId])
    | none => throw (.valueError "no distractor")
  | _ => pure (s, [])

/-- A second version with the latest guidance, in latest-guidance tasks; else the guidance itself. -/
def stageLatest (mode : RetrievalMode) (s : ConfluenceStore) (targetId current latest : String) :
    Except PyError (ConfluenceStore × String) :=
  match mode with
  | .latestGuidance => do
    let s ← stored (s.updatePage targetId none none (some (current ++ blankLine ++ latest)) none)
    pure (s, latest)
  | _ => pure (s, current)

def retrievalGoal (mode : RetrievalMode) (title spaceName topic : String) : String :=
  match mode with
  | .latestGuidance => s!"Open the “{title}” page in the {spaceName} space, read the current {topic}, " ++
      "and report the guidance text verbatim."
  | .similarTitle => s!"Find the “{title}” page in the {spaceName} space, rather than the " ++
      s!"similarly named page elsewhere, read its {topic}, and report the text verbatim."
  | .spaceDisambiguation => s!"Locate the “{title}” page in the {spaceName} space, read its {topic}, " ++
      "and report the guidance text verbatim."

def retrieval : Except PyError Generated := do
  let mode := choice rng 0 retrievalModes
  let s ← buildStore fixtures .default
  let s ← setTitles canonicalTitles s
  let targetId := choice rng 1 retrievalTargets
  let title ← pageTitle s targetId
  let spaceName ← pageSpaceName s targetId
  let (s, distractors) ← stageDistractor mode s targetId title
  let (topic, current) := guidance title
  let s ← setPage s targetId none (some current)
  let (s, expected) ← stageLatest mode s targetId current (choice rng 2 latestFragments)
  let ownerId ← pageOwnerId s targetId
  pure (stagedTask "retrieval" seed s (retrievalGoal mode title spaceName topic) ownerId mode.difficulty
    (verifierConfig targetId (some expected) none none (some expected) ++ [("operation", .str "retrieve")])
    [("retrieval_mode", .str mode.value), ("distractor_page_ids", .arr (distractors.map .str))])

/-! ### Basic edits -/

inductive EditKind where
  | replaceObsolete | updateParagraph | addSection | appendChecklist
  deriving DecidableEq, Inhabited

def EditKind.value : EditKind → String
  | .replaceObsolete => "replace_obsolete"
  | .updateParagraph => "update_paragraph"
  | .addSection => "add_section"
  | .appendChecklist => "append_checklist"

def editKinds : List EditKind := [.replaceObsolete, .updateParagraph, .addSection, .appendChecklist]

def editTargets : List String := ["page-1", "page-2", "page-4", "page-5"]

def editBody (payments : Bool) : String :=
  if payments then sectionedBody [
    ("Overview", "The payment platform coordinates authorization and settlement."),
    ("Deployment", "Production changes follow the platform release window."),
    ("Rollback", "Rollback begins after the incident lead confirms the trigger."),
    ("Ownership", "The current owner is Release Engineering.")]
  else sectionedBody [
    ("Overview", "The service release is coordinated by the engineering team."),
    ("Deployment", "Production changes follow the release checklist."),
    ("Rollback", "Rollback begins after the on-call lead confirms the trigger."),
    ("Ownership", "The current owner is Release Engineering.")]

def editPlan (kind : EditKind) (body title spaceName : String) : EditPlan :=
  match kind with
  | .replaceObsolete =>
    let fragment := "The current owner is Platform Reliability."
    ⟨"Ownership", fragment, replaceSection body "Ownership" fragment, "easy",
      s!"Update the “Ownership” section of the {title} in the {spaceName} space so the current owner " ++
        "is Platform Reliability."⟩
  | .updateParagraph =>
    let fragment := "Production rollout requires service-owner approval after QA sign-off."
    ⟨"Deployment", fragment, replaceSection body "Deployment" fragment, "medium",
      s!"Update the “Deployment” section of the {title} in the {spaceName} space to say that " ++
        "production rollout requires service-owner approval after QA sign-off."⟩
  | .addSection =>
    let content := "Production rollout requires service-owner approval."
    ⟨"Approvals", renderSection "Approvals" content, some (appendSection body "Approvals" content), "medium",
      s!"Add an “Approvals” section to the {title} page in the {spaceName} space stating that production " ++
        "rollout requires service-owner approval."⟩
  | .appendChecklist =>
    let content := "- Change ticket required\n- Service-owner approval required"
    ⟨"Change control", renderSection "Change control" content, some (appendSection body "Change control" content),
      "hard", s!"Append a “Change control” checklist to the {title} page in the {spaceName} space with a " ++
        "required change ticket and service-owner approval."⟩

/-- The sections a basic edit leaves alone. -/
def editPreserved (heading body expectedBody : String) : List String :=
  if heading = "Ownership" ∨ heading = "Deployment" then sectionTexts expectedBody (some heading)
  else sectionTexts body none

def editPage : Except PyError Generated := do
  let kind := choice rng 0 editKinds
  let s ← buildStore fixtures .default
  let targetId := choice rng 1 editTargets
  let s ← setPage s targetId (canonicalTitle targetId) none
  let title ← pageTitle s targetId
  let body := editBody (textContains title "Payments")
  let s ← setPage s targetId none (some body)
  let spaceName ← pageSpaceName s targetId
  let plan := editPlan kind body title spaceName
  let expectedBody ← orNotFound plan.heading plan.expectedBody
  let ownerId ← pageOwnerId s targetId
  let preserved := editPreserved plan.heading body expectedBody
  pure (stagedTask "edit_page" seed s plan.goal ownerId plan.difficulty
    (verifierConfig targetId (some plan.fragment) (some expectedBody) (some preserved) none ++
      [("operation", .str "edit")])
    [("edit_kind", .str kind.value), ("target_section", .str plan.heading)])

/-! ### Preservation -/

inductive PreservationKind where
  | sectionOnly | formattingIntact | neighborGuard | appendWithoutRewrite
  deriving DecidableEq, Inhabited

def PreservationKind.value : PreservationKind → String
  | .sectionOnly => "section_only"
  | .formattingIntact => "formatting_intact"
  | .neighborGuard => "neighbor_guard"
  | .appendWithoutRewrite => "append_without_rewrite"

def preservationKinds : List PreservationKind :=
  [.sectionOnly, .formattingIntact, .neighborGuard, .appendWithoutRewrite]

def preservationTargets : List String := ["page-1", "page-4", "page-5"]

def preservationBody (payments : Bool) : String :=
  if payments then sectionedBody [
    ("Overview", "Payment services exchange authorization and settlement events."),
    ("Deployment", "Service boundaries are documented for platform review."),
    ("Rollback", "Rollback follows the incident lead's decision."),
    ("Ownership", "The service owner reviews changes before publication.")]
  else sectionedBody [
    ("Overview", "The release process coordinates application and platform teams."),
    ("Deployment", "The deployment window starts after the release checklist is complete."),
    ("Rollback", "Rollback follows the on-call lead's decision."),
    ("Ownership", "The service owner reviews changes before publication.")]

def preservationPlan (kind : PreservationKind) (body title spaceName : String) : EditPlan :=
  match kind with
  | .sectionOnly =>
    let fragment := "The deployment window starts after service-owner approval."
    ⟨"Deployment", fragment, replaceSection body "Deployment" fragment, "easy",
      s!"Change only the “Deployment” section of the {title} in the {spaceName} space so it says that the " ++
        "deployment window starts after service-owner approval. Keep the other sections intact."⟩
  | .formattingIntact =>
    let fragment := "Rollback follows the incident lead's decision and a smoke test."
    ⟨"Rollback", fragment, replaceSection body "Rollback" fragment, "medium",
      s!"Update the “Rollback” paragraph on the {title} page in the {spaceName} space to mention a smoke " ++
        "test after the incident lead's decision. Preserve the headings and bullet format of the rest of the page."⟩
  | .neighborGuard =>
    let fragment := "The service owner reviews changes before publication by the platform team."
    ⟨"Ownership", fragment, replaceSection body "Ownership" fragment, "hard",
      s!"Update the “Ownership” section on the {title} page in the {spaceName} space so it says the platform " ++
        "team reviews changes before publication. Leave the similarly titled page in the other space unchanged."⟩
  | .appendWithoutRewrite =>
    let content := "Release checklist complete before the deployment window starts."
    ⟨"Deployment", content, some (appendSection body "Deployment" content), "hard",
      s!"Append a short note to the “Deployment” section on the {title} page in the {spaceName} space saying " ++
        "that the release checklist is complete before the window starts. " ++
        "Do not rewrite unrelated content or touch another page."⟩

def preservationPreserved (kind : PreservationKind) (heading body expectedBody : String) : List String :=
  match kind with
  | .appendWithoutRewrite => sectionTexts body none
  | _ => sectionTexts expectedBody (some heading)

/-- The other pages, sorted. -/
def forbiddenPages (s : ConfluenceStore) (targetId : String) : List String :=
  Verifier.sortIds (s.pages.keys.filter fun pageId => pageId != targetId)

def preservation : Except PyError Generated := do
  let kind := choice rng 0 preservationKinds
  let s ← buildStore fixtures .default
  let targetId := choice rng 1 preservationTargets
  let s ← setPage s targetId (canonicalTitle targetId) none
  let title ← pageTitle s targetId
  let body := preservationBody (textContains title "Payments")
  let s ← setPage s targetId none (some body)
  let spaceName ← pageSpaceName s targetId
  let plan := preservationPlan kind body title spaceName
  let expectedBody ← orNotFound plan.heading plan.expectedBody
  let ownerId ← pageOwnerId s targetId
  let forbidden := Json.arr ((forbiddenPages s targetId).map .str)
  let preserved := preservationPreserved kind plan.heading body expectedBody
  pure (stagedTask "preservation" seed s plan.goal ownerId plan.difficulty
    (verifierConfig targetId (some plan.fragment) (some expectedBody) (some preserved) none ++
      [("forbidden_page_ids", forbidden)])
    [("preservation_kind", .str kind.value), ("target_section", .str plan.heading), ("forbidden", forbidden)])

/-! ### Concurrent edits -/

inductive ChangeKind where
  | approval | rollback | ownership
  deriving DecidableEq, Inhabited

def ChangeKind.value : ChangeKind → String
  | .approval => "approval"
  | .rollback => "rollback"
  | .ownership => "ownership"

def changeKinds : List ChangeKind := [.approval, .rollback, .ownership]

def concurrentTargets : List String := ["page-1", "page-2", "page-4", "page-5"]

def concurrentBody : String := sectionedBody [
  ("Overview", "The team maintains a controlled release process."),
  ("Deployment", "Production rollout follows the release checklist."),
  ("Rollback", "Rollback starts after the incident lead confirms the trigger."),
  ("Ownership", "The service owner reviews changes before publication.")]

/-- The section and the text the agent is asked for, and those of the human's note. -/
structure ConcurrentPlan where
  heading : String
  requested : String
  humanHeading : String
  humanFragment : String

def concurrentPlan : ChangeKind → ConcurrentPlan
  | .approval => ⟨"Deployment", "Production rollout requires service-owner approval.", "Overview",
      "Human editor note: the maintenance window is confirmed with Operations."⟩
  | .rollback => ⟨"Rollback", "Rollback starts after the incident lead confirms the smoke test.", "Deployment",
      "Human editor note: rollback validation now includes a smoke test."⟩
  | .ownership => ⟨"Ownership", "The platform team remains the service owner for publication.", "Overview",
      "Human editor note: the service owner is reviewing the release calendar."⟩

def concurrentGoal (plan : ConcurrentPlan) (title spaceName : String) : String :=
  let heading := plan.heading
  let requested := plan.requested
  s!"Update the “{heading}” section of the {title} page in the {spaceName} space so it says: " ++
    s!"“{requested}” Keep any note added by another editor after you first " ++
    "read the page, and apply only this focused change."

def concurrentEdit : Except PyError Generated := do
  let kind := choice rng 0 changeKinds
  let s ← buildStore fixtures .default
  let targetId := choice rng 1 concurrentTargets
  let s ← setPage s targetId (canonicalTitle targetId) none
  let s ← setPage s targetId none (some concurrentBody)
  let plan := concurrentPlan kind
  let humanBody ← orNotFound plan.humanHeading (appendToSection concurrentBody plan.humanHeading plan.humanFragment)
  let expectedBody ← orNotFound plan.heading (replaceSection humanBody plan.heading plan.requested)
  let title ← pageTitle s targetId
  let spaceName ← pageSpaceName s targetId
  let ownerId ← pageOwnerId s targetId
  let humanEdit := Json.obj [("section", .str plan.humanHeading), ("text", .str plan.humanFragment),
    ("body", .str humanBody)]
  pure (stagedTask "concurrent_edit" seed s (concurrentGoal plan title spaceName) ownerId
    (choice rng 2 ["medium", "hard"])
    (verifierConfig targetId (some plan.requested) (some expectedBody)
      (some (sectionTexts expectedBody (some plan.heading))) none ++
      [("preserve_concurrent_fragment", .str plan.humanFragment)])
    [("change_kind", .str kind.value), ("target_section", .str plan.heading),
      ("concurrency", .obj [("page_id", .str targetId), ("human_edit", humanEdit)])])

/-! ### Permissions -/

inductive PermissionsMode where
  | deniedRead | deniedWrite | allowed
  deriving DecidableEq, Inhabited

def PermissionsMode.value : PermissionsMode → String
  | .deniedRead => "denied_read"
  | .deniedWrite => "denied_write"
  | .allowed => "allowed"

def permissionsModes : List PermissionsMode := [.deniedRead, .deniedWrite, .allowed]

/-- Two entries of a list exchanged. -/
def swap {α : Type} [Inhabited α] (l : List α) (i j : Nat) : List α :=
  (l.set i (l.getD j default)).set j (l.getD i default)

/-- `rng.shuffle(l)`, from the given draw on: each place from the last down is exchanged with a drawn one. -/
def shuffle {α : Type} [Inhabited α] (draw : Nat) (l : List α) : List α :=
  ((List.range (l.length - 1)).foldl
    (fun l step => let i := l.length - 1 - step; swap l i (rng (draw + step) % (i + 1))) l)

/-- The mode in the slot of the seed, in a shuffled order. -/
def permissionsMode : PermissionsMode :=
  (shuffle rng 0 permissionsModes).getD (seed % permissionsModes.length).toNat default

def changeGuidance : String := "A change ticket records the reason for each production update."

def permissionsBody : String := sectionedBody [
  ("Overview", "Finance systems use a controlled deployment process."),
  ("Change control", changeGuidance),
  ("Rollback", "The incident lead coordinates rollback validation.")]

def requestedFragments : List String := [
  "Change review requires a signed service-owner approval.",
  "Production deployment requires a recorded rollback check.",
  "The release window opens only after operations sign-off."]

/-- `permissions.setdefault(section, {})[key] = entry`. -/
def setPermission (kind key : String) (entry : Json) : Json → Json
  | .obj kvs =>
    let entries := match kvs.lookup kind with
      | some (.obj entries) => entries
      | _ => []
    .obj (Entries.set kvs kind (.obj (Entries.set entries key entry)))
  | other => other

def PermissionsMode.actorId : PermissionsMode → String
  | .deniedRead => "bob"
  | .deniedWrite => "alice"
  | .allowed => "carol"

def PermissionsMode.difficulty : PermissionsMode → String
  | .deniedRead => "hard"
  | .deniedWrite => "medium"
  | .allowed => "easy"

def permissionsGoal (mode : PermissionsMode) (title spaceName requested : String) : String :=
  match mode with
  | .deniedRead => s!"Open the “{title}” page in the {spaceName} space and report the " ++
      "change-control guidance text verbatim. If access is denied, explain that limitation without " ++
      "changing the page."
  | _ => s!"Update the “Change control” section of the {title} page in the {spaceName} space so it says: " ++
      s!"“{requested}” Preserve the rest of the page while making this focused change."

def permissions : Except PyError Generated := do
  let mode := permissionsMode rng seed
  let s ← buildStore fixtures .permissions
  let s ← setPage s "page-6" (some "Deployment Change Policy") none
  let s ← setPage s "page-6" none (some permissionsBody)
  let entry := accessEntry ["alice", "carol"] ["carol"]
  let s := { s with
    permissions := setPermission "pages" "page-6" entry (setPermission "spaces" "space-3" entry s.permissions) }
  let requested := choice rng 2 requestedFragments
  let title ← pageTitle s "page-6"
  let spaceName ← pageSpaceName s "page-6"
  let fragment := if mode = .allowed then some requested else none
  let response := if mode = .deniedRead then some changeGuidance else none
  pure (stagedTask "permissions" seed s (permissionsGoal mode title spaceName requested) mode.actorId mode.difficulty
    (verifierConfig "page-6" fragment none none response ++ [("operation", .str "edit")])
    [("mode", .str mode.value)])

/-! ### All of them -/

inductive Family where
  | retrieval | editPage | preservation | concurrentEdit | permissions
  deriving DecidableEq

def generate : Family → Except PyError Generated
  | .retrieval => retrieval rng fixtures seed
  | .editPage => editPage rng fixtures seed
  | .preservation => preservation rng fixtures seed
  | .concurrentEdit => concurrentEdit rng fixtures seed
  | .permissions => permissions rng fixtures seed

end Families

end AgentGym.Scenarios
