import AgentGym.Scenarios.Sections
import AgentGym.World.Fixtures

/-!
# What the scenario families share

A family stages a store, writes its snapshot, and describes the task. Staging a page
changes its text in place, in its history too, so that it stays at its version.
-/

namespace AgentGym.Scenarios

open World

def verifierId : String := "confluence-safe-page-edit-v1"

def snapshotTimestamp : String := "2026-09-06T00:00:00+00:00"

/-! ### Staging pages -/

/-- The changes `set_page` makes to a page, and to the history entries of its version. -/
def textChanges (title body : Option String) : List (String × Json) :=
  (title.map fun t => ("title", Json.str t)).toList ++ (body.map fun b => ("body", Json.str b)).toList

def versionOf (page : PageData) : Json := (page.get? "version").getD (.int 1)

def setPage (s : ConfluenceStore) (pageId : String) (title body : Option String) : Except PyError ConfluenceStore :=
  match s.pages.get? pageId with
  | none => .error (.keyError pageId)
  | some page =>
    let changes := textChanges title body
    let retouch (entry : PageData) := if (versionOf entry).pyEq (versionOf page) then entry.update changes else entry
    .ok { s with
      pages := s.pages.set pageId (page.update changes)
      pageVersions := match s.pageVersions.get? pageId with
        | none => s.pageVersions
        | some entries => s.pageVersions.set pageId (entries.map retouch) }

/-- A page with another text, at the same version. -/
def retouched (p : Page) (title body : Option String) : Page :=
  { p with title := title.getD p.title, body := body.getD p.body }

theorem update_textChanges (p : Page) (title body : Option String) :
    p.modelDump.update (textChanges title body) = (retouched p title body).modelDump := by
  cases title <;> cases body <;> simp [textChanges, retouched, Dict.update]

/-- Staging a page that has never changed leaves one that was created so. -/
theorem setPage_fresh {s : ConfluenceStore} {p : Page} (found : s.pages.get? p.id = some p.modelDump)
    (history : s.getPageVersions p.id = [p.modelDump]) (title body : Option String) :
    setPage s p.id title body = .ok (s.created (retouched p title body)) := by
  have entries : s.pageVersions.get? p.id = some [p.modelDump] := by
    unfold ConfluenceStore.getPageVersions at history
    cases stored : s.pageVersions.get? p.id with
    | none => simp [stored] at history
    | some ds =>
      rw [stored] at history
      rw [show ds = [p.modelDump] from history]
  simp only [setPage, found, entries, List.map_cons, List.map_nil, Json.pyEq_refl, if_true, update_textChanges]
  rfl

theorem setPage_holds {s : ConfluenceStore} {content : String → Option Page} (h : Holds s content) {k : String}
    {p : Page} (here : content k = some p) (title body : Option String) :
    ∃ s', setPage s k title body = .ok s' ∧ Holds s' (Function.update content k (some (retouched p title body))) := by
  obtain ⟨rfl, first⟩ := h.first here
  have history : s.getPageVersions p.id = [p.modelDump] := by
    rw [h.histories, here]
    rfl
  exact ⟨_, setPage_fresh (h.found here) history title body, h.created (p := retouched p title body) first⟩

/-! ### Reading the staged world -/

section Reading

variable [PyText]

def stagedPage (s : ConfluenceStore) (pageId : String) : Except PyError PageData :=
  match s.pages.get? pageId with
  | some page => .ok page
  | none => .error (.keyError pageId)

/-- A field that must be a string. -/
def stringField (s : ConfluenceStore) (pageId field : String) : Except PyError String := do
  match (← stagedPage s pageId).get? field with
  | some (.str value) => pure value
  | _ => throw .typeError

def pageSpaceId (s : ConfluenceStore) (pageId : String) : Except PyError String :=
  stringField s pageId "space_id"

def pageOwnerId (s : ConfluenceStore) (pageId : String) : Except PyError String :=
  stringField s pageId "owner_id"

def pageTitle (s : ConfluenceStore) (pageId : String) : Except PyError String := do
  pure (pyStr (((← stagedPage s pageId).get? "title").getD (.str pageId)))

def pageSpaceName (s : ConfluenceStore) (pageId : String) : Except PyError String := do
  let spaceId ← pageSpaceId s pageId
  match s.spaces.get? spaceId with
  | some (.obj space) => pure (pyStr ((space.lookup "name").getD (.str spaceId)))
  | some _ => throw .attributeError
  | none => throw (.keyError spaceId)

end Reading

/-! ### Tasks -/

/-- `verifier_config`. -/
def verifierConfig (pageId : String) (fragment expectedFinalBody : Option String)
    (preservedBodyFragments : Option (List String)) (expectedResponse : Option String) : List (String × Json) :=
  let fragments := match fragment with
    | none => []
    | some text => [(pageId, Json.str text)]
  [("expected_page_ids", .arr [.str pageId]), ("expected_content_fragments", .obj fragments)] ++
    (expectedFinalBody.map fun body => ("expected_final_body", Json.str body)).toList ++
    (preservedBodyFragments.map fun texts => ("preserved_body_fragments", Json.arr (texts.map .str))).toList ++
    (expectedResponse.map fun text => ("expected_response", Json.str text)).toList

/-- `f"{seed:04d}"`. -/
def paddedSeed (seed : Int) : String :=
  let digits := toString seed.natAbs
  let sign := if seed < 0 then "-" else ""
  let zeros := 4 - sign.length - digits.length
  sign ++ String.ofList (List.replicate zeros '0') ++ digits

/-- A task and the snapshot its world starts from. -/
structure Generated where
  task : Task
  snapshot : WorldSnapshot

/-- `_task`, with the family's own metadata over the common ones. -/
def stagedTask (family : String) (seed : Int) (s : ConfluenceStore) (goal actorId difficulty : String)
    (config metadata : List (String × Json)) : Generated where
  task :=
    { id := s!"{family}-{paddedSeed seed}"
      scenarioId := family
      split := "train"
      goal, actorId
      initialSnapshotRef := s!"snapshots/{family}-{paddedSeed seed}.json"
      verifierId
      metadata := (Dict.empty.update [("family", .str family), ("difficulty", .str difficulty),
        ("verifier_config", .obj config)]).update metadata }
  snapshot := s.snapshot s!"{family}-{paddedSeed seed}" snapshotTimestamp

example : paddedSeed (-7) = "-007" := by decide

end AgentGym.Scenarios
