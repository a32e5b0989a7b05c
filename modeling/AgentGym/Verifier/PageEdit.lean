import AgentGym.World.Store
import AgentGym.Verifier.Predicates

/-!
# The page-edit verifier

`verify` judges one rollout from the initial world, the final world and the events of the
run. Which assertions it makes depends on the task's family; the run passes when every
one of them does. An event is given by its dump.
-/

namespace AgentGym.Verifier

open World (resourceKind)

def verifierId : String := "confluence-safe-page-edit-v1"

def supportedFamilies : List String :=
  ["retrieval", "edit_page", "preservation", "concurrent_edit", "permissions"]

def unchangedInvariantKinds : List String := ["users", "spaces", "permissions"]

/-! ### Configuration -/

def configurationFailureAssertion (message : String) : AssertionResult :=
  ⟨s!"configuration:{message}", false, .required, .str "valid task verifier configuration", .null, message⟩

def nonemptyString? : Json → Option String
  | .str s => if s = "" then none else some s
  | _ => none

/-- `_page_id_collection`. -/
def pageIdCollection (config : Json) (key : String) : Except String (List String) :=
  let check (values : List Json) : Except String (List String) :=
    let ids := values.filterMap nonemptyString?
    if ids.length ≠ values.length ∨ ids = [] then .error s!"missing or invalid {key}"
    else if ids.dedup.length ≠ ids.length then .error s!"duplicate page ids in {key}"
    else .ok ids
  match config.get? key with
  | some (.str s) => check [.str s]
  | some (.arr values) => check values
  | _ => .error s!"missing or invalid {key}"

def targetPageIds (config : Json) : Except String (List String) :=
  pageIdCollection config "expected_page_ids"

theorem pageIdCollection_ok {config : Json} {key : String} {ids : List String}
    (h : pageIdCollection config key = .ok ids) : ids ≠ [] ∧ ids.Nodup := by
  have checked : ∀ values : List Json, (let found := values.filterMap nonemptyString?
      if found.length ≠ values.length ∨ found = [] then Except.error s!"missing or invalid {key}"
      else if found.dedup.length ≠ found.length then .error s!"duplicate page ids in {key}"
      else .ok found) = .ok ids → ids ≠ [] ∧ ids.Nodup := by
    intro values ok
    dsimp only at ok
    split at ok
    · simp at ok
    · rename_i sound
      split at ok
      · simp at ok
      · rename_i distinct
        obtain rfl := Except.ok.inj ok
        refine ⟨(not_or.mp sound).2, ?_⟩
        rw [← (List.dedup_sublist _).eq_of_length (not_not.mp distinct)]
        exact List.nodup_dedup _
  unfold pageIdCollection at h
  dsimp only at h
  split at h
  · exact checked _ h
  · exact checked _ h
  · simp at h

/-- `_content_fragments`, as a mapping from page ids. -/
def contentFragments (config : Json) : Json :=
  match (config.get? "expected_content_fragments").or (config.get? "expected_fragments") with
  | some (.obj fragments) => .obj fragments
  | some (.str fragment) =>
    match targetPageIds config with
    | .ok [pageId] => .obj [(pageId, .str fragment)]
    | _ => .obj []
  | _ => .obj []

def pageBody (snapshot : WorldSnapshot) (pageId : String) : Option String :=
  match resourceField snapshot.resources pageId "body" "pages" with
  | some (.str body) => some body
  | _ => none

def string? : Json → Option String
  | .str s => some s
  | _ => none

def preservedBodyFragments (config : Json) : Except String (List String) :=
  match config.get? "preserved_body_fragments" with
  | some (.arr values) =>
    let fragments := values.filterMap string?
    if fragments.length ≠ values.length then .error "preserved_body_fragments must contain only strings"
    else .ok fragments
  | _ => .error "missing or invalid preserved_body_fragments"

section Assertions

variable [PyText]

def expectedFinalBody (config : Json) (pageId : String) (targetCount : Nat) : Except String String :=
  let name := PyText.repr (.str pageId)
  let invalid : Except String String :=
    if targetCount = 1 then .error "invalid expected final body"
    else .error s!"missing expected final body for page {name}"
  match config.get? "expected_final_body" with
  | some (.str body) => .ok body
  | some (.obj bodies) =>
    match bodies.lookup pageId with
    | some (.str body) => .ok body
    | _ => invalid
  | none | some .null => .error "missing expected final body"
  | some _ => invalid

/-! ### Histories -/

def historyAssertion (id : String) (passed : Bool) (expected actual : Json) (message : String) :
    AssertionResult :=
  ⟨id, passed, .invariant, expected, actual, s!"{id}: {message}"⟩

def entriesOf : Option Json → List Json
  | some (.arr entries) => entries
  | _ => []

/-- How many prior entries are compared: all of the old ones, short of the last new one. -/
def overlap (initial final : List Json) : Nat := min (final.length - 1) initial.length

def historyLength (pageId : String) (page : List (String × Json)) (history : Option Json) : AssertionResult :=
  let passed : Bool := match page.lookup "version", history with
    | some (.int version), some (.arr entries) => (entries.length : Int) == version
    | _, _ => false
  let actual := match history with
    | some (.arr entries) => Json.int entries.length
    | other => orNull other
  historyAssertion s!"page-history-length:{pageId}" passed (orNull (page.lookup "version")) actual
    (if passed then "page history length equals the final page version"
      else "page history length does not equal the final page version")

def historyPriorEntries (pageId : String) (initial final : List Json) : AssertionResult :=
  let passed := ((final.zip initial).take (overlap initial final)).all fun e => e.1.sameText e.2
  historyAssertion s!"page-history-prior-entries:{pageId}" passed
    (.arr (initial.take (overlap initial final))) (.arr (final.take (overlap initial final)))
    (if passed then "prior page history entries are preserved" else "a prior page history entry was changed")

def historyFinalEntry (pageId : String) (page : Json) (final : List Json) : AssertionResult :=
  let passed : Bool := match final.getLast? with
    | some entry => entry.sameText page
    | none => false
  historyAssertion s!"page-history-final-entry:{pageId}" passed page (orNull final.getLast?)
    (if passed then "the last page history entry matches the final page"
      else "the last page history entry does not match the final page")

/-- The history assertions of one page id. -/
def historyAssertions (initialPage finalPage initialHistory finalHistory : Option Json) (pageId : String) :
    List AssertionResult :=
  if (orNull initialPage).sameText (orNull finalPage) then
    let same := (orNull initialHistory).sameText (orNull finalHistory)
    [historyAssertion s!"page-history-unchanged:{pageId}" same (orNull initialHistory) (orNull finalHistory)
      (if same then "page history is unchanged for an untouched page"
        else "page history changed for an untouched page")]
  else match finalPage with
    | some (.obj page) =>
      [historyLength pageId page finalHistory,
        historyPriorEntries pageId (entriesOf initialHistory) (entriesOf finalHistory),
        historyFinalEntry pageId (.obj page) (entriesOf finalHistory)]
    | other =>
      [historyAssertion s!"page-history-final-page:{pageId}" false (.str "final page resource") (orNull other)
        "changed page is missing from the final world"]

def pageHistoryInvariants (initial final : WorldSnapshot) : List AssertionResult :=
  let initialPages := collection initial.resources "pages"
  let finalPages := collection final.resources "pages"
  let initialHistories := collection initial.resources "page_versions"
  let finalHistories := collection final.resources "page_versions"
  let pageIds := unionIds (unionIds initialPages.keys finalPages.keys)
    (unionIds initialHistories.keys finalHistories.keys)
  pageIds.flatMap fun pageId => historyAssertions (initialPages.get? pageId) (finalPages.get? pageId)
    (initialHistories.get? pageId) (finalHistories.get? pageId) pageId

def worldInvariants (initial final : WorldSnapshot) : List AssertionResult :=
  unchangedInvariantKinds.map (fun kind => assertEqual s!"unchanged:{kind}"
    (resourceKind initial.resources kind) (resourceKind final.resources kind) .invariant
    (some s!"unchanged:{kind}: resource collection is unchanged")) ++
  pageHistoryInvariants initial final

def worldUnchanged (initial final : WorldSnapshot) (category : Category) (assertionId : String) :
    AssertionResult :=
  let initialWorld := Json.ofDict initial.resources
  let finalWorld := Json.ofDict final.resources
  assertEqual assertionId initialWorld finalWorld category
    (some (if initialWorld.pyEq finalWorld
      then "world-unchanged: final world resources match the initial snapshot"
      else "world-unchanged: final world resources differ from the initial snapshot"))

/-! ### The families -/

/-- `_trajectory_events`. -/
def trajectoryEvents : Json → List Json
  | .obj kvs =>
    match kvs.lookup "events" with
    | some (.arr events) => events
    | _ => if (kvs.lookup "type").isSome && (kvs.lookup "payload").isSome then [.obj kvs] else []
  | .arr events => events
  | _ => []

def isCompleted (event : Json) : Bool :=
  match event.get? "type" with
  | some (.str type) => type == "agent.completed"
  | _ => false

def finalAnswer (event : Json) : Option String :=
  match event.get? "payload" with
  | some (.obj payload) => (payload.lookup "final_answer").bind string?
  | _ => none

def completionEvidence (trajectory : Json) (expectedResponse : String) : AssertionResult :=
  let answers := ((trajectoryEvents trajectory).filter isCompleted).filterMap finalAnswer
  match answers.find? fun answer => textContains answer expectedResponse with
  | some answer => ⟨"completion-evidence", true, .required, .str expectedResponse, .str answer,
      "completion-evidence: final answer contains expected response"⟩
  | none => ⟨"completion-evidence", false, .required, .str expectedResponse, .null,
      if answers.isEmpty then "no completion evidence"
      else "completion evidence does not contain expected response"⟩

def verifyReadOnly (initial final : WorldSnapshot) (trajectory config : Json) : List AssertionResult :=
  worldUnchanged initial final .forbidden "world-unchanged" ::
    match (config.get? "expected_response").bind nonemptyString? with
    | some expectedResponse => [completionEvidence trajectory expectedResponse]
    | none => [configurationFailureAssertion "missing expected response"]

def bodyFragmentPreservation (initial final : WorldSnapshot) (pageId : String) (fragments : List String) :
    List AssertionResult :=
  let finalBody := pageBody final pageId
  fragments.zipIdx.map fun (fragment, index) =>
    let passed := match pageBody initial pageId, finalBody with
      | some before, some after => textContains before fragment && textContains after fragment
      | _, _ => false
    ⟨s!"preserved-body-fragment:{pageId}:{index}", passed, .forbidden, .str fragment,
      orNull (finalBody.map .str),
      if passed then s!"preserved-body-fragment:{pageId}:{index}: section text survived"
      else s!"preserved-body-fragment:{pageId}:{index}: section text was not preserved"⟩

/-- The mapping under `concurrency`, in the task or else in the configuration. -/
def concurrencyOf (metadata : Dict String Json) (config : Json) : Option Json :=
  match metadata.get? "concurrency" with
  | some (.obj kvs) => some (.obj kvs)
  | _ => match config.get? "concurrency" with
    | some (.obj kvs) => some (.obj kvs)
    | _ => none

def humanEditFragment (metadata : Dict String Json) (config : Json) (initial : WorldSnapshot)
    (pageId : String) : Option String :=
  match (config.get? "preserve_concurrent_fragment").bind nonemptyString? with
  | some fragment => some fragment
  | none =>
    match (concurrencyOf metadata config).bind (·.get? "human_edit") with
    | some (.str text) => nonemptyString? (.str text)
    | some (.obj edit) =>
      match ["fragment", "text", "content"].findSome? fun key => (edit.lookup key).bind nonemptyString? with
      | some fragment => some fragment
      | none =>
        match (edit.lookup "body").bind nonemptyString? with
        | none => none
        | some body =>
          match pageBody initial pageId with
          | some initialBody =>
            let suffix := stripList (body.toList.drop initialBody.toList.length)
            if startsWith body initialBody && !suffix.isEmpty then some (String.ofList suffix) else some body
          | none => some body
    | _ => none

section Numbers

variable [PyFloat]

def bodyContains (final : WorldSnapshot) (pageId : String) (fragment : Option Json) (exactBody : Bool) :
    List AssertionResult :=
  let name := PyText.repr (.str pageId)
  match fragment with
  | some (.str text) =>
    [assertFieldContains final.resources pageId text none "pages" .required
      (some s!"page-body-contains:{pageId}")]
  | _ =>
    if exactBody then []
    else [configurationFailureAssertion s!"missing expected content fragment for page {name}"]

def bodyExact (final : WorldSnapshot) (config : Json) (pageId : String) (targetCount : Nat) :
    List AssertionResult :=
  match expectedFinalBody config pageId targetCount with
  | .error message => [configurationFailureAssertion message]
  | .ok body =>
    [assertEqual s!"page-body-exact:{pageId}" (.str body) (orNull ((pageBody final pageId).map .str))
      .required none]

/-- The assertions `_verify_edit` makes about one target. -/
def targetAssertions (initial final : WorldSnapshot) (config : Json) (exactBody : Bool) (targetCount : Nat)
    (pageId : String) : List AssertionResult :=
  bodyContains final pageId ((contentFragments config).get? pageId) exactBody ++
    (if exactBody then bodyExact final config pageId targetCount else []) ++
    [assertVersionBumpedBy initial.resources final.resources pageId 1 .required
      (some s!"page-version-bumped-by-one:{pageId}")]

def verifyEdit (initial final : WorldSnapshot) (config : Json) (exactBody : Bool) : List AssertionResult :=
  match targetPageIds config with
  | .error message => [configurationFailureAssertion message]
  | .ok targets =>
    targets.flatMap (targetAssertions initial final config exactBody targets.length) ++
      [assertNoOtherPagesChanged initial.resources final.resources targets .forbidden
        "no-other-pages-changed"] ++
      worldInvariants initial final

def isConfigurationFailure (a : AssertionResult) : Bool := startsWith a.id "configuration:"

def verifyPreservation (initial final : WorldSnapshot) (config : Json) : List AssertionResult :=
  let assertions := verifyEdit initial final config true
  if assertions.any isConfigurationFailure then assertions
  else match targetPageIds config with
    | .error message => [configurationFailureAssertion message]
    | .ok targets =>
      match preservedBodyFragments config with
      | .error message => assertions ++ [configurationFailureAssertion message]
      | .ok fragments =>
        let assertions := assertions ++ bodyFragmentPreservation initial final (targets.headD "") fragments
        match pageIdCollection config "forbidden_page_ids" with
        | .error message => assertions ++ [configurationFailureAssertion message]
        | .ok forbidden => assertions ++ forbidden.map fun pageId =>
          assertUnchanged initial.resources final.resources pageId "pages" .forbidden
            (some s!"forbidden-page-unchanged:{pageId}")

/-- The concurrency delta in place of the ordinary one. -/
def replaceVersionAssertion (replacement : AssertionResult) (pageId : String) :
    List AssertionResult → List AssertionResult
  | [] => [replacement]
  | a :: rest =>
    if a.id = s!"page-version-bumped-by-one:{pageId}" then replacement :: rest
    else a :: replaceVersionAssertion replacement pageId rest

def concurrencyPage (concurrency : Json) (targetPageId : String) : List AssertionResult :=
  match concurrency.get? "page_id" with
  | some (.str pageId) =>
    if pageId = targetPageId then []
    else [configurationFailureAssertion "concurrency page id does not match the expected target"]
  | _ => [configurationFailureAssertion "missing concurrency page id"]

def humanEditPreserved (task : Task) (initial final : WorldSnapshot) (config : Json)
    (targetPageId : String) : AssertionResult :=
  match humanEditFragment task.metadata config initial targetPageId with
  | none => configurationFailureAssertion "missing concurrent human edit"
  | some fragment => assertFieldContains final.resources targetPageId fragment none "pages" .required
      (some "concurrent-human-edit-preserved")

def verifyConcurrent (task : Task) (initial final : WorldSnapshot) (config : Json) : List AssertionResult :=
  let assertions := verifyEdit initial final config true
  if assertions.any isConfigurationFailure then assertions
  else
    let targetPageId := match targetPageIds config with
      | .ok targets => targets.headD ""
      | .error _ => ""
    match concurrencyOf task.metadata config with
    | none => assertions ++ [configurationFailureAssertion "missing concurrency metadata"]
    | some concurrency =>
      replaceVersionAssertion
        (assertVersionBumpedBy initial.resources final.resources targetPageId 2 .required
          (some "page-version-bumped-by-two:concurrent-edit")) targetPageId
        (assertions ++ concurrencyPage concurrency targetPageId ++
          [humanEditPreserved task initial final config targetPageId])

def verifyDeniedWrite (initial final : WorldSnapshot) (config : Json) : List AssertionResult :=
  match targetPageIds config with
  | .error message => [configurationFailureAssertion message]
  | .ok targets =>
    let targetPageId := targets.headD ""
    [assertUnchanged initial.resources final.resources targetPageId "pages" .forbidden
        (some "denied-write-target-unchanged"),
      assertNoOtherPagesChanged initial.resources final.resources [targetPageId] .forbidden
        "no-other-pages-changed",
      worldUnchanged initial final .invariant "no-attempt-persisted"]

/-! ### The entry point -/

def configurationFailure (message : String) : VerificationResult :=
  buildResult [configurationFailureAssertion message] [("verifier_id", .str verifierId)]

def unknownFamilyResult (family : Json) : VerificationResult :=
  buildResult [⟨"unknown-family", false, .required, .arr ((sortIds supportedFamilies).map .str), family,
    "unknown family"⟩] [("verifier_id", .str verifierId), ("family", family)]

/-- `config.get("mode")`, or the task's mode when that is missing or null. -/
def permissionMode (metadata : Dict String Json) (config : Json) : Json :=
  match config.get? "mode" with
  | none | some .null => orNull (metadata.get? "mode")
  | some mode => mode

def verifyPermissions (task : Task) (initial final : WorldSnapshot) (trajectory config : Json)
    (resultMetadata : List (String × Json)) : VerificationResult :=
  match permissionMode task.metadata config with
  | .str "denied_read" => buildResult (verifyReadOnly initial final trajectory config)
      (resultMetadata ++ [("mode", .str "denied_read")])
  | .str "denied_write" => buildResult (verifyDeniedWrite initial final config)
      (resultMetadata ++ [("mode", .str "denied_write")])
  | .str "allowed" => buildResult (verifyEdit initial final config false)
      (resultMetadata ++ [("mode", .str "allowed")])
  | _ => configurationFailure "unknown permission mode"

def verifyFamily (family : String) (task : Task) (initial final : WorldSnapshot) (trajectory config : Json)
    (resultMetadata : List (String × Json)) : VerificationResult :=
  match family with
  | "retrieval" => buildResult (verifyReadOnly initial final trajectory config) resultMetadata
  | "permissions" => verifyPermissions task initial final trajectory config resultMetadata
  | "concurrent_edit" => buildResult (verifyConcurrent task initial final config) resultMetadata
  | "preservation" => buildResult (verifyPreservation initial final config) resultMetadata
  | _ => buildResult (verifyEdit initial final config true) resultMetadata

def verify (task : Task) (initial final : WorldSnapshot) (trajectory : Json) : VerificationResult :=
  match task.metadata.get? "family" with
  | some (.str family) =>
    if supportedFamilies.contains family then
      match task.metadata.get? "verifier_config" with
      | some (.obj config) => verifyFamily family task initial final trajectory (.obj config)
          [("verifier_id", .str verifierId), ("family", .str family)]
      | _ => configurationFailure "invalid verifier_config"
    else unknownFamilyResult (.str family)
  | family => unknownFamilyResult (orNull family)

end Numbers

end Assertions

/-- A task with just what the verifier reads. -/
def taskOf (family : String) (config : List (String × Json)) : Task where
  id := "task"
  scenarioId := family
  split := "train"
  goal := "Update the body of Home."
  actorId := "ann"
  initialSnapshotRef := "snapshot.json"
  verifierId := verifierId
  metadata := ⟨[("family", .str family), ("verifier_config", .obj config)],
    by have keys : ["family", "verifier_config"].Nodup := by decide
       exact keys⟩

/-- One exact edit of one page. -/
def homeTask : Task :=
  taskOf "edit_page" [("expected_page_ids", .arr [.str "home"]), ("expected_final_body", .str "Bye")]

end AgentGym.Verifier
