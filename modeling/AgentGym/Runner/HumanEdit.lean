import AgentGym.Runner.Tools

/-!
# The human edit of a concurrency task

The hook edits the page once, after the first read of it that names it by its id. Nothing
holds a write back until then: the agent's updates come after the edit only when those it
sends before are refused for their own reasons.
-/

namespace AgentGym.Runner

open AgentGym.Runtime Steps World

/-- A tool's name and its arguments. -/
abbrev ToolCall := String × Dict String Json

abbrev ServedCall := Transition ConfluenceStore Event Response

/-- The page an applied human edit changed. -/
def humanEditOf (t : ServedCall) : Option String :=
  match t.event, t.response with
  | .humanEdit edit, .edited _ => some edit.pageId
  | _, _ => none

/-- The page an accepted update of the agent changed. -/
def agentUpdateOf (t : ServedCall) : Option String :=
  match t.event, t.response with
  | .request _ (.updatePage pageId _ _), .page 200 _ => some pageId
  | _, _ => none

def humanEdits (served : World.History) : List String := served.filterMap humanEditOf

/-- The agent's updates of the page come after a human edit of it. -/
def EditedFirst (pageId : String) (served : World.History) : Prop :=
  ∀ before t after, served = before ++ t :: after → agentUpdateOf t = some pageId → pageId ∈ humanEdits before

theorem EditedFirst.append {pageId : String} {served : World.History} {t : ServedCall}
    (first : EditedFirst pageId served) (next : agentUpdateOf t = some pageId → pageId ∈ humanEdits served) :
    EditedFirst pageId (served ++ [t]) := by
  intro before u after split update
  rcases List.append_eq_append_iff.mp split with ⟨rest, rfl, same⟩ | ⟨rest, rfl, same⟩
  · cases rest with
    | nil =>
      obtain ⟨rfl, rfl⟩ := List.cons.inj same
      simpa using next update
    | cons u' rest => simp at same
  · cases rest with
    | nil =>
      obtain ⟨rfl, rfl⟩ := List.cons.inj same
      simpa using next update
    | cons u' rest =>
      obtain ⟨rfl, rfl⟩ := List.cons.inj same
      exact first before _ rest rfl update

/-! ### What one call does -/

section Calls

variable [PyText] {transport : Transport}

/-- The world after a call it answers. -/
def ProcessWorld.after (w : ProcessWorld) (e : Event) : ProcessWorld :=
  ⟨(handle w.store e).2, w.served ++ [Machine.transition handle w.store e]⟩

theorem requestTool_world (transport : Transport) (name description : String)
    (build : Dict String Json → Except String ApiCall) (url actorId : String) (args : Dict String Json) (w : ProcessWorld) :
    ((((requestTool transport name description build).fn url actorId args).outcome w).2 = w ∧
        ∀ actor apiCall, transport.header actorId = .ok actor → build args ≠ .ok apiCall) ∨
      ∃ actor apiCall, transport.header actorId = .ok actor ∧ build args = .ok apiCall ∧
        (((requestTool transport name description build).fn url actorId args).outcome w).2 =
          w.after (.request (some actor) apiCall) := by
  rw [requestTool]
  dsimp only
  rw [outcome_bind, outcome_lift]
  cases built : build args with
  | error e => exact Or.inl ⟨rfl, fun _ _ _ => nofun⟩
  | ok apiCall =>
    dsimp only
    rw [outcome_bind, outcome_lift]
    cases sent : transport.header actorId with
    | error e => exact Or.inl ⟨rfl, nofun⟩
    | ok actor => exact Or.inr ⟨actor, apiCall, rfl, rfl, rfl⟩

def NoUpdate (build : Dict String Json → Except String ApiCall) : Prop :=
  ∀ args pageId payload ifVersion, build args ≠ .ok (.updatePage pageId payload ifVersion)

omit [PyText] in
theorem searchPages_noUpdate : NoUpdate (searchPages transport) := by
  intro args pageId payload ifVersion
  rw [searchPages]
  cases bindArguments "search_pages" [] [("query", .null), ("limit", .int 20), ("offset", .int 0)] args with
  | error e => exact nofun
  | ok value =>
    intro built
    replace built := Except.ok.inj built
    split at built <;> cases built

omit [PyText] in
theorem getPath_noUpdate {path pageId : String} {payload : PageUpdateRequest} {ifVersion : Option String} :
    getPath transport path ≠ .ok (.updatePage pageId payload ifVersion) := by
  unfold getPath
  split <;> exact nofun

theorem getPage_noUpdate : NoUpdate (getPage transport) := by
  intro args pageId payload ifVersion
  rw [getPage]
  cases bindArguments "get_page" ["page_id"] [] args with
  | error e => exact nofun
  | ok value => exact getPath_noUpdate

theorem getPageVersions_noUpdate : NoUpdate (getPageVersions transport) := by
  intro args pageId payload ifVersion
  rw [getPageVersions]
  cases bindArguments "get_page_versions" ["page_id"] [] args with
  | error e => exact nofun
  | ok value => exact getPath_noUpdate

omit [PyText] in
theorem createPage_noUpdate : NoUpdate createPage := by
  intro args pageId payload ifVersion
  rw [createPage]
  cases bindArguments "create_page" ["page_id", "space_id", "title"] [("body", .str ""), ("owner_id", .null)] args with
  | error e => exact nofun
  | ok value =>
    intro built
    replace built := Except.ok.inj built
    dsimp only at built
    repeat' split at built
    all_goals cases built

theorem baseline_build {tool : RawTool ProcessWorld} (member : tool ∈ baselineTools transport) :
    ∃ name description build, tool = requestTool transport name description build ∧
      (name ≠ "update_page" ∧ NoUpdate build ∨ name = "update_page" ∧ build = updatePage transport) := by
  simp only [baselineTools, List.mem_cons, List.not_mem_nil, or_false] at member
  obtain rfl | rfl | rfl | rfl | rfl := member
  · exact ⟨_, _, _, rfl, Or.inl ⟨by decide, searchPages_noUpdate⟩⟩
  · exact ⟨_, _, _, rfl, Or.inl ⟨by decide, getPage_noUpdate⟩⟩
  · exact ⟨_, _, _, rfl, Or.inl ⟨by decide, getPageVersions_noUpdate⟩⟩
  · exact ⟨_, _, _, rfl, Or.inl ⟨by decide, createPage_noUpdate⟩⟩
  · exact ⟨_, _, _, rfl, Or.inr ⟨rfl, rfl⟩⟩

/-! ### The tool and the hook -/

/-- The call is an update the executor offers, and this is the request it sends. -/
def SendsUpdate (x : Executor ProcessWorld) (transport : Transport) (c : ToolCall) (header : String)
    (apiCall : ApiCall) : Prop :=
  c.1 = "update_page" ∧ (x.functions.get? c.1).isSome = true ∧ updatePage transport c.2 = .ok apiCall ∧
    transport.header x.actorId = .ok header

/-- What the tool of a call does: at most one request, an update exactly when the call sends one. -/
inductive ToolEffect (x : Executor ProcessWorld) (transport : Transport) (s : ExecutorState ProcessWorld) (c : ToolCall) :
    ExecutorState ProcessWorld → Prop where
  | quiet {s' : ExecutorState ProcessWorld} (unsent : ∀ header apiCall, ¬ SendsUpdate x transport c header apiCall)
      (world : s'.world = s.world) (fired : s'.fired = s.fired)
      (fault : s'.infrastructureError = s.infrastructureError) : ToolEffect x transport s c s'
  | asked {s' : ExecutorState ProcessWorld} {header : String} {apiCall : ApiCall}
      (sent : ∀ header' apiCall', SendsUpdate x transport c header' apiCall' → header' = header ∧ apiCall' = apiCall)
      (update : ∀ pageId payload ifVersion, apiCall = .updatePage pageId payload ifVersion →
        SendsUpdate x transport c header apiCall)
      (world : s'.world = s.world.after (.request (some header) apiCall)) (fired : s'.fired = s.fired)
      (fault : s'.infrastructureError = s.infrastructureError) : ToolEffect x transport s c s'

/-- What the hook does after it: nothing, the edit of the page, or a failed try of it. The edit is tried once, when it
is due. -/
inductive HookEffect (pageId : String) (due : Prop) (s : ExecutorState ProcessWorld) :
    ExecutorState ProcessWorld → Prop where
  | idle {s' : ExecutorState ProcessWorld} (silent : s.fired = true ∨ ¬ due) (world : s'.world = s.world)
      (fired : s'.fired = s.fired) (fault : s'.infrastructureError = s.infrastructureError) : HookEffect pageId due s s'
  | edited {s' : ExecutorState ProcessWorld} {edit : HumanEditRequest} {page : Page} (called : due)
      (named : edit.pageId = pageId) (applied : (handle s.world.store (.humanEdit edit)).1 = .edited page)
      (before : s.fired = false) (world : s'.world = s.world.after (.humanEdit edit)) (fired : s'.fired = true)
      (fault : s'.infrastructureError = s.infrastructureError) : HookEffect pageId due s s'
  | failed {s' : ExecutorState ProcessWorld} (called : due) (before : s.fired = false)
      (unedited : s'.world = s.world ∨ ∃ edit, s'.world = s.world.after (.humanEdit edit) ∧
        (handle s.world.store (.humanEdit edit)).1.isFailure = true) (fired : s'.fired = true)
      (fault : s'.infrastructureError ≠ none) : HookEffect pageId due s s'

theorem humanEdit_response (store : ConfluenceStore) (edit : HumanEditRequest) :
    (∃ page, (handle store (.humanEdit edit)).1 = .edited page) ∨
      (handle store (.humanEdit edit)).1.isFailure = true := by
  show (∃ page, (humanEdit store edit).1 = .edited page) ∨ (humanEdit store edit).1.isFailure = true
  unfold humanEdit
  split
  · exact Or.inr rfl
  · split
    · exact Or.inr rfl
    · split
      · exact Or.inl ⟨_, rfl⟩
      · exact Or.inr rfl
      · exact Or.inr rfl

omit [PyText] in
theorem responseJson_failure (transport : Transport) {r : Response} (h : r.isFailure = true) :
    ∃ e, responseJson transport r = .error e := by
  cases r <;> first | exact ⟨_, rfl⟩ | cases h

variable {grants : List String} {baseUrl : String} {concurrency : Option Json}

theorem fire_outcome (transport : Transport) (grants : List String) (baseUrl pageId actor body : String)
    (s : ExecutorState ProcessWorld) :
    let ran := (fire (processWorld transport grants baseUrl) pageId actor body).outcome s
    ran.2.fired = true ∧ ran.2.infrastructureError = s.infrastructureError ∧
      ((∃ edit page, edit.pageId = pageId ∧ (handle s.world.store (.humanEdit edit)).1 = .edited page ∧
          ran.2.world = s.world.after (.humanEdit edit) ∧ ran.1 = .ok ()) ∨
        (ran.2.world = s.world ∨ ∃ edit, ran.2.world = s.world.after (.humanEdit edit) ∧
          (handle s.world.store (.humanEdit edit)).1.isFailure = true) ∧ ∃ e, ran.1 = .error e) := by
  dsimp only
  rw [fire, outcome_bind, outcome_modify]
  dsimp only
  rw [report, outcome_bind, outcome_modify]
  dsimp only [processWorld]
  rw [outcome_bind, outcome_mapError, onWorld, outcome_zoom]
  by_cases nonempty : pageId ≠ "" ∧ actor ≠ ""
  · let edit : HumanEditRequest := ⟨pageId, actor, body, nonempty.1, nonempty.2⟩
    have sent : (controlEdit transport pageId actor body).outcome s.world =
        ((responseJson transport (handle s.world.store (.humanEdit edit)).1).mapError
          (fun e => s!"process world control request failed: {e}"), s.world.after (.humanEdit edit)) := by
      rw [controlEdit, dif_pos nonempty]
      rfl
    rw [sent]
    obtain ⟨page, applied⟩ | failure := humanEdit_response s.world.store edit
    · rw [applied]
      exact ⟨rfl, rfl, Or.inl ⟨edit, page, rfl, applied, rfl, rfl⟩⟩
    · obtain ⟨e, raised⟩ := responseJson_failure transport failure
      rw [raised]
      exact ⟨rfl, rfl, Or.inr ⟨Or.inr ⟨edit, rfl, failure⟩, _, rfl⟩⟩
  · rw [controlEdit, dif_neg nonempty]
    exact ⟨rfl, rfl, Or.inr ⟨Or.inl rfl, _, rfl⟩⟩

omit [PyText] in
theorem plannedEdit_page {pageId actor body : String} (h : plannedEdit concurrency = some (pageId, actor, body)) :
    concurrency.bind (·.get? "page_id") = some (.str pageId) := by
  unfold plannedEdit at h
  split at h
  · split at h
    · rename_i found _
      split at h
      · obtain ⟨rfl, _⟩ := Prod.mk.inj (Option.some.inj h)
        exact found
      · cases h
    · cases h
  · cases h

/-- The task's edit is complete, and a call of `get_page` names its page. -/
def EditDue (concurrency : Option Json) (pageId : String) (c : ToolCall) : Prop :=
  (plannedEdit concurrency).isSome = true ∧ c.1 = "get_page" ∧ c.2.get? "page_id" = some (.str pageId)

omit [PyText] in
theorem isText_iff {v : Option Json} {text : String} : isText v text = true ↔ v = some (.str text) := by
  unfold isText
  split <;> simp_all

theorem hooked_effect {x : Executor ProcessWorld} {pageId : String}
    (hook : x.afterSuccess = concurrencyHook (processWorld transport grants baseUrl) concurrency)
    (named : concurrency.bind (·.get? "page_id") = some (.str pageId)) (c : ToolCall) {result : ToolResult}
    (succeeded : result.error = false) (s : ExecutorState ProcessWorld) :
    HookEffect pageId (EditDue concurrency pageId c) s ((hooked x c.1 c.2 result).outcome s).2 ∧
      ∃ r, ((hooked x c.1 c.2 result).outcome s).1 = .ok r ∧
        (((hooked x c.1 c.2 result).outcome s).2.infrastructureError = none → r.error = false) := by
  rw [hooked, outcome_bind, outcome_attempt, hook, concurrencyHook, outcome_bind, outcome_get]
  dsimp only
  cases planned : plannedEdit concurrency with
  | none =>
    refine ⟨.idle (Or.inr fun due => ?_) rfl rfl rfl, _, rfl, fun _ => succeeded⟩
    have complete := due.1
    rw [planned] at complete
    cases complete
  | some plan =>
    obtain ⟨page, actor, body⟩ := plan
    obtain rfl : page = pageId := by
      have same := (plannedEdit_page planned).symm.trans named
      exact Json.str.inj (Option.some.inj same)
    dsimp only
    by_cases idle : (s.fired || c.1 != "get_page" || result.error || !isText (c.2.get? "page_id") page) = true
    · rw [if_pos idle]
      refine ⟨.idle ?_ rfl rfl rfl, _, rfl, fun _ => succeeded⟩
      simp only [succeeded, Bool.or_false, Bool.or_eq_true, bne_iff_ne, Bool.not_eq_true', ← Bool.not_eq_true,
        isText_iff] at idle
      obtain (fired | other) | other := idle
      · exact Or.inl fired
      · exact Or.inr fun due => other due.2.1
      · exact Or.inr fun due => other due.2.2
    · rw [if_neg idle]
      simp only [succeeded, Bool.or_false, Bool.or_eq_true, bne_iff_ne, Bool.not_eq_true', ← Bool.not_eq_true,
        isText_iff, not_or, not_not] at idle
      obtain ⟨⟨before, name⟩, arguments⟩ := idle
      have before : s.fired = false := Bool.not_eq_true _ ▸ before
      have due : EditDue concurrency page c := ⟨by rw [planned]; rfl, name, arguments⟩
      obtain ⟨fired, fault, ⟨edit, p, rfl, applied, world, ok⟩ | ⟨unedited, e, raised⟩⟩ :=
        fire_outcome transport grants baseUrl page actor body s
      · rw [ok]
        exact ⟨.edited due rfl applied before world fired fault, _, rfl, fun _ => succeeded⟩
      · rw [raised]
        exact ⟨.failed due before unedited fired (Option.some_ne_none e), _, rfl, nofun⟩

theorem HookEffect.report {pageId : String} {due : Prop} {s s' : ExecutorState ProcessWorld}
    (h : HookEffect pageId due s s') (emitted : List WorldEvent) : HookEffect pageId due s { s' with emitted } := by
  cases h with
  | idle silent world fired fault => exact .idle silent world fired fault
  | edited called named applied before world fired fault => exact .edited called named applied before world fired fault
  | failed called before unedited fired fault => exact .failed called before unedited fired fault

theorem reported_effect {x : Executor ProcessWorld} {pageId : String}
    (hook : x.afterSuccess = concurrencyHook (processWorld transport grants baseUrl) concurrency)
    (named : concurrency.bind (·.get? "page_id") = some (.str pageId)) (c : ToolCall) (result : ToolResult)
    (succeeded : result.error = false) (s : ExecutorState ProcessWorld) :
    let ran := (do
      let result ← hooked x c.1 c.2 result
      report false "world" [("tool", .str c.1), ("error", .bool result.error)]
      pure result : Exec ProcessWorld ToolResult).outcome s
    HookEffect pageId (EditDue concurrency pageId c) s ran.2 ∧
      ∃ r, ran.1 = .ok r ∧ (ran.2.infrastructureError = none → r.error = false) := by
  obtain ⟨effect, r, ok, clean⟩ := hooked_effect hook named c succeeded s
  dsimp only
  rw [outcome_bind]
  generalize (hooked x c.1 c.2 result).outcome s = ran at effect ok clean ⊢
  obtain ⟨answer, s'⟩ := ran
  obtain rfl : answer = .ok r := ok
  exact ⟨effect.report _, r, rfl, clean⟩

omit [PyText] in
theorem buildExecutor_function {rawTools : List (RawTool ProcessWorld)} {declared granted : List String}
    {worldUrl actorId name : String} {afterSuccess : String → Dict String Json → ToolResult → Exec ProcessWorld Unit}
    {function : String → String → Dict String Json → Steps String ProcessWorld Json}
    (found : (buildExecutor rawTools declared granted worldUrl actorId afterSuccess).functions.get? name =
      some function) : ∃ tool ∈ rawTools, tool.description.name = name ∧ tool.fn = function := by
  obtain absent | listed := Dict.get?_update_eq_some found
  · cases absent
  · obtain ⟨tool, kept, same⟩ := List.mem_map.mp listed
    obtain ⟨rfl, rfl⟩ := Prod.mk.inj same
    exact ⟨tool, List.mem_of_mem_filter kept, rfl, rfl⟩

/-- The executor of the baseline tools over the world. -/
def baselineExecutor (transport : Transport) (declared grants : List String) (baseUrl actorId : String)
    (concurrency : Option Json) : Executor ProcessWorld :=
  buildExecutor (baselineTools transport) declared grants baseUrl actorId
    (concurrencyHook (processWorld transport grants baseUrl) concurrency)

/-- One call, as the agent makes it. -/
def callStep (x : Executor ProcessWorld) (s : ExecutorState ProcessWorld) (c : ToolCall) :
    Except String ToolResult × ExecutorState ProcessWorld :=
  (x.execute c.1 c.2).outcome { s with emitted := [] }

abbrev ExecutedCall := Transition (ExecutorState ProcessWorld) ToolCall (Except String ToolResult)

/-- A successful `get_page` that names the page, in a task whose edit is complete. -/
def Reads (concurrency : Option Json) (pageId : String) (t : ExecutedCall) : Prop :=
  EditDue concurrency pageId t.event ∧ ∃ result, t.response = .ok result ∧ result.error = false

/-- The effect of a tool that asked for at most what it builds. -/
theorem tool_effect {x : Executor ProcessWorld} {c : ToolCall} {build : Dict String Json → Except String ApiCall}
    {w : ProcessWorld} (kind : c.1 ≠ "update_page" ∧ NoUpdate build ∨ c.1 = "update_page" ∧ build = updatePage transport)
    (offered : (x.functions.get? c.1).isSome = true)
    (asked : (w = s.world ∧ ∀ header apiCall, transport.header x.actorId = .ok header → build c.2 ≠ .ok apiCall) ∨
      ∃ header apiCall, transport.header x.actorId = .ok header ∧ build c.2 = .ok apiCall ∧
        w = s.world.after (.request (some header) apiCall)) (emitted : List WorldEvent) :
    ToolEffect x transport s c { s with world := w, emitted } := by
  obtain ⟨quiet, unsent⟩ | ⟨header, apiCall, sent, built, world⟩ := asked
  · refine .quiet ?_ quiet rfl rfl
    rintro header apiCall ⟨name, -, update, sent⟩
    obtain ⟨other, -⟩ | ⟨-, rfl⟩ := kind
    · exact other name
    · exact unsent header apiCall sent update
  · refine .asked ?_ ?_ world rfl rfl
    · rintro header' apiCall' ⟨name, -, update, sent'⟩
      obtain ⟨other, -⟩ | ⟨-, rfl⟩ := kind
      · exact absurd name other
      · exact ⟨Except.ok.inj (sent'.symm.trans sent), Except.ok.inj (update.symm.trans built)⟩
    · rintro pageId payload ifVersion rfl
      obtain ⟨-, none⟩ | ⟨name, rfl⟩ := kind
      · exact absurd built (none _ _ _ _)
      · exact ⟨name, offered, built, sent⟩

theorem callStep_effect (transport : Transport) (declared grants : List String) (baseUrl actorId : String)
    {pageId : String} (named : concurrency.bind (·.get? "page_id") = some (.str pageId))
    (s : ExecutorState ProcessWorld) (c : ToolCall) :
    let x := baselineExecutor transport declared grants baseUrl actorId concurrency
    ∃ s₁ due, ToolEffect x transport s c s₁ ∧ HookEffect pageId due s₁ (callStep x s c).2 ∧
      ((callStep x s c).2.infrastructureError = none →
        (due ↔ Reads concurrency pageId (Machine.transition (callStep x) s c))) := by
  intro x
  unfold Reads Machine.transition callStep Executor.execute
  dsimp only
  split
  · rename_i unknown
    refine ⟨s, False, .quiet ?_ rfl rfl rfl, .idle (Or.inr id) rfl rfl rfl, fun _ => ?_⟩
    · rintro header apiCall ⟨-, known, -⟩
      rw [unknown] at known
      cases known
    · refine ⟨False.elim, ?_⟩
      rintro ⟨-, result, answered, succeeded⟩
      obtain rfl := Except.ok.inj answered
      cases succeeded
  · rename_i function found
    obtain ⟨tool, member, same, rfl⟩ := buildExecutor_function found
    obtain ⟨name, description, build, rfl, kind⟩ := baseline_build member
    obtain rfl : name = c.1 := same
    have asked := requestTool_world transport c.1 description build (rstripSlash baseUrl) actorId c.2 s.world
    rw [report, outcome_bind, outcome_modify]
    dsimp only
    rw [outcome_bind, outcome_attempt, onWorld, outcome_zoom]
    dsimp only [x, baselineExecutor, buildExecutor]
    generalize ((requestTool transport c.1 description build).fn (rstripSlash baseUrl) actorId c.2).outcome s.world =
      ran at asked ⊢
    obtain ⟨answer, w⟩ := ran
    have effect : ∀ emitted, ToolEffect x transport s c { s with world := w, emitted } := fun emitted =>
      tool_effect kind (by rw [found]; rfl) asked emitted
    cases answer with
    | error message =>
      refine ⟨_, False, effect _, .idle (Or.inr id) rfl rfl rfl, fun _ => ⟨False.elim, ?_⟩⟩
      rintro ⟨-, result, answered, succeeded⟩
      obtain rfl := Except.ok.inj answered
      cases succeeded
    | ok value =>
      obtain ⟨hook, r, ok, clean⟩ := reported_effect
        (x := baselineExecutor transport declared grants baseUrl actorId concurrency) rfl named c
        ⟨toolPayload value, false, ""⟩ rfl
        { s with world := w, emitted := [⟨true, "world", [("tool", .str c.1), ("arguments", .ofDict c.2)]⟩] }
      exact ⟨_, _, effect _, hook, fun none => ⟨fun due => ⟨due, r, ok, clean none⟩, And.left⟩⟩

/-! ### One edit -/

/-- The hook has tried the edit at most once, and done it if no fault is noted. -/
structure EditedOnce (pageId : String) (s : ExecutorState ProcessWorld) : Prop where
  unfired : s.fired = false → humanEdits s.world.served = []
  once : (humanEdits s.world.served).length ≤ 1
  edited : s.fired = true → s.infrastructureError = none → pageId ∈ humanEdits s.world.served

theorem humanEdits_request (w : ProcessWorld) (actor : Option String) (apiCall : ApiCall) :
    humanEdits (w.after (.request actor apiCall)).served = humanEdits w.served := by
  simp [humanEdits, ProcessWorld.after, humanEditOf, Machine.transition]

theorem humanEdits_edited {w : ProcessWorld} {edit : HumanEditRequest} {page : Page}
    (applied : (handle w.store (.humanEdit edit)).1 = .edited page) :
    humanEdits (w.after (.humanEdit edit)).served = humanEdits w.served ++ [edit.pageId] := by
  simp [humanEdits, ProcessWorld.after, humanEditOf, Machine.transition, applied]

theorem humanEdits_failure {w : ProcessWorld} {edit : HumanEditRequest}
    (failure : (handle w.store (.humanEdit edit)).1.isFailure = true) :
    humanEdits (w.after (.humanEdit edit)).served = humanEdits w.served := by
  have unapplied : humanEditOf (Machine.transition handle w.store (.humanEdit edit)) = none := by
    unfold humanEditOf Machine.transition
    dsimp only
    split
    · simp_all [Response.isFailure]
    · rfl
  simp [humanEdits, ProcessWorld.after, unapplied]

variable {x : Executor ProcessWorld} {declared : List String} {actorId pageId : String} {due : Prop}
  {s s₁ s' : ExecutorState ProcessWorld} {c : ToolCall}

theorem ToolEffect.fired (effect : ToolEffect x transport s c s₁) :
    s₁.fired = s.fired ∧ s₁.infrastructureError = s.infrastructureError ∧
      humanEdits s₁.world.served = humanEdits s.world.served := by
  cases effect with
  | quiet unsent world fired fault => exact ⟨fired, fault, by rw [world]⟩
  | asked sent update world fired fault => exact ⟨fired, fault, by rw [world, humanEdits_request]⟩

theorem EditedOnce.tool (h : EditedOnce pageId s) (effect : ToolEffect x transport s c s₁) : EditedOnce pageId s₁ := by
  obtain ⟨fired, fault, edits⟩ := effect.fired
  constructor
  · rw [fired, edits]
    exact h.unfired
  · rw [edits]
    exact h.once
  · rw [fired, fault, edits]
    exact h.edited

theorem EditedOnce.hook (h : EditedOnce pageId s) (effect : HookEffect pageId due s s') : EditedOnce pageId s' := by
  cases effect with
  | idle silent world fired fault =>
    constructor
    · rw [fired, world]
      exact h.unfired
    · rw [world]
      exact h.once
    · rw [fired, fault, world]
      exact h.edited
  | edited called named applied before world fired fault =>
    have edits : humanEdits s'.world.served = [pageId] := by
      rw [world, humanEdits_edited applied, h.unfired before, named, List.nil_append]
    exact ⟨by simp [fired], by simp [edits], by simp [edits]⟩
  | failed called before unedited fired fault =>
    have edits : humanEdits s'.world.served = [] := by
      obtain world | ⟨edit, world, failure⟩ := unedited
      · rw [world, h.unfired before]
      · rw [world, humanEdits_failure failure, h.unfired before]
    exact ⟨by simp [fired], by simp [edits], fun _ none => absurd none fault⟩

/-- A hook that leaves no fault has found none, and has fired when the edit was due. -/
theorem HookEffect.clean (effect : HookEffect pageId due s s') (clean : s'.infrastructureError = none) :
    s.infrastructureError = none ∧ (s'.fired = true ↔ s.fired = true ∨ due) := by
  cases effect with
  | idle silent world fired fault =>
    refine ⟨fault.symm.trans clean, ?_⟩
    rw [fired]
    refine ⟨Or.inl, ?_⟩
    rintro (already | called)
    · exact already
    · exact silent.resolve_right (not_not_intro called)
  | edited called named applied before world fired fault =>
    exact ⟨fault.symm.trans clean, iff_of_true fired (Or.inr called)⟩
  | failed called before unedited fired fault => exact absurd clean fault

/-! ### The edit first -/

/-- An update the store accepts is of the current version, by someone who may write. -/
theorem updatePage_accepted {store : ConfluenceStore} {actor : ActorIdentity} {payload : PageUpdateRequest}
    {ifVersion : Option String} {page : Page}
    (ok : (World.updatePage store actor pageId payload ifVersion).1 = .page 200 page) :
    ∃ current n, store.pages.get? pageId = some current ∧ canWritePage store current actor = .ok true ∧
      parseIfVersion ifVersion = .ok n ∧ currentVersion current = .ok n := by
  unfold World.updatePage at ok
  split at ok
  · cases ok
  · rename_i current found
    split at ok
    · cases ok
    · unfold forbiddenUpdate at ok
      split at ok <;> cases ok
    · rename_i writes
      split at ok
      · rename_i r bad
        have failure := parseIfVersion_error bad
        rw [show r = .page 200 page from ok] at failure
        cases failure
      · rename_i n sent
        split at ok
        · cases ok
        · rename_i version known
          split at ok
          · cases ok
          · rename_i same
            obtain rfl := not_not.mp same
            exact ⟨current, n, found, writes, sent, known⟩

theorem request_accepted {store : ConfluenceStore} {header : Option String} {payload : PageUpdateRequest}
    {ifVersion : Option String} {page : Page}
    (ok : (handle store (.request header (.updatePage pageId payload ifVersion))).1 = .page 200 page) :
    ∃ actor, resolveActor store header = .ok actor ∧
      (World.updatePage store actor pageId payload ifVersion).1 = .page 200 page := by
  change (request store header (.updatePage pageId payload ifVersion)).1 = _ at ok
  unfold request at ok
  dsimp only at ok
  split at ok
  · rename_i r unresolved
    have failure := resolveActor_error unresolved
    rw [show r = .page 200 page from ok] at failure
    cases failure
  · rename_i actor resolved
    exact ⟨actor, resolved, ok⟩

/-- The call sends an update of the page that the API does not refuse in this state: its actor may write the page, and
its version is the current one. -/
def WritesPage (x : Executor ProcessWorld) (transport : Transport) (pageId : String) (s : ExecutorState ProcessWorld)
    (c : ToolCall) : Prop :=
  ∃ header payload ifVersion actor current n, SendsUpdate x transport c header (.updatePage pageId payload ifVersion) ∧
    resolveActor s.world.store (some header) = .ok actor ∧ s.world.store.pages.get? pageId = some current ∧
    canWritePage s.world.store current actor = .ok true ∧ parseIfVersion ifVersion = .ok n ∧
    currentVersion current = .ok n

theorem editedFirst_tool (h : EditedOnce pageId s) (held : WritesPage x transport pageId s c → s.fired = true)
    (clean : s.infrastructureError = none) (first : EditedFirst pageId s.world.served)
    (effect : ToolEffect x transport s c s₁) : EditedFirst pageId s₁.world.served := by
  cases effect with
  | quiet unsent world fired fault =>
    rw [world]
    exact first
  | asked sent update world fired fault =>
    rename_i header apiCall
    rw [world]
    refine first.append fun updated => ?_
    unfold agentUpdateOf Machine.transition at updated
    dsimp only at updated
    split at updated
    · rename_i page payload ifVersion shown event accepted
      obtain rfl := Option.some.inj updated
      obtain ⟨rfl, rfl⟩ := Event.request.inj event
      obtain ⟨actor, resolved, ok⟩ := request_accepted accepted
      obtain ⟨current, n, found, writes, parsed, known⟩ := updatePage_accepted ok
      exact h.edited (held ⟨header, payload, ifVersion, actor, current, n, update _ _ _ rfl, resolved, found, writes,
        parsed, known⟩) clean
    · cases updated

theorem editedFirst_hook (first : EditedFirst pageId s.world.served) (effect : HookEffect pageId due s s') :
    EditedFirst pageId s'.world.served := by
  have kept : ∀ edit, EditedFirst pageId (s.world.after (.humanEdit edit)).served := fun edit =>
    first.append nofun
  cases effect with
  | idle silent world fired fault =>
    rw [world]
    exact first
  | edited called named applied before world fired fault =>
    rw [world]
    exact kept _
  | failed called before unedited fired fault =>
    obtain world | ⟨edit, world, failure⟩ := unedited
    · rw [world]
      exact first
    · rw [world]
      exact kept edit

/-! ### What the world has served -/

/-- The calls served stay, and so do pages that are valid and filed under their own ids. -/
structure Grown (w w' : ProcessWorld) : Prop where
  served : w.served <+: w'.served
  sound : w.store.Valid ∧ w.store.Keyed → w'.store.Valid ∧ w'.store.Keyed

omit [PyText] in
theorem Grown.refl (w : ProcessWorld) : Grown w w := ⟨List.prefix_refl _, id⟩

omit [PyText] in
theorem Grown.trans {a b c : ProcessWorld} (first : Grown a b) (later : Grown b c) : Grown a c :=
  ⟨first.served.trans later.served, fun sound => later.sound (first.sound sound)⟩

theorem grown_after (w : ProcessWorld) (e : Event) : Grown w (w.after e) :=
  ⟨List.prefix_append _ _, fun sound => handle_valid sound.1 sound.2 e⟩

theorem ToolEffect.grown (effect : ToolEffect x transport s c s₁) : Grown s.world s₁.world := by
  cases effect with
  | quiet unsent world fired fault =>
    rw [world]
    exact .refl _
  | asked sent update world fired fault =>
    rw [world]
    exact grown_after _ _

theorem HookEffect.grown (effect : HookEffect pageId due s s') : Grown s.world s'.world := by
  cases effect with
  | idle silent world fired fault =>
    rw [world]
    exact .refl _
  | edited called named applied before world fired fault =>
    rw [world]
    exact grown_after _ _
  | failed called before unedited fired fault =>
    obtain world | ⟨edit, world, failure⟩ := unedited
    · rw [world]
      exact .refl _
    · rw [world]
      exact grown_after _ _

/-- An update that is not refused is accepted, and served. -/
theorem WritesPage.served (writes : WritesPage x transport pageId s c) (effect : ToolEffect x transport s c s₁)
    (valid : s.world.store.Valid) (keyed : s.world.store.Keyed) :
    ∃ t, s₁.world.served = s.world.served ++ [t] ∧ agentUpdateOf t = some pageId := by
  obtain ⟨header, payload, ifVersion, actor, current, n, sends, resolved, found, allowed, parsed, known⟩ := writes
  obtain ⟨p, rfl⟩ := valid.pages found
  obtain rfl := ConfluenceStore.keyed_page keyed found
  rw [currentVersion_page] at known
  obtain rfl := Except.ok.inj known
  cases effect with
  | quiet unsent world fired fault => exact absurd sends (unsent _ _)
  | asked sent update world fired fault =>
    obtain ⟨rfl, rfl⟩ := sent _ _ sends
    refine ⟨_, by rw [world]; rfl, ?_⟩
    have answer : (handle s.world.store (.request (some header) (.updatePage p.id payload ifVersion))).1 =
        .page 200 (p.changed payload.title payload.body) := by
      simp [handle, request, resolved, call, World.updatePage, found, allowed, parsed, currentVersion_page,
        ConfluenceStore.updatePage_payload payload found]
    unfold agentUpdateOf Machine.transition
    rw [answer]
    rfl

/-! ### Runs -/

/-- The world at rest, before the first call. -/
def fresh (store : ConfluenceStore) : ExecutorState ProcessWorld := ⟨⟨store, []⟩, false, none, []⟩

omit [PyText] in
theorem editedOnce_fresh (store : ConfluenceStore) : EditedOnce pageId (fresh store) :=
  ⟨fun _ => rfl, Nat.zero_le 1, nofun⟩

/-- Every update of the page that is not refused comes after a successful `get_page` that names the page. -/
def ReadFirst (x : Executor ProcessWorld) (transport : Transport) (concurrency : Option Json) (pageId : String)
    (run : List ExecutedCall) : Prop :=
  ∀ before t after, run = before ++ t :: after → WritesPage x transport pageId t.before t.event →
    ∃ r ∈ before, Reads concurrency pageId r

section Runs

variable (named : concurrency.bind (·.get? "page_id") = some (.str pageId))
include named

theorem editedOnce_step (h : EditedOnce pageId s) :
    EditedOnce pageId (callStep (baselineExecutor transport declared grants baseUrl actorId concurrency) s c).2 := by
  obtain ⟨s₁, due, tool, hook, -⟩ := callStep_effect transport declared grants baseUrl actorId named s c
  exact (h.tool tool).hook hook

/-- Without a fault, a call fires the hook exactly when it reads the page. -/
theorem fired_step
    (clean : (callStep (baselineExecutor transport declared grants baseUrl actorId concurrency) s c).2.infrastructureError =
      none) :
    let step := callStep (baselineExecutor transport declared grants baseUrl actorId concurrency)
    s.infrastructureError = none ∧
      ((step s c).2.fired = true ↔ s.fired = true ∨ Reads concurrency pageId (Machine.transition step s c)) := by
  obtain ⟨s₁, due, tool, hook, reads⟩ := callStep_effect transport declared grants baseUrl actorId named s c
  obtain ⟨fired, fault, -⟩ := tool.fired
  obtain ⟨before, effect⟩ := hook.clean clean
  exact ⟨fault.symm.trans before, by rw [effect, fired, reads clean]⟩

/-- Without a fault, a run has fired the hook exactly when it has read the page. -/
theorem fired_iff {calls : List ToolCall} :
    let step := callStep (baselineExecutor transport declared grants baseUrl actorId concurrency)
    (Machine.final step s calls).infrastructureError = none →
      s.infrastructureError = none ∧
        ((Machine.final step s calls).fired = true ↔
          s.fired = true ∨ ∃ t ∈ Machine.trace step s calls, Reads concurrency pageId t) := by
  intro step clean
  induction calls generalizing s with
  | nil => exact ⟨clean, by simp [Machine.final, Machine.trace]⟩
  | cons c calls ih =>
    obtain ⟨after, later⟩ := ih clean
    obtain ⟨before, now⟩ := fired_step named after
    refine ⟨before, ?_⟩
    rw [Machine.final, later, now, Machine.trace, or_assoc]
    simp only [List.mem_cons, exists_eq_or_imp]
    rfl

/-- The edit comes first after a call that waits for it, unless a fault was noted. -/
theorem editedFirst_step
    (held : WritesPage (baselineExecutor transport declared grants baseUrl actorId concurrency) transport pageId s c →
      s.fired = true)
    (h : EditedOnce pageId s) (first : s.infrastructureError = none → EditedFirst pageId s.world.served) :
    let s' := (callStep (baselineExecutor transport declared grants baseUrl actorId concurrency) s c).2
    s'.infrastructureError = none → EditedFirst pageId s'.world.served := by
  intro s' clean
  obtain ⟨s₁, due, tool, hook, -⟩ := callStep_effect transport declared grants baseUrl actorId named s c
  have before := tool.fired.2.1.symm.trans (hook.clean clean).1
  exact editedFirst_hook (editedFirst_tool h held before (first before) tool) hook

theorem final_grown {calls : List ToolCall} :
    Grown s.world
      (Machine.final (callStep (baselineExecutor transport declared grants baseUrl actorId concurrency)) s calls).world := by
  refine Machine.le_final (R := fun s s' : ExecutorState ProcessWorld => Grown s.world s'.world)
    (fun _ _ (_ : True) => trivial) (fun _ => .refl _) Grown.trans ?_ trivial calls
  intro s c _
  obtain ⟨s₁, due, tool, hook, -⟩ := callStep_effect transport declared grants baseUrl actorId named s c
  exact tool.grown.trans hook.grown

section Whole

variable {store : ConfluenceStore} {calls : List ToolCall}

theorem editedOnce_final (store : ConfluenceStore) (calls : List ToolCall) : EditedOnce pageId
    (Machine.final (callStep (baselineExecutor transport declared grants baseUrl actorId concurrency)) (fresh store) calls) :=
  Machine.final_inv (fun _ _ h => editedOnce_step named h) (editedOnce_fresh store) calls

theorem fired_final
    (clean : (Machine.final (callStep (baselineExecutor transport declared grants baseUrl actorId concurrency))
      (fresh store) calls).infrastructureError = none) :
    let step := callStep (baselineExecutor transport declared grants baseUrl actorId concurrency)
    (Machine.final step (fresh store) calls).fired = true ↔
      ∃ t ∈ Machine.trace step (fresh store) calls, Reads concurrency pageId t :=
  (fired_iff named clean).2.trans (or_iff_right Bool.false_ne_true)

/-- A call of a run without a fault finds the hook fired exactly when the page was read before it, and the run goes on
from what it leaves. -/
theorem call_found
    (clean : (Machine.final (callStep (baselineExecutor transport declared grants baseUrl actorId concurrency))
      (fresh store) calls).infrastructureError = none) {before after : List ExecutedCall} {t : ExecutedCall}
    (split : Machine.trace (callStep (baselineExecutor transport declared grants baseUrl actorId concurrency)) (fresh store)
      calls = before ++ t :: after) :
    let step := callStep (baselineExecutor transport declared grants baseUrl actorId concurrency)
    (t.before.fired = true ↔ ∃ r ∈ before, Reads concurrency pageId r) ∧ EditedOnce pageId t.before ∧
      Grown (fresh store).world t.before.world ∧ t.after = (step t.before t.event).2 ∧
      Grown t.after.world (Machine.final step (fresh store) calls).world := by
  intro step
  obtain ⟨calls₁, calls₂, same, rfl, here⟩ := Machine.trace_split split
  have found : t.before = Machine.final step (fresh store) calls₁ := by rw [here]; rfl
  have after : t.after = (step t.before t.event).2 := by rw [here]; rfl
  have goesOn : Machine.final step (fresh store) calls = Machine.final step t.before (t.event :: calls₂) := by
    rw [same, Machine.final_append, found]
  have quiet : (Machine.final step (fresh store) calls₁).infrastructureError = none := by
    rw [← found]
    exact (fired_iff named (goesOn ▸ clean)).1
  rw [goesOn, found]
  refine ⟨fired_final named quiet, editedOnce_final named store calls₁, final_grown named, found ▸ after, ?_⟩
  show Grown t.after.world (Machine.final step (step (Machine.final step (fresh store) calls₁) t.event).2 calls₂).world
  rw [← found, ← after]
  exact final_grown named

/-- Updates that wait for a read come after the edit. -/
theorem editedFirst_of_readFirst
    (clean : (Machine.final (callStep (baselineExecutor transport declared grants baseUrl actorId concurrency))
      (fresh store) calls).infrastructureError = none) :
    let x := baselineExecutor transport declared grants baseUrl actorId concurrency
    ReadFirst x transport concurrency pageId (Machine.trace (callStep x) (fresh store) calls) →
      EditedFirst pageId (Machine.final (callStep x) (fresh store) calls).world.served := by
  intro x reads
  have start : EditedFirst pageId (fresh store).world.served := by
    intro before t after split
    simp [fresh] at split
  have kept : ∀ s c, (WritesPage x transport pageId s c → s.fired = true) →
      (EditedOnce pageId s ∧ (s.infrastructureError = none → EditedFirst pageId s.world.served)) →
      EditedOnce pageId (callStep x s c).2 ∧
        ((callStep x s c).2.infrastructureError = none → EditedFirst pageId (callStep x s c).2.world.served) :=
    fun s c held h => ⟨editedOnce_step named h.1, editedFirst_step named held h.1 h.2⟩
  have meets : ∀ t ∈ Machine.trace (callStep x) (fresh store) calls,
      WritesPage x transport pageId t.before t.event → t.before.fired = true := by
    intro t member writes
    obtain ⟨before, after, split⟩ := List.append_of_mem member
    exact (call_found named clean split).1.mpr (reads before t after split writes)
  exact (Machine.final_inv_of kept ⟨editedOnce_fresh store, fun _ => start⟩ meets).2 clean

/-- An update that is not refused is accepted, so before a read it comes before the edit. -/
theorem readFirst_of_editedFirst (valid : store.Valid) (keyed : store.Keyed)
    (clean : (Machine.final (callStep (baselineExecutor transport declared grants baseUrl actorId concurrency))
      (fresh store) calls).infrastructureError = none) :
    let x := baselineExecutor transport declared grants baseUrl actorId concurrency
    EditedFirst pageId (Machine.final (callStep x) (fresh store) calls).world.served →
      ReadFirst x transport concurrency pageId (Machine.trace (callStep x) (fresh store) calls) := by
  intro x first before t after split writes
  obtain ⟨fired, unedited, reached, left, grown⟩ := call_found named clean split
  rw [← fired]
  by_contra unfired
  have sound := reached.sound ⟨valid, keyed⟩
  obtain ⟨s₁, due, tool, hook, -⟩ := callStep_effect transport declared grants baseUrl actorId named t.before t.event
  obtain ⟨u, served, updates⟩ := writes.served tool sound.1 sound.2
  obtain ⟨rest, whole⟩ := (hook.grown.trans (left ▸ grown)).served
  rw [served, List.append_assoc] at whole
  have edited := first _ u _ whole.symm updates
  rw [unedited.unfired (Bool.not_eq_true _ ▸ unfired)] at edited
  cases edited

end Whole

/-- In every run the human edit is applied at most once. When it does not fail, it is applied exactly when the page is
read by its id; and no update of the agent is accepted before it if, and for pages under their own ids only if, every
update that is not refused comes after such a read. -/
theorem human_edit_first (store : ConfluenceStore) (calls : List ToolCall) :
    let x := baselineExecutor transport declared grants baseUrl actorId concurrency
    let run := Machine.trace (callStep x) (fresh store) calls
    let s := Machine.final (callStep x) (fresh store) calls
    (humanEdits s.world.served).length ≤ 1 ∧
      (s.infrastructureError = none →
        (pageId ∈ humanEdits s.world.served ↔ ∃ t ∈ run, Reads concurrency pageId t) ∧
        (ReadFirst x transport concurrency pageId run → EditedFirst pageId s.world.served) ∧
        (store.Valid → store.Keyed → EditedFirst pageId s.world.served →
          ReadFirst x transport concurrency pageId run)) := by
  intro x run s
  have once : EditedOnce pageId s := editedOnce_final named store calls
  refine ⟨once.once, fun clean => ⟨?_, editedFirst_of_readFirst named clean, fun valid keyed =>
    readFirst_of_editedFirst named valid keyed clean⟩⟩
  refine Iff.trans ⟨fun edited => ?_, fun fired => once.edited fired clean⟩ (fired_final named clean)
  by_contra unfired
  rw [once.unfired (Bool.not_eq_true _ ▸ unfired)] at edited
  cases edited

end Runs

end Calls

/-! ### Two runs -/

/-- A client that passes everything on as it is. -/
def plainTransport : Transport where
  route := .page
  header := .ok
  queryText
    | .str text => text
    | _ => ""
  queryInt
    | .int n => some n
    | _ => none
  statusError _ := "HTTP error"
  schema _ := .obj []
  snapshotId := "final"
  timestamp := "t"

def homeEdit : Json := .obj [("page_id", .str "home"), ("human_edit", .obj [("body", .str "Noted")])]

def homeStore : ConfluenceStore :=
  ConfluenceStore.soloStore ["ann"] ⟨"home", "eng", "Home", "Hello", 1, "ann", Dict.empty, Page.noExtras⟩

def homeExecutor : Executor ProcessWorld :=
  @baselineExecutor asciiText plainTransport [] ["confluence.pages.read", "confluence.pages.write"] "http://127.0.0.1"
    "ann" (some homeEdit)

def readHome : ToolCall := ("get_page", ⟨[("page_id", .str "home")], by decide⟩)

def writeHome (version : Int) : ToolCall :=
  ("update_page", ⟨[("page_id", .str "home"), ("version", .int version), ("body", .str "Changed")], by simp⟩)

def homeRun (calls : List ToolCall) : ExecutorState ProcessWorld :=
  Machine.final (@callStep asciiText homeExecutor) (fresh homeStore) calls

theorem human_edit_first_read :
    "home" ∈ humanEdits (homeRun [readHome, writeHome 2]).world.served ∧
      EditedFirst "home" (homeRun [readHome, writeHome 2]).world.served := by
  let _ := asciiText
  have read : Reads (some homeEdit) "home" (Machine.transition (callStep homeExecutor) (fresh homeStore) readHome) :=
    ⟨⟨rfl, rfl, rfl⟩, _, rfl, rfl⟩
  obtain ⟨edited, ordered, -⟩ := (@human_edit_first asciiText plainTransport
    ["confluence.pages.read", "confluence.pages.write"] "http://127.0.0.1" (some homeEdit) [] "ann" "home" rfl homeStore
    [readHome, writeHome 2]).2 (by decide +kernel)
  refine ⟨edited.mpr ⟨_, List.mem_cons_self, read⟩, ordered fun before t after split writes => ?_⟩
  rcases before with _ | ⟨r, before⟩
  · obtain ⟨rfl, -⟩ := List.cons.inj split
    obtain ⟨_, _, _, _, _, _, ⟨name, -⟩, -⟩ := writes
    exact absurd name (by decide)
  · obtain ⟨rfl, -⟩ := List.cons.inj split
    exact ⟨_, List.mem_cons_self, read⟩

/-- The page's version is known without reading it, so a first write can come before the edit. -/
theorem write_before_read :
    (homeRun [writeHome 1, readHome]).infrastructureError = none ∧
      humanEdits (homeRun [writeHome 1, readHome]).world.served = ["home"] ∧
      ¬ EditedFirst "home" (homeRun [writeHome 1, readHome]).world.served := by
  refine ⟨by decide +kernel, by decide +kernel, fun first => ?_⟩
  have edited := first [] _ _ rfl (by decide +kernel)
  simp [humanEdits] at edited

end AgentGym.Runner
