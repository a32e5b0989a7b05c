import AgentGym.Runtime.ReferenceAgent

/-!
# The tool executor

The executor runs the package's tools against one world, under the actor's name, and
reports each call to the recorder. After a successful call a hook may apply the human
edit of a concurrency task; when the hook fails, so does the run.
-/

namespace AgentGym.Runner

open AgentGym.Runtime Steps

/-! ### Worlds and tools -/

/-- A world and its control channel. What an operation raises is a message. -/
structure WorldProvider (ω : Type) where
  start : Steps String ω Unit
  restore : WorldSnapshot → Steps String ω Unit
  snapshot : Steps String ω WorldSnapshot
  /-- The ids of the granted capabilities. -/
  capabilities : Steps String ω (List String)
  stop : Steps String ω Unit
  /-- `_world_url`. -/
  worldUrl : ω → Except String String
  /-- A page, an actor and a body; not every provider supports it. -/
  humanEdit : Option (String → String → String → Steps String ω Json)

/-- A registered tool, called with a world URL and an actor in its environment. -/
structure RawTool (ω : Type) where
  description : ToolDescription
  fn : String → String → Dict String Json → Steps String ω Json

structure ExecutorState (ω : Type) where
  world : ω
  fired : Bool
  infrastructureError : Option String
  /-- What the call in progress has reported. -/
  emitted : List WorldEvent

abbrev Exec (ω : Type) := Steps String (ExecutorState ω)

section Executor

variable {ω : Type}

def onWorld {α : Type} (m : Steps String ω α) : Exec ω α :=
  zoom ExecutorState.world (fun world s => { s with world }) m

def report (isRequest : Bool) (actor : String) (payload : List (String × Json)) : Exec ω Unit :=
  modify fun s => { s with emitted := s.emitted ++ [⟨isRequest, actor, payload⟩] }

/-! ### The concurrency hook -/

/-- The page, the actor and the body of the human edit a task asks for. -/
def plannedEdit : Option Json → Option (String × String × String)
  | some (.obj concurrency) =>
    match concurrency.lookup "page_id", concurrency.lookup "human_edit" with
    | some (.str pageId), some (.obj edit) =>
      match edit.lookup "body", (edit.lookup "actor").getD (.str "human-editor") with
      | some (.str body), .str actor => some (pageId, actor, body)
      | _, _ => none
    | _, _ => none
  | _ => none

def isText (v : Option Json) (text : String) : Bool :=
  match v with
  | some (.str s) => s == text
  | _ => false

def editReport (pageId : String) : Json → List (String × Json)
  | .obj response => [("operation", .str "human-edit"), ("page_id", .str pageId),
      ("version", (response.lookup "version").getD .null)]
  | _ => [("operation", .str "human-edit"), ("page_id", .str pageId)]

/-- The edit itself. The hook counts as fired before it is tried. -/
def fire (provider : WorldProvider ω) (pageId actor body : String) : Exec ω Unit := do
  modify fun s => { s with fired := true }
  report true "runner" [("operation", .str "human-edit"), ("page_id", .str pageId), ("actor", .str actor)]
  match provider.humanEdit with
  | none => throw "world provider does not support the concurrency control hook"
  | some humanEdit =>
    let response ← mapError (fun e => s!"concurrency control hook failed: {e}")
      (onWorld (humanEdit pageId actor body))
    report false "runner" (editReport pageId response)

/-- `_concurrency_hook`, for the `concurrency` of the task's metadata. -/
def concurrencyHook (provider : WorldProvider ω) (concurrency : Option Json) (name : String)
    (args : Dict String Json) (result : ToolResult) : Exec ω Unit := do
  let s ← get
  match plannedEdit concurrency with
  | some (pageId, actor, body) =>
    if s.fired || name != "get_page" || result.error || !isText (args.get? "page_id") pageId then pure ()
    else fire provider pageId actor body
  | none => pure ()

/-! ### One call -/

/-- `_BaselineToolExecutor`. -/
structure Executor (ω : Type) where
  functions : Dict String (String → String → Dict String Json → Steps String ω Json)
  descriptions : List ToolDescription
  worldUrl : String
  actorId : String
  afterSuccess : String → Dict String Json → ToolResult → Exec ω Unit

def errorResult (message : String) : ToolResult := ⟨.obj [("error", .str message)], true, message⟩

/-- `_tool_payload`. -/
def toolPayload [PyText] (value : Json) : Json :=
  match value with
  | .obj _ | .str _ => value
  | other => .str (PyText.dumpsUnicode other)

/-- The result of a call that returned: an error when the hook after it fails. -/
def hooked (x : Executor ω) (name : String) (args : Dict String Json) (result : ToolResult) :
    Exec ω ToolResult := do
  match ← attempt (x.afterSuccess name args result) with
  | .ok () => pure result
  | .error e =>
    modify fun s => { s with infrastructureError := some e }
    pure (errorResult e)

def Executor.execute [PyText] (x : Executor ω) (name : String) (args : Dict String Json) : Exec ω ToolResult :=
  match x.functions.get? name with
  | none => pure ⟨.obj [("error", .str s!"unknown tool: {name}")], true, "unknown tool"⟩
  | some function => do
    report true "world" [("tool", .str name), ("arguments", .ofDict args)]
    match ← attempt (onWorld (function x.worldUrl x.actorId args)) with
    | .ok value =>
      let result ← hooked x name args ⟨toolPayload value, false, ""⟩
      report false "world" [("tool", .str name), ("error", .bool result.error)]
      pure result
    | .error message =>
      report false "world" [("tool", .str name), ("error", .bool true), ("message", .str message)]
      pure (errorResult message)

/-! ### The tools of a package -/

/-- `rstrip("/")`. -/
def rstripSlash (url : String) : String := String.ofList (url.toList.reverse.dropWhile (· == '/')).reverse

def requiredCapability (toolName : String) : Option String :=
  if toolName = "search_pages" then some "confluence.search"
  else if toolName = "get_page" ∨ toolName = "get_page_versions" then some "confluence.pages.read"
  else if toolName = "create_page" ∨ toolName = "update_page" then some "confluence.pages.write"
  else none

/-- The capabilities that are both granted and declared; a package that declares none gets all. -/
def effective (granted declared : List String) : List String :=
  if declared.isEmpty then granted else granted.filter declared.contains

def offered (granted declared : List String) (tool : RawTool ω) : Bool :=
  match requiredCapability tool.description.name with
  | some required => (effective granted declared).contains required
  | none => true

/-- `_build_executor`, once the server's tools are listed. -/
def buildExecutor (rawTools : List (RawTool ω)) (declared granted : List String) (worldUrl actorId : String)
    (afterSuccess : String → Dict String Json → ToolResult → Exec ω Unit) : Executor ω :=
  let tools := rawTools.filter (offered granted declared)
  { functions := Dict.empty.update (tools.map fun tool => (tool.description.name, tool.fn))
    descriptions := tools.map RawTool.description
    worldUrl := rstripSlash worldUrl
    actorId, afterSuccess }

end Executor

end AgentGym.Runner
