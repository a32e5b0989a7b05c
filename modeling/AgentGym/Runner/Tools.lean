import AgentGym.Runner.Executor
import AgentGym.World.LostUpdate

/-!
# The baseline tools

Each tool sends one request to the raw API of the world, under the actor's name, and
returns the body of the response; a response that is no success raises. A page id is put
into the request path as it is, so where the request leads is up to the path.
-/

namespace AgentGym.Runner

open AgentGym.Runtime Steps World

/-! ### The world behind the tools -/

/-- A served world, with the calls it has answered. -/
structure ProcessWorld where
  store : ConfluenceStore
  served : World.History

/-- Where a path below `/api/pages/` leads. -/
inductive PagePath where
  | pages (limit offset : Int)
  | page (pageId : String)
  | versions (pageId : String)
  | elsewhere (status : Nat)

/-- The HTTP client and the routing between a tool and the world's handlers. -/
structure Transport where
  route : String → PagePath
  /-- A header value as it arrives; what the client refuses to send raises. -/
  header : String → Except String String
  /-- A query parameter given this value, read as text and as an integer. -/
  queryText : Json → String
  queryInt : Json → Option Int
  /-- The text of the error `raise_for_status` raises. -/
  statusError : Nat → String
  /-- The schema of a tool's parameters. -/
  schema : String → Json
  snapshotId : String
  timestamp : String

section Tools

variable [PyText]

def serve (e : Event) : Steps String ProcessWorld Response := ofFn fun w =>
  (.ok (handle w.store e).1, ⟨(handle w.store e).2, w.served ++ [Machine.transition handle w.store e]⟩)

def pageJson (p : Page) : Json := .ofDict p.modelDump

/-- The body of a response, once `raise_for_status` lets it through. -/
def responseJson (transport : Transport) : Response → Except String Json
  | .page _ p | .edited p => .ok (pageJson p)
  | .pageList items total limit offset =>
    .ok (.obj [("items", .arr (items.map pageJson)), ("total", .int total), ("limit", .int limit),
      ("offset", .int offset)])
  | .versions items => .ok (.arr (items.map pageJson))
  | .error status _ _ => .error (transport.statusError status)
  | .validationError => .error (transport.statusError 422)
  | .serverError => .error (transport.statusError 500)

/-! ### Arguments -/

def quoted : List String → String
  | [] => ""
  | [a] => s!"'{a}'"
  | [a, b] => s!"'{a}' and '{b}'"
  | names =>
    let last := names.getLastD ""
    ", ".intercalate (names.dropLast.map fun a => s!"'{a}'") ++ s!", and '{last}'"

/-- `function(**args)`: the value of each parameter, or a `TypeError`. -/
def bindArguments (name : String) (required : List String) (optional : List (String × Json))
    (args : Dict String Json) : Except String (String → Json) :=
  let known := required ++ optional.map Prod.fst
  let missing := required.filter fun parameter => !args.contains parameter
  match args.keys.find? fun key => !known.contains key with
  | some key => .error s!"{name}() got an unexpected keyword argument '{key}'"
  | none =>
    if missing.isEmpty then .ok fun parameter => (args.get? parameter).getD ((optional.lookup parameter).getD .null)
    else
      let arguments := if missing.length = 1 then "argument" else "arguments"
      let count := missing.length
      .error s!"{name}() missing {count} required positional {arguments}: {quoted missing}"

/-! ### The requests -/

variable (transport : Transport)

def searchPages (args : Dict String Json) : Except String ApiCall := do
  let value ← bindArguments "search_pages" [] [("query", .null), ("limit", .int 20), ("offset", .int 0)] args
  let query := match value "query" with
    | .null => none
    | q => some (transport.queryText q)
  pure (match transport.queryInt (value "limit"), transport.queryInt (value "offset") with
    | some limit, some offset => .searchPages query none limit offset
    | _, _ => .malformed true)

/-- A `GET` below `/api/pages/`. -/
def getPath (path : String) : Except String ApiCall :=
  match transport.route path with
  | .pages limit offset => .ok (.listPages limit offset)
  | .page pageId => .ok (.getPage pageId)
  | .versions pageId => .ok (.getPageVersions pageId)
  | .elsewhere status => .error (transport.statusError status)

def getPage (args : Dict String Json) : Except String ApiCall := do
  let value ← bindArguments "get_page" ["page_id"] [] args
  getPath transport (pyStr (value "page_id"))

def getPageVersions (args : Dict String Json) : Except String ApiCall := do
  let value ← bindArguments "get_page_versions" ["page_id"] [] args
  getPath transport (pyStr (value "page_id") ++ "/versions")

/-- The body `create_page` sends, as it is validated; an owner is sent only when given. -/
def createPage (args : Dict String Json) : Except String ApiCall := do
  let value ← bindArguments "create_page" ["page_id", "space_id", "title"] [("body", .str ""), ("owner_id", .null)] args
  let payload (owner : Option String) : ApiCall :=
    match value "page_id", value "space_id", value "title", value "body" with
    | .str pageId, .str spaceId, .str title, .str body =>
      if h : pageId ≠ "" ∧ spaceId ≠ "" then .createPage ⟨pageId, spaceId, title, body, owner, h.1, h.2⟩
      else .malformed true
    | _, _, _, _ => .malformed true
  pure (match value "owner_id" with
    | .null => payload none
    | .str owner => payload (some owner)
    | _ => .malformed true)

/-- A text an update sends: none, a text, or something that fails validation. -/
def textArgument : Json → Option (Option String)
  | .null => some none
  | .str text => some (some text)
  | _ => none

def updatePage (args : Dict String Json) : Except String ApiCall := do
  let value ← bindArguments "update_page" ["page_id", "version"] [("body", .null), ("title", .null)] args
  let ifVersion ← match value "version" with
    | .null => pure none
    | version => do
      let header ← transport.header (pyStr version)
      pure (some header)
  match transport.route (pyStr (value "page_id")) with
  | .page pageId =>
    match textArgument (value "title"), textArgument (value "body") with
    | some title, some body => pure (.updatePage pageId ⟨title, body⟩ ifVersion)
    | _, _ => pure (.malformed true)
  | .elsewhere status => throw (transport.statusError status)
  | .pages _ _ | .versions _ => throw (transport.statusError 405)

/-- A tool that sends the request its arguments describe. -/
def requestTool (name description : String) (build : Dict String Json → Except String ApiCall) :
    RawTool ProcessWorld where
  description := ⟨name, description, transport.schema name⟩
  fn _ actorId args := do
    let apiCall ← lift (build args)
    let actor ← lift (transport.header actorId)
    let response ← serve (.request (some actor) apiCall)
    lift (responseJson transport response)

def baselineTools : List (RawTool ProcessWorld) :=
  [requestTool transport "search_pages" "Search readable Confluence pages by text, with limit/offset pagination."
      (searchPages transport),
    requestTool transport "get_page" "Retrieve the current representation of one readable Confluence page."
      (getPage transport),
    requestTool transport "get_page_versions" "Retrieve the immutable version history for one readable page."
      (getPageVersions transport),
    requestTool transport "create_page" "Create one page in a space through the raw Confluence API." createPage,
    requestTool transport "update_page" "Update mutable page fields using the supplied optimistic-lock version."
      (updatePage transport)]

/-! ### The control channel -/

def controlError (transport : Transport) (status : Nat) : String :=
  let text := transport.statusError status
  s!"process world control request failed: {text}"

/-- The human edit, with its minimum lengths. -/
def controlEdit (pageId actor body : String) : Steps String ProcessWorld Json :=
  if h : pageId ≠ "" ∧ actor ≠ "" then do
    let response ← serve (.humanEdit ⟨pageId, actor, body, h.1, h.2⟩)
    mapError (fun e => s!"process world control request failed: {e}") (lift (responseJson transport response))
  else throw (controlError transport 422)

def processWorld (grants : List String) (baseUrl : String) : WorldProvider ProcessWorld where
  start := pure ()
  restore snap := ofFn fun w =>
    let (restored, store) := w.store.restore snap
    (restored.mapError fun _ => controlError transport 500, { w with store })
  snapshot := ofFn fun w => (.ok (w.store.snapshot transport.snapshotId transport.timestamp), w)
  capabilities := pure grants
  stop := pure ()
  worldUrl _ := .ok baseUrl
  humanEdit := some (controlEdit transport)

end Tools

end AgentGym.Runner
