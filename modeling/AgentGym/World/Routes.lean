import Mathlib.Data.List.Sort
import AgentGym.World.Permission

/-!
# The raw API and the control route

`handle` answers one call against the store: an agent's request to one of the six page
routes, or the trusted human edit. Handlers run one at a time, so a run of the world is
a list of calls in arrival order.
-/

namespace AgentGym.World

/-! ### Requests and responses -/

/-- `PageCreateRequest`, with its minimum lengths. -/
structure PageCreateRequest where
  id : String
  spaceId : String
  title : String
  body : String
  ownerId : Option String
  id_nonempty : id ≠ ""
  spaceId_nonempty : spaceId ≠ ""

structure PageUpdateRequest where
  title : Option String
  body : Option String

structure PageSearchRequest where
  q : Option String
  query : Option String

/-- `HumanEditRequest`, with its minimum lengths. -/
structure HumanEditRequest where
  pageId : String
  actor : String
  body : String
  pageId_nonempty : pageId ≠ ""
  actor_nonempty : actor ≠ ""

inductive ApiCall where
  | listPages (limit offset : Int)
  | searchPages (q : Option String) (body : Option PageSearchRequest) (limit offset : Int)
  | getPage (pageId : String)
  | getPageVersions (pageId : String)
  | createPage (payload : PageCreateRequest)
  | updatePage (pageId : String) (payload : PageUpdateRequest) (ifVersion : Option String)
  /-- Parameters or a body that fail validation; `parsed` says whether the body was JSON at all. -/
  | malformed (parsed : Bool)

inductive Event where
  | request (actor : Option String) (call : ApiCall)
  | humanEdit (edit : HumanEditRequest)

inductive Response where
  | page (status : Nat) (page : Page)
  | pageList (items : List Page) (total : Nat) (limit offset : Int)
  | versions (items : List Page)
  /-- The dump `human-edit` returns. -/
  | edited (page : Page)
  | error (status : Nat) (code message : String)
  | validationError
  | serverError

/-! ### Actors -/

def actorFields : List String := ["id", "user_id", "username", "name", "email"]

/-- The aliases `_resolve_actor` collects for one user. -/
def userAliases (userId : String) (user : Json) : List String :=
  userId :: match user with
    | .obj _ => actorFields.filterMap fun field => match user.get? field with
      | some (.str value) => if value = "" then none else some value
      | _ => none
    | .str name => if name = "" then [] else [name]
    | _ => []

def resolveActor (store : ConfluenceStore) (actorHeader : Option String) : Except Response ActorIdentity :=
  match actorHeader.map strip with
  | none | some "" => .error (.error 401 "missing_actor" "X-Actor header is required")
  | some requested =>
    match store.users with
    | .obj kvs =>
      match (Dict.ofEntries kvs).entries.find? fun e => (userAliases e.1 e.2).contains requested with
      | some e => .ok ⟨e.1, userAliases e.1 e.2⟩
      | none => .error (.error 401 "unknown_actor" s!"unknown actor: {requested}")
    | _ => .error .serverError

section Handlers

variable [PyText]

/-! ### Reading -/

/-- The text a search looks in. -/
def haystack (page : PageData) : String :=
  PyText.casefold (" ".intercalate (["id", "space_id", "title", "body"].map (textField page)))

def matchesQuery (page : PageData) : Option String → Bool
  | none => true
  | some query => textContains (haystack page) (PyText.casefold query)

/-- The loop of `_visible_pages`: a page is asked for permission before it is searched. -/
def visibleList (store : ConfluenceStore) (actor : ActorIdentity) (query : Option String) :
    List PageData → Except PyError (List Page)
  | [] => .ok []
  | page :: rest => do
    let reads ← canReadPage store page actor
    if reads && matchesQuery page query then
      let shown ← pageResponse page
      let others ← visibleList store actor query rest
      pure (shown :: others)
    else visibleList store actor query rest

def visiblePages (store : ConfluenceStore) (actor : ActorIdentity) (query : Option String) :
    Except PyError (List Page) := do
  let pages ← visibleList store actor query store.pages.values
  pure (pages.insertionSort fun p q => p.id ≤ q.id)

def paginated (pages : List Page) (limit offset : Int) : Response :=
  .pageList ((pages.drop offset.toNat).take limit.toNat) pages.length limit offset

/-- `ge=1, le=100` on the limit and `ge=0` on the offset. -/
def validWindow (limit offset : Int) : Bool := 1 ≤ limit && limit ≤ 100 && 0 ≤ offset

def browse (store : ConfluenceStore) (actor : ActorIdentity) (query : Option String)
    (limit offset : Int) : Response :=
  if validWindow limit offset then
    match visiblePages store actor query with
    | .ok pages => paginated pages limit offset
    | .error _ => .serverError
  else .validationError

def searchQuery (q : Option String) (body : Option PageSearchRequest) : String :=
  ((q.or (body.bind PageSearchRequest.q)).or (body.bind PageSearchRequest.query)).getD ""

def pageNotFound (pageId : String) : Response :=
  .error 404 "page_not_found" s!"unknown page: {pageId}"

/-- Look a page up for a reader, and answer with `show`. -/
def readable (store : ConfluenceStore) (actor : ActorIdentity) (pageId : String)
    (answer : PageData → Response) : Response :=
  match store.pages.get? pageId with
  | none => pageNotFound pageId
  | some page =>
    match canReadPage store page actor with
    | .error _ => .serverError
    | .ok true => answer page
    | .ok false => .error 403 "forbidden" "actor cannot read this page"

def getPage (store : ConfluenceStore) (actor : ActorIdentity) (pageId : String) : Response :=
  readable store actor pageId fun page =>
    match pageResponse page with
    | .ok p => .page 200 p
    | .error _ => .serverError

def getPageVersions (store : ConfluenceStore) (actor : ActorIdentity) (pageId : String) : Response :=
  readable store actor pageId fun _ =>
    match (store.getPageVersions pageId).mapM pageResponse with
    | .ok items => .versions items
    | .error _ => .serverError

/-! ### Writing -/

/-- `payload.owner_id or actor.user_id`. -/
def createOwner (payload : PageCreateRequest) (actor : ActorIdentity) : String :=
  match payload.ownerId with
  | none | some "" => actor.userId
  | some owner => owner

/-- `Page(id=..., space_id=..., title=..., body=..., owner_id=...)`. -/
def PageCreateRequest.page (payload : PageCreateRequest) (actor : ActorIdentity) : Page where
  id := payload.id
  spaceId := payload.spaceId
  title := payload.title
  body := payload.body
  version := 1
  ownerId := createOwner payload actor
  extras := Dict.empty
  extras_free := Page.noExtras

/-- `space_id in spaces`, for whatever the collection holds. -/
def listsSpace (spaces : Json) (spaceId : String) : Except PyError Bool :=
  match spaces with
  | .obj kvs => .ok (kvs.lookup spaceId).isSome
  | .arr items => .ok (items.any (Json.pyEq (.str spaceId)))
  | .str text => .ok (textContains text spaceId)
  | _ => .error .typeError

/-- `store.spaces and payload.space_id not in store.spaces`. -/
def unknownSpace (spaces : Json) (spaceId : String) : Except PyError Bool :=
  if spaces.truthy then (listsSpace spaces spaceId).map not else .ok false

def createPage (store : ConfluenceStore) (actor : ActorIdentity) (payload : PageCreateRequest) :
    Response × ConfluenceStore :=
  match unknownSpace store.spaces payload.spaceId with
  | .error _ => (.serverError, store)
  | .ok true => (.error 404 "space_not_found" s!"unknown space: {payload.spaceId}", store)
  | .ok false =>
    match canCreatePage store payload.spaceId actor with
    | .error _ => (.serverError, store)
    | .ok false => (.error 403 "forbidden" "actor cannot create pages in this space", store)
    | .ok true =>
      if store.pages.contains payload.id then
        (.error 409 "page_exists" s!"page already exists: {payload.id}", store)
      else
        match store.addPage (.ofDict (payload.page actor).modelDump) with
        | (.ok page, store) => (.page 201 page, store)
        | (.error _, store) => (.serverError, store)

/-- The payload's fields that are not `None`. -/
def PageUpdateRequest.updates (payload : PageUpdateRequest) : PageData :=
  Dict.empty.update ((payload.title.map fun t => ("title", Json.str t)).toList ++
    (payload.body.map fun b => ("body", Json.str b)).toList)

def forbiddenUpdate (store : ConfluenceStore) (page : PageData) (actor : ActorIdentity) : Response :=
  match canReadPage store page actor with
  | .error _ => .serverError
  | .ok true => .error 403 "forbidden" "actor cannot edit this page"
  | .ok false => .error 403 "forbidden" "actor cannot access this page"

/-- The integer of an `If-Version` header. -/
def parseIfVersion : Option String → Except Response Int
  | none => .error (.error 428 "if_version_required" "If-Version header is required")
  | some header =>
    if strip header = "" then
      .error (.error 428 "if_version_required" "If-Version header is required")
    else match pyInt header with
      | some n => .ok n
      | none => .error (.error 400 "invalid_if_version" "If-Version must be an integer")

def updatePage (store : ConfluenceStore) (actor : ActorIdentity) (pageId : String)
    (payload : PageUpdateRequest) (ifVersion : Option String) : Response × ConfluenceStore :=
  match store.pages.get? pageId with
  | none => (pageNotFound pageId, store)
  | some page =>
    match canWritePage store page actor with
    | .error _ => (.serverError, store)
    | .ok false => (forbiddenUpdate store page actor, store)
    | .ok true =>
      match parseIfVersion ifVersion with
      | .error response => (response, store)
      | .ok expected =>
        match currentVersion page with
        | .error _ => (.serverError, store)
        | .ok current =>
          if expected ≠ current then
            (.error 409 "version_conflict"
              s!"page {pageId} is at version {current}; received If-Version {expected}", store)
          else
            match store.updatePage pageId (some payload.updates) none none (some current) with
            | (.ok page, store) => (.page 200 page, store)
            | (.error (.versionConflictError message), store) =>
              (.error 409 "version_conflict" message, store)
            | (.error _, store) => (.serverError, store)

/-! ### The calls -/

def call (store : ConfluenceStore) (actor : ActorIdentity) : ApiCall → Response × ConfluenceStore
  | .listPages limit offset => (browse store actor none limit offset, store)
  | .searchPages q body limit offset =>
    (browse store actor (some (searchQuery q body)) limit offset, store)
  | .getPage pageId => (getPage store actor pageId, store)
  | .getPageVersions pageId => (getPageVersions store actor pageId, store)
  | .createPage payload => createPage store actor payload
  | .updatePage pageId payload ifVersion => updatePage store actor pageId payload ifVersion
  | .malformed _ => (.validationError, store)

/-- One request. A body that is not JSON is refused before the actor is looked at. -/
def request (store : ConfluenceStore) (actorHeader : Option String) (apiCall : ApiCall) :
    Response × ConfluenceStore :=
  match apiCall with
  | .malformed false => (.validationError, store)
  | apiCall =>
    match resolveActor store actorHeader with
    | .error response => (response, store)
    | .ok actor => call store actor apiCall

/-- `apply_human_edit`. -/
def humanEdit (store : ConfluenceStore) (edit : HumanEditRequest) : Response × ConfluenceStore :=
  match store.pages.get? edit.pageId with
  | none => (.error 404 "http_error" s!"unknown page: {edit.pageId}", store)
  | some current =>
    match currentVersion current with
    | .error _ => (.serverError, store)
    | .ok version =>
      match store.updatePage edit.pageId none none (some edit.body) (some version) with
      | (.ok page, store) => (.edited page, store)
      | (.error (.versionConflictError message), store) => (.error 409 "http_error" message, store)
      | (.error _, store) => (.serverError, store)

def handle (store : ConfluenceStore) : Event → Response × ConfluenceStore
  | .request actor apiCall => request store actor apiCall
  | .humanEdit edit => humanEdit store edit

end Handlers

end AgentGym.World
