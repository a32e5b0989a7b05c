import AgentGym.Core.Contracts
import AgentGym.World.Page

/-!
# The in-memory store

`ConfluenceStore` is `InMemoryConfluenceStore`. Every operation returns its result
together with the store it leaves behind, also when it raises, because the source
changes collections in place before it validates.
-/

namespace AgentGym.World

structure ConfluenceStore where
  users : Json
  spaces : Json
  pages : Dict String PageData
  pageVersions : Dict String (List PageData)
  permissions : Json
  domainId : String
  schemaVersion : String

/-- The result of an operation and the store after it. -/
abbrev Outcome (α : Type) := Except PyError α × ConfluenceStore

def defaultDomainId : String := "enterprise-confluence"

def defaultSchemaVersion : String := "1"

/-- `resources.get(kind, {})`. -/
def resourceKind (resources : Dict String Json) (kind : String) : Json :=
  (resources.get? kind).getD (.obj [])

/-- `int(value)`. -/
def pyIntOf : Json → Except PyError Int
  | .int i => .ok i
  | .bool b => .ok (if b then 1 else 0)
  | .float q => .ok (Int.tdiv q.num q.den)
  | .negZero => .ok 0
  | .str s => match pyInt s with
    | some i => .ok i
    | none => .error (.valueError "invalid literal for int() with base 10")
  | _ => .error .typeError

/-- `int(page.get("version", 1))`. -/
def currentVersion (page : PageData) : Except PyError Int :=
  match page.get? "version" with
  | none => .ok 1
  | some v => pyIntOf v

/-! ### Loading collections -/

def loadPages [LaxInt] : Json → Except PyError (Dict String PageData)
  | .obj kvs => (Dict.ofEntries kvs).mapValuesM pageData
  | _ => .error .attributeError

/-- The elements a `for` loop visits. -/
def iterate : Json → Except PyError (List Json)
  | .arr xs => .ok xs
  | .obj kvs => .ok ((Dict.ofEntries kvs).keys.map .str)
  | .str s => .ok (s.toList.map fun c => .str (String.singleton c))
  | _ => .error .typeError

def loadHistory [LaxInt] (versions : Json) : Except PyError (List PageData) := do
  (← iterate versions).mapM pageData

def loadHistories [LaxInt] : Json → Except PyError (Dict String (List PageData))
  | .obj kvs => (Dict.ofEntries kvs).mapValuesM loadHistory
  | _ => .error .attributeError

namespace ConfluenceStore

/-- `InMemoryConfluenceStore(resources=...)`. -/
def ofResources [LaxInt] (resources : Dict String Json) : Except PyError ConfluenceStore := do
  let pages ← loadPages (resourceKind resources "pages")
  let pageVersions ← loadHistories (resourceKind resources "page_versions")
  pure {
    users := resourceKind resources "users"
    spaces := resourceKind resources "spaces"
    pages, pageVersions
    permissions := resourceKind resources "permissions"
    domainId := defaultDomainId
    schemaVersion := defaultSchemaVersion }

/-- `InMemoryConfluenceStore(users=..., spaces=..., permissions=...)`. -/
def ofCollections (users spaces permissions : Json) : ConfluenceStore where
  users := if users.truthy then users else .obj []
  spaces := if spaces.truthy then spaces else .obj []
  pages := Dict.empty
  pageVersions := Dict.empty
  permissions := if permissions.truthy then permissions else .obj []
  domainId := defaultDomainId
  schemaVersion := defaultSchemaVersion

theorem resourceKinds_nodup : ["users", "spaces", "pages", "page_versions", "permissions"].Nodup := by
  decide

def pagesJson (s : ConfluenceStore) : Json := .ofDict (s.pages.mapValues Json.ofDict)

def historiesJson (s : ConfluenceStore) : Json :=
  .ofDict (s.pageVersions.mapValues fun ds => .arr (ds.map Json.ofDict))

def resources (s : ConfluenceStore) : Dict String Json where
  entries := [("users", s.users), ("spaces", s.spaces), ("pages", s.pagesJson),
    ("page_versions", s.historiesJson), ("permissions", s.permissions)]
  nodup := resourceKinds_nodup

def snapshot (s : ConfluenceStore) (snapshotId timestamp : String) : WorldSnapshot where
  id := snapshotId
  domainId := s.domainId
  schemaVersion := s.schemaVersion
  timestamp := timestamp
  resources := s.resources

/-- Collections are replaced one after another; a malformed one stops the rest. -/
def restore [LaxInt] (s : ConfluenceStore) (snap : WorldSnapshot) : Outcome Unit :=
  let s := { s with
    users := resourceKind snap.resources "users"
    spaces := resourceKind snap.resources "spaces" }
  match loadPages (resourceKind snap.resources "pages") with
  | .error e => (.error e, s)
  | .ok pages =>
    let s := { s with pages := pages }
    match loadHistories (resourceKind snap.resources "page_versions") with
    | .error e => (.error e, s)
    | .ok histories =>
      (.ok (), { s with
        pageVersions := histories
        permissions := resourceKind snap.resources "permissions"
        domainId := snap.domainId
        schemaVersion := snap.schemaVersion })

def requirePage (s : ConfluenceStore) (pageId : String) : Except PyError PageData :=
  match s.pages.get? pageId with
  | some page => .ok page
  | none => .error (.keyError s!"unknown page: {pageId}")

/-- Append a validated copy of the page to its history. -/
def appendVersion [LaxInt] (s : ConfluenceStore) (pageId : String) (page : Option Json) : Outcome Page :=
  let current : Except PyError Page := do
    let model ← match page with
      | some v => pageModel v
      | none => do pageModel (.ofDict (← s.requirePage pageId))
    if model.id = pageId then pure model
    else throw (.valueError s!"page id mismatch: expected {pageId}, got {model.id}")
  match current with
  | .error e => (.error e, s)
  | .ok model =>
    let history := (s.pageVersions.get? pageId).getD []
    (.ok model, { s with pageVersions := s.pageVersions.set pageId (history ++ [model.modelDump]) })

/-- `add_page`; a `Page` argument is passed as its dump. -/
def addPage [LaxInt] (s : ConfluenceStore) (page : Json) : Outcome Page :=
  match pageModel page with
  | .error e => (.error e, s)
  | .ok model =>
    if s.pages.contains model.id then
      (.error (.valueError s!"page already exists: {model.id}"), s)
    else
      let s := { s with
        pages := s.pages.set model.id model.modelDump
        pageVersions := s.pageVersions.set model.id [] }
      match s.appendVersion model.id none with
      | (.error e, s) => (.error e, s)
      | (.ok _, s) => (s.requirePage model.id >>= fun page => pageModel (.ofDict page), s)

def bumpVersion (s : ConfluenceStore) (pageId : String) : Outcome Int :=
  match s.requirePage pageId with
  | .error e => (.error e, s)
  | .ok page =>
    match currentVersion page with
    | .error e => (.error e, s)
    | .ok version =>
      (.ok (version + 1),
        { s with pages := s.pages.set pageId (page.set "version" (.int (version + 1))) })

/-- The guard of a conditional update. -/
def checkExpectedVersion (pageId : String) (page : PageData) : Option Int → Except PyError Unit
  | none => .ok ()
  | some expected => do
    let current ← currentVersion page
    if current = expected then pure ()
    else throw (.versionConflictError s!"page {pageId} is at version {current}; expected {expected}")

/-- The page with the changes merged in; `id` and `version` are never taken from `updates`. -/
def mergeChanges (page : PageData) (updates : Option PageData) (title body : Option String) : PageData :=
  let page := match updates with
    | none => page
    | some changes => page.update (changes.filterKeys fun k => k != "id" && k != "version").entries
  let page := match title with
    | none => page
    | some t => page.set "title" (.str t)
  match body with
  | none => page
  | some b => page.set "body" (.str b)

def updatePage [LaxInt] (s : ConfluenceStore) (pageId : String) (updates : Option PageData)
    (title body : Option String) (expectedVersion : Option Int) : Outcome Page :=
  match s.requirePage pageId with
  | .error e => (.error e, s)
  | .ok page =>
    match checkExpectedVersion pageId page expectedVersion with
    | .error e => (.error e, s)
    | .ok () =>
      -- The stored dictionary is changed before it is validated.
      let s := { s with pages := s.pages.set pageId (mergeChanges page updates title body) }
      match s.bumpVersion pageId with
      | (.error e, s) => (.error e, s)
      | (.ok _, s) =>
        match s.appendVersion pageId none with
        | (.error e, s) => (.error e, s)
        | (.ok _, s) => (s.requirePage pageId >>= fun page => pageModel (.ofDict page), s)

def getPageVersions (s : ConfluenceStore) (pageId : String) : List PageData :=
  (s.pageVersions.get? pageId).getD []

/-! ### What an operation does -/

/-- The class invariant: everything held under `pages` and `page_versions` is a validated page. -/
structure Valid (s : ConfluenceStore) : Prop where
  pages : ∀ {k d}, s.pages.get? k = some d → ∃ p : Page, d = p.modelDump
  histories : ∀ {k d}, d ∈ s.getPageVersions k → ∃ p : Page, d = p.modelDump

/-- Every page is stored under its own id. -/
def Keyed (s : ConfluenceStore) : Prop :=
  ∀ {k d}, s.pages.get? k = some d → d.get? "id" = some (.str k)

/-- The store once `p` is created. -/
def created (s : ConfluenceStore) (p : Page) : ConfluenceStore :=
  { s with
    pages := s.pages.set p.id p.modelDump
    pageVersions := s.pageVersions.set p.id [p.modelDump] }

/-- The store once the page of that id is updated to `p`. -/
def updated (s : ConfluenceStore) (p : Page) : ConfluenceStore :=
  { s with
    pages := s.pages.set p.id p.modelDump
    pageVersions := s.pageVersions.set p.id (s.getPageVersions p.id ++ [p.modelDump]) }

theorem created_eq_updated {s : ConfluenceStore} {p : Page} (h : s.getPageVersions p.id = []) :
    s.created p = s.updated p := by
  simp [created, updated, h]

theorem updated_pages (s : ConfluenceStore) (p : Page) (k : String) :
    (s.updated p).pages.get? k = if k = p.id then some p.modelDump else s.pages.get? k :=
  Dict.get?_set _ _ _ _

theorem updated_history (s : ConfluenceStore) (p : Page) (k : String) :
    (s.updated p).getPageVersions k =
      if k = p.id then s.getPageVersions k ++ [p.modelDump] else s.getPageVersions k := by
  by_cases h : k = p.id
  · simp [getPageVersions, updated, h]
  · simp [getPageVersions, updated, h, Dict.get?_set_ne _ _ h]

theorem created_pages (s : ConfluenceStore) (p : Page) (k : String) :
    (s.created p).pages.get? k = if k = p.id then some p.modelDump else s.pages.get? k :=
  Dict.get?_set _ _ _ _

theorem created_history (s : ConfluenceStore) (p : Page) (k : String) :
    (s.created p).getPageVersions k = if k = p.id then [p.modelDump] else s.getPageVersions k := by
  by_cases h : k = p.id
  · simp [getPageVersions, created, h]
  · simp [getPageVersions, created, h, Dict.get?_set_ne _ _ h]

/-- `s'` is `s` with `p` stored and its history written. -/
structure Written (s : ConfluenceStore) (p : Page) (s' : ConfluenceStore) : Prop where
  users : s'.users = s.users
  spaces : s'.spaces = s.spaces
  permissions : s'.permissions = s.permissions
  pages : ∀ k, s'.pages.get? k = if k = p.id then some p.modelDump else s.pages.get? k
  histories : ∀ {k}, k ≠ p.id → s'.getPageVersions k = s.getPageVersions k
  entries : ∀ d ∈ s'.getPageVersions p.id, d ∈ s.getPageVersions p.id ∨ d = p.modelDump

theorem created_written (s : ConfluenceStore) (p : Page) : s.Written p (s.created p) where
  users := rfl
  spaces := rfl
  permissions := rfl
  pages := created_pages s p
  histories other := by rw [created_history, if_neg other]
  entries d member := by
    rw [created_history, if_pos rfl] at member
    exact Or.inr (List.mem_singleton.mp member)

theorem updated_written (s : ConfluenceStore) (p : Page) : s.Written p (s.updated p) where
  users := rfl
  spaces := rfl
  permissions := rfl
  pages := updated_pages s p
  histories other := by rw [updated_history, if_neg other]
  entries d member := by
    rw [updated_history, if_pos rfl] at member
    exact (List.mem_append.mp member).imp_right List.mem_singleton.mp

theorem Written.valid {s s' : ConfluenceStore} {p : Page} (w : s.Written p s') (h : s.Valid) : s'.Valid where
  pages := by
    intro k d found
    rw [w.pages] at found
    split at found
    · exact ⟨p, (Option.some.inj found).symm⟩
    · exact h.pages found
  histories := by
    intro k d member
    by_cases same : k = p.id
    · subst same
      rcases w.entries d member with old | rfl
      · exact h.histories old
      · exact ⟨p, rfl⟩
    · rw [w.histories same] at member
      exact h.histories member

theorem Written.keyed {s s' : ConfluenceStore} {p : Page} (w : s.Written p s') (h : s.Keyed) : s'.Keyed := by
  intro k d found
  rw [w.pages] at found
  split at found
  · rename_i same
    rw [← Option.some.inj found, p.get?_id, same]
  · exact h found

/-- A snapshot gives back the store it was taken from, whatever store it is restored to. -/
theorem restore_snapshot [LaxInt] {s : ConfluenceStore} (valid : s.Valid) (s₀ : ConfluenceStore)
    (snapshotId timestamp : String) : s₀.restore (s.snapshot snapshotId timestamp) = (.ok (), s) := by
  have page : ∀ p : Page, pageData (.ofDict p.modelDump) = .ok p.modelDump := Page.pageData_modelDump
  have pages : loadPages (resourceKind s.resources "pages") = .ok s.pages := by
    show (Dict.ofEntries (s.pages.mapValues Json.ofDict).entries).mapValuesM pageData = .ok s.pages
    rw [Dict.ofEntries_entries]
    refine Dict.mapValuesM_mapValues fun d member => ?_
    obtain ⟨k, found⟩ := Dict.mem_values_iff.mp member
    obtain ⟨p, rfl⟩ := valid.pages found
    exact page p
  have histories : loadHistories (resourceKind s.resources "page_versions") = .ok s.pageVersions := by
    show (Dict.ofEntries (s.pageVersions.mapValues fun ds => Json.arr (ds.map Json.ofDict)).entries).mapValuesM
      loadHistory = .ok s.pageVersions
    rw [Dict.ofEntries_entries]
    refine Dict.mapValuesM_mapValues fun ds member => ?_
    obtain ⟨k, found⟩ := Dict.mem_values_iff.mp member
    have entries : ∀ d ∈ ds, (pageData ∘ Json.ofDict) d = .ok (id d) := by
      intro d entry
      obtain ⟨p, rfl⟩ := valid.histories (k := k) (by simpa [getPageVersions, found] using entry)
      exact page p
    show (ds.map Json.ofDict).mapM pageData = .ok ds
    rw [List.mapM_map]
    simpa using mapM_total entries
  simp only [restore, snapshot, pages, histories]
  rfl

theorem requirePage_ok {s : ConfluenceStore} {k : String} {d : PageData}
    (h : s.pages.get? k = some d) : s.requirePage k = .ok d := by
  simp [requirePage, h]

theorem keyed_page {s : ConfluenceStore} (keyed : s.Keyed) {k : String} {p : Page}
    (h : s.pages.get? k = some p.modelDump) : p.id = k := by
  have same := keyed h
  simpa using same

theorem appendVersion_page [LaxInt] {s : ConfluenceStore} {p : Page}
    (h : s.pages.get? p.id = some p.modelDump) :
    s.appendVersion p.id none = (.ok p, { s with
      pageVersions := s.pageVersions.set p.id (s.getPageVersions p.id ++ [p.modelDump]) }) := by
  simp [appendVersion, requirePage_ok h, bind, Except.bind, pure, Except.pure, getPageVersions]

theorem bumpVersion_page {s : ConfluenceStore} {p : Page}
    (h : s.pages.get? p.id = some p.modelDump) :
    s.bumpVersion p.id = (.ok (p.version + 1), { s with
      pages := s.pages.set p.id { p with version := p.version + 1 }.modelDump }) := by
  simp [bumpVersion, requirePage_ok h, currentVersion, pyIntOf]

theorem addPage_ok [LaxInt] {s : ConfluenceStore} {v : Json} {p : Page} (model : pageModel v = .ok p)
    (fresh : s.pages.get? p.id = none) : s.addPage v = (.ok p, s.created p) := by
  have absent : s.pages.contains p.id = false := by simp [Dict.contains, fresh]
  simp only [addPage, model, absent, Bool.false_eq_true, if_false]
  rw [appendVersion_page (by simp)]
  simp [requirePage, getPageVersions, created, bind, Except.bind]

theorem checkExpectedVersion_page {k : String} {p : Page} {expected : Option Int}
    (h : ∀ n ∈ expected, n = p.version) : checkExpectedVersion k p.modelDump expected = .ok () := by
  cases expected with
  | none => rfl
  | some n =>
    obtain rfl := h n rfl
    simp [checkExpectedVersion, currentVersion, pyIntOf, bind, Except.bind, pure, Except.pure]

theorem updatePage_stale [LaxInt] {s : ConfluenceStore} {k : String} {p : Page} {updates : Option PageData}
    {title body : Option String} {n : Int} (found : s.pages.get? k = some p.modelDump)
    (stale : p.version ≠ n) :
    s.updatePage k updates title body (some n) =
      (.error (.versionConflictError s!"page {k} is at version {p.version}; expected {n}"), s) := by
  simp [updatePage, requirePage_ok found, checkExpectedVersion, currentVersion, pyIntOf, bind,
    Except.bind, stale, throw, throwThe, MonadExceptOf.throw]

theorem updatePage_ok [LaxInt] {s : ConfluenceStore} {p q : Page} {updates : Option PageData}
    {title body : Option String} {expected : Option Int}
    (found : s.pages.get? q.id = some p.modelDump)
    (merged : mergeChanges p.modelDump updates title body = q.modelDump)
    (current : ∀ n ∈ expected, n = p.version) :
    s.updatePage q.id updates title body expected =
      (.ok { q with version := q.version + 1 }, s.updated { q with version := q.version + 1 }) := by
  simp only [updatePage, requirePage_ok found, checkExpectedVersion_page current, merged]
  rw [bumpVersion_page (by simp)]
  simp only [Dict.set_set]
  have bumped := appendVersion_page (p := { q with version := q.version + 1 })
    (s := { s with pages := s.pages.set q.id { q with version := q.version + 1 }.modelDump })
    (Dict.get?_set_self _ _ _)
  rw [bumped]
  simp [requirePage, updated, getPageVersions, bind, Except.bind]

/-- No update takes the id or the version of a page from its caller. -/
theorem mergeChanges_kept {name : String} (kept : name = "id" ∨ name = "version") (page : PageData)
    (updates : Option PageData) (title body : Option String) :
    (mergeChanges page updates title body).get? name = page.get? name := by
  have merged : ∀ changes : PageData,
      (page.update (changes.filterKeys fun k => k != "id" && k != "version").entries).get? name = page.get? name := by
    intro changes
    refine Dict.get?_update_of_not_mem ?_ page
    intro member
    have present := Dict.mem_keys_iff.mp member
    rw [Dict.get?_filterKeys] at present
    rcases kept with rfl | rfl <;> simp at present
  have text : name ≠ "title" ∧ name ≠ "body" := by rcases kept with rfl | rfl <;> decide
  cases updates <;> cases title <;> cases body <;>
    simp [mergeChanges, Dict.get?_set_ne _ _ text.1, Dict.get?_set_ne _ _ text.2, merged]

theorem mergeChanges_first {page : PageData} (first : pageFields <+: page.keys) (updates : Option PageData)
    (title body : Option String) :
    pageFields <+: (mergeChanges page updates title body).keys := by
  unfold mergeChanges
  have merged : pageFields <+: (match updates with
      | none => page
      | some changes => page.update (changes.filterKeys fun k => k != "id" && k != "version").entries).keys := by
    cases updates with
    | none => exact first
    | some changes => exact Dict.prefix_keys_update first _
  cases title with
  | none =>
    cases body with
    | none => exact merged
    | some b => exact Dict.prefix_keys_set merged _ _
  | some t =>
    have titled := Dict.prefix_keys_set merged "title" (.str t)
    cases body with
    | none => exact titled
    | some b => exact Dict.prefix_keys_set titled _ _

/-- Whatever an update changes, a successful one stores the next version of the page. -/
theorem updatePage_inv [LaxInt] {s s' : ConfluenceStore} {k : String} {p q : Page} {updates : Option PageData}
    {title body : Option String} {expected : Option Int} (found : s.pages.get? k = some p.modelDump)
    (ran : s.updatePage k updates title body expected = (.ok q, s')) :
    q.id = k ∧ q.version = p.version + 1 ∧ s' = s.updated q := by
  let merged := mergeChanges p.modelDump updates title body
  let d := merged.set "version" (.int (p.version + 1))
  have version : merged.get? "version" = some (.int p.version) := by
    rw [mergeChanges_kept (Or.inr rfl), p.get?_version]
  have first : pageFields <+: d.keys :=
    Dict.prefix_keys_set (mergeChanges_first p.pageFields_prefix _ _ _) _ _
  have current : currentVersion merged = .ok p.version := by simp [currentVersion, version, pyIntOf]
  simp only [updatePage, requirePage_ok found] at ran
  split at ran
  · simp at ran
  -- The bumped dictionary is what the history and the answer are validated from.
  have bumped : ({ s with pages := s.pages.set k merged } : ConfluenceStore).bumpVersion k =
      (.ok (p.version + 1), { s with pages := s.pages.set k d }) := by
    simp [bumpVersion, requirePage, current, d]
  rw [bumped] at ran
  simp only [appendVersion, requirePage, Dict.get?_set_self, bind, Except.bind] at ran
  cases model : pageModel (.ofDict d) with
  | error e => simp [model] at ran
  | ok m =>
    have dump : d = m.modelDump := Page.modelDump_of_pageModel first (Dict.get?_set_self _ _ _) model
    by_cases same : m.id = k
    · simp only [model, same, if_true, pure, Except.pure, Prod.mk.injEq, Dict.get?_set_self,
        Except.ok.injEq] at ran
      obtain ⟨rfl, rfl⟩ := ran
      have number : m.modelDump.get? "version" = some (.int (p.version + 1)) := dump ▸ Dict.get?_set_self _ _ _
      refine ⟨same, by simpa using number, ?_⟩
      simp only [updated, getPageVersions, same, dump]
    · simp [model, same, throw, throwThe, MonadExceptOf.throw] at ran

end ConfluenceStore

end AgentGym.World
