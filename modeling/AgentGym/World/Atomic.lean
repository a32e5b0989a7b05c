import AgentGym.World.Store

/-!
# What a failing operation leaves behind

`restore` and `update_page` change collections before everything has been validated, so a
call that raises may leave a store that is neither the old nor the new one.
-/

namespace AgentGym.World

/-! ### Collections that load -/

def ReadablePages [LaxInt] (v : Json) : Prop :=
  ∃ kvs, v = .obj kvs ∧ ∀ k page, kvs.lookup k = some page → ∃ p, pageModel page = .ok p

def ReadableHistories [LaxInt] (v : Json) : Prop :=
  ∃ kvs, v = .obj kvs ∧ ∀ k versions, kvs.lookup k = some versions →
    ∃ entries, iterate versions = .ok entries ∧ ∀ page ∈ entries, ∃ p, pageModel page = .ok p

theorem pageData_succeeds [LaxInt] {v : Json} : (∃ d, pageData v = .ok d) ↔ ∃ p, pageModel v = .ok p := by
  unfold pageData
  cases pageModel v <;> simp [Except.map]

theorem loadHistory_succeeds [LaxInt] {versions : Json} : (∃ ds, loadHistory versions = .ok ds) ↔
    ∃ entries, iterate versions = .ok entries ∧ ∀ page ∈ entries, ∃ p, pageModel page = .ok p := by
  unfold loadHistory
  cases iterate versions with
  | error e => simp [bind, Except.bind]
  | ok entries =>
    simp only [bind, Except.bind, mapM_succeeds, pageData_succeeds]
    simp

theorem loadPages_succeeds [LaxInt] {v : Json} : (∃ pages, loadPages v = .ok pages) ↔ ReadablePages v := by
  cases v with
  | obj kvs =>
    simp only [loadPages, Dict.mapValuesM_succeeds, Dict.get?_ofEntries, pageData_succeeds]
    exact ⟨fun readable => ⟨kvs, rfl, readable⟩, fun ⟨_, same, readable⟩ => Json.obj.inj same ▸ readable⟩
  | _ => simp [loadPages, ReadablePages]

theorem loadHistories_succeeds [LaxInt] {v : Json} : (∃ histories, loadHistories v = .ok histories) ↔ ReadableHistories v := by
  cases v with
  | obj kvs =>
    simp only [loadHistories, Dict.mapValuesM_succeeds, Dict.get?_ofEntries, loadHistory_succeeds]
    exact ⟨fun readable => ⟨kvs, rfl, readable⟩, fun ⟨_, same, readable⟩ => Json.obj.inj same ▸ readable⟩
  | _ => simp [loadHistories, ReadableHistories]

namespace ConfluenceStore

/-! ### Restoring -/

/-- A restore that raises changes nothing, and one that returns forgets the old store. -/
def RestoresAtomically [LaxInt] (s : ConfluenceStore) (snap : WorldSnapshot) : Prop :=
  (∀ e, (s.restore snap).1 = .error e → (s.restore snap).2 = s) ∧
    ((s.restore snap).1 = .ok () → ∀ s' : ConfluenceStore, s'.restore snap = s.restore snap)

/-- The snapshot can be read, or the store already holds the collections that are replaced before the failure. -/
def ReadableOrHeld [LaxInt] (s : ConfluenceStore) (snap : WorldSnapshot) : Prop :=
  (ReadablePages (resourceKind snap.resources "pages") ∧
      ReadableHistories (resourceKind snap.resources "page_versions")) ∨
    (s.users = resourceKind snap.resources "users" ∧ s.spaces = resourceKind snap.resources "spaces" ∧
      ∀ pages, loadPages (resourceKind snap.resources "pages") = .ok pages → s.pages = pages)

theorem restore_ok [LaxInt] {snap : WorldSnapshot} {pages histories}
    (pagesRead : loadPages (resourceKind snap.resources "pages") = .ok pages)
    (historiesRead : loadHistories (resourceKind snap.resources "page_versions") = .ok histories)
    (s : ConfluenceStore) :
    s.restore snap = (.ok (), {
      users := resourceKind snap.resources "users"
      spaces := resourceKind snap.resources "spaces"
      pages := pages
      pageVersions := histories
      permissions := resourceKind snap.resources "permissions"
      domainId := snap.domainId
      schemaVersion := snap.schemaVersion }) := by
  simp only [restore, pagesRead, historiesRead]

theorem restore_pages_error [LaxInt] {snap : WorldSnapshot} {e : PyError}
    (refused : loadPages (resourceKind snap.resources "pages") = .error e) (s : ConfluenceStore) :
    s.restore snap = (.error e, { s with
      users := resourceKind snap.resources "users"
      spaces := resourceKind snap.resources "spaces" }) := by
  simp only [restore, refused]

theorem restore_histories_error [LaxInt] {snap : WorldSnapshot} {pages} {e : PyError}
    (pagesRead : loadPages (resourceKind snap.resources "pages") = .ok pages)
    (refused : loadHistories (resourceKind snap.resources "page_versions") = .error e) (s : ConfluenceStore) :
    s.restore snap = (.error e, { s with
      users := resourceKind snap.resources "users"
      spaces := resourceKind snap.resources "spaces"
      pages := pages }) := by
  simp only [restore, pagesRead, refused]

/-- A failing restore is noticed unless what it replaced was already there. -/
theorem restoresAtomically_iff [LaxInt] (s : ConfluenceStore) (snap : WorldSnapshot) :
    s.RestoresAtomically snap ↔ s.ReadableOrHeld snap := by
  unfold RestoresAtomically ReadableOrHeld
  rw [← loadPages_succeeds, ← loadHistories_succeeds]
  cases pagesRead : loadPages (resourceKind snap.resources "pages") with
  | error e =>
    rw [restore_pages_error pagesRead]
    constructor
    · rintro ⟨kept, -⟩
      have same := kept e rfl
      refine Or.inr ⟨(congrArg users same).symm, (congrArg spaces same).symm, ?_⟩
      intro pages found
      cases found
    · rintro (⟨⟨_, found⟩, -⟩ | ⟨users, spaces, -⟩)
      · cases found
      · refine ⟨fun _ _ => ?_, fun returned => by cases returned⟩
        rw [← users, ← spaces]
  | ok pages =>
    cases historiesRead : loadHistories (resourceKind snap.resources "page_versions") with
    | error e =>
      rw [restore_histories_error pagesRead historiesRead]
      constructor
      · rintro ⟨kept, -⟩
        have same := kept e rfl
        refine Or.inr ⟨(congrArg users same).symm, (congrArg spaces same).symm, ?_⟩
        intro found read
        rw [← Except.ok.inj read]
        exact (congrArg ConfluenceStore.pages same).symm
      · rintro (⟨-, ⟨_, found⟩⟩ | ⟨users, spaces, held⟩)
        · cases found
        · refine ⟨fun _ _ => ?_, fun returned => by cases returned⟩
          rw [← users, ← spaces, ← held pages rfl]
    | ok histories =>
      refine iff_of_true ⟨?_, ?_⟩ (Or.inl ⟨⟨pages, rfl⟩, ⟨histories, rfl⟩⟩)
      · intro e raised
        rw [restore_ok pagesRead historiesRead] at raised
        cases raised
      · intro _ s'
        rw [restore_ok pagesRead historiesRead, restore_ok pagesRead historiesRead]

end ConfluenceStore

theorem brokenKinds_nodup : ["users", "pages"].Nodup := by
  decide

/-- A snapshot whose users are new and whose pages cannot be read. -/
def brokenSnapshot : WorldSnapshot where
  id := "broken"
  domainId := defaultDomainId
  schemaVersion := defaultSchemaVersion
  timestamp := "2026-01-01T00:00:00Z"
  resources := ⟨[("users", .obj [("ann", .null)]), ("pages", .obj [("home", .null)])], brokenKinds_nodup⟩

theorem broken_restore_loses_users :
    let s := ConfluenceStore.ofCollections (.obj [("bob", .null)]) .null .null
    ¬ @ConfluenceStore.RestoresAtomically plainInts s brokenSnapshot ∧
      (@ConfluenceStore.restore plainInts s brokenSnapshot).1 = .error .validationError ∧
      (@ConfluenceStore.restore plainInts s brokenSnapshot).2.users = .obj [("ann", .null)] := by
  intro s
  let _ := plainInts
  have raised : s.restore brokenSnapshot = (.error .validationError, { s with
      users := .obj [("ann", .null)]
      spaces := .obj [] }) := rfl
  refine ⟨?_, by rw [raised], by rw [raised]⟩
  rintro ⟨kept, -⟩
  have same := kept _ (congrArg Prod.fst raised)
  rw [raised] at same
  have names : Json.obj [("ann", .null)] = Json.obj [("bob", .null)] := congrArg ConfluenceStore.users same
  have entries := Json.obj.inj names
  simp at entries

/-! ### Updating -/

/-- A dictionary with the text fields of a page and an integer version is one. -/
theorem exists_pageModel [LaxInt] {d : PageData} {version : Int} (number : d.get? "version" = some (.int version))
    (texts : ∀ name ∈ ["id", "space_id", "title", "body", "owner_id"], ∃ t, d.get? name = some (.str t)) :
    ∃ q, pageModel (.ofDict d) = .ok q := by
  have field : ∀ name ∈ ["id", "space_id", "title", "body", "owner_id"], ∃ t,
      strField (.obj d.entries) name = .ok t := by
    intro name member
    obtain ⟨t, found⟩ := texts name member
    have found : (Json.obj d.entries).get? name = some (.str t) := found
    exact ⟨t, by simp [strField, found]⟩
  obtain ⟨id, idField⟩ := field "id" (by decide)
  obtain ⟨spaceId, spaceField⟩ := field "space_id" (by decide)
  obtain ⟨title, titleField⟩ := field "title" (by decide)
  obtain ⟨body, bodyField⟩ := field "body" (by decide)
  obtain ⟨ownerId, ownerField⟩ := field "owner_id" (by decide)
  have versionField : intField (.obj d.entries) "version" (some 1) = .ok version := by
    have found : (Json.obj d.entries).get? "version" = some (.int version) := number
    simp [intField, found]
  simp only [pageModel, Json.ofDict, modelValidate, idField, spaceField, titleField, bodyField, versionField,
    ownerField, bind, Except.bind, pure, Except.pure]
  exact ⟨_, rfl⟩

def StringOrAbsent (changes : PageData) (name : String) : Prop :=
  ∀ v, changes.get? name = some v → ∃ t, v = .str t

/-- The text fields an update takes from its mapping are strings. -/
def TextUpdates (updates : Option PageData) (title body : Option String) : Prop :=
  ∀ changes ∈ updates, StringOrAbsent changes "space_id" ∧ StringOrAbsent changes "owner_id" ∧
    (title = none → StringOrAbsent changes "title") ∧ (body = none → StringOrAbsent changes "body")

namespace ConfluenceStore

theorem get?_setText (page : PageData) (key : String) (text : Option String) (name : String) :
    (text.elim page fun t => page.set key (.str t)).get? name =
      (if name = key then text.map Json.str else none).or (page.get? name) := by
  cases text with
  | none => simp
  | some t =>
    rw [Option.elim_some, Dict.get?_set]
    split <;> simp

theorem mergeChanges_get? {name : String} (taken : name ≠ "id" ∧ name ≠ "version") (page : PageData)
    (updates : Option PageData) (title body : Option String) :
    (mergeChanges page updates title body).get? name =
      (if name = "body" then body.map Json.str else none).or
        ((if name = "title" then title.map Json.str else none).or
          ((updates.bind (·.get? name)).or (page.get? name))) := by
  have merged : ∀ changes : PageData,
      (page.update (changes.filterKeys fun k => k != "id" && k != "version").entries).get? name =
        (changes.get? name).or (page.get? name) := by
    intro changes
    rw [Dict.get?_update_entries, Dict.get?_filterKeys, if_pos (by simp [taken])]
  rw [show (updates.bind (·.get? name)).or (page.get? name) = (updates.elim page fun changes =>
      page.update (changes.filterKeys fun k => k != "id" && k != "version").entries).get? name by
    cases updates with
    | none => rfl
    | some changes => exact (merged changes).symm]
  rw [← get?_setText, ← get?_setText]
  cases updates <;> cases title <;> cases body <;> rfl

theorem getD_str_iff {changes : PageData} {name t : String} :
    (∃ t', (changes.get? name).getD (.str t) = .str t') ↔ StringOrAbsent changes name := by
  unfold StringOrAbsent
  cases found : changes.get? name <;> simp

/-- A page with the changes merged in is a page exactly when the text fields stay strings. -/
theorem mergeChanges_texts (p : Page) (updates : Option PageData) (title body : Option String) :
    (∀ name ∈ ["space_id", "title", "body", "owner_id"], ∃ t,
      (mergeChanges p.modelDump updates title body).get? name = some (.str t)) ↔ TextUpdates updates title body := by
  simp only [List.forall_mem_cons, List.not_mem_nil, false_imp_iff, implies_true, and_true,
    mergeChanges_get? (show "space_id" ≠ "id" ∧ "space_id" ≠ "version" by decide),
    mergeChanges_get? (show "title" ≠ "id" ∧ "title" ≠ "version" by decide),
    mergeChanges_get? (show "body" ≠ "id" ∧ "body" ≠ "version" by decide),
    mergeChanges_get? (show "owner_id" ≠ "id" ∧ "owner_id" ≠ "version" by decide)]
  cases updates with
  | none => cases title <;> cases body <;> simp [TextUpdates]
  | some changes =>
    cases title <;> cases body <;> simp [TextUpdates, getD_str_iff] <;> tauto

/-- The page as `update_page` leaves it in the store, valid or not. -/
def bumped (p : Page) (updates : Option PageData) (title body : Option String) : PageData :=
  (mergeChanges p.modelDump updates title body).set "version" (.int (p.version + 1))

theorem bumped_version (p : Page) (updates : Option PageData) (title body : Option String) :
    (bumped p updates title body).get? "version" = some (.int (p.version + 1)) :=
  Dict.get?_set_self _ _ _

theorem bumped_id (p : Page) (updates : Option PageData) (title body : Option String) :
    (bumped p updates title body).get? "id" = some (.str p.id) := by
  rw [bumped, Dict.get?_set_ne _ _ (by decide), mergeChanges_kept (Or.inl rfl), p.get?_id]

theorem bumped_valid [LaxInt] (p : Page) (updates : Option PageData) (title body : Option String) :
    (∃ q, pageModel (.ofDict (bumped p updates title body)) = .ok q) ↔ TextUpdates updates title body := by
  have other : ∀ name ∈ ["space_id", "title", "body", "owner_id"],
      (bumped p updates title body).get? name = (mergeChanges p.modelDump updates title body).get? name := by
    intro name member
    refine Dict.get?_set_ne _ _ ?_
    rintro rfl
    simp at member
  rw [← mergeChanges_texts p]
  constructor
  · rintro ⟨q, model⟩ name member
    rw [← other name member]
    obtain ⟨-, space, title, body, owner⟩ := modelValidate_strings model
    simp only [List.mem_cons, List.not_mem_nil, or_false] at member
    obtain rfl | rfl | rfl | rfl := member
    · exact ⟨_, space⟩
    · exact ⟨_, title⟩
    · exact ⟨_, body⟩
    · exact ⟨_, owner⟩
  · intro texts
    refine exists_pageModel (bumped_version p updates title body) fun name member => ?_
    by_cases id : name = "id"
    · exact ⟨p.id, id ▸ bumped_id p updates title body⟩
    · have kept : name ∈ ["space_id", "title", "body", "owner_id"] := by
        simpa [id] using member
      rw [other name kept]
      exact texts name kept

section Update

variable {s : ConfluenceStore} {k : String} {p : Page} {updates : Option PageData} {title body : Option String}
  {expected : Option Int}

theorem bumpVersion_merged : ({ s with
      pages := s.pages.set k (mergeChanges p.modelDump updates title body) } : ConfluenceStore).bumpVersion k =
    (.ok (p.version + 1), { s with pages := s.pages.set k (bumped p updates title body) }) := by
  have version : (mergeChanges p.modelDump updates title body).get? "version" = some (.int p.version) := by
    rw [mergeChanges_kept (Or.inr rfl), p.get?_version]
  have number : currentVersion (mergeChanges p.modelDump updates title body) = .ok p.version := by
    simp [currentVersion, version, pyIntOf]
  simp [bumpVersion, requirePage, number, bumped]

theorem updatePage_refused [LaxInt] (found : s.pages.get? k = some p.modelDump) (current : ∀ n ∈ expected, n = p.version)
    {e : PyError} {s' : ConfluenceStore}
    (refused : ({ s with pages := s.pages.set k (bumped p updates title body) } : ConfluenceStore).appendVersion k none =
      (.error e, s')) : s.updatePage k updates title body expected = (.error e, s') := by
  simp only [updatePage, requirePage_ok found, checkExpectedVersion_page current, bumpVersion_merged, refused]

theorem updatePage_appended [LaxInt] (found : s.pages.get? k = some p.modelDump) (current : ∀ n ∈ expected, n = p.version)
    {q : Page} {s' : ConfluenceStore}
    (appended : ({ s with pages := s.pages.set k (bumped p updates title body) } : ConfluenceStore).appendVersion k none =
      (.ok q, s')) : s.updatePage k updates title body expected =
        (s'.requirePage k >>= fun page => pageModel (.ofDict page), s') := by
  simp only [updatePage, requirePage_ok found, checkExpectedVersion_page current, bumpVersion_merged, appended]

theorem appendVersion_invalid [LaxInt] {d : PageData} (found : s.pages.get? k = some d)
    (invalid : ∀ q, pageModel (.ofDict d) = .ok q → q.id ≠ k) :
    ∃ e, s.appendVersion k none = (.error e, s) := by
  unfold appendVersion
  simp only [requirePage_ok found, bind, Except.bind]
  cases model : pageModel (.ofDict d) with
  | error e => exact ⟨e, rfl⟩
  | ok q => exact ⟨_, by simp [invalid q model, throw, throwThe, MonadExceptOf.throw]; rfl⟩

/-- The changed page is one exactly when it keeps its key and its text fields stay strings. -/
theorem appendVersion_bumped [LaxInt] (found : s.pages.get? k = some (bumped p updates title body)) :
    (p.id = k ∧ TextUpdates updates title body → ∃ q s', s.appendVersion k none = (.ok q, s') ∧ s'.pages = s.pages ∧
      pageModel (.ofDict (bumped p updates title body)) = .ok q) ∧
    (¬ (p.id = k ∧ TextUpdates updates title body) → ∃ e, s.appendVersion k none = (.error e, s)) := by
  constructor
  · rintro ⟨own, texts⟩
    obtain ⟨q, model⟩ := (bumped_valid p updates title body).mpr texts
    have first : pageFields <+: (bumped p updates title body).keys :=
      Dict.prefix_keys_set (mergeChanges_first p.pageFields_prefix _ _ _) _ _
    have dump := Page.modelDump_of_pageModel first (bumped_version p updates title body) model
    have id : q.id = k := by
      have same := bumped_id p updates title body
      rw [dump, q.get?_id, own] at same
      exact Json.str.inj (Option.some.inj same)
    rw [dump, ← id] at found
    rw [← id]
    exact ⟨q, _, appendVersion_page found, rfl, model⟩
  · intro broken
    refine appendVersion_invalid found fun q model own => broken ⟨?_, (bumped_valid p updates title body).mp ⟨q, model⟩⟩
    have same : (bumped p updates title body).get? "id" = some (.str q.id) := (modelValidate_strings model).1
    rw [bumped_id, own] at same
    exact Json.str.inj (Option.some.inj same)

end Update

/-- A failing update leaves the store as it was. -/
def UpdatesAtomically [LaxInt] (s : ConfluenceStore) (pageId : String) (updates : Option PageData) (title body : Option String)
    (expectedVersion : Option Int) : Prop :=
  ∀ e, (s.updatePage pageId updates title body expectedVersion).1 = .error e →
    (s.updatePage pageId updates title body expectedVersion).2 = s

/-- Where the guard passes, the page is stored under its own id and its text fields are set to strings. -/
def CleanUpdate (s : ConfluenceStore) (pageId : String) (updates : Option PageData) (title body : Option String)
    (expectedVersion : Option Int) : Prop :=
  ∀ page, s.pages.get? pageId = some page → (∀ n ∈ expectedVersion, page.get? "version" = some (.int n)) →
    page.get? "id" = some (.str pageId) ∧ TextUpdates updates title body

theorem Valid.atomic_iff_clean [LaxInt] {s : ConfluenceStore} (valid : s.Valid) (k : String) (updates : Option PageData)
    (title body : Option String) (expected : Option Int) :
    s.UpdatesAtomically k updates title body expected ↔ s.CleanUpdate k updates title body expected := by
  unfold UpdatesAtomically CleanUpdate
  cases found : s.pages.get? k with
  | none =>
    have refused : s.updatePage k updates title body expected = (.error (.keyError s!"unknown page: {k}"), s) := by
      simp [updatePage, requirePage, found]
    simp [refused]
  | some d =>
    obtain ⟨p, rfl⟩ := valid.pages found
    simp only [Option.some.injEq, forall_eq', Page.get?_version, Page.get?_id, Json.int.injEq, Json.str.injEq]
    by_cases current : ∀ n ∈ expected, n = p.version
    · have changed := appendVersion_bumped (s := { s with pages := s.pages.set k (bumped p updates title body) }) (k := k)
        (Dict.get?_set_self _ _ _)
      have passed : ∀ n ∈ expected, p.version = n := fun n member => (current n member).symm
      by_cases clean : p.id = k ∧ TextUpdates updates title body
      · obtain ⟨q, s', appended, pages, model⟩ := changed.1 clean
        refine iff_of_true ?_ fun _ => clean
        have shown : s'.requirePage k = .ok (bumped p updates title body) := by
          refine requirePage_ok ?_
          rw [pages]
          exact Dict.get?_set_self _ _ _
        rw [updatePage_appended found current appended]
        simp only [shown, bind, Except.bind, model]
        intro e raised
        cases raised
      · obtain ⟨e, refused⟩ := changed.2 clean
        refine iff_of_false ?_ fun holds => clean (holds passed)
        rw [updatePage_refused found current refused]
        intro kept
        have same := kept e rfl
        have version := congrArg (fun s : ConfluenceStore => (s.pages.get? k).bind (·.get? "version")) same
        simp only [Dict.get?_set_self, found, Option.bind_some, bumped_version, p.get?_version, Option.some.injEq,
          Json.int.injEq] at version
        omega
    · obtain ⟨n, rfl, stale⟩ : ∃ n, expected = some n ∧ p.version ≠ n := by
        push Not at current
        obtain ⟨n, member, different⟩ := current
        exact ⟨n, member, Ne.symm different⟩
      rw [updatePage_stale found stale]
      exact iff_of_true (fun _ _ => rfl) fun passed => absurd (passed n rfl) stale

/-- The stores the constructor and `restore` accept. -/
inductive Accepted [LaxInt] : ConfluenceStore → Prop
  | constructed {resources : Dict String Json} {s : ConfluenceStore} (domainId schemaVersion : String)
      (built : ofResources resources = .ok s) : Accepted { s with domainId, schemaVersion }
  | restored {s s' : ConfluenceStore} {snap : WorldSnapshot} (ran : s.restore snap = (.ok (), s')) : Accepted s'

theorem valid_of_loaded [LaxInt] {s : ConfluenceStore} {pages histories : Json} (pagesRead : loadPages pages = .ok s.pages)
    (historiesRead : loadHistories histories = .ok s.pageVersions) : s.Valid := by
  have dump : ∀ {v : Json} {d : PageData}, pageData v = .ok d → ∃ p : Page, d = p.modelDump := by
    intro v d read
    obtain ⟨p, -, dump⟩ := exists_page_of_pageData read
    exact ⟨p, dump⟩
  constructor
  · intro k d found
    cases pages with
    | obj kvs =>
      obtain ⟨v, -, read⟩ := Dict.get?_mapValuesM pagesRead found
      exact dump read
    | _ => simp [loadPages] at pagesRead
  · intro k d member
    unfold getPageVersions at member
    cases found : s.pageVersions.get? k with
    | none => simp [found] at member
    | some ds =>
      rw [found, Option.getD_some] at member
      cases histories with
      | obj kvs =>
        obtain ⟨v, -, read⟩ := Dict.get?_mapValuesM historiesRead found
        obtain ⟨entries, -, mapped⟩ := bind_eq_ok_iff.mp read
        obtain ⟨entry, -, data⟩ := mem_of_mapM mapped member
        exact dump data
      | _ => simp [loadHistories] at historiesRead

theorem Accepted.valid [LaxInt] {s : ConfluenceStore} (accepted : s.Accepted) : s.Valid := by
  cases accepted with
  | constructed domainId schemaVersion built =>
    unfold ofResources at built
    obtain ⟨pages, pagesRead, built⟩ := bind_eq_ok_iff.mp built
    obtain ⟨histories, historiesRead, built⟩ := bind_eq_ok_iff.mp built
    obtain rfl := Except.ok.inj built
    exact valid_of_loaded pagesRead historiesRead
  | @restored s₀ _ snap ran =>
    cases pagesRead : loadPages (resourceKind snap.resources "pages") with
    | error e =>
      rw [restore_pages_error pagesRead] at ran
      cases ran
    | ok pages =>
      cases historiesRead : loadHistories (resourceKind snap.resources "page_versions") with
      | error e =>
        rw [restore_histories_error pagesRead historiesRead] at ran
        cases ran
      | ok histories =>
        rw [restore_ok pagesRead historiesRead] at ran
        obtain ⟨-, rfl⟩ := Prod.mk.inj ran
        exact valid_of_loaded pagesRead historiesRead

/-- A failing update goes unnoticed only where the page is clean or the guard refuses. -/
theorem updatesAtomically_iff [LaxInt] {s : ConfluenceStore} (accepted : s.Accepted) (pageId : String)
    (updates : Option PageData) (title body : Option String) (expectedVersion : Option Int) :
    s.UpdatesAtomically pageId updates title body expectedVersion ↔
      s.CleanUpdate pageId updates title body expectedVersion :=
  accepted.valid.atomic_iff_clean pageId updates title body expectedVersion

theorem homeKinds_nodup : ["pages"].Nodup := List.nodup_singleton _

def homeResources : Dict String Json where
  entries := [("pages", .obj [("home", .obj [("id", .str "home"), ("space_id", .str "eng"), ("title", .str "Home"),
    ("body", .str "Hello"), ("version", .int 1), ("owner_id", .str "ann")])])]
  nodup := homeKinds_nodup

def numericTitle : PageData := ⟨[("title", .int 3)], List.nodup_singleton _⟩

def textTitle : PageData := ⟨[("title", .str "Plan")], List.nodup_singleton _⟩

theorem exists_home : ∃ s : ConfluenceStore, @Accepted plainInts s ∧
    ∃ page, s.pages.get? "home" = some page ∧ page.get? "id" = some (.str "home") ∧
      page.get? "version" = some (.int 1) := by
  let _ := plainInts
  cases built : ofResources homeResources with
  | error e => cases built
  | ok s =>
    refine ⟨_, .constructed s.domainId s.schemaVersion built, ?_⟩
    obtain rfl := Except.ok.inj built
    exact ⟨_, rfl, rfl, rfl⟩

/-- An update that sets the title to a number raises, and the page has changed. -/
theorem numeric_title_kept : ∃ s : ConfluenceStore, @Accepted plainInts s ∧
    ¬ @UpdatesAtomically plainInts s "home" (some numericTitle) none none none := by
  let _ := plainInts
  obtain ⟨s, accepted, page, found, -, -⟩ := exists_home
  refine ⟨s, accepted, fun atomic => ?_⟩
  rw [accepted.valid.atomic_iff_clean] at atomic
  obtain ⟨-, texts⟩ := atomic page found (by simp)
  obtain ⟨-, -, title, -⟩ := texts numericTitle rfl
  obtain ⟨t, number⟩ := title rfl (.int 3) rfl
  cases number

theorem updatesAtomically_text_title : ∃ s : ConfluenceStore, @Accepted plainInts s ∧
    @UpdatesAtomically plainInts s "home" (some textTitle) none none (some 1) := by
  let _ := plainInts
  obtain ⟨s, accepted, page, found, id, version⟩ := exists_home
  refine ⟨s, accepted, (updatesAtomically_iff accepted "home" (some textTitle) none none (some 1)).mpr ?_⟩
  intro page' found' _
  obtain rfl := Option.some.inj (found.symm.trans found')
  refine ⟨id, ?_⟩
  rintro _ ⟨⟩
  refine ⟨?_, ?_, ?_, ?_⟩
  · intro v set
    cases set
  · intro v set
    cases set
  · intro _ v set
    exact ⟨"Plan", (Option.some.inj set).symm⟩
  · intro _ v set
    cases set

end ConfluenceStore

end AgentGym.World
