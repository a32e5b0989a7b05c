import AgentGym.World.Routes

/-!
# What a call does

`handle_effect` says once what a call can do to a store: nothing, create one page, or
append one version to one page. Every invariant of the world is read off it.
-/

namespace AgentGym.World

/-! ### Writes and showings -/

/-- A write the API answered with success. -/
inductive Write where
  | create (payload : PageCreateRequest)
  | change (pageId : String) (title body : Option String)

def Write.pageId : Write → String
  | .create payload => payload.id
  | .change pageId _ _ => pageId

def accepted : Event → Response → Option Write
  | .request _ (.createPage payload), .page 201 _ => some (.create payload)
  | .request _ (.updatePage pageId payload _), .page 200 _ =>
    some (.change pageId payload.title payload.body)
  | .humanEdit edit, .edited _ => some (.change edit.pageId none (some edit.body))
  | _, _ => none

/-- The pages a response shows, each under the id it was asked for or carries. -/
def shows : Event → Response → List (String × Page)
  | _, .page _ page => [(page.id, page)]
  | _, .pageList items _ _ _ => items.map fun page => (page.id, page)
  | .request _ (.getPageVersions pageId), .versions items => items.map fun page => (pageId, page)
  | _, .edited page => [(page.id, page)]
  | _, _ => []

def Response.isFailure : Response → Bool
  | .error _ _ _ | .validationError | .serverError => true
  | _ => false

theorem accepted_failure {e : Event} {r : Response} (h : r.isFailure = true) : accepted e r = none := by
  cases r <;> simp [Response.isFailure] at h <;> unfold accepted <;> split <;> simp_all

theorem shows_failure {e : Event} {r : Response} (h : r.isFailure = true) : shows e r = [] := by
  cases r <;> simp [Response.isFailure] at h <;> rfl

/-- The next version of a page. -/
def Page.changed (p : Page) (title body : Option String) : Page :=
  { p with title := title.getD p.title, body := body.getD p.body, version := p.version + 1 }

@[simp] theorem Page.changed_id (p : Page) (title body : Option String) :
    (p.changed title body).id = p.id := rfl

@[simp] theorem Page.changed_version (p : Page) (title body : Option String) :
    (p.changed title body).version = p.version + 1 := rfl

theorem parseIfVersion_error {header : Option String} {r : Response}
    (h : parseIfVersion header = .error r) : r.isFailure = true := by
  unfold parseIfVersion at h
  repeat' split at h
  all_goals first | (simp at h; done) | (obtain rfl := Except.error.inj h; rfl)

theorem resolveActor_error {s : ConfluenceStore} {header : Option String} {r : Response}
    (h : resolveActor s header = .error r) : r.isFailure = true := by
  unfold resolveActor at h
  repeat' split at h
  all_goals first | (simp at h; done) | (obtain rfl := Except.error.inj h; rfl)

/-! ### Updates through the API -/

namespace ConfluenceStore

theorem mergeChanges_payload (p : Page) (payload : PageUpdateRequest) :
    mergeChanges p.modelDump (some payload.updates) none none =
      { p with title := payload.title.getD p.title, body := payload.body.getD p.body }.modelDump := by
  have kept : (payload.updates.filterKeys fun k => k != "id" && k != "version").entries =
      (payload.title.map fun t => ("title", Json.str t)).toList ++
        (payload.body.map fun b => ("body", Json.str b)).toList := by
    obtain ⟨title, body⟩ := payload
    cases title <;> cases body <;> rfl
  simp only [mergeChanges, kept]
  cases payload.title <;> cases payload.body <;> simp [Dict.update]

theorem mergeChanges_body (p : Page) (body : String) :
    mergeChanges p.modelDump none none (some body) = { p with body := body }.modelDump := by
  simp [mergeChanges]

theorem updatePage_payload [LaxInt] {s : ConfluenceStore} {p : Page} (payload : PageUpdateRequest)
    (found : s.pages.get? p.id = some p.modelDump) :
    s.updatePage p.id (some payload.updates) none none (some p.version) =
      (.ok (p.changed payload.title payload.body), s.updated (p.changed payload.title payload.body)) :=
  updatePage_ok (q := { p with title := payload.title.getD p.title, body := payload.body.getD p.body })
    found (mergeChanges_payload p payload) (by simp)

theorem updatePage_body [LaxInt] {s : ConfluenceStore} {p : Page} (body : String)
    (found : s.pages.get? p.id = some p.modelDump) :
    s.updatePage p.id none none (some body) (some p.version) =
      (.ok (p.changed none (some body)), s.updated (p.changed none (some body))) :=
  updatePage_ok (q := { p with body := body }) found (mergeChanges_body p body) (by simp)

end ConfluenceStore

theorem currentVersion_page (p : Page) : currentVersion p.modelDump = .ok p.version := by
  simp [currentVersion, pyIntOf]

/-! ### The effect of a call -/

section Effects

variable [PyText]

/-- The caller of `e` may read page `k`, and `p` is that page now or at an earlier version. -/
def Visible (s : ConfluenceStore) (e : Event) (k : String) (p : Page) : Prop :=
  ∃ header apiCall actor d, e = .request header apiCall ∧ resolveActor s header = .ok actor ∧
    s.pages.get? k = some d ∧ canReadPage s d actor = .ok true ∧
    (d = p.modelDump ∨ p.modelDump ∈ s.getPageVersions k)

inductive Effect (s : ConfluenceStore) : Event → Response → ConfluenceStore → Prop where
  | idle {e : Event} {r : Response} (refused : accepted e r = none)
      (shown : ∀ x ∈ shows e r, Visible s e x.1 x.2) : Effect s e r s
  | created {header : Option String} {actor : ActorIdentity} {payload : PageCreateRequest}
      (resolved : resolveActor s header = .ok actor)
      (space : unknownSpace s.spaces payload.spaceId = .ok false)
      (allowed : canCreatePage s payload.spaceId actor = .ok true)
      (fresh : s.pages.get? payload.id = none) :
      Effect s (.request header (.createPage payload)) (.page 201 (payload.page actor))
        (s.created (payload.page actor))
  | updated {header : Option String} {actor : ActorIdentity} {p : Page} {payload : PageUpdateRequest}
      {ifVersion : Option String} (resolved : resolveActor s header = .ok actor)
      (found : s.pages.get? p.id = some p.modelDump)
      (allowed : canWritePage s p.modelDump actor = .ok true)
      (current : parseIfVersion ifVersion = .ok p.version) :
      Effect s (.request header (.updatePage p.id payload ifVersion))
        (.page 200 (p.changed payload.title payload.body))
        (s.updated (p.changed payload.title payload.body))
  | edited {p : Page} {edit : HumanEditRequest} (target : edit.pageId = p.id)
      (found : s.pages.get? p.id = some p.modelDump) :
      Effect s (.humanEdit edit) (.edited (p.changed none (some edit.body)))
        (s.updated (p.changed none (some edit.body)))

theorem page_of_response {s : ConfluenceStore} (valid : s.Valid) (keyed : s.Keyed) {d : PageData}
    (member : d ∈ s.pages.values) {p : Page} (h : pageResponse d = .ok p) :
    s.pages.get? p.id = some d ∧ d = p.modelDump := by
  obtain ⟨k, found⟩ := Dict.mem_values_iff.mp member
  obtain ⟨q, rfl⟩ := valid.pages found
  obtain rfl := Except.ok.inj (q.pageResponse_modelDump.symm.trans h)
  exact ⟨(ConfluenceStore.keyed_page keyed found).symm ▸ found, rfl⟩

theorem visibleList_shown {s : ConfluenceStore} {actor : ActorIdentity} {query : Option String}
    {stored : List PageData} {pages : List Page} (listed : visibleList s actor query stored = .ok pages)
    {p : Page} (member : p ∈ pages) :
    ∃ d ∈ stored, canReadPage s d actor = .ok true ∧ pageResponse d = .ok p := by
  induction stored generalizing pages with
  | nil =>
    obtain rfl := Except.ok.inj listed
    simp at member
  | cons d rest ih =>
    obtain ⟨reads, permitted, listed⟩ := bind_eq_ok_iff.mp listed
    have later : ∀ {others}, visibleList s actor query rest = .ok others → p ∈ others →
        ∃ d' ∈ d :: rest, canReadPage s d' actor = .ok true ∧ pageResponse d' = .ok p := by
      intro others found inside
      obtain ⟨d', kept, facts⟩ := ih found inside
      exact ⟨d', List.mem_cons_of_mem _ kept, facts⟩
    split at listed
    · rename_i both
      obtain ⟨shown, response, listed⟩ := bind_eq_ok_iff.mp listed
      obtain ⟨others, found, listed⟩ := bind_eq_ok_iff.mp listed
      obtain rfl := Except.ok.inj listed
      rcases List.mem_cons.mp member with rfl | inside
      · refine ⟨d, List.mem_cons_self, ?_, response⟩
        rw [permitted, (Bool.and_eq_true_iff.mp both).1]
      · exact later found inside
    · exact later listed member

theorem Effect.failure {s : ConfluenceStore} {e : Event} {r : Response} (h : r.isFailure = true) :
    Effect s e r s :=
  .idle (accepted_failure h) (by simp [shows_failure h])

variable {s : ConfluenceStore} (valid : s.Valid) (keyed : s.Keyed) {header : Option String}
  {actor : ActorIdentity} (resolved : resolveActor s header = .ok actor)
include valid keyed resolved

theorem browse_effect {query : Option String} {limit offset : Int} {apiCall : ApiCall}
    (reading : ∀ items total l o, accepted (.request header apiCall) (.pageList items total l o) = none) :
    Effect s (.request header apiCall) (browse s actor query limit offset) s := by
  unfold browse
  split
  · split
    · rename_i pages listed
      refine .idle (reading _ _ _ _) ?_
      intro x member
      obtain ⟨p, window, rfl⟩ := List.mem_map.mp member
      have sorted := List.mem_of_mem_drop (List.mem_of_mem_take window)
      unfold visiblePages at listed
      obtain ⟨all, gathered, listed⟩ := bind_eq_ok_iff.mp listed
      obtain rfl := Except.ok.inj listed
      obtain ⟨d, stored, permitted, same⟩ :=
        visibleList_shown gathered ((List.mem_insertionSort _).mp sorted)
      obtain ⟨found, dump⟩ := page_of_response valid keyed stored same
      exact ⟨header, apiCall, actor, d, rfl, resolved, found, permitted, Or.inl dump⟩
    · exact .failure rfl
  · exact .failure rfl

theorem getPage_effect (pageId : String) :
    Effect s (.request header (.getPage pageId)) (getPage s actor pageId) s := by
  unfold getPage readable
  split
  · exact .failure rfl
  · rename_i d found
    obtain ⟨p, rfl⟩ := valid.pages found
    split
    · exact .failure rfl
    · rename_i allowed
      simp only [p.pageResponse_modelDump]
      refine .idle rfl ?_
      intro x member
      obtain rfl := List.mem_singleton.mp member
      obtain rfl := ConfluenceStore.keyed_page keyed found
      exact ⟨header, _, actor, _, rfl, resolved, found, allowed, Or.inl rfl⟩
    · exact .failure rfl

omit keyed in
theorem getPageVersions_effect (pageId : String) :
    Effect s (.request header (.getPageVersions pageId)) (getPageVersions s actor pageId) s := by
  unfold getPageVersions readable
  split
  · exact .failure rfl
  · rename_i d found
    split
    · exact .failure rfl
    · rename_i allowed
      split
      · rename_i items listed
        refine .idle rfl ?_
        intro x member
        obtain ⟨p, item, rfl⟩ := List.mem_map.mp member
        obtain ⟨d', entry, same⟩ := mem_of_mapM listed item
        refine ⟨header, _, actor, d, rfl, resolved, found, allowed, Or.inr ?_⟩
        obtain ⟨q, rfl⟩ := valid.histories entry
        obtain rfl := Except.ok.inj (q.pageResponse_modelDump.symm.trans same)
        exact entry
      · exact .failure rfl
    · exact .failure rfl

omit valid keyed in
theorem createPage_effect (payload : PageCreateRequest) :
    Effect s (.request header (.createPage payload)) (createPage s actor payload).1
      (createPage s actor payload).2 := by
  unfold createPage
  split
  · exact .failure rfl
  · exact .failure rfl
  · rename_i space
    split
    · exact .failure rfl
    · exact .failure rfl
    · rename_i allowed
      split
      · exact .failure rfl
      · rename_i absent
        have fresh : s.pages.get? payload.id = none := by
          simpa [Dict.contains] using absent
        rw [ConfluenceStore.addPage_ok (payload.page actor).pageModel_modelDump fresh]
        exact .created resolved space allowed fresh

theorem updatePage_effect (pageId : String) (payload : PageUpdateRequest) (ifVersion : Option String) :
    Effect s (.request header (.updatePage pageId payload ifVersion))
      (updatePage s actor pageId payload ifVersion).1
      (updatePage s actor pageId payload ifVersion).2 := by
  unfold updatePage
  split
  · exact .failure rfl
  · rename_i d found
    obtain ⟨p, rfl⟩ := valid.pages found
    obtain rfl := ConfluenceStore.keyed_page keyed found
    split
    · exact .failure rfl
    · refine .failure ?_
      unfold forbiddenUpdate
      split <;> rfl
    · rename_i allowed
      split
      · rename_i r unparsed
        exact .failure (parseIfVersion_error unparsed)
      · rename_i expected parsed
        rw [currentVersion_page]
        dsimp only
        split
        · exact .failure rfl
        · rename_i current
          obtain rfl := not_not.mp current
          rw [ConfluenceStore.updatePage_payload payload found]
          exact .updated resolved found allowed parsed

omit resolved in
theorem humanEdit_effect (edit : HumanEditRequest) :
    Effect s (.humanEdit edit) (humanEdit s edit).1 (humanEdit s edit).2 := by
  unfold humanEdit
  split
  · exact .failure rfl
  · rename_i d found
    obtain ⟨p, rfl⟩ := valid.pages found
    have target := ConfluenceStore.keyed_page keyed found
    rw [← target] at found ⊢
    simp only [currentVersion_page, ConfluenceStore.updatePage_body edit.body found]
    exact .edited target.symm found

omit resolved in
theorem handle_effect (e : Event) : Effect s e (handle s e).1 (handle s e).2 := by
  cases e with
  | humanEdit edit => exact humanEdit_effect valid keyed edit
  | request header apiCall =>
    simp only [handle, request]
    split
    · exact .failure rfl
    · split
      · rename_i r unresolved
        exact .failure (resolveActor_error unresolved)
      · rename_i actor resolved
        cases apiCall with
        | listPages limit offset =>
          exact browse_effect valid keyed resolved fun _ _ _ _ => rfl
        | searchPages q body limit offset =>
          exact browse_effect valid keyed resolved fun _ _ _ _ => rfl
        | getPage pageId => exact getPage_effect valid keyed resolved pageId
        | getPageVersions pageId => exact getPageVersions_effect valid resolved pageId
        | createPage payload => exact createPage_effect resolved payload
        | updatePage pageId payload ifVersion =>
          exact updatePage_effect valid keyed resolved pageId payload ifVersion
        | malformed parsed => exact .failure rfl

omit resolved in
theorem handle_valid (e : Event) : (handle s e).2.Valid ∧ (handle s e).2.Keyed := by
  have effect := handle_effect valid keyed e
  revert effect
  generalize (handle s e).1 = r
  generalize (handle s e).2 = s'
  intro effect
  cases effect with
  | idle => exact ⟨valid, keyed⟩
  | created =>
    have written := ConfluenceStore.created_written s
    exact ⟨(written _).valid valid, (written _).keyed keyed⟩
  | updated =>
    have written := ConfluenceStore.updated_written s
    exact ⟨(written _).valid valid, (written _).keyed keyed⟩
  | edited =>
    have written := ConfluenceStore.updated_written s
    exact ⟨(written _).valid valid, (written _).keyed keyed⟩

end Effects

end AgentGym.World
