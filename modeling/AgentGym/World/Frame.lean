import AgentGym.World.Coherent

/-!
# What a request may change

A request changes the world only when it is an authorised update or creation that the API
answers with success, and then it changes one page and its history.
-/

namespace AgentGym.World

def Response.status : Response → Nat
  | .page status _ => status
  | .pageList _ _ _ _ | .versions _ | .edited _ => 200
  | .error status _ _ => status
  | .validationError => 422
  | .serverError => 500

/-- A 2xx answer. -/
def Response.isSuccess (r : Response) : Bool := 200 ≤ r.status && r.status < 300

/-- The routes that only read. -/
def ApiCall.reads : ApiCall → Bool
  | .listPages _ _ | .searchPages _ _ _ _ | .getPage _ | .getPageVersions _ => true
  | .createPage _ | .updatePage _ _ _ | .malformed _ => false

/-! ### Refusals -/

theorem resolveActor_refused {s : ConfluenceStore} {header : Option String} {r : Response}
    (h : resolveActor s header = .error r) : r.isSuccess = false := by
  unfold resolveActor at h
  repeat' split at h
  all_goals first | (simp at h; done) | (obtain rfl := Except.error.inj h; rfl)

theorem parseIfVersion_refused {header : Option String} {r : Response} (h : parseIfVersion header = .error r) :
    r.isSuccess = false := by
  unfold parseIfVersion at h
  repeat' split at h
  all_goals first | (simp at h; done) | (obtain rfl := Except.error.inj h; rfl)

section Requests

variable [PyText] {s : ConfluenceStore}

theorem createPage_refused {header : Option String} {actor : ActorIdentity} {payload : PageCreateRequest}
    (refused : accepted (.request header (.createPage payload)) (createPage s actor payload).1 = none) :
    (createPage s actor payload).1.isSuccess = false := by
  revert refused
  unfold createPage
  split
  · intro _; rfl
  · intro _; rfl
  · split
    · intro _; rfl
    · intro _; rfl
    · split
      · intro _; rfl
      · split
        · intro refused
          cases refused
        · intro _; rfl

theorem updatePage_refused {header : Option String} {actor : ActorIdentity} {pageId : String}
    {payload : PageUpdateRequest} {ifVersion : Option String}
    (refused : accepted (.request header (.updatePage pageId payload ifVersion))
      (updatePage s actor pageId payload ifVersion).1 = none) :
    (updatePage s actor pageId payload ifVersion).1.isSuccess = false := by
  revert refused
  unfold updatePage
  split
  · intro _; rfl
  · split
    · intro _; rfl
    · intro _
      unfold forbiddenUpdate
      split <;> rfl
    · split
      · rename_i unparsed
        intro _
        exact parseIfVersion_refused unparsed
      · split
        · intro _; rfl
        · split
          · intro _; rfl
          · split
            · intro refused
              cases refused
            · intro _; rfl
            · intro _; rfl

theorem request_refused {header : Option String} {apiCall : ApiCall} (writes : apiCall.reads = false)
    (refused : accepted (.request header apiCall) (request s header apiCall).1 = none) :
    (request s header apiCall).1.isSuccess = false := by
  revert refused
  unfold request
  split
  · intro _; rfl
  · split
    · rename_i unresolved
      intro _
      exact resolveActor_refused unresolved
    · rename_i actor _
      intro refused
      cases apiCall with
      | createPage payload => exact createPage_refused refused
      | updatePage pageId payload ifVersion => exact updatePage_refused refused
      | malformed parsed => rfl
      | listPages limit offset => cases writes
      | searchPages q body limit offset => cases writes
      | getPage pageId => cases writes
      | getPageVersions pageId => cases writes

/-! ### The frame -/

/-- Refused requests and reads change nothing; a successful update or creation was authorised, and changes one page
and its history; no request changes the users, the spaces or the permissions. -/
theorem requests_framed (h : s.Coherent) (header : Option String) (apiCall : ApiCall) :
    let r := (request s header apiCall).1
    let s' := (request s header apiCall).2
    (r.isSuccess = false ∨ apiCall.reads = true → s' = s) ∧
    (∀ pageId payload ifVersion, apiCall = .updatePage pageId payload ifVersion → r.isSuccess = true →
      ∃ (actor : ActorIdentity) (p : Page), resolveActor s header = .ok actor ∧
        s.pages.get? pageId = some p.modelDump ∧
        canWritePage s p.modelDump actor = .ok true ∧ parseIfVersion ifVersion = .ok p.version ∧
        let q := p.changed payload.title payload.body
        s'.pages = s.pages.set pageId q.modelDump ∧
          s'.pageVersions = s.pageVersions.set pageId (s.getPageVersions pageId ++ [q.modelDump])) ∧
    (∀ payload, apiCall = .createPage payload → r.isSuccess = true →
      ∃ actor, resolveActor s header = .ok actor ∧ s.pages.get? payload.id = none ∧
        canCreatePage s payload.spaceId actor = .ok true ∧
        let p := payload.page actor
        s'.pages = s.pages.set payload.id p.modelDump ∧
          s'.pageVersions = s.pageVersions.set payload.id [p.modelDump]) ∧
    s'.users = s.users ∧ s'.spaces = s.spaces ∧ s'.permissions = s.permissions := by
  have refusal := @request_refused _ s header apiCall
  have effect := handle_effect h.valid h.keyed (.request header apiCall)
  dsimp only [handle] at effect
  dsimp only
  revert refusal effect
  generalize (request s header apiCall).1 = r
  generalize (request s header apiCall).2 = s'
  intro refusal effect
  cases effect with
  | idle refused _ =>
    refine ⟨fun _ => rfl, ?_, ?_, rfl, rfl, rfl⟩
    · rintro pageId payload ifVersion rfl success
      exact absurd success (by simp [refusal rfl refused])
    · rintro payload rfl success
      exact absurd success (by simp [refusal rfl refused])
  | @created _ actor payload resolved space allowed fresh =>
    refine ⟨?_, ?_, ?_, rfl, rfl, rfl⟩
    · rintro (failed | read)
      · cases failed
      · cases read
    · intro _ _ _ other
      cases other
    · intro _ same _
      obtain rfl := ApiCall.createPage.inj same
      exact ⟨actor, resolved, fresh, allowed, rfl, rfl⟩
  | @updated _ actor p payload ifVersion resolved found allowed current =>
    refine ⟨?_, ?_, ?_, rfl, rfl, rfl⟩
    · rintro (failed | read)
      · cases failed
      · cases read
    · intro _ _ _ same _
      obtain ⟨rfl, rfl, rfl⟩ := ApiCall.updatePage.inj same
      exact ⟨actor, p, resolved, found, allowed, current, rfl, rfl⟩
    · intro _ other
      cases other

end Requests

theorem requests_framed_home :
    let home : Page := ⟨"home", "eng", "Home", "Hello", 1, "ann", Dict.empty, Page.noExtras⟩
    let s := ConfluenceStore.soloStore ["ann"] home
    let ran := @request asciiText s (some "ann") (.updatePage "home" ⟨none, some "Edited"⟩ (some "1"))
    ran.1.isSuccess = true ∧ ran.2.users = s.users ∧ ∃ (actor : ActorIdentity) (p : Page),
      resolveActor s (some "ann") = .ok actor ∧ @canWritePage asciiText s p.modelDump actor = .ok true ∧
        ran.2.pages = s.pages.set "home" (p.changed none (some "Edited")).modelDump := by
  intro home s ran
  have success : ran.1.isSuccess = true := by decide +kernel
  have framed := @requests_framed asciiText s (ConfluenceStore.soloStore_coherent ["ann"] rfl) (some "ann")
    (.updatePage "home" ⟨none, some "Edited"⟩ (some "1"))
  obtain ⟨actor, p, resolved, _, allowed, _, pages, _⟩ := framed.2.1 "home" _ _ rfl success
  exact ⟨success, framed.2.2.2.1, actor, p, resolved, allowed, pages⟩

end AgentGym.World
