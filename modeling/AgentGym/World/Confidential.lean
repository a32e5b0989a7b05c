import Mathlib.Tactic.FinCases
import AgentGym.World.Coherent

/-!
# Confidentiality of unreadable pages

Two stores look the same to an actor when they differ only in what pages the actor cannot
read say: their titles, bodies, versions, other fields and histories. The fields
authorization reads must agree. No sequence of the actor's requests tells such stores
apart.
-/

namespace AgentGym.World

/-- The page fields authorization reads. -/
def accessFields : List String := ["id", "space_id", "owner_id"] ++ nestedEntryKeys

def SameAccess (d d' : PageData) : Prop := ∀ field ∈ accessFields, d.get? field = d'.get? field

section Resolver

variable [PyText]

omit [PyText] in
theorem spaceEntries_congr {a b : ConfluenceStore} (spaces : a.spaces = b.spaces)
    (permissions : a.permissions = b.permissions) (spaceId : String) (actor : ActorIdentity) :
    permissionEntries a .space spaceId actor = permissionEntries b .space spaceId actor := by
  simp only [permissionEntries, resourceOf, permissions, spaces]

theorem canAccessPage_congr {a b : ConfluenceStore} (users : a.users = b.users)
    (spaces : a.spaces = b.spaces) (permissions : a.permissions = b.permissions) {k : String}
    {d d' : PageData} (found : a.pages.get? k = some d) (found' : b.pages.get? k = some d')
    (id : d.get? "id" = some (.str k)) (same : SameAccess d d') (actor : ActorIdentity)
    (operation : Operation) :
    canAccessPage a d actor operation = canAccessPage b d' actor operation := by
  have idField : d.get? "id" = d'.get? "id" := same "id" (by decide)
  have spaceField : d.get? "space_id" = d'.get? "space_id" := same "space_id" (by decide)
  have ownerField : d.get? "owner_id" = d'.get? "owner_id" := same "owner_id" (by decide)
  have pageId : textField d "id" = k := by simp [textField, id, pyStr]
  have pageId' : textField d' "id" = k := by simp [textField, ← idField, id, pyStr]
  have spaceId : textField d "space_id" = textField d' "space_id" := by simp [textField, spaceField]
  have admin : isGlobalAdmin a actor = isGlobalAdmin b actor := by simp [isGlobalAdmin, users]
  have owner : isPageOwner d actor = isPageOwner d' actor := by simp [isPageOwner, ownerField]
  have embedded : nestedEntryKeys.filterMap (Json.ofDict d).get? =
      nestedEntryKeys.filterMap (Json.ofDict d').get? := by
    apply List.filterMap_congr
    intro field member
    exact same field (List.mem_append_right _ member)
  have pageEntries : permissionEntries a .page k actor = permissionEntries b .page k actor := by
    simp only [permissionEntries, collectEntries, resourceEntries, permissions, resourceOf, found, found',
      Option.map_some, embedded, bind, Except.bind]
  simp only [canAccessPage, pageId, pageId', spaceId, admin, owner, pageEntries,
    spaceEntries_congr spaces permissions]

theorem canCreatePage_congr {a b : ConfluenceStore} (users : a.users = b.users)
    (spaces : a.spaces = b.spaces) (permissions : a.permissions = b.permissions) (spaceId : String)
    (actor : ActorIdentity) : canCreatePage a spaceId actor = canCreatePage b spaceId actor := by
  have admin : isGlobalAdmin a actor = isGlobalAdmin b actor := by simp [isGlobalAdmin, users]
  have owner : isSpaceOwner a spaceId actor = isSpaceOwner b spaceId actor := by
    simp [isSpaceOwner, spaces]
  simp only [canCreatePage, admin, owner, spaceEntries_congr spaces permissions]

end Resolver

/-! ### Pages as a list -/

theorem Dict.entries_of_pages {entries : List (String × PageData)}
    (pages : ∀ e ∈ entries, ∃ p : Page, e = (p.id, p.modelDump)) :
    ∃ ps : List Page, entries = ps.map fun p => (p.id, p.modelDump) := by
  induction entries with
  | nil => exact ⟨[], rfl⟩
  | cons e rest ih =>
    obtain ⟨p, rfl⟩ := pages e List.mem_cons_self
    obtain ⟨ps, rfl⟩ := ih fun e member => pages e (List.mem_cons_of_mem _ member)
    exact ⟨p :: ps, rfl⟩

instance idOrder_total : Std.Total fun p q : Page => p.id ≤ q.id := 
  ⟨fun p q => String.le_total p.id q.id⟩

instance idOrder_trans : IsTrans Page fun p q => p.id ≤ q.id := ⟨fun _ _ _ => String.le_trans⟩

/-- Sorting by distinct ids forgets the order. -/
theorem insertionSort_ids {ps qs : List Page} (distinct : (ps.map Page.id).Nodup)
    (distinct' : (qs.map Page.id).Nodup) (same : ∀ p, p ∈ ps ↔ p ∈ qs) :
    ps.insertionSort (fun p q => p.id ≤ q.id) = qs.insertionSort fun p q => p.id ≤ q.id := by
  have perm : ps.Perm qs :=
    (List.perm_ext_iff_of_nodup (List.Nodup.of_map _ distinct) (List.Nodup.of_map _ distinct')).mpr same
  refine List.Perm.eq_of_pairwise ?_ (List.pairwise_insertionSort (fun p q : Page => p.id ≤ q.id) ps)
    (List.pairwise_insertionSort _ qs) ?_
  · intro p q left right pq qp
    have inPs : p ∈ ps := (List.mem_insertionSort _).mp left
    have inPs' : q ∈ ps := (same q).mpr ((List.mem_insertionSort _).mp right)
    exact List.inj_on_of_nodup_map distinct inPs inPs' (String.le_antisymm pq qp)
  · exact ((List.perm_insertionSort _ _).trans perm).trans (List.perm_insertionSort _ _).symm

theorem ConfluenceStore.pages_list {s : ConfluenceStore} (valid : s.Valid) (keyed : s.Keyed) :
    ∃ ps : List Page, s.pages.values = ps.map Page.modelDump ∧ (ps.map Page.id).Nodup ∧
      ∀ p : Page, p ∈ ps ↔ s.pages.get? p.id = some p.modelDump := by
  have pages : ∀ e ∈ s.pages.entries, ∃ p : Page, e = (p.id, p.modelDump) := by
    rintro ⟨k, d⟩ member
    have found := Dict.mem_entries_iff.mp member
    obtain ⟨p, rfl⟩ := valid.pages found
    exact ⟨p, by rw [keyed_page keyed found]⟩
  obtain ⟨ps, entries⟩ := Dict.entries_of_pages pages
  refine ⟨ps, by simp [Dict.values, entries, Function.comp_def], ?_, ?_⟩
  · have nodup := s.pages.nodup
    simpa [entries, Function.comp_def] using nodup
  · intro p
    rw [← Dict.mem_entries_iff, entries]
    constructor
    · intro member
      exact List.mem_map.mpr ⟨p, member, rfl⟩
    · intro member
      obtain ⟨q, member, same⟩ := List.mem_map.mp member
      rwa [Page.modelDump_injective (Prod.mk.inj same).2] at member

/-! ### Stores an actor cannot tell apart -/

section Relation

variable [PyText]

structure Indistinguishable (actor : ActorIdentity) (a b : ConfluenceStore) : Prop where
  valid : a.Valid ∧ b.Valid
  keyed : a.Keyed ∧ b.Keyed
  users : a.users = b.users
  spaces : a.spaces = b.spaces
  permissions : a.permissions = b.permissions
  ids : ∀ k, (a.pages.get? k).isSome = (b.pages.get? k).isSome
  access : ∀ {k d d'}, a.pages.get? k = some d → b.pages.get? k = some d' → SameAccess d d'
  readable : ∀ {k d d'}, a.pages.get? k = some d → b.pages.get? k = some d' →
    canReadPage a d actor = .ok true → d = d' ∧ a.getPageVersions k = b.getPageVersions k

namespace Indistinguishable

variable {actor : ActorIdentity} {a b : ConfluenceStore} (h : Indistinguishable actor a b)
include h

theorem access_eq {k : String} {d d' : PageData} (found : a.pages.get? k = some d)
    (found' : b.pages.get? k = some d') (operation : Operation) :
    canAccessPage a d actor operation = canAccessPage b d' actor operation :=
  canAccessPage_congr h.users h.spaces h.permissions found found' (h.keyed.1 found)
    (h.access found found') actor operation

theorem symm : Indistinguishable actor b a where
  valid := h.valid.symm
  keyed := h.keyed.symm
  users := h.users.symm
  spaces := h.spaces.symm
  permissions := h.permissions.symm
  ids k := (h.ids k).symm
  access found found' field member := (h.access found' found field member).symm
  readable found found' allowed := by
    have allowed' := (h.access_eq found' found .read).trans allowed
    obtain ⟨same, history⟩ := h.readable found' found allowed'
    exact ⟨same.symm, history.symm⟩

theorem counterpart {k : String} {d : PageData} (found : a.pages.get? k = some d) :
    ∃ d', b.pages.get? k = some d' := by
  have present := h.ids k
  rw [found] at present
  exact Option.isSome_iff_exists.mp present.symm

theorem absent {k : String} (missing : a.pages.get? k = none) : b.pages.get? k = none := by
  have same := h.ids k
  rw [missing] at same
  cases found : b.pages.get? k with
  | none => rfl
  | some d => simp [found] at same

theorem resolveActor_eq (header : Option String) : resolveActor a header = resolveActor b header := by
  simp only [resolveActor, h.users]

/-- Writing the same page with the same history keeps the stores alike. -/
theorem write {p : Page} {a' b' : ConfluenceStore} (wa : a.Written p a') (wb : b.Written p b')
    (same : a'.getPageVersions p.id = b'.getPageVersions p.id) : Indistinguishable actor a' b' where
  valid := ⟨wa.valid h.valid.1, wb.valid h.valid.2⟩
  keyed := ⟨wa.keyed h.keyed.1, wb.keyed h.keyed.2⟩
  users := by rw [wa.users, wb.users, h.users]
  spaces := by rw [wa.spaces, wb.spaces, h.spaces]
  permissions := by rw [wa.permissions, wb.permissions, h.permissions]
  ids k := by
    rw [wa.pages, wb.pages]
    split
    · rfl
    · exact h.ids k
  access := by
    intro k d d' found found'
    rw [wa.pages] at found
    rw [wb.pages] at found'
    split at found
    · rename_i written
      rw [if_pos written] at found'
      rw [← Option.some.inj found, ← Option.some.inj found']
      exact fun _ _ => rfl
    · rename_i other
      rw [if_neg other] at found'
      exact h.access found found'
  readable := by
    intro k d d' found found' allowed
    have written := wa.pages k
    rw [wb.pages] at found'
    by_cases target : k = p.id
    · subst target
      rw [if_pos rfl] at found' written
      exact ⟨Option.some.inj (found.symm.trans (written.trans found')), same⟩
    · rw [if_neg target] at found' written
      have before : a.pages.get? k = some d := written.symm.trans found
      have allowed' : canReadPage a d actor = .ok true := by
        rw [← allowed]
        exact canAccessPage_congr wa.users.symm wa.spaces.symm wa.permissions.symm before found
          (h.keyed.1 before) (fun _ _ => rfl) actor .read
      rw [wa.histories target, wb.histories target]
      exact h.readable before found' allowed'

end Indistinguishable

/-! ### Reading -/

/-- No page raises when the actor's right to read it is asked for. -/
def Resolves (s : ConfluenceStore) (actor : ActorIdentity) : Prop :=
  ∀ k d, s.pages.get? k = some d → ∃ reads, canReadPage s d actor = .ok reads

/-- The page is readable and is what the query looks for. -/
def shown (s : ConfluenceStore) (actor : ActorIdentity) (query : Option String) (p : Page) : Bool :=
  match canReadPage s p.modelDump actor with
  | .ok reads => reads && matchesQuery p.modelDump query
  | .error _ => false

theorem shown_iff {s : ConfluenceStore} {actor : ActorIdentity} {query : Option String} {p : Page} :
    shown s actor query p = true ↔
      canReadPage s p.modelDump actor = .ok true ∧ matchesQuery p.modelDump query = true := by
  unfold shown
  cases canReadPage s p.modelDump actor with
  | error e => simp
  | ok reads => cases reads <;> simp

theorem visibleList_resolved {s : ConfluenceStore} {actor : ActorIdentity} (query : Option String) {ps : List Page}
    (resolved : ∀ p ∈ ps, ∃ reads, canReadPage s p.modelDump actor = .ok reads) :
    visibleList s actor query (ps.map Page.modelDump) = .ok (ps.filter (shown s actor query)) := by
  induction ps with
  | nil => rfl
  | cons p ps ih =>
    obtain ⟨reads, permitted⟩ := resolved p List.mem_cons_self
    have rest := ih fun q member => resolved q (List.mem_cons_of_mem _ member)
    have first : shown s actor query p = (reads && matchesQuery p.modelDump query) := by rw [shown, permitted]
    rw [List.map_cons, visibleList, permitted, rest, List.filter_cons, first, p.pageResponse_modelDump]
    dsimp only [bind, Except.bind, pure, Except.pure]
    split <;> rfl

theorem visibleList_raised {s : ConfluenceStore} {actor : ActorIdentity} (query : Option String) {ps : List Page}
    {p : Page} (member : p ∈ ps) {e : PyError} (raised : canReadPage s p.modelDump actor = .error e) :
    visibleList s actor query (ps.map Page.modelDump) = .error .attributeError := by
  induction ps with
  | nil => cases member
  | cons q ps ih =>
    rw [List.map_cons, visibleList]
    cases first : canReadPage s q.modelDump actor with
    | error e' =>
      rw [(canAccessPage_error first).1]
      rfl
    | ok reads =>
      have inside : p ∈ ps := by
        rcases List.mem_cons.mp member with rfl | inside
        · rw [raised] at first
          cases first
        · exact inside
      rw [q.pageResponse_modelDump, ih inside]
      dsimp only [bind, Except.bind]
      split <;> rfl

theorem visiblePages_resolved {s : ConfluenceStore} {actor : ActorIdentity} (resolves : Resolves s actor)
    {ps : List Page} (values : s.pages.values = ps.map Page.modelDump)
    (stored : ∀ p : Page, p ∈ ps ↔ s.pages.get? p.id = some p.modelDump) (query : Option String) :
    visiblePages s actor query =
      .ok ((ps.filter (shown s actor query)).insertionSort fun p q => p.id ≤ q.id) := by
  rw [visiblePages, values, visibleList_resolved query fun p member => resolves p.id _ ((stored p).mp member)]
  rfl

theorem visiblePages_raised {s : ConfluenceStore} (valid : s.Valid) (keyed : s.Keyed) {actor : ActorIdentity}
    (raises : ¬ Resolves s actor) (query : Option String) :
    visiblePages s actor query = .error .attributeError := by
  obtain ⟨ps, values, -, stored⟩ := ConfluenceStore.pages_list valid keyed
  simp only [Resolves, not_forall, not_exists] at raises
  obtain ⟨k, d, found, never⟩ := raises
  obtain ⟨p, rfl⟩ := valid.pages found
  obtain rfl := ConfluenceStore.keyed_page keyed found
  cases read : canReadPage s p.modelDump actor with
  | ok reads => exact absurd read (never reads)
  | error e =>
    rw [visiblePages, values, visibleList_raised query ((stored p).mpr found) read]
    rfl

namespace Indistinguishable

variable {actor : ActorIdentity} {a b : ConfluenceStore} (h : Indistinguishable actor a b)
include h

theorem shown_of_shown {query : Option String} {p : Page} (found : a.pages.get? p.id = some p.modelDump)
    (seen : shown a actor query p = true) :
    b.pages.get? p.id = some p.modelDump ∧ shown b actor query p = true := by
  obtain ⟨allowed, matched⟩ := shown_iff.mp seen
  obtain ⟨d', found'⟩ := h.counterpart found
  obtain ⟨rfl, _⟩ := h.readable found found' allowed
  exact ⟨found', shown_iff.mpr ⟨(h.access_eq found found' .read).symm.trans allowed, matched⟩⟩

theorem resolves (resolves : Resolves a actor) : Resolves b actor := by
  intro k d' found'
  obtain ⟨d, found⟩ := h.symm.counterpart found'
  obtain ⟨reads, permitted⟩ := resolves k d found
  exact ⟨reads, (h.access_eq found found' .read).symm.trans permitted⟩

theorem visiblePages_eq (query : Option String) :
    visiblePages a actor query = visiblePages b actor query := by
  by_cases resolves : Resolves a actor
  · obtain ⟨ps, values, distinct, stored⟩ := ConfluenceStore.pages_list h.valid.1 h.keyed.1
    obtain ⟨qs, values', distinct', stored'⟩ := ConfluenceStore.pages_list h.valid.2 h.keyed.2
    rw [visiblePages_resolved resolves values stored, visiblePages_resolved (h.resolves resolves) values' stored']
    congr 1
    apply insertionSort_ids
    · exact distinct.sublist (List.filter_sublist.map _)
    · exact distinct'.sublist (List.filter_sublist.map _)
    · intro p
      rw [List.mem_filter, List.mem_filter, stored, stored']
      exact ⟨fun seen => h.shown_of_shown seen.1 seen.2, fun seen => h.symm.shown_of_shown seen.1 seen.2⟩
  · have raises : ¬ Resolves b actor := fun other => resolves (h.symm.resolves other)
    rw [visiblePages_raised h.valid.1 h.keyed.1 resolves, visiblePages_raised h.valid.2 h.keyed.2 raises]

theorem browse_eq (query : Option String) (limit offset : Int) :
    browse a actor query limit offset = browse b actor query limit offset := by
  simp only [browse, h.visiblePages_eq]

theorem readable_eq {k : String} {answer answer' : PageData → Response}
    (same : ∀ d, a.getPageVersions k = b.getPageVersions k → answer d = answer' d) :
    World.readable a actor k answer = World.readable b actor k answer' := by
  unfold World.readable
  cases found : a.pages.get? k with
  | none => simp only [h.absent found]
  | some d =>
    obtain ⟨d', found'⟩ := h.counterpart found
    have access : canReadPage a d actor = canReadPage b d' actor := h.access_eq found found' .read
    simp only [found', ← access]
    split
    · rfl
    · rename_i allowed
      obtain ⟨rfl, history⟩ := h.readable found found' allowed
      exact same d history
    · rfl

/-! ### Writing -/

theorem createPage_eq (payload : PageCreateRequest) :
    (createPage a actor payload).1 = (createPage b actor payload).1 ∧
      Indistinguishable actor (createPage a actor payload).2 (createPage b actor payload).2 := by
  have allowed := canCreatePage_congr h.users h.spaces h.permissions payload.spaceId actor
  have present : a.pages.contains payload.id = b.pages.contains payload.id := h.ids payload.id
  unfold createPage
  rw [← h.spaces, ← allowed, ← present]
  split
  · exact ⟨rfl, h⟩
  · exact ⟨rfl, h⟩
  · split
    · exact ⟨rfl, h⟩
    · exact ⟨rfl, h⟩
    · by_cases exists_ : a.pages.contains payload.id = true
      · rw [if_pos exists_, if_pos exists_]
        exact ⟨rfl, h⟩
      · rw [if_neg exists_, if_neg exists_]
        have fresh : a.pages.get? payload.id = none := by simpa [Dict.contains] using exists_
        have model := (payload.page actor).pageModel_modelDump
        rw [ConfluenceStore.addPage_ok model fresh, ConfluenceStore.addPage_ok model (h.absent fresh)]
        refine ⟨rfl, h.write (a.created_written _) (b.created_written _) ?_⟩
        rw [ConfluenceStore.created_history, ConfluenceStore.created_history, if_pos rfl, if_pos rfl]

theorem updatePage_eq (pageId : String) (payload : PageUpdateRequest) (ifVersion : Option String) :
    (updatePage a actor pageId payload ifVersion).1 = (updatePage b actor pageId payload ifVersion).1 ∧
      Indistinguishable actor (updatePage a actor pageId payload ifVersion).2
        (updatePage b actor pageId payload ifVersion).2 := by
  unfold updatePage
  cases found : a.pages.get? pageId with
  | none =>
    simp only [h.absent found]
    exact ⟨trivial, h⟩
  | some d =>
    obtain ⟨d', found'⟩ := h.counterpart found
    have write : canWritePage a d actor = canWritePage b d' actor := h.access_eq found found' .write
    have read : canReadPage a d actor = canReadPage b d' actor := h.access_eq found found' .read
    simp only [found', forbiddenUpdate, ← write, ← read]
    split
    · exact ⟨rfl, h⟩
    · exact ⟨rfl, h⟩
    · -- Who may write may read, so both stores hold the same page and history.
      rename_i allowed
      obtain ⟨rfl, history⟩ := h.readable found found' (canAccessPage_read allowed)
      obtain ⟨p, rfl⟩ := h.valid.1.pages found
      obtain rfl := ConfluenceStore.keyed_page h.keyed.1 found
      simp only [currentVersion_page]
      split
      · exact ⟨rfl, h⟩
      · split
        · exact ⟨rfl, h⟩
        · rw [ConfluenceStore.updatePage_payload payload found,
            ConfluenceStore.updatePage_payload payload found']
          refine ⟨rfl, h.write (a.updated_written _) (b.updated_written _) ?_⟩
          simp only [ConfluenceStore.updated_history, Page.changed_id, history]

theorem request_eq {header : Option String} (resolved : resolveActor a header = .ok actor)
    (apiCall : ApiCall) :
    (request a header apiCall).1 = (request b header apiCall).1 ∧
      Indistinguishable actor (request a header apiCall).2 (request b header apiCall).2 := by
  have resolved' := (h.resolveActor_eq header).symm.trans resolved
  unfold request
  rw [resolved, resolved']
  split
  · exact ⟨rfl, h⟩
  · cases apiCall with
    | listPages limit offset => exact ⟨h.browse_eq _ _ _, h⟩
    | searchPages q body limit offset => exact ⟨h.browse_eq _ _ _, h⟩
    | getPage pageId => exact ⟨h.readable_eq fun _ _ => rfl, h⟩
    | getPageVersions pageId =>
      refine ⟨h.readable_eq fun _ history => ?_, h⟩
      rw [history]
    | createPage payload => exact h.createPage_eq payload
    | updatePage pageId payload ifVersion => exact h.updatePage_eq pageId payload ifVersion
    | malformed parsed => exact ⟨rfl, h⟩

end Indistinguishable

/-- A request that authenticates as the actor. -/
def SentBy (s : ConfluenceStore) (actor : ActorIdentity) (e : Event) : Prop :=
  ∃ header apiCall, e = .request header apiCall ∧ resolveActor s header = .ok actor

theorem handle_users {s : ConfluenceStore} (valid : s.Valid) (keyed : s.Keyed) (e : Event) :
    (handle s e).2.users = s.users := by
  have effect := handle_effect valid keyed e
  revert effect
  generalize (handle s e).1 = r
  generalize (handle s e).2 = s'
  intro effect
  cases effect <;> rfl

/-- Unreadable content does not leak through the API. -/
theorem unreadable_content_confidential {actor : ActorIdentity} {a b : ConfluenceStore}
    (h : Indistinguishable actor a b) {es : List Event} (sent : ∀ e ∈ es, SentBy a actor e) :
    Machine.responses handle a es = Machine.responses handle b es ∧
      Indistinguishable actor (Machine.final handle a es) (Machine.final handle b es) := by
  have keep : ∀ s t e, SentBy a actor e → Indistinguishable actor s t ∧ s.users = a.users →
      (handle s e).1 = (handle t e).1 ∧
        Indistinguishable actor (handle s e).2 (handle t e).2 ∧ (handle s e).2.users = a.users := by
    rintro s t e ⟨header, apiCall, rfl, resolved⟩ ⟨alike, users⟩
    have resolves : resolveActor s header = .ok actor := by
      simpa only [resolveActor, users] using resolved
    obtain ⟨same, next⟩ := alike.request_eq resolves apiCall
    exact ⟨same, next, (handle_users alike.valid.1 alike.keyed.1 _).trans users⟩
  obtain ⟨same, last, _⟩ := Machine.simulation keep ⟨h, rfl⟩ sent
  exact ⟨same, last⟩

end Relation

theorem unreadable_content_confidential_solo :
    let home (title : String) : Page := ⟨"home", "eng", title, "Hello", 1, "ann", Dict.empty, Page.noExtras⟩
    let store title := ConfluenceStore.soloStore ["ann", "bob"] (home title)
    let events := [Event.request (some "bob") (.searchPages (some "Plan") none 20 0),
      .request (some "bob") (.getPage "home")]
    Machine.responses (@handle asciiText) (store "Plan A") events =
      Machine.responses (@handle asciiText) (store "Plan B") events := by
  intro home store events
  let _ := asciiText
  have coherent : ∀ title, (store title).Coherent := fun title =>
    ConfluenceStore.soloStore_coherent ["ann", "bob"] rfl
  have pages : ∀ title k d, (store title).pages.get? k = some d → k = "home" ∧ d = (home title).modelDump := by
    intro title k d found
    have found := (ConfluenceStore.created_pages _ _ _).symm.trans found
    split at found
    · rename_i same
      exact ⟨same, (Option.some.inj found).symm⟩
    · simp [ConfluenceStore.ofCollections] at found
  have alike : Indistinguishable ⟨"bob", ["bob"]⟩ (store "Plan A") (store "Plan B") := {
    valid := ⟨(coherent _).valid, (coherent _).valid⟩
    keyed := ⟨(coherent _).keyed, (coherent _).keyed⟩
    users := rfl
    spaces := rfl
    permissions := rfl
    ids := by
      intro k
      have same := ConfluenceStore.created_pages
      simp only [store, ConfluenceStore.soloStore, same]
      split <;> rfl
    access := by
      intro k d d' found found'
      rw [(pages _ _ _ found).2, (pages _ _ _ found').2]
      intro field member
      fin_cases member <;> rfl
    readable := by
      intro k d d' found found' allowed
      rw [(pages _ _ _ found).2] at allowed
      exact absurd allowed (by decide) }
  refine (unreadable_content_confidential alike fun e member => ?_).1
  rcases List.mem_pair.mp member with rfl | rfl
  · exact ⟨_, _, rfl, rfl⟩
  · exact ⟨_, _, rfl, rfl⟩

end AgentGym.World
