import AgentGym.World.Coherent

/-!
# No update is lost

Clients act on whatever they read before; only the order in which the handlers run
matters, so a run is a list of calls. Three facts about every run: two accepted PUTs never
carry the same version of a page, whatever shows a page at a version shows the same page,
and a page is what its accepted writes made of it.
-/

namespace AgentGym.World

section Runs

variable [PyText]

/-- The run from `s` shows `p` under the id `k`: in a response, as a page, or in a history. -/
inductive Showing (s : ConfluenceStore) (es : List Event) (k : String) (p : Page) : Prop where
  | response {t : Transition ConfluenceStore Event Response} (member : t ∈ Machine.trace handle s es)
      (shown : (k, p) ∈ shows t.event t.response)
  | page {store : ConfluenceStore} (member : store ∈ Machine.states handle s es)
      (found : store.pages.get? k = some p.modelDump)
  | entry {store : ConfluenceStore} (member : store ∈ Machine.states handle s es)
      (found : p.modelDump ∈ store.getPageVersions k)

/-- The page and version of an accepted PUT. -/
def acceptedPut (t : Transition ConfluenceStore Event Response) : Option (String × Int) :=
  match t.event, t.response with
  | .request _ (.updatePage pageId _ ifVersion), .page 200 _ =>
    match parseIfVersion ifVersion with
    | .ok n => some (pageId, n)
    | .error _ => none
  | _, _ => none

/-! ### Showings are ledger entries -/

variable {s : ConfluenceStore} (h : s.Coherent)
include h

theorem Showing.holds {es : List Event} {k : String} {p : Page} (shown : Showing s es k p) :
    (Machine.final handle s es).ledger.Holds k p.version p.modelDump := by
  cases shown with
  | @response t member shown =>
    have start := Machine.before_inv handle_coherent h member
    rw [Machine.transition_of_mem member] at shown
    have last := Ledger.after_extends_final ConfluenceStore.ledger handle_coherent handle_extends h member
    rw [Machine.transition_of_mem member] at last
    exact (shows_holds start shown).mono last
  | @page store member found =>
    have coherent := Machine.states_inv handle_coherent h member
    exact (coherent.holds_page found).mono
      (Ledger.states_extend_final ConfluenceStore.ledger handle_coherent handle_extends h member)
  | @entry store member found =>
    have coherent := Machine.states_inv handle_coherent h member
    exact (coherent.holds_entry found).mono
      (Ledger.states_extend_final ConfluenceStore.ledger handle_coherent handle_extends h member)

theorem Showing.unique {es : List Event} {k : String} {p q : Page} (left : Showing s es k p)
    (right : Showing s es k q) (same : p.version = q.version) : p = q := by
  have holds := right.holds h
  rw [← same] at holds
  exact Page.modelDump_injective ((left.holds h).unique holds)

/-! ### Accepted PUTs -/

/-- An accepted PUT finds the page at its version and leaves it one version on. -/
theorem acceptedPut_versions {e : Event} {k : String} {v : Int}
    (put : acceptedPut (Machine.transition handle s e) = some (k, v)) :
    ∃ p q : Page, s.pages.get? k = some p.modelDump ∧ p.version = v ∧
      (handle s e).2.pages.get? k = some q.modelDump ∧ q.version = v + 1 := by
  have effect := handle_effect h.valid h.keyed e
  revert effect put
  unfold acceptedPut Machine.transition
  dsimp only
  generalize (handle s e).1 = r
  generalize (handle s e).2 = s'
  intro put effect
  cases effect with
  | idle refused =>
    split at put
    · simp [accepted] at refused
    · simp at put
  | created => simp at put
  | edited => simp at put
  | @updated header actor p payload ifVersion _ found _ current =>
    simp only [current, Option.some.injEq, Prod.mk.injEq] at put
    obtain ⟨rfl, rfl⟩ := put
    refine ⟨p, p.changed payload.title payload.body, found, rfl, ?_, rfl⟩
    rw [ConfluenceStore.updated_pages, Page.changed_id, if_pos rfl]

theorem acceptedPut_pairwise (es : List Event) :
    (Machine.trace handle s es).Pairwise fun t u =>
      ∀ put, acceptedPut t = some put → acceptedPut u ≠ some put := by
  have extended := Ledger.pairwise_extends ConfluenceStore.ledger handle_coherent handle_extends h es
  refine List.Pairwise.imp_of_mem ?_ extended
  rintro t u earlier later grown ⟨k, v⟩ first second
  have before := Machine.before_inv handle_coherent h earlier
  have after := Machine.after_inv handle_coherent h earlier
  have next := Machine.before_inv handle_coherent h later
  rw [Machine.transition_of_mem earlier] at first after grown
  rw [Machine.transition_of_mem later] at second
  obtain ⟨_, q, _, _, written, number⟩ := acceptedPut_versions before first
  obtain ⟨p, _, found, read, _, _⟩ := acceptedPut_versions next second
  have left := after.version_eq written
  have right := next.version_eq found
  have length := grown.length_le k
  simp only [ConfluenceStore.ledger] at length
  omega

end Runs

/-! ### A page is the fold of its writes -/

structure Change where
  title : Option String
  body : Option String

def Change.apply (text : String × String) (c : Change) : String × String :=
  (c.title.getD text.1, c.body.getD text.2)

def changeOf (k : String) (t : Transition ConfluenceStore Event Response) : Option Change :=
  match accepted t.event t.response with
  | some (.change pageId title body) => if pageId = k then some ⟨title, body⟩ else none
  | _ => none

def creationOf (k : String) (t : Transition ConfluenceStore Event Response) : Option PageCreateRequest :=
  match accepted t.event t.response with
  | some (.create payload) => if payload.id = k then some payload else none
  | _ => none

abbrev History := List (Transition ConfluenceStore Event Response)

def changes (k : String) (tr : History) : List Change := tr.filterMap (changeOf k)

def creations (k : String) (tr : History) : List PageCreateRequest := tr.filterMap (creationOf k)

/-- `q` is what the changes make of a page with that version, title and body. -/
def Page.FoldOf (q : Page) (version : Int) (text : String × String) (cs : List Change) : Prop :=
  q.version = version + cs.length ∧ (q.title, q.body) = cs.foldl Change.apply text

/-- Page `k` of `s'` is what the writes accepted in `tr` make of page `k` of `s`. -/
def Accounted (k : String) (s : ConfluenceStore) (tr : History) (s' : ConfluenceStore) : Prop :=
  (∀ p : Page, s.pages.get? k = some p.modelDump → creations k tr = [] ∧
    ∃ q : Page, s'.pages.get? k = some q.modelDump ∧ q.FoldOf p.version (p.title, p.body) (changes k tr)) ∧
  (s.pages.get? k = none →
    s'.pages.get? k = none ∧ creations k tr = [] ∧ changes k tr = [] ∨
    ∃ earlier t later payload, tr = earlier ++ t :: later ∧ creationOf k t = some payload ∧
      creations k earlier = [] ∧ changes k earlier = [] ∧ creations k later = [] ∧
      ∃ q : Page, s'.pages.get? k = some q.modelDump ∧
        q.FoldOf 1 (payload.title, payload.body) (changes k later))

theorem Page.FoldOf.cons {p q : Page} {c : Change} {cs : List Change}
    (h : q.FoldOf (p.changed c.title c.body).version
      ((p.changed c.title c.body).title, (p.changed c.title c.body).body) cs) :
    q.FoldOf p.version (p.title, p.body) (c :: cs) := by
  obtain ⟨version, text⟩ := h
  refine ⟨?_, text⟩
  rw [version, Page.changed_version, List.length_cons]
  push_cast
  omega

section Fold

variable [PyText] {s : ConfluenceStore}

theorem page_step (valid : s.Valid) (keyed : s.Keyed) (e : Event) {k : String} {p : Page}
    (found : s.pages.get? k = some p.modelDump) :
    creationOf k (Machine.transition handle s e) = none ∧
      (handle s e).2.pages.get? k =
        some ((changeOf k (Machine.transition handle s e)).elim p
          fun c => p.changed c.title c.body).modelDump := by
  have effect := handle_effect valid keyed e
  unfold creationOf changeOf Machine.transition
  dsimp only
  revert effect
  generalize (handle s e).1 = r
  generalize (handle s e).2 = s'
  intro effect
  cases effect with
  | idle refused => simp [refused, found]
  | @created _ actor payload _ _ _ fresh =>
    have other : payload.id ≠ k := by
      rintro rfl
      simp [found] at fresh
    have apart : k ≠ (payload.page actor).id := Ne.symm other
    simp [accepted, other, ConfluenceStore.created_pages, apart, found]
  | @updated _ _ p' payload _ _ found' =>
    rw [ConfluenceStore.updated_pages, Page.changed_id]
    by_cases same : k = p'.id
    · subst same
      obtain rfl := Page.modelDump_injective (Option.some.inj (found'.symm.trans found))
      simp [accepted]
    · simp [accepted, same, Ne.symm same, found]
  | @edited p' edit target found' =>
    rw [ConfluenceStore.updated_pages, Page.changed_id]
    by_cases same : k = p'.id
    · subst same
      obtain rfl := Page.modelDump_injective (Option.some.inj (found'.symm.trans found))
      simp [accepted, target]
    · simp [accepted, target, same, Ne.symm same, found]

theorem absent_step (valid : s.Valid) (keyed : s.Keyed) (e : Event) {k : String} (absent : s.pages.get? k = none) :
    changeOf k (Machine.transition handle s e) = none ∧
      (creationOf k (Machine.transition handle s e) = none ∧ (handle s e).2.pages.get? k = none ∨
      ∃ payload, ∃ p : Page, creationOf k (Machine.transition handle s e) = some payload ∧
        (handle s e).2.pages.get? k = some p.modelDump ∧ p.version = 1 ∧ p.title = payload.title ∧
        p.body = payload.body) := by
  have effect := handle_effect valid keyed e
  unfold creationOf changeOf Machine.transition
  dsimp only
  revert effect
  generalize (handle s e).1 = r
  generalize (handle s e).2 = s'
  intro effect
  cases effect with
  | idle refused => simp [refused, absent]
  | @created _ actor payload _ _ _ fresh =>
    refine ⟨by simp [accepted], ?_⟩
    rw [ConfluenceStore.created_pages]
    by_cases same : payload.id = k
    · exact Or.inr ⟨payload, payload.page actor, by simp [accepted, same],
        by rw [if_pos (show k = (payload.page actor).id from same.symm)], rfl, rfl, rfl⟩
    · have apart : k ≠ (payload.page actor).id := Ne.symm same
      simp [accepted, same, apart, absent]
  | @updated _ _ p' payload _ _ found' =>
    have other : p'.id ≠ k := by
      rintro rfl
      simp [absent] at found'
    simp [accepted, other, ConfluenceStore.updated_pages, Ne.symm other, absent]
  | @edited p' edit target found' =>
    have other : p'.id ≠ k := by
      rintro rfl
      simp [absent] at found'
    simp [accepted, target, other, ConfluenceStore.updated_pages, Ne.symm other, absent]

theorem page_run (valid : s.Valid) (keyed : s.Keyed) (es : List Event) {k : String} {p : Page}
    (found : s.pages.get? k = some p.modelDump) :
    creations k (Machine.trace handle s es) = [] ∧
      ∃ q : Page, (Machine.final handle s es).pages.get? k = some q.modelDump ∧
        q.FoldOf p.version (p.title, p.body) (changes k (Machine.trace handle s es)) := by
  induction es generalizing s p with
  | nil => exact ⟨rfl, p, found, by simp [changes, Machine.trace, Page.FoldOf]⟩
  | cons e es ih =>
    obtain ⟨none, next⟩ := page_step valid keyed e found
    obtain ⟨rest, q, last, fold⟩ := ih (handle_valid valid keyed e).1 (handle_valid valid keyed e).2 next
    simp only [creations, changes, Machine.trace, Machine.final, List.filterMap_cons, none] at rest ⊢
    refine ⟨rest, q, last, ?_⟩
    cases change : changeOf k (Machine.transition handle s e) with
    | none => simpa [change, changes] using fold
    | some c =>
      rw [change] at fold
      exact Page.FoldOf.cons fold

theorem accounted_run (valid : s.Valid) (keyed : s.Keyed) (es : List Event) (k : String) :
    Accounted k s (Machine.trace handle s es) (Machine.final handle s es) := by
  refine ⟨fun p found => page_run valid keyed es found, ?_⟩
  intro absent
  induction es generalizing s with
  | nil => exact Or.inl ⟨absent, rfl, rfl⟩
  | cons e es ih =>
    obtain ⟨unchanged, ⟨uncreated, next⟩ | ⟨payload, p, creation, found, version, title, body⟩⟩ :=
      absent_step valid keyed e absent
    · rcases ih (handle_valid valid keyed e).1 (handle_valid valid keyed e).2 next with ⟨last, none, idle⟩ | ⟨earlier, t, later, payload, split, made, none, idle, once, rest⟩
      · refine Or.inl ⟨last, ?_, ?_⟩
        · simpa [creations, Machine.trace, uncreated] using none
        · simpa [changes, Machine.trace, unchanged] using idle
      · refine Or.inr ⟨Machine.transition handle s e :: earlier, t, later, payload, ?_, made, ?_, ?_, once, rest⟩
        · simp [Machine.trace, split]
        · simpa [creations, uncreated] using none
        · simpa [changes, unchanged] using idle
    · obtain ⟨once, q, last, fold⟩ := page_run (handle_valid valid keyed e).1 (handle_valid valid keyed e).2 es found
      rw [version, title, body] at fold
      exact Or.inr ⟨[], _, _, payload, rfl, creation, rfl, rfl, once, q, last, fold⟩

end Fold

/-- Optimistic concurrency loses no update. -/
theorem no_update_lost [PyText] {s : ConfluenceStore} (h : s.Coherent) (es : List Event) :
    ((Machine.trace handle s es).Pairwise fun t u =>
      ∀ put, acceptedPut t = some put → acceptedPut u ≠ some put) ∧
    (∀ k p q, Showing s es k p → Showing s es k q → p.version = q.version → p = q) ∧
    (∀ t ∈ Machine.trace handle s es, ∀ k v, acceptedPut t = some (k, v) →
      ∃ p : Page, t.before.pages.get? k = some p.modelDump ∧ p.version = v ∧
        ∀ q, Showing s es k q → q.version = v → q = p) ∧
    ∀ k, Accounted k s (Machine.trace handle s es) (Machine.final handle s es) := by
  refine ⟨acceptedPut_pairwise h es, fun k p q left right => left.unique h right, ?_,
    accounted_run h.valid h.keyed es⟩
  intro t member k v put
  have before := Machine.before_inv handle_coherent h member
  rw [Machine.transition_of_mem member] at put
  obtain ⟨p, _, found, version, _, _⟩ := acceptedPut_versions before put
  refine ⟨p, found, version, ?_⟩
  intro q shown number
  have stored : Showing s es k p := .page (Machine.before_mem_states member) found
  exact shown.unique h stored (number.trans version.symm)

theorem no_update_lost_solo :
    let page : Page := ⟨"home", "eng", "Home", "Hello", 1, "ann", Dict.empty, Page.noExtras⟩
    let store := ConfluenceStore.soloStore ["ann"] page
    let events := [Event.request (some "ann") (.updatePage "home" ⟨none, some "Bye"⟩ (some "1")),
      .request (some "ann") (.updatePage "home" ⟨none, some "Again"⟩ (some "1"))]
    Accounted "home" store (Machine.trace (@handle asciiText) store events)
      (Machine.final (@handle asciiText) store events) := by
  intro page store events
  exact (@no_update_lost asciiText store (ConfluenceStore.soloStore_coherent ["ann"] rfl) events).2.2.2 "home"

end AgentGym.World
