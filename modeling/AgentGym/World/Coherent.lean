import AgentGym.Lib.Ledger
import AgentGym.World.Writes

/-!
# Coherent stores

In a coherent store the history of a page numbers its versions from one and ends with
the current page. Every call keeps that, and every write appends one entry to the
ledger of histories, so the ledger determines whatever the API shows.
-/

namespace AgentGym.World

namespace ConfluenceStore

structure Coherent (s : ConfluenceStore) : Prop where
  valid : s.Valid
  keyed : s.Keyed
  current : ∀ {k d}, s.pages.get? k = some d → (s.getPageVersions k).getLast? = some d
  numbered : ∀ {k} {i : Nat} {p : Page}, (s.getPageVersions k)[i]? = some p.modelDump → p.version = i + 1
  orphans : ∀ {k}, s.pages.get? k = none → s.getPageVersions k = []

/-- The histories, as a ledger. -/
def ledger (s : ConfluenceStore) : Ledger String PageData := s.getPageVersions

theorem updated_ledger (s : ConfluenceStore) (p : Page) :
    (s.updated p).ledger = s.ledger.append p.id p.modelDump := by
  funext k
  by_cases h : k = p.id
  · subst h
    simp [ledger, updated_history, Ledger.append]
  · simp [ledger, updated_history, Ledger.append, h]

namespace Coherent

variable {s : ConfluenceStore} (h : s.Coherent)
include h

theorem holds_entry {k : String} {p : Page} (member : p.modelDump ∈ s.getPageVersions k) :
    s.ledger.Holds k p.version p.modelDump := by
  obtain ⟨i, bound, entry⟩ := List.mem_iff_getElem.mp member
  have found : (s.getPageVersions k)[i]? = some p.modelDump := by
    rw [List.getElem?_eq_getElem bound, entry]
  exact ⟨i, h.numbered found, found⟩

theorem holds_page {k : String} {p : Page} (found : s.pages.get? k = some p.modelDump) :
    s.ledger.Holds k p.version p.modelDump :=
  h.holds_entry (List.mem_of_getLast? (h.current found))

theorem version_eq {k : String} {p : Page} (found : s.pages.get? k = some p.modelDump) :
    p.version = (s.getPageVersions k).length := by
  have last := h.current found
  rw [List.getLast?_eq_getElem?] at last
  have number := h.numbered last
  have bound := (List.getElem?_eq_some_iff.mp last).1
  omega

theorem page_of_found {k : String} {d : PageData} (found : s.pages.get? k = some d) :
    ∃ p : Page, d = p.modelDump ∧ p.id = k := by
  obtain ⟨p, rfl⟩ := h.valid.pages found
  exact ⟨p, rfl, keyed_page h.keyed found⟩

theorem updated {p : Page} (next : p.version = (s.getPageVersions p.id).length + 1) :
    (s.updated p).Coherent where
  valid := (updated_written s p).valid h.valid
  keyed := (updated_written s p).keyed h.keyed
  current := by
    intro k d found
    rw [updated_pages] at found
    rw [updated_history]
    split at found
    · rename_i same
      rw [if_pos same, List.getLast?_concat]
      exact found
    · rename_i other
      rw [if_neg other]
      exact h.current found
  numbered := by
    intro k i q entry
    rw [updated_history] at entry
    split at entry
    · rename_i same
      subst same
      rw [List.getElem?_append] at entry
      split at entry
      · exact h.numbered entry
      · rename_i beyond
        obtain ⟨bound, value⟩ := List.getElem?_eq_some_iff.mp entry
        rw [List.getElem_singleton] at value
        obtain rfl := Page.modelDump_injective value
        simp only [List.length_singleton] at bound
        omega
    · exact h.numbered entry
  orphans := by
    intro k absent
    rw [updated_pages] at absent
    split at absent
    · simp at absent
    · rename_i other
      rw [updated_history, if_neg other]
      exact h.orphans absent

theorem changed {p : Page} (found : s.pages.get? p.id = some p.modelDump) (title body : Option String) :
    (s.updated (p.changed title body)).Coherent :=
  h.updated (by rw [Page.changed_version, Page.changed_id, h.version_eq found])

theorem created {p : Page} (fresh : s.pages.get? p.id = none) (first : p.version = 1) :
    (s.created p).Coherent := by
  have empty := h.orphans fresh
  rw [created_eq_updated empty]
  exact h.updated (by simp [first, empty])

end Coherent

theorem ofCollections_coherent (users spaces permissions : Json) :
    (ofCollections users spaces permissions).Coherent where
  valid := { pages := by simp [ofCollections], histories := by simp [ofCollections, getPageVersions] }
  keyed := by simp [Keyed, ofCollections]
  current := by simp [ofCollections]
  numbered := by simp [ofCollections, getPageVersions]
  orphans := by simp [ofCollections, getPageVersions]

/-- A world of one page and no permissions. -/
def soloStore (users : List String) (page : Page) : ConfluenceStore :=
  (ofCollections (.obj (users.map fun user => (user, .obj []))) (.obj []) (.obj [])).created page

theorem soloStore_coherent (users : List String) {page : Page} (first : page.version = 1) :
    (soloStore users page).Coherent :=
  (ofCollections_coherent _ _ _).created (by simp [ofCollections]) first

end ConfluenceStore

/-! ### Calls on a coherent store -/

section Calls

variable [PyText] {s : ConfluenceStore}

theorem handle_coherent (s : ConfluenceStore) (e : Event) (h : s.Coherent) : (handle s e).2.Coherent := by
  have effect := handle_effect h.valid h.keyed e
  revert effect
  generalize (handle s e).1 = r
  generalize (handle s e).2 = s'
  intro effect
  cases effect with
  | idle => exact h
  | created _ _ _ fresh => exact h.created fresh rfl
  | updated _ found => exact h.changed found _ _
  | edited _ found => exact h.changed found _ _

theorem handle_extends (s : ConfluenceStore) (e : Event) (h : s.Coherent) :
    s.ledger.Extends (handle s e).2.ledger := by
  have effect := handle_effect h.valid h.keyed e
  revert effect
  generalize (handle s e).1 = r
  generalize (handle s e).2 = s'
  intro effect
  cases effect with
  | idle => exact .refl _
  | @created _ actor payload _ _ _ fresh =>
    rw [ConfluenceStore.created_eq_updated (p := payload.page actor) (h.orphans fresh), ConfluenceStore.updated_ledger]
    exact Ledger.append_extends _ _ _
  | updated => rw [ConfluenceStore.updated_ledger]; exact Ledger.append_extends _ _ _
  | edited => rw [ConfluenceStore.updated_ledger]; exact Ledger.append_extends _ _ _

/-- A run without writes leaves the store as it was, and shows what was visible in it. -/
theorem run_of_idle (valid : s.Valid) (keyed : s.Keyed) (es : List Event)
    (idle : ∀ t ∈ Machine.trace handle s es, accepted t.event t.response = none) :
    Machine.final handle s es = s ∧
      ∀ t ∈ Machine.trace handle s es, ∀ x ∈ shows t.event t.response, Visible s t.event x.1 x.2 := by
  induction es with
  | nil => simp [Machine.trace, Machine.final]
  | cons e es ih =>
    rw [Machine.trace] at idle ⊢
    rw [Machine.final]
    obtain ⟨first, later⟩ := List.forall_mem_cons.mp idle
    have effect := handle_effect valid keyed e
    revert effect first later
    rw [Machine.transition]
    generalize (handle s e).1 = r
    generalize (handle s e).2 = s'
    intro first later effect
    cases effect with
    | idle _ shown =>
      obtain ⟨same, visible⟩ := ih later
      exact ⟨same, List.forall_mem_cons.mpr ⟨shown, visible⟩⟩
    | created => simp [accepted] at first
    | updated => simp [accepted] at first
    | edited => simp [accepted] at first

theorem shows_holds (h : s.Coherent) {e : Event} {x : String × Page} (member : x ∈ shows e (handle s e).1) :
    (handle s e).2.ledger.Holds x.1 x.2.version x.2.modelDump := by
  have effect := handle_effect h.valid h.keyed e
  revert effect member
  generalize (handle s e).1 = r
  generalize (handle s e).2 = s'
  intro member effect
  cases effect with
  | idle _ shown =>
    obtain ⟨_, _, _, d, _, _, found, _, now | earlier⟩ := shown x member
    · subst now
      exact h.holds_page found
    · exact h.holds_entry earlier
  | @created _ actor payload _ _ _ fresh =>
    obtain rfl := List.mem_singleton.mp member
    have grown := h.created (p := payload.page actor) fresh rfl
    exact grown.holds_page (by rw [ConfluenceStore.created_pages, if_pos rfl])
  | updated _ found =>
    obtain rfl := List.mem_singleton.mp member
    exact (h.changed found _ _).holds_page (by rw [ConfluenceStore.updated_pages, if_pos rfl])
  | edited _ found =>
    obtain rfl := List.mem_singleton.mp member
    exact (h.changed found _ _).holds_page (by rw [ConfluenceStore.updated_pages, if_pos rfl])

end Calls

end AgentGym.World
