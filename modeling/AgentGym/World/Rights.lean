import AgentGym.World.Confidential

/-!
# What a client may touch

A run of the API changes a page only for someone who could write it at the start, or where
the control channel may edit, and a page appears only in a space where someone could create
it. Users, spaces and permissions stay, so nobody gains a right on the way.
-/

namespace AgentGym.World

variable [PyText]

/-- The requests come under these headers, and the human edits are of these pages. -/
def ComesFrom (headers : Option String → Prop) (editable : String → Prop) : Event → Prop
  | .request header _ => headers header
  | .humanEdit edit => editable edit.pageId

def MayWrite (headers : Option String → Prop) (s : ConfluenceStore) (pageId : String) : Prop :=
  ∃ header actor page, headers header ∧ resolveActor s header = .ok actor ∧ s.pages.get? pageId = some page ∧
    canWritePage s page actor = .ok true

def MayCreate (headers : Option String → Prop) (s : ConfluenceStore) (spaceId : String) : Prop :=
  ∃ header actor, headers header ∧ resolveActor s header = .ok actor ∧ canCreatePage s spaceId actor = .ok true

/-- The second store comes from the first by what its clients may do. -/
structure WithinRights (headers : Option String → Prop) (editable : String → Prop) (s s' : ConfluenceStore) : Prop where
  users : s'.users = s.users
  spaces : s'.spaces = s.spaces
  permissions : s'.permissions = s.permissions
  kept : ∀ k d, s.pages.get? k = some d → ∃ d', s'.pages.get? k = some d' ∧ SameAccess d d' ∧
    (¬ MayWrite headers s k → ¬ editable k → d' = d ∧ s'.getPageVersions k = s.getPageVersions k)
  appeared : ∀ k d', s.pages.get? k = none → s'.pages.get? k = some d' → MayCreate headers s (textField d' "space_id")

variable {headers : Option String → Prop} {editable : String → Prop} {s s' : ConfluenceStore}

theorem WithinRights.refl (s : ConfluenceStore) : WithinRights headers editable s s where
  users := rfl
  spaces := rfl
  permissions := rfl
  kept k d found := ⟨d, found, fun _ _ => rfl, fun _ _ => ⟨rfl, rfl⟩⟩
  appeared k d' absent found := by cases absent.symm.trans found

omit [PyText] in
theorem resolveActor_congr {a b : ConfluenceStore} (users : a.users = b.users) (header : Option String) :
    resolveActor a header = resolveActor b header := by
  simp only [resolveActor, users]

omit [PyText] in
theorem changed_access (p : Page) (title body : Option String) : SameAccess p.modelDump (p.changed title body).modelDump := by
  intro field member
  simp only [accessFields, nestedEntryKeys, List.cons_append, List.nil_append, List.mem_cons, List.not_mem_nil,
    or_false] at member
  obtain rfl | rfl | rfl | rfl | rfl | rfl := member <;> rfl

theorem changed_space (p : Page) (title body : Option String) :
    textField (p.changed title body).modelDump "space_id" = textField p.modelDump "space_id" := rfl

namespace WithinRights

variable (h : WithinRights headers editable s s')
include h

theorem mayWrite {k : String} (keyed : s.Keyed) {header : Option String} {actor : ActorIdentity} {page page' : PageData}
    (speaks : headers header) (resolved : resolveActor s' header = .ok actor) (found : s.pages.get? k = some page)
    (found' : s'.pages.get? k = some page') (allowed : canWritePage s' page' actor = .ok true) : MayWrite headers s k := by
  obtain ⟨page'', same, access, -⟩ := h.kept k page found
  obtain rfl := Option.some.inj (found'.symm.trans same)
  refine ⟨header, actor, page, speaks, ?_, found, ?_⟩
  · rw [resolveActor_congr h.users.symm]
    exact resolved
  · rw [← allowed]
    exact canAccessPage_congr h.users.symm h.spaces.symm h.permissions.symm found found' (keyed found) access actor .write

theorem mayCreate {header : Option String} {actor : ActorIdentity} {spaceId : String} (speaks : headers header)
    (resolved : resolveActor s' header = .ok actor) (allowed : canCreatePage s' spaceId actor = .ok true) :
    MayCreate headers s spaceId := by
  refine ⟨header, actor, speaks, ?_, ?_⟩
  · rw [resolveActor_congr h.users.symm]
    exact resolved
  · rw [canCreatePage_congr h.users.symm h.spaces.symm h.permissions.symm]
    exact allowed

/-- A change of a page that may be changed. -/
theorem changed {p : Page} {title body : Option String} (stored : s'.pages.get? p.id = some p.modelDump)
    (may : ∀ d, s.pages.get? p.id = some d → MayWrite headers s p.id ∨ editable p.id) :
    WithinRights headers editable s (s'.updated (p.changed title body)) where
  users := h.users
  spaces := h.spaces
  permissions := h.permissions
  kept := by
    intro k d found
    obtain ⟨d', found', access, same⟩ := h.kept k d found
    rw [ConfluenceStore.updated_pages, ConfluenceStore.updated_history]
    split
    · rename_i target
      obtain rfl : k = p.id := target
      obtain rfl := Option.some.inj (stored.symm.trans found')
      refine ⟨_, rfl, fun field member => ?_, fun cannot uneditable => ?_⟩
      · exact (access field member).trans (changed_access p title body field member)
      · exact absurd (may d found) (not_or.mpr ⟨cannot, uneditable⟩)
    · exact ⟨d', found', access, same⟩
  appeared := by
    intro k d' absent found
    rw [ConfluenceStore.updated_pages] at found
    split at found
    · rename_i target
      obtain rfl : k = p.id := target
      rw [← Option.some.inj found, changed_space]
      exact h.appeared _ _ absent stored
    · exact h.appeared k d' absent found

theorem step (keyed : s.Keyed) (valid' : s'.Valid) (keyed' : s'.Keyed) {e : Event} (comes : ComesFrom headers editable e) :
    WithinRights headers editable s (handle s' e).2 := by
  have effect := handle_effect valid' keyed' e
  generalize (handle s' e).1 = r at effect
  generalize (handle s' e).2 = s'' at effect
  cases effect with
  | idle _ _ => exact h
  | @created header actor payload resolved space allowed fresh =>
    refine ⟨h.users, h.spaces, h.permissions, ?_, ?_⟩
    · intro k d found
      obtain ⟨d', found', rest⟩ := h.kept k d found
      have other : k ≠ (payload.page actor).id := by
        rintro rfl
        cases fresh.symm.trans found'
      rw [ConfluenceStore.created_pages, ConfluenceStore.created_history, if_neg other, if_neg other]
      exact ⟨d', found', rest⟩
    · intro k d' absent found
      rw [ConfluenceStore.created_pages] at found
      split at found
      · rw [← Option.some.inj found]
        exact h.mayCreate comes resolved allowed
      · exact h.appeared k d' absent found
  | @updated header actor p payload ifVersion resolved found allowed _ =>
    exact h.changed found fun d held => Or.inl (h.mayWrite keyed comes resolved held found allowed)
  | @edited p edit target found =>
    refine h.changed found fun d _ => Or.inr ?_
    rw [← target]
    exact comes

end WithinRights

/-- Over any run, the store stays within the rights its clients had at the start. -/
theorem run_within (valid : s.Valid) (keyed : s.Keyed) (es : List Event) (comes : ∀ e ∈ es, ComesFrom headers editable e) :
    WithinRights headers editable s (Machine.final handle s es) := by
  have kept : ∀ (s' : ConfluenceStore) (e : Event), ComesFrom headers editable e →
      (WithinRights headers editable s s' ∧ s'.Valid ∧ s'.Keyed) →
      WithinRights headers editable s (handle s' e).2 ∧ (handle s' e).2.Valid ∧ (handle s' e).2.Keyed :=
    fun s' e from_ inv => ⟨inv.1.step keyed inv.2.1 inv.2.2 from_, handle_valid inv.2.1 inv.2.2 e⟩
  have start : WithinRights headers editable s s ∧ s.Valid ∧ s.Keyed := ⟨.refl s, valid, keyed⟩
  exact (Machine.final_inv_of kept start fun t member => comes _ (Machine.event_mem_of_mem member)).1

end AgentGym.World
