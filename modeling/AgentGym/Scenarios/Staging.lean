import AgentGym.Scenarios.Families
import AgentGym.World.Acl

/-!
# What staging leaves

Whatever is drawn, a staged store holds the cast of the fixtures: the page of every
template in its space, under its owner, at its first version. The owner may read and
write it; everyone else is left to the reader lists.
-/

namespace AgentGym.Scenarios

open World

/-! ### The cast -/

/-- The page of a template, whatever its text. -/
structure Plays (t : PageTemplate) (p : Page) : Prop where
  space : p.spaceId = t.spaceId
  owner : p.ownerId = t.ownerId
  plain : p.extras = Dict.empty

structure Cast (ts : List PageTemplate) (content : String → Option Page) : Prop where
  plays : ∀ t ∈ ts, ∃ p, content t.pageId = some p ∧ Plays t p
  known : ∀ {k p}, content k = some p → ∃ t ∈ ts, t.pageId = k ∧ Plays t p

theorem Cast.retouched {ts : List PageTemplate} {content : String → Option Page} (cast : Cast ts content)
    {k : String} {p : Page} (here : content k = some p) (title body : Option String) :
    Cast ts (Function.update content k (some (retouched p title body))) where
  plays t member := by
    obtain ⟨q, stored, plays⟩ := cast.plays t member
    rw [Function.update_apply]
    split
    · rename_i same
      rw [same, here] at stored
      obtain rfl := Option.some.inj stored
      exact ⟨_, rfl, plays.space, plays.owner, plays.plain⟩
    · exact ⟨q, stored, plays⟩
  known := by
    intro j q stored
    rw [Function.update_apply] at stored
    split at stored
    · rename_i same
      obtain ⟨t, member, id, plays⟩ := cast.known here
      rw [← Option.some.inj stored]
      exact ⟨t, member, id.trans same.symm, plays.space, plays.owner, plays.plain⟩
    · exact cast.known stored

theorem Cast.joined {ts : List PageTemplate} {content : String → Option Page} (cast : Cast ts content)
    {t : PageTemplate} (fresh : t.pageId ∉ ts.map PageTemplate.pageId) {p : Page} (plays : Plays t p) :
    Cast (ts ++ [t]) (Function.update content t.pageId (some p)) where
  plays u member := by
    rw [Function.update_apply]
    rcases List.mem_append.mp member with old | new
    · have other : u.pageId ≠ t.pageId := fun same => fresh (same ▸ List.mem_map_of_mem old)
      rw [if_neg other]
      exact cast.plays u old
    · obtain rfl := List.mem_singleton.mp new
      exact ⟨p, if_pos rfl, plays⟩
  known := by
    intro k q stored
    rw [Function.update_apply] at stored
    split at stored
    · rename_i same
      rw [← Option.some.inj stored]
      exact ⟨t, List.mem_append_right _ List.mem_cons_self, same.symm, plays⟩
    · obtain ⟨u, member, id, plays⟩ := cast.known stored
      exact ⟨u, List.mem_append_left _ member, id, plays⟩

theorem templateContent_cast {rng : Random} {ts seen : List PageTemplate} {index : Nat}
    {content : String → Option Page} (cast : Cast seen content)
    (distinct : ((seen ++ ts).map PageTemplate.pageId).Nodup) :
    Cast (seen ++ ts) (templateContent rng index ts content) := by
  induction ts generalizing index seen content with
  | nil => simpa [templateContent] using cast
  | cons t ts ih =>
    have fresh : t.pageId ∉ seen.map PageTemplate.pageId := by
      intro member
      rw [List.map_append, List.map_cons] at distinct
      exact List.disjoint_of_nodup_append distinct member List.mem_cons_self
    have order : seen ++ t :: ts = (seen ++ [t]) ++ ts := by simp
    rw [order] at distinct ⊢
    exact ih (cast.joined fresh ⟨rfl, rfl, rfl⟩) distinct

theorem templates_known {variant : Variant} : ∀ t ∈ templatesForVariant variant, t ∈ pageTemplates := by
  intro t member
  cases variant with
  | minimal => exact List.mem_of_mem_take member
  | permissions =>
    rcases List.mem_append.mp member with first | last
    · exact List.mem_of_mem_take first
    · exact List.mem_of_mem_drop last
  | _ => exact member

/-- A store staged from a variant of the fixtures, with these pages. -/
structure Ready (variant : Variant) (s : ConfluenceStore) (content : String → Option Page) : Prop where
  holds : Holds s content
  cast : Cast (templatesForVariant variant) content

theorem buildStore_ready [LaxInt] (rng : Random) (variant : Variant) (full : variant = .default ∨ variant = .permissions) :
    ∃ s, buildStore rng variant = .ok s ∧ Ready variant s (fixtureContent rng variant) := by
  obtain ⟨s, built, holds⟩ := buildStore_holds rng variant full
  have distinct : ((templatesForVariant variant).map PageTemplate.pageId).Nodup := by
    obtain rfl | rfl := full <;> decide
  have nobody : Cast [] fun _ => none := ⟨by simp, nofun⟩
  exact ⟨s, built, holds, templateContent_cast nobody distinct⟩

namespace Ready

variable {variant : Variant} {s : ConfluenceStore} {content : String → Option Page}
  (ready : Ready variant s content) {k : String} {p : Page} (here : content k = some p)
include ready

omit here in
theorem page {t : PageTemplate} (member : t ∈ templatesForVariant variant) :
    ∃ p, content t.pageId = some p ∧ p.id = t.pageId ∧ Plays t p := by
  obtain ⟨p, here, plays⟩ := ready.cast.plays t member
  exact ⟨p, here, (ready.holds.first here).1, plays⟩

include here

theorem setPage (title body : Option String) :
    ∃ s', setPage s k title body = .ok s' ∧
      Ready variant s' (Function.update content k (some (retouched p title body))) := by
  obtain ⟨s', ran, holds⟩ := setPage_holds ready.holds here title body
  exact ⟨s', ran, holds, ready.cast.retouched here title body⟩

theorem template : ∃ t ∈ pageTemplates, t.pageId = k ∧ Plays t p := by
  obtain ⟨t, member, id, plays⟩ := ready.cast.known here
  exact ⟨t, templates_known t member, id, plays⟩

theorem owner_listed : p.ownerId ∈ ["alice", "bob", "carol"] := by
  obtain ⟨t, member, _, plays⟩ := ready.template here
  have owners : ∀ t ∈ pageTemplates, t.ownerId ∈ ["alice", "bob", "carol"] := by decide
  rw [plays.owner]
  exact owners t member

theorem id_nonempty : k ≠ "" := by
  obtain ⟨t, member, rfl, _⟩ := ready.template here
  have ids : ∀ t ∈ pageTemplates, t.pageId ≠ "" := by decide
  exact ids t member

section Reading

variable [PyText]

omit [PyText] in
theorem stagedPage_eq : stagedPage s k = .ok p.modelDump := by
  rw [stagedPage, ready.holds.found here]

theorem pageTitle_eq : pageTitle s k = .ok p.title := by
  simp [pageTitle, ready.stagedPage_eq here, bind, Except.bind, pure, Except.pure, pyStr]

omit [PyText] in
theorem pageOwnerId_eq : pageOwnerId s k = .ok p.ownerId := by
  simp [pageOwnerId, stringField, ready.stagedPage_eq here, bind, Except.bind, pure, Except.pure]

omit [PyText] in
theorem pageSpaceId_eq : pageSpaceId s k = .ok p.spaceId := by
  simp [pageSpaceId, stringField, ready.stagedPage_eq here, bind, Except.bind, pure, Except.pure]

theorem pageSpaceName_eq : ∃ name, pageSpaceName s k = .ok name := by
  obtain ⟨t, member, _, plays⟩ := ready.template here
  rw [pageSpaceName, ready.pageSpaceId_eq here, ready.holds.spaces, plays.space]
  simp only [pageTemplates, List.mem_cons, List.not_mem_nil, or_false] at member
  rcases member with rfl | rfl | rfl | rfl | rfl | rfl
  all_goals exact ⟨_, rfl⟩

end Reading

end Ready

/-! ### One page staged -/

theorem ok_bind {ε α β : Type} (a : α) (f : α → Except ε β) : (Except.ok a >>= f) = f a := rfl

theorem orNotFound_some [PyText] (heading body : String) : orNotFound heading (some body) = .ok body := rfl

/-- The store is built, and then the page gets a title and a body. -/
structure Dressed [PyText] (fixtures : Random) (variant : Variant) (k : String) (title : Option String)
    (bodyOf : String → String) (s₀ s₁ s : ConfluenceStore) (content : String → Option Page) (p : Page) : Prop where
  built : buildStore fixtures variant = .ok s₀
  titled : setPage s₀ k title none = .ok s₁
  shown : pageTitle s₁ k = .ok p.title
  filled : setPage s₁ k none (some (bodyOf p.title)) = .ok s
  ready : Ready variant s content
  here : content k = some p
  body : p.body = bodyOf p.title
  title_eq : ∀ text, title = some text → p.title = text
  others : ∀ j, j ≠ k → content j = fixtureContent fixtures variant j

theorem exists_dressed [PyText] (fixtures : Random) {variant : Variant}
    (full : variant = .default ∨ variant = .permissions) {k : String}
    (known : ∃ t ∈ templatesForVariant variant, t.pageId = k) (title : Option String) (bodyOf : String → String) :
    ∃ s₀ s₁ s content p, Dressed fixtures variant k title bodyOf s₀ s₁ s content p := by
  obtain ⟨t, member, rfl⟩ := known
  obtain ⟨s₀, built, ready₀⟩ := buildStore_ready fixtures variant full
  obtain ⟨p, here₀, _, _⟩ := ready₀.page member
  obtain ⟨s₁, titled, ready₁⟩ := ready₀.setPage here₀ title none
  have here₁ := Function.update_self t.pageId (some (retouched p title none)) (fixtureContent fixtures variant)
  obtain ⟨s, filled, ready⟩ := ready₁.setPage here₁ none (some (bodyOf (title.getD p.title)))
  refine ⟨s₀, s₁, s, _, retouched (retouched p title none) none (some (bodyOf (title.getD p.title))), built, titled,
    ready₁.pageTitle_eq here₁, filled, ready, Function.update_self _ _ _, rfl, ?_, ?_⟩
  · rintro text rfl
    rfl
  · intro j other
    rw [Function.update_of_ne other, Function.update_of_ne other]

theorem Dressed.id [PyText] {fixtures : Random} {variant : Variant} {k : String} {title : Option String}
    {bodyOf : String → String} {s₀ s₁ s : ConfluenceStore} {content : String → Option Page} {p : Page}
    (staged : Dressed fixtures variant k title bodyOf s₀ s₁ s content p) : p.id = k :=
  (staged.ready.holds.first staged.here).1

theorem Dressed.own [PyText] {fixtures : Random} {variant : Variant} {k : String} {title : Option String}
    {bodyOf : String → String} {s₀ s₁ s : ConfluenceStore} {content : String → Option Page} {p : Page}
    (staged : Dressed fixtures variant k title bodyOf s₀ s₁ s content p) : p.id ≠ "" ∧ content p.id = some p := by
  rw [staged.id]
  exact ⟨staged.ready.id_nonempty staged.here, staged.here⟩

/-! ### What the owner may do -/

/-- Among the fixtures' users, the owner of a page is known by its id. -/
structure Owned (s : ConfluenceStore) (p : Page) : Prop where
  users : s.users = .obj fixtureUsers
  listed : p.ownerId ∈ ["alice", "bob", "carol"]
  found : s.pages.get? p.id = some p.modelDump

theorem Ready.owned {variant : Variant} {s : ConfluenceStore} {content : String → Option Page}
    (ready : Ready variant s content) {k : String} {p : Page} (here : content k = some p) : Owned s p where
  users := ready.holds.users
  listed := ready.owner_listed here
  found := (ready.holds.first here).1.symm ▸ ready.holds.found here

namespace Owned

variable {s : ConfluenceStore} {p : Page} (owned : Owned s p)
include owned

theorem updated (title body : Option String) :
    Owned (s.updated (p.changed title body)) (p.changed title body) where
  users := owned.users
  listed := owned.listed
  found := by rw [ConfluenceStore.updated_pages, if_pos rfl]

theorem pageOwnerId_eq : pageOwnerId s p.id = .ok p.ownerId := by
  simp [pageOwnerId, stringField, stagedPage, owned.found, bind, Except.bind, pure, Except.pure]

theorem resolved : ∃ actor, resolveActor s (some p.ownerId) = .ok actor ∧ actor.aliases.contains p.ownerId = true := by
  have listed := owned.listed
  revert listed
  generalize p.ownerId = owner
  intro listed
  unfold resolveActor
  rw [owned.users]
  simp only [List.mem_cons, List.not_mem_nil, or_false] at listed
  obtain rfl | rfl | rfl := listed
  all_goals exact ⟨_, rfl, rfl⟩

variable [PyText]

theorem access (operation : Operation) : ∃ actor, resolveActor s (some p.ownerId) = .ok actor ∧
    canAccessPage s p.modelDump actor operation = .ok true := by
  obtain ⟨actor, resolved, listed⟩ := owned.resolved
  have owner : isPageOwner p.modelDump actor = true := by simpa [isPageOwner, ownedBy, pyStr] using listed
  refine ⟨actor, resolved, ?_⟩
  simp only [canAccessPage, isGlobalAdmin, owned.users, mappingEntries, owner, Bool.or_true, if_true]
  rfl

theorem get : handle s (.request (some p.ownerId) (.getPage p.id)) = (.page 200 p, s) := by
  obtain ⟨actor, resolved, allowed⟩ := owned.access .read
  have allowed : canReadPage s p.modelDump actor = .ok true := allowed
  simp [handle, request, resolved, call, getPage, readable, owned.found, allowed]

theorem put (payload : PageUpdateRequest) (ifVersion : Option String)
    (current : parseIfVersion ifVersion = .ok p.version) :
    handle s (.request (some p.ownerId) (.updatePage p.id payload ifVersion)) =
      (.page 200 (p.changed payload.title payload.body), s.updated (p.changed payload.title payload.body)) := by
  obtain ⟨actor, resolved, allowed⟩ := owned.access .write
  have allowed : canWritePage s p.modelDump actor = .ok true := allowed
  simp [handle, request, resolved, call, updatePage, owned.found, allowed, current, currentVersion_page,
    ConfluenceStore.updatePage_payload payload owned.found]

theorem humanEdit {edit : HumanEditRequest} (target : edit.pageId = p.id) :
    handle s (.humanEdit edit) =
      (.edited (p.changed none (some edit.body)), s.updated (p.changed none (some edit.body))) := by
  simp [handle, World.humanEdit, target, owned.found, currentVersion_page,
    ConfluenceStore.updatePage_body edit.body owned.found]

end Owned

/-! ### What nobody else may read -/

/-- The reader and writer lists of the fixtures. -/
def fixtureAcl : Acl where
  spaces := ⟨[("space-1", ⟨["alice", "bob", "carol"], ["alice"]⟩), ("space-2", ⟨["alice", "bob"], ["bob"]⟩),
    ("space-3", ⟨["alice", "carol"], ["carol"]⟩)], by decide⟩
  pages := ⟨[("page-6", ⟨["alice", "carol"], ["carol"]⟩)], by decide⟩

def fixtureUserDict : Dict String Json := ⟨fixtureUsers, by decide⟩

theorem fixtureAcl_entries (scope : Scope) {id : String} {e : AclEntry} (defined : fixtureAcl.entry scope id = some e) :
    ∀ user ∈ e.readers ++ e.writers, (fixtureUserDict.get? user).isSome := by
  have member : (id, e) ∈ (fixtureAcl.sectionOf scope).entries := Dict.mem_entries_iff.mpr defined
  have known : ∀ entry ∈ (fixtureAcl.sectionOf scope).entries, ∀ user ∈ entry.2.readers ++ entry.2.writers,
      (fixtureUserDict.get? user).isSome = true := by
    cases scope <;> decide
  exact known _ member

/-- The staged permissions are the lists, for users whose names do not collide. -/
theorem Ready.staged {variant : Variant} {s : ConfluenceStore} {content : String → Option Page}
    (ready : Ready variant s content) : Staged s fixtureAcl fixtureUserDict where
  users_eq := ready.holds.users
  permissions_eq := ready.holds.permissions
  spaces_mapping := by rw [ready.holds.spaces]; rfl
  members scope id e defined := fixtureAcl_entries scope defined
  pages_plain := by
    intro k d found key member
    rw [ready.holds.pages] at found
    obtain ⟨p, here, rfl⟩ := Option.map_eq_some_iff.mp found
    obtain ⟨t, _, _, plays⟩ := ready.template here
    simp only [nestedEntryKeys, List.mem_cons, List.not_mem_nil, or_false] at member
    rw [Page.modelDump_get?, plays.plain]
    rcases member with rfl | rfl | rfl <;> rfl
  spaces_plain := by
    intro id v found
    rw [ready.holds.spaces] at found
    have plain : ∀ e ∈ fixtureSpaces, ∀ key ∈ nestedEntryKeys, (e.2.get? key).isNone = true := by decide
    intro key member
    exact Option.isNone_iff_eq_none.mp (plain _ (Entries.mem_of_lookup found) key member)
  disjoint := by
    intro u v x y left right different
    have apart : ∀ a ∈ fixtureUsers, ∀ b ∈ fixtureUsers, a.1 ≠ b.1 →
        ∀ name ∈ userAliases a.1 a.2, name ∉ userAliases b.1 b.2 := by decide
    exact apart _ (Dict.mem_entries_iff.mpr left) _ (Dict.mem_entries_iff.mpr right) different
  names_free := by
    intro u x found
    have free : ∀ e ∈ fixtureUsers, ∀ name ∈ userAliases e.1 e.2,
        name ∉ ["readers", "writers", "spaces", "pages"] := by decide
    exact free _ (Dict.mem_entries_iff.mpr found)

end AgentGym.Scenarios
