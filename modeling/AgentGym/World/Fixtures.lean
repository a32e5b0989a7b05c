import AgentGym.World.Coherent

/-!
# The seeded fixtures

The builder fills a store with a fixed cast of users, spaces and permissions, and with
pages whose titles and bodies are drawn from a few alternatives each. A generator of
random numbers is known by its draws, which may be any numbers.
-/

namespace AgentGym.World

/-! ### Random draws -/

/-- The draws of a random number generator, first to last. -/
abbrev Random := Nat → Nat

/-- `rng.choice(options)`, as the given draw. -/
def choice {α : Type} [Inhabited α] (rng : Random) (draw : Nat) (options : List α) : α :=
  options.getD (rng draw % options.length) default

theorem choice_mem {α : Type} [Inhabited α] (rng : Random) (draw : Nat) {options : List α} (h : options ≠ []) :
    choice rng draw options ∈ options := by
  have inside : rng draw % options.length < options.length := Nat.mod_lt _ (List.length_pos_of_ne_nil h)
  have drawn : choice rng draw options = options[rng draw % options.length] := by
    simp [choice, List.getD_eq_getElem?_getD, inside]
  rw [drawn]
  exact List.getElem_mem inside

/-! ### The cast -/

def fixtureUsers : List (String × Json) := [
  ("alice", .obj [("id", .str "alice"), ("username", .str "alice"), ("name", .str "Alice Chen"),
    ("email", .str "alice@example.test"), ("role", .str "editor")]),
  ("bob", .obj [("id", .str "bob"), ("username", .str "bob"), ("name", .str "Bob Singh"),
    ("email", .str "bob@example.test"), ("role", .str "reader")]),
  ("carol", .obj [("id", .str "carol"), ("username", .str "carol"), ("name", .str "Carol Rivera"),
    ("email", .str "carol@example.test"), ("role", .str "editor")]),
  ("admin", .obj [("id", .str "admin"), ("username", .str "admin"), ("name", .str "Confluence Administrator"),
    ("email", .str "admin@example.test"), ("role", .str "admin"), ("is_admin", .bool true)])]

def fixtureSpaces : List (String × Json) := [
  ("space-1", .obj [("id", .str "space-1"), ("key", .str "ENG"), ("name", .str "Engineering"),
    ("owner_id", .str "alice")]),
  ("space-2", .obj [("id", .str "space-2"), ("key", .str "PLAT"), ("name", .str "Platform"),
    ("owner_id", .str "bob")]),
  ("space-3", .obj [("id", .str "space-3"), ("key", .str "FIN"), ("name", .str "Finance"),
    ("owner_id", .str "carol")])]

/-- An entry of an access list. -/
def accessEntry (readers writers : List String) : Json :=
  .obj [("readers", .arr (readers.map .str)), ("writers", .arr (writers.map .str))]

def spacePermissions : List (String × Json) := [
  ("space-1", accessEntry ["alice", "bob", "carol"] ["alice"]),
  ("space-2", accessEntry ["alice", "bob"] ["bob"]),
  ("space-3", accessEntry ["alice", "carol"] ["carol"])]

structure PageTemplate where
  pageId : String
  spaceId : String
  ownerId : String
  titles : List String
  bodies : List String

def pageTemplates : List PageTemplate := [
  ⟨"page-1", "space-1", "alice", ["Deployment Runbook", "Deployment Guide", "Deployment Procedures"],
    ["Production deployment steps for the engineering team.",
      "Release checklist and rollback instructions for production."]⟩,
  ⟨"page-2", "space-1", "alice", ["Deployment Guide", "Deployment Runbook"],
    ["Local deployment setup and service ownership notes.",
      "Development deployment workflow for application teams."]⟩,
  ⟨"page-3", "space-2", "bob", ["Deployment Runbook", "Deployment Operations"],
    ["Platform deployment steps and cluster verification checks.",
      "Operations guide for platform release coordination."]⟩,
  ⟨"page-4", "space-2", "bob", ["Payments Architecture", "Payment Architecture"],
    ["Service boundaries and event flow for payment processing.",
      "Architecture decisions for the payments platform."]⟩,
  ⟨"page-5", "space-3", "carol", ["Payments Architecture", "Payments Operations"],
    ["Finance controls and reconciliation requirements for payments.",
      "Operational ownership and reporting for payment workflows."]⟩,
  ⟨"page-6", "space-3", "carol", ["Deployment Runbook", "Deployment Change Policy"],
    ["Finance change-control policy for production deployments.",
      "Approval requirements for deployment-related financial systems."]⟩]

/-- The built-in variants, under their normalized names. -/
inductive Variant where
  | default | minimal | permissions | concurrentEdit
  deriving DecidableEq

def spaceIdsForVariant : Variant → List String
  | .minimal => ["space-1", "space-2"]
  | _ => fixtureSpaces.map Prod.fst

def templatesForVariant : Variant → List PageTemplate
  | .minimal => pageTemplates.take 2
  | .permissions => pageTemplates.take 1 ++ pageTemplates.drop 4
  | _ => pageTemplates

/-! ### The builder -/

/-- What an operation leaves, or what it raised. -/
def stored {α : Type} : Outcome α → Except PyError ConfluenceStore
  | (.ok _, s) => .ok s
  | (.error e, _) => .error e

/-- The page of a template, as the given pair of draws makes it. -/
def templateJson (rng : Random) (index : Nat) (t : PageTemplate) : Json :=
  .obj [("id", .str t.pageId), ("space_id", .str t.spaceId), ("title", .str (choice rng (2 * index) t.titles)),
    ("body", .str (choice rng (2 * index + 1) t.bodies)), ("owner_id", .str t.ownerId)]

def addTemplates [LaxInt] (rng : Random) (spaces : List String) :
    (index : Nat) → List PageTemplate → ConfluenceStore → Except PyError ConfluenceStore
  | _, [], s => .ok s
  | index, t :: ts, s =>
    if spaces.contains t.spaceId then
      stored (s.addPage (templateJson rng index t)) >>= addTemplates rng spaces (index + 1) ts
    else addTemplates rng spaces index ts s

def fixturePermissions (variant : Variant) : Json :=
  let kept (entries : List (String × Json)) := entries.filter fun e => (spaceIdsForVariant variant).contains e.1
  let guarded := (templatesForVariant variant).any fun t => t.pageId == "page-6"
  .obj [("spaces", .obj (kept spacePermissions)),
    ("pages", .obj (if guarded then [("page-6", accessEntry ["alice", "carol"] ["carol"])] else []))]

def buildStore [LaxInt] (rng : Random) (variant : Variant) : Except PyError ConfluenceStore := do
  let spaceIds := spaceIdsForVariant variant
  let spaces := fixtureSpaces.filter fun e => spaceIds.contains e.1
  let s ← addTemplates rng spaceIds 0 (templatesForVariant variant)
    (.ofCollections (.obj fixtureUsers) (.obj spaces) (fixturePermissions variant))
  if variant = .concurrentEdit ∧ s.pages.contains "page-1" then
    stored (s.updatePage "page-1" none none (some "A human editor updated this page after the initial read.") none)
  else pure s

/-! ### What the builder leaves -/

/-- The fixtures' collections, and these pages at their first versions. -/
structure Holds (s : ConfluenceStore) (content : String → Option Page) : Prop where
  users : s.users = .obj fixtureUsers
  spaces : s.spaces = .obj fixtureSpaces
  permissions : s.permissions = fixturePermissions .default
  pages : ∀ k, s.pages.get? k = (content k).map Page.modelDump
  histories : ∀ k, s.getPageVersions k = ((content k).map Page.modelDump).toList
  first : ∀ {k p}, content k = some p → p.id = k ∧ p.version = 1

namespace Holds

variable {s : ConfluenceStore} {content : String → Option Page} (h : Holds s content)
include h

theorem found {k : String} {p : Page} (here : content k = some p) : s.pages.get? k = some p.modelDump := by
  rw [h.pages, here]
  rfl

theorem valid : s.Valid where
  pages := by
    intro k d found
    rw [h.pages] at found
    obtain ⟨p, _, rfl⟩ := Option.map_eq_some_iff.mp found
    exact ⟨p, rfl⟩
  histories := by
    intro k d member
    rw [h.histories, Option.mem_toList] at member
    obtain ⟨p, _, rfl⟩ := Option.map_eq_some_iff.mp member
    exact ⟨p, rfl⟩

theorem keyed : s.Keyed := by
  intro k d found
  rw [h.pages] at found
  obtain ⟨p, here, rfl⟩ := Option.map_eq_some_iff.mp found
  rw [p.get?_id, (h.first here).1]

theorem coherent : s.Coherent where
  valid := h.valid
  keyed := h.keyed
  current := by
    intro k d found
    rw [h.pages] at found
    rw [h.histories, found]
    rfl
  numbered := by
    intro k i p entry
    rw [h.histories] at entry
    cases here : content k with
    | none => simp [here] at entry
    | some q =>
      rw [here] at entry
      cases i with
      | zero =>
        obtain rfl := Page.modelDump_injective (Option.some.inj entry)
        rw [(h.first here).2]
        rfl
      | succ i => simp at entry
  orphans := by
    intro k absent
    rw [h.pages] at absent
    rw [h.histories, absent]
    rfl

theorem created {p : Page} (first : p.version = 1) :
    Holds (s.created p) (Function.update content p.id (some p)) where
  users := h.users
  spaces := h.spaces
  permissions := h.permissions
  pages k := by
    rw [ConfluenceStore.created_pages, Function.update_apply]
    split
    · rfl
    · exact h.pages k
  histories k := by
    rw [ConfluenceStore.created_history, Function.update_apply]
    split
    · rfl
    · exact h.histories k
  first := by
    intro k q here
    rw [Function.update_apply] at here
    split at here
    · rename_i same
      obtain rfl := Option.some.inj here
      exact ⟨same.symm, first⟩
    · exact h.first here

end Holds

/-- The page of a template, validated. -/
def templatePage (rng : Random) (index : Nat) (t : PageTemplate) : Page where
  id := t.pageId
  spaceId := t.spaceId
  title := choice rng (2 * index) t.titles
  body := choice rng (2 * index + 1) t.bodies
  version := 1
  ownerId := t.ownerId
  extras := Dict.empty
  extras_free := Page.noExtras

theorem pageModel_templateJson [LaxInt] (rng : Random) (index : Nat) (t : PageTemplate) :
    pageModel (templateJson rng index t) = .ok (templatePage rng index t) := rfl

/-- The pages a list of templates adds. -/
def templateContent (rng : Random) :
    (index : Nat) → List PageTemplate → (String → Option Page) → String → Option Page
  | _, [], content => content
  | index, t :: ts, content =>
    templateContent rng (index + 1) ts (Function.update content t.pageId (some (templatePage rng index t)))

theorem addTemplates_holds [LaxInt] (rng : Random) (index : Nat) {spaces : List String} {ts : List PageTemplate}
    {s : ConfluenceStore} {content : String → Option Page} (h : Holds s content)
    (housed : ∀ t ∈ ts, spaces.contains t.spaceId = true) (fresh : ∀ t ∈ ts, content t.pageId = none)
    (distinct : (ts.map PageTemplate.pageId).Nodup) :
    ∃ s', addTemplates rng spaces index ts s = .ok s' ∧ Holds s' (templateContent rng index ts content) := by
  induction ts generalizing index s content with
  | nil => exact ⟨s, rfl, h⟩
  | cons t ts ih =>
    have absent : s.pages.get? (templatePage rng index t).id = none := by
      rw [h.pages, show content (templatePage rng index t).id = none from fresh t List.mem_cons_self]
      rfl
    obtain ⟨apart, distinct⟩ := List.nodup_cons.mp distinct
    rw [addTemplates, if_pos (housed t List.mem_cons_self),
      ConfluenceStore.addPage_ok (pageModel_templateJson rng index t) absent]
    refine ih (index + 1) (h.created rfl) (fun u member => housed u (List.mem_cons_of_mem _ member)) ?_ distinct
    intro u member
    have other : u.pageId ≠ t.pageId := by
      intro same
      exact apart (same ▸ List.mem_map_of_mem member)
    rw [Function.update_apply, if_neg other]
    exact fresh u (List.mem_cons_of_mem _ member)

/-- The pages of a variant's templates. -/
def fixtureContent (rng : Random) (variant : Variant) : String → Option Page :=
  templateContent rng 0 (templatesForVariant variant) fun _ => none

theorem buildStore_holds [LaxInt] (rng : Random) (variant : Variant) (full : variant = .default ∨ variant = .permissions) :
    ∃ s, buildStore rng variant = .ok s ∧ Holds s (fixtureContent rng variant) := by
  have collections : spaceIdsForVariant variant = fixtureSpaces.map Prod.fst ∧
      fixturePermissions variant = fixturePermissions .default ∧
      (templatesForVariant variant).all (fun t => (fixtureSpaces.map Prod.fst).contains t.spaceId) = true ∧
      ((templatesForVariant variant).map PageTemplate.pageId).Nodup ∧ variant ≠ .concurrentEdit := by
    obtain rfl | rfl := full <;> exact ⟨rfl, rfl, by decide, by decide, by decide⟩
  obtain ⟨spaces, permissions, housed, distinct, plain⟩ := collections
  have blank : Holds (.ofCollections (.obj fixtureUsers) (.obj fixtureSpaces) (fixturePermissions .default)) fun _ => none :=
    { users := rfl, spaces := rfl, permissions := rfl, pages := fun _ => rfl, histories := fun _ => rfl
      first := nofun }
  obtain ⟨s, built, holds⟩ := addTemplates_holds rng 0 blank (List.all_eq_true.mp housed)
    (fun _ _ => rfl) distinct
  refine ⟨s, ?_, holds⟩
  have whole : fixtureSpaces.filter (fun e => (fixtureSpaces.map Prod.fst).contains e.1) = fixtureSpaces := rfl
  rw [buildStore, spaces, permissions, whole, built]
  simp [plain, bind, Except.bind, pure, Except.pure]

end AgentGym.World
