import AgentGym.World.Atomic
import AgentGym.World.Listing

/-!
# Stores that differ in key order alone

A store that was written to a file and read back holds the same values under the same keys,
in another order. Such stores answer every run of calls alike, as long as every name belongs
to one user and the owner of a space is no collection.
-/

namespace AgentGym.World

/-! ### Pages -/

def SameData (d e : PageData) : Prop := (Json.ofDict d).sameText (.ofDict e) = true

theorem SameData.get? {d e : PageData} (same : SameData d e) (k : String) : SameOption (d.get? k) (e.get? k) :=
  SameOption.get? same k

theorem SameData.of_get? {d e : PageData} (same : ∀ k, SameOption (d.get? k) (e.get? k)) : SameData d e :=
  Json.eqBy_obj.mpr fun k => sameOption_iff.mp (same k)

theorem SameOption.refl (o : Option Json) : SameOption o o := by
  cases o with
  | none => exact .none
  | some v => exact .some v.sameText_refl

theorem SameOption.symm {x y : Option Json} (same : SameOption x y) : SameOption y x := by
  cases same with
  | none => exact .none
  | some same => exact .some (Json.sameText_symm same)

theorem SameOption.isSome_eq {x y : Option Json} (same : SameOption x y) : x.isSome = y.isSome := by
  cases same <;> rfl

theorem SameOption.exists_of_eq_some {x y : Option Json} (same : SameOption x y) {v : Json} (found : x = some v) :
    ∃ w, y = some w ∧ v.sameText w = true := by
  subst found
  cases same with
  | @some _ w same => exact ⟨w, rfl, same⟩

/-- The same scalar or nothing, or two collections. -/
theorem SameOption.eq_or_composite {x y : Option Json} (same : SameOption x y) :
    x = y ∨ ∃ v w, x = some v ∧ y = some w ∧ v.isLeaf = false ∧ w.isLeaf = false ∧ v.sameText w = true := by
  cases same with
  | none => exact Or.inl rfl
  | @some v w same =>
    obtain rfl | ⟨left, right⟩ := World.eq_or_composite same
    · exact Or.inl rfl
    · exact Or.inr ⟨v, w, rfl, rfl, left, right, same⟩

theorem SameOption.eq_of_leaf {x y : Option Json} (same : SameOption x y) (leaf : ∀ v ∈ x, v.isLeaf = true) :
    x = y := by
  obtain equal | ⟨v, w, rfl, -, composite, -, -⟩ := same.eq_or_composite
  · exact equal
  · rw [leaf v rfl] at composite
    cases composite

theorem SameOption.getD {x y : Option Json} (same : SameOption x y) {v w : Json} (missing : v.sameText w = true) :
    (x.getD v).sameText (y.getD w) = true := by
  cases same with
  | none => exact missing
  | some same => exact same

/-- The same page, but for key order in the extra fields. -/
structure SamePage (p q : Page) : Prop where
  id : p.id = q.id
  spaceId : p.spaceId = q.spaceId
  title : p.title = q.title
  body : p.body = q.body
  version : p.version = q.version
  ownerId : p.ownerId = q.ownerId
  extras : ∀ k, SameOption (p.extras.get? k) (q.extras.get? k)

namespace SamePage

variable {p q : Page}

theorem fieldEntries (same : SamePage p q) : p.fieldEntries = q.fieldEntries := by
  simp only [Page.fieldEntries, same.id, same.spaceId, same.title, same.body, same.version, same.ownerId]

theorem changed (same : SamePage p q) (title body : Option String) :
    SamePage (p.changed title body) (q.changed title body) where
  id := same.id
  spaceId := same.spaceId
  title := congrArg title.getD same.title
  body := congrArg body.getD same.body
  version := congrArg (· + 1) same.version
  ownerId := same.ownerId
  extras := same.extras

theorem refl (p : Page) : SamePage p p := ⟨rfl, rfl, rfl, rfl, rfl, rfl, fun _ => .refl _⟩

end SamePage

theorem Page.fieldEntries_lookup (p : Page) {k : String} (free : k ∉ pageFields) : p.fieldEntries.lookup k = none :=
  Entries.lookup_none_iff_not_mem.mpr free

theorem Page.extras_get? (p : Page) {k : String} (declared : k ∈ pageFields) : p.extras.get? k = none := by
  by_contra present
  exact p.extras_free k (Dict.mem_keys_iff.mpr (Option.isSome_iff_ne_none.mpr present)) declared

theorem sameData_modelDump {p q : Page} : SameData p.modelDump q.modelDump ↔ SamePage p q := by
  constructor
  · intro same
    have text : ∀ {k s t}, p.modelDump.get? k = some (.str s) → q.modelDump.get? k = some (.str t) → s = t := by
      intro k s t left right
      have field := same.get? k
      rw [left, right] at field
      have equal := field.eq_of_leaf fun v member => Option.mem_some.mp member ▸ rfl
      exact Json.str.inj (Option.some.inj equal)
    have version := same.get? "version"
    rw [p.get?_version, q.get?_version] at version
    have equal := version.eq_of_leaf fun v member => Option.mem_some.mp member ▸ rfl
    refine ⟨text p.get?_id q.get?_id, text p.get?_space_id q.get?_space_id, text p.get?_title q.get?_title,
      text p.get?_body q.get?_body, Json.int.inj (Option.some.inj equal), text p.get?_owner_id q.get?_owner_id, ?_⟩
    intro k
    by_cases declared : k ∈ pageFields
    · rw [p.extras_get? declared, q.extras_get? declared]
      exact .none
    · have field := same.get? k
      rw [p.modelDump_get?, q.modelDump_get?, p.fieldEntries_lookup declared, q.fieldEntries_lookup declared] at field
      exact field
  · intro same
    refine .of_get? fun k => ?_
    rw [p.modelDump_get?, q.modelDump_get?, same.fieldEntries]
    cases q.fieldEntries.lookup k with
    | none => exact same.extras k
    | some v => exact .refl _

/-- Dumps of pages that are the same. -/
theorem exists_pages {ds es : List PageData} (same : List.Forall₂ SameData ds es)
    (left : ∀ d ∈ ds, ∃ p : Page, d = p.modelDump) (right : ∀ e ∈ es, ∃ q : Page, e = q.modelDump) :
    ∃ ps qs : List Page, ds = ps.map Page.modelDump ∧ es = qs.map Page.modelDump ∧ List.Forall₂ SamePage ps qs := by
  induction same with
  | nil => exact ⟨[], [], rfl, rfl, .nil⟩
  | cons first _ ih =>
    obtain ⟨⟨p, rfl⟩, left'⟩ := List.forall_mem_cons.mp left
    obtain ⟨⟨q, rfl⟩, right'⟩ := List.forall_mem_cons.mp right
    obtain ⟨ps, qs, rfl, rfl, rest⟩ := ih left' right'
    exact ⟨p :: ps, q :: qs, rfl, rfl, .cons (sameData_modelDump.mp first) rest⟩

/-! ### Actors -/

theorem userAliases_same (userId : String) {v w : Json} (same : v.sameText w = true) :
    userAliases userId v = userAliases userId w := by
  cases v with
  | obj kvs =>
    obtain ⟨kvs', rfl, fields⟩ := exists_obj_of_sameText same
    refine congrArg (userId :: ·) (List.filterMap_congr fun name _ => ?_)
    obtain equal | ⟨v, w, left, right, composite, composite', -⟩ := (fields name).eq_or_composite
    · have equal : (Json.obj kvs).get? name = (Json.obj kvs').get? name := equal
      rw [equal]
    · have left : (Json.obj kvs).get? name = some v := left
      have right : (Json.obj kvs').get? name = some w := right
      rw [left, right]
      cases v <;> cases w <;> first | rfl | simp [Json.isLeaf] at composite composite'
  | arr xs =>
    obtain ⟨ys, rfl, -⟩ := exists_arr_of_sameText same
    rfl
  | _ => rw [← Json.eq_of_sameText rfl same]

theorem find?_unique {α : Type} {p : α → Bool} {xs : List α}
    (unique : ∀ x ∈ xs, ∀ y ∈ xs, p x = true → p y = true → x = y)
    {x : α} : xs.find? p = some x ↔ x ∈ xs ∧ p x = true := by
  constructor
  · intro found
    exact ⟨List.mem_of_find?_eq_some found, List.find?_some found⟩
  · rintro ⟨member, holds⟩
    cases found : xs.find? p with
    | none => exact absurd holds (List.find?_eq_none.mp found x member)
    | some y =>
      rw [unique y (List.mem_of_find?_eq_some found) x member (List.find?_some found) holds]

/-- The user a name stands for. -/
def named (name : String) (e : String × Json) : Bool := (userAliases e.1 e.2).contains name

theorem named_iff {name : String} {e : String × Json} : named name e = true ↔ name ∈ userAliases e.1 e.2 :=
  List.contains_iff_mem

/-- Every name is one user's. -/
def OneName (users : String → Option Json) : Prop :=
  ∀ u v x y name, users u = some x → users v = some y → name ∈ userAliases u x → name ∈ userAliases v y → u = v

theorem OneName.same {users users' : String → Option Json} (names : OneName users)
    (same : ∀ k, SameOption (users k) (users' k)) : OneName users' := by
  intro u v x y name left right first second
  obtain ⟨x', left', aliases⟩ := (same u).symm.exists_of_eq_some left
  obtain ⟨y', right', aliases'⟩ := (same v).symm.exists_of_eq_some right
  rw [userAliases_same u aliases] at first
  rw [userAliases_same v aliases'] at second
  exact names u v x' y' name left' right' first second

theorem find?_named {d : Dict String Json} (names : OneName d.get?) {name : String} {e : String × Json} :
    d.entries.find? (named name) = some e ↔ d.get? e.1 = some e.2 ∧ name ∈ userAliases e.1 e.2 := by
  rw [find?_unique, named_iff, ← Dict.mem_entries_iff]
  intro x left y right first second
  have left := Dict.mem_entries_iff.mp left
  have right := Dict.mem_entries_iff.mp right
  have keys := names x.1 y.1 x.2 y.2 name left right (named_iff.mp first) (named_iff.mp second)
  rw [keys, right] at left
  exact Prod.ext keys (Option.some.inj left).symm

theorem find?_same {d d' : Dict String Json} (names : OneName d.get?)
    (same : ∀ k, SameOption (d.get? k) (d'.get? k)) (name : String) :
    (d.entries.find? (named name)).map (fun e => (e.1, userAliases e.1 e.2)) =
      (d'.entries.find? (named name)).map fun e => (e.1, userAliases e.1 e.2) := by
  have names' := OneName.same names same
  cases found : d.entries.find? (named name) with
  | some e =>
    obtain ⟨stored, listed⟩ := (find?_named names).mp found
    obtain ⟨w, stored', text⟩ := (same e.1).exists_of_eq_some stored
    have aliases := userAliases_same e.1 text
    rw [aliases] at listed
    rw [(find?_named (e := (e.1, w)) names').mpr ⟨stored', listed⟩]
    exact congrArg (fun names => some (e.1, names)) aliases
  | none =>
    cases found' : d'.entries.find? (named name) with
    | none => rfl
    | some e =>
      obtain ⟨stored, listed⟩ := (find?_named names').mp found'
      obtain ⟨w, stored', text⟩ := (same e.1).symm.exists_of_eq_some stored
      rw [userAliases_same e.1 text] at listed
      rw [(find?_named (e := (e.1, w)) names).mpr ⟨stored', listed⟩] at found
      cases found

/-! ### Stores -/

/-- The same collections, but for key order at any depth. -/
structure Alike (a b : ConfluenceStore) : Prop where
  users : a.users.sameText b.users = true
  spaces : a.spaces.sameText b.spaces = true
  permissions : a.permissions.sameText b.permissions = true
  pages : ∀ k, Option.Rel SameData (a.pages.get? k) (b.pages.get? k)
  histories : ∀ k, Option.Rel (List.Forall₂ SameData) (a.pageVersions.get? k) (b.pageVersions.get? k)
  domainId : a.domainId = b.domainId
  schemaVersion : a.schemaVersion = b.schemaVersion

/-- Every name is one user's, and the owner of a space is no collection. -/
structure Unambiguous (s : ConfluenceStore) : Prop where
  names : OneName s.users.get?
  owners : ∀ id space owner, s.spaces.get? id = some space → space.get? "owner_id" = some owner → owner.isLeaf = true

/-- The same answer, but for key order in the extra fields of its pages. -/
inductive SameAnswer : Response → Response → Prop
  | page (status : Nat) {p q : Page} (same : SamePage p q) : SameAnswer (.page status p) (.page status q)
  | pageList {ps qs : List Page} (same : List.Forall₂ SamePage ps qs) (total : Nat) (limit offset : Int) :
    SameAnswer (.pageList ps total limit offset) (.pageList qs total limit offset)
  | versions {ps qs : List Page} (same : List.Forall₂ SamePage ps qs) : SameAnswer (.versions ps) (.versions qs)
  | edited {p q : Page} (same : SamePage p q) : SameAnswer (.edited p) (.edited q)
  | failure {r : Response} (failed : r.isFailure = true) : SameAnswer r r

/-- The answers are the same, and so are the stores afterwards. -/
def SameStep (x y : Response × ConfluenceStore) : Prop := SameAnswer x.1 y.1 ∧ Alike x.2 y.2

namespace Alike

variable {a b : ConfluenceStore} (h : Alike a b)
include h

/-- The page stored under an id in either store. -/
theorem page (valid : a.Valid ∧ b.Valid) {k : String} :
    (a.pages.get? k = none ∧ b.pages.get? k = none) ∨
      ∃ p q, a.pages.get? k = some p.modelDump ∧ b.pages.get? k = some q.modelDump ∧ SamePage p q := by
  have stored := h.pages k
  cases left : a.pages.get? k with
  | none =>
    rw [left] at stored
    cases right : b.pages.get? k with
    | none => exact Or.inl ⟨rfl, rfl⟩
    | some e => rw [right] at stored; cases stored
  | some d =>
    rw [left] at stored
    cases right : b.pages.get? k with
    | none => rw [right] at stored; cases stored
    | some e =>
      rw [right] at stored
      obtain ⟨p, rfl⟩ := valid.1.pages left
      obtain ⟨q, rfl⟩ := valid.2.pages right
      cases stored with
      | some same => exact Or.inr ⟨p, q, rfl, rfl, sameData_modelDump.mp same⟩

theorem keyed (keyed : a.Keyed) : b.Keyed := by
  intro k e found
  have stored := h.pages k
  rw [found] at stored
  cases left : a.pages.get? k with
  | none => rw [left] at stored; cases stored
  | some d =>
    rw [left] at stored
    cases stored with
    | some same =>
      have named := same.get? "id"
      rw [keyed left] at named
      exact (named.eq_of_leaf fun v member => Option.mem_some.mp member ▸ rfl).symm

/-- The versions of a page in either store. -/
theorem versions (valid : a.Valid ∧ b.Valid) (k : String) : ∃ ps qs : List Page,
    a.getPageVersions k = ps.map Page.modelDump ∧ b.getPageVersions k = qs.map Page.modelDump ∧
      List.Forall₂ SamePage ps qs := by
  have same : List.Forall₂ SameData (a.getPageVersions k) (b.getPageVersions k) := by
    have stored := h.histories k
    unfold ConfluenceStore.getPageVersions
    revert stored
    generalize a.pageVersions.get? k = x
    generalize b.pageVersions.get? k = y
    intro stored
    cases stored with
    | none => exact .nil
    | some same => exact same
  exact exists_pages same (fun _ => valid.1.histories) fun _ => valid.2.histories

theorem resolveActor_same (plain : Unambiguous a) (header : Option String) :
    resolveActor a header = resolveActor b header := by
  unfold resolveActor
  split
  · rfl
  · rfl
  · rename_i requested _ _
    have users := h.users
    have names := plain.names
    revert users names
    generalize a.users = v
    generalize b.users = w
    intro users names
    cases v with
    | obj kvs =>
      obtain ⟨kvs', rfl, fields⟩ := exists_obj_of_sameText users
      have stored : ∀ k, SameOption ((Dict.ofEntries kvs).get? k) ((Dict.ofEntries kvs').get? k) := by
        intro k
        rw [Dict.get?_ofEntries, Dict.get?_ofEntries]
        exact fields k
      have names : OneName (Dict.ofEntries kvs).get? := by
        intro u v x y
        rw [Dict.get?_ofEntries, Dict.get?_ofEntries]
        exact names u v x y
      have found := find?_same names stored requested
      unfold named at found
      revert found
      dsimp only
      generalize (Dict.ofEntries kvs).entries.find? _ = x
      generalize (Dict.ofEntries kvs').entries.find? _ = y
      intro found
      cases x with
      | none => cases y with
        | none => rfl
        | some e => cases found
      | some e => cases y with
        | none => cases found
        | some e' =>
          obtain ⟨userId, aliases⟩ := Prod.mk.inj (Option.some.inj found)
          exact congrArg Except.ok (congr (congrArg ActorIdentity.mk userId) aliases)
    | arr xs =>
      obtain ⟨ys, rfl, -⟩ := exists_arr_of_sameText users
      rfl
    | _ => rw [← Json.eq_of_sameText rfl users]

/-! ### Rights -/

variable [PyText]

omit h in
theorem adminUser_same {x y : Option Json} (same : SameOption x y) : adminUser x = adminUser y := by
  obtain rfl | ⟨v, w, rfl, rfl, composite, composite', same⟩ := same.eq_or_composite
  · rfl
  · cases v with
    | obj kvs =>
      obtain ⟨kvs', rfl, fields⟩ := exists_obj_of_sameText same
      simp only [adminUser, fun key => (fields key).isTrue_eq]
      congr 1
      obtain equal | ⟨x, y, left, right, composite, composite', -⟩ := (fields "role").eq_or_composite
      · rw [equal]
      · rw [left, right]
        cases x <;> cases y <;> first | rfl | simp [Json.isLeaf] at composite composite'
    | arr xs =>
      obtain ⟨ys, rfl, -⟩ := exists_arr_of_sameText same
      rfl
    | _ => cases composite

theorem isGlobalAdmin_same (actor : ActorIdentity) : isGlobalAdmin a actor = isGlobalAdmin b actor :=
  (mappingEntries_same h.users).map_eq fun _ _ same => adminUser_same (SameOption.get? same actor.userId)

omit h in
theorem ownedSpace_same (actor : ActorIdentity) {x y : Option Json} (same : SameOption x y)
    (owners : ∀ space owner, x = some space → space.get? "owner_id" = some owner → owner.isLeaf = true) :
    ownedSpace actor x = ownedSpace actor y := by
  obtain rfl | ⟨v, w, rfl, rfl, composite, composite', same⟩ := same.eq_or_composite
  · rfl
  · cases v with
    | obj kvs =>
      obtain ⟨kvs', rfl, fields⟩ := exists_obj_of_sameText same
      have owner : kvs.lookup "owner_id" = kvs'.lookup "owner_id" :=
        (fields "owner_id").eq_of_leaf fun v owned => owners _ v rfl owned
      have admins := actorInValue_same actor.aliases
        ((fields "admins").getD ((fields "administrators").getD (Json.sameText_refl (.arr []))))
      simp only [ownedSpace, owner, admins]
    | arr xs =>
      obtain ⟨ys, rfl, -⟩ := exists_arr_of_sameText same
      rfl
    | _ => cases composite

theorem isSpaceOwner_same (plain : Unambiguous a) (spaceId : String) (actor : ActorIdentity) :
    isSpaceOwner a spaceId actor = isSpaceOwner b spaceId actor := by
  have owners := plain.owners spaceId
  have spaces := h.spaces
  unfold isSpaceOwner
  revert owners spaces
  generalize a.spaces = v
  generalize b.spaces = w
  intro owners spaces
  cases mapping : mappingEntries v with
  | error e =>
    have same := mappingEntries_same spaces
    rw [mapping] at same
    generalize mappingEntries w = y at same ⊢
    cases same
    rfl
  | ok kvs =>
    obtain rfl : v = .obj kvs := by
      cases v <;> cases mapping
      rfl
    obtain ⟨kvs', rfl, fields⟩ := exists_obj_of_sameText spaces
    exact congrArg Except.ok (ownedSpace_same actor (fields spaceId) fun space owner => owners space owner)

omit [PyText] in
theorem resource_same (scope : Scope) (id : String) :
    SameResult SameOption (resourceOf a scope id) (resourceOf b scope id) := by
  cases scope with
  | space =>
    exact (mappingEntries_same h.spaces).bind fun _ _ same => .ok (.get? same id)
  | page => exact .ok (optionRel_imp (h.pages id) fun _ _ same => same)

omit [PyText] in
theorem permissionEntries_same (scope : Scope) (id : String) (actor : ActorIdentity) :
    SameResult (List.Forall₂ SameEntry) (permissionEntries a scope id actor) (permissionEntries b scope id actor) :=
  permissionEntries_of_same h.permissions (h.resource_same scope id) actor

theorem canAccessPage_same {p q : Page} (same : SamePage p q) (actor : ActorIdentity) (operation : Operation) :
    canAccessPage a p.modelDump actor operation = canAccessPage b q.modelDump actor operation := by
  have owner : isPageOwner p.modelDump actor = isPageOwner q.modelDump actor := by
    rw [isPageOwner, isPageOwner, p.get?_owner_id, q.get?_owner_id, same.ownerId]
  have page := h.permissionEntries_same .page p.id actor
  have space := h.permissionEntries_same .space p.spaceId actor
  refine canAccessPage_of_same (h.isGlobalAdmin_same actor) owner ?_ ?_ operation
  · show SameResult _ (permissionEntries a .page p.id actor) (permissionEntries b .page q.id actor)
    rwa [← same.id]
  · show SameResult _ (permissionEntries a .space p.spaceId actor) (permissionEntries b .space q.spaceId actor)
    rwa [← same.spaceId]

theorem canCreatePage_same (plain : Unambiguous a) (spaceId : String) (actor : ActorIdentity) :
    canCreatePage a spaceId actor = canCreatePage b spaceId actor := by
  unfold canCreatePage
  rw [h.isGlobalAdmin_same, h.isSpaceOwner_same plain]
  refine (SameResult.bind (.of_eq (R := Eq) (fun _ => rfl) rfl) ?_).eq
  rintro admin _ rfl
  split
  · exact .ok rfl
  · refine SameResult.bind (.of_eq (R := Eq) (fun _ => rfl) rfl) ?_
    rintro owner _ rfl
    split
    · exact .ok rfl
    · refine (h.permissionEntries_same .space spaceId actor).bind fun es fs entries => .ok ?_
      simp only [entriesGrant_same entries actor .write]

/-! ### Lists of pages -/

omit h in
theorem matches_same {p q : Page} (same : SamePage p q) {query : Option String} (matching : Matches p query) :
    Matches q query := by
  unfold Matches at matching ⊢
  rwa [← same.id, ← same.spaceId, ← same.title, ← same.body]

/-- What one view shows, the other shows. -/
theorem shown {actor : ActorIdentity} {query : Option String} {ps qs : List Page} (valid : a.Valid ∧ b.Valid)
    (left : View a actor query ps) (right : View b actor query qs) {p : Page} (member : p ∈ ps) :
    ∃ q ∈ qs, SamePage p q := by
  obtain ⟨stored, readable, matching⟩ := (left.mem p).mp member
  obtain ⟨absent, -⟩ | ⟨p', q, found, found', same⟩ := h.page valid (k := p.id)
  · rw [absent] at stored
    cases stored
  · rw [stored] at found
    obtain rfl := Page.modelDump_injective (Option.some.inj found)
    refine ⟨q, (right.mem q).mpr ⟨same.id ▸ found', ?_, matches_same same matching⟩, same⟩
    exact (h.canAccessPage_same same actor .read).symm.trans readable

omit h [PyText] in
theorem symm (h : Alike a b) : Alike b a where
  users := Json.sameText_symm h.users
  spaces := Json.sameText_symm h.spaces
  permissions := Json.sameText_symm h.permissions
  pages k := optionRel_flip (h.pages k) fun _ _ same => Json.sameText_symm same
  histories k := optionRel_flip (h.histories k) fun _ _ same => (same.imp fun _ _ same => Json.sameText_symm same).flip
  domainId := h.domainId.symm
  schemaVersion := h.schemaVersion.symm

omit h in
theorem View.ids_sorted {s : ConfluenceStore} {actor : ActorIdentity} {query : Option String} {ps : List Page}
    (view : View s actor query ps) : (ps.map Page.id).Pairwise (· < ·) :=
  List.pairwise_map.mpr view.sorted

omit h [PyText] in
theorem eq_of_sorted {xs ys : List String} (left : xs.Pairwise (· < ·)) (right : ys.Pairwise (· < ·))
    (same : ∀ x, x ∈ xs ↔ x ∈ ys) : xs = ys := by
  have distinct : ∀ {zs : List String}, zs.Pairwise (· < ·) → zs.Nodup := by
    intro zs sorted
    refine sorted.imp ?_
    rintro z _ lt rfl
    exact String.lt_irrefl _ lt
  refine List.Perm.eq_of_pairwise ?_ left right ((List.perm_ext_iff_of_nodup (distinct left) (distinct right)).mpr same)
  intro x y _ _ lt gt
  exact absurd (String.lt_trans lt gt) (String.lt_irrefl _)

theorem views_same {actor : ActorIdentity} {query : Option String} {ps qs : List Page} (valid : a.Valid ∧ b.Valid)
    (left : View a actor query ps) (right : View b actor query qs) : List.Forall₂ SamePage ps qs := by
  have ids : ps.map Page.id = qs.map Page.id := by
    refine eq_of_sorted (View.ids_sorted left) (View.ids_sorted right) fun id => ⟨fun member => ?_, fun member => ?_⟩
    · obtain ⟨p, listed, rfl⟩ := List.mem_map.mp member
      obtain ⟨q, listed', same⟩ := h.shown valid left right listed
      exact same.id ▸ List.mem_map_of_mem listed'
    · obtain ⟨q, listed, rfl⟩ := List.mem_map.mp member
      obtain ⟨p, listed', same⟩ := h.symm.shown valid.symm right left listed
      exact same.id ▸ List.mem_map_of_mem listed'
  have pairs : List.Forall₂ (fun p q : Page => p.id = q.id) ps qs := by
    rw [← List.forall₂_eq_eq_eq, List.forall₂_map_left_iff, List.forall₂_map_right_iff] at ids
    exact ids
  have listed := Json.forall₂_imp_mem pairs.flip (S := fun q p => p.id = q.id ∧ q ∈ qs)
    fun q member p same => ⟨same, member⟩
  refine Json.forall₂_imp_mem listed.flip fun p member q both => ?_
  obtain ⟨q', listed', same⟩ := h.shown valid left right member
  have right' := ((right.mem q').mp listed').1
  rw [← same.id, both.1, ((right.mem q).mp both.2).1] at right'
  rw [Page.modelDump_injective (Option.some.inj right')]
  exact same

/-! ### Reading -/

theorem resolves_same (valid : a.Valid ∧ b.Valid) {actor : ActorIdentity} (resolves : Resolves a actor) :
    Resolves b actor := by
  intro k d found
  obtain ⟨-, absent⟩ | ⟨p, q, left, right, same⟩ := h.page valid (k := k)
  · rw [absent] at found
    cases found
  · rw [right] at found
    obtain rfl := Option.some.inj found
    obtain ⟨reads, permitted⟩ := resolves k _ left
    exact ⟨reads, (h.canAccessPage_same same actor .read).symm.trans permitted⟩

theorem browse_same (valid : a.Valid ∧ b.Valid) (keyed : a.Keyed) (actor : ActorIdentity) (query : Option String)
    (limit offset : Int) : SameAnswer (browse a actor query limit offset) (browse b actor query limit offset) := by
  unfold browse
  split
  · by_cases resolves : Resolves a actor
    · obtain ⟨ps, view, shown⟩ := exists_view valid.1 keyed resolves query
      obtain ⟨qs, view', shown'⟩ := exists_view valid.2 (h.keyed keyed) (h.resolves_same valid resolves) query
      have same := h.views_same valid view view'
      rw [shown, shown']
      unfold paginated
      dsimp only
      rw [same.length_eq]
      exact .pageList (List.forall₂_take _ (List.forall₂_drop _ same)) _ _ _
    · have raises : ¬ Resolves b actor := fun other => resolves (h.symm.resolves_same valid.symm other)
      rw [visiblePages_raised valid.1 keyed resolves, visiblePages_raised valid.2 (h.keyed keyed) raises]
      exact .failure rfl
  · exact .failure rfl

theorem readable_same (valid : a.Valid ∧ b.Valid) (actor : ActorIdentity) (pageId : String)
    {answer answer' : PageData → Response}
    (answers : ∀ p q, SamePage p q → SameAnswer (answer p.modelDump) (answer' q.modelDump)) :
    SameAnswer (readable a actor pageId answer) (readable b actor pageId answer') := by
  unfold readable
  obtain ⟨left, right⟩ | ⟨p, q, left, right, same⟩ := h.page valid (k := pageId)
  · rw [left, right]
    exact .failure rfl
  · rw [left, right]
    have allowed : canReadPage a p.modelDump actor = canReadPage b q.modelDump actor :=
      h.canAccessPage_same same actor .read
    dsimp only
    rw [allowed]
    split
    · exact .failure rfl
    · exact answers p q same
    · exact .failure rfl

theorem getPage_same (valid : a.Valid ∧ b.Valid) (actor : ActorIdentity) (pageId : String) :
    SameAnswer (getPage a actor pageId) (getPage b actor pageId) := by
  refine h.readable_same valid actor pageId fun p q same => ?_
  rw [p.pageResponse_modelDump, q.pageResponse_modelDump]
  exact .page 200 same

theorem getPageVersions_same (valid : a.Valid ∧ b.Valid) (actor : ActorIdentity) (pageId : String) :
    SameAnswer (getPageVersions a actor pageId) (getPageVersions b actor pageId) := by
  refine h.readable_same valid actor pageId fun _ _ _ => ?_
  obtain ⟨ps, qs, left, right, same⟩ := h.versions valid pageId
  have loads : ∀ ps : List Page, (ps.map Page.modelDump).mapM pageResponse = .ok ps := by
    intro ps
    rw [List.mapM_map]
    simpa using mapM_total (f := pageResponse ∘ Page.modelDump) (g := id) fun p _ => p.pageResponse_modelDump
  rw [left, right, loads, loads]
  exact .versions same

/-! ### Writing -/

omit [PyText] in
theorem updated {p q : Page} (valid : a.Valid ∧ b.Valid) (same : SamePage p q) : Alike (a.updated p) (b.updated q) where
  users := h.users
  spaces := h.spaces
  permissions := h.permissions
  pages k := by
    rw [ConfluenceStore.updated_pages, ConfluenceStore.updated_pages, same.id]
    split
    · exact .some (sameData_modelDump.mpr same)
    · exact h.pages k
  histories k := by
    show Option.Rel _ ((a.pageVersions.set _ _).get? k) ((b.pageVersions.set _ _).get? k)
    rw [Dict.get?_set, Dict.get?_set, same.id]
    split
    · obtain ⟨ps, qs, left, right, versions⟩ := h.versions valid q.id
      rw [left, right]
      refine .some (List.rel_append ?_ (.cons (sameData_modelDump.mpr same) .nil))
      exact List.forall₂_map_left_iff.mpr (List.forall₂_map_right_iff.mpr
        (versions.imp fun _ _ same => sameData_modelDump.mpr same))
    · exact h.histories k
  domainId := h.domainId
  schemaVersion := h.schemaVersion

omit [PyText] in
theorem created {p q : Page} (same : SamePage p q) : Alike (a.created p) (b.created q) where
  users := h.users
  spaces := h.spaces
  permissions := h.permissions
  pages k := by
    rw [ConfluenceStore.created_pages, ConfluenceStore.created_pages, same.id]
    split
    · exact .some (sameData_modelDump.mpr same)
    · exact h.pages k
  histories k := by
    show Option.Rel _ ((a.pageVersions.set _ _).get? k) ((b.pageVersions.set _ _).get? k)
    rw [Dict.get?_set, Dict.get?_set, same.id]
    split
    · exact .some (.cons (sameData_modelDump.mpr same) .nil)
    · exact h.histories k
  domainId := h.domainId
  schemaVersion := h.schemaVersion

omit h [PyText] in
theorem truthy_same {v w : Json} (same : v.sameText w = true) : v.truthy = w.truthy := by
  cases v with
  | arr xs =>
    obtain ⟨ys, rfl, items⟩ := exists_arr_of_sameText same
    cases items <;> rfl
  | obj kvs =>
    obtain ⟨kvs', rfl, fields⟩ := exists_obj_of_sameText same
    have keys := any_keys_eq fields fun _ => true
    cases kvs <;> cases kvs' <;> first | rfl | simp at keys
  | _ => rw [Json.eq_of_sameText rfl same]

omit h [PyText] in
/-- A name is in collections of the same text alike. -/
theorem unknownSpace_same {v w : Json} (same : v.sameText w = true) (spaceId : String) :
    unknownSpace v spaceId = unknownSpace w spaceId := by
  have listed : listsSpace v spaceId = listsSpace w spaceId := by
    cases v with
    | arr xs =>
      obtain ⟨ys, rfl, items⟩ := exists_arr_of_sameText same
      refine congrArg Except.ok (any_of_forall₂ (fun x y equal => ?_) items)
      obtain rfl | ⟨composite, composite'⟩ := World.eq_or_composite equal
      · rfl
      · cases x <;> cases y <;> first | rfl | simp [Json.isLeaf] at composite composite'
    | obj kvs =>
      obtain ⟨kvs', rfl, fields⟩ := exists_obj_of_sameText same
      exact congrArg Except.ok (fields spaceId).isSome_eq
    | _ => rw [Json.eq_of_sameText rfl same]
  rw [unknownSpace, unknownSpace, truthy_same same, listed]

omit [PyText] in
theorem refused {r : Response} (failed : r.isFailure = true) : SameStep (r, a) (r, b) := ⟨.failure failed, h⟩

theorem createPage_same (valid : a.Valid ∧ b.Valid) (plain : Unambiguous a) (actor : ActorIdentity)
    (payload : PageCreateRequest) : SameStep (createPage a actor payload) (createPage b actor payload) := by
  unfold createPage
  rw [unknownSpace_same h.spaces, h.canCreatePage_same plain]
  split
  · exact h.refused rfl
  · exact h.refused rfl
  · split
    · exact h.refused rfl
    · exact h.refused rfl
    · obtain ⟨left, right⟩ | ⟨p, q, left, right, -⟩ := h.page valid (k := payload.id)
      · have absent : a.pages.contains payload.id = false ∧ b.pages.contains payload.id = false := by
          simp [Dict.contains, left, right]
        simp only [absent.1, absent.2, Bool.false_eq_true, if_false]
        rw [ConfluenceStore.addPage_ok (payload.page actor).pageModel_modelDump left,
          ConfluenceStore.addPage_ok (payload.page actor).pageModel_modelDump right]
        exact ⟨.page 201 (.refl _), h.created (.refl _)⟩
      · have present : a.pages.contains payload.id = true ∧ b.pages.contains payload.id = true := by
          simp [Dict.contains, left, right]
        simp only [present.1, present.2, if_true]
        exact h.refused rfl

theorem updatePage_same (valid : a.Valid ∧ b.Valid) (keyed : a.Keyed) (actor : ActorIdentity) (pageId : String)
    (payload : PageUpdateRequest) (ifVersion : Option String) :
    SameStep (updatePage a actor pageId payload ifVersion) (updatePage b actor pageId payload ifVersion) := by
  unfold updatePage
  obtain ⟨left, right⟩ | ⟨p, q, left, right, same⟩ := h.page valid (k := pageId)
  · rw [left, right]
    exact h.refused rfl
  · obtain rfl := ConfluenceStore.keyed_page keyed left
    rw [left, right]
    have allowed : canWritePage a p.modelDump actor = canWritePage b q.modelDump actor :=
      h.canAccessPage_same same actor .write
    have forbidden : forbiddenUpdate a p.modelDump actor = forbiddenUpdate b q.modelDump actor := by
      unfold forbiddenUpdate
      rw [show canReadPage a p.modelDump actor = canReadPage b q.modelDump actor from
        h.canAccessPage_same same actor .read]
    dsimp only
    rw [allowed, forbidden]
    split
    · exact h.refused rfl
    · refine h.refused ?_
      unfold forbiddenUpdate
      split <;> rfl
    · split
      · rename_i r unparsed
        exact h.refused (parseIfVersion_error unparsed)
      · rw [currentVersion_page, currentVersion_page, same.version]
        dsimp only
        split
        · exact h.refused rfl
        · rename_i current
          have found : b.pages.get? q.id = some q.modelDump := same.id ▸ right
          have writes := ConfluenceStore.updatePage_payload payload left
          have writes' := ConfluenceStore.updatePage_payload payload found
          rw [same.version] at writes
          rw [← same.id] at writes'
          rw [writes, writes']
          exact ⟨.page 200 (same.changed _ _), h.updated valid (same.changed _ _)⟩

theorem humanEdit_same (valid : a.Valid ∧ b.Valid) (keyed : a.Keyed) (edit : HumanEditRequest) :
    SameStep (humanEdit a edit) (humanEdit b edit) := by
  unfold humanEdit
  obtain ⟨left, right⟩ | ⟨p, q, left, right, same⟩ := h.page valid (k := edit.pageId)
  · rw [left, right]
    exact h.refused rfl
  · have target := ConfluenceStore.keyed_page keyed left
    rw [left, right]
    rw [← target] at left right ⊢
    have found : b.pages.get? q.id = some q.modelDump := same.id ▸ right
    have writes := ConfluenceStore.updatePage_body edit.body left
    have writes' := ConfluenceStore.updatePage_body edit.body found
    rw [← same.id] at writes'
    simp only [currentVersion_page, writes, writes']
    exact ⟨.edited (same.changed _ _), h.updated valid (same.changed _ _)⟩

/-! ### Runs -/

theorem handle_same (valid : a.Valid ∧ b.Valid) (keyed : a.Keyed) (plain : Unambiguous a) (e : Event) :
    SameStep (handle a e) (handle b e) := by
  cases e with
  | humanEdit edit => exact h.humanEdit_same valid keyed edit
  | request header apiCall =>
    simp only [handle, request]
    split
    · exact h.refused rfl
    · rw [← h.resolveActor_same plain]
      split
      · rename_i r unresolved
        exact h.refused (resolveActor_error unresolved)
      · rename_i actor resolved
        cases apiCall with
        | listPages limit offset => exact ⟨h.browse_same valid keyed actor none limit offset, h⟩
        | searchPages q body limit offset => exact ⟨h.browse_same valid keyed actor _ limit offset, h⟩
        | getPage pageId => exact ⟨h.getPage_same valid actor pageId, h⟩
        | getPageVersions pageId => exact ⟨h.getPageVersions_same valid actor pageId, h⟩
        | createPage payload => exact h.createPage_same valid plain actor payload
        | updatePage pageId payload ifVersion => exact h.updatePage_same valid keyed actor pageId payload ifVersion
        | malformed parsed => exact h.refused rfl

omit h in
theorem handle_unambiguous {s : ConfluenceStore} (valid : s.Valid) (keyed : s.Keyed) (plain : Unambiguous s)
    (e : Event) :
    Unambiguous (handle s e).2 := by
  have effect := handle_effect valid keyed e
  revert effect
  generalize (handle s e).1 = r
  generalize (handle s e).2 = s'
  intro effect
  cases effect with
  | idle => exact plain
  | created => exact ⟨plain.names, plain.owners⟩
  | updated => exact ⟨plain.names, plain.owners⟩
  | edited => exact ⟨plain.names, plain.owners⟩

/-- No run of calls tells the stores apart. -/
theorem runs_same (valid : a.Valid ∧ b.Valid) (keyed : a.Keyed) (plain : Unambiguous a) (es : List Event) :
    List.Forall₂ SameAnswer (Machine.responses handle a es) (Machine.responses handle b es) ∧
      Alike (Machine.final handle a es) (Machine.final handle b es) := by
  let Together (x y : ConfluenceStore) : Prop := Alike x y ∧ (x.Valid ∧ y.Valid) ∧ x.Keyed ∧ Unambiguous x
  have keep : ∀ x y e, Together x y →
      SameAnswer (handle x e).1 (handle y e).1 ∧ Together (handle x e).2 (handle y e).2 := by
    rintro x y e ⟨h, valid, keyed, plain⟩
    obtain ⟨answer, stores⟩ := h.handle_same valid keyed plain e
    have left := handle_valid valid.1 keyed e
    have right := handle_valid valid.2 (h.keyed keyed) e
    exact ⟨answer, stores, ⟨left.1, right.1⟩, left.2, handle_unambiguous valid.1 keyed plain e⟩
  obtain ⟨answers, last, -⟩ := Machine.related keep ⟨h, valid, keyed, plain⟩ es
  exact ⟨answers, last⟩

end Alike

/-! ### Restoring -/

theorem SameOption.of_map {α : Type} {g : α → Json} {x : Option α} {y : Option Json} (same : SameOption (x.map g) y) :
    Option.Rel (fun a v => (g a).sameText v = true) x y := by
  cases x with
  | none => cases y with
    | none => exact .none
    | some v => cases same
  | some a => cases y with
    | none => cases same
    | some v => cases same with
      | some same => exact .some same

/-- The fields of an object with the text of a dictionary. -/
theorem rel_of_sameText {α : Type} {g : α → Json} {d : Dict String α} {kvs : List (String × Json)}
    (fields : ∀ k, SameOption ((d.mapValues g).entries.lookup k) (kvs.lookup k)) (k : String) :
    Option.Rel (fun a v => (g a).sameText v = true) (d.get? k) ((Dict.ofEntries kvs).get? k) := by
  have field : SameOption ((d.mapValues g).get? k) (kvs.lookup k) := fields k
  rw [Dict.get?_mapValues] at field
  rw [Dict.get?_ofEntries]
  exact field.of_map

theorem pageModel_same [LaxInt] {p : Page} {w : Json} (same : (Json.ofDict p.modelDump).sameText w = true) :
    ∃ q, pageModel w = .ok q ∧ SamePage p q := by
  obtain ⟨kvs, rfl, fields⟩ := exists_obj_of_sameText same
  have scalar : ∀ {k v}, p.modelDump.get? k = some v → v.isLeaf = true → (Json.obj kvs).get? k = some v := by
    intro k v found leaf
    have field : SameOption (p.modelDump.get? k) ((Json.obj kvs).get? k) := fields k
    rw [found] at field
    exact (field.eq_of_leaf fun w member => Option.mem_some.mp member ▸ leaf).symm
  have text : ∀ {k s}, p.modelDump.get? k = some (.str s) → strField (.obj kvs) k = .ok s := by
    intro k s found
    simp [strField, scalar found rfl]
  have version : intField (.obj kvs) "version" (some 1) = .ok p.version := by
    simp [intField, scalar p.get?_version rfl]
  simp only [pageModel, modelValidate, text p.get?_id, text p.get?_space_id, text p.get?_title, text p.get?_body,
    text p.get?_owner_id, version, bind, Except.bind, pure, Except.pure]
  refine ⟨_, rfl, rfl, rfl, rfl, rfl, rfl, rfl, fun k => ?_⟩
  rw [Dict.get?_filterKeys]
  by_cases declared : k ∈ pageFields
  · rw [p.extras_get? declared, if_neg (by simpa using declared)]
    exact .none
  · rw [if_pos (by simpa using declared), Dict.get?_ofEntries]
    have field : SameOption (p.modelDump.get? k) (kvs.lookup k) := fields k
    rw [p.modelDump_get?, p.fieldEntries_lookup declared] at field
    exact field

/-- The dump of a page, the same but for key order. -/
def DumpOf (d e : PageData) : Prop := SameData d e ∧ ∃ q : Page, e = q.modelDump

theorem pageData_same [LaxInt] {p : Page} {w : Json} (same : (Json.ofDict p.modelDump).sameText w = true) :
    ∃ e, pageData w = .ok e ∧ DumpOf p.modelDump e := by
  obtain ⟨q, model, pages⟩ := pageModel_same same
  refine ⟨q.modelDump, ?_, sameData_modelDump.mpr pages, q, rfl⟩
  rw [pageData, model]
  rfl

theorem loadHistory_same [LaxInt] {ds : List PageData} (dumps : ∀ d ∈ ds, ∃ p : Page, d = p.modelDump) {w : Json}
    (same : Json.sameText (.arr (ds.map Json.ofDict)) w = true) :
    ∃ es, loadHistory w = .ok es ∧ List.Forall₂ DumpOf ds es := by
  obtain ⟨vs, rfl, items⟩ := exists_arr_of_sameText same
  rw [List.forall₂_map_left_iff] at items
  refine mapM_of_forall₂ items fun d member v text => ?_
  obtain ⟨p, rfl⟩ := dumps d member
  exact pageData_same text

theorem loadPages_same [LaxInt] {pages : Dict String PageData}
    (dumps : ∀ k d, pages.get? k = some d → ∃ p : Page, d = p.modelDump)
    {w : Json} (same : (Json.ofDict (pages.mapValues Json.ofDict)).sameText w = true) :
    ∃ pages', loadPages w = .ok pages' ∧ ∀ k, Option.Rel DumpOf (pages.get? k) (pages'.get? k) := by
  obtain ⟨kvs, rfl, fields⟩ := exists_obj_of_sameText same
  refine Dict.mapValuesM_related (rel_of_sameText fields) fun k d v found text => ?_
  obtain ⟨p, rfl⟩ := dumps k d found
  exact pageData_same text

theorem loadHistories_same [LaxInt] {histories : Dict String (List PageData)}
    (dumps : ∀ k ds, histories.get? k = some ds → ∀ d ∈ ds, ∃ p : Page, d = p.modelDump) {w : Json}
    (same : (Json.ofDict (histories.mapValues fun ds => Json.arr (ds.map Json.ofDict))).sameText w = true) :
    ∃ histories', loadHistories w = .ok histories' ∧
      ∀ k, Option.Rel (List.Forall₂ DumpOf) (histories.get? k) (histories'.get? k) := by
  obtain ⟨kvs, rfl, fields⟩ := exists_obj_of_sameText same
  exact Dict.mapValuesM_related (rel_of_sameText fields) fun k ds v found text =>
    loadHistory_same (dumps k ds found) text

theorem sameText_of_entries {kvs kvs' : List (String × Json)}
    (same : List.Forall₂ (fun e f => e.1 = f.1 ∧ e.2.sameText f.2 = true) kvs kvs') :
    (Json.obj kvs).sameText (.obj kvs') = true := by
  refine Json.eqBy_obj.mpr fun k => sameOption_iff.mp ?_
  induction same with
  | nil => exact .none
  | @cons e f rest rest' head _ ih =>
    obtain ⟨name, v⟩ := e
    obtain ⟨name', w⟩ := f
    obtain ⟨rfl, text⟩ := head
    rw [Entries.lookup_cons, Entries.lookup_cons]
    split
    · exact .some text
    · exact ih

theorem sameText_mapValues {α : Type} {g : α → Json} {d e : Dict String α}
    (same : ∀ k, Option.Rel (fun x y => (g x).sameText (g y) = true) (d.get? k) (e.get? k)) :
    (Json.ofDict (d.mapValues g)).sameText (.ofDict (e.mapValues g)) = true := by
  refine SameData.of_get? fun k => ?_
  rw [Dict.get?_mapValues, Dict.get?_mapValues]
  exact optionRel_imp (same k) fun _ _ text => text

/-- The resources of stores that are alike. -/
theorem Alike.resources {a b : ConfluenceStore} (h : Alike a b) : SameData a.resources b.resources := by
  have pages : a.pagesJson.sameText b.pagesJson = true := sameText_mapValues h.pages
  have histories : a.historiesJson.sameText b.historiesJson = true := by
    refine sameText_mapValues fun k => optionRel_mono (h.histories k) fun ds es same => ?_
    exact Json.eqBy_arr.mpr (List.forall₂_map_left_iff.mpr (List.forall₂_map_right_iff.mpr same))
  exact sameText_of_entries (.cons ⟨rfl, h.users⟩ (.cons ⟨rfl, h.spaces⟩ (.cons ⟨rfl, pages⟩ (.cons ⟨rfl, histories⟩
    (.cons ⟨rfl, h.permissions⟩ .nil)))))

/-- What has the text of a store's resources is restored as that store, but for key order. -/
theorem restore_same [LaxInt] {s : ConfluenceStore} (valid : s.Valid) {snap : WorldSnapshot}
    (domain : snap.domainId = s.domainId) (schema : snap.schemaVersion = s.schemaVersion)
    (same : SameData s.resources snap.resources) :
    ∃ s', (∀ w : ConfluenceStore, w.restore snap = (.ok (), s')) ∧ s'.Valid ∧ Alike s s' := by
  have kind : ∀ {k v}, s.resources.get? k = some v → v.sameText (resourceKind snap.resources k) = true := by
    intro k v found
    obtain ⟨w, stored, text⟩ := (same.get? k).exists_of_eq_some found
    rw [resourceKind, stored]
    exact text
  obtain ⟨pages, pagesRead, pagesSame⟩ := loadPages_same (fun _ _ => valid.pages) (kind (k := "pages") rfl)
  have dumps : ∀ k ds, s.pageVersions.get? k = some ds → ∀ d ∈ ds, ∃ p : Page, d = p.modelDump := by
    intro k ds found d member
    exact valid.histories (k := k) (by simpa [ConfluenceStore.getPageVersions, found] using member)
  obtain ⟨histories, historiesRead, historiesSame⟩ := loadHistories_same dumps (kind (k := "page_versions") rfl)
  refine ⟨_, fun w => ConfluenceStore.restore_ok pagesRead historiesRead w, ⟨?_, ?_⟩, ?_⟩
  · intro k e found
    obtain ⟨d, -, dump⟩ := exists_of_optionRel (pagesSame k) found
    exact dump.2
  · intro k e member
    unfold ConfluenceStore.getPageVersions at member
    dsimp only at member
    cases found : histories.get? k with
    | none =>
      rw [found] at member
      cases member
    | some es =>
      rw [found] at member
      obtain ⟨ds, -, dumps⟩ := exists_of_optionRel (historiesSame k) found
      obtain ⟨d, -, dump⟩ := exists_of_forall₂ dumps.flip member
      exact dump.2
  · exact {
      users := kind (k := "users") rfl
      spaces := kind (k := "spaces") rfl
      permissions := kind (k := "permissions") rfl
      pages := fun k => optionRel_mono (pagesSame k) fun _ _ dump => dump.1
      histories := fun k => optionRel_mono (historiesSame k) fun _ _ dumps => dumps.imp fun _ _ dump => dump.1
      domainId := domain.symm
      schemaVersion := schema.symm }

end AgentGym.World
