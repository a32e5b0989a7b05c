import AgentGym.World.Confidential

/-!
# Listing and searching

What `list_pages` and `search_pages` answer: a window of the readable matching pages in the
order of their ids. Windows that follow each other cover the pages once, and the order in
which pages or permissions were inserted leaves no trace.
-/

namespace AgentGym.World

/-! ### Windows -/

section Windows

variable {α : Type}

/-- `xs[offset : offset + limit]`. -/
def window (xs : List α) (offset limit : Nat) : List α := (xs.drop offset).take limit

theorem length_window_le (xs : List α) (offset limit : Nat) : (window xs offset limit).length ≤ limit :=
  List.length_take_le _ _

theorem windows_take (xs : List α) (limit n : Nat) :
    ((List.range n).flatMap fun i => window xs (i * limit) limit) = xs.take (n * limit) := by
  induction n with
  | zero => simp
  | succ n ih =>
    rw [List.range_succ, List.flatMap_append, ih, Nat.succ_mul, List.take_add]
    simp [window]

theorem windows_all {xs : List α} {limit n : Nat} (reached : xs.length ≤ n * limit) :
    ((List.range n).flatMap fun i => window xs (i * limit) limit) = xs := by
  rw [windows_take, List.take_of_length_le reached]

end Windows

/-! ### Permissions in another order -/

theorem forall₂_filterMap {α β γ : Type} {R : β → γ → Prop} {f : α → Option β} {g : α → Option γ} {xs : List α}
    (related : ∀ x ∈ xs, Option.Rel R (f x) (g x)) : List.Forall₂ R (xs.filterMap f) (xs.filterMap g) := by
  induction xs with
  | nil => exact .nil
  | cons x xs ih =>
    have rest := ih fun y member => related y (List.mem_cons_of_mem _ member)
    have head := related x List.mem_cons_self
    rw [List.filterMap_cons, List.filterMap_cons]
    revert head
    cases f x <;> cases g x <;> intro head <;> cases head
    · exact rest
    · rename_i same
      exact .cons same rest

theorem any_of_forall₂ {α β : Type} {R : α → β → Prop} {p : α → Bool} {q : β → Bool}
    (same : ∀ a b, R a b → p a = q b) {xs : List α} {ys : List β} (related : List.Forall₂ R xs ys) :
    xs.any p = ys.any q := by
  induction related with
  | nil => rfl
  | cons head _ ih => rw [List.any_cons, List.any_cons, same _ _ head, ih]

def SameOption : Option Json → Option Json → Prop := Option.Rel fun v w => v.sameText w = true

theorem sameOption_iff {a b : Option Json} : SameOption a b ↔ Json.optEqBy Json.textScalarEq a b = true := by
  cases a <;> cases b
  · exact iff_of_true .none rfl
  · exact iff_of_false (fun h => by cases h) (by simp [Json.optEqBy])
  · exact iff_of_false (fun h => by cases h) (by simp [Json.optEqBy])
  · exact ⟨fun h => by cases h; assumption, fun h => .some h⟩

theorem SameOption.get? {a b : Json} (same : a.sameText b = true) (k : String) : SameOption (a.get? k) (b.get? k) :=
  sameOption_iff.mpr (Json.optEqBy_get? Json.textScalarEq_laws same k)

theorem SameOption.bind {a b : Option Json} (same : SameOption a b) (k : String) :
    SameOption (a.bind (·.get? k)) (b.bind (·.get? k)) := by
  cases same with
  | none => exact .none
  | some same => exact .get? same k

theorem eq_or_composite {v w : Json} (same : v.sameText w = true) :
    v = w ∨ v.isLeaf = false ∧ w.isLeaf = false := by
  by_cases leaf : v.isLeaf = true
  · exact Or.inl (Json.eq_of_sameText leaf same)
  · rw [Bool.not_eq_true] at leaf
    exact Or.inr ⟨leaf, Json.isLeaf_of_eqBy Json.textScalarEq_laws same ▸ leaf⟩

theorem SameOption.isTrue_eq {a b : Option Json} (same : SameOption a b) : isTrue a = isTrue b := by
  cases same with
  | none => rfl
  | @some v w same =>
    obtain rfl | ⟨composite, composite'⟩ := eq_or_composite same
    · rfl
    · cases v <;> cases w <;> first | rfl | simp [Json.isLeaf] at composite composite'

theorem SameOption.keyGrants_eq {kvs kvs' : List (String × Json)} {grants : Json → Bool} {key : String}
    (same : SameOption (kvs.lookup key) (kvs'.lookup key))
    (invariant : ∀ v w, kvs.lookup key = some v → v.sameText w = true → grants v = grants w) :
    keyGrants kvs grants key = keyGrants kvs' grants key := by
  unfold keyGrants
  cases found : kvs.lookup key with
  | none =>
    rw [found] at same
    cases found' : kvs'.lookup key with
    | none => rfl
    | some w => rw [found'] at same; cases same
  | some v =>
    rw [found] at same
    cases found' : kvs'.lookup key with
    | none => rw [found'] at same; cases same
    | some w =>
      rw [found'] at same
      cases same with
      | some same => exact invariant v w found same

theorem any_keys_eq {kvs kvs' : List (String × Json)} (same : ∀ k, SameOption (kvs.lookup k) (kvs'.lookup k))
    (p : String → Bool) : (kvs.any fun e => p e.1) = kvs'.any fun e => p e.1 := by
  have half : ∀ {a b : List (String × Json)}, (∀ k, SameOption (a.lookup k) (b.lookup k)) →
      (a.any fun e => p e.1) = true → (b.any fun e => p e.1) = true := by
    intro a b same holds
    obtain ⟨e, member, named⟩ := List.any_eq_true.mp holds
    have present := Entries.lookup_isSome_iff_mem.mpr (List.mem_map_of_mem (f := Prod.fst) member)
    have related := same e.1
    obtain ⟨v, found⟩ := Option.isSome_iff_exists.mp present
    rw [found] at related
    cases found' : b.lookup e.1 with
    | none => rw [found'] at related; cases related
    | some w => exact List.any_eq_true.mpr ⟨(e.1, w), Entries.mem_of_lookup found', named⟩
  have back : ∀ k, SameOption (kvs'.lookup k) (kvs.lookup k) := fun k =>
    sameOption_iff.mpr (Json.optEqBy_symm Json.textScalarEq_laws (sameOption_iff.mp (same k)))
  exact Bool.eq_iff_iff.mpr ⟨half same, half back⟩

theorem exists_arr_of_sameText {xs : List Json} {w : Json} (same : Json.sameText (.arr xs) w = true) :
    ∃ ys, w = .arr ys ∧ List.Forall₂ (fun x y => Json.sameText x y = true) xs ys := by
  have shapes := Json.isLeaf_of_eqBy Json.textScalarEq_laws same
  have objects := Json.isObj_of_sameText same
  cases w with
  | arr ys => exact ⟨ys, rfl, Json.eqBy_arr.mp same⟩
  | _ => simp [Json.isLeaf, Json.isObj] at shapes objects

theorem exists_obj_of_sameText {kvs : List (String × Json)} {w : Json} (same : Json.sameText (.obj kvs) w = true) :
    ∃ kvs', w = .obj kvs' ∧ ∀ k, SameOption (kvs.lookup k) (kvs'.lookup k) := by
  have objects := Json.isObj_of_sameText same
  cases w with
  | obj kvs' => exact ⟨kvs', rfl, fun k => sameOption_iff.mpr (Json.eqBy_obj.mp same k)⟩
  | _ => simp [Json.isObj] at objects

theorem actorInAny_eq (aliases : List String) (xs : List Json) : actorInAny aliases xs = xs.any (actorInValue aliases) := by
  induction xs with
  | nil => rfl
  | cons x xs ih => rw [actorInAny, List.any_cons, ih]

theorem actorInValue_same (aliases : List String) {v w : Json} (same : v.sameText w = true) :
    actorInValue aliases v = actorInValue aliases w := by
  induction v using Json.ind generalizing w with
  | leaf v leaf => rw [Json.eq_of_sameText leaf same]
  | arr xs ih =>
    obtain ⟨ys, rfl, related⟩ := exists_arr_of_sameText same
    have equal := Json.forall₂_imp_mem related (S := fun x y => actorInValue aliases x = actorInValue aliases y)
      fun x member y both => ih x member both
    simp only [actorInValue, actorInAny_eq]
    exact any_of_forall₂ (fun _ _ h => h) equal
  | obj kvs _ =>
    obtain ⟨kvs', rfl, fields⟩ := exists_obj_of_sameText same
    exact any_keys_eq fields fun name => name == "*" || aliases.contains name

section Resolver

variable [PyText]

theorem scopedValueGrants_same (operation : Operation) {v w : Json} (same : v.sameText w = true) :
    scopedValueGrants operation v = scopedValueGrants operation w := by
  by_cases leaf : v.isLeaf = true
  · rw [Json.eq_of_sameText leaf same]
  cases v with
  | arr xs =>
    obtain ⟨ys, rfl, related⟩ := exists_arr_of_sameText same
    refine any_of_forall₂ (fun x y equal => ?_) related
    obtain rfl | ⟨composite, composite'⟩ := eq_or_composite equal
    · rfl
    · cases x <;> cases y <;> first | rfl | simp [Json.isLeaf] at composite composite'
  | obj kvs =>
    obtain ⟨kvs', rfl, fields⟩ := exists_obj_of_sameText same
    simp only [scopedValueGrants, fun key => (fields key).isTrue_eq]
    congr 1
    have role := fields "role"
    revert role
    generalize kvs.lookup "role" = a
    generalize kvs'.lookup "role" = b
    intro role
    cases role with
    | none => rfl
    | @some x y equal =>
      obtain rfl | ⟨composite, composite'⟩ := eq_or_composite equal
      · rfl
      · cases x <;> cases y <;> first | rfl | simp [Json.isLeaf] at composite composite'
  | _ => simp [Json.isLeaf] at leaf

theorem entryGrants_same (aliases : List String) (operation : Operation) {v w : Json} (same : v.sameText w = true) :
    entryGrants aliases operation v = entryGrants aliases operation w := by
  induction v using Json.ind generalizing w with
  | leaf v leaf => rw [Json.eq_of_sameText leaf same]
  | arr xs _ =>
    obtain ⟨ys, rfl, related⟩ := exists_arr_of_sameText same
    exact actorInValue_same aliases (v := .arr xs) same
  | obj kvs ih =>
    obtain ⟨kvs', rfl, fields⟩ := exists_obj_of_sameText same
    have nested : ∀ key, nestedGrants aliases operation key kvs = nestedGrants aliases operation key kvs' := by
      intro key
      rw [nestedGrants_eq, nestedGrants_eq]
      exact (fields key).keyGrants_eq fun v w found => ih (key, v) (Entries.mem_of_lookup found)
    have byScope : ∀ key, keyGrants kvs (scopedValueGrants operation) key =
        keyGrants kvs' (scopedValueGrants operation) key :=
      fun key => (fields key).keyGrants_eq fun v w _ => scopedValueGrants_same operation
    have byActor : ∀ key, keyGrants kvs (actorInValue aliases) key = keyGrants kvs' (actorInValue aliases) key :=
      fun key => (fields key).keyGrants_eq fun v w _ => actorInValue_same aliases
    simp only [entryGrants, funext byScope, funext byActor, nested, fun key => (fields key).isTrue_eq]

inductive SameEntry : PermissionEntry → PermissionEntry → Prop
  | plain {v w : Json} (same : v.sameText w = true) : SameEntry (.plain v) (.plain w)
  | actorScoped {v w : Json} (same : v.sameText w = true) : SameEntry (.actorScoped v) (.actorScoped w)

theorem SameEntry.grants_eq {e e' : PermissionEntry} (same : SameEntry e e') (aliases : List String)
    (operation : Operation) : permissionGrants aliases operation e = permissionGrants aliases operation e' := by
  cases same with
  | plain same => exact entryGrants_same aliases operation same
  | actorScoped same => exact scopedValueGrants_same operation same

omit [PyText] in
theorem SameEntry.refl (e : PermissionEntry) : SameEntry e e := by
  cases e with
  | plain v => exact .plain v.sameText_refl
  | actorScoped v => exact .actorScoped v.sameText_refl

omit [PyText] in
theorem forall₂_map {α β : Type} {R : α → α → Prop} {S : β → β → Prop} {f : α → β}
    (imp : ∀ x y, R x y → S (f x) (f y)) {xs ys : List α} (related : List.Forall₂ R xs ys) :
    List.Forall₂ S (xs.map f) (ys.map f) :=
  List.forall₂_map_left_iff.mpr (List.forall₂_map_right_iff.mpr (related.imp imp))

omit [PyText] in
theorem sectionEntries_same {v w : Json} (same : v.sameText w = true) (scope : Scope) (id : String) :
    List.Forall₂ (fun x y => Json.sameText x y = true) (sectionEntries v scope id) (sectionEntries w scope id) := by
  have own : List.Forall₂ (fun x y => Json.sameText x y = true) (v.get? id).toList (w.get? id).toList := by
    have fields := SameOption.get? same id
    revert fields
    generalize v.get? id = x
    generalize w.get? id = y
    intro fields
    cases fields with
    | none => exact .nil
    | some same => exact .cons same .nil
  exact List.rel_append (forall₂_filterMap fun name _ => (SameOption.get? same name).bind id) own

omit [PyText] in
theorem actorEntries_same {v w : Json} (same : v.sameText w = true) (scope : Scope) (id name : String) :
    List.Forall₂ SameEntry (actorEntries v scope id name) (actorEntries w scope id name) := by
  have stored := SameOption.get? same name
  unfold actorEntries
  revert stored
  generalize v.get? name = x
  generalize w.get? name = y
  intro stored
  cases stored with
  | none => exact .nil
  | some same => exact forall₂_map (fun _ _ same => SameEntry.actorScoped same) (sectionEntries_same same scope id)

omit [PyText] in
theorem resourceEntries_same {x y : Option Json} (same : SameOption x y) :
    List.Forall₂ SameEntry (resourceEntries x) (resourceEntries y) := by
  cases same with
  | none => exact .nil
  | some same =>
    exact forall₂_map (fun _ _ same => SameEntry.plain same) (forall₂_filterMap fun key _ => SameOption.get? same key)

omit [PyText] in
theorem collectEntries_same {v w : Json} (same : v.sameText w = true) {x y : Option Json} (resource : SameOption x y)
    (scope : Scope) (id : String) (actor : ActorIdentity) :
    List.Forall₂ SameEntry (collectEntries v x scope id actor) (collectEntries w y scope id actor) := by
  have sections := forall₂_map (fun _ _ same => SameEntry.plain same) (sectionEntries_same same scope id)
  have named : List.Forall₂ SameEntry (actor.aliases.flatMap (actorEntries v scope id))
      (actor.aliases.flatMap (actorEntries w scope id)) := by
    refine List.rel_flatMap (R := Eq) (List.forall₂_refl _) ?_
    rintro name _ rfl
    exact actorEntries_same same scope id name
  exact List.rel_append (List.rel_append sections named) (resourceEntries_same resource)

omit [PyText] in
theorem mappingEntries_same {v w : Json} (same : v.sameText w = true) :
    SameResult (fun kvs kvs' => Json.sameText (.obj kvs) (.obj kvs') = true) (mappingEntries v) (mappingEntries w) := by
  have objects := Json.isObj_of_sameText same
  cases v <;> cases w <;> first | exact .error _ | exact .ok same | cases objects

omit [PyText] in
theorem permissionEntries_of_same {a b : ConfluenceStore} (permissions : a.permissions.sameText b.permissions = true)
    {scope : Scope} {id : String} (resource : SameResult SameOption (resourceOf a scope id) (resourceOf b scope id))
    (actor : ActorIdentity) :
    SameResult (List.Forall₂ SameEntry) (permissionEntries a scope id actor) (permissionEntries b scope id actor) :=
  (mappingEntries_same permissions).bind fun _ _ sections => resource.bind fun _ _ stored =>
    .ok (collectEntries_same sections stored scope id actor)

theorem entriesGrant_same {es fs : List PermissionEntry} (same : List.Forall₂ SameEntry es fs) (actor : ActorIdentity)
    (operation : Operation) :
    entriesGrant es actor operation = entriesGrant fs actor operation ∧ es.isEmpty = fs.isEmpty := by
  refine ⟨any_of_forall₂ (fun _ _ same => same.grants_eq actor.aliases operation) same, ?_⟩
  cases same <;> rfl

/-- Two resolvers that agree on the overrides and find the same entries answer alike. -/
theorem canAccessPage_of_same {a b : ConfluenceStore} {d d' : PageData} {actor : ActorIdentity}
    (admin : isGlobalAdmin a actor = isGlobalAdmin b actor) (owner : isPageOwner d actor = isPageOwner d' actor)
    (page : SameResult (List.Forall₂ SameEntry) (permissionEntries a .page (textField d "id") actor)
      (permissionEntries b .page (textField d' "id") actor))
    (space : SameResult (List.Forall₂ SameEntry) (permissionEntries a .space (textField d "space_id") actor)
      (permissionEntries b .space (textField d' "space_id") actor)) (operation : Operation) :
    canAccessPage a d actor operation = canAccessPage b d' actor operation := by
  unfold canAccessPage
  rw [admin, owner]
  refine (SameResult.bind (.of_eq (R := Eq) (fun _ => rfl) rfl) ?_).eq
  rintro admin _ rfl
  split
  · exact .ok rfl
  · refine page.bind fun es fs pages => space.bind fun es' fs' spaces => .ok ?_
    simp only [accessGranted, entriesGrant_same pages actor operation, entriesGrant_same spaces actor operation]

/-- The same collections, but for the order in which pages and permissions were inserted. -/
structure Reordered (a b : ConfluenceStore) : Prop where
  users : a.users = b.users
  spaces : a.spaces = b.spaces
  permissions : a.permissions.sameText b.permissions = true
  pages : ∀ k, a.pages.get? k = b.pages.get? k
  histories : ∀ k, a.getPageVersions k = b.getPageVersions k

namespace Reordered

variable {a b : ConfluenceStore} (h : Reordered a b)
include h

theorem canReadPage_eq (page : PageData) (actor : ActorIdentity) :
    canReadPage a page actor = canReadPage b page actor := by
  have admin : isGlobalAdmin a actor = isGlobalAdmin b actor := by simp only [isGlobalAdmin, h.users]
  have entries : ∀ scope id, SameResult (List.Forall₂ SameEntry) (permissionEntries a scope id actor)
      (permissionEntries b scope id actor) := by
    intro scope id
    have resource : resourceOf a scope id = resourceOf b scope id := by
      cases scope <;> simp only [resourceOf, h.pages, h.spaces]
    refine permissionEntries_of_same h.permissions (.of_eq (fun o => ?_) resource) actor
    cases o with
    | none => exact .none
    | some v => exact .some v.sameText_refl
  exact canAccessPage_of_same admin rfl (entries _ _) (entries _ _) .read

omit [PyText] in
theorem valid (valid : a.Valid) : b.Valid where
  pages found := valid.pages ((h.pages _).trans found)
  histories member := valid.histories (by rw [h.histories]; exact member)

omit [PyText] in
theorem keyed (keyed : a.Keyed) : b.Keyed := fun found => keyed ((h.pages _).trans found)

theorem resolves_iff {actor : ActorIdentity} : Resolves a actor ↔ Resolves b actor := by
  simp only [Resolves, h.pages, h.canReadPage_eq]

end Reordered

/-! ### Listings -/

/-- `list_pages` (no query) and `search_pages`, behind the validation of the window. -/
def listing (store : ConfluenceStore) (actor : ActorIdentity) (query : Option String) (limit offset : Int) : Response :=
  match visiblePages store actor query with
  | .ok pages => paginated pages limit offset
  | .error _ => .serverError

theorem browse_eq_listing {limit offset : Int} (positive : 1 ≤ limit) (bounded : limit ≤ 100) (start : 0 ≤ offset)
    (store : ConfluenceStore) (actor : ActorIdentity) (query : Option String) :
    browse store actor query limit offset = listing store actor query limit offset := by
  have valid : validWindow limit offset = true := by simp [validWindow, positive, bounded, start]
  rw [browse, if_pos valid]
  rfl

/-- The id, space, title and body, joined and case-folded, contain the case-folded query. -/
def Matches (p : Page) (query : Option String) : Prop :=
  ∀ q ∈ query, (PyText.casefold q).toList <:+:
    (PyText.casefold (" ".intercalate [p.id, p.spaceId, p.title, p.body])).toList

/-- The readable matching pages, in the order of their ids. -/
structure View (s : ConfluenceStore) (actor : ActorIdentity) (query : Option String) (pages : List Page) : Prop where
  sorted : pages.Pairwise fun p q => p.id < q.id
  mem : ∀ p, p ∈ pages ↔
    s.pages.get? p.id = some p.modelDump ∧ canReadPage s p.modelDump actor = .ok true ∧ Matches p query

def Response.items : Response → List Page
  | .pageList items _ _ _ => items
  | _ => []

theorem matchesQuery_iff (p : Page) (query : Option String) : matchesQuery p.modelDump query = true ↔ Matches p query := by
  cases query with
  | none => simp [matchesQuery, Matches]
  | some q =>
    simp [matchesQuery, Matches, haystack, textContains, textField, pyStr]

theorem exists_view {s : ConfluenceStore} (valid : s.Valid) (keyed : s.Keyed) {actor : ActorIdentity}
    (resolves : Resolves s actor) (query : Option String) :
    ∃ pages, View s actor query pages ∧ visiblePages s actor query = .ok pages := by
  obtain ⟨ps, values, distinct, stored⟩ := ConfluenceStore.pages_list valid keyed
  refine ⟨_, ⟨?_, ?_⟩, visiblePages_resolved resolves values stored query⟩
  · generalize kept : ps.filter (shown s actor query) = qs
    have ids : (qs.map Page.id).Nodup := kept ▸ distinct.sublist (List.filter_sublist.map _)
    have sorted := List.pairwise_insertionSort (fun p q : Page => p.id ≤ q.id) qs
    have apart : (qs.insertionSort fun p q => p.id ≤ q.id).Pairwise fun p q => p.id ≠ q.id :=
      List.pairwise_map.mp (((List.perm_insertionSort _ qs).map Page.id).nodup_iff.mpr ids)
    refine (sorted.and apart).imp ?_
    rintro p q ⟨le, different⟩
    exact String.not_le.mp fun ge => different (String.le_antisymm le ge)
  · intro p
    rw [List.mem_insertionSort, List.mem_filter, stored, shown_iff, matchesQuery_iff]

theorem View.unique {s : ConfluenceStore} {actor : ActorIdentity} {query : Option String} {ps qs : List Page}
    (left : View s actor query ps) (right : View s actor query qs) : ps = qs := by
  have distinct : ∀ {ps : List Page}, ps.Pairwise (fun p q => p.id < q.id) → ps.Nodup := by
    intro ps sorted
    refine sorted.imp ?_
    rintro p _ lt rfl
    exact String.lt_irrefl _ lt
  refine List.Perm.eq_of_pairwise ?_ left.sorted right.sorted ?_
  · intro p q _ _ lt gt
    exact absurd (String.lt_trans lt gt) (String.lt_irrefl _)
  · exact (List.perm_ext_iff_of_nodup (distinct left.sorted) (distinct right.sorted)).mpr fun p =>
      (left.mem p).trans (right.mem p).symm

theorem matches_empty (p : Page) : Matches p (some "") ↔ Matches p none := by
  have folded : PyText.casefold "" = "" := PyText.casefold_lower "" (by simp)
  simp [Matches, folded]

theorem View.congr {s s' : ConfluenceStore} {actor : ActorIdentity} {query query' : Option String} {ps : List Page}
    (view : View s actor query ps) (pages : ∀ k, s.pages.get? k = s'.pages.get? k)
    (access : ∀ p : Page, canReadPage s p.modelDump actor = canReadPage s' p.modelDump actor)
    (matching : ∀ p, Matches p query ↔ Matches p query') : View s' actor query' ps := by
  refine ⟨view.sorted, fun p => ?_⟩
  rw [view.mem, pages, access, matching]

theorem listing_raised {s : ConfluenceStore} (valid : s.Valid) (keyed : s.Keyed) {actor : ActorIdentity}
    (raises : ¬ Resolves s actor) (query : Option String) (limit offset : Int) :
    listing s actor query limit offset = .serverError := by
  rw [listing, visiblePages_raised valid keyed raises]

theorem listing_congr {s s' : ConfluenceStore} {actor : ActorIdentity} {query query' : Option String}
    (valid : s.Valid ∧ s'.Valid) (keyed : s.Keyed ∧ s'.Keyed) (resolved : Resolves s actor ↔ Resolves s' actor)
    (same : ∀ ps, View s actor query ps → View s' actor query' ps) (limit offset : Int) :
    listing s' actor query' limit offset = listing s actor query limit offset := by
  by_cases resolves : Resolves s actor
  · obtain ⟨ps, view, shown⟩ := exists_view valid.1 keyed.1 resolves query
    obtain ⟨qs, view', shown'⟩ := exists_view valid.2 keyed.2 (resolved.mp resolves) query'
    obtain rfl := view'.unique (same ps view)
    rw [listing, listing, shown, shown']
  · rw [listing_raised valid.1 keyed.1 resolves,
      listing_raised valid.2 keyed.2 fun other => resolves (resolved.mpr other)]

/-! ### Requests -/

/-- The text a search asks for: the parameter, or else the body's `q`, or else its `query`, or else nothing. -/
inductive Asked (q : Option String) (body : Option PageSearchRequest) : String → Prop
  | parameter {text : String} (given : q = some text) : Asked q body text
  | bodyText {request : PageSearchRequest} {text : String} (absent : q = none) (sent : body = some request)
    (given : request.q = some text) : Asked q body text
  | bodyQuery {request : PageSearchRequest} {text : String} (absent : q = none) (sent : body = some request)
    (missing : request.q = none) (given : request.query = some text) : Asked q body text
  | bare {request : PageSearchRequest} (absent : q = none) (sent : body = some request)
    (missing : request.q = none) (blank : request.query = none) : Asked q body ""
  | nothing (absent : q = none) (unsent : body = none) : Asked q body ""

omit [PyText] in
theorem asked_iff {q : Option String} {body : Option PageSearchRequest} {text : String} :
    Asked q body text ↔ searchQuery q body = text := by
  constructor
  · intro asked
    cases asked <;> simp_all [searchQuery]
  · rintro rfl
    cases q with
    | some text => exact .parameter rfl
    | none => cases body with
      | none => exact .nothing rfl rfl
      | some request =>
        obtain ⟨first, second⟩ := request
        cases first with
        | some text => exact .bodyText rfl rfl rfl
        | none => cases second with
          | some text => exact .bodyQuery rfl rfl rfl rfl
          | none => exact .bare rfl rfl rfl rfl

/-- No right to read a page needs a collection that is no mapping. -/
def Resolvable (s : ConfluenceStore) (actor : ActorIdentity) : Prop :=
  ∀ k d, s.pages.get? k = some d → isGlobalAdmin s actor = .ok true ∨
    s.users.isObj = true ∧ (isPageOwner d actor = true ∨ s.permissions.isObj = true ∧ s.spaces.isObj = true)

theorem resolves_iff {s : ConfluenceStore} {actor : ActorIdentity} : Resolves s actor ↔ Resolvable s actor :=
  forall₃_congr fun _ _ _ => canAccessPage_resolved

/-- A listing is a window of the view, and the windows one after the other are the view. -/
theorem listing_windows {s : ConfluenceStore} (valid : s.Valid) (keyed : s.Keyed) {actor : ActorIdentity}
    (resolvable : Resolvable s actor) (query : Option String) : ∃ pages, View s actor query pages ∧
      (∀ limit offset : Int, listing s actor query limit offset =
        .pageList (window pages offset.toNat limit.toNat) pages.length limit offset) ∧
      ∀ (limit : Int) (n : Nat), 1 ≤ limit → pages.length ≤ n * limit.toNat →
        ((List.range n).flatMap fun i : Nat => (listing s actor query limit ((i : Int) * limit)).items) = pages := by
  obtain ⟨pages, view, shown⟩ := exists_view valid keyed (resolves_iff.mpr resolvable) query
  have answer : ∀ limit offset : Int, listing s actor query limit offset =
      .pageList (window pages offset.toNat limit.toNat) pages.length limit offset := by
    intro limit offset
    rw [listing, shown]
    rfl
  refine ⟨pages, view, answer, fun limit n positive reached => ?_⟩
  have offsets : ∀ i : Nat, ((i : Int) * limit).toNat = i * limit.toNat := by
    intro i
    obtain ⟨l, rfl⟩ := Int.eq_ofNat_of_zero_le (show 0 ≤ limit by omega)
    exact Int.toNat_natCast (i * l)
  simp only [answer, Response.items, offsets]
  exact windows_all reached

/-- Asking for nothing shows what no question shows. -/
theorem listing_empty {s : ConfluenceStore} (valid : s.Valid) (keyed : s.Keyed) (actor : ActorIdentity)
    (limit offset : Int) : listing s actor (some "") limit offset = listing s actor none limit offset :=
  listing_congr ⟨valid, valid⟩ ⟨keyed, keyed⟩ Iff.rfl (fun _ view =>
    view.congr (fun _ => rfl) (fun _ => rfl) fun p => (matches_empty p).symm) limit offset

theorem listing_reordered {s s' : ConfluenceStore} (valid : s.Valid) (keyed : s.Keyed) (actor : ActorIdentity)
    (reordered : Reordered s s') (query : Option String) (limit offset : Int) :
    listing s' actor query limit offset = listing s actor query limit offset :=
  listing_congr ⟨valid, reordered.valid valid⟩ ⟨keyed, reordered.keyed keyed⟩ reordered.resolves_iff
    (fun _ view => view.congr reordered.pages (fun p => reordered.canReadPage_eq p.modelDump actor) fun _ => Iff.rfl)
    limit offset

/-- Where no right to read raises, listings are windows of the view and cover it once; elsewhere they are refused. They
depend on nothing else, and a request for a list or a search is such a listing. -/
theorem listing_exact {s : ConfluenceStore} (valid : s.Valid) (keyed : s.Keyed) (actor : ActorIdentity) :
    (Resolvable s actor → ∀ query, ∃ pages, View s actor query pages ∧
      (∀ limit offset : Int, 1 ≤ limit → 0 ≤ offset →
        listing s actor query limit offset =
          .pageList (window pages offset.toNat limit.toNat) pages.length limit offset ∧
        (window pages offset.toNat limit.toNat).length ≤ limit.toNat) ∧
      ∀ (limit : Int) (n : Nat), 1 ≤ limit → pages.length ≤ n * limit.toNat →
        ((List.range n).flatMap fun i : Nat => (listing s actor query limit ((i : Int) * limit)).items) = pages) ∧
    (¬ Resolvable s actor → ∀ query limit offset, listing s actor query limit offset = .serverError) ∧
    (∀ s', Reordered s s' → ∀ query limit offset,
      listing s' actor query limit offset = listing s actor query limit offset) ∧
    ∀ limit offset : Int, 1 ≤ limit → limit ≤ 100 → 0 ≤ offset →
      (call s actor (.listPages limit offset)).1 = listing s actor none limit offset ∧
      ∀ q body text, Asked q body text →
        (call s actor (.searchPages q body limit offset)).1 = listing s actor (some text) limit offset ∧
        (text = "" →
          (call s actor (.searchPages q body limit offset)).1 = (call s actor (.listPages limit offset)).1) := by
  refine ⟨fun resolvable query => ?_, fun raises query limit offset => ?_, fun s' reordered query limit offset =>
    listing_reordered valid keyed actor reordered query limit offset, fun limit offset positive bounded start => ?_⟩
  · obtain ⟨pages, view, answer, walk⟩ := listing_windows valid keyed resolvable query
    exact ⟨pages, view, fun limit offset _ _ => ⟨answer limit offset, length_window_le _ _ _⟩, walk⟩
  · exact listing_raised valid keyed (fun resolves => raises (resolves_iff.mp resolves)) query limit offset
  · have listed : (call s actor (.listPages limit offset)).1 = listing s actor none limit offset :=
      browse_eq_listing positive bounded start s actor none
    refine ⟨listed, fun q body text asked => ?_⟩
    obtain rfl := asked_iff.mp asked
    have searched : (call s actor (.searchPages q body limit offset)).1 =
        listing s actor (some (searchQuery q body)) limit offset :=
      browse_eq_listing positive bounded start s actor _
    refine ⟨searched, fun empty => ?_⟩
    rw [searched, listed, empty, listing_empty valid keyed]

end Resolver

/-- One page of ann's, and permissions that are no mapping. -/
def unmappedStore : ConfluenceStore :=
  { ConfluenceStore.soloStore ["ann", "bob"]
      ⟨"home", "eng", "Home", "Hello", 1, "ann", Dict.empty, Page.noExtras⟩ with permissions := .null }

/-- Whether bob may read the page cannot be decided, so his list is refused. -/
theorem listing_unmapped :
    unmappedStore.Valid ∧ unmappedStore.Keyed ∧
      @listing asciiText unmappedStore ⟨"bob", ["bob"]⟩ none 20 0 = .serverError ∧
      ¬ ∃ pages, @View asciiText unmappedStore ⟨"bob", ["bob"]⟩ none pages ∧
        @listing asciiText unmappedStore ⟨"bob", ["bob"]⟩ none 20 0 = .pageList (window pages 0 20) pages.length 20 0 := by
  have coherent : (ConfluenceStore.soloStore ["ann", "bob"]
      ⟨"home", "eng", "Home", "Hello", 1, "ann", Dict.empty, Page.noExtras⟩).Coherent :=
    ConfluenceStore.soloStore_coherent ["ann", "bob"] rfl
  have refused : @listing asciiText unmappedStore ⟨"bob", ["bob"]⟩ none 20 0 = .serverError := rfl
  refine ⟨⟨fun found => coherent.valid.pages found, fun member => coherent.valid.histories member⟩,
    fun found => coherent.keyed found, refused, ?_⟩
  rintro ⟨pages, -, answer⟩
  rw [refused] at answer
  cases answer

theorem listing_exact_solo :
    let home : Page := ⟨"home", "eng", "Home", "Hello", 1, "ann", Dict.empty, Page.noExtras⟩
    let store := ConfluenceStore.soloStore ["ann"] home
    let ann : ActorIdentity := ⟨"ann", ["ann"]⟩
    ∃ pages, @View asciiText store ann (some "hello") pages ∧
      (@call asciiText store ann (.searchPages none (some ⟨none, some "hello"⟩) 20 0)).1 =
        .pageList (window pages 0 20) pages.length 20 0 := by
  intro home store ann
  have coherent : store.Coherent := ConfluenceStore.soloStore_coherent ["ann"] rfl
  obtain ⟨views, -, -, requests⟩ := @listing_exact asciiText store coherent.valid coherent.keyed ann
  have resolvable : @Resolvable asciiText store ann := fun _ _ _ => Or.inr ⟨rfl, Or.inr ⟨rfl, rfl⟩⟩
  obtain ⟨pages, view, answers, -⟩ := views resolvable (some "hello")
  have searched := ((requests 20 0 (by decide) (by decide) (by decide)).2 none (some ⟨none, some "hello"⟩) "hello"
    (.bodyQuery rfl rfl rfl rfl)).1
  exact ⟨pages, view, searched.trans (answers 20 0 (by decide) (by decide)).1⟩

end AgentGym.World
