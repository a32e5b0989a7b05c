import AgentGym.World.Store

/-!
# Permission resolution

`PermissionResolver` reads free-form permission maps: it probes several key names for a
page or space, per section, per actor and inside the resource itself, and interprets
what it finds as booleans, names, lists or nested maps.
-/

namespace AgentGym.World

inductive Operation where
  | read | write
  deriving DecidableEq

inductive Scope where
  | page | space
  deriving DecidableEq

def readPermissionKeys : List String := ["read", "view", "reader", "readers", "viewers"]

def writePermissionKeys : List String :=
  ["write", "edit", "editor", "editors", "update", "manage", "admin", "admins"]

def fullAccessKeys : List String := ["users", "actors", "members", "allowed", "allow", "access"]

def nestedEntryKeys : List String := ["permissions", "permission", "access"]

def scopedSectionNames : Scope → List String
  | .page => ["page", "pages", "page_permissions", "pages_permissions"]
  | .space => ["space", "spaces", "space_permissions", "spaces_permissions"]

def adminTokens : List String := ["admin", "administrator", "owner", "full", "all"]

structure ActorIdentity where
  userId : String
  aliases : List String
  deriving DecidableEq

/-- A permission value, or one already selected by an actor id in the state map. -/
inductive PermissionEntry where
  | plain (value : Json)
  | actorScoped (value : Json)

/-! ### Interpreting entries -/

mutual

/-- `_actor_in_value`. -/
def actorInValue (aliases : List String) : Json → Bool
  | .str s => s == "*" || aliases.contains s
  | .obj kvs => kvs.any fun e => e.1 == "*" || aliases.contains e.1
  | .arr xs => actorInAny aliases xs
  | .bool b => b
  | _ => false

def actorInAny (aliases : List String) : List Json → Bool
  | [] => false
  | x :: xs => actorInValue aliases x || actorInAny aliases xs

end

/-- `value is True`. -/
def isTrue : Option Json → Bool
  | some (.bool b) => b
  | _ => false

def tokenGrants (operation : Operation) (token : String) : Bool :=
  adminTokens.contains token || writePermissionKeys.contains token ||
    (operation == .read && readPermissionKeys.contains token)

section Resolver

variable [PyText]

/-- `_scoped_value_grants`. -/
def scopedValueGrants (operation : Operation) : Json → Bool
  | .bool b => b
  | .str s => tokenGrants operation (PyText.casefold s)
  | .arr xs => xs.any fun
    | .str s => tokenGrants operation (PyText.casefold s)
    | _ => false
  | .obj kvs =>
    writePermissionKeys.any (fun key => isTrue (kvs.lookup key)) ||
    (operation == .read && readPermissionKeys.any fun key => isTrue (kvs.lookup key)) ||
    match kvs.lookup "role" with
    | some (.str role) => tokenGrants operation (PyText.casefold role)
    | _ => false
  | _ => false

def operationKeys : Operation → List String
  | .read => readPermissionKeys ++ writePermissionKeys
  | .write => writePermissionKeys

/-- `key in entry and grants(entry[key])`. -/
def keyGrants (kvs : List (String × Json)) (grants : Json → Bool) (key : String) : Bool :=
  match kvs.lookup key with
  | some v => grants v
  | none => false

mutual

/-- `_entry_grants` of a value that is not actor-scoped. -/
def entryGrants (aliases : List String) (operation : Operation) : Json → Bool
  | .bool b => b
  | .str s => s == "*" || aliases.contains s
  | .arr xs => actorInAny aliases xs
  | .obj kvs =>
    aliases.any (keyGrants kvs (scopedValueGrants operation)) ||
    keyGrants kvs (scopedValueGrants operation) "*" ||
    fullAccessKeys.any (keyGrants kvs (actorInValue aliases)) ||
    (operationKeys operation).any (fun key =>
      keyGrants kvs (actorInValue aliases) key || isTrue (kvs.lookup key)) ||
    nestedGrants aliases operation "permissions" kvs ||
    nestedGrants aliases operation "permission" kvs ||
    nestedGrants aliases operation "access" kvs
  | _ => false

/-- `key in entry and _entry_grants(entry[key])`, recursive over the entries. -/
def nestedGrants (aliases : List String) (operation : Operation) (key : String) :
    List (String × Json) → Bool
  | [] => false
  | (k, v) :: rest =>
    if k = key then entryGrants aliases operation v else nestedGrants aliases operation key rest

end

def permissionGrants (aliases : List String) (operation : Operation) : PermissionEntry → Bool
  | .plain v => entryGrants aliases operation v
  | .actorScoped v => scopedValueGrants operation v

/-- `_entries_grant`. -/
def entriesGrant (entries : List PermissionEntry) (actor : ActorIdentity) (operation : Operation) : Bool :=
  entries.any (permissionGrants actor.aliases operation)

/-! ### Collecting entries -/

/-- The entries of a mapping; nothing else has a `get`. -/
def mappingEntries : Json → Except PyError (List (String × Json))
  | .obj kvs => .ok kvs
  | _ => .error .attributeError

/-- `_resource`. -/
def resourceOf (store : ConfluenceStore) (scope : Scope) (resourceId : String) : Except PyError (Option Json) :=
  match scope with
  | .page => .ok ((store.pages.get? resourceId).map Json.ofDict)
  | .space => (mappingEntries store.spaces).map (·.lookup resourceId)

/-- The entries of one map of sections: under each section name, then under the id itself. -/
def sectionEntries (permissions : Json) (scope : Scope) (resourceId : String) : List Json :=
  (scopedSectionNames scope).filterMap (fun name => (permissions.get? name).bind (·.get? resourceId)) ++
    (permissions.get? resourceId).toList

/-- The entries stored under one of the actor's own names. -/
def actorEntries (permissions : Json) (scope : Scope) (resourceId : String) (name : String) :
    List PermissionEntry :=
  match permissions.get? name with
  | some actorPermissions => (sectionEntries actorPermissions scope resourceId).map .actorScoped
  | none => []

/-- The entries embedded in the resource itself. -/
def resourceEntries : Option Json → List PermissionEntry
  | some resource => (nestedEntryKeys.filterMap resource.get?).map .plain
  | none => []

def collectEntries (permissions : Json) (resource : Option Json) (scope : Scope) (resourceId : String)
    (actor : ActorIdentity) : List PermissionEntry :=
  (sectionEntries permissions scope resourceId).map .plain ++
    actor.aliases.flatMap (actorEntries permissions scope resourceId) ++ resourceEntries resource

/-- `_permission_entries`. -/
def permissionEntries (store : ConfluenceStore) (scope : Scope) (resourceId : String)
    (actor : ActorIdentity) : Except PyError (List PermissionEntry) := do
  let permissions ← mappingEntries store.permissions
  let resource ← resourceOf store scope resourceId
  pure (collectEntries (.obj permissions) resource scope resourceId actor)

/-! ### The resolver -/

/-- `str(page[key])`; every stored page has an id and a space. -/
def textField (page : PageData) (key : String) : String := ((page.get? key).map pyStr).getD ""

/-- `owner_id is not None and str(owner_id) in actor.aliases`. -/
def ownedBy (ownerId : Option Json) (actor : ActorIdentity) : Bool :=
  match ownerId with
  | none => false
  | some .null => false
  | some v => actor.aliases.contains (pyStr v)

def adminUser : Option Json → Bool
  | some (.obj user) =>
    isTrue (user.lookup "is_admin") || isTrue (user.lookup "admin") ||
    match user.lookup "role" with
    | some (.str role) => adminTokens.contains (PyText.casefold role)
    | _ => false
  | _ => false

def isGlobalAdmin (store : ConfluenceStore) (actor : ActorIdentity) : Except PyError Bool :=
  (mappingEntries store.users).map fun users => adminUser (users.lookup actor.userId)

def isPageOwner (page : PageData) (actor : ActorIdentity) : Bool := ownedBy (page.get? "owner_id") actor

def ownedSpace (actor : ActorIdentity) : Option Json → Bool
  | some (.obj space) =>
    ownedBy (space.lookup "owner_id") actor ||
    actorInValue actor.aliases
      ((space.lookup "admins").getD ((space.lookup "administrators").getD (.arr [])))
  | _ => false

def isSpaceOwner (store : ConfluenceStore) (spaceId : String) (actor : ActorIdentity) : Except PyError Bool :=
  (mappingEntries store.spaces).map fun spaces => ownedSpace actor (spaces.lookup spaceId)

/-- What the entries of a page and of its space come to. -/
def accessGranted (pageEntries spaceEntries : List PermissionEntry) (actor : ActorIdentity)
    (operation : Operation) : Bool :=
  let pageGranted := entriesGrant pageEntries actor operation
  let spaceGranted := entriesGrant spaceEntries actor operation
  if !pageEntries.isEmpty && !spaceEntries.isEmpty then pageGranted && spaceGranted
  else pageGranted || spaceGranted

/-- Entries are looked up only for who is neither an administrator nor the owner. -/
def canAccessPage (store : ConfluenceStore) (page : PageData) (actor : ActorIdentity)
    (operation : Operation) : Except PyError Bool := do
  let admin ← isGlobalAdmin store actor
  if admin || isPageOwner page actor then pure true
  else
    let pageEntries ← permissionEntries store .page (textField page "id") actor
    let spaceEntries ← permissionEntries store .space (textField page "space_id") actor
    pure (accessGranted pageEntries spaceEntries actor operation)

def canReadPage (store : ConfluenceStore) (page : PageData) (actor : ActorIdentity) : Except PyError Bool :=
  canAccessPage store page actor .read

def canWritePage (store : ConfluenceStore) (page : PageData) (actor : ActorIdentity) : Except PyError Bool :=
  canAccessPage store page actor .write

def canCreatePage (store : ConfluenceStore) (spaceId : String) (actor : ActorIdentity) : Except PyError Bool := do
  let admin ← isGlobalAdmin store actor
  if admin then pure true
  else
    let owner ← isSpaceOwner store spaceId actor
    if owner then pure true
    else
      let entries ← permissionEntries store .space spaceId actor
      pure (!entries.isEmpty && entriesGrant entries actor .write)

/-! ### Writing implies reading -/

omit [PyText] in
theorem tokenGrants_read {token : String} (h : tokenGrants .write token = true) :
    tokenGrants .read token = true := by
  simp only [tokenGrants, Bool.or_eq_true] at h ⊢
  rcases h with h | h
  · exact Or.inl h
  · simp at h

theorem scopedValueGrants_read {v : Json} (h : scopedValueGrants .write v = true) :
    scopedValueGrants .read v = true := by
  cases v with
  | bool b => exact h
  | str s => exact tokenGrants_read h
  | arr xs =>
    obtain ⟨x, member, grants⟩ := List.any_eq_true.mp h
    refine List.any_eq_true.mpr ⟨x, member, ?_⟩
    cases x <;> first | exact tokenGrants_read grants | exact grants
  | obj kvs =>
    simp only [scopedValueGrants, Bool.or_eq_true] at h ⊢
    rcases h with (h | h) | h
    · exact Or.inl (Or.inl h)
    · simp at h
    · refine Or.inr ?_
      split at h <;> first | exact tokenGrants_read h | simp at h
  | _ => simp [scopedValueGrants] at h

omit [PyText] in
theorem keyGrants_mono {kvs : List (String × Json)} {grants grants' : Json → Bool} {key : String}
    (imp : ∀ v, kvs.lookup key = some v → grants v = true → grants' v = true)
    (h : keyGrants kvs grants key = true) : keyGrants kvs grants' key = true := by
  unfold keyGrants at h ⊢
  split at h
  · rename_i v found
    simpa [found] using imp v found h
  · simp at h

theorem nestedGrants_eq (aliases : List String) (operation : Operation) (key : String)
    (kvs : List (String × Json)) :
    nestedGrants aliases operation key kvs = keyGrants kvs (entryGrants aliases operation) key := by
  induction kvs with
  | nil => rfl
  | cons e rest ih =>
    obtain ⟨k, v⟩ := e
    rw [nestedGrants, keyGrants, Entries.lookup_cons]
    by_cases h : k = key
    · simp [h]
    · rw [if_neg h, if_neg h, ih, keyGrants]

theorem entryGrants_read {aliases : List String} {v : Json} (h : entryGrants aliases .write v = true) :
    entryGrants aliases .read v = true := by
  induction v using Json.ind with
  | leaf v leaf =>
    cases v with
    | bool b => exact h
    | str s => exact h
    | arr xs => simp [Json.isLeaf] at leaf
    | obj kvs => simp [Json.isLeaf] at leaf
    | _ => simp [entryGrants] at h
  | arr xs _ => exact h
  | obj kvs ih =>
    have nested : ∀ key, nestedGrants aliases .write key kvs = true →
        nestedGrants aliases .read key kvs = true := by
      intro key
      rw [nestedGrants_eq, nestedGrants_eq]
      exact keyGrants_mono fun v found => ih (key, v) (Entries.mem_of_lookup found)
    have byScope : ∀ key, keyGrants kvs (scopedValueGrants .write) key = true →
        keyGrants kvs (scopedValueGrants .read) key = true :=
      fun key => keyGrants_mono fun _ _ => scopedValueGrants_read
    simp only [entryGrants, Bool.or_eq_true, List.any_eq_true] at h ⊢
    rcases h with (((((named | star) | full) | keyed) | h) | h) | h
    · obtain ⟨a, member, grants⟩ := named
      exact .inl (.inl (.inl (.inl (.inl (.inl ⟨a, member, byScope a grants⟩)))))
    · exact .inl (.inl (.inl (.inl (.inl (.inr (byScope "*" star))))))
    · exact .inl (.inl (.inl (.inl (.inr full))))
    · obtain ⟨key, member, grants⟩ := keyed
      exact .inl (.inl (.inl (.inr ⟨key, List.mem_append_right _ member, grants⟩)))
    · exact .inl (.inl (.inr (nested _ h)))
    · exact .inl (.inr (nested _ h))
    · exact .inr (nested _ h)

theorem entriesGrant_read {entries : List PermissionEntry} {actor : ActorIdentity}
    (h : entriesGrant entries actor .write = true) : entriesGrant entries actor .read = true := by
  obtain ⟨entry, member, grants⟩ := List.any_eq_true.mp h
  refine List.any_eq_true.mpr ⟨entry, member, ?_⟩
  cases entry with
  | plain v => exact entryGrants_read grants
  | actorScoped v => exact scopedValueGrants_read grants

theorem accessGranted_read {pageEntries spaceEntries : List PermissionEntry} {actor : ActorIdentity}
    (h : accessGranted pageEntries spaceEntries actor .write = true) :
    accessGranted pageEntries spaceEntries actor .read = true := by
  unfold accessGranted at h ⊢
  dsimp only at h ⊢
  split at h
  · rename_i both
    rw [if_pos both]
    obtain ⟨page, space⟩ := Bool.and_eq_true_iff.mp h
    exact Bool.and_eq_true_iff.mpr ⟨entriesGrant_read page, entriesGrant_read space⟩
  · rename_i single
    rw [if_neg single]
    rcases Bool.or_eq_true_iff.mp h with page | space
    · exact Bool.or_eq_true_iff.mpr (Or.inl (entriesGrant_read page))
    · exact Bool.or_eq_true_iff.mpr (Or.inr (entriesGrant_read space))

theorem canAccessPage_read {store : ConfluenceStore} {page : PageData} {actor : ActorIdentity}
    (h : canAccessPage store page actor .write = .ok true) :
    canAccessPage store page actor .read = .ok true := by
  unfold canAccessPage at h ⊢
  obtain ⟨admin, known, h⟩ := bind_eq_ok_iff.mp h
  rw [known]
  dsimp only [bind, Except.bind]
  split at h
  · rename_i override
    rw [if_pos override]
    rfl
  · rename_i plain
    obtain ⟨pageEntries, page, h⟩ := bind_eq_ok_iff.mp h
    obtain ⟨spaceEntries, space, h⟩ := bind_eq_ok_iff.mp h
    rw [if_neg plain, page, space]
    exact congrArg Except.ok (accessGranted_read (Except.ok.inj h))

theorem writer_can_read {store : ConfluenceStore} {page : PageData} {actor : ActorIdentity}
    (writes : canWritePage store page actor = .ok true) : canReadPage store page actor = .ok true :=
  canAccessPage_read writes

/-! ### Where the resolver raises -/

omit [PyText] in
theorem mappingEntries_error {v : Json} {e : PyError} (h : mappingEntries v = .error e) :
    e = .attributeError ∧ v.isObj = false := by
  cases v <;> cases h <;> exact ⟨rfl, rfl⟩

omit [PyText] in
theorem permissionEntries_error {store : ConfluenceStore} {scope : Scope} {id : String} {actor : ActorIdentity}
    {e : PyError} (h : permissionEntries store scope id actor = .error e) :
    e = .attributeError ∧ (store.permissions.isObj = false ∨ store.spaces.isObj = false) := by
  unfold permissionEntries at h
  cases permissions : mappingEntries store.permissions with
  | error e' =>
    rw [permissions] at h
    obtain rfl := Except.error.inj h
    obtain ⟨rfl, none⟩ := mappingEntries_error permissions
    exact ⟨rfl, Or.inl none⟩
  | ok kvs =>
    rw [permissions] at h
    cases scope with
    | page => cases h
    | space =>
      cases spaces : mappingEntries store.spaces with
      | error e' =>
        simp only [resourceOf, spaces] at h
        obtain rfl := Except.error.inj h
        obtain ⟨rfl, none⟩ := mappingEntries_error spaces
        exact ⟨rfl, Or.inr none⟩
      | ok kvs' =>
        simp only [resourceOf, spaces] at h
        cases h

/-- The resolver raises only where a collection is no mapping. -/
theorem canAccessPage_error {store : ConfluenceStore} {page : PageData} {actor : ActorIdentity} {operation : Operation}
    {e : PyError} (h : canAccessPage store page actor operation = .error e) :
    e = .attributeError ∧
      (store.users.isObj = false ∨ store.permissions.isObj = false ∨ store.spaces.isObj = false) := by
  unfold canAccessPage at h
  cases known : isGlobalAdmin store actor with
  | error e' =>
    rw [known] at h
    obtain rfl := Except.error.inj h
    unfold isGlobalAdmin at known
    cases users : mappingEntries store.users with
    | error e'' =>
      rw [users] at known
      obtain rfl := Except.error.inj known
      obtain ⟨rfl, none⟩ := mappingEntries_error users
      exact ⟨rfl, Or.inl none⟩
    | ok kvs =>
      rw [users] at known
      cases known
  | ok admin =>
    rw [known] at h
    dsimp only [bind, Except.bind] at h
    split at h
    · cases h
    · cases first : permissionEntries store .page (textField page "id") actor with
      | error e' =>
        rw [first] at h
        obtain rfl := Except.error.inj h
        obtain ⟨rfl, none⟩ := permissionEntries_error first
        exact ⟨rfl, Or.inr none⟩
      | ok entries =>
        rw [first] at h
        cases second : permissionEntries store .space (textField page "space_id") actor with
        | error e' =>
          rw [second] at h
          obtain rfl := Except.error.inj h
          obtain ⟨rfl, none⟩ := permissionEntries_error second
          exact ⟨rfl, Or.inr none⟩
        | ok entries' =>
          rw [second] at h
          cases h

/-- The resolver answers who is known to override, and everyone else where the collections it reads are mappings. -/
theorem canAccessPage_resolved {store : ConfluenceStore} {page : PageData} {actor : ActorIdentity}
    {operation : Operation} : (∃ granted, canAccessPage store page actor operation = .ok granted) ↔
      isGlobalAdmin store actor = .ok true ∨ store.users.isObj = true ∧
        (isPageOwner page actor = true ∨ store.permissions.isObj = true ∧ store.spaces.isObj = true) := by
  unfold canAccessPage permissionEntries isGlobalAdmin resourceOf
  cases users : store.users with
  | obj kvs =>
    cases admin : adminUser (kvs.lookup actor.userId) <;> cases owner : isPageOwner page actor <;>
      cases store.permissions <;> cases store.spaces <;>
      simp [mappingEntries, Json.isObj, admin, bind, Except.bind, pure, Except.pure, Except.map]
  | _ => simp [mappingEntries, Json.isObj, bind, Except.bind, Except.map]

end Resolver

/-- A store that lets Bob edit the pages of a space through a nested entry. -/
def editorStore : ConfluenceStore :=
  ConfluenceStore.ofCollections .null .null
    (.obj [("spaces", .obj [("eng", .obj [("access", .obj [("editors", .arr [.str "bob"])])])])])

theorem writer_can_read_editor :
    let page : Page := ⟨"home", "eng", "Home", "Hello", 1, "ann", Dict.empty, Page.noExtras⟩
    @canReadPage asciiText editorStore page.modelDump ⟨"bob", ["bob"]⟩ = .ok true := by
  intro page
  have writes : @canWritePage asciiText editorStore page.modelDump ⟨"bob", ["bob"]⟩ = .ok true := by
    rfl
  exact @writer_can_read asciiText editorStore page.modelDump ⟨"bob", ["bob"]⟩ writes

end AgentGym.World
