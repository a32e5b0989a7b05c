import Mathlib.Tactic.FinCases
import AgentGym.World.Coherent

/-!
# Reader and writer lists

The fixtures stage permissions as one map of entries per section, each entry a list of
readers and a list of writers. The resolver finds the reader list under a key it knows
and never looks under `writers`, so entries alone never let anyone write.
-/

namespace AgentGym.World

structure AclEntry where
  readers : List String
  writers : List String
  deriving DecidableEq

namespace AclEntry

def json (e : AclEntry) : Json :=
  .obj [("readers", .arr (e.readers.map .str)), ("writers", .arr (e.writers.map .str))]

/-- The entry lists the user in one of its lists. -/
def Lists (e : AclEntry) (user : String) : Prop := user ∈ e.readers ∨ user ∈ e.writers

/-- The reader list holds the user, or the wildcard. -/
def Admits (e : AclEntry) (user : String) : Prop := "*" ∈ e.readers ∨ user ∈ e.readers

instance (e : AclEntry) (user : String) : Decidable (e.Lists user) := inferInstanceAs (Decidable (_ ∨ _))

instance (e : AclEntry) (user : String) : Decidable (e.Admits user) := inferInstanceAs (Decidable (_ ∨ _))

end AclEntry

structure Acl where
  spaces : Dict String AclEntry
  pages : Dict String AclEntry

namespace Acl

def sectionOf (acl : Acl) : Scope → Dict String AclEntry
  | .page => acl.pages
  | .space => acl.spaces

def sectionJson (entries : Dict String AclEntry) : Json := .ofDict (entries.mapValues AclEntry.json)

/-- `{"spaces": ..., "pages": ...}`. -/
def permissions (acl : Acl) : Json :=
  .obj [("spaces", sectionJson acl.spaces), ("pages", sectionJson acl.pages)]

def entry (acl : Acl) (scope : Scope) (id : String) : Option AclEntry := (acl.sectionOf scope).get? id

/-- The section an id happens to name; the resolver takes it for one more entry of that id. -/
def named (acl : Acl) (id : String) : Option (Dict String AclEntry) :=
  if id = "spaces" then some acl.spaces else if id = "pages" then some acl.pages else none

/-- The entry of the id, and the section the id names. -/
def permissionEntries (acl : Acl) (scope : Scope) (id : String) : List PermissionEntry :=
  ((acl.entry scope id).toList.map AclEntry.json ++ (acl.named id).toList.map sectionJson).map .plain

def Defined (acl : Acl) (scope : Scope) (id : String) : Prop :=
  (acl.entry scope id).isSome ∨ (acl.named id).isSome

/-- The entries whose reader lists decide reading under an id. -/
def deciding (acl : Acl) (scope : Scope) (id : String) : List AclEntry :=
  (acl.entry scope id).toList ++
    (acl.named id).toList.flatMap fun entries => nestedEntryKeys.filterMap entries.get?

def ReadersAdmit (acl : Acl) (scope : Scope) (id user : String) : Prop :=
  ∃ e ∈ acl.deciding scope id, e.Admits user

/-- The entries defined for a page and its space. -/
def entriesFor (acl : Acl) (pageId spaceId : String) : List AclEntry :=
  (acl.entry .page pageId).toList ++ (acl.entry .space spaceId).toList

/-- What the lists say about reading a page. -/
def ReadRight (acl : Acl) (user pageId spaceId : String) : Prop :=
  acl.entriesFor pageId spaceId ≠ [] ∧ ∀ e ∈ acl.entriesFor pageId spaceId, e.Lists user

/-- What the lists say about writing a page. -/
def WriteRight (acl : Acl) (user pageId spaceId : String) : Prop :=
  acl.entriesFor pageId spaceId ≠ [] ∧ ∀ e ∈ acl.entriesFor pageId spaceId, user ∈ e.writers

/-- What the lists say about creating a page in a space. -/
def CreateRight (acl : Acl) (user spaceId : String) : Prop :=
  ∃ e, acl.entry .space spaceId = some e ∧ user ∈ e.writers

instance (acl : Acl) (scope : Scope) (id : String) : Decidable (acl.Defined scope id) :=
  inferInstanceAs (Decidable (_ ∨ _))

instance (acl : Acl) (scope : Scope) (id user : String) : Decidable (acl.ReadersAdmit scope id user) :=
  inferInstanceAs (Decidable (∃ e ∈ acl.deciding scope id, _))

/-- Nobody with a place in every entry holds one of them as a writer only. -/
def NoWriterOnly (acl : Acl) (user pageId spaceId : String) : Prop :=
  (∀ e ∈ acl.entriesFor pageId spaceId, e.Lists user) →
    ∀ e ∈ acl.entriesFor pageId spaceId, user ∈ e.readers

/-- The ids name no section, and no reader list holds the wildcard. -/
structure Ordinary (acl : Acl) (pageId spaceId : String) : Prop where
  page : acl.named pageId = none
  space : acl.named spaceId = none
  noWildcard : ∀ e ∈ acl.entriesFor pageId spaceId, "*" ∉ e.readers

/-- The reader lists alone let the user in. -/
def ReaderListsGrant (acl : Acl) (user pageId spaceId : String) : Prop :=
  if acl.Defined .page pageId ∧ acl.Defined .space spaceId then
    acl.ReadersAdmit .page pageId user ∧ acl.ReadersAdmit .space spaceId user
  else acl.ReadersAdmit .page pageId user ∨ acl.ReadersAdmit .space spaceId user

instance (acl : Acl) (user pageId spaceId : String) : Decidable (acl.ReaderListsGrant user pageId spaceId) :=
  inferInstanceAs (Decidable (if _ ∧ _ then _ ∧ _ else _ ∨ _))

end Acl

/-! ### What one entry grants -/

section Grants

variable [PyText] {aliases : List String}

omit [PyText] in
theorem lookup_json_none {e : AclEntry} {name : String} (reader : name ≠ "readers") (writer : name ≠ "writers") :
    [("readers", Json.arr (e.readers.map .str)), ("writers", .arr (e.writers.map .str))].lookup name = none := by
  simp [Entries.lookup_cons, Ne.symm reader, Ne.symm writer]

omit [PyText] in
theorem actorInAny_strings (names : List String) :
    actorInAny aliases (names.map .str) = names.any fun name => name == "*" || aliases.contains name := by
  induction names with
  | nil => rfl
  | cons name names ih => simp [actorInAny, actorInValue, ih]

theorem entryGrants_entry (free : ∀ name ∈ aliases, name ≠ "readers" ∧ name ≠ "writers") (e : AclEntry)
    (operation : Operation) :
    entryGrants aliases operation e.json =
      (operation == .read && e.readers.any fun name => name == "*" || aliases.contains name) := by
  have byAlias : aliases.any (keyGrants [("readers", Json.arr (e.readers.map .str)),
      ("writers", .arr (e.writers.map .str))] (scopedValueGrants operation)) = false := by
    rw [List.any_eq_false]
    intro name member
    simp [keyGrants, lookup_json_none (free name member).1 (free name member).2]
  rw [AclEntry.json, entryGrants, byAlias, ← actorInAny_strings]
  cases operation <;>
    simp [nestedGrants, keyGrants, fullAccessKeys, operationKeys, readPermissionKeys, writePermissionKeys,
      Entries.lookup_cons, isTrue, actorInValue]

theorem entryGrants_section (free : ∀ name ∈ aliases, name ≠ "readers" ∧ name ≠ "writers")
    (entries : Dict String AclEntry) (operation : Operation) :
    entryGrants aliases operation (Acl.sectionJson entries) =
      (nestedEntryKeys.filterMap entries.get?).any fun e => entryGrants aliases operation e.json := by
  have found : ∀ name, (entries.mapValues AclEntry.json).entries.lookup name =
      (entries.get? name).map AclEntry.json := Dict.get?_mapValues _ _
  have value : ∀ e : AclEntry, scopedValueGrants operation e.json = false := by
    intro e
    cases operation <;>
      simp [AclEntry.json, scopedValueGrants, readPermissionKeys, writePermissionKeys, Entries.lookup_cons,
        isTrue]
  have byActor : keyGrants (entries.mapValues AclEntry.json).entries (scopedValueGrants operation) =
      fun _ => false := by
    funext name
    rw [keyGrants, found]
    cases entries.get? name <;> simp [value]
  have listed : keyGrants (entries.mapValues AclEntry.json).entries (actorInValue aliases) =
      fun _ => false := by
    funext name
    rw [keyGrants, found]
    cases entries.get? name with
    | none => rfl
    | some e =>
      have reader : "readers" ∉ aliases := fun member => (free _ member).1 rfl
      have writer : "writers" ∉ aliases := fun member => (free _ member).2 rfl
      simp [AclEntry.json, actorInValue, reader, writer]
  have flagged : ∀ name, isTrue ((entries.mapValues AclEntry.json).entries.lookup name) = false := by
    intro name
    rw [found]
    cases entries.get? name <;> rfl
  have nested : ∀ name, nestedGrants aliases operation name (entries.mapValues AclEntry.json).entries =
      (entries.get? name).any fun e => entryGrants aliases operation e.json := by
    intro name
    rw [nestedGrants_eq, keyGrants, found]
    cases entries.get? name <;> rfl
  have never : ∀ names : List String, (names.any fun _ => false) = false := by simp
  simp only [Acl.sectionJson, Json.ofDict, entryGrants, byActor, listed, flagged, nested, never,
    Bool.or_false, Bool.false_or]
  cases first : entries.get? "permissions" <;> cases second : entries.get? "permission" <;>
    cases third : entries.get? "access" <;> simp [nestedEntryKeys, first, second, third, Bool.or_assoc]

end Grants

/-! ### Staged stores -/

/-- The store stages the lists, for users whose names do not collide. -/
structure Staged (s : ConfluenceStore) (acl : Acl) (users : Dict String Json) : Prop where
  users_eq : s.users = .ofDict users
  permissions_eq : s.permissions = acl.permissions
  spaces_mapping : s.spaces.isObj = true
  members : ∀ scope id e, acl.entry scope id = some e → ∀ user ∈ e.readers ++ e.writers,
    (users.get? user).isSome
  pages_plain : ∀ id d, s.pages.get? id = some d → ∀ key ∈ nestedEntryKeys, d.get? key = none
  spaces_plain : ∀ id v, s.spaces.get? id = some v → ∀ key ∈ nestedEntryKeys, v.get? key = none
  disjoint : ∀ u v x y, users.get? u = some x → users.get? v = some y → u ≠ v →
    ∀ name ∈ userAliases u x, name ∉ userAliases v y
  names_free : ∀ u x, users.get? u = some x → ∀ name ∈ userAliases u x,
    name ∉ ["readers", "writers", "spaces", "pages"]

/-- The actor is one of the users, under all of its aliases. -/
def ActorOf (users : Dict String Json) (actor : ActorIdentity) : Prop :=
  ∃ user, users.get? actor.userId = some user ∧ actor.aliases = userAliases actor.userId user

namespace Staged

section

variable {s : ConfluenceStore} {acl : Acl} {users : Dict String Json} (staged : Staged s acl users)
  {actor : ActorIdentity} (known : ActorOf users actor)
include staged known

theorem alias_iff {user : String} (listed : (users.get? user).isSome) :
    user ∈ actor.aliases ↔ user = actor.userId := by
  obtain ⟨self, found, aliases⟩ := known
  obtain ⟨other, found'⟩ := Option.isSome_iff_exists.mp listed
  constructor
  · intro member
    by_contra different
    rw [aliases] at member
    exact staged.disjoint user actor.userId other self found' found different user List.mem_cons_self member
  · rintro rfl
    rw [aliases]
    exact List.mem_cons_self

theorem aliases_free : ∀ name ∈ actor.aliases, name ∉ ["readers", "writers", "spaces", "pages"] := by
  obtain ⟨self, found, aliases⟩ := known
  rw [aliases]
  exact staged.names_free _ self found

theorem keys_free : ∀ name ∈ actor.aliases, name ≠ "readers" ∧ name ≠ "writers" := by
  intro name member
  have free := staged.aliases_free known name member
  simp only [List.mem_cons, not_or] at free
  exact ⟨free.1, free.2.1⟩

omit staged known in
theorem nested_entry {id : String} {entries : Dict String AclEntry} (named : acl.named id = some entries)
    {e : AclEntry} (member : e ∈ nestedEntryKeys.filterMap entries.get?) :
    ∃ scope key, acl.entry scope key = some e := by
  obtain ⟨key, _, defined⟩ := List.mem_filterMap.mp member
  unfold Acl.named at named
  split at named
  · exact ⟨.space, key, by rw [Acl.entry, Acl.sectionOf, Option.some.inj named]; exact defined⟩
  · split at named
    · exact ⟨.page, key, by rw [Acl.entry, Acl.sectionOf, Option.some.inj named]; exact defined⟩
    · simp at named

variable [PyText]

theorem grants_iff {scope : Scope} {id : String} {e : AclEntry} (defined : acl.entry scope id = some e)
    (operation : Operation) :
    entryGrants actor.aliases operation e.json = true ↔ operation = .read ∧ e.Admits actor.userId := by
  rw [entryGrants_entry (staged.keys_free known), Bool.and_eq_true, beq_iff_eq, List.any_eq_true]
  refine and_congr_right fun _ => ?_
  constructor
  · rintro ⟨name, member, test⟩
    rcases Bool.or_eq_true_iff.mp test with star | own
    · exact Or.inl (eq_of_beq star ▸ member)
    · have listed := staged.members scope id e defined name (List.mem_append_left _ member)
      exact Or.inr ((staged.alias_iff known listed).mp (by simpa using own) ▸ member)
  · rintro (star | own)
    · exact ⟨"*", star, by simp⟩
    · have listed := staged.members scope id e defined _ (List.mem_append_left _ own)
      exact ⟨actor.userId, own, by simp [(staged.alias_iff known listed).mpr rfl]⟩

omit [PyText] known in
theorem resourceEntries_nil (scope : Scope) (id : String) :
    ∃ resource, resourceOf s scope id = .ok resource ∧ resourceEntries resource = [] := by
  have bare : ∀ {resource : Option Json}, (∀ v ∈ resource, ∀ key ∈ nestedEntryKeys, v.get? key = none) →
      resourceEntries resource = [] := by
    intro resource plain
    cases resource with
    | none => rfl
    | some v =>
      have plain := plain v rfl
      simp [nestedEntryKeys] at plain
      simp [resourceEntries, nestedEntryKeys, plain]
  cases scope with
  | page =>
    refine ⟨_, rfl, bare fun v member => ?_⟩
    obtain ⟨d, stored, rfl⟩ := Option.map_eq_some_iff.mp member
    exact staged.pages_plain id d stored
  | space =>
    obtain ⟨kvs, mapping⟩ : ∃ kvs, s.spaces = .obj kvs := by
      have mapping := staged.spaces_mapping
      revert mapping
      cases s.spaces <;> simp [Json.isObj]
    refine ⟨kvs.lookup id, by simp only [resourceOf, mapping, mappingEntries]; rfl, bare fun v member => ?_⟩
    exact staged.spaces_plain id v (by rw [mapping]; exact member)

omit [PyText] in
/-- The entries the resolver finds. -/
theorem permissionEntries_eq (scope : Scope) (id : String) :
    World.permissionEntries s scope id actor = .ok (acl.permissionEntries scope id) := by
  have byAlias : actor.aliases.flatMap (actorEntries acl.permissions scope id) = [] := by
    rw [List.flatMap_eq_nil_iff]
    intro name member
    have free := staged.aliases_free known name member
    simp only [List.mem_cons, not_or] at free
    have absent : acl.permissions.get? name = none := by
      simp [Acl.permissions, Entries.lookup_cons, Ne.symm free.2.2.1, Ne.symm free.2.2.2.1]
    simp [actorEntries, absent]
  have sections : sectionEntries acl.permissions scope id =
      (acl.entry scope id).toList.map AclEntry.json ++ (acl.named id).toList.map Acl.sectionJson := by
    have bySection : (scopedSectionNames scope).filterMap
        (fun name => (acl.permissions.get? name).bind (·.get? id)) =
        (acl.entry scope id).toList.map AclEntry.json := by
      have found : ∀ entries : Dict String AclEntry,
          (Acl.sectionJson entries).get? id = (entries.get? id).map AclEntry.json :=
        fun entries => entries.get?_mapValues AclEntry.json id
      cases scope <;>
        simp only [Acl.permissions, scopedSectionNames, Json.get?_obj,
          List.filterMap_cons, Entries.lookup_cons, Acl.entry, Acl.sectionOf]
      · cases defined : acl.pages.get? id <;> simp [found, defined]
      · cases defined : acl.spaces.get? id <;> simp [found, defined]
    have byId : acl.permissions.get? id = (acl.named id).map Acl.sectionJson := by
      rw [Acl.permissions, Json.get?_obj, Entries.lookup_cons, Entries.lookup_cons,
        Acl.named]
      by_cases spaces : id = "spaces"
      · simp [spaces]
      · by_cases pages : id = "pages"
        · simp [pages]
        · simp [spaces, pages, Ne.symm spaces, Ne.symm pages]
    rw [sectionEntries, bySection, byId]
    cases acl.named id <;> rfl
  obtain ⟨resource, found, none⟩ := staged.resourceEntries_nil scope id
  have permissions : mappingEntries s.permissions =
      .ok [("spaces", Acl.sectionJson acl.spaces), ("pages", Acl.sectionJson acl.pages)] := by
    rw [staged.permissions_eq]
    rfl
  rw [World.permissionEntries, permissions, found]
  show Except.ok (collectEntries acl.permissions resource scope id actor) = _
  rw [collectEntries, byAlias, none, sections, List.append_nil, List.append_nil, Acl.permissionEntries]

omit [PyText] staged known in
theorem entries_isEmpty (scope : Scope) (id : String) :
    (acl.permissionEntries scope id).isEmpty = false ↔ acl.Defined scope id := by
  rw [Acl.permissionEntries, Acl.Defined]
  cases acl.entry scope id <;> cases acl.named id <;> simp

theorem entriesGrant_read_iff (scope : Scope) (id : String) :
    entriesGrant (acl.permissionEntries scope id) actor .read = true ↔
      acl.ReadersAdmit scope id actor.userId := by
  have admits : ∀ scope id e, acl.entry scope id = some e →
      (entryGrants actor.aliases .read e.json = true ↔ e.Admits actor.userId) :=
    fun scope id e defined => (staged.grants_iff known defined .read).trans (by simp)
  rw [Acl.permissionEntries, entriesGrant, List.any_eq_true, Acl.ReadersAdmit]
  simp only [List.map_append, List.map_map, List.mem_append, List.mem_map, Option.mem_toList,
    Function.comp_apply, Acl.deciding, List.mem_flatMap]
  constructor
  · rintro ⟨_, ⟨e, defined, rfl⟩ | ⟨entries, named, rfl⟩, grants⟩
    · exact ⟨e, Or.inl defined, (admits scope id e defined).mp grants⟩
    · rw [permissionGrants, entryGrants_section (staged.keys_free known), List.any_eq_true] at grants
      obtain ⟨e, member, grants⟩ := grants
      obtain ⟨owner, key, defined⟩ := nested_entry named member
      exact ⟨e, Or.inr ⟨entries, named, member⟩, (admits owner key e defined).mp grants⟩
  · rintro ⟨e, defined | ⟨entries, named, member⟩, admitted⟩
    · exact ⟨_, Or.inl ⟨e, defined, rfl⟩, (admits scope id e defined).mpr admitted⟩
    · obtain ⟨owner, key, defined⟩ := nested_entry named member
      refine ⟨_, Or.inr ⟨entries, named, rfl⟩, ?_⟩
      rw [permissionGrants, entryGrants_section (staged.keys_free known), List.any_eq_true]
      exact ⟨e, member, (admits owner key e defined).mpr admitted⟩

theorem entriesGrant_write (scope : Scope) (id : String) :
    entriesGrant (acl.permissionEntries scope id) actor .write = false := by
  rw [Acl.permissionEntries, entriesGrant, List.any_eq_false]
  intro entry member
  rw [Bool.not_eq_true, List.mem_map] at *
  obtain ⟨v, member, rfl⟩ := member
  have refuses : ∀ e : AclEntry, entryGrants actor.aliases .write e.json = false := by
    intro e
    rw [entryGrants_entry (staged.keys_free known)]
    rfl
  rcases List.mem_append.mp member with own | nested
  · obtain ⟨e, _, rfl⟩ := List.mem_map.mp own
    exact refuses e
  · obtain ⟨entries, _, rfl⟩ := List.mem_map.mp nested
    rw [permissionGrants, entryGrants_section (staged.keys_free known), List.any_eq_false]
    intro e _
    simp [refuses e]

variable (notAdmin : isGlobalAdmin s actor = .ok false) {p : Page} (notOwner : isPageOwner p.modelDump actor = false)
include notAdmin notOwner

theorem canAccessPage_eq (operation : Operation) :
    canAccessPage s p.modelDump actor operation =
      .ok (accessGranted (acl.permissionEntries .page p.id) (acl.permissionEntries .space p.spaceId) actor operation) := by
  have pageId : textField p.modelDump "id" = p.id := rfl
  have spaceId : textField p.modelDump "space_id" = p.spaceId := rfl
  rw [canAccessPage, notAdmin, notOwner, pageId, spaceId, staged.permissionEntries_eq known,
    staged.permissionEntries_eq known]
  rfl

omit [PyText] staged known notAdmin notOwner in
theorem accessGranted_iff [PyText] (operation : Operation) :
    accessGranted (acl.permissionEntries .page p.id) (acl.permissionEntries .space p.spaceId) actor operation = true ↔
      if acl.Defined .page p.id ∧ acl.Defined .space p.spaceId then
        entriesGrant (acl.permissionEntries .page p.id) actor operation = true ∧
          entriesGrant (acl.permissionEntries .space p.spaceId) actor operation = true
      else
        entriesGrant (acl.permissionEntries .page p.id) actor operation = true ∨
          entriesGrant (acl.permissionEntries .space p.spaceId) actor operation = true := by
  simp only [accessGranted, Bool.and_eq_true, Bool.not_eq_true', entries_isEmpty]
  split <;> simp

theorem canReadPage_iff :
    canReadPage s p.modelDump actor = .ok true ↔ acl.ReaderListsGrant actor.userId p.id p.spaceId := by
  rw [canReadPage, staged.canAccessPage_eq known notAdmin notOwner, Except.ok.injEq, accessGranted_iff,
    Acl.ReaderListsGrant]
  simp only [staged.entriesGrant_read_iff known]

theorem canWritePage_false : canWritePage s p.modelDump actor = .ok false := by
  rw [canWritePage, staged.canAccessPage_eq known notAdmin notOwner, Except.ok.injEq, ← Bool.not_eq_true,
    accessGranted_iff]
  simp [staged.entriesGrant_write known]

omit notOwner in
theorem canCreatePage_false {spaceId : String} (notSpaceOwner : isSpaceOwner s spaceId actor = .ok false) :
    canCreatePage s spaceId actor = .ok false := by
  rw [canCreatePage, notAdmin, notSpaceOwner, staged.permissionEntries_eq known]
  simp [bind, Except.bind, pure, Except.pure, staged.entriesGrant_write known]

end

end Staged

theorem Acl.Ordinary.readerListsGrant_iff {acl : Acl} {user pageId spaceId : String}
    (ordinary : acl.Ordinary pageId spaceId) :
    (acl.ReadRight user pageId spaceId ↔ acl.ReaderListsGrant user pageId spaceId) ↔
      acl.NoWriterOnly user pageId spaceId := by
  obtain ⟨page, space, noWildcard⟩ := ordinary
  simp only [Acl.ReadRight, Acl.NoWriterOnly, Acl.ReaderListsGrant, Acl.Defined, Acl.ReadersAdmit,
    Acl.deciding, page, space, Acl.entriesFor, AclEntry.Lists, AclEntry.Admits] at noWildcard ⊢
  revert noWildcard
  cases acl.entry .page pageId <;> cases acl.entry .space spaceId <;> simp <;> tauto

/-- The resolver implements the lists exactly where nobody has a right as a writer only. -/
theorem acl_implemented_iff [PyText] {s : ConfluenceStore} {acl : Acl} {users : Dict String Json}
    (staged : Staged s acl users) {actor : ActorIdentity} (known : ActorOf users actor)
    (notAdmin : isGlobalAdmin s actor = .ok false) :
    (∀ p : Page, s.pages.get? p.id = some p.modelDump → isPageOwner p.modelDump actor = false →
      ((canReadPage s p.modelDump actor = .ok true ↔ acl.ReadRight actor.userId p.id p.spaceId) ↔
        (acl.ReadRight actor.userId p.id p.spaceId ↔ acl.ReaderListsGrant actor.userId p.id p.spaceId)) ∧
      (acl.Ordinary p.id p.spaceId →
        ((canReadPage s p.modelDump actor = .ok true ↔ acl.ReadRight actor.userId p.id p.spaceId) ↔
          acl.NoWriterOnly actor.userId p.id p.spaceId)) ∧
      ((canWritePage s p.modelDump actor = .ok true ↔ acl.WriteRight actor.userId p.id p.spaceId) ↔
        ¬ acl.WriteRight actor.userId p.id p.spaceId)) ∧
    (∀ spaceId, isSpaceOwner s spaceId actor = .ok false →
      ((canCreatePage s spaceId actor = .ok true ↔ acl.CreateRight actor.userId spaceId) ↔
        ¬ acl.CreateRight actor.userId spaceId)) := by
  refine ⟨fun p _ notOwner => ⟨?_, fun ordinary => ?_, ?_⟩, fun spaceId notSpaceOwner => ?_⟩
  · rw [staged.canReadPage_iff known notAdmin notOwner]
    exact iff_comm
  · rw [staged.canReadPage_iff known notAdmin notOwner, ← ordinary.readerListsGrant_iff]
    exact iff_comm
  · rw [staged.canWritePage_false known notAdmin notOwner]
    simp
  · rw [staged.canCreatePage_false known notAdmin notSpaceOwner]
    simp

/-- Everyone in the space entry, Bob also as a writer. -/
def teamAcl : Acl where
  spaces := ⟨[("eng", ⟨["ann", "bob"], ["bob"]⟩)], by decide⟩
  pages := Dict.empty

def teamUsers : Dict String Json := ⟨[("ann", .obj []), ("bob", .obj [])], by decide⟩

def teamPage : Page := ⟨"home", "eng", "Home", "Hello", 1, "ann", Dict.empty, Page.noExtras⟩

def teamStore : ConfluenceStore :=
  (ConfluenceStore.ofCollections (.ofDict teamUsers) (.obj []) teamAcl.permissions).created teamPage

theorem teamUsers_aliases {user : String} {value : Json} (found : teamUsers.get? user = some value) :
    userAliases user value = [user] ∧ user ∈ ["ann", "bob"] := by
  have member := Dict.mem_entries_iff.mpr found
  simp only [teamUsers, List.mem_cons, List.not_mem_nil, or_false, Prod.mk.injEq] at member
  rcases member with ⟨rfl, rfl⟩ | ⟨rfl, rfl⟩
  · exact ⟨rfl, by simp⟩
  · exact ⟨rfl, by simp⟩

theorem teamStore_staged : Staged teamStore teamAcl teamUsers where
  users_eq := rfl
  permissions_eq := rfl
  spaces_mapping := rfl
  members := by
    intro scope id e defined
    have member : (id, e) ∈ (teamAcl.sectionOf scope).entries := Dict.mem_entries_iff.mpr defined
    cases scope with
    | page => simp [Acl.sectionOf, teamAcl, Dict.empty] at member
    | space =>
      simp only [Acl.sectionOf, teamAcl, List.mem_singleton, Prod.mk.injEq] at member
      obtain ⟨rfl, rfl⟩ := member
      decide
  pages_plain := by
    intro id d found
    rw [teamStore, ConfluenceStore.created_pages] at found
    split at found
    · rw [← Option.some.inj found]
      decide
    · simp [ConfluenceStore.ofCollections] at found
  spaces_plain := by
    intro id v found
    simp [teamStore, ConfluenceStore.created, ConfluenceStore.ofCollections, Json.truthy] at found
  disjoint := by
    intro u v x y left right different name member
    rw [(teamUsers_aliases left).1, List.mem_singleton] at member
    rw [(teamUsers_aliases right).1, List.mem_singleton, member]
    exact different
  names_free := by
    intro u x found name member
    obtain ⟨aliases, known⟩ := teamUsers_aliases found
    rw [aliases, List.mem_singleton] at member
    subst member
    fin_cases known <;> decide

/-- Bob is a writer of the only entry and may not write. -/
theorem listed_writer_refused :
    Staged teamStore teamAcl teamUsers ∧ ActorOf teamUsers ⟨"bob", ["bob"]⟩ ∧
    @isGlobalAdmin asciiText teamStore ⟨"bob", ["bob"]⟩ = .ok false ∧
    teamStore.pages.get? teamPage.id = some teamPage.modelDump ∧
    @isPageOwner asciiText teamPage.modelDump ⟨"bob", ["bob"]⟩ = false ∧
    ¬ (@canWritePage asciiText teamStore teamPage.modelDump ⟨"bob", ["bob"]⟩ = .ok true ↔
      teamAcl.WriteRight "bob" teamPage.id teamPage.spaceId) := by
  refine ⟨teamStore_staged, ⟨_, rfl, rfl⟩, rfl, ConfluenceStore.created_pages _ _ _, by decide, ?_⟩
  intro implemented
  have right : teamAcl.WriteRight "bob" teamPage.id teamPage.spaceId := by
    refine ⟨by decide, ?_⟩
    decide
  have allowed := implemented.mpr right
  cases allowed

theorem acl_implemented_team :
    (@canReadPage asciiText teamStore teamPage.modelDump ⟨"bob", ["bob"]⟩ = .ok true ↔
      teamAcl.ReadRight "bob" "home" "eng") ↔
    (teamAcl.ReadRight "bob" "home" "eng" ↔ teamAcl.ReaderListsGrant "bob" "home" "eng") :=
  ((@acl_implemented_iff asciiText _ _ _ teamStore_staged ⟨"bob", ["bob"]⟩ ⟨_, rfl, rfl⟩ rfl).1
    teamPage (ConfluenceStore.created_pages _ _ _) (by decide)).1

end AgentGym.World
