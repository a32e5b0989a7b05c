import AgentGym.Lib.Text

/-!
# Pages

A page is held by the store as the dictionary `Page.model_dump` makes of it. `Page` is
the validated form: its extra fields cannot clash with the declared ones, so dumping it
always gives a dictionary, and validating the dump gives the page back.
-/

namespace AgentGym.World

/-- The exceptions the modelled code raises. -/
inductive PyError where
  | keyError (message : String)
  | valueError (message : String)
  | versionConflictError (message : String)
  | validationError
  | typeError
  | attributeError
  deriving DecidableEq

abbrev PageData := Dict String Json

def pageFields : List String := ["id", "space_id", "title", "body", "version", "owner_id"]

@[ext] structure Page where
  id : String
  spaceId : String
  title : String
  body : String
  version : Int
  ownerId : String
  extras : Dict String Json
  extras_free : ∀ k ∈ extras.keys, k ∉ pageFields

namespace Page

theorem noExtras : ∀ k ∈ (Dict.empty : Dict String Json).keys, k ∉ pageFields := by
  simp [Dict.keys, Dict.empty]

def fieldEntries (p : Page) : List (String × Json) :=
  [("id", .str p.id), ("space_id", .str p.spaceId), ("title", .str p.title), ("body", .str p.body),
    ("version", .int p.version), ("owner_id", .str p.ownerId)]

/-- `model_dump(mode="python")`: the declared fields in order, then the extras. -/
def modelDump (p : Page) : PageData where
  entries := p.fieldEntries ++ p.extras.entries
  nodup := by
    have fields : p.fieldEntries.map Prod.fst = pageFields := rfl
    rw [List.map_append, fields]
    refine List.nodup_append.mpr ⟨by decide, p.extras.nodup, ?_⟩
    rintro k declared k' extra rfl
    exact p.extras_free k extra declared

end Page

/-! ### Validation -/

def strField (v : Json) (name : String) : Except PyError String :=
  match v.get? name with
  | some (.str s) => .ok s
  | _ => .error .validationError

def intField [LaxInt] (v : Json) (name : String) (missing : Option Int) : Except PyError Int :=
  match v.get? name with
  | none => match missing with
    | some i => .ok i
    | none => .error .validationError
  | some w => match laxInt w with
    | some i => .ok i
    | none => .error .validationError

/-- `model_validate` of the page models, which allow extra fields. -/
def modelValidate [LaxInt] (versionDefault : Option Int) : Json → Except PyError Page
  | .obj kvs => do
    let id ← strField (.obj kvs) "id"
    let spaceId ← strField (.obj kvs) "space_id"
    let title ← strField (.obj kvs) "title"
    let body ← strField (.obj kvs) "body"
    let version ← intField (.obj kvs) "version" versionDefault
    let ownerId ← strField (.obj kvs) "owner_id"
    pure {
      id, spaceId, title, body, version, ownerId
      extras := (Dict.ofEntries kvs).filterKeys fun k => !pageFields.contains k
      extras_free := by
        intro k member
        rw [Dict.mem_keys_iff, Dict.get?_filterKeys] at member
        split at member
        · rename_i kept; simpa using kept
        · simp at member }
  | _ => .error .validationError

/-- `_page_model`: the version defaults to 1. -/
def pageModel [LaxInt] (v : Json) : Except PyError Page := modelValidate (some 1) v

/-- `_page_response`: the version is required. -/
def pageResponse [LaxInt] (d : PageData) : Except PyError Page := modelValidate none (.ofDict d)

/-- `_page_data`. -/
def pageData [LaxInt] (v : Json) : Except PyError PageData := (pageModel v).map Page.modelDump

theorem strField_ok {v : Json} {name s : String} (h : strField v name = .ok s) : v.get? name = some (.str s) := by
  unfold strField at h
  split at h
  · rename_i found
    rw [found, Except.ok.inj h]
  · simp at h

theorem modelValidate_strings [LaxInt] {versionDefault : Option Int} {v : Json} {q : Page}
    (h : modelValidate versionDefault v = .ok q) :
    v.get? "id" = some (.str q.id) ∧ v.get? "space_id" = some (.str q.spaceId) ∧
      v.get? "title" = some (.str q.title) ∧ v.get? "body" = some (.str q.body) ∧
      v.get? "owner_id" = some (.str q.ownerId) := by
  cases v with
  | obj kvs =>
    simp only [modelValidate, bind, Except.bind] at h
    split at h
    · simp at h
    rename_i id idField
    split at h
    · simp at h
    rename_i spaceId spaceField
    split at h
    · simp at h
    rename_i title titleField
    split at h
    · simp at h
    rename_i body bodyField
    split at h
    · simp at h
    split at h
    · simp at h
    rename_i ownerId ownerField
    obtain rfl := Except.ok.inj h
    exact ⟨strField_ok idField, strField_ok spaceField, strField_ok titleField, strField_ok bodyField,
      strField_ok ownerField⟩
  | _ => simp [modelValidate] at h

theorem modelValidate_rest [LaxInt] {versionDefault : Option Int} {kvs : List (String × Json)} {q : Page}
    (h : modelValidate versionDefault (.obj kvs) = .ok q) :
    intField (.obj kvs) "version" versionDefault = .ok q.version ∧
      q.extras = (Dict.ofEntries kvs).filterKeys fun k => !pageFields.contains k := by
  simp only [modelValidate, bind, Except.bind] at h
  split at h
  · simp at h
  split at h
  · simp at h
  split at h
  · simp at h
  split at h
  · simp at h
  split at h
  · simp at h
  rename_i versionField
  split at h
  · simp at h
  obtain rfl := Except.ok.inj h
  exact ⟨versionField, rfl⟩

namespace Page

theorem modelDump_get? (p : Page) (k : String) :
    p.modelDump.get? k = (p.fieldEntries.lookup k).or (p.extras.get? k) := by
  simp only [Dict.get?, modelDump, List.lookup_append]

@[simp] theorem get?_id (p : Page) : p.modelDump.get? "id" = some (.str p.id) := rfl
@[simp] theorem get?_space_id (p : Page) : p.modelDump.get? "space_id" = some (.str p.spaceId) := rfl
@[simp] theorem get?_title (p : Page) : p.modelDump.get? "title" = some (.str p.title) := rfl
@[simp] theorem get?_body (p : Page) : p.modelDump.get? "body" = some (.str p.body) := rfl
@[simp] theorem get?_version (p : Page) : p.modelDump.get? "version" = some (.int p.version) := rfl
@[simp] theorem get?_owner_id (p : Page) : p.modelDump.get? "owner_id" = some (.str p.ownerId) := rfl

@[simp] theorem set_title (p : Page) (t : String) :
    p.modelDump.set "title" (.str t) = { p with title := t }.modelDump := by
  apply Dict.ext; rfl

@[simp] theorem set_body (p : Page) (b : String) :
    p.modelDump.set "body" (.str b) = { p with body := b }.modelDump := by
  apply Dict.ext; rfl

@[simp] theorem set_version (p : Page) (n : Int) :
    p.modelDump.set "version" (.int n) = { p with version := n }.modelDump := by
  apply Dict.ext; rfl

theorem extras_of_modelDump (p : Page) :
    p.modelDump.filterKeys (fun k => !pageFields.contains k) = p.extras := by
  apply Dict.ext
  have fields : p.fieldEntries.filter (fun e => !pageFields.contains e.1) = [] := rfl
  have extras : p.extras.entries.filter (fun e => !pageFields.contains e.1) = p.extras.entries := by
    apply List.filter_eq_self.mpr
    intro e member
    have free := p.extras_free e.1 (List.mem_map_of_mem member)
    simpa using free
  simp only [Dict.filterKeys, modelDump, List.filter_append, fields, extras, List.nil_append]

theorem modelValidate_modelDump [LaxInt] (versionDefault : Option Int) (p : Page) :
    modelValidate versionDefault (.ofDict p.modelDump) = .ok p := by
  have field : ∀ {name s}, p.modelDump.get? name = some (.str s) →
      strField (.obj p.modelDump.entries) name = .ok s := by
    intro name s found
    have found : (Json.obj p.modelDump.entries).get? name = some (.str s) := found
    simp [strField, found]
  have version : intField (.obj p.modelDump.entries) "version" versionDefault = .ok p.version := by
    have found : (Json.obj p.modelDump.entries).get? "version" = some (.int p.version) := p.get?_version
    simp [intField, found]
  simp only [Json.ofDict, modelValidate, field p.get?_id, field p.get?_space_id, field p.get?_title,
    field p.get?_body, field p.get?_owner_id, version, bind, Except.bind, pure, Except.pure,
    Dict.ofEntries_entries]
  congr 1
  ext1 <;> first | rfl | exact p.extras_of_modelDump

@[simp] theorem pageModel_modelDump [LaxInt] (p : Page) : pageModel (.ofDict p.modelDump) = .ok p :=
  modelValidate_modelDump _ p

@[simp] theorem pageResponse_modelDump [LaxInt] (p : Page) : pageResponse p.modelDump = .ok p :=
  modelValidate_modelDump _ p

@[simp] theorem pageData_modelDump [LaxInt] (p : Page) : pageData (.ofDict p.modelDump) = .ok p.modelDump := by
  simp [pageData, Except.map]

theorem modelDump_injective {p q : Page} (h : p.modelDump = q.modelDump) : p = q := by
  let _ := plainInts
  have same := p.pageModel_modelDump
  rw [h, pageModel_modelDump] at same
  exact (Except.ok.inj same).symm

/-- The declared fields come first in every dump. -/
theorem pageFields_prefix (p : Page) : pageFields <+: p.modelDump.keys := by
  show pageFields <+: (p.fieldEntries ++ p.extras.entries).map Prod.fst
  rw [List.map_append]
  exact List.prefix_append _ _

theorem entries_of_keys {entries : List (String × Json)} {rest : List String}
    (keys : pageFields ++ rest = entries.map Prod.fst) : ∃ v₁ v₂ v₃ v₄ v₅ v₆ extras,
    entries = ("id", v₁) :: ("space_id", v₂) :: ("title", v₃) :: ("body", v₄) :: ("version", v₅) ::
      ("owner_id", v₆) :: extras := by
  match entries, keys with
  | (_, v₁) :: (_, v₂) :: (_, v₃) :: (_, v₄) :: (_, v₅) :: (_, v₆) :: extras, keys =>
    simp only [pageFields, List.map_cons, List.cons_append, List.nil_append, List.cons.injEq] at keys
    obtain ⟨rfl, rfl, rfl, rfl, rfl, rfl, _⟩ := keys
    exact ⟨_, _, _, _, _, _, _, rfl⟩

/-- A valid dictionary that starts with the declared fields is already a dump. -/
theorem modelDump_of_pageModel [LaxInt] {d : PageData} {q : Page} {version : Int} (first : pageFields <+: d.keys)
    (number : d.get? "version" = some (.int version)) (model : pageModel (.ofDict d) = .ok q) :
    d = q.modelDump := by
  obtain ⟨entries, nodup⟩ := d
  obtain ⟨rest, keys⟩ := first
  obtain ⟨v₁, v₂, v₃, v₄, v₅, v₆, extras, rfl⟩ := entries_of_keys keys
  obtain ⟨idField, spaceField, titleField, bodyField, ownerField⟩ := modelValidate_strings model
  obtain rfl : v₁ = .str q.id := Option.some.inj idField
  obtain rfl : v₂ = .str q.spaceId := Option.some.inj spaceField
  obtain rfl : v₃ = .str q.title := Option.some.inj titleField
  obtain rfl : v₄ = .str q.body := Option.some.inj bodyField
  obtain rfl : v₅ = .int version := Option.some.inj number
  obtain rfl : v₆ = .str q.ownerId := Option.some.inj ownerField
  have distinct : (pageFields ++ extras.map Prod.fst).Nodup := nodup
  let dumped : Page :=
    { id := q.id, spaceId := q.spaceId, title := q.title, body := q.body, version, ownerId := q.ownerId
      extras := ⟨extras, (List.nodup_append.mp distinct).2.1⟩
      extras_free := fun k extra declared => (List.nodup_append.mp distinct).2.2 k declared k extra rfl }
  have same : pageModel (.ofDict dumped.modelDump) = .ok q := model
  rw [pageModel_modelDump] at same
  rw [← Except.ok.inj same]
  rfl

end Page

theorem exists_page_of_pageData [LaxInt] {v : Json} {d : PageData} (h : pageData v = .ok d) :
    ∃ p : Page, pageModel v = .ok p ∧ d = p.modelDump := by
  unfold pageData at h
  cases model : pageModel v with
  | error e => simp [model, Except.map] at h
  | ok p =>
    rw [model] at h
    exact ⟨p, rfl, (Except.ok.inj h).symm⟩

end AgentGym.World
