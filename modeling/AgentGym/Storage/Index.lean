import AgentGym.Lib.Text

/-!
# The SQLite index

An index of run manifests in three tables, each keyed by its primary key. The index is
meant to be rebuilt from the run files, so what it holds should not depend on the order in
which they are read.
-/

namespace AgentGym.Storage

/-! ### Rows -/

structure RunRow where
  taskId : String
  packageId : String
  status : String
  createdAt : String
  taskHash : Option String
  packageHash : Option String
  domainVersion : Option String
  worldSnapshotHash : Option String
  runtimeName : Option String
  runtimeVersion : Option String
  modelProvider : Option String
  modelIdentifier : Option String
  seed : Option Int

structure TaskRow where
  taskHash : Option String
  domainVersion : Option String
  createdAt : String

structure PackageRow where
  packageHash : Option String
  createdAt : String

/-- The `runs`, `tasks` and `packages` tables. -/
structure Index where
  runs : Dict String RunRow
  tasks : Dict String TaskRow
  packages : Dict String PackageRow

/-- What one manifest is indexed as. -/
structure Indexed where
  runId : String
  run : RunRow
  task : TaskRow
  package : PackageRow

/-! ### One manifest -/

abbrev Manifest := Dict String Json

/-- `_required_text`. -/
def requiredText (values : Manifest) (key : String) : Except String String :=
  match values.get? key with
  | some (.str s) => if s = "" then .error s!"manifest requires a non-empty {key}" else .ok s
  | _ => .error s!"manifest requires a non-empty {key}"

/-- `_optional_text`. -/
def optionalText : Option Json → Option String
  | some (.str s) => some s
  | _ => none

/-- `_optional_seed`. -/
def optionalSeed : Option Json → Option Int
  | some (.int i) => some i
  | _ => none

/-- `_mapping_value(values.get(key)).get(field)`. -/
def fieldOf (values : Manifest) (key field : String) : Option Json := (values.get? key).bind (·.get? field)

/-- SQLite integers have 64 bits. -/
def fitsInteger : Option Int → Bool
  | some i => -9223372036854775808 ≤ i && i ≤ 9223372036854775807
  | none => true

section Insert

variable [PyText]

/-- The rows of a manifest, at a reading of the clock. -/
def indexed (now : String) (values : Manifest) : Except String Indexed := do
  let runId ← requiredText values "run_id"
  let taskId ← requiredText values "task_id"
  let packageId ← requiredText values "package_id"
  let status := pyStr ((values.get? "status").getD (.str "unknown"))
  let createdAt := pyStr ((values.get? "created_at").getD (.str now))
  let taskHash := optionalText (values.get? "task_hash")
  let packageHash := optionalText (values.get? "package_hash")
  let domainVersion := optionalText (values.get? "domain_version")
  let seed := optionalSeed (values.get? "seed")
  if fitsInteger seed then
    pure {
      runId
      run := {
        taskId, packageId, status, createdAt, taskHash, packageHash, domainVersion, seed
        worldSnapshotHash := optionalText (values.get? "world_snapshot_hash")
        runtimeName := optionalText (fieldOf values "runtime" "name")
        runtimeVersion := optionalText (fieldOf values "runtime" "version")
        modelProvider := optionalText (fieldOf values "model" "provider")
        modelIdentifier := optionalText (fieldOf values "model" "identifier") }
      task := { taskHash, domainVersion, createdAt }
      package := { packageHash, createdAt } }
  else .error "Python int too large to convert to SQLite INTEGER"

/-- `INSERT OR REPLACE` into each of the tables. -/
def Index.insert (index : Index) (rows : Indexed) : Index where
  runs := index.runs.set rows.runId rows.run
  tasks := index.tasks.set rows.run.taskId rows.task
  packages := index.packages.set rows.run.packageId rows.package

/-- `insert_run`; a manifest that is refused changes nothing. -/
def insertRun (now : String) (manifest : Manifest) (index : Index) : Except String Index := do
  let rows ← indexed now manifest
  pure (index.insert rows)

/-- Manifests inserted one after the other, each with its reading of the clock. -/
def rebuild (index : Index) : List (String × Manifest) → Index
  | [] => index
  | (now, manifest) :: rest => rebuild ((insertRun now manifest index).toOption.getD index) rest

/-! ### Tables as updates -/

def rowsOf (order : List (String × Manifest)) : List Indexed := order.filterMap fun e => (indexed e.1 e.2).toOption

theorem rebuild_eq (index : Index) (order : List (String × Manifest)) :
    rebuild index order = (rowsOf order).foldl Index.insert index := by
  induction order generalizing index with
  | nil => rfl
  | cons e order ih =>
    obtain ⟨now, manifest⟩ := e
    rw [rebuild, ih]
    cases read : indexed now manifest with
    | error message => simp [rowsOf, insertRun, read, Except.toOption, bind, Except.bind]
    | ok rows => simp [rowsOf, insertRun, read, Except.toOption, bind, Except.bind, pure, Except.pure]

def runEntry (rows : Indexed) : String × RunRow := (rows.runId, rows.run)

def taskEntry (rows : Indexed) : String × TaskRow := (rows.run.taskId, rows.task)

def packageEntry (rows : Indexed) : String × PackageRow := (rows.run.packageId, rows.package)

omit [PyText] in
theorem foldl_insert (index : Index) (rows : List Indexed) :
    rows.foldl Index.insert index =
      ⟨index.runs.update (rows.map runEntry), index.tasks.update (rows.map taskEntry),
        index.packages.update (rows.map packageEntry)⟩ := by
  induction rows generalizing index with
  | nil => rfl
  | cons row rows ih => exact ih (index.insert row)

/-! ### Orders -/

/-- The same rows in every table. -/
def Index.Same (a b : Index) : Prop :=
  (∀ id, a.runs.get? id = b.runs.get? id) ∧ (∀ id, a.tasks.get? id = b.tasks.get? id) ∧
    ∀ id, a.packages.get? id = b.packages.get? id

/-- These manifests, in some order and with repetitions. -/
def Covers (manifests : List Manifest) (order : List (String × Manifest)) : Prop :=
  ∀ m, m ∈ order.map Prod.snd ↔ m ∈ manifests

/-- Whatever the order, the index comes out the same. -/
def Rebuildable (manifests : List Manifest) : Prop :=
  ∀ index order order', Covers manifests order → Covers manifests order' →
    (rebuild index order).Same (rebuild index order')

/-- `insert_run` does not raise. -/
def Accepted (m : Manifest) : Prop := ∃ now rows, indexed now m = .ok rows

/-- Two manifests that name one task or one package say the same of it. -/
structure Agree (m m' : Manifest) : Prop where
  task : m.get? "task_id" = m'.get? "task_id" →
    optionalText (m.get? "task_hash") = optionalText (m'.get? "task_hash") ∧
      optionalText (m.get? "domain_version") = optionalText (m'.get? "domain_version") ∧
      (m.get? "created_at").map pyStr = (m'.get? "created_at").map pyStr
  package : m.get? "package_id" = m'.get? "package_id" →
    optionalText (m.get? "package_hash") = optionalText (m'.get? "package_hash") ∧
      (m.get? "created_at").map pyStr = (m'.get? "created_at").map pyStr

omit [PyText] in
theorem requiredText_ok {values : Manifest} {key text : String} (h : requiredText values key = .ok text) :
    values.get? key = some (.str text) := by
  unfold requiredText at h
  split at h
  · rename_i s found
    by_cases empty : s = ""
    · simp [empty] at h
    · simp only [empty, if_false, Except.ok.injEq] at h
      rw [found, h]
  · simp at h

theorem indexed_ok {now : String} {m : Manifest} {rows : Indexed} (read : indexed now m = .ok rows) {createdAt : Json}
    (created : m.get? "created_at" = some createdAt) :
    m.get? "run_id" = some (.str rows.runId) ∧
      m.get? "task_id" = some (.str rows.run.taskId) ∧
      m.get? "package_id" = some (.str rows.run.packageId) ∧
      rows.task = ⟨optionalText (m.get? "task_hash"), optionalText (m.get? "domain_version"), pyStr createdAt⟩ ∧
      rows.package = ⟨optionalText (m.get? "package_hash"), pyStr createdAt⟩ := by
  unfold indexed at read
  cases run : requiredText m "run_id" with
  | error e => simp [run, bind, Except.bind] at read
  | ok runId =>
    cases task : requiredText m "task_id" with
    | error e => simp [run, task, bind, Except.bind] at read
    | ok taskId =>
      cases package : requiredText m "package_id" with
      | error e => simp [run, task, package, bind, Except.bind] at read
      | ok packageId =>
        simp only [run, task, package, created, bind, Except.bind, pure, Except.pure, Option.getD_some] at read
        split at read
        · obtain rfl := Except.ok.inj read
          exact ⟨requiredText_ok run, requiredText_ok task, requiredText_ok package, rfl, rfl⟩
        · simp at read

theorem indexed_now {m : Manifest} (created : (m.get? "created_at").isSome) (now now' : String) :
    indexed now m = indexed now' m := by
  obtain ⟨createdAt, created⟩ := Option.isSome_iff_exists.mp created
  simp [indexed, created]

section Orders

variable {manifests : List Manifest} (created : ∀ m ∈ manifests, (m.get? "created_at").isSome)
include created

theorem mem_rowsOf {order : List (String × Manifest)} (covers : Covers manifests order) {rows : Indexed} :
    rows ∈ rowsOf order ↔ ∃ m ∈ manifests, indexed "" m = .ok rows := by
  unfold rowsOf
  rw [List.mem_filterMap]
  constructor
  · rintro ⟨⟨now, m⟩, member, read⟩
    have inside : m ∈ manifests := (covers m).mp (List.mem_map_of_mem (f := Prod.snd) member)
    refine ⟨m, inside, ?_⟩
    rw [indexed_now (created m inside) "" now]
    cases ran : indexed now m with
    | error e => simp [ran, Except.toOption] at read
    | ok rows' =>
      simp only [ran, Except.toOption, Option.some.injEq] at read
      rw [read]
  · rintro ⟨m, inside, read⟩
    obtain ⟨⟨now, m'⟩, member, rfl⟩ := List.mem_map.mp ((covers m).mpr inside)
    refine ⟨(now, m'), member, ?_⟩
    rw [indexed_now (created m' inside) now "", read]
    rfl

theorem update_same {α : Type} {entry : Indexed → String × α}
    (functional : ∀ m ∈ manifests, ∀ m' ∈ manifests, ∀ rows rows', indexed "" m = .ok rows →
      indexed "" m' = .ok rows' → (entry rows).1 = (entry rows').1 → (entry rows).2 = (entry rows').2)
    {order order' : List (String × Manifest)} (covers : Covers manifests order) (covers' : Covers manifests order')
    (table : Dict String α) (id : String) :
    (table.update ((rowsOf order).map entry)).get? id = (table.update ((rowsOf order').map entry)).get? id := by
  refine Dict.get?_update_reordered ?_ ?_ table id
  · intro k v w left right
    obtain ⟨rows, member, eq⟩ := List.mem_map.mp left
    obtain ⟨rows', member', eq'⟩ := List.mem_map.mp right
    obtain ⟨m, inside, read⟩ := (mem_rowsOf created covers).mp member
    obtain ⟨m', inside', read'⟩ := (mem_rowsOf created covers).mp member'
    have same := functional m inside m' inside' rows rows' read read' (by rw [eq, eq'])
    rwa [eq, eq'] at same
  · intro e
    simp only [List.mem_map, mem_rowsOf created covers, mem_rowsOf created covers']

omit created in
/-- A table that comes out the same in every order has one value for each key: either manifest can come last. -/
theorem last_same {α : Type} (table : Index → Dict String α) (entry : Indexed → String × α)
    (inserts : ∀ index rows, table (Index.insert index rows) = (table index).set (entry rows).1 (entry rows).2)
    (same : ∀ index order order', Covers manifests order → Covers manifests order' →
      ∀ id, (table (rebuild index order)).get? id = (table (rebuild index order')).get? id)
    {m m' : Manifest} (inside : m ∈ manifests) (inside' : m' ∈ manifests) {rows rows' : Indexed}
    (read : indexed "" m = .ok rows) (read' : indexed "" m' = .ok rows') (key : (entry rows).1 = (entry rows').1) :
    (entry rows).2 = (entry rows').2 := by
  let all : List (String × Manifest) := manifests.map fun m => ("", m)
  have covers : ∀ m ∈ manifests, Covers manifests (all ++ [("", m)]) := by
    intro m inside m'
    simp only [all, List.map_append, List.map_map, List.mem_append, List.map_cons, List.map_nil, List.mem_singleton]
    constructor
    · rintro (member | rfl)
      · simpa using member
      · exact inside
    · intro member
      exact Or.inl (by simpa using member)
  have last : ∀ m rows, indexed "" m = .ok rows → ∀ index : Index,
      (table (rebuild index (all ++ [("", m)]))).get? (entry rows).1 = some (entry rows).2 := by
    intro m rows read index
    have only : rowsOf [("", m)] = [rows] := by simp [rowsOf, read, Except.toOption]
    have split : rowsOf (all ++ [("", m)]) = rowsOf all ++ [rows] := by
      rw [← only]
      exact List.filterMap_append
    rw [rebuild_eq, split, List.foldl_append]
    show (table (Index.insert _ rows)).get? _ = _
    rw [inserts, Dict.get?_set_self]
  let blank : Index := ⟨.empty, .empty, .empty⟩
  have agree := same blank _ _ (covers m inside) (covers m' inside') (entry rows).1
  rw [last m rows read blank, key, last m' rows' read' blank] at agree
  exact Option.some.inj agree

end Orders

/-- An index can be rebuilt in any order exactly when manifests that share a task or a package agree on it. -/
theorem rebuildable_iff {manifests : List Manifest} (created : ∀ m ∈ manifests, (m.get? "created_at").isSome)
    (distinct : ∀ m ∈ manifests, ∀ m' ∈ manifests, m.get? "run_id" = m'.get? "run_id" → m = m') :
    Rebuildable manifests ↔ ∀ m ∈ manifests, ∀ m' ∈ manifests, Accepted m → Accepted m' → Agree m m' := by
  constructor
  · rintro same m inside m' inside' ⟨now, rows, read⟩ ⟨now', rows', read'⟩
    obtain ⟨createdAt, at_⟩ := Option.isSome_iff_exists.mp (created m inside)
    obtain ⟨createdAt', at'⟩ := Option.isSome_iff_exists.mp (created m' inside')
    rw [indexed_now (created m inside) now ""] at read
    rw [indexed_now (created m' inside') now' ""] at read'
    obtain ⟨-, taskId, packageId, task, package⟩ := indexed_ok read at_
    obtain ⟨-, taskId', packageId', task', package'⟩ := indexed_ok read' at'
    have tasks : (taskEntry rows).1 = (taskEntry rows').1 → rows.task = rows'.task :=
      last_same Index.tasks taskEntry (fun _ _ => rfl)
        (fun index order order' covers covers' => (same index order order' covers covers').2.1) inside inside' read read'
    have packages : (packageEntry rows).1 = (packageEntry rows').1 → rows.package = rows'.package :=
      last_same Index.packages packageEntry (fun _ _ => rfl)
        (fun index order order' covers covers' => (same index order order' covers covers').2.2) inside inside' read read'
    rw [task, task'] at tasks
    rw [package, package'] at packages
    constructor
    · intro shared
      rw [taskId, taskId'] at shared
      obtain ⟨hash, version, time⟩ := TaskRow.mk.inj (tasks (Json.str.inj (Option.some.inj shared)))
      exact ⟨hash, version, by rw [at_, at', Option.map_some, Option.map_some, time]⟩
    · intro shared
      rw [packageId, packageId'] at shared
      obtain ⟨hash, time⟩ := PackageRow.mk.inj (packages (Json.str.inj (Option.some.inj shared)))
      exact ⟨hash, by rw [at_, at', Option.map_some, Option.map_some, time]⟩
  · intro agree index order order' covers covers'
    rw [rebuild_eq, rebuild_eq, foldl_insert, foldl_insert]
    refine ⟨update_same created ?_ covers covers' index.runs, update_same created ?_ covers covers' index.tasks,
      update_same created ?_ covers covers' index.packages⟩
    · intro m inside m' inside' rows rows' read read' shared
      obtain ⟨_, at_⟩ := Option.isSome_iff_exists.mp (created m inside)
      obtain ⟨_, at'⟩ := Option.isSome_iff_exists.mp (created m' inside')
      have sameId : m.get? "run_id" = m'.get? "run_id" := by
        rw [(indexed_ok read at_).1, (indexed_ok read' at').1]
        exact congrArg (fun id => some (Json.str id)) shared
      obtain rfl := distinct m inside m' inside' sameId
      obtain rfl := Except.ok.inj (read.symm.trans read')
      rfl
    · intro m inside m' inside' rows rows' read read' shared
      obtain ⟨_, at_⟩ := Option.isSome_iff_exists.mp (created m inside)
      obtain ⟨_, at'⟩ := Option.isSome_iff_exists.mp (created m' inside')
      obtain ⟨-, taskId, -, task, -⟩ := indexed_ok read at_
      obtain ⟨-, taskId', -, task', -⟩ := indexed_ok read' at'
      have sameId : m.get? "task_id" = m'.get? "task_id" := by
        rw [taskId, taskId']
        exact congrArg (fun id => some (Json.str id)) shared
      obtain ⟨hash, version, time⟩ := (agree m inside m' inside' ⟨_, _, read⟩ ⟨_, _, read'⟩).task sameId
      rw [at_, at'] at time
      show rows.task = rows'.task
      rw [task, task', hash, version, Option.some.inj time]
    · intro m inside m' inside' rows rows' read read' shared
      obtain ⟨_, at_⟩ := Option.isSome_iff_exists.mp (created m inside)
      obtain ⟨_, at'⟩ := Option.isSome_iff_exists.mp (created m' inside')
      obtain ⟨-, -, packageId, -, package⟩ := indexed_ok read at_
      obtain ⟨-, -, packageId', -, package'⟩ := indexed_ok read' at'
      have sameId : m.get? "package_id" = m'.get? "package_id" := by
        rw [packageId, packageId']
        exact congrArg (fun id => some (Json.str id)) shared
      obtain ⟨hash, time⟩ := (agree m inside m' inside' ⟨_, _, read⟩ ⟨_, _, read'⟩).package sameId
      rw [at_, at'] at time
      show rows.package = rows'.package
      rw [package, package', hash, Option.some.inj time]

end Insert

def runManifest (runId createdAt : String) : Manifest :=
  .ofEntries [("run_id", .str runId), ("task_id", .str "edit-1"), ("package_id", .str "baseline"),
    ("created_at", .str createdAt)]

/-- Two runs of one task. -/
def morningAndNoon : List Manifest :=
  [runManifest "run-1" "2026-01-01T08:00:00+00:00", runManifest "run-2" "2026-01-01T12:00:00+00:00"]

theorem rebuildable_iff_two_runs : @Rebuildable asciiText morningAndNoon ↔
    ∀ m ∈ morningAndNoon, ∀ m' ∈ morningAndNoon, @Accepted asciiText m → @Accepted asciiText m' → @Agree asciiText m m' := by
  refine @rebuildable_iff asciiText morningAndNoon ?_ ?_
  · decide
  · intro m inside m' inside' same
    simp only [morningAndNoon, List.mem_cons, List.not_mem_nil, or_false] at inside inside'
    obtain rfl | rfl := inside <;> obtain rfl | rfl := inside'
    · rfl
    · exact absurd (Json.str.inj (Option.some.inj same)) (by decide)
    · exact absurd (Json.str.inj (Option.some.inj same)) (by decide)
    · rfl

/-- The row of the task says when the run that was inserted last was made. -/
theorem two_runs_not_rebuildable : ¬ @Rebuildable asciiText morningAndNoon := by
  intro same
  let first : String × Manifest := ("", runManifest "run-1" "2026-01-01T08:00:00+00:00")
  let second : String × Manifest := ("", runManifest "run-2" "2026-01-01T12:00:00+00:00")
  have forward : Covers morningAndNoon [first, second] := fun m => Iff.rfl
  have backward : Covers morningAndNoon [second, first] := by
    intro m
    simp [first, second, morningAndNoon, or_comm]
  have tasks := (same ⟨.empty, .empty, .empty⟩ _ _ forward backward).2.1 "edit-1"
  have times := congrArg (Option.map TaskRow.createdAt) tasks
  revert times
  decide

end AgentGym.Storage
