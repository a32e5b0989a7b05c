import AgentGym.Core.Splits
import AgentGym.Runner.Record
import AgentGym.Scenarios.Seeds

/-!
# Materializing a split

Every allocation of a split becomes a task and a snapshot in a file that the task refers
to. The files are those below the snapshot root, by their references. The allocations
are distinct and so are the references, so no snapshot is written over another.
-/

namespace AgentGym.Scenarios

open AgentGym.Core (SplitEntry SplitSpec)
open World

inductive CurriculumError where
  | moduleNotFound (scenarioId : String)
  | value (message : String)
  | key (message : String)
  | generation (e : PyError)

section Materialize

variable [PyText]

def snapshotText (snapshot : WorldSnapshot) : String :=
  JsonText.dumpsIndented (fun q => PyText.repr (.float q)) (Runner.snapshotDump snapshot) ++ "\n"

/-- `write_snapshot`. -/
def writeSnapshot (files : Dict String String) (reference : String) (snapshot : WorldSnapshot) : Dict String String :=
  files.set reference (snapshotText snapshot)

/-! ### Generators -/

/-- `_module_generators` of the module of that name. -/
def moduleGenerators : String → Option (List Family)
  | "retrieval" => some [.retrieval]
  | "edit_page" => some [.editPage]
  | "preservation" => some [.preservation]
  | "concurrency" | "concurrent_edit" => some [.concurrentEdit]
  | "permissions" => some [.permissions]
  | "_common" | "__init__" => some []
  | _ => none

def register (generators : Dict String Family) (family : Family) : Except CurriculumError (Dict String Family) :=
  if generators.contains family.id then .error (.value s!"scenario generator already registered: {family.id}")
  else .ok (generators.set family.id family)

/-- `_load_generators`, with the modules loaded so far. -/
def loadGenerators : List SplitEntry → (loaded : List String) → Dict String Family →
    Except CurriculumError (Dict String Family)
  | [], _, generators => .ok generators
  | entry :: entries, loaded, generators =>
    if entry.scenarioId ∈ loaded then loadGenerators entries loaded generators
    else match moduleGenerators entry.scenarioId with
      | none => .error (.moduleNotFound entry.scenarioId)
      | some families => do
        let generators ← families.foldlM register generators
        loadGenerators entries (entry.scenarioId :: loaded) generators

/-- A module of each family has been loaded or has not, and its generator is there or is not. -/
def Loaded (loaded : List String) (generators : Dict String Family) : Prop :=
  ∀ family : Family, generators.get? family.id = if family.id ∈ loaded then some family else none

omit [PyText] in
theorem moduleGenerators_id (family : Family) : moduleGenerators family.id = some [family] := by cases family <;> rfl

omit [PyText] in
theorem register_loaded {loaded : List String} {generators : Dict String Family} (state : Loaded loaded generators)
    {family : Family} (fresh : family.id ∉ loaded) :
    register generators family = .ok (generators.set family.id family) ∧
      Loaded (family.id :: loaded) (generators.set family.id family) := by
  have free := state family
  rw [if_neg fresh] at free
  refine ⟨if_neg (by simp [Dict.contains, free]), fun other => ?_⟩
  by_cases same : other = family
  · subst same
    simp
  · have ids : other.id ≠ family.id := fun equal => same (Family.id_injective equal)
    rw [Dict.get?_set_ne _ _ ids, state other]
    simp [ids]

omit [PyText] in
theorem loadGenerators_ok {entries : List SplitEntry} (families : ∀ entry ∈ entries, ∃ family : Family, entry.scenarioId = family.id)
    {loaded : List String} {generators : Dict String Family} (state : Loaded loaded generators) :
    ∃ generators' loaded', loadGenerators entries loaded generators = .ok generators' ∧ Loaded loaded' generators' ∧
      loaded ⊆ loaded' ∧ ∀ entry ∈ entries, entry.scenarioId ∈ loaded' := by
  induction entries generalizing loaded generators with
  | nil => exact ⟨generators, loaded, rfl, state, List.Subset.refl _, by simp⟩
  | cons entry entries ih =>
    obtain ⟨⟨family, named⟩, rest⟩ := List.forall_mem_cons.mp families
    by_cases before : entry.scenarioId ∈ loaded
    · obtain ⟨generators', loaded', done, state', kept, all⟩ := ih rest state
      exact ⟨generators', loaded', (if_pos before).trans done, state', kept, List.forall_mem_cons.mpr ⟨kept before, all⟩⟩
    · obtain ⟨registered, added⟩ := register_loaded state (named ▸ before)
      obtain ⟨generators', loaded', done, state', kept, all⟩ := ih rest added
      refine ⟨generators', loaded', ?_, state', fun _ member => kept (List.mem_cons_of_mem _ member), ?_⟩
      · rw [loadGenerators, if_neg before, named, moduleGenerators_id]
        show (([family].foldlM register generators) >>= loadGenerators entries (family.id :: loaded)) = _
        rw [List.foldlM_cons, registered]
        exact done
      · exact List.forall_mem_cons.mpr ⟨named ▸ kept List.mem_cons_self, all⟩

/-! ### Tasks -/

variable (rng fixtures : Int → Random) (splitName : String)

def generateAll (generators : Dict String Family) :
    List (String × Int) → Dict String String → Except CurriculumError (Dict String String × List Task)
  | [], files => .ok (files, [])
  | (scenarioId, seed) :: rest, files =>
    match generators.get? scenarioId with
    | none =>
      let name := PyText.repr (.str scenarioId)
      .error (.key s!"no generator for scenario {name}")
    | some family => do
      let g ← (generate (rng seed) (fixtures seed) seed family).mapError .generation
      let (files, tasks) ← generateAll generators rest (writeSnapshot files g.task.initialSnapshotRef g.snapshot)
      pure (files, { g.task with split := splitName } :: tasks)

/-- The tasks, and the files afterwards. -/
def materialize (spec : SplitSpec) (files : Dict String String) : Except CurriculumError (Dict String String × List Task) := do
  let generators ← loadGenerators spec.entries [] .empty
  generateAll rng fixtures splitName generators spec.iterSeeded files

/-- What the family of an allocation makes of its seed. -/
def MadeFrom (allocation : String × Int) (g : Generated) : Prop :=
  ∃ family : Family, allocation.1 = family.id ∧
    generate (rng allocation.2) (fixtures allocation.2) allocation.2 family = .ok g ∧ Stamped family allocation.2 g

/-- The file that a generated task brings with it. -/
def snapshotFile (g : Generated) : String × String := (g.task.initialSnapshotRef, snapshotText g.snapshot)

theorem generateAll_ok {generators : Dict String Family} {allocations : List (String × Int)}
    (known : ∀ a ∈ allocations, ∃ family : Family, a.1 = family.id ∧ generators.get? a.1 = some family)
    (files : Dict String String) : ∃ made : List Generated, List.Forall₂ (MadeFrom rng fixtures) allocations made ∧
      generateAll rng fixtures splitName generators allocations files =
        .ok (files.update (made.map snapshotFile), made.map fun g => { g.task with split := splitName }) := by
  induction allocations generalizing files with
  | nil => exact ⟨[], .nil, rfl⟩
  | cons allocation rest ih =>
    obtain ⟨⟨family, named, found⟩, later⟩ := List.forall_mem_cons.mp known
    obtain ⟨g, generated, stamped⟩ := exists_stamped (rng allocation.2) (fixtures allocation.2) allocation.2 family
    obtain ⟨made, each, done⟩ := ih later (writeSnapshot files g.task.initialSnapshotRef g.snapshot)
    refine ⟨g :: made, .cons ⟨family, named, generated, stamped⟩ each, ?_⟩
    obtain ⟨scenarioId, seed⟩ := allocation
    simp only [generateAll, found, generated, Except.mapError, ok_bind, done]
    rfl

/-- The id that the task of an allocation gets. -/
def allocationId (allocation : String × Int) : String := s!"{allocation.1}-{paddedSeed allocation.2}"

def Named (allocation : String × Int) : Prop := ∃ family : Family, allocation.1 = family.id

omit [PyText] in
theorem allocationId_injective {a b : String × Int} (left : Named a) (right : Named b)
    (same : allocationId a = allocationId b) : a = b := by
  obtain ⟨family, name⟩ := left
  obtain ⟨family', name'⟩ := right
  unfold allocationId at same
  rw [name, name'] at same
  obtain ⟨rfl, seeds⟩ := taskId_injective same
  exact Prod.ext (name.trans name'.symm) seeds

variable {rng fixtures}

theorem made_ids {allocations : List (String × Int)} {made : List Generated}
    (each : List.Forall₂ (MadeFrom rng fixtures) allocations made) :
    made.map (fun g => g.task.id) = allocations.map allocationId ∧
      made.map (fun g => g.task.initialSnapshotRef) = allocations.map fun a => "snapshots/" ++ allocationId a ++ ".json" := by
  induction each with
  | nil => exact ⟨rfl, rfl⟩
  | cons first each ih =>
    obtain ⟨family, named, -, stamped⟩ := first
    rw [List.map_cons, List.map_cons, List.map_cons, List.map_cons, ih.1, ih.2, stamped.id, stamped.reference, snapshotRef_eq,
      allocationId, named]
    exact ⟨rfl, rfl⟩

theorem made_nodup {allocations : List (String × Int)} {made : List Generated}
    (each : List.Forall₂ (MadeFrom rng fixtures) allocations made) (nodup : allocations.Nodup)
    (named : ∀ a ∈ allocations, Named a) :
    (made.map fun g => g.task.id).Nodup ∧ (made.map fun g => g.task.initialSnapshotRef).Nodup := by
  rw [(made_ids each).1, (made_ids each).2]
  constructor
  · exact nodup.map_on fun a left b right same => allocationId_injective (named a left) (named b right) same
  · exact nodup.map_on fun a left b right same =>
      allocationId_injective (named a left) (named b right) (reference_injective same)

/-- The task of an allocation, and its snapshot in the file it refers to. -/
def Intact (rng fixtures : Int → Random) (splitName : String) (files : Dict String String) (allocation : String × Int)
    (task : Task) : Prop :=
  ∃ (family : Family) (g : Generated), allocation.1 = family.id ∧
    generate (rng allocation.2) (fixtures allocation.2) allocation.2 family = .ok g ∧
    task = { g.task with split := splitName } ∧ g.snapshot.id = task.id ∧
    files.get? task.initialSnapshotRef = some (snapshotText g.snapshot)

/-- A valid split of the families' allocations is materialized, with every snapshot in its own file. -/
theorem materialize_intact {spec : SplitSpec} (valid : spec.validate = .ok ())
    (families : ∀ entry ∈ spec.entries, ∃ family : Family, entry.scenarioId = family.id) (rng fixtures : Int → Random)
    (splitName : String) (files : Dict String String) :
    ((spec.iterSeeded.length : Int) = spec.totalCount ∧ spec.iterSeeded.Nodup ∧
      ∃ blocks, spec.iterSeeded = blocks.flatten ∧
        List.Forall₂ (fun entry block => block.map Prod.fst = List.replicate block.length entry.scenarioId ∧
          (block.length : Int) = entry.count ∧ entry.Declares (block.map Prod.snd)) spec.entries blocks) ∧
    ∃ files' tasks, materialize rng fixtures splitName spec files = .ok (files', tasks) ∧
      List.Forall₂ (Intact rng fixtures splitName files') spec.iterSeeded tasks ∧
      (tasks.map (·.id)).Nodup ∧ (tasks.map (·.initialSnapshotRef)).Nodup ∧
      ∀ reference, reference ∉ tasks.map (·.initialSnapshotRef) → files'.get? reference = files.get? reference := by
  have nodup := (SplitSpec.validate_ok.mp valid).2
  refine ⟨⟨SplitSpec.iterSeeded_length valid, nodup, SplitSpec.iterSeeded_blocks valid⟩, ?_⟩
  have nothing : Loaded [] Dict.empty := fun family => by simp
  obtain ⟨generators, loaded, loads, state, -, all⟩ := loadGenerators_ok families nothing
  have known : ∀ a ∈ spec.iterSeeded, ∃ family : Family, a.1 = family.id ∧ generators.get? a.1 = some family := by
    intro a member
    obtain ⟨entry, listed, inside⟩ := List.mem_flatMap.mp member
    obtain ⟨seed, -, rfl⟩ := List.mem_map.mp inside
    obtain ⟨family, named⟩ := families entry listed
    refine ⟨family, named, ?_⟩
    rw [named, state family, if_pos (named ▸ all entry listed)]
  obtain ⟨made, each, done⟩ := generateAll_ok rng fixtures splitName known files
  obtain ⟨ids, references⟩ := made_nodup each nodup fun a member =>
    (known a member).imp fun _ found => found.1
  have keys : (made.map snapshotFile).map Prod.fst = made.map fun g => g.task.initialSnapshotRef := by
    rw [List.map_map]
    rfl
  have functional := Dict.functional_of_nodup (keys ▸ references)
  have kept : ∀ g ∈ made, (files.update (made.map snapshotFile)).get? g.task.initialSnapshotRef =
      some (snapshotText g.snapshot) := fun g member =>
    Dict.get?_update_of_mem functional (List.mem_map_of_mem (f := snapshotFile) member) files
  refine ⟨files.update (made.map snapshotFile), made.map fun g => { g.task with split := splitName }, ?_, ?_, ?_, ?_, ?_⟩
  · rw [materialize, loads, ok_bind]
    exact done
  · rw [List.forall₂_map_right_iff]
    refine ((List.forall₂_and_left made spec.iterSeeded).mpr ⟨kept, each.flip⟩).flip.imp ?_
    rintro allocation g ⟨there, family, named, generated, stamped⟩
    exact ⟨family, g, named, generated, rfl, stamped.snapshot.trans stamped.id.symm, there⟩
  · rwa [List.map_map]
  · rwa [List.map_map]
  · intro reference other
    rw [List.map_map] at other
    exact Dict.get?_update_of_not_mem (keys ▸ other) files

end Materialize

/-! ### A small split -/

/-- Listed seeds of either sign, and a range of another family. -/
def smallSplit : SplitSpec := ⟨[⟨"retrieval", 2, none, some [7, -7]⟩, ⟨"edit_page", 2, some [-1, 3], none⟩]⟩

theorem materialize_small :
    ∃ files tasks, @materialize asciiText (fun _ _ => 0) (fun _ _ => 0) "test" smallSplit .empty = .ok (files, tasks) ∧
      smallSplit.iterSeeded = [("retrieval", 7), ("retrieval", -7), ("edit_page", -1), ("edit_page", 0)] ∧
      (tasks.map (·.initialSnapshotRef)).Nodup := by
  have families : ∀ entry ∈ smallSplit.entries, ∃ family : Family, entry.scenarioId = family.id := by
    simp only [smallSplit, List.forall_mem_cons]
    exact ⟨⟨.retrieval, rfl⟩, ⟨.editPage, rfl⟩, by simp⟩
  obtain ⟨-, files, tasks, done, -, -, references, -⟩ :=
    @materialize_intact asciiText smallSplit rfl families (fun _ _ => 0) (fun _ _ => 0) "test" .empty
  exact ⟨files, tasks, done, rfl, references⟩

end AgentGym.Scenarios
