import AgentGym.Lib.Select
import AgentGym.Storage.Index

/-!
# Queries of the index

Both queries answer from the table of runs, newest first. They see the last manifest that
was accepted for each run, and not the order in which those of different runs came.
-/

namespace AgentGym.Storage

/-! ### The order -/

/-- `ORDER BY created_at DESC, run_id DESC`. -/
def NewestFirst (a b : String × RunRow) : Prop :=
  b.2.createdAt ≤ a.2.createdAt ∧ (a.2.createdAt = b.2.createdAt → b.1 ≤ a.1)

instance : DecidableRel NewestFirst := fun a b =>
  inferInstanceAs (Decidable (b.2.createdAt ≤ a.2.createdAt ∧ (a.2.createdAt = b.2.createdAt → b.1 ≤ a.1)))

instance newestFirst_total : Std.Total NewestFirst := ⟨by
  intro a b
  by_cases same : a.2.createdAt = b.2.createdAt
  · have equal : ∀ {s t : String}, s = t → s ≤ t := fun eq => eq ▸ String.le_refl _
    have either := String.le_total b.1 a.1
    exact either.imp (fun le => ⟨equal same.symm, fun _ => le⟩) fun le => ⟨equal same, fun _ => le⟩
  · have either := String.le_total b.2.createdAt a.2.createdAt
    exact either.imp (fun le => ⟨le, fun eq => absurd eq same⟩) fun le => ⟨le, fun eq => absurd eq.symm same⟩⟩

instance newestFirst_trans : IsTrans (String × RunRow) NewestFirst := ⟨by
  rintro a b c ⟨ab, idab⟩ ⟨bc, idbc⟩
  refine ⟨String.le_trans bc ab, fun same => ?_⟩
  have here : a.2.createdAt = b.2.createdAt := String.le_antisymm (by rw [same]; exact bc) ab
  exact String.le_trans (idbc (here.symm.trans same)) (idab here)⟩

theorem newestFirst_apart (a b : String × RunRow) (ab : NewestFirst a b) (ba : NewestFirst b a) : a.1 = b.1 := by
  have same : a.2.createdAt = b.2.createdAt := String.le_antisymm ba.1 ab.1
  exact String.le_antisymm (ba.2 same.symm) (ab.2 same)

/-! ### The queries -/

/-- The rows `runs_by_package` returns, with their run ids. -/
def runsByPackage (packageId : String) (index : Index) : List (String × RunRow) :=
  index.runs.select NewestFirst fun e => e.2.packageId == packageId

def latestRunIds (limit : Int) (index : Index) : Except String (List String) :=
  if limit < 0 then .error "limit must be non-negative"
  else if fitsInteger (some limit) then .ok (((index.runs.select NewestFirst fun _ => true).take limit.toNat).map Prod.fst)
  else .error "Python int too large to convert to SQLite INTEGER"

/-- The tables as `init_db` creates them. -/
def initDb : Index := ⟨.empty, .empty, .empty⟩

section Answers

variable [PyText]

/-- What the last manifest accepted for a run says of it. -/
def lastRow (order : List (String × Manifest)) (runId : String) : Option RunRow :=
  ((rowsOf order).reverse.find? fun rows => rows.runId == runId).map Indexed.run

theorem rebuild_runs (order : List (String × Manifest)) (runId : String) :
    (rebuild initDb order).runs.get? runId = lastRow order runId := by
  have inserted : ∀ rows : List Indexed, (rows.foldl Index.insert initDb).runs.get? runId =
      (rows.reverse.find? fun row => row.runId == runId).map Indexed.run := by
    intro rows
    induction rows using List.reverseRecOn with
    | nil => rfl
    | append_singleton rows row ih =>
      rw [List.foldl_append, List.reverse_append]
      show (Dict.set _ _ _).get? runId = (List.find? _ (row :: rows.reverse)).map Indexed.run
      rw [Dict.get?_set, List.find?_cons]
      by_cases same : runId = row.runId
      · rw [if_pos same, same, beq_self_eq_true]
        rfl
      · rw [if_neg same, beq_eq_false_iff_ne.mpr (Ne.symm same)]
        exact ih
  rw [rebuild_eq, inserted]
  rfl

/-- Whatever manifests were inserted, all runs stand in one list, newest first, each as its last accepted manifest has it;
the runs of a package are those of the list that it made, and the latest runs are its first ones. -/
theorem queries_exact (order : List (String × Manifest)) :
    ∃ all : List (String × RunRow), (all.map Prod.fst).Nodup ∧ all.Pairwise NewestFirst ∧
      (∀ runId row, (runId, row) ∈ all ↔ lastRow order runId = some row) ∧
      (∀ packageId, runsByPackage packageId (rebuild initDb order) = all.filter fun e => e.2.packageId == packageId) ∧
      ∀ limit : Int, 0 ≤ limit → limit ≤ 9223372036854775807 →
        latestRunIds limit (rebuild initDb order) = .ok ((all.map Prod.fst).take limit.toNat) := by
  refine ⟨(rebuild initDb order).runs.select NewestFirst fun _ => true, Dict.select_keys_nodup, Dict.select_pairwise, ?_, ?_, ?_⟩
  · intro runId row
    rw [Dict.mem_select, rebuild_runs]
    exact and_iff_left rfl
  · intro packageId
    rw [Dict.select_filter newestFirst_apart]
    rfl
  · intro limit nonneg small
    have fits : fitsInteger (some limit) = true := by
      unfold fitsInteger
      rw [Bool.and_eq_true, decide_eq_true_eq, decide_eq_true_eq]
      omega
    rw [latestRunIds, if_neg (not_lt.mpr nonneg), if_pos fits, List.map_take]

/-- The answers do not depend on the order in which an index was rebuilt, even where its tables do. -/
theorem queries_rebuildable {manifests : List Manifest} (created : ∀ m ∈ manifests, (m.get? "created_at").isSome)
    (distinct : ∀ m ∈ manifests, ∀ m' ∈ manifests, m.get? "run_id" = m'.get? "run_id" → m = m')
    {order order' : List (String × Manifest)} (covers : Covers manifests order) (covers' : Covers manifests order')
    (index : Index) :
    (∀ packageId, runsByPackage packageId (rebuild index order) = runsByPackage packageId (rebuild index order')) ∧
      ∀ limit, latestRunIds limit (rebuild index order) = latestRunIds limit (rebuild index order') := by
  have same : ∀ id, (rebuild index order).runs.get? id = (rebuild index order').runs.get? id := by
    intro id
    rw [rebuild_eq, rebuild_eq, foldl_insert, foldl_insert]
    refine update_same created ?_ covers covers' index.runs id
    intro m inside m' inside' rows rows' read read' shared
    obtain ⟨_, at_⟩ := Option.isSome_iff_exists.mp (created m inside)
    obtain ⟨_, at'⟩ := Option.isSome_iff_exists.mp (created m' inside')
    have sameId : m.get? "run_id" = m'.get? "run_id" := by
      rw [(indexed_ok read at_).1, (indexed_ok read' at').1]
      exact congrArg (fun id => some (Json.str id)) shared
    obtain rfl := distinct m inside m' inside' sameId
    obtain rfl := Except.ok.inj (read.symm.trans read')
    rfl
  have selected : ∀ keep : String × RunRow → Bool, (rebuild index order).runs.select NewestFirst keep =
      (rebuild index order').runs.select NewestFirst keep := fun keep => Dict.select_congr newestFirst_apart same
  refine ⟨fun packageId => selected _, fun limit => ?_⟩
  unfold latestRunIds
  rw [selected]

end Answers

theorem queries_rebuildable_two_runs :
    runsByPackage "baseline" (@rebuild asciiText initDb (morningAndNoon.map fun m => ("", m))) =
      runsByPackage "baseline" (@rebuild asciiText initDb (morningAndNoon.reverse.map fun m => ("", m))) := by
  have distinct : ∀ m ∈ morningAndNoon, ∀ m' ∈ morningAndNoon, m.get? "run_id" = m'.get? "run_id" → m = m' := by
    intro m inside m' inside' same
    simp only [morningAndNoon, List.mem_cons, List.not_mem_nil, or_false] at inside inside'
    obtain rfl | rfl := inside <;> obtain rfl | rfl := inside'
    · rfl
    · exact absurd (Json.str.inj (Option.some.inj same)) (by decide)
    · exact absurd (Json.str.inj (Option.some.inj same)) (by decide)
    · rfl
  have covers : ∀ ms : List Manifest, (∀ m, m ∈ ms ↔ m ∈ morningAndNoon) → Covers morningAndNoon (ms.map fun m => ("", m)) := by
    intro ms same m
    rw [List.map_map]
    simpa [Function.comp_def] using same m
  exact (@queries_rebuildable asciiText morningAndNoon (by decide) distinct _ _ (covers _ fun _ => Iff.rfl)
    (covers _ fun _ => List.mem_reverse) initDb).1 "baseline"

end AgentGym.Storage
