import Mathlib.Algebra.Order.Ring.Int
import Mathlib.Data.List.Dedup
import Mathlib.Data.List.Sort
import AgentGym.Lib.Text

/-!
# Splits

A split allots seeds to scenario families. An entry lists its seeds, or counts them from the
start of a range. The checks of a manifest make the allotments distinct.
-/

namespace AgentGym.Core

structure SplitEntry where
  scenarioId : String
  count : Int
  seedRange : Option (List Int)
  seeds : Option (List Int)

namespace SplitEntry

/-- The checks of an entry: of `count` alone, then `validate_seed_source`. -/
def validate (entry : SplitEntry) : Except String Unit :=
  if entry.count ≤ 0 then .error "Input should be greater than 0"
  else match entry.seedRange, entry.seeds with
    | none, none | some _, some _ => .error "provide exactly one of seed_range or seeds"
    | none, some seeds =>
      if seeds.length ≠ entry.count then .error "count must equal the number of explicit seeds"
      else if seeds.dedup.length ≠ seeds.length then .error "explicit seeds must be unique"
      else .ok ()
    | some [start, stop], none =>
      if stop < start then .error "seed_range end must be greater than or equal to start"
      else if stop - start + 1 < entry.count then .error "count exceeds the inclusive seed_range"
      else .ok ()
    | some _, none => .error "seed_range must contain inclusive start and end values"

def resolvedSeeds (entry : SplitEntry) : List Int :=
  match entry.seeds with
  | some seeds => seeds
  | none =>
    let start := (entry.seedRange.bind List.head?).getD 0
    (List.range entry.count.toNat).map fun i : Nat => start + (i : Int)

/-- Seeds that the entry declares: its list, or numbers of its range in order. -/
def Declares (entry : SplitEntry) (seeds : List Int) : Prop :=
  entry.seeds = some seeds ∨ ∃ start stop, entry.seedRange = some [start, stop] ∧ seeds.Pairwise (· < ·) ∧
    ∀ seed ∈ seeds, start ≤ seed ∧ seed ≤ stop

theorem resolvedSeeds_declared {entry : SplitEntry} (valid : entry.validate = .ok ()) :
    (entry.resolvedSeeds.length : Int) = entry.count ∧ entry.Declares entry.resolvedSeeds := by
  unfold validate at valid
  split at valid
  · cases valid
  rename_i positive
  unfold resolvedSeeds Declares
  split at valid
  · cases valid
  · cases valid
  · rename_i seeds range listed
    split at valid
    · cases valid
    rename_i counted
    rw [listed]
    exact ⟨not_not.mp counted, Or.inl rfl⟩
  · rename_i start stop range unlisted
    split at valid
    · cases valid
    split at valid
    · cases valid
    rename_i room
    rw [unlisted, range]
    refine ⟨by simp; omega, Or.inr ⟨start, stop, rfl, ?_, ?_⟩⟩
    · refine List.pairwise_map.mpr (List.pairwise_lt_range.imp ?_)
      intro i j less
      simpa using less
    · intro seed member
      obtain ⟨i, inside, rfl⟩ := List.mem_map.mp member
      have bound := List.mem_range.mp inside
      simp only [Option.bind_some, List.head?_cons, Option.getD_some]
      omega
  · cases valid

end SplitEntry

structure SplitSpec where
  entries : List SplitEntry

namespace SplitSpec

def iterSeeded (spec : SplitSpec) : List (String × Int) :=
  spec.entries.flatMap fun entry => entry.resolvedSeeds.map fun seed => (entry.scenarioId, seed)

def totalCount (spec : SplitSpec) : Int := (spec.entries.map (·.count)).sum

/-- The allocations that were already seen. -/
def duplicates : (seen : List (String × Int)) → List (String × Int) → List (String × Int)
  | _, [] => []
  | seen, allocation :: rest =>
    if allocation ∈ seen then allocation :: duplicates (allocation :: seen) rest
    else duplicates (allocation :: seen) rest

/-- The checks of the entries, then `validate_unique_allocations`. -/
def validate [PyText] (spec : SplitSpec) : Except String Unit := do
  forM spec.entries SplitEntry.validate
  let repeated := ((duplicates [] spec.iterSeeded).dedup).insertionSort fun a b => a.1 < b.1 ∨ (a.1 = b.1 ∧ a.2 ≤ b.2)
  if repeated = [] then pure ()
  else
    let formatted := ", ".intercalate (repeated.map fun (scenarioId, seed) =>
      let name := PyText.repr (.str scenarioId)
      s!"({name}, {seed})")
    throw s!"duplicate (scenario_id, seed) allocations: {formatted}"

theorem duplicates_eq_nil {seen allocations : List (String × Int)} :
    duplicates seen allocations = [] ↔ allocations.Nodup ∧ ∀ a ∈ allocations, a ∉ seen := by
  induction allocations generalizing seen with
  | nil => simp [duplicates]
  | cons a rest ih =>
    rw [duplicates]
    split
    · rename_i before
      simp [before]
    · rename_i fresh
      rw [ih, List.nodup_cons, List.forall_mem_cons]
      constructor
      · rintro ⟨nodup, later⟩
        refine ⟨⟨fun again => later a again List.mem_cons_self, nodup⟩, fresh, fun b member => ?_⟩
        exact List.not_mem_of_not_mem_cons (later b member)
      · rintro ⟨⟨once, nodup⟩, -, later⟩
        refine ⟨nodup, fun b member seen => ?_⟩
        rcases List.mem_cons.mp seen with rfl | before
        · exact once member
        · exact later b member before

variable [PyText] {spec : SplitSpec}

omit [PyText] in
theorem forM_validate {entries : List SplitEntry} :
    forM entries SplitEntry.validate = .ok () ↔ ∀ entry ∈ entries, entry.validate = .ok () := by
  induction entries with
  | nil => simp [pure, Except.pure]
  | cons entry entries ih =>
    rw [List.forM_cons, bind_eq_ok_iff, List.forall_mem_cons, ← ih]
    constructor
    · rintro ⟨⟨⟩, first, rest⟩
      exact ⟨first, rest⟩
    · rintro ⟨first, rest⟩
      exact ⟨(), first, rest⟩

theorem validate_ok : spec.validate = .ok () ↔ (∀ entry ∈ spec.entries, entry.validate = .ok ()) ∧ spec.iterSeeded.Nodup := by
  have none : ∀ {le : String × Int → String × Int → Prop} [DecidableRel le],
      ((duplicates [] spec.iterSeeded).dedup).insertionSort le = [] ↔ spec.iterSeeded.Nodup := by
    intro le _
    rw [← List.length_eq_zero_iff, List.length_insertionSort, List.length_eq_zero_iff, List.dedup_eq_nil, duplicates_eq_nil]
    simp
  rw [validate, bind_eq_ok_iff]
  simp only [checked_eq_ok_iff, none]
  constructor
  · rintro ⟨⟨⟩, entries, nodup, -⟩
    exact ⟨forM_validate.mp entries, nodup⟩
  · rintro ⟨entries, nodup⟩
    exact ⟨(), forM_validate.mpr entries, nodup, rfl⟩

/-- One block of pairs for each entry, with as many seeds as it counts and only declared ones. -/
theorem iterSeeded_blocks (valid : spec.validate = .ok ()) : ∃ blocks, spec.iterSeeded = blocks.flatten ∧
    List.Forall₂ (fun entry block => block.map Prod.fst = List.replicate block.length entry.scenarioId ∧
      (block.length : Int) = entry.count ∧ entry.Declares (block.map Prod.snd)) spec.entries blocks := by
  refine ⟨spec.entries.map fun entry => entry.resolvedSeeds.map fun seed => (entry.scenarioId, seed), rfl, ?_⟩
  rw [List.forall₂_map_right_iff, List.forall₂_same]
  intro entry member
  obtain ⟨counted, declared⟩ := SplitEntry.resolvedSeeds_declared ((validate_ok.mp valid).1 entry member)
  refine ⟨?_, by simpa using counted, ?_⟩
  · simp [Function.comp_def]
  · simpa [Function.comp_def] using declared

theorem iterSeeded_length (valid : spec.validate = .ok ()) : (spec.iterSeeded.length : Int) = spec.totalCount := by
  have each := (validate_ok.mp valid).1
  unfold iterSeeded totalCount
  revert each
  induction spec.entries with
  | nil => exact fun _ => rfl
  | cons entry entries ih =>
    intro each
    obtain ⟨first, rest⟩ := List.forall_mem_cons.mp each
    have counted := (SplitEntry.resolvedSeeds_declared first).1
    rw [List.flatMap_cons, List.length_append, List.length_map, List.map_cons, List.sum_cons, ← ih rest, ← counted]
    rfl

end SplitSpec

end AgentGym.Core
