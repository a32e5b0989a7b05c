import Mathlib.Data.List.Sort
import AgentGym.Lib.Json

/-!
# State diffs

`compare` reports, for each resource kind, which ids were created, deleted or updated and
what changed in them. A kind that is not a mapping counts as empty, and two resources
that are not both mappings always count as updated.
-/

namespace AgentGym.Verifier

abbrev Resources := Dict String Json

/-- Rounding to the nearest double, for arithmetic that involves floats. -/
class PyFloat where
  round : Rat → Rat

/-- Arithmetic on integers alone, for closed examples. -/
@[reducible] def integers : PyFloat := ⟨id⟩

/-- `_collection`. -/
def collection (resources : Resources) (kind : String) : Dict String Json :=
  match resources.get? kind with
  | some (.obj kvs) => Dict.ofEntries kvs
  | _ => Dict.empty

def sortIds (ids : List String) : List String := ids.insertionSort (· ≤ ·)

/-- `sorted(set(a) | set(b))`. -/
def unionIds (a b : List String) : List String := sortIds (a ++ b.filter fun k => !a.contains k)

structure FieldChange where
  old : Option Json
  new : Option Json

/-- `_field_changes`. -/
def fieldChanges : Json → Json → List (String × FieldChange)
  | .obj initial, .obj final =>
    (unionIds (Dict.ofEntries initial).keys (Dict.ofEntries final).keys).filterMap fun field =>
      if Json.optEqBy Json.pyScalarEq (initial.lookup field) (final.lookup field) then none
      else some (field, ⟨initial.lookup field, final.lookup field⟩)
  | initial, final => [("value", ⟨some initial, some final⟩)]

/-- The value of a number that is not a boolean. -/
def numeric? : Json → Option Rat
  | .int i => some i
  | .float q => some q
  | .negZero => some 0
  | _ => none

section Numbers

variable [PyFloat]

/-- The sum of two integers is exact; a float rounds. -/
def addNumbers : Json → Int → Option Json
  | .int i, delta => some (.int (i + delta))
  | .float q, delta => some (.float (PyFloat.round (q + PyFloat.round delta)))
  | .negZero, delta => some (.float (PyFloat.round delta))
  | _, _ => none

def asFloat : Json → Option Rat
  | .int i => some (PyFloat.round i)
  | v => numeric? v

def versionDelta (initial final : Json) : Option Json :=
  match initial, final with
  | .obj _, .obj _ =>
    match initial.get? "version", final.get? "version" with
    | some (.int old), some (.int new) => some (.int (new - old))
    | some old, some new =>
      match asFloat old, asFloat new with
      | some x, some y => some (.float (PyFloat.round (y - x)))
      | _, _ => none
    | _, _ => none
  | _, _ => none

structure ResourceChange where
  changedFields : List (String × FieldChange)
  versionDelta : Option Json

structure KindDiff where
  created : List String
  deleted : List String
  updated : List String
  changes : List (String × ResourceChange)

def resourceChange (initial final : Dict String Json) (id : String) : Option (String × ResourceChange) :=
  match initial.get? id, final.get? id with
  | some old, some new =>
    match fieldChanges old new with
    | [] => none
    | changes => some (id, ⟨changes, versionDelta old new⟩)
  | _, _ => none

def kindDiff (initial final : Dict String Json) : KindDiff :=
  let changes := (sortIds (initial.keys.filter final.contains)).filterMap (resourceChange initial final)
  { created := sortIds (final.keys.filter fun id => !initial.contains id)
    deleted := sortIds (initial.keys.filter fun id => !final.contains id)
    updated := changes.map Prod.fst
    changes }

def compare (initial final : Resources) : Dict String KindDiff :=
  Dict.ofEntries ((unionIds initial.keys final.keys).map fun kind =>
    (kind, kindDiff (collection initial kind) (collection final kind)))

/-! `new_version - old_version` of an integer and a float converts the integer, which raises when it is too large. -/

inductive OverflowError where
  | intTooLarge

/-- An integer that rounds to no finite double. -/
def beyondFloat (i : Int) : Bool := Nat.pow 2 1024 - Nat.pow 2 970 ≤ i.natAbs

def isFloat : Json → Bool
  | .float _ => true
  | .negZero => true
  | _ => false

def deltaOverflows (initial final : Json) : Bool :=
  match initial.get? "version", final.get? "version" with
  | some (.int old), some new => isFloat new && beyondFloat old
  | some old, some (.int new) => isFloat old && beyondFloat new
  | _, _ => false

/-- The version delta is computed for every resource that changed. -/
def changeRaises (initial final : Dict String Json) (id : String) : Bool :=
  match initial.get? id, final.get? id with
  | some old, some new => !(fieldChanges old new).isEmpty && deltaOverflows old new
  | _, _ => false

def compareRaises (initial final : Resources) : Bool :=
  (unionIds initial.keys final.keys).any fun kind =>
    ((collection initial kind).keys.filter (collection final kind).contains).any
      (changeRaises (collection initial kind) (collection final kind))

/-- `compare` with its exception. -/
def compare? (initial final : Resources) : Except OverflowError (Dict String KindDiff) :=
  if compareRaises initial final then .error .intTooLarge else .ok (compare initial final)

end Numbers

/-- `unchanged`: present in both and equal. -/
def unchanged (initial final : Resources) (id kind : String) : Bool :=
  match (collection initial kind).get? id, (collection final kind).get? id with
  | some old, some new => old.pyEq new
  | _, _ => false

/-! ### What a diff says -/

/-- Two lookups of a page that `compare` does not report. -/
def Unreported (old new : Option Json) : Prop :=
  (old = none ∧ new = none) ∨
    ∃ a b, old = some a ∧ new = some b ∧ a.isObj = true ∧ b.isObj = true ∧ a.pyEq b = true

theorem mem_sortIds {ids : List String} {k : String} : k ∈ sortIds ids ↔ k ∈ ids :=
  List.mem_insertionSort _

theorem mem_unionIds {a b : List String} {k : String} : k ∈ unionIds a b ↔ k ∈ a ∨ k ∈ b := by
  rw [unionIds, mem_sortIds, List.mem_append, List.mem_filter]
  by_cases h : k ∈ a <;> simp [h]

theorem fieldChanges_eq_nil {old new : Json} :
    fieldChanges old new = [] ↔ old.isObj = true ∧ new.isObj = true ∧ old.pyEq new = true := by
  cases old with
  | obj initial =>
    cases new with
    | obj final =>
      simp only [fieldChanges, Json.isObj, true_and, Json.pyEq, Json.eqBy_obj, List.filterMap_eq_nil_iff]
      constructor
      · intro none field
        by_cases named : field ∈ unionIds (Dict.ofEntries initial).keys (Dict.ofEntries final).keys
        · by_contra different
          simpa [different] using none field named
        · rw [mem_unionIds, Dict.mem_keys_iff, Dict.mem_keys_iff, Dict.get?_ofEntries, Dict.get?_ofEntries,
            not_or, Option.not_isSome_iff_eq_none, Option.not_isSome_iff_eq_none] at named
          rw [named.1, named.2]
          rfl
      · intro same field _
        simp [same field]
    | _ => simp [fieldChanges, Json.isObj]
  | _ => simp [fieldChanges, Json.isObj]

section Reports

variable [PyFloat]

theorem mem_updated {initial final : Dict String Json} {k : String} :
    k ∈ (kindDiff initial final).updated ↔
      ∃ old new, initial.get? k = some old ∧ final.get? k = some new ∧ fieldChanges old new ≠ [] := by
  simp only [kindDiff, List.mem_map, List.mem_filterMap, mem_sortIds, List.mem_filter, Dict.mem_keys_iff,
    Dict.contains]
  constructor
  · rintro ⟨⟨_, change⟩, ⟨id, _, found⟩, rfl⟩
    unfold resourceChange at found
    split at found
    · rename_i old new left right
      split at found
      · simp at found
      · rename_i changed
        obtain ⟨rfl, -⟩ := Prod.mk.inj (Option.some.inj found)
        exact ⟨old, new, left, right, changed⟩
    · simp at found
  · rintro ⟨old, new, left, right, changed⟩
    refine ⟨(k, ⟨fieldChanges old new, versionDelta old new⟩), ⟨k, by simp [left, right], ?_⟩, rfl⟩
    simp only [resourceChange, left, right]

theorem mem_reported_iff {initial final : Dict String Json} {k : String} :
    (k ∈ (kindDiff initial final).created ∨ k ∈ (kindDiff initial final).deleted ∨
      k ∈ (kindDiff initial final).updated) ↔ ¬ Unreported (initial.get? k) (final.get? k) := by
  rw [mem_updated]
  simp only [kindDiff, mem_sortIds, List.mem_filter, Dict.mem_keys_iff, Dict.contains, Unreported]
  cases left : initial.get? k with
  | none => cases right : final.get? k <;> simp
  | some old =>
    cases right : final.get? k with
    | none => simp
    | some new => simp [fieldChanges_eq_nil]

omit [PyFloat] in
theorem collection_absent {resources : Resources} {kind : String} (absent : kind ∉ resources.keys) :
    collection resources kind = Dict.empty := by
  have none : resources.get? kind = none := by
    rw [← Option.not_isSome_iff_eq_none, ← Dict.mem_keys_iff]
    exact absent
  rw [collection, none]

omit [PyFloat] in
theorem compareRaises_iff {initial final : Resources} : compareRaises initial final = true ↔
    ∃ kind id old new, (collection initial kind).get? id = some old ∧ (collection final kind).get? id = some new ∧
      old.pyEq new = false ∧ deltaOverflows old new = true := by
  simp only [compareRaises, List.any_eq_true, mem_unionIds, List.mem_filter, Dict.mem_keys_iff, Dict.contains]
  constructor
  · rintro ⟨kind, -, id, -, raises⟩
    unfold changeRaises at raises
    split at raises
    · rename_i old new left right
      obtain ⟨changed, overflow⟩ := Bool.and_eq_true_iff.mp raises
      refine ⟨kind, id, old, new, left, right, Bool.eq_false_iff.mpr fun same => ?_, overflow⟩
      have mapping : old.isObj = true ∧ new.isObj = true := by
        cases old <;> cases new <;> first | exact ⟨rfl, rfl⟩ | simp [deltaOverflows, Json.get?] at overflow
      simp [fieldChanges_eq_nil.mpr ⟨mapping.1, mapping.2, same⟩] at changed
    · simp at raises
  · rintro ⟨kind, id, old, new, left, right, different, overflow⟩
    refine ⟨kind, ?_, id, by simp [left, right], ?_⟩
    · left
      by_contra absent
      rw [← Dict.mem_keys_iff] at absent
      rw [collection_absent absent] at left
      simp at left
    · have changed : fieldChanges old new ≠ [] := by
        intro none
        simp [(fieldChanges_eq_nil.mp none).2.2] at different
      simp [changeRaises, left, right, changed, overflow]

theorem compare_get? {initial final : Resources} {kind : String} :
    (compare initial final).get? kind =
      if kind ∈ initial.keys ∨ kind ∈ final.keys then
        some (kindDiff (collection initial kind) (collection final kind))
      else none := by
  rw [compare, Dict.get?_ofEntries]
  have found : ∀ kinds : List String, (kinds.map fun kind =>
      (kind, kindDiff (collection initial kind) (collection final kind))).lookup kind =
      if kind ∈ kinds then some (kindDiff (collection initial kind) (collection final kind)) else none := by
    intro kinds
    induction kinds with
    | nil => rfl
    | cons k kinds ih =>
      rw [List.map_cons, Entries.lookup_cons, ih]
      by_cases same : k = kind
      · simp [same]
      · simp [same, Ne.symm same]
  rw [found]
  simp only [mem_unionIds]

end Reports

end AgentGym.Verifier
