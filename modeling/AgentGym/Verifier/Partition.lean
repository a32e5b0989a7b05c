import AgentGym.Verifier.StateDiff

/-!
# What `compare` partitions

The ids of a kind fall into created, deleted, updated and unchanged ones. Two sorts of
resources are not sorted right: equal values that are no mappings, such as the histories
under `page_versions`, are reported as updated, and a changed resource whose version is a
float on one side and a huge integer on the other raises.
-/

namespace AgentGym.Verifier

/-- `old == new`, where either may be missing. -/
abbrev sameLookup (old new : Option Json) : Bool := Json.optEqBy Json.pyScalarEq old new

structure ListsFields (old new : Json) (changes : List (String × FieldChange)) : Prop where
  listed : ∀ field change, (field, change) ∈ changes ↔
    sameLookup (old.get? field) (new.get? field) = false ∧ change = ⟨old.get? field, new.get? field⟩
  nodup : (changes.map Prod.fst).Nodup

/-- What the report of one kind says about every id of the two collections. -/
structure Partitions (initial final : Resources) (kind : String) (d : KindDiff) : Prop where
  created : ∀ id, id ∈ d.created ↔
    (collection initial kind).get? id = none ∧ ((collection final kind).get? id).isSome
  deleted : ∀ id, id ∈ d.deleted ↔
    ((collection initial kind).get? id).isSome ∧ (collection final kind).get? id = none
  updated : ∀ id, id ∈ d.updated ↔ ∃ old new, (collection initial kind).get? id = some old ∧
    (collection final kind).get? id = some new ∧ old.pyEq new = false
  unreported : ∀ id, ((collection initial kind).get? id).isSome ∨ ((collection final kind).get? id).isSome →
    ((id ∉ d.created ∧ id ∉ d.deleted ∧ id ∉ d.updated) ↔ unchanged initial final id kind = true)
  distinct : d.created.Nodup ∧ d.deleted.Nodup ∧ d.updated.Nodup
  fields : ∀ id old new, (collection initial kind).get? id = some old → (collection final kind).get? id = some new →
    old.isObj = true → new.isObj = true → old.pyEq new = false →
    ∃ change, (id, change) ∈ d.changes ∧ ListsFields old new change.changedFields

theorem map_fst_filterMap {α : Type} {f : String → Option (String × α)}
    (own : ∀ id change, f id = some change → change.1 = id) (ids : List String) :
    (ids.filterMap f).map Prod.fst = ids.filter fun id => (f id).isSome := by
  induction ids with
  | nil => rfl
  | cons id ids ih =>
    cases changed : f id with
    | none => simp [changed, ih]
    | some change => simp [changed, ih, own id change changed]

theorem nodup_filterMap {α : Type} {f : String → Option (String × α)}
    (own : ∀ id change, f id = some change → change.1 = id) {ids : List String} (distinct : ids.Nodup) :
    ((ids.filterMap f).map Prod.fst).Nodup := by
  rw [map_fst_filterMap own]
  exact distinct.filter _

theorem nodup_sortIds {ids : List String} (distinct : ids.Nodup) : (sortIds ids).Nodup :=
  (List.perm_insertionSort _ ids).nodup_iff.mpr distinct

section Kinds

variable [PyFloat] {initial final : Dict String Json} {id : String}

theorem mem_created : id ∈ (kindDiff initial final).created ↔ initial.get? id = none ∧ (final.get? id).isSome := by
  simp only [kindDiff, mem_sortIds, List.mem_filter, Dict.mem_keys_iff, Dict.contains]
  cases initial.get? id <;> simp

theorem mem_deleted : id ∈ (kindDiff initial final).deleted ↔ (initial.get? id).isSome ∧ final.get? id = none := by
  simp only [kindDiff, mem_sortIds, List.mem_filter, Dict.mem_keys_iff, Dict.contains]
  cases final.get? id <;> simp

theorem resourceChange_id {change : String × ResourceChange}
    (changed : resourceChange initial final id = some change) : change.1 = id := by
  unfold resourceChange at changed
  split at changed
  · split at changed
    · simp at changed
    · rw [← Option.some.inj changed]
  · simp at changed

theorem kindDiff_nodup : (kindDiff initial final).created.Nodup ∧ (kindDiff initial final).deleted.Nodup ∧
    (kindDiff initial final).updated.Nodup := by
  refine ⟨nodup_sortIds (final.keys_nodup.filter _), nodup_sortIds (initial.keys_nodup.filter _), ?_⟩
  exact nodup_filterMap (fun _ _ => resourceChange_id) (nodup_sortIds (initial.keys_nodup.filter _))

end Kinds

theorem sameLookup_none : sameLookup none none = true := rfl

theorem nodup_unionIds {a b : List String} (left : a.Nodup) (right : b.Nodup) : (unionIds a b).Nodup := by
  refine nodup_sortIds (List.nodup_append.mpr ⟨left, right.filter _, ?_⟩)
  rintro k inLeft _ inRight rfl
  simpa [inLeft] using (List.mem_filter.mp inRight).2

theorem listsFields_fieldChanges {old new : Json} (mapping : old.isObj = true) (mapping' : new.isObj = true) :
    ListsFields old new (fieldChanges old new) := by
  cases old with
  | obj a =>
    cases new with
    | obj b =>
      constructor
      · intro field change
        simp only [fieldChanges, List.mem_filterMap, mem_unionIds, Dict.mem_keys_iff, Dict.get?_ofEntries, Json.get?]
        constructor
        · rintro ⟨field', -, found⟩
          split at found
          · simp at found
          · rename_i different
            obtain ⟨rfl, rfl⟩ := Prod.mk.inj (Option.some.inj found)
            exact ⟨Bool.eq_false_iff.mpr different, rfl⟩
        · rintro ⟨different, rfl⟩
          refine ⟨field, ?_, by simp [different]⟩
          cases left : a.lookup field with
          | some v => exact Or.inl rfl
          | none =>
            cases right : b.lookup field with
            | some v => exact Or.inr rfl
            | none =>
              rw [left, right, sameLookup_none] at different
              simp at different
      · refine nodup_filterMap ?_ (nodup_unionIds (Dict.keys_nodup _) (Dict.keys_nodup _))
        intro field change found
        split at found
        · simp at found
        · rw [← Option.some.inj found]
    | _ => simp [Json.isObj] at mapping'
  | _ => simp [Json.isObj] at mapping

/-! ### Snapshots -/

def Exact [PyFloat] (initial final : Resources) : Prop :=
  ∃ diff, compare? initial final = .ok diff ∧ ∀ kind, kind ∈ initial.keys ∨ kind ∈ final.keys →
    ∃ d, diff.get? kind = some d ∧ Partitions initial final kind d

def KindDiff.NoChange (d : KindDiff) : Prop := d.created = [] ∧ d.deleted = [] ∧ d.updated = [] ∧ d.changes = []

/-- Nothing that is no mapping is held with equal values on both sides. -/
def EqualMappings (initial final : Resources) : Prop :=
  ∀ kind id old new, (collection initial kind).get? id = some old → (collection final kind).get? id = some new →
    old.pyEq new = true → old.isObj = true ∧ new.isObj = true

/-- No resource changed from a float version to a huge integer one, or back. -/
def Subtractable (initial final : Resources) : Prop :=
  ∀ kind id old new, (collection initial kind).get? id = some old → (collection final kind).get? id = some new →
    old.pyEq new = false → deltaOverflows old new = false

theorem unchanged_iff {initial final : Resources} {id kind : String} :
    unchanged initial final id kind = true ↔ ∃ old new, (collection initial kind).get? id = some old ∧
      (collection final kind).get? id = some new ∧ old.pyEq new = true := by
  unfold unchanged
  cases (collection initial kind).get? id <;> cases (collection final kind).get? id <;> simp

section Compare

variable [PyFloat] {initial final : Resources} {kind : String}

/-- The report of one kind is exact but for equal values that are no mappings. -/
theorem partitions_iff : Partitions initial final kind (kindDiff (collection initial kind) (collection final kind)) ↔
    ∀ id old new, (collection initial kind).get? id = some old → (collection final kind).get? id = some new →
      old.pyEq new = true → old.isObj = true ∧ new.isObj = true := by
  constructor
  · intro exact id old new left right same
    have kept : unchanged initial final id kind = true := unchanged_iff.mpr ⟨old, new, left, right, same⟩
    have out := ((exact.unreported id (Or.inl (by simp [left]))).mpr kept).2.2
    rw [mem_updated] at out
    by_contra nonMapping
    refine out ⟨old, new, left, right, fun none => nonMapping ?_⟩
    obtain ⟨mapping, mapping', -⟩ := fieldChanges_eq_nil.mp none
    exact ⟨mapping, mapping'⟩
  · intro mappings
    have updated : ∀ id, id ∈ (kindDiff (collection initial kind) (collection final kind)).updated ↔
        ∃ old new, (collection initial kind).get? id = some old ∧ (collection final kind).get? id = some new ∧
          old.pyEq new = false := by
      intro id
      rw [mem_updated]
      constructor
      · rintro ⟨old, new, left, right, changed⟩
        refine ⟨old, new, left, right, Bool.eq_false_iff.mpr fun same => changed ?_⟩
        obtain ⟨mapping, mapping'⟩ := mappings id old new left right same
        exact fieldChanges_eq_nil.mpr ⟨mapping, mapping', same⟩
      · rintro ⟨old, new, left, right, different⟩
        refine ⟨old, new, left, right, fun none => ?_⟩
        obtain ⟨-, -, same⟩ := fieldChanges_eq_nil.mp none
        simp [different] at same
    refine ⟨fun id => mem_created, fun id => mem_deleted, updated, ?_, kindDiff_nodup, ?_⟩
    · intro id present
      rw [mem_created, mem_deleted, updated, unchanged_iff]
      cases left : (collection initial kind).get? id with
      | none => cases right : (collection final kind).get? id <;> simp [left, right] at present ⊢
      | some old => cases right : (collection final kind).get? id <;> simp
    · intro id old new left right mapping mapping' different
      refine ⟨⟨fieldChanges old new, versionDelta old new⟩, ?_, listsFields_fieldChanges mapping mapping'⟩
      have changed : fieldChanges old new ≠ [] := by
        intro none
        obtain ⟨-, -, same⟩ := fieldChanges_eq_nil.mp none
        simp [different] at same
      refine List.mem_filterMap.mpr ⟨id, ?_, by simp only [resourceChange, left, right]⟩
      rw [mem_sortIds, List.mem_filter, Dict.mem_keys_iff, Dict.contains, left, right]
      exact ⟨rfl, rfl⟩

theorem compare?_ok {diff : Dict String KindDiff} :
    compare? initial final = .ok diff ↔ Subtractable initial final ∧ diff = compare initial final := by
  have returns : compareRaises initial final = false ↔ Subtractable initial final := by
    rw [← Bool.not_eq_true, compareRaises_iff, Subtractable]
    push Not
    simp only [ne_eq, Bool.not_eq_true]
  rw [← returns, compare?]
  cases compareRaises initial final <;> simp [eq_comm]

theorem noChange_iff {r : Dict String Json} :
    (kindDiff r r).NoChange ↔ ∀ id v, r.get? id = some v → v.isObj = true := by
  constructor
  · rintro ⟨-, -, none, -⟩ id v found
    by_contra nonMapping
    have reported : id ∈ (kindDiff r r).updated :=
      mem_updated.mpr ⟨v, v, found, found, fun same => nonMapping (fieldChanges_eq_nil.mp same).1⟩
    simp [none] at reported
  · intro mappings
    have updated : (kindDiff r r).updated = [] := by
      refine List.eq_nil_iff_forall_not_mem.mpr fun id reported => ?_
      obtain ⟨old, new, left, right, changed⟩ := mem_updated.mp reported
      obtain rfl := Option.some.inj (left.symm.trans right)
      exact changed (fieldChanges_eq_nil.mpr ⟨mappings id old left, mappings id old left, old.pyEq_refl⟩)
    refine ⟨?_, ?_, updated, List.map_eq_nil_iff.mp updated⟩
    · refine List.eq_nil_iff_forall_not_mem.mpr fun id reported => ?_
      obtain ⟨absent, present⟩ := mem_created.mp reported
      simp [absent] at present
    · refine List.eq_nil_iff_forall_not_mem.mpr fun id reported => ?_
      obtain ⟨present, absent⟩ := mem_deleted.mp reported
      simp [absent] at present

end Compare

/-- `compare` is exact unless a value that is no mapping stays equal or a version delta cannot be computed. -/
theorem compare_exact_iff [PyFloat] :
    (∀ initial final : Resources, Exact initial final ↔ EqualMappings initial final ∧ Subtractable initial final) ∧
      ∀ r : Resources, (∃ diff, compare? r r = .ok diff ∧ ∀ kind d, diff.get? kind = some d → d.NoChange) ↔
        EqualMappings r r := by
  constructor
  · intro initial final
    constructor
    · rintro ⟨diff, returned, exact⟩
      obtain ⟨subtractable, rfl⟩ := compare?_ok.mp returned
      refine ⟨fun kind id old new left right => ?_, subtractable⟩
      by_cases named : kind ∈ initial.keys ∨ kind ∈ final.keys
      · obtain ⟨d, found, partition⟩ := exact kind named
        rw [compare_get?, if_pos named] at found
        obtain rfl := Option.some.inj found
        exact partitions_iff.mp partition id old new left right
      · rw [collection_absent fun member => named (Or.inl member)] at left
        simp at left
    · rintro ⟨mappings, subtractable⟩
      refine ⟨_, compare?_ok.mpr ⟨subtractable, rfl⟩, fun kind named => ?_⟩
      refine ⟨_, by rw [compare_get?, if_pos named], ?_⟩
      exact partitions_iff.mpr (mappings kind)
  · intro r
    constructor
    · rintro ⟨diff, returned, quiet⟩ kind id old new left right _
      obtain ⟨-, rfl⟩ := compare?_ok.mp returned
      obtain rfl := Option.some.inj (left.symm.trans right)
      by_cases named : kind ∈ r.keys
      · have found : (compare r r).get? kind = some (kindDiff (collection r kind) (collection r kind)) := by
          rw [compare_get?, if_pos (Or.inl named)]
        have mapping := noChange_iff.mp (quiet kind _ found) id old left
        exact ⟨mapping, mapping⟩
      · rw [collection_absent named] at left
        simp at left
    · intro mappings
      have subtractable : Subtractable r r := by
        intro kind id old new left right different
        obtain rfl := Option.some.inj (left.symm.trans right)
        simp [old.pyEq_refl] at different
      refine ⟨_, compare?_ok.mpr ⟨subtractable, rfl⟩, fun kind d found => ?_⟩
      rw [compare_get?] at found
      split at found
      · obtain rfl := Option.some.inj found
        exact noChange_iff.mpr fun id v held => (mappings kind id v v held held v.pyEq_refl).1
      · simp at found

/-- One page with the history a snapshot holds for it. -/
def historyResources : Resources where
  entries := [("page_versions", .obj [("home", .arr [.obj [("id", .str "home"), ("version", .int 1)]])])]
  nodup := List.nodup_singleton _

/-- The same history on both sides is reported as updated. -/
theorem history_reported : ¬ @Exact integers historyResources historyResources ∧
    ∃ d, (@compare integers historyResources historyResources).get? "page_versions" = some d ∧
      d.updated = ["home"] := by
  have found : (@compare integers historyResources historyResources).get? "page_versions" =
      some (@kindDiff integers (collection historyResources "page_versions")
        (collection historyResources "page_versions")) := by
    rw [@compare_get? integers, if_pos (Or.inl (by decide))]
  have updated : (@kindDiff integers (collection historyResources "page_versions")
      (collection historyResources "page_versions")).updated = ["home"] := by decide +kernel
  refine ⟨?_, _, found, updated⟩
  rintro ⟨diff, returned, exact⟩
  obtain ⟨-, rfl⟩ := (@compare?_ok integers _ _ _).mp returned
  obtain ⟨d, listed, partition⟩ := exact "page_versions" (Or.inl (by decide))
  obtain rfl := Option.some.inj (found.symm.trans listed)
  have reported : "home" ∈ (@kindDiff integers (collection historyResources "page_versions")
      (collection historyResources "page_versions")).updated := updated ▸ List.mem_singleton_self _
  obtain ⟨old, new, left, right, different⟩ := (partition.updated "home").mp reported
  obtain rfl := Option.some.inj (left.symm.trans right)
  rw [old.pyEq_refl] at different
  simp at different

end AgentGym.Verifier
