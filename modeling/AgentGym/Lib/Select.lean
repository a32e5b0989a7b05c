import AgentGym.Lib.Dict
import Mathlib.Data.List.Sort

/-!
# Selections of a table in an order

The entries of a dictionary that pass a test, sorted. Where an order tells distinct keys
apart, a selection depends on what the table holds and not on how it came to hold it.
-/

namespace AgentGym

namespace Dict

/-- Two lists of the same entries under distinct keys, both in an order that tells the keys apart, are one. -/
theorem ordered_unique {κ α : Type} {r : κ × α → κ × α → Prop} (apart : ∀ a b, r a b → r b a → a.1 = b.1)
    {xs ys : List (κ × α)} (nodup : (xs.map Prod.fst).Nodup) (nodup' : (ys.map Prod.fst).Nodup) (ordered : xs.Pairwise r)
    (ordered' : ys.Pairwise r) (same : ∀ a, a ∈ xs ↔ a ∈ ys) : xs = ys := by
  have perm : xs.Perm ys := (List.perm_ext_iff_of_nodup (List.Nodup.of_map _ nodup) (List.Nodup.of_map _ nodup')).mpr same
  refine perm.eq_of_pairwise ?_ ordered ordered'
  intro a b left right ab ba
  exact List.inj_on_of_nodup_map nodup left ((same b).mpr right) (apart a b ab ba)

variable {κ α : Type} [DecidableEq κ] (r : κ × α → κ × α → Prop) [DecidableRel r]

/-- The entries that pass, in the order. -/
def select (keep : κ × α → Bool) (d : Dict κ α) : List (κ × α) := (d.entries.filter keep).insertionSort r

variable {r} {keep : κ × α → Bool} {d e : Dict κ α}

theorem mem_select {k : κ} {v : α} : (k, v) ∈ d.select r keep ↔ d.get? k = some v ∧ keep (k, v) = true := by
  unfold select
  rw [List.mem_insertionSort, List.mem_filter, mem_entries_iff]

omit [DecidableEq κ] in
theorem select_keys_nodup : ((d.select r keep).map Prod.fst).Nodup := by
  have sorted : ((d.select r keep).map Prod.fst).Perm ((d.entries.filter keep).map Prod.fst) :=
    (List.perm_insertionSort r _).map _
  exact sorted.nodup_iff.mpr (d.nodup.sublist (List.filter_sublist.map Prod.fst))

variable [Std.Total r] [IsTrans (κ × α) r]

omit [DecidableEq κ] in
theorem select_pairwise : (d.select r keep).Pairwise r := List.pairwise_insertionSort r _

/-- What is selected depends on the mapping alone. -/
theorem select_congr (apart : ∀ a b, r a b → r b a → a.1 = b.1) (same : ∀ k, d.get? k = e.get? k) :
    d.select r keep = e.select r keep := by
  refine ordered_unique apart select_keys_nodup select_keys_nodup select_pairwise select_pairwise ?_
  rintro ⟨k, v⟩
  rw [mem_select, mem_select, same]

/-- Selecting less is leaving out of what is selected. -/
theorem select_filter (apart : ∀ a b, r a b → r b a → a.1 = b.1) (keep keep' : κ × α → Bool) :
    (d.select r keep).filter keep' = d.select r fun a => keep a && keep' a := by
  refine ordered_unique apart ?_ select_keys_nodup (select_pairwise.sublist List.filter_sublist) select_pairwise ?_
  · exact select_keys_nodup.sublist (List.filter_sublist.map Prod.fst)
  · rintro ⟨k, v⟩
    rw [List.mem_filter, mem_select, mem_select, Bool.and_eq_true, and_assoc]

end Dict

end AgentGym
