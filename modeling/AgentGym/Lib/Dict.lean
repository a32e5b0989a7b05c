import Mathlib.Data.List.Forall2
import Mathlib.Data.List.Nodup

/-!
# Insertion-ordered dictionaries

`Dict κ α` is a list of entries with pairwise distinct keys. Setting a present key
keeps its place; setting an absent one appends it. Lookups see the mapping, iteration
sees the order.
-/

namespace AgentGym

/-! ### Association lists -/

namespace Entries

variable {κ : Type} [DecidableEq κ] {α β : Type}

/-- Replace the first entry for `k`, or append one. -/
def set : List (κ × α) → κ → α → List (κ × α)
  | [], k, v => [(k, v)]
  | (k', v') :: rest, k, v => if k' = k then (k, v) :: rest else (k', v') :: set rest k v

theorem lookup_cons (k' : κ) (v : α) (rest : List (κ × α)) (k : κ) :
    ((k', v) :: rest).lookup k = if k' = k then some v else rest.lookup k := by
  rw [List.lookup_cons]
  by_cases h : k' = k
  · simp [h]
  · have test : (k == k') = false := beq_eq_false_iff_ne.mpr (Ne.symm h)
    simp [test, h]

theorem lookup_isSome_iff_mem {entries : List (κ × α)} {k : κ} :
    (entries.lookup k).isSome ↔ k ∈ entries.map Prod.fst := by
  induction entries with
  | nil => simp
  | cons entry rest ih =>
    rw [show entry :: rest = (entry.1, entry.2) :: rest from rfl, lookup_cons]
    by_cases h : entry.1 = k
    · simp [h]
    · simp [h, ih, Ne.symm h]

theorem lookup_none_iff_not_mem {entries : List (κ × α)} {k : κ} :
    entries.lookup k = none ↔ k ∉ entries.map Prod.fst := by
  rw [← lookup_isSome_iff_mem, Option.not_isSome_iff_eq_none]

theorem mem_of_lookup {entries : List (κ × α)} {k : κ} {v : α} (h : entries.lookup k = some v) :
    (k, v) ∈ entries := by
  induction entries with
  | nil => simp at h
  | cons entry rest ih =>
    obtain ⟨k', v'⟩ := entry
    rw [lookup_cons] at h
    split at h
    · rename_i same
      rw [Option.some.inj h, same]
      exact List.mem_cons_self
    · exact List.mem_cons_of_mem _ (ih h)

theorem lookup_of_mem {entries : List (κ × α)} (nodup : (entries.map Prod.fst).Nodup) {k : κ} {v : α}
    (h : (k, v) ∈ entries) : entries.lookup k = some v := by
  induction entries with
  | nil => simp at h
  | cons entry rest ih =>
    obtain ⟨k', v'⟩ := entry
    obtain ⟨fresh, nodup⟩ := List.nodup_cons.mp nodup
    rw [lookup_cons]
    rcases List.mem_cons.mp h with same | later
    · obtain ⟨rfl, rfl⟩ := Prod.mk.inj same
      simp
    · have different : k' ≠ k := by
        rintro rfl
        exact fresh (List.mem_map.mpr ⟨_, later, rfl⟩)
      rw [if_neg different, ih nodup later]

@[simp] theorem lookup_set_self (entries : List (κ × α)) (k : κ) (v : α) :
    (set entries k v).lookup k = some v := by
  induction entries with
  | nil => simp [set]
  | cons entry rest ih =>
    obtain ⟨k', v'⟩ := entry
    by_cases h : k' = k
    · simp [set, h]
    · rw [set, if_neg h, lookup_cons, if_neg h, ih]

theorem lookup_set_ne (entries : List (κ × α)) {k k' : κ} (v : α) (h : k' ≠ k) :
    (set entries k v).lookup k' = entries.lookup k' := by
  induction entries with
  | nil => simp [set, lookup_cons, Ne.symm h]
  | cons entry rest ih =>
    obtain ⟨k₀, v₀⟩ := entry
    by_cases same : k₀ = k
    · subst same
      simp [set, lookup_cons, Ne.symm h]
    · rw [set, if_neg same, lookup_cons, lookup_cons, ih]

theorem keys_set (entries : List (κ × α)) (k : κ) (v : α) :
    (set entries k v).map Prod.fst =
      if k ∈ entries.map Prod.fst then entries.map Prod.fst else entries.map Prod.fst ++ [k] := by
  induction entries with
  | nil => simp [set]
  | cons entry rest ih =>
    obtain ⟨k', v'⟩ := entry
    by_cases h : k' = k
    · simp [set, h]
    · simp only [set, if_neg h, List.map_cons, ih, List.mem_cons, Ne.symm h, false_or]
      split <;> rfl

theorem nodup_set {entries : List (κ × α)} (nodup : (entries.map Prod.fst).Nodup) (k : κ) (v : α) :
    ((set entries k v).map Prod.fst).Nodup := by
  rw [keys_set]
  split
  · exact nodup
  · rename_i absent
    exact List.nodup_append.mpr ⟨nodup, List.nodup_singleton k, by
      intro a member b single
      rw [List.mem_singleton.mp single]
      rintro rfl
      exact absent member⟩

omit [DecidableEq κ] in
theorem map_keys (f : α → β) (entries : List (κ × α)) :
    (entries.map fun e => (e.1, f e.2)).map Prod.fst = entries.map Prod.fst := by
  simp [List.map_map, Function.comp_def]

theorem lookup_map (f : α → β) (entries : List (κ × α)) (k : κ) :
    (entries.map fun e => (e.1, f e.2)).lookup k = (entries.lookup k).map f := by
  induction entries with
  | nil => rfl
  | cons entry rest ih =>
    obtain ⟨k', v'⟩ := entry
    rw [List.map_cons, lookup_cons, lookup_cons, ih]
    split <;> rfl

end Entries

/-! ### Dictionaries -/

structure Dict (κ : Type) (α : Type) where
  entries : List (κ × α)
  nodup : (entries.map Prod.fst).Nodup

namespace Dict

variable {κ : Type} [DecidableEq κ] {α β : Type}

def empty : Dict κ α := ⟨[], List.nodup_nil⟩

def get? (d : Dict κ α) (k : κ) : Option α := d.entries.lookup k

def keys (d : Dict κ α) : List κ := d.entries.map Prod.fst

def values (d : Dict κ α) : List α := d.entries.map Prod.snd

def contains (d : Dict κ α) (k : κ) : Bool := (d.get? k).isSome

def set (d : Dict κ α) (k : κ) (v : α) : Dict κ α :=
  ⟨Entries.set d.entries k v, Entries.nodup_set d.nodup k v⟩

/-- Set every entry of `changes`, in order. -/
def update (d : Dict κ α) (changes : List (κ × α)) : Dict κ α :=
  changes.foldl (fun acc e => acc.set e.1 e.2) d

def mapValues (f : α → β) (d : Dict κ α) : Dict κ β :=
  ⟨d.entries.map fun e => (e.1, f e.2), by rw [Entries.map_keys]; exact d.nodup⟩

/-- `mapValues` for a function that may fail; the first failure in order is the result. -/
def mapEntriesM {ε : Type} (f : α → Except ε β) :
    (entries : List (κ × α)) → Except ε { out : List (κ × β) // out.map Prod.fst = entries.map Prod.fst }
  | [] => .ok ⟨[], rfl⟩
  | (k, v) :: rest =>
    match f v with
    | .error e => .error e
    | .ok w =>
      match mapEntriesM f rest with
      | .error e => .error e
      | .ok out => .ok ⟨(k, w) :: out.1, by simp [out.2]⟩

def mapValuesM {ε : Type} (f : α → Except ε β) (d : Dict κ α) : Except ε (Dict κ β) :=
  match mapEntriesM f d.entries with
  | .error e => .error e
  | .ok out => .ok ⟨out.1, by rw [out.2]; exact d.nodup⟩

def filterKeys (p : κ → Bool) (d : Dict κ α) : Dict κ α :=
  ⟨d.entries.filter fun e => p e.1, d.nodup.sublist (List.filter_sublist.map Prod.fst)⟩

/-- The mapping a list of entries denotes when the first entry for a key counts. -/
def ofEntries : List (κ × α) → Dict κ α
  | [] => empty
  | (k, v) :: rest =>
    let tail := (ofEntries rest).filterKeys (fun k' => k' != k)
    ⟨(k, v) :: tail.entries, by
      refine List.nodup_cons.mpr ⟨?_, tail.nodup⟩
      simp [tail, filterKeys]⟩

omit [DecidableEq κ] in
@[ext] theorem ext {d e : Dict κ α} (h : d.entries = e.entries) : d = e := by
  cases d; cases e; cases h; rfl

@[simp] theorem get?_empty (k : κ) : (empty : Dict κ α).get? k = none := rfl

theorem mem_entries_iff {d : Dict κ α} {k : κ} {v : α} : (k, v) ∈ d.entries ↔ d.get? k = some v :=
  ⟨Entries.lookup_of_mem d.nodup, Entries.mem_of_lookup⟩

theorem mem_keys_iff {d : Dict κ α} {k : κ} : k ∈ d.keys ↔ (d.get? k).isSome :=
  Entries.lookup_isSome_iff_mem.symm

theorem mem_values_iff {d : Dict κ α} {v : α} : v ∈ d.values ↔ ∃ k, d.get? k = some v := by
  simp only [values, List.mem_map, Prod.exists, exists_eq_right, mem_entries_iff]

omit [DecidableEq κ] in
theorem keys_nodup (d : Dict κ α) : d.keys.Nodup := d.nodup

@[simp] theorem get?_set_self (d : Dict κ α) (k : κ) (v : α) : (d.set k v).get? k = some v :=
  Entries.lookup_set_self _ _ _

theorem get?_set_ne (d : Dict κ α) {k k' : κ} (v : α) (h : k' ≠ k) :
    (d.set k v).get? k' = d.get? k' :=
  Entries.lookup_set_ne _ _ h

theorem get?_set (d : Dict κ α) (k k' : κ) (v : α) :
    (d.set k v).get? k' = if k' = k then some v else d.get? k' := by
  split
  · subst k'; exact get?_set_self d k v
  · rename_i h; exact get?_set_ne d v h

@[simp] theorem set_set (d : Dict κ α) (k : κ) (v w : α) : (d.set k v).set k w = d.set k w := by
  apply ext
  obtain ⟨entries, nodup⟩ := d
  simp only [set]
  clear nodup
  induction entries with
  | nil => simp [Entries.set]
  | cons entry rest ih =>
    by_cases h : entry.1 = k
    · simp [Entries.set, h]
    · simp [Entries.set, h, ih]

theorem keys_set (d : Dict κ α) (k : κ) (v : α) :
    (d.set k v).keys = if k ∈ d.keys then d.keys else d.keys ++ [k] :=
  Entries.keys_set _ _ _

theorem get?_update_of_not_mem {changes : List (κ × α)} {k : κ} (other : k ∉ changes.map Prod.fst)
    (d : Dict κ α) : (d.update changes).get? k = d.get? k := by
  induction changes generalizing d with
  | nil => rfl
  | cons e rest ih =>
    simp only [List.map_cons, List.mem_cons, not_or] at other
    show ((d.set e.1 e.2).update rest).get? k = _
    rw [ih other.2, get?_set_ne _ _ other.1]

theorem prefix_keys_set {ks : List κ} {d : Dict κ α} (first : ks <+: d.keys) (k : κ) (v : α) :
    ks <+: (d.set k v).keys := by
  rw [keys_set]
  split
  · exact first
  · exact first.trans (List.prefix_append _ _)

theorem get?_update_filter {keep : κ → Bool} {k : κ} (kept : keep k = true) (changes : List (κ × α)) (d : Dict κ α) :
    (d.update (changes.filter fun e => keep e.1)).get? k = (d.update changes).get? k := by
  have grow : ∀ d d' : Dict κ α, d.get? k = d'.get? k →
      (d.update (changes.filter fun e => keep e.1)).get? k = (d'.update changes).get? k := by
    induction changes with
    | nil => exact fun _ _ same => same
    | cons e changes ih =>
      intro d d' same
      by_cases other : keep e.1 = true
      · rw [List.filter_cons_of_pos (by exact other)]
        refine ih (d.set e.1 e.2) (d'.set e.1 e.2) ?_
        rw [get?_set, get?_set, same]
      · rw [List.filter_cons_of_neg (by exact other)]
        refine ih d (d'.set e.1 e.2) ?_
        rw [get?_set, if_neg fun here : k = e.1 => other (here ▸ kept), same]
  exact grow d d rfl

theorem get?_update_isSome {changes : List (κ × α)} {k : κ} (changed : k ∈ changes.map Prod.fst) (d : Dict κ α) :
    ((d.update changes).get? k).isSome := by
  induction changes generalizing d with
  | nil => cases changed
  | cons e changes ih =>
    by_cases again : k ∈ changes.map Prod.fst
    · exact ih again _
    · obtain rfl := (List.mem_cons.mp changed).resolve_right again
      show (((d.set e.1 e.2).update changes).get? e.1).isSome
      rw [get?_update_of_not_mem again, get?_set_self]
      rfl

/-- What an update leaves under a key was there before or is one of the changes. -/
theorem get?_update_eq_some {changes : List (κ × α)} {d : Dict κ α} {k : κ} {v : α}
    (h : (d.update changes).get? k = some v) : d.get? k = some v ∨ (k, v) ∈ changes := by
  induction changes generalizing d with
  | nil => exact Or.inl h
  | cons e changes ih =>
    obtain earlier | later := ih h
    · change (d.set e.1 e.2).get? k = some v at earlier
      rw [get?_set] at earlier
      split at earlier
      · rename_i same
        obtain rfl := Option.some.inj earlier
        exact Or.inr (by simp [same])
      · exact Or.inl earlier
    · exact Or.inr (List.mem_cons_of_mem _ later)

/-- The changes give every key one value. -/
def Functional (changes : List (κ × α)) : Prop := ∀ k v w, (k, v) ∈ changes → (k, w) ∈ changes → v = w

omit [DecidableEq κ] in
theorem functional_of_nodup {changes : List (κ × α)} (nodup : (changes.map Prod.fst).Nodup) : Functional changes := by
  intro k v w left right
  have same := List.inj_on_of_nodup_map nodup left right rfl
  cases same
  rfl

theorem get?_update_of_mem {changes : List (κ × α)} (functional : Functional changes) {k : κ} {v : α}
    (member : (k, v) ∈ changes) (d : Dict κ α) : (d.update changes).get? k = some v := by
  induction changes generalizing d with
  | nil => cases member
  | cons e changes ih =>
    have rest : Functional changes := fun k v w left right =>
      functional k v w (List.mem_cons_of_mem _ left) (List.mem_cons_of_mem _ right)
    show ((d.set e.1 e.2).update changes).get? k = some v
    by_cases again : ∃ w, (k, w) ∈ changes
    · obtain ⟨w, later⟩ := again
      obtain rfl := functional k v w member (List.mem_cons_of_mem _ later)
      exact ih rest later _
    · rcases List.mem_cons.mp member with rfl | later
      · have other : k ∉ changes.map Prod.fst := by
          intro found
          obtain ⟨⟨_, w⟩, later, rfl⟩ := List.mem_map.mp found
          exact again ⟨w, later⟩
        rw [get?_update_of_not_mem other, get?_set_self]
      · exact absurd ⟨v, later⟩ again

/-- Changes that give every key one value may be made in any order, and more than once. -/
theorem get?_update_reordered {changes changes' : List (κ × α)} (functional : Functional changes)
    (same : ∀ e, e ∈ changes ↔ e ∈ changes') (d : Dict κ α) (k : κ) :
    (d.update changes).get? k = (d.update changes').get? k := by
  have functional' : Functional changes' := fun k v w left right =>
    functional k v w ((same _).mpr left) ((same _).mpr right)
  by_cases touched : ∃ v, (k, v) ∈ changes
  · obtain ⟨v, member⟩ := touched
    rw [get?_update_of_mem functional member, get?_update_of_mem functional' ((same _).mp member)]
  · have untouched : ∀ entries : List (κ × α), (∀ e, e ∈ entries → e ∈ changes) → k ∉ entries.map Prod.fst := by
      intro entries within found
      obtain ⟨⟨_, v⟩, member, rfl⟩ := List.mem_map.mp found
      exact touched ⟨v, within _ member⟩
    rw [get?_update_of_not_mem (untouched changes fun _ => id),
      get?_update_of_not_mem (untouched changes' fun e => (same e).mpr)]

theorem get?_update_entries (d changes : Dict κ α) (k : κ) :
    (d.update changes.entries).get? k = (changes.get? k).or (d.get? k) := by
  cases found : changes.get? k with
  | some v => exact get?_update_of_mem (functional_of_nodup changes.nodup) (mem_entries_iff.mpr found) d
  | none =>
    refine get?_update_of_not_mem (fun member => ?_) d
    have present := mem_keys_iff.mp (show k ∈ changes.keys from member)
    simp [found] at present

theorem get?_update_map (f : α → β) (changes : List (κ × α)) {d : Dict κ α} {d' : Dict κ β}
    (same : ∀ k, d'.get? k = (d.get? k).map f) (k : κ) :
    (d'.update (changes.map fun e => (e.1, f e.2))).get? k = ((d.update changes).get? k).map f := by
  induction changes generalizing d d' with
  | nil => exact same k
  | cons e rest ih =>
    apply ih
    intro k
    rw [get?_set, get?_set, same k]
    split
    · rfl
    · rfl

theorem prefix_keys_update {ks : List κ} {d : Dict κ α} (first : ks <+: d.keys) (changes : List (κ × α)) :
    ks <+: (d.update changes).keys := by
  induction changes generalizing d with
  | nil => exact first
  | cons e rest ih => exact ih (prefix_keys_set first e.1 e.2)

@[simp] theorem get?_mapValues (f : α → β) (d : Dict κ α) (k : κ) :
    (d.mapValues f).get? k = (d.get? k).map f :=
  Entries.lookup_map f _ k

omit [DecidableEq κ] in
theorem mapEntriesM_map {ε : Type} {f : β → Except ε α} {g : α → β} (entries : List (κ × α))
    (undo : ∀ e ∈ entries, f (g e.2) = .ok e.2) :
    ∃ out, mapEntriesM f (entries.map fun e => (e.1, g e.2)) = .ok out ∧ out.1 = entries := by
  induction entries with
  | nil => exact ⟨⟨[], rfl⟩, rfl, rfl⟩
  | cons e rest ih =>
    obtain ⟨out, ran, same⟩ := ih fun e' member => undo e' (List.mem_cons_of_mem _ member)
    have head := undo e List.mem_cons_self
    refine ⟨⟨e :: out.1, by simp [out.2]⟩, ?_, congrArg (e :: ·) same⟩
    show mapEntriesM f ((e.1, g e.2) :: rest.map fun e => (e.1, g e.2)) = _
    simp only [mapEntriesM, head, ran]

omit [DecidableEq κ] in
/-- A fallible map that undoes a map gives the dictionary back. -/
theorem mapValuesM_mapValues {ε : Type} {f : β → Except ε α} {g : α → β} {d : Dict κ α}
    (undo : ∀ v ∈ d.values, f (g v) = .ok v) : (d.mapValues g).mapValuesM f = .ok d := by
  obtain ⟨out, ran, same⟩ := mapEntriesM_map d.entries fun e member =>
    undo e.2 (List.mem_map_of_mem member)
  simp only [mapValuesM, mapValues, ran]
  congr 1
  exact ext same

omit [DecidableEq κ] in
theorem mapEntriesM_succeeds {ε : Type} {f : α → Except ε β} {entries : List (κ × α)} :
    (∃ out, mapEntriesM f entries = .ok out) ↔ ∀ e ∈ entries, ∃ w, f e.2 = .ok w := by
  induction entries with
  | nil => exact ⟨fun _ => List.forall_mem_nil _, fun _ => ⟨⟨[], rfl⟩, rfl⟩⟩
  | cons e rest ih =>
    obtain ⟨k, v⟩ := e
    rw [List.forall_mem_cons, ← ih]
    simp only [mapEntriesM]
    cases f v with
    | error e => simp
    | ok w => cases mapEntriesM f rest <;> simp

theorem mapValuesM_succeeds {ε : Type} {f : α → Except ε β} {d : Dict κ α} :
    (∃ out, d.mapValuesM f = .ok out) ↔ ∀ k v, d.get? k = some v → ∃ w, f v = .ok w := by
  have each : (∀ e ∈ d.entries, ∃ w, f e.2 = .ok w) ↔ ∀ k v, d.get? k = some v → ∃ w, f v = .ok w :=
    ⟨fun h k v found => h (k, v) (mem_entries_iff.mpr found), fun h e member => h e.1 e.2 (mem_entries_iff.mp member)⟩
  rw [← each, ← mapEntriesM_succeeds, mapValuesM]
  cases mapEntriesM f d.entries <;> simp

theorem lookup_mapEntriesM {ε : Type} {f : α → Except ε β} {entries : List (κ × α)} {out}
    (h : mapEntriesM f entries = .ok out) {k : κ} {w : β} (found : out.1.lookup k = some w) :
    ∃ v, entries.lookup k = some v ∧ f v = .ok w := by
  induction entries with
  | nil =>
    obtain rfl := Except.ok.inj h
    simp at found
  | cons e rest ih =>
    obtain ⟨k', v'⟩ := e
    simp only [mapEntriesM] at h
    split at h
    · simp at h
    · rename_i w' head
      split at h
      · simp at h
      · rename_i tail ran
        obtain rfl := Except.ok.inj h
        simp only [Entries.lookup_cons] at found ⊢
        by_cases same : k' = k
        · rw [if_pos same] at found ⊢
          obtain rfl := Option.some.inj found
          exact ⟨v', rfl, head⟩
        · rw [if_neg same] at found ⊢
          exact ih ran found

theorem get?_mapValuesM {ε : Type} {f : α → Except ε β} {d : Dict κ α} {out : Dict κ β}
    (h : d.mapValuesM f = .ok out) {k : κ} {w : β} (found : out.get? k = some w) :
    ∃ v, d.get? k = some v ∧ f v = .ok w := by
  unfold mapValuesM at h
  split at h
  · simp at h
  · rename_i ran
    obtain rfl := Except.ok.inj h
    exact lookup_mapEntriesM ran found

omit [DecidableEq κ] in
theorem keys_mapValuesM {ε : Type} {f : α → Except ε β} {d : Dict κ α} {out : Dict κ β}
    (h : d.mapValuesM f = .ok out) : out.keys = d.keys := by
  unfold mapValuesM at h
  split at h
  · simp at h
  · rename_i out _
    obtain rfl := Except.ok.inj h
    exact out.2

theorem get?_of_mapValuesM {ε : Type} {f : α → Except ε β} {d : Dict κ α} {out : Dict κ β}
    (h : d.mapValuesM f = .ok out) {k : κ} {v : α} (found : d.get? k = some v) :
    ∃ w, out.get? k = some w ∧ f v = .ok w := by
  have present : k ∈ out.keys := by
    rw [keys_mapValuesM h, mem_keys_iff, found]
    rfl
  obtain ⟨w, image⟩ := Option.isSome_iff_exists.mp (mem_keys_iff.mp present)
  obtain ⟨v', source, ran⟩ := get?_mapValuesM h image
  obtain rfl := Option.some.inj (found.symm.trans source)
  exact ⟨w, image, ran⟩

/-- A fallible map over related values succeeds when every step does, whatever is known of each result. -/
theorem mapValuesM_related {ε γ : Type} {f : α → Except ε β} {S : γ → α → Prop} {R : γ → β → Prop} {d : Dict κ γ}
    {e : Dict κ α} (same : ∀ k, Option.Rel S (d.get? k) (e.get? k))
    (step : ∀ k x v, d.get? k = some x → S x v → ∃ y, f v = .ok y ∧ R x y) :
    ∃ out, e.mapValuesM f = .ok out ∧ ∀ k, Option.Rel R (d.get? k) (out.get? k) := by
  have source : ∀ {k v}, e.get? k = some v → ∃ x, d.get? k = some x ∧ S x v := by
    intro k v found
    have related := same k
    rw [found] at related
    cases stored : d.get? k with
    | none => rw [stored] at related; cases related
    | some x =>
      rw [stored] at related
      cases related with
      | some related => exact ⟨x, rfl, related⟩
  obtain ⟨out, ran⟩ := mapValuesM_succeeds (f := f) (d := e).mpr fun k v found => by
    obtain ⟨x, stored, related⟩ := source found
    obtain ⟨y, done, -⟩ := step k x v stored related
    exact ⟨y, done⟩
  refine ⟨out, ran, fun k => ?_⟩
  cases image : out.get? k with
  | some y =>
    obtain ⟨v, found, done⟩ := get?_mapValuesM ran image
    obtain ⟨x, stored, related⟩ := source found
    obtain ⟨y', done', kept⟩ := step k x v stored related
    obtain rfl := Except.ok.inj (done.symm.trans done')
    rw [stored]
    exact .some kept
  | none =>
    have related := same k
    cases found : e.get? k with
    | some v =>
      obtain ⟨y, image', -⟩ := get?_of_mapValuesM ran found
      rw [image] at image'
      cases image'
    | none =>
      rw [found] at related
      cases stored : d.get? k with
      | none => exact .none
      | some x => rw [stored] at related; cases related

theorem get?_mapValuesM_none {ε : Type} {f : α → Except ε β} {d : Dict κ α} {out : Dict κ β}
    (h : d.mapValuesM f = .ok out) {k : κ} : out.get? k = none ↔ d.get? k = none := by
  have same : k ∈ out.keys ↔ k ∈ d.keys := by rw [keys_mapValuesM h]
  rw [mem_keys_iff, mem_keys_iff] at same
  rw [← Option.not_isSome_iff_eq_none, ← Option.not_isSome_iff_eq_none, same]

theorem get?_filterKeys (p : κ → Bool) (d : Dict κ α) (k : κ) :
    (d.filterKeys p).get? k = if p k then d.get? k else none := by
  have member : ∀ v, (d.filterKeys p).get? k = some v ↔ d.get? k = some v ∧ p k = true := by
    intro v
    rw [← mem_entries_iff, ← mem_entries_iff]
    simp [filterKeys]
  apply Option.ext
  intro v
  rw [member]
  split
  · rename_i kept; simp [kept]
  · rename_i dropped; simp [dropped]

@[simp] theorem get?_ofEntries (entries : List (κ × α)) (k : κ) :
    (ofEntries entries).get? k = entries.lookup k := by
  induction entries with
  | nil => rfl
  | cons entry rest ih =>
    obtain ⟨k', v⟩ := entry
    rw [Entries.lookup_cons]
    simp only [ofEntries, get?, Entries.lookup_cons]
    by_cases h : k' = k
    · simp [h]
    · have tail := get?_filterKeys (fun k₀ => k₀ != k') (ofEntries rest) k
      simp only [get?] at tail ih
      simp [h, tail, Ne.symm h, ih]

omit [DecidableEq κ] in
theorem filterKeys_of_all {p : κ → Bool} {d : Dict κ α} (h : ∀ k ∈ d.keys, p k = true) :
    d.filterKeys p = d := by
  apply ext
  apply List.filter_eq_self.mpr
  intro e member
  exact h e.1 (List.mem_map_of_mem member)

/-- Reading distinct keys first-entry-first loses nothing. -/
@[simp] theorem ofEntries_entries (d : Dict κ α) : ofEntries d.entries = d := by
  obtain ⟨entries, nodup⟩ := d
  induction entries with
  | nil => rfl
  | cons entry rest ih =>
    obtain ⟨k, v⟩ := entry
    obtain ⟨fresh, tailNodup⟩ := List.nodup_cons.mp nodup
    have tail : (ofEntries rest).filterKeys (fun k' => k' != k) = ⟨rest, tailNodup⟩ := by
      rw [ih tailNodup]
      apply filterKeys_of_all
      intro k' member
      simp only [bne_iff_ne, ne_eq]
      rintro rfl
      exact fresh member
    apply ext
    simp only [ofEntries, tail]

end Dict

/-! ### Fallible computations -/

theorem bind_eq_ok_iff {ε α β : Type} {x : Except ε α} {f : α → Except ε β} {b : β} :
    (x >>= f) = .ok b ↔ ∃ a, x = .ok a ∧ f a = .ok b := by
  cases x <;> simp [bind, Except.bind]

theorem mapError_eq_ok_iff {ε δ α : Type} {x : Except ε α} {f : ε → δ} {a : α} : x.mapError f = .ok a ↔ x = .ok a := by
  cases x <;> simp [Except.mapError]

theorem pure_eq_ok_iff {ε α : Type} {a b : α} : (pure a : Except ε α) = .ok b ↔ a = b := Except.ok.injEq a b ▸ Iff.rfl

theorem checked_eq_ok_iff {ε α : Type} {c : Prop} [Decidable c] {x : Except ε α} {e : ε} {a : α} :
    (if c then x else throw e) = .ok a ↔ c ∧ x = .ok a := by
  split
  · rename_i passed
    simp [passed]
  · rename_i failed
    simp [failed, throw, throwThe, MonadExceptOf.throw]

/-! ### Fallible maps over lists -/

/-- Both raise the same, or both return and the results are related. -/
inductive SameResult {ε α β : Type} (R : α → β → Prop) : Except ε α → Except ε β → Prop
  | error (e : ε) : SameResult R (.error e) (.error e)
  | ok {a : α} {b : β} (related : R a b) : SameResult R (.ok a) (.ok b)

theorem SameResult.bind {ε α β α' β' : Type} {R : α → β → Prop} {S : α' → β' → Prop} {x : Except ε α} {y : Except ε β}
    {f : α → Except ε α'} {g : β → Except ε β'} (same : SameResult R x y)
    (next : ∀ a b, R a b → SameResult S (f a) (g b)) : SameResult S (x >>= f) (y >>= g) := by
  cases same with
  | error e => exact .error e
  | ok related => exact next _ _ related

theorem SameResult.map_eq {ε α β γ : Type} {R : α → β → Prop} {x : Except ε α} {y : Except ε β} {f : α → γ}
    {g : β → γ} (same : SameResult R x y) (equal : ∀ a b, R a b → f a = g b) : x.map f = y.map g := by
  cases same with
  | error e => rfl
  | ok related => exact congrArg Except.ok (equal _ _ related)

theorem SameResult.of_eq {ε α : Type} {R : α → α → Prop} (refl : ∀ a, R a a) {x y : Except ε α} (same : x = y) :
    SameResult R x y := by
  subst same
  cases x with
  | error e => exact .error e
  | ok a => exact .ok (refl a)

theorem SameResult.eq {ε α : Type} {x y : Except ε α} (same : SameResult Eq x y) : x = y := by
  cases same with
  | error e => rfl
  | ok related => rw [related]

theorem optionRel_imp {α β α' β' : Type} {R : α → β → Prop} {S : α' → β' → Prop} {f : α → α'} {g : β → β'}
    {x : Option α} {y : Option β} (same : Option.Rel R x y) (imp : ∀ a b, R a b → S (f a) (g b)) :
    Option.Rel S (x.map f) (y.map g) := by
  cases same with
  | none => exact .none
  | some same => exact .some (imp _ _ same)

theorem optionRel_mono {α β : Type} {R S : α → β → Prop} {x : Option α} {y : Option β} (same : Option.Rel R x y)
    (imp : ∀ a b, R a b → S a b) : Option.Rel S x y := by
  cases same with
  | none => exact .none
  | some same => exact .some (imp _ _ same)

theorem optionRel_flip {α β : Type} {R : α → β → Prop} {S : β → α → Prop} {x : Option α} {y : Option β}
    (same : Option.Rel R x y) (imp : ∀ a b, R a b → S b a) : Option.Rel S y x := by
  cases same with
  | none => exact .none
  | some same => exact .some (imp _ _ same)

theorem exists_of_optionRel {α β : Type} {R : α → β → Prop} {x : Option α} {y : Option β}
    (same : Option.Rel R x y) {b : β} (found : y = some b) : ∃ a, x = some a ∧ R a b := by
  subst found
  cases same with
  | some same => exact ⟨_, rfl, same⟩

theorem mapM_total {ε α β : Type} {f : α → Except ε β} {g : α → β} {xs : List α}
    (h : ∀ x ∈ xs, f x = .ok (g x)) : xs.mapM f = .ok (xs.map g) := by
  induction xs with
  | nil => rfl
  | cons x xs ih =>
    rw [List.mapM_cons, h x List.mem_cons_self, ih fun y member => h y (List.mem_cons_of_mem _ member)]
    rfl

theorem mapM_succeeds {ε α β : Type} {f : α → Except ε β} {xs : List α} :
    (∃ ys, xs.mapM f = .ok ys) ↔ ∀ x ∈ xs, ∃ y, f x = .ok y := by
  induction xs with
  | nil => exact ⟨fun _ => List.forall_mem_nil _, fun _ => ⟨[], rfl⟩⟩
  | cons x xs ih =>
    rw [List.forall_mem_cons, ← ih, List.mapM_cons]
    cases f x with
    | error e => simp [bind, Except.bind]
    | ok y => cases xs.mapM f <;> simp [bind, Except.bind, pure, Except.pure]

theorem forall₂_of_mapM {ε α β : Type} {f : α → Except ε β} {xs : List α} {ys : List β}
    (h : xs.mapM f = .ok ys) : List.Forall₂ (fun x y => f x = .ok y) xs ys := by
  induction xs generalizing ys with
  | nil =>
    obtain rfl := Except.ok.inj h
    exact .nil
  | cons x xs ih =>
    rw [List.mapM_cons] at h
    cases head : f x with
    | error e => simp [head, bind, Except.bind] at h
    | ok z =>
      cases tail : xs.mapM f with
      | error e => simp [head, tail, bind, Except.bind] at h
      | ok zs =>
        simp only [head, tail, bind, Except.bind, pure, Except.pure, Except.ok.injEq] at h
        subst h
        exact .cons head (ih tail)

theorem mapM_eq_ok_iff {ε α β : Type} {f : α → Except ε β} {xs : List α} {ys : List β} :
    xs.mapM f = .ok ys ↔ List.Forall₂ (fun x y => f x = .ok y) xs ys := by
  refine ⟨forall₂_of_mapM, fun images => ?_⟩
  induction images with
  | nil => rfl
  | cons head tail ih =>
    rw [List.mapM_cons, head, ih]
    rfl

theorem mapM_of_forall₂ {ε α β γ : Type} {f : α → Except ε β} {S : γ → α → Prop} {R : γ → β → Prop} {xs : List γ}
    {vs : List α} (same : List.Forall₂ S xs vs) (step : ∀ x ∈ xs, ∀ v, S x v → ∃ y, f v = .ok y ∧ R x y) :
    ∃ ys, vs.mapM f = .ok ys ∧ List.Forall₂ R xs ys := by
  induction same with
  | nil => exact ⟨[], rfl, .nil⟩
  | @cons x v xs vs head _ ih =>
    obtain ⟨y, first, related⟩ := step x List.mem_cons_self v head
    obtain ⟨ys, tail, rest⟩ := ih fun z member => step z (List.mem_cons_of_mem _ member)
    refine ⟨y :: ys, ?_, .cons related rest⟩
    rw [List.mapM_cons, first, tail]
    rfl

/-- A fallible map succeeds when every step does, whatever is known of each result. -/
theorem mapM_related {ε α β γ : Type} {f : α → Except ε β} {g : γ → α} {R : β → γ → Prop} {xs : List γ}
    (h : ∀ x ∈ xs, ∃ y, f (g x) = .ok y ∧ R y x) : ∃ ys, (xs.map g).mapM f = .ok ys ∧ List.Forall₂ R ys xs := by
  induction xs with
  | nil => exact ⟨[], rfl, .nil⟩
  | cons x xs ih =>
    obtain ⟨y, head, related⟩ := h x List.mem_cons_self
    obtain ⟨ys, tail, rest⟩ := ih fun z member => h z (List.mem_cons_of_mem _ member)
    refine ⟨y :: ys, ?_, .cons related rest⟩
    rw [List.map_cons, List.mapM_cons, head, tail]
    rfl

theorem exists_of_forall₂ {α β : Type} {R : α → β → Prop} {xs : List α} {ys : List β}
    (images : List.Forall₂ R xs ys) {x : α} (member : x ∈ xs) : ∃ y ∈ ys, R x y := by
  induction images with
  | nil => cases member
  | @cons z y zs ys head tail ih =>
    rcases List.mem_cons.mp member with rfl | later
    · exact ⟨y, List.mem_cons_self, head⟩
    · obtain ⟨y', member', related⟩ := ih later
      exact ⟨y', List.mem_cons_of_mem _ member', related⟩

theorem mem_mapM_of_mem {ε α β : Type} {f : α → Except ε β} {xs : List α} {ys : List β}
    (h : xs.mapM f = .ok ys) {x : α} (member : x ∈ xs) : ∃ y ∈ ys, f x = .ok y :=
  exists_of_forall₂ (forall₂_of_mapM h) member

theorem mem_of_mapM {ε α β : Type} {f : α → Except ε β} {xs : List α} {ys : List β}
    (h : xs.mapM f = .ok ys) {y : β} (member : y ∈ ys) : ∃ x ∈ xs, f x = .ok y :=
  exists_of_forall₂ (forall₂_of_mapM h).flip member

end AgentGym
