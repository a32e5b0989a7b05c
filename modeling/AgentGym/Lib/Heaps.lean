import AgentGym.Lib.Steps
import Mathlib.Data.List.Forall2
import Mathlib.Data.Set.Insert
import Mathlib.Logic.Function.Basic
import Mathlib.Logic.Relation

/-!
# Heaps

A heap has cells that are known by numbers and refer to each other. Where the cells of a
closed set stay as they are, so does everything that is seen from one of them, whatever
becomes of the other cells.
-/

namespace AgentGym

structure Heap (γ : Type) where
  cells : Nat → γ
  /-- The number of the next cell. -/
  size : Nat

namespace Heap

variable {γ : Type}

def push (h : Heap γ) (cell : γ) : Heap γ := ⟨Function.update h.cells h.size cell, h.size + 1⟩

def set (h : Heap γ) (id : Nat) (cell : γ) : Heap γ := ⟨Function.update h.cells id cell, h.size⟩

/-- The cells that there are. -/
def live (h : Heap γ) : Set Nat := {id | id < h.size}

/-- The cells of the set refer to cells of the set. -/
def Closed (refs : γ → Set Nat) (h : Heap γ) (S : Set Nat) : Prop := ∀ id ∈ S, refs (h.cells id) ⊆ S

/-- The cells of the set are the same. -/
def Agrees (S : Set Nat) (h h' : Heap γ) : Prop := ∀ id ∈ S, h'.cells id = h.cells id

variable {refs : γ → Set Nat} {h h' h'' : Heap γ} {S T : Set Nat} {cell : γ} {id : Nat}

@[simp] theorem size_push : (h.push cell).size = h.size + 1 := rfl

@[simp] theorem size_set : (h.set id cell).size = h.size := rfl

@[simp] theorem cells_push_self : (h.push cell).cells h.size = cell := Function.update_self ..

@[simp] theorem cells_set_self : (h.set id cell).cells id = cell := Function.update_self ..

theorem cells_push_of_live (inside : id ∈ h.live) : (h.push cell).cells id = h.cells id :=
  Function.update_of_ne (Nat.ne_of_lt inside) ..

theorem cells_set_of_ne {id' : Nat} (other : id' ≠ id) : (h.set id cell).cells id' = h.cells id' :=
  Function.update_of_ne other ..

theorem live_push : (h.push cell).live = insert h.size h.live := by
  ext id
  exact Nat.lt_succ_iff_lt_or_eq.trans Or.comm

theorem Agrees.refl (S : Set Nat) (h : Heap γ) : Agrees S h h := fun _ _ => rfl

theorem Agrees.trans (first : Agrees S h h') (later : Agrees S h' h'') : Agrees S h h'' :=
  fun id inside => (later id inside).trans (first id inside)

theorem Agrees.mono (agrees : Agrees T h h') (subset : S ⊆ T) : Agrees S h h' :=
  fun id inside => agrees id (subset inside)

theorem agrees_push : Agrees h.live h (h.push cell) := fun _ inside => cells_push_of_live inside

theorem agrees_set (outside : id ∉ S) : Agrees S h (h.set id cell) := fun _ inside =>
  cells_set_of_ne fun same => outside (same ▸ inside)

theorem Closed.agrees (closed : Closed refs h S) (agrees : Agrees S h h') : Closed refs h' S := by
  intro id inside
  rw [agrees id inside]
  exact closed id inside

/-- A new cell closes the set with the cells that it refers to. -/
theorem Closed.push (closed : Closed refs h S) (subset : S ⊆ h.live) (within : refs cell ⊆ S) :
    Closed refs (h.push cell) (insert h.size S) := by
  rintro id (rfl | inside)
  · rw [cells_push_self]
    exact within.trans (Set.subset_insert _ _)
  · rw [cells_push_of_live (subset inside)]
    exact (closed id inside).trans (Set.subset_insert _ _)

theorem Closed.set (closed : Closed refs h S) (within : refs cell ⊆ S) : Closed refs (h.set id cell) S := by
  intro id' inside
  by_cases same : id' = id
  · subst same
    rw [cells_set_self]
    exact within
  · rw [cells_set_of_ne same]
    exact closed id' inside

def edge (refs : γ → Set Nat) (h : Heap γ) (source target : Nat) : Prop := target ∈ refs (h.cells source)

theorem Closed.reach (closed : Closed refs h S) {source target : Nat} (inside : source ∈ S)
    (path : Relation.ReflTransGen (h.edge refs) source target) : target ∈ S := by
  induction path with
  | refl => exact inside
  | tail _ last ih => exact closed _ ih last

end Heap

/-! ### Steps one after the other -/

namespace Steps

variable {ε σ α β : Type}

section Ends

variable {m : Steps ε σ α} {f : α → Steps ε σ β} {s : σ} {Q Q' : α → σ → Prop} {R : β → σ → Prop} {E E' : ε → σ → Prop}

theorem ends_bind (first : Ends Q E (outcome m s)) (later : ∀ a s', Q a s' → Ends R E (outcome (f a) s')) :
    Ends R E (outcome (m >>= f) s) := by
  rw [outcome_bind]
  generalize outcome m s = x at first ⊢
  obtain ⟨e | a, s'⟩ := x
  · exact first
  · exact later a s' first

theorem ends_mono (ends : Ends Q E (outcome m s)) (answers : ∀ a s', Q a s' → Q' a s')
    (failures : ∀ e s', E e s' → E' e s') : Ends Q' E' (outcome m s) := by
  generalize outcome m s = x at ends ⊢
  obtain ⟨e | a, s'⟩ := x
  · exact failures e s' ends
  · exact answers a s' ends

theorem ends_bind_of (first : Ends Q E' (outcome m s)) (failures : ∀ e s', E' e s' → E e s')
    (later : ∀ a s', Q a s' → Ends R E (outcome (f a) s')) : Ends R E (outcome (m >>= f) s) :=
  ends_bind (ends_mono first (fun _ _ => id) failures) later

/-- One step for each value, each from a state that the ones before may have grown. -/
theorem ends_mapM {G : σ → σ → Prop} (refl : ∀ s, G s s) (trans : ∀ a b c, G a b → G b c → G a c) {P : σ → α → β → Prop}
    (mono : ∀ s s' a b, G s s' → P s a b → P s' a b) {xs : List α}
    (each : ∀ a ∈ xs, ∀ s', G s s' → Ends (fun b s'' => G s' s'' ∧ P s'' a b) E (outcome (f a) s')) :
    Ends (fun bs s' => G s s' ∧ List.Forall₂ (P s') xs bs) E (outcome (xs.mapM f) s) := by
  induction xs generalizing s with
  | nil => exact ⟨refl s, .nil⟩
  | cons x xs ih =>
    rw [List.mapM_cons]
    refine ends_bind (each x List.mem_cons_self s (refl s)) ?_
    rintro b s₁ ⟨grown, good⟩
    have rest := ih fun a member s' grown' => each a (List.mem_cons_of_mem _ member) s' (trans s s₁ s' grown grown')
    refine ends_bind rest ?_
    rintro bs s₂ ⟨grown', others⟩
    exact ⟨trans s s₁ s₂ grown grown', .cons (mono s₁ s₂ x b grown' good) others⟩

end Ends

end Steps

end AgentGym
