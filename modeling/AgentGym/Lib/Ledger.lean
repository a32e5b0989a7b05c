import Mathlib.Data.List.Infix
import Mathlib.Logic.Function.Basic
import AgentGym.Lib.Machine

/-!
# Append-only ledgers

A ledger keeps a list of entries for each key, numbered from one. When every step of a
machine only extends its ledger, whatever is read under a key and a number anywhere along
a run is the same entry.
-/

namespace AgentGym

abbrev Ledger (κ α : Type) := κ → List α

namespace Ledger

variable {κ α : Type}

/-- `a` is entry number `n` of `k`. -/
def Holds (l : Ledger κ α) (k : κ) (n : Int) (a : α) : Prop :=
  ∃ i : Nat, n = i + 1 ∧ (l k)[i]? = some a

/-- Every list of `l` is the start of the one in `l'`. -/
def Extends (l l' : Ledger κ α) : Prop := ∀ k, l k <+: l' k

def append [DecidableEq κ] (l : Ledger κ α) (k : κ) (a : α) : Ledger κ α :=
  Function.update l k (l k ++ [a])

theorem Extends.refl (l : Ledger κ α) : Extends l l := fun _ => List.prefix_rfl

theorem Extends.trans {a b c : Ledger κ α} (hab : Extends a b) (hbc : Extends b c) : Extends a c :=
  fun k => (hab k).trans (hbc k)

theorem append_extends [DecidableEq κ] (l : Ledger κ α) (k : κ) (a : α) : Extends l (l.append k a) := by
  intro k'
  by_cases h : k' = k
  · subst h
    simp [append]
  · simp [append, h]

theorem Holds.mono {l l' : Ledger κ α} (grown : Extends l l') {k : κ} {n : Int} {a : α}
    (h : l.Holds k n a) : l'.Holds k n a := by
  obtain ⟨i, number, entry⟩ := h
  obtain ⟨rest, whole⟩ := grown k
  refine ⟨i, number, ?_⟩
  rw [← whole, List.getElem?_append_left (List.getElem?_eq_some_iff.mp entry).1]
  exact entry

theorem Holds.unique {l : Ledger κ α} {k : κ} {n : Int} {a b : α} (ha : l.Holds k n a)
    (hb : l.Holds k n b) : a = b := by
  obtain ⟨i, hi, left⟩ := ha
  obtain ⟨j, hj, right⟩ := hb
  have same : i = j := by omega
  subst same
  exact Option.some.inj (left.symm.trans right)

theorem Extends.length_le {l l' : Ledger κ α} (grown : Extends l l') (k : κ) :
    (l k).length ≤ (l' k).length :=
  (grown k).length_le

/-! ### Along a run -/

section Run

variable {σ ε ρ : Type} {step : σ → ε → ρ × σ} (view : σ → Ledger κ α) {Inv : σ → Prop}
  (keep : ∀ s e, Inv s → Inv (step s e).2)
  (grow : ∀ s e, Inv s → Extends (view s) (view (step s e).2))
include keep grow

theorem extends_final {s : σ} (h : Inv s) (es : List ε) :
    Extends (view s) (view (Machine.final step s es)) :=
  Machine.le_final (R := fun a b => Extends (view a) (view b)) keep (fun s => .refl (view s))
    (fun hab hbc => hab.trans hbc) grow h es

theorem after_extends_final {s : σ} (h : Inv s) {es : List ε} {t : Transition σ ε ρ}
    (member : t ∈ Machine.trace step s es) :
    Extends (view t.after) (view (Machine.final step s es)) :=
  Machine.after_le_final (R := fun a b => Extends (view a) (view b)) keep (fun s => .refl (view s))
    (fun hab hbc => hab.trans hbc) grow h member

theorem states_extend_final {s : σ} (h : Inv s) {es : List ε} {s' : σ}
    (member : s' ∈ Machine.states step s es) : Extends (view s') (view (Machine.final step s es)) := by
  rcases List.mem_cons.mp member with rfl | later
  · exact extends_final view keep grow h es
  · obtain ⟨t, inTrace, rfl⟩ := List.mem_map.mp later
    exact after_extends_final view keep grow h inTrace

theorem pairwise_extends {s : σ} (h : Inv s) (es : List ε) :
    (Machine.trace step s es).Pairwise fun t u => Extends (view t.after) (view u.before) :=
  Machine.pairwise_trace (R := fun a b => Extends (view a) (view b)) keep (fun s => .refl (view s))
    (fun hab hbc => hab.trans hbc) grow h es

end Run

end Ledger

end AgentGym
