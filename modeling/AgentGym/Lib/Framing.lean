import Mathlib.Data.List.Basic

/-!
# Codes that say where they end

A code relates values to words. Where each word can be told from whatever follows it, words
can be put one after another and the values are still read off.
-/

namespace AgentGym.Framing

variable {α β γ : Type} {R : α → List β → Prop} {S : γ → List β → Prop}

/-- A word tells its value, and where it ends. -/
def SelfDelimiting (R : α → List β → Prop) : Prop :=
  ∀ a b x y rest rest', R a x → R b y → x ++ rest = y ++ rest' → a = b ∧ rest = rest'

theorem selfDelimiting_of_width {n : Nat} (width : ∀ a x, R a x → x.length = n)
    (injective : ∀ a b x, R a x → R b x → a = b) : SelfDelimiting R := by
  intro a b x y rest rest' left right same
  obtain ⟨rfl, rfl⟩ := List.append_inj same ((width a x left).trans (width b y right).symm)
  exact ⟨injective a b x left right, rfl⟩

/-- The length first, then the symbols themselves. -/
def Prefixed (R : Nat → List β → Prop) (xs w : List β) : Prop := ∃ length, R xs.length length ∧ w = length ++ xs

theorem SelfDelimiting.prefixed {R : Nat → List β → Prop} (lengths : SelfDelimiting R) : SelfDelimiting (Prefixed R) := by
  rintro xs ys _ _ rest rest' ⟨h, left, rfl⟩ ⟨h', right, rfl⟩ same
  rw [List.append_assoc, List.append_assoc] at same
  obtain ⟨length, same⟩ := lengths _ _ _ _ _ _ left right same
  exact List.append_inj same length

/-- One value after the other. -/
def Both (R : α → List β → Prop) (S : γ → List β → Prop) (pair : α × γ) (w : List β) : Prop :=
  ∃ x y, R pair.1 x ∧ S pair.2 y ∧ w = x ++ y

theorem SelfDelimiting.both (first : SelfDelimiting R) (second : SelfDelimiting S) : SelfDelimiting (Both R S) := by
  rintro ⟨a, c⟩ ⟨b, d⟩ _ _ rest rest' ⟨x, y, left, after, rfl⟩ ⟨x', y', right, after', rfl⟩ same
  rw [List.append_assoc, List.append_assoc] at same
  obtain ⟨rfl, same⟩ := first _ _ _ _ _ _ left right same
  obtain ⟨rfl, same⟩ := second _ _ _ _ _ _ after after' same
  exact ⟨rfl, same⟩

/-- The words of a list of values, one after another. -/
inductive Sequence (R : α → List β → Prop) : List α → List β → Prop where
  | nil : Sequence R [] []
  | cons {a x as w} : R a x → Sequence R as w → Sequence R (a :: as) (x ++ w)

theorem Sequence.injective (code : SelfDelimiting R) (nonempty : ∀ a, ¬ R a []) {as bs : List α} {w : List β}
    (left : Sequence R as w) (right : Sequence R bs w) : as = bs := by
  induction left generalizing bs with
  | nil =>
    generalize empty : [] = both at right
    cases right with
    | nil => rfl
    | cons coded _ =>
      obtain ⟨rfl, -⟩ := List.append_eq_nil_iff.mp empty.symm
      exact absurd coded (nonempty _)
  | @cons a x as w coded _ ih =>
    generalize whole : x ++ w = both at right
    cases right with
    | nil =>
      obtain ⟨rfl, -⟩ := List.append_eq_nil_iff.mp whole
      exact absurd coded (nonempty _)
    | cons coded' later =>
      obtain ⟨rfl, rfl⟩ := code _ _ _ _ _ _ coded coded' whole
      rw [ih later]

end AgentGym.Framing
