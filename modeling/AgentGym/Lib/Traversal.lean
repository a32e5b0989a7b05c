import Mathlib.Data.Set.Insert
import Mathlib.Logic.Relation

/-!
# Traversals of a graph

A depth-first traversal that checks every node and refuses the nodes that it is inside of
accepts a node if and only if everything that is reached from there is good and on no
cycle. A node may be visited more than once.
-/

namespace AgentGym.Traversal

open Relation

variable {α : Type} {child : α → α → Prop} {good : α → Prop} {active : Set α} {v w : α}

/-- What is reached from a node is good, on no cycle, and none of the nodes that are active. -/
structure Sound (child : α → α → Prop) (good : α → Prop) (active : Set α) (v : α) : Prop where
  good : ∀ w, ReflTransGen child v w → good w
  acyclic : ∀ w, ReflTransGen child v w → ¬TransGen child w w
  outside : ∀ w, ReflTransGen child v w → w ∉ active

theorem Sound.next (sound : Sound child good active v) (edge : child v w) : Sound child good (insert v active) w where
  good x reached := sound.good x (.head edge reached)
  acyclic x reached := sound.acyclic x (.head edge reached)
  outside x reached inside := by
    rcases inside with rfl | inside
    · exact sound.acyclic x .refl (TransGen.head' edge reached)
    · exact sound.outside x (.head edge reached) inside

theorem Sound.of_children (fresh : v ∉ active) (here : good v)
    (children : ∀ w, child v w → Sound child good (insert v active) w) : Sound child good active v where
  good x reached := by
    rcases reached.cases_head with rfl | ⟨w, edge, rest⟩
    · exact here
    · exact (children w edge).good x rest
  acyclic x reached cycle := by
    rcases reached.cases_head with rfl | ⟨w, edge, rest⟩
    · obtain ⟨w, edge, back⟩ := TransGen.head'_iff.mp cycle
      exact (children w edge).outside v back (Set.mem_insert v active)
    · exact (children w edge).acyclic x rest cycle
  outside x reached := by
    rcases reached.cases_head with rfl | ⟨w, edge, rest⟩
    · exact fresh
    · exact fun inside => (children w edge).outside x rest (Set.mem_insert_of_mem v inside)

/-- A traversal goes on from a node with that node active. -/
theorem sound_iff : Sound child good active v ↔
    v ∉ active ∧ good v ∧ ∀ w, child v w → Sound child good (insert v active) w := by
  constructor
  · intro sound
    exact ⟨sound.outside v .refl, sound.good v .refl, fun w edge => sound.next edge⟩
  · rintro ⟨fresh, here, children⟩
    exact .of_children fresh here children

end AgentGym.Traversal
