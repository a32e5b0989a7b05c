import Mathlib.Data.List.Basic

/-!
# Machines that answer events

A machine takes a state and an event to a response and a next state. The rules here
turn a fact about one step into a fact about every run.
-/

namespace AgentGym

/-- One step of a run, with the states around it. -/
structure Transition (σ ε ρ : Type) where
  before : σ
  event : ε
  response : ρ
  after : σ

namespace Machine

variable {σ ε ρ : Type} (step : σ → ε → ρ × σ)

def transition (s : σ) (e : ε) : Transition σ ε ρ := ⟨s, e, (step s e).1, (step s e).2⟩

def final (s : σ) : List ε → σ
  | [] => s
  | e :: es => final (step s e).2 es

def trace (s : σ) : List ε → List (Transition σ ε ρ)
  | [] => []
  | e :: es => transition step s e :: trace (step s e).2 es

def responses (s : σ) (es : List ε) : List ρ := (trace step s es).map Transition.response

/-- The states of a run, first to last. -/
def states (s : σ) (es : List ε) : List σ := s :: (trace step s es).map Transition.after

variable {step}

theorem final_append (s : σ) (es es' : List ε) : final step s (es ++ es') = final step (final step s es) es' := by
  induction es generalizing s with
  | nil => rfl
  | cons e es ih => exact ih (step s e).2

theorem transition_of_mem {s : σ} {es : List ε} {t : Transition σ ε ρ} (h : t ∈ trace step s es) :
    t = transition step t.before t.event := by
  induction es generalizing s with
  | nil => simp [trace] at h
  | cons e es ih =>
    rcases List.mem_cons.mp h with rfl | later
    · rfl
    · exact ih later

/-- What comes before a step of a run is a run of its own, up to that step. -/
theorem trace_split {s : σ} {es : List ε} {before after : List (Transition σ ε ρ)} {t : Transition σ ε ρ}
    (split : trace step s es = before ++ t :: after) :
    ∃ es₁ es₂, es = es₁ ++ t.event :: es₂ ∧ before = trace step s es₁ ∧
      t = transition step (final step s es₁) t.event := by
  induction before generalizing s es with
  | nil =>
    cases es with
    | nil => cases split
    | cons e es =>
      obtain ⟨rfl, -⟩ := List.cons.inj split
      exact ⟨[], es, rfl, rfl, rfl⟩
  | cons u before ih =>
    cases es with
    | nil => cases split
    | cons e es =>
      obtain ⟨rfl, rest⟩ := List.cons.inj split
      obtain ⟨es₁, es₂, rfl, rfl, last⟩ := ih rest
      exact ⟨e :: es₁, es₂, rfl, rfl, last⟩

theorem event_mem_of_mem {s : σ} {es : List ε} {t : Transition σ ε ρ} (h : t ∈ trace step s es) : t.event ∈ es := by
  induction es generalizing s with
  | nil => simp [trace] at h
  | cons e es ih =>
    rcases List.mem_cons.mp h with rfl | later
    · exact List.mem_cons_self
    · exact List.mem_cons_of_mem _ (ih later)

theorem before_mem_states {s : σ} {es : List ε} {t : Transition σ ε ρ} (h : t ∈ trace step s es) :
    t.before ∈ states step s es := by
  induction es generalizing s with
  | nil => simp [trace] at h
  | cons e es ih =>
    rcases List.mem_cons.mp h with rfl | later
    · exact List.mem_cons_self
    · exact List.mem_cons_of_mem _ (ih later)

/-! ### Invariants -/

section Invariant

variable {Inv : σ → Prop} (keep : ∀ s e, Inv s → Inv (step s e).2)
include keep

theorem final_inv {s : σ} (h : Inv s) (es : List ε) : Inv (final step s es) := by
  induction es generalizing s with
  | nil => exact h
  | cons e es ih => exact ih (keep s e h)

theorem before_inv {s : σ} (h : Inv s) {es : List ε} {t : Transition σ ε ρ}
    (member : t ∈ trace step s es) : Inv t.before := by
  induction es generalizing s with
  | nil => simp [trace] at member
  | cons e es ih =>
    rcases List.mem_cons.mp member with rfl | later
    · exact h
    · exact ih (keep s e h) later

theorem after_inv {s : σ} (h : Inv s) {es : List ε} {t : Transition σ ε ρ}
    (member : t ∈ trace step s es) : Inv t.after := by
  have start := before_inv keep h member
  rw [transition_of_mem member]
  exact keep _ _ start

theorem states_inv {s : σ} (h : Inv s) {es : List ε} {s' : σ} (member : s' ∈ states step s es) :
    Inv s' := by
  rcases List.mem_cons.mp member with rfl | later
  · exact h
  · obtain ⟨t, inTrace, rfl⟩ := List.mem_map.mp later
    exact after_inv keep h inTrace

omit keep in
/-- An invariant that a step keeps under a condition is kept by a run whose steps all meet it. -/
theorem states_inv_of {P : σ → ε → Prop} (keep : ∀ s e, P s e → Inv s → Inv (step s e).2) {s : σ} (h : Inv s)
    {es : List ε} (meets : ∀ t ∈ trace step s es, P t.before t.event) {s' : σ} (member : s' ∈ states step s es) :
    Inv s' := by
  induction es generalizing s with
  | nil =>
    obtain rfl := List.mem_singleton.mp member
    exact h
  | cons e es ih =>
    have first : P s e := meets (transition step s e) List.mem_cons_self
    rcases List.mem_cons.mp member with rfl | later
    · exact h
    · exact ih (keep s e first h) (fun t inside => meets t (List.mem_cons_of_mem _ inside)) later

omit keep in
theorem final_mem_states (s : σ) (es : List ε) : final step s es ∈ states step s es := by
  induction es generalizing s with
  | nil => exact List.mem_singleton.mpr rfl
  | cons e es ih => exact List.mem_cons_of_mem _ (ih (step s e).2)

omit keep in
theorem final_inv_of {P : σ → ε → Prop} (keep : ∀ s e, P s e → Inv s → Inv (step s e).2) {s : σ} (h : Inv s)
    {es : List ε} (meets : ∀ t ∈ trace step s es, P t.before t.event) : Inv (final step s es) :=
  states_inv_of keep h meets (final_mem_states s es)

/-! ### Growth along a run -/

variable {R : σ → σ → Prop} (refl : ∀ s, R s s)
  (trans : ∀ {a b c}, R a b → R b c → R a c)
  (grow : ∀ s e, Inv s → R s (step s e).2)
include refl trans grow

theorem le_final {s : σ} (h : Inv s) (es : List ε) : R s (final step s es) := by
  induction es generalizing s with
  | nil => exact refl s
  | cons e es ih => exact trans (grow s e h) (ih (keep s e h))

theorem le_before {s : σ} (h : Inv s) {es : List ε} {t : Transition σ ε ρ}
    (member : t ∈ trace step s es) : R s t.before := by
  induction es generalizing s with
  | nil => simp [trace] at member
  | cons e es ih =>
    rcases List.mem_cons.mp member with rfl | later
    · exact refl s
    · exact trans (grow s e h) (ih (keep s e h) later)

theorem after_le_final {s : σ} (h : Inv s) {es : List ε} {t : Transition σ ε ρ}
    (member : t ∈ trace step s es) : R t.after (final step s es) := by
  induction es generalizing s with
  | nil => simp [trace] at member
  | cons e es ih =>
    rcases List.mem_cons.mp member with rfl | later
    · exact le_final keep refl trans grow (keep s e h) es
    · exact ih (keep s e h) later

/-- Each step ends below where every later one begins. -/
theorem pairwise_trace {s : σ} (h : Inv s) (es : List ε) :
    (trace step s es).Pairwise fun t u => R t.after u.before := by
  induction es generalizing s with
  | nil => exact List.Pairwise.nil
  | cons e es ih =>
    refine List.Pairwise.cons ?_ (ih (keep s e h))
    intro u member
    exact le_before keep refl trans grow (keep s e h) member

end Invariant

/-- Two runs on the same events that a relation keeps together give the same responses. -/
theorem simulation {R : σ → σ → Prop} {P : ε → Prop}
    (keep : ∀ a b e, P e → R a b → (step a e).1 = (step b e).1 ∧ R (step a e).2 (step b e).2)
    {a b : σ} (h : R a b) {es : List ε} (events : ∀ e ∈ es, P e) :
    responses step a es = responses step b es ∧ R (final step a es) (final step b es) := by
  induction es generalizing a b with
  | nil => exact ⟨rfl, h⟩
  | cons e es ih =>
    obtain ⟨same, next⟩ := keep a b e (events e List.mem_cons_self) h
    obtain ⟨rest, last⟩ := ih next fun e' member => events e' (List.mem_cons_of_mem _ member)
    refine ⟨?_, last⟩
    simp only [responses, trace, transition, List.map_cons] at rest ⊢
    rw [same, rest]

/-- Two runs on the same events that a relation keeps together answer each event alike. -/
theorem related {τ ρ' : Type} {step' : τ → ε → ρ' × τ} {R : σ → τ → Prop} {S : ρ → ρ' → Prop}
    (keep : ∀ a b e, R a b → S (step a e).1 (step' b e).1 ∧ R (step a e).2 (step' b e).2)
    {a : σ} {b : τ} (h : R a b) (es : List ε) :
    List.Forall₂ S (responses step a es) (responses step' b es) ∧ R (final step a es) (final step' b es) := by
  induction es generalizing a b with
  | nil => exact ⟨.nil, h⟩
  | cons e es ih =>
    obtain ⟨same, next⟩ := keep a b e h
    obtain ⟨rest, last⟩ := ih next
    exact ⟨.cons same rest, last⟩

end Machine

end AgentGym
