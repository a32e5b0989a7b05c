/-!
# Effectful steps

A step reads and changes a state and may raise. What a step that raised did to the state
stays done. `Keeps` collects the rules for facts that relate the state before a step to
the state after it, whether or not it raised; `Triple` those for pre- and postconditions,
with one postcondition for answers and one for failures; `Simulates` those for a step
on a whole state and one on what is seen of it.
-/

namespace AgentGym

abbrev Steps (ε σ : Type) := ExceptT ε (StateM σ)

namespace Steps

variable {ε σ α β : Type}

/-- What a step answers and the state it leaves. -/
def outcome (m : Steps ε σ α) (s : σ) : Except ε α × σ := StateT.run (ExceptT.run m) s

/-- The step a function of the state describes. -/
def ofFn (f : σ → Except ε α × σ) : Steps ε σ α := ExceptT.mk f

@[simp] theorem outcome_pure (a : α) (s : σ) : outcome (pure a : Steps ε σ α) s = (.ok a, s) := rfl

@[simp] theorem outcome_throw (e : ε) (s : σ) : outcome (throw e : Steps ε σ α) s = (.error e, s) := rfl

@[simp] theorem outcome_get (s : σ) : outcome (get : Steps ε σ σ) s = (.ok s, s) := rfl

@[simp] theorem outcome_set (s s' : σ) : outcome (set s' : Steps ε σ PUnit) s = (.ok ⟨⟩, s') := rfl

@[simp] theorem outcome_modify (f : σ → σ) (s : σ) : outcome (modify f : Steps ε σ PUnit) s = (.ok ⟨⟩, f s) := rfl

@[simp] theorem outcome_ofFn (f : σ → Except ε α × σ) (s : σ) : outcome (ofFn f) s = f s := rfl

theorem outcome_bind (m : Steps ε σ α) (f : α → Steps ε σ β) (s : σ) :
    outcome (m >>= f) s = match outcome m s with
      | (.ok a, s') => outcome (f a) s'
      | (.error e, s') => (.error e, s') := by
  show (match StateT.run (ExceptT.run m) s with
    | (a, s') => StateT.run (ExceptT.bindCont (fun a => f a) a) s') = _
  unfold outcome
  generalize StateT.run (ExceptT.run m) s = x
  obtain ⟨_ | _, _⟩ := x <;> rfl

theorem outcome_bind_ok {m : Steps ε σ α} {f : α → Steps ε σ β} {s s' : σ} {a : α}
    (h : outcome m s = (.ok a, s')) : outcome (m >>= f) s = outcome (f a) s' := by
  rw [outcome_bind, h]

theorem outcome_bind_error {m : Steps ε σ α} {f : α → Steps ε σ β} {s s' : σ} {e : ε}
    (h : outcome m s = (.error e, s')) : outcome (m >>= f) s = (.error e, s') := by
  rw [outcome_bind, h]

theorem outcome_map (f : α → β) (m : Steps ε σ α) (s : σ) :
    outcome (f <$> m) s = ((outcome m s).1.map f, (outcome m s).2) := by
  rw [map_eq_pure_bind, outcome_bind]
  split
  · rename_i a s' ran
    rw [ran]
    rfl
  · rename_i e s' ran
    rw [ran]
    rfl

theorem outcome_bind_eq_ok {m : Steps ε σ α} {f : α → Steps ε σ β} {s s' : σ} {b : β}
    (h : outcome (m >>= f) s = (.ok b, s')) :
    ∃ a s₁, outcome m s = (.ok a, s₁) ∧ outcome (f a) s₁ = (.ok b, s') := by
  rw [outcome_bind] at h
  split at h
  · rename_i a s₁ ran
    exact ⟨a, s₁, ran, h⟩
  · simp at h

/-- After a step that leaves the state as it was, a sequence answers when both of its steps do from there. -/
theorem outcome_bind_fst_eq_ok {m : Steps ε σ Unit} {n : Unit → Steps ε σ β} {s : σ} {b : β}
    (state : (outcome m s).2 = s) :
    (outcome (m >>= n) s).1 = .ok b ↔ (outcome m s).1 = .ok () ∧ (outcome (n ()) s).1 = .ok b := by
  rw [outcome_bind]
  generalize outcome m s = x at state ⊢
  obtain ⟨_ | _, s'⟩ := x
  · simp
  · obtain rfl : s' = s := state
    simp

theorem outcome_bind_congr {m m' : Steps ε σ Unit} {n n' : Unit → Steps ε σ β} {s : σ} (state : (outcome m s).2 = s)
    (first : outcome m' s = outcome m s) (later : outcome (n' ()) s = outcome (n ()) s) :
    outcome (m' >>= n') s = outcome (m >>= n) s := by
  rw [outcome_bind, outcome_bind, first]
  generalize outcome m s = x at state ⊢
  obtain ⟨_ | _, s'⟩ := x
  · rfl
  · obtain rfl : s' = s := state
    exact later

/-- The step, with what it raised as its answer. -/
def attempt (m : Steps ε σ α) : Steps ε σ (Except ε α) := ofFn fun s => (.ok (outcome m s).1, (outcome m s).2)

/-- The step with a cleanup that runs in any case; what the cleanup raises replaces the answer. -/
def andFinally (m : Steps ε σ α) (cleanup : Steps ε σ Unit) : Steps ε σ α := ofFn fun s =>
  match outcome cleanup (outcome m s).2 with
  | (.ok (), s') => ((outcome m s).1, s')
  | (.error e, s') => (.error e, s')

theorem outcome_andFinally_eq_ok {m : Steps ε σ α} {cleanup : Steps ε σ Unit} {s s' : σ} {a : α}
    (h : outcome (andFinally m cleanup) s = (.ok a, s')) :
    ∃ s₁, outcome m s = (.ok a, s₁) ∧ outcome cleanup s₁ = (.ok (), s') := by
  simp only [andFinally, outcome_ofFn] at h
  split at h
  · rename_i s₂ cleaned
    obtain ⟨answered, rfl⟩ := Prod.mk.inj h
    exact ⟨(outcome m s).2, Prod.ext answered rfl, cleaned⟩
  · simp at h

/-- A step on a part of a larger state. -/
def zoom {τ : Type} (part : τ → σ) (put : σ → τ → τ) (m : Steps ε σ α) : Steps ε τ α := ofFn fun t =>
  ((outcome m (part t)).1, put (outcome m (part t)).2 t)

/-- The step, raising what `f` makes of what it raised. -/
def mapError {ε' : Type} (f : ε → ε') (m : Steps ε σ α) : Steps ε' σ α := ofFn fun s =>
  ((outcome m s).1.mapError f, (outcome m s).2)

/-- A value, or what stands in its place. -/
def lift (a : Except ε α) : Steps ε σ α := ofFn fun s => (a, s)

@[simp] theorem outcome_attempt (m : Steps ε σ α) (s : σ) :
    outcome (attempt m) s = (.ok (outcome m s).1, (outcome m s).2) := rfl

@[simp] theorem outcome_zoom {τ : Type} (part : τ → σ) (put : σ → τ → τ) (m : Steps ε σ α) (t : τ) :
    outcome (zoom part put m) t = ((outcome m (part t)).1, put (outcome m (part t)).2 t) := rfl

@[simp] theorem outcome_mapError {ε' : Type} (f : ε → ε') (m : Steps ε σ α) (s : σ) :
    outcome (mapError f m) s = ((outcome m s).1.mapError f, (outcome m s).2) := rfl

@[simp] theorem outcome_lift (a : Except ε α) (s : σ) : outcome (lift a : Steps ε σ α) s = (a, s) := rfl

/-- A step relates the state before it to the state after it. -/
def Keeps (R : σ → σ → Prop) (m : Steps ε σ α) : Prop := ∀ s, R s (outcome m s).2

section Keeps

variable {R : σ → σ → Prop}

variable (refl : ∀ s, R s s)
include refl

theorem keeps_pure (a : α) : Keeps R (pure a : Steps ε σ α) := fun s => refl s

theorem keeps_get : Keeps R (get : Steps ε σ σ) := fun s => refl s

theorem keeps_throw (e : ε) : Keeps R (throw e : Steps ε σ α) := fun s => refl s

theorem keeps_lift (a : Except ε α) : Keeps R (lift a : Steps ε σ α) := fun s => refl s

omit refl in
theorem keeps_modify {f : σ → σ} (h : ∀ s, R s (f s)) : Keeps R (modify f : Steps ε σ PUnit) := h

omit refl in
theorem keeps_attempt {m : Steps ε σ α} (h : Keeps R m) : Keeps R (attempt m) := h

omit refl in
theorem keeps_mapError {ε' : Type} {f : ε → ε'} {m : Steps ε σ α} (h : Keeps R m) : Keeps R (mapError f m) := h

omit refl in
theorem keeps_bind (trans : ∀ a b c, R a b → R b c → R a c) {m : Steps ε σ α} {f : α → Steps ε σ β}
    (first : Keeps R m) (later : ∀ a, Keeps R (f a)) : Keeps R (m >>= f) := by
  intro s
  have start := first s
  rw [outcome_bind]
  split
  · rename_i a s' ran
    rw [ran] at start
    exact trans _ _ _ start (later a s')
  · rename_i e s' ran
    rw [ran] at start
    exact start

end Keeps

/-- A good answer, or a good failure. -/
def Ends (Q : α → σ → Prop) (E : ε → σ → Prop) : Except ε α × σ → Prop
  | (.ok a, s) => Q a s
  | (.error e, s) => E e s

/-- From a state of `P` the step answers into `Q` or raises into `E`. -/
def Triple (P : σ → Prop) (m : Steps ε σ α) (Q : α → σ → Prop) (E : ε → σ → Prop) : Prop :=
  ∀ s, P s → Ends Q E (outcome m s)

section Triple

variable {P P' : σ → Prop} {Q Q' : α → σ → Prop} {R : β → σ → Prop} {E E' : ε → σ → Prop}

theorem triple_pure {a : α} (h : ∀ s, P s → Q a s) : Triple P (pure a : Steps ε σ α) Q E := h

theorem triple_modify {f : σ → σ} {Q : PUnit → σ → Prop} (h : ∀ s, P s → Q ⟨⟩ (f s)) :
    Triple P (modify f : Steps ε σ PUnit) Q E := h

theorem triple_ofFn {f : σ → Except ε α × σ} (h : ∀ s, P s → Ends Q E (f s)) : Triple P (ofFn f) Q E := h

theorem triple_bind {m : Steps ε σ α} {f : α → Steps ε σ β} (first : Triple P m Q E)
    (later : ∀ a, Triple (Q a) (f a) R E) : Triple P (m >>= f) R E := by
  intro s start
  have ran := first s start
  rw [outcome_bind]
  split
  · rename_i a s' eq
    rw [eq] at ran
    exact later a s' ran
  · rename_i e s' eq
    rw [eq] at ran
    exact ran

theorem triple_throw {e : ε} (h : ∀ s, P s → E e s) : Triple P (throw e : Steps ε σ α) Q E := h

theorem triple_consequence {m : Steps ε σ α} (h : Triple P' m Q' E') (pre : ∀ s, P s → P' s)
    (post : ∀ a s, Q' a s → Q a s) (failure : ∀ e s, E' e s → E e s) : Triple P m Q E := by
  intro s start
  have ran := h s (pre s start)
  generalize outcome m s = x at ran ⊢
  obtain ⟨e | a, s'⟩ := x
  · exact failure e s' ran
  · exact post a s' ran

/-- What the related states have in common, both ways of ending have. -/
theorem triple_of_keeps {K : σ → σ → Prop} {I : σ → Prop} {m : Steps ε σ α} (keeps : Keeps K m)
    (reach : ∀ s s', P s → K s s' → I s') : Triple P m (fun _ => I) (fun _ => I) := by
  intro s start
  have ended := reach s _ start (keeps s)
  generalize outcome m s = x at ended ⊢
  obtain ⟨_ | _, _⟩ := x <;> exact ended

/-- What holds after the step in any case is what the cleanup starts from. -/
theorem triple_andFinally {m : Steps ε σ α} {cleanup : Steps ε σ Unit} {I R : σ → Prop}
    (body : Triple P m (fun _ => I) (fun _ => I)) (cleans : Triple I cleanup (fun _ => R) (fun _ => R)) :
    Triple P (andFinally m cleanup) (fun _ => R) (fun _ => R) := by
  intro s start
  have ran := body s start
  have left : I (outcome m s).2 := by
    generalize outcome m s = x at ran ⊢
    obtain ⟨_ | _, _⟩ := x <;> exact ran
  have cleaned := cleans _ left
  simp only [andFinally, outcome_ofFn]
  generalize outcome cleanup (outcome m s).2 = x at cleaned ⊢
  obtain ⟨_ | _, _⟩ := x
  · exact cleaned
  · generalize (outcome m s).1 = answer
    cases answer <;> exact cleaned

theorem triple_mapError {ε' : Type} {f : ε → ε'} {m : Steps ε σ α} {E' : ε' → σ → Prop} (h : Triple P m Q E)
    (failure : ∀ e s, E e s → E' (f e) s) : Triple P (mapError f m) Q E' := by
  intro s start
  have ran := h s start
  rw [outcome_mapError]
  generalize outcome m s = x at ran ⊢
  obtain ⟨e | a, s'⟩ := x
  · exact failure e s' ran
  · exact ran

theorem Triple.answer {m : Steps ε σ α} (h : Triple P m Q' E) (post : ∀ a s, Q' a s → Q a s) : Triple P m Q E :=
  triple_consequence h (fun _ => id) post fun _ _ => id

theorem Triple.failure {m : Steps ε σ α} (h : Triple P m Q E') (failure : ∀ e s, E' e s → E e s) : Triple P m Q E :=
  triple_consequence h (fun _ => id) (fun _ _ => id) failure

end Triple

/-- Through `f`, the second step does what the first one does. -/
def Simulates {τ : Type} (f : σ → τ) (m : Steps ε σ α) (n : Steps ε τ α) : Prop :=
  ∀ s, outcome n (f s) = ((outcome m s).1, f (outcome m s).2)

section Simulates

variable {τ : Type} {f : σ → τ} {m : Steps ε σ α} {n : Steps ε τ α}

theorem simulates_pure (a : α) : Simulates f (pure a : Steps ε σ α) (pure a) := fun _ => rfl

theorem simulates_throw (e : ε) : Simulates f (throw e : Steps ε σ α) (throw e) := fun _ => rfl

theorem simulates_lift (a : Except ε α) : Simulates f (lift a : Steps ε σ α) (lift a) := fun _ => rfl

theorem simulates_bind {g : α → Steps ε σ β} {h : α → Steps ε τ β} (first : Simulates f m n)
    (later : ∀ a, Simulates f (g a) (h a)) : Simulates f (m >>= g) (n >>= h) := by
  intro s
  rw [outcome_bind, outcome_bind, first s]
  cases ran : (outcome m s).1 with
  | ok a =>
    rw [show outcome m s = (.ok a, (outcome m s).2) from Prod.ext ran rfl]
    exact later a _
  | error e => rw [show outcome m s = (.error e, (outcome m s).2) from Prod.ext ran rfl]

/-- A step that reads the state, and what the other one reads of it. -/
theorem simulates_get {g : σ → Steps ε σ β} {h : τ → Steps ε τ β} (later : ∀ s, Simulates f (g s) (h (f s))) :
    Simulates f (get >>= g) (get >>= h) := by
  intro s
  rw [outcome_bind, outcome_bind, outcome_get, outcome_get]
  exact later s s

theorem simulates_mapError {ε' : Type} {g : ε → ε'} (same : Simulates f m n) :
    Simulates f (mapError g m) (mapError g n) := by
  intro s
  rw [outcome_mapError, outcome_mapError, same s]

theorem simulates_attempt (same : Simulates f m n) : Simulates f (attempt m) (attempt n) := by
  intro s
  rw [outcome_attempt, outcome_attempt, same s]

theorem simulates_andFinally {cleanup : Steps ε σ Unit} {cleanup' : Steps ε τ Unit} (same : Simulates f m n)
    (cleans : Simulates f cleanup cleanup') : Simulates f (andFinally m cleanup) (andFinally n cleanup') := by
  intro s
  simp only [andFinally, outcome_ofFn, same s, cleans _]
  cases ran : outcome cleanup (outcome m s).2 with
  | mk answer s' => cases answer <;> rfl

theorem simulates_zoom {σ' τ' : Type} {g : σ' → τ'} {part : σ' → σ} {put : σ → σ' → σ'} {part' : τ' → τ}
    {put' : τ → τ' → τ'} (same : Simulates f m n) (parts : ∀ s, part' (g s) = f (part s))
    (puts : ∀ w s, put' (f w) (g s) = g (put w s)) : Simulates g (zoom part put m) (zoom part' put' n) := by
  intro s
  rw [outcome_zoom, outcome_zoom, parts, same, puts]

end Simulates

end Steps

end AgentGym
