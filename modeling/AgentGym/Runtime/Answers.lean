import AgentGym.Runtime.Turns

/-!
# How a run ended, read off its events

The flag of a failed tool call and the event of one go together, and a completion is
recorded by the final answer alone. So the events of a run tell its status.
-/

namespace AgentGym.Runtime

open Runner Steps

def HasEvent (type : TrajectoryEventType) (events : TrajectoryRecorder) : Prop := ∃ e ∈ events, e.type = type

instance (type : TrajectoryEventType) (events : TrajectoryRecorder) : Decidable (HasEvent type events) :=
  inferInstanceAs (Decidable (∃ e ∈ events, e.type = type))

@[simp] theorem hasEvent_append {type type' : TrajectoryEventType} {events : TrajectoryRecorder} {actor : String}
    {payload : List (String × Recorded)} :
    HasEvent type (append events type' actor payload) ↔ HasEvent type events ∨ type' = type := by
  simp [HasEvent, append, or_and_right, exists_or]

theorem hasEvent_record {type : TrajectoryEventType} (request : type ≠ .worldApiRequest)
    (response : type ≠ .worldApiResponse) (emitted : List WorldEvent) (events : TrajectoryRecorder) :
    HasEvent type (record events emitted) ↔ HasEvent type events := by
  induction emitted generalizing events with
  | nil => rfl
  | cons e emitted ih =>
    have other : worldEventType e ≠ type := by
      unfold worldEventType
      split
      · exact request.symm
      · exact response.symm
    show HasEvent type (record (append events _ _ _) emitted) ↔ _
    rw [ih, hasEvent_append]
    exact or_iff_left other

section Answers

variable [PyText] {σ : Type} {env : Environment σ} {tools : List Json}

/-! ### Failed tool calls -/

/-- The flag is set exactly when a failed call was recorded. -/
def Noted (s : Session σ) : Prop := s.hadToolError = true ↔ HasEvent .toolError s.events

def KeepsNoted (s s' : Session σ) : Prop := Noted s → Noted s'

omit [PyText] in
theorem keepsNoted_trans (a b c : Session σ) (h : KeepsNoted a b) (h' : KeepsNoted b c) : KeepsNoted a c :=
  h' ∘ h

omit [PyText] in
theorem keepsNoted_event (s : Session σ) {type : TrajectoryEventType} (actor : String)
    (payload : List (String × Recorded)) (other : type ≠ .toolError) :
    KeepsNoted s { s with events := append s.events type actor payload } := by
  intro noted
  unfold Noted
  rw [hasEvent_append, or_iff_left other]
  exact noted

omit [PyText] in
theorem keepsNoted_asks : AskClosed env tools (KeepsNoted (σ := σ)) where
  refl _ := id
  trans := keepsNoted_trans
  elapsed _ := id
  observed _ _ := id
  completed _ := id
  tokens _ _ _ _ _ := id
  asked s type actor payload either :=
    keepsNoted_event s actor payload (by obtain rfl | rfl := either <;> decide)

/-- A call that fails sets the flag and records the event. -/
theorem keepsNoted_callTool (call : LLMToolCall) : Keeps KeepsNoted (callTool env call) := by
  have asks : AskClosed env [] (KeepsNoted (σ := σ)) := keepsNoted_asks
  refine keeps_bind keepsNoted_trans (keeps_checkWall asks) fun _ => ?_
  refine keeps_bind keepsNoted_trans (keeps_checkAndBump asks fun _ _ _ => id) fun _ => ?_
  refine keeps_bind keepsNoted_trans (fun s => keepsNoted_event s _ _ (by decide)) fun _ => ?_
  refine keeps_bind keepsNoted_trans ?_ fun result => ?_
  · intro s noted
    show _ ↔ HasEvent .toolError (record s.events _)
    rw [hasEvent_record (by decide) (by decide)]
    exact noted
  · intro s noted
    unfold emitToolError
    cases failed : result.error with
    | false =>
      simp only [outcome_bind, noteToolError, emit, appendMessage, outcome_modify, outcome_pure,
        Bool.false_eq_true, if_false, Noted, failed, Bool.or_false, hasEvent_append, reduceCtorEq, or_false]
      exact noted
    | true =>
      simp [outcome_bind, noteToolError, emit, appendMessage, Noted, failed]

theorem keepsNoted_closed : TurnClosed env tools (KeepsNoted (σ := σ)) where
  toAskClosed := keepsNoted_asks
  called := keepsNoted_callTool
  message _ _ := id

theorem noted_loop {s : Session σ} (noted : Noted s) : Noted ((loop env tools).outcome s).2 :=
  keeps_loop keepsNoted_closed (fun _ _ _ => id) (fun s actor payload => keepsNoted_event s actor payload (by decide))
    s noted

/-! ### Completions -/

/-- No completion is recorded. -/
def Unanswered (s s' : Session σ) : Prop := HasEvent .agentCompleted s'.events → HasEvent .agentCompleted s.events

omit [PyText] in
theorem unanswered_trans (a b c : Session σ) (h : Unanswered a b) (h' : Unanswered b c) : Unanswered a c := h ∘ h'

omit [PyText] in
theorem unanswered_event (s : Session σ) {type : TrajectoryEventType} (actor : String)
    (payload : List (String × Recorded)) (other : type ≠ .agentCompleted) :
    Unanswered s { s with events := append s.events type actor payload } := by
  intro completed
  exact (hasEvent_append.mp completed).resolve_right other

omit [PyText] in
theorem unanswered_closed : Closed env tools (Unanswered (σ := σ)) where
  refl _ := id
  trans := unanswered_trans
  elapsed _ := id
  observed _ _ := id
  completed _ := id
  executed _ _ _ := id
  tokens _ _ _ _ _ := id
  asked s type actor payload either :=
    unanswered_event s actor payload (by obtain rfl | rfl := either <;> decide)
  toolCall _ _ _ := id
  message _ _ := id
  flag _ _ := id
  event s type actor payload member := unanswered_event s actor payload (by rintro rfl; simp at member)

theorem turn_answered (env : Environment σ) (tools : List Json) (s : Session σ) :
    (∃ answer, ((turn env tools).outcome s).1 = .ok (some answer)) ∨ Unanswered s ((turn env tools).outcome s).2 := by
  have closed : TurnClosed env tools Unanswered := unanswered_closed.turnClosed
  have asked : Keeps Unanswered (respond env tools) := keeps_respond closed fun _ _ _ => id
  have before := asked s
  rw [turn, outcome_bind]
  split
  · rename_i r s₁ ran
    rw [ran] at before
    by_cases final : r.toolCalls.isEmpty
    · left
      rw [branch, if_pos final]
      exact ⟨r.content, rfl⟩
    · right
      have called : Keeps Unanswered (branch env r) := by
        rw [branch, if_neg final]
        refine keeps_bind unanswered_trans (fun _ => id) fun _ => ?_
        exact keeps_bind unanswered_trans (keeps_callTools closed _) fun _ => keeps_pure closed.refl _
      exact unanswered_trans _ _ _ before (called s₁)
  · rename_i ran
    rw [ran] at before
    exact Or.inr before

/-- A loop that raises has recorded no completion. -/
theorem turns_answered (env : Environment σ) (tools : List Json) (left : Nat) (s : Session σ) :
    (∃ answer, ((turns env tools left).outcome s).1 = .ok answer) ∨
      Unanswered s ((turns env tools left).outcome s).2 := by
  induction left generalizing s with
  | zero =>
    right
    have closed : Closed env tools (Unanswered (σ := σ)) := unanswered_closed
    have refused : Keeps Unanswered (refuseTurn : Act σ (Option String)) := fun _ => id
    exact keeps_bind unanswered_trans (keeps_checkWall closed.toAskClosed) (fun _ => refused) s
  | succ left ih =>
    have first := turn_answered env tools s
    rw [turns, outcome_bind]
    split
    · rename_i answered s₁ ran
      rw [ran] at first
      cases answered with
      | some answer => exact Or.inl ⟨answer, rfl⟩
      | none =>
        have before := first.resolve_left (by simp)
        exact (ih s₁).imp id fun later => unanswered_trans _ _ _ before later
    · rename_i ran
      rw [ran] at first
      exact Or.inr (first.resolve_left (by simp))

theorem conclude_completed {x : Except Raised (Option String) × Session σ} (noted : Noted x.2)
    (answered : (∃ answer, x.1 = .ok answer) ∨ ¬ HasEvent .agentCompleted x.2.events)
    (completed : HasEvent .agentCompleted (conclude env x).2.events) :
    (conclude env x).1.status = (if HasEvent .toolError (conclude env x).2.events then .toolError else .pass) ∧
      (conclude env x).1.error = none := by
  obtain ⟨ended, s⟩ := x
  match ended with
  | .ok answer =>
    refine ⟨?_, rfl⟩
    show (if s.hadToolError = true then _ else _) = if HasEvent .toolError s.events then _ else _
    exact if_congr noted rfl rfl
  | .error (.budgetExceeded e) | .error (.exception message) =>
    have unanswered := answered.resolve_left (by simp)
    exact absurd ((hasEvent_append.mp completed).resolve_right (by decide)) unanswered

/-- A run that recorded a completion ended without an error, and with a tool error if one was recorded. -/
theorem run_completed {task : AgentTaskView} {package : AgentPackage} {tracker : BudgetTracker} {world : σ}
    {events : TrajectoryRecorder} {r : RuntimeResult} {s : Session σ}
    (uncompleted : ¬ HasEvent .agentCompleted events) (unnoted : ¬ HasEvent .toolError events)
    (ran : run env task package tracker world events = (.ok r, s)) (completed : HasEvent .agentCompleted s.events) :
    r.status = (if HasEvent .toolError s.events then .toolError else .pass) ∧ r.error = none := by
  unfold run at ran
  split at ran
  · simp at ran
  · rename_i prompt built
    let s₀ := start task prompt tracker world events
    have started : ¬ HasEvent .agentCompleted s₀.events := by simp [s₀, start, uncompleted]
    have noted : Noted ((loop env (env.describe.map openaiTool)).outcome s₀).2 :=
      noted_loop (by simp [Noted, s₀, start, unnoted])
    have answered := turns_answered env (env.describe.map openaiTool) (turnsLeft s₀.tracker) s₀
    obtain ⟨concluded, rfl⟩ := Prod.mk.inj ran
    obtain rfl := Except.ok.inj concluded
    exact conclude_completed noted (answered.imp_right (mt · started)) completed

end Answers

end AgentGym.Runtime
