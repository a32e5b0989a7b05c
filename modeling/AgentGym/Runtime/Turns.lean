import AgentGym.Runtime.ReferenceAgent

/-!
# Turns of the agent

What a turn does to the session is read off its elementary steps: a relation that every
reading of the clock, call, counter, message and event keeps is kept by the whole loop.
The loop itself is the source's: a turn, and the loop again when tools were called.
-/

namespace AgentGym.Runtime

open Runner Steps

section Turns

variable [PyText] {σ : Type} (env : Environment σ) (tools : List Json)

/-! ### Relations kept step by step -/

/-- What calling the model does to a session, step by step. -/
structure AskClosed (R : Session σ → Session σ → Prop) : Prop where
  refl : ∀ s, R s s
  trans : ∀ a b c, R a b → R b c → R a c
  elapsed : ∀ s : Session σ, R s { s with world := (env.elapsed s.world).2 }
  observed : ∀ (s : Session σ) o, R s (s.observe o)
  completed : ∀ s : Session σ, R s { s with world := (env.complete s.messages tools s.world).2 }
  tokens : ∀ (s : Session σ) i o t, s.tracker.recordTokens i o = .ok t → R s { s with tracker := t }
  asked : ∀ (s : Session σ) type actor payload, type = .modelRequest ∨ type = .modelResponse →
    R s { s with events := append s.events type actor payload }

/-- What a turn adds to that, a tool call taken as one step. -/
structure TurnClosed (R : Session σ → Session σ → Prop) : Prop extends AskClosed env tools R where
  called : ∀ call, Keeps R (callTool env call)
  message : ∀ (s : Session σ) m, R s { s with messages := s.messages ++ [m] }

/-- What a turn adds to that, step by step. -/
structure Closed (R : Session σ → Session σ → Prop) : Prop extends AskClosed env tools R where
  executed : ∀ (s : Session σ) name arguments, R s { s with world := (env.execute name arguments s.world).2 }
  toolCall : ∀ (s : Session σ) t, s.tracker.checkAndBump .toolCalls = .ok t → R s { s with tracker := t }
  message : ∀ (s : Session σ) m, R s { s with messages := s.messages ++ [m] }
  flag : ∀ (s : Session σ) error, R s { s with hadToolError := s.hadToolError || error }
  event : ∀ (s : Session σ) type actor payload,
    type ∈ [TrajectoryEventType.toolCall, .toolResult, .toolError, .worldApiRequest, .worldApiResponse] →
    R s { s with events := append s.events type actor payload }

variable {env tools} {R : Session σ → Session σ → Prop}

omit [PyText] in
theorem keeps_checkWall (closed : AskClosed env tools R) : Keeps R (checkWall env) := by
  intro s
  have read := closed.elapsed s
  simp only [checkWall, outcome_ofFn]
  split
  · exact read
  · exact closed.trans _ _ _ read (closed.observed _ _)

omit [PyText] in
theorem keeps_checkAndBump (closed : AskClosed env tools R) {counter : Counter}
    (bump : ∀ (s : Session σ) t, s.tracker.checkAndBump counter = .ok t → R s { s with tracker := t }) :
    Keeps R (checkAndBump counter) := by
  intro s
  simp only [checkAndBump, outcome_ofFn]
  split
  · rename_i t ok
    exact bump s t ok
  · exact closed.observed s _

omit [PyText] in
theorem keeps_ask (closed : AskClosed env tools R) : Keeps R (ask env tools) := by
  have complete : Keeps R (complete env tools) := by
    intro s
    exact closed.trans _ _ _ (closed.completed s) (closed.observed _ _)
  have tokens : ∀ i o, Keeps R (recordTokens i o) := by
    intro i o s
    simp only [recordTokens, outcome_ofFn]
    split
    · rename_i t ok
      exact closed.trans _ _ _ (closed.tokens s i o t ok) (closed.observed _ _)
    · exact closed.observed s _
  refine keeps_bind closed.trans (fun s => closed.asked s _ _ _ (Or.inl rfl)) fun _ => ?_
  refine keeps_bind closed.trans complete fun response => ?_
  refine keeps_bind closed.trans (keeps_checkWall closed) fun _ => ?_
  refine keeps_bind closed.trans (tokens _ _) fun _ => ?_
  refine keeps_bind closed.trans (fun s => closed.asked s _ _ _ (Or.inr rfl)) fun _ => ?_
  exact keeps_pure closed.refl response

omit [PyText] in
theorem keeps_execute (closed : Closed env tools R) (call : LLMToolCall) : Keeps R (execute env call) := by
  have recorded : ∀ (emitted : List WorldEvent) (s : Session σ), R s { s with events := record s.events emitted } := by
    intro emitted
    induction emitted with
    | nil => exact closed.refl
    | cons e emitted ih =>
      intro s
      have first : R s { s with events := append s.events (worldEventType e) e.actor (values e.payload) } := by
        refine closed.event s _ _ _ ?_
        unfold worldEventType
        split <;> simp
      exact closed.trans _ _ _ first (ih _)
  intro s
  have ran := closed.executed s call.name call.arguments
  exact closed.trans _ _ _ ran (closed.trans _ _ _ (recorded _ _) (closed.observed _ _))

theorem keeps_callTool (closed : Closed env tools R) (call : LLMToolCall) : Keeps R (callTool env call) := by
  have emits : ∀ type actor payload,
      type ∈ [TrajectoryEventType.toolCall, .toolResult, .toolError, .worldApiRequest, .worldApiResponse] →
      Keeps R (emit type actor payload : Act σ Unit) := fun type actor payload member s =>
    closed.event s type actor payload member
  refine keeps_bind closed.trans (keeps_checkWall closed.toAskClosed) fun _ => ?_
  refine keeps_bind closed.trans (keeps_checkAndBump closed.toAskClosed closed.toolCall) fun _ => ?_
  refine keeps_bind closed.trans (emits _ _ _ (by simp)) fun _ => ?_
  refine keeps_bind closed.trans (keeps_execute closed call) fun result => ?_
  refine keeps_bind closed.trans (fun s => closed.flag s result.error) fun _ => ?_
  refine keeps_bind closed.trans (emits _ _ _ (by simp)) fun _ => ?_
  refine keeps_bind closed.trans ?_ fun _ => fun s => closed.message s _
  unfold emitToolError
  split
  · exact emits _ _ _ (by simp)
  · exact keeps_pure closed.refl _

theorem Closed.turnClosed (closed : Closed env tools R) : TurnClosed env tools R where
  toAskClosed := closed.toAskClosed
  called := keeps_callTool closed
  message := closed.message

theorem keeps_callTools (closed : TurnClosed env tools R) (calls : List LLMToolCall) :
    Keeps R (callTools env calls) := by
  induction calls with
  | nil => exact keeps_pure closed.refl _
  | cons call calls ih => exact keeps_bind closed.trans (closed.called call) fun _ => ih

section Loop

variable (closed : TurnClosed env tools R)
  (bump : ∀ (s : Session σ) t, s.tracker.checkAndBump .modelTurns = .ok t → R s { s with tracker := t })
include closed bump

theorem keeps_respond : Keeps R (respond env tools) := by
  refine keeps_bind closed.trans (keeps_checkWall closed.toAskClosed) fun _ => ?_
  exact keeps_bind closed.trans (keeps_checkAndBump closed.toAskClosed bump) fun _ => keeps_ask closed.toAskClosed

variable (answer : ∀ (s : Session σ) actor payload,
  R s { s with events := append s.events .agentCompleted actor payload })
include answer

omit bump in
theorem keeps_branch (response : LLMResponse) : Keeps R (branch env response) := by
  unfold branch
  split
  · exact keeps_bind closed.trans (fun s => answer s _ _) fun _ => keeps_pure closed.refl _
  · refine keeps_bind closed.trans (fun s => closed.message s _) fun _ => ?_
    exact keeps_bind closed.trans (keeps_callTools closed _) fun _ => keeps_pure closed.refl _

theorem keeps_turn : Keeps R (turn env tools) :=
  keeps_bind closed.trans (keeps_respond closed bump) (keeps_branch closed answer)

theorem keeps_turns (left : Nat) : Keeps R (turns env tools left) := by
  induction left with
  | zero => exact keeps_bind closed.trans (keeps_checkWall closed.toAskClosed) fun _ s => closed.observed s _
  | succ left ih =>
    refine keeps_bind closed.trans (keeps_turn closed bump answer) fun answered => ?_
    cases answered with
    | some answer => exact keeps_pure closed.refl _
    | none => exact ih

theorem keeps_loop : Keeps R (loop env tools) :=
  keeps_bind closed.trans (keeps_get closed.refl) fun _ => keeps_turns closed bump answer _

end Loop

/-! ### The loop -/

omit [PyText] in
/-- A request is made once the clock and the turn budget allow it. -/
theorem respond_outcome (s : Session σ) : (respond env tools).outcome s =
    let s₁ := { s with world := (env.elapsed s.world).2 }
    match s.tracker.checkWall (env.elapsed s.world).1 with
    | .error e => (.error e, s₁.observe (.failed e))
    | .ok () =>
      match s.tracker.checkAndBump .modelTurns with
      | .error e => (.error e, s₁.observe (.failed e))
      | .ok t => (ask env tools).outcome { s₁ with tracker := t } := by
  rw [respond, outcome_bind]
  simp only [checkWall, outcome_ofFn]
  cases s.tracker.checkWall (env.elapsed s.world).1 with
  | error e => rfl
  | ok u =>
    dsimp only
    rw [outcome_bind]
    simp only [checkAndBump, outcome_ofFn]
    cases s.tracker.checkAndBump .modelTurns <;> rfl

/-- Neither the budget nor the number of turns changes. -/
def SameTurns (s s' : Session σ) : Prop :=
  s'.tracker.budget = s.tracker.budget ∧ s'.tracker.modelTurns = s.tracker.modelTurns

omit [PyText] in
theorem sameTurns_closed : Closed env tools (SameTurns (σ := σ)) where
  refl _ := ⟨rfl, rfl⟩
  trans _ _ _ h h' := ⟨h'.1.trans h.1, h'.2.trans h.2⟩
  elapsed _ := ⟨rfl, rfl⟩
  observed _ _ := ⟨rfl, rfl⟩
  completed _ := ⟨rfl, rfl⟩
  executed _ _ _ := ⟨rfl, rfl⟩
  tokens s i o t ok := by
    obtain ⟨_, _, rfl⟩ := BudgetTracker.recordTokens_ok ok
    exact ⟨rfl, rfl⟩
  asked _ _ _ _ _ := ⟨rfl, rfl⟩
  toolCall s t ok := by
    obtain ⟨_, rfl⟩ := BudgetTracker.checkAndBump_ok ok
    exact ⟨rfl, rfl⟩
  message _ _ := ⟨rfl, rfl⟩
  flag _ _ := ⟨rfl, rfl⟩
  event _ _ _ _ _ := ⟨rfl, rfl⟩

/-- A turn that goes on has used up one turn of the budget. -/
theorem turn_continues {s s' : Session σ} (ran : (turn env tools).outcome s = (.ok none, s')) :
    turnsLeft s.tracker = turnsLeft s'.tracker + 1 := by
  have closed : Closed env tools SameTurns := sameTurns_closed
  have later : ∀ response : LLMResponse, Keeps SameTurns (branch env response) := fun response =>
    keeps_branch closed.turnClosed (fun _ _ _ => ⟨rfl, rfl⟩) response
  rw [turn, outcome_bind, respond_outcome] at ran
  dsimp only at ran
  cases wall : s.tracker.checkWall (env.elapsed s.world).1 with
  | error e => simp [wall] at ran
  | ok u =>
    cases bumped : s.tracker.checkAndBump .modelTurns with
    | error e => simp [wall, bumped] at ran
    | ok t =>
      simp only [wall, bumped] at ran
      have asked := keeps_ask closed.toAskClosed
        { s with world := (env.elapsed s.world).2, tracker := t }
      cases answered : (ask env tools).outcome { s with world := (env.elapsed s.world).2, tracker := t } with
      | mk r s₁ =>
        rw [answered] at ran asked
        cases r with
        | error e => simp at ran
        | ok response =>
          have rest := later response s₁
          simp only at ran
          rw [ran] at rest
          have budget := rest.1.trans asked.1
          have turns := rest.2.trans asked.2
          obtain ⟨room, rfl⟩ := BudgetTracker.checkAndBump_ok bumped
          simp only [BudgetTracker.count, BudgetTracker.limit, BudgetTracker.set] at budget turns room
          unfold turnsLeft
          rw [budget, turns]
          omega

theorem turn_refused {s : Session σ} (none : turnsLeft s.tracker = 0) :
    (turn env tools).outcome s = match (turns env tools 0).outcome s with
      | (.ok answer, s') => (.ok (some answer), s')
      | (.error e, s') => (.error e, s') := by
  have refused : s.tracker.checkAndBump .modelTurns =
      .error (.budgetExceeded ⟨"model_turns", s.tracker.budget.maxModelTurns, .int (s.tracker.modelTurns + 1)⟩) := by
    unfold turnsLeft at none
    have full : s.tracker.budget.maxModelTurns < s.tracker.modelTurns + 1 := by omega
    simp [BudgetTracker.checkAndBump, BudgetTracker.count, BudgetTracker.limit, full, Counter.name]
  rw [turn, outcome_bind, respond_outcome, turns, outcome_bind]
  simp only [checkWall, outcome_ofFn, refused]
  cases s.tracker.checkWall (env.elapsed s.world).1 <;> rfl

/-- The loop is a turn, and the loop again when tools were called. -/
theorem loop_eq (s : Session σ) : (loop env tools).outcome s =
    match (turn env tools).outcome s with
    | (.ok (some answer), s') => (.ok answer, s')
    | (.ok none, s') => (loop env tools).outcome s'
    | (.error e, s') => (.error e, s') := by
  have unrolled : ∀ s : Session σ, (loop env tools).outcome s = (turns env tools (turnsLeft s.tracker)).outcome s :=
    fun s => rfl
  rw [unrolled]
  cases left : turnsLeft s.tracker with
  | zero =>
    rw [turn_refused left]
    cases (turns env tools 0).outcome s with
    | mk r s' => cases r <;> rfl
  | succ n =>
    rw [turns, outcome_bind]
    cases ran : (turn env tools).outcome s with
    | mk r s' =>
      cases r with
      | error e => rfl
      | ok answered =>
        cases answered with
        | some answer => rfl
        | none =>
          have next := turn_continues ran
          have same : turnsLeft s'.tracker = n := by omega
          show (turns env tools n).outcome s' = (loop env tools).outcome s'
          rw [unrolled, same]

/-- The source's `while True`: turn after turn until one answers or raises. -/
inductive Loops (env : Environment σ) (tools : List Json) : Session σ → Except Raised (Option String) × Session σ → Prop
  | answered {s s' : Session σ} {answer : Option String} (ran : (turn env tools).outcome s = (.ok (some answer), s')) :
    Loops env tools s (.ok answer, s')
  | raised {s s' : Session σ} {e : Raised} (ran : (turn env tools).outcome s = (.error e, s')) :
    Loops env tools s (.error e, s')
  | again {s s' : Session σ} {x : Except Raised (Option String) × Session σ}
    (ran : (turn env tools).outcome s = (.ok none, s')) (later : Loops env tools s' x) : Loops env tools s x

/-- The loop comes to an end: a turn that goes on leaves one turn less. -/
theorem loop_loops (s : Session σ) : Loops env tools s ((loop env tools).outcome s) := by
  generalize left : turnsLeft s.tracker = n
  induction n using Nat.strong_induction_on generalizing s with
  | _ n ih =>
    rw [loop_eq]
    cases ran : (turn env tools).outcome s with
    | mk r s' =>
      rcases r with e | _ | answer
      · exact .raised ran
      · have next := turn_continues ran
        exact .again ran (ih (turnsLeft s'.tracker) (by omega) s' rfl)
      · exact .answered ran

/-- The run, once its prompt is built. -/
theorem run_of_prompt {task : AgentTaskView} {package : AgentPackage} {tracker : BudgetTracker} {world : σ}
    {events : TrajectoryRecorder} {prompt : String}
    (built : buildSystemPrompt env.readArtifact task package env.describe = .ok prompt) :
    let x := (loop env (env.describe.map openaiTool)).outcome (start task prompt tracker world events)
    run env task package tracker world events = (.ok (conclude env x).1, (conclude env x).2) := by
  unfold run
  rw [built]

end Turns

end AgentGym.Runtime
