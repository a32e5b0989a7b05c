import AgentGym.Runtime.Recording

/-!
# The budget of a run

The loop ends because every turn uses up one of the turns the budget has left, whatever
the model and its tools do. The counters of the tracker are the calls in the history: a
counter goes up right before its call is made, and a failure is the last thing observed.
-/

namespace AgentGym.Runtime

open Runner Steps

/-! ### Counting a history -/

def Observation.isAsked : Observation → Bool
  | .asked .. => true
  | _ => false

def Observation.isExecuted : Observation → Bool
  | .executed .. => true
  | _ => false

def Observation.inputTokens : Observation → Int
  | .accepted inputTokens _ => inputTokens.getD 0
  | _ => 0

def Observation.outputTokens : Observation → Int
  | .accepted _ outputTokens => outputTokens.getD 0
  | _ => 0

/-- What the loop is thrown at this point. -/
def Observation.raised : Observation → Option Raised
  | .asked _ completion => match completion.answer with
    | .ok _ => none
    | .error e => some e
  | .failed e => some e
  | _ => none

def modelCalls (history : List Observation) : Nat := history.countP Observation.isAsked

def toolExecutions (history : List Observation) : Nat := history.countP Observation.isExecuted

def inputTokens : List Observation → Int
  | [] => 0
  | o :: history => o.inputTokens + inputTokens history

def outputTokens : List Observation → Int
  | [] => 0
  | o :: history => o.outputTokens + outputTokens history

section Counting

variable (history : List Observation) (o : Observation)

@[simp] theorem modelCalls_append : modelCalls (history ++ [o]) = modelCalls history + if o.isAsked then 1 else 0 := by
  simp [modelCalls, List.countP_append, List.countP_singleton]

@[simp] theorem toolExecutions_append :
    toolExecutions (history ++ [o]) = toolExecutions history + if o.isExecuted then 1 else 0 := by
  simp [toolExecutions, List.countP_append, List.countP_singleton]

@[simp] theorem inputTokens_append : inputTokens (history ++ [o]) = inputTokens history + o.inputTokens := by
  induction history with
  | nil => simp [inputTokens]
  | cons earlier history ih =>
    rw [List.cons_append, inputTokens, inputTokens, ih, Int.add_assoc]

@[simp] theorem outputTokens_append : outputTokens (history ++ [o]) = outputTokens history + o.outputTokens := by
  induction history with
  | nil => simp [outputTokens]
  | cons earlier history ih =>
    rw [List.cons_append, outputTokens, outputTokens, ih, Int.add_assoc]

end Counting

/-! ### What the tracker counts -/

/-- The tracker agrees with the history, but for calls that are about to be made. -/
structure Tallied (budget : ExecutionBudget) (askedNext executedNext : Nat) (t : BudgetTracker)
    (history : List Observation) : Prop where
  same : t.budget = budget
  turns : t.modelTurns = modelCalls history + askedNext
  calls : t.toolCalls = toolExecutions history + executedNext
  input : t.inputTokens = inputTokens history
  output : t.outputTokens = outputTokens history
  turnsLimit : t.modelTurns ≤ budget.maxModelTurns
  callsLimit : t.toolCalls ≤ budget.maxToolCalls
  tokensLimit : ∀ limit, budget.maxTokens = some limit → t.inputTokens + t.outputTokens ≤ limit

/-- Nothing was raised so far. -/
def Calm (history : List Observation) : Prop := ∀ o ∈ history, o.raised = none

/-- What was observed last raised, and nothing before it did. -/
def Ended (e : Raised) (history : List Observation) : Prop :=
  ∃ before o, history = before ++ [o] ∧ Calm before ∧ o.raised = some e

theorem Calm.append {history : List Observation} (calm : Calm history) {o : Observation} (quiet : o.raised = none) :
    Calm (history ++ [o]) := by
  intro o' member
  rcases List.mem_append.mp member with earlier | last
  · exact calm o' earlier
  · obtain rfl := List.mem_singleton.mp last
    exact quiet

/-- A call that was about to be made was made; what is no call changes no count. -/
theorem Tallied.observe {budget : ExecutionBudget} {t : BudgetTracker} {history : List Observation}
    {askedNext askedLater executedNext executedLater : Nat} (tallied : Tallied budget askedNext executedNext t history)
    {o : Observation} (asked : askedNext = (if o.isAsked then 1 else 0) + askedLater)
    (executed : executedNext = (if o.isExecuted then 1 else 0) + executedLater) (input : o.inputTokens = 0)
    (output : o.outputTokens = 0) : Tallied budget askedLater executedLater t (history ++ [o]) where
  same := tallied.same
  turns := by
    have before := tallied.turns
    rw [modelCalls_append]
    omega
  calls := by
    have before := tallied.calls
    rw [toolExecutions_append]
    omega
  input := by rw [inputTokens_append, tallied.input, input, Int.add_zero]
  output := by rw [outputTokens_append, tallied.output, output, Int.add_zero]
  turnsLimit := tallied.turnsLimit
  callsLimit := tallied.callsLimit
  tokensLimit := tallied.tokensLimit

section Loop

variable {σ : Type} (env : Environment σ) (tools : List Json) (budget : ExecutionBudget)

def Running (askedNext executedNext : Nat) (s : Session σ) : Prop :=
  Tallied budget askedNext executedNext s.tracker s.history ∧ Calm s.history

def Stopped (e : Raised) (s : Session σ) : Prop := Tallied budget 0 0 s.tracker s.history ∧ Ended e s.history

theorem stopped_of_running {s : Session σ} (running : Running budget 0 0 s) (e : Raised) :
    Stopped budget e (s.observe (.failed e)) :=
  ⟨running.1.observe rfl rfl rfl rfl, s.history, .failed e, rfl, running.2, rfl⟩

/-! ### One call -/

theorem checkWall_running : Triple (Running budget 0 0) (checkWall env) (fun _ => Running budget 0 0) (Stopped budget) := by
  refine triple_ofFn fun s running => ?_
  dsimp only
  cases s.tracker.checkWall (env.elapsed s.world).1 with
  | ok u => exact running
  | error e =>
    have same : Running budget 0 0 { s with world := (env.elapsed s.world).2 } := running
    exact stopped_of_running budget same e

theorem bumpTurns_running :
    Triple (Running budget 0 0) (checkAndBump .modelTurns : Act σ Unit) (fun _ => Running budget 1 0) (Stopped budget) := by
  refine triple_ofFn fun s running => ?_
  cases bumped : s.tracker.checkAndBump .modelTurns with
  | error e => exact stopped_of_running budget running e
  | ok t =>
    obtain ⟨tallied, calm⟩ := running
    obtain ⟨room, rfl⟩ := BudgetTracker.checkAndBump_ok bumped
    have below : s.tracker.modelTurns + 1 ≤ budget.maxModelTurns := by
      rw [← tallied.same]
      exact room
    have counted : s.tracker.modelTurns + 1 = modelCalls s.history + 1 := by rw [tallied.turns]
    exact ⟨{ tallied with turns := counted, turnsLimit := below }, calm⟩

theorem bumpCalls_running :
    Triple (Running budget 0 0) (checkAndBump .toolCalls : Act σ Unit) (fun _ => Running budget 0 1) (Stopped budget) := by
  refine triple_ofFn fun s running => ?_
  cases bumped : s.tracker.checkAndBump .toolCalls with
  | error e => exact stopped_of_running budget running e
  | ok t =>
    obtain ⟨tallied, calm⟩ := running
    obtain ⟨room, rfl⟩ := BudgetTracker.checkAndBump_ok bumped
    have below : s.tracker.toolCalls + 1 ≤ budget.maxToolCalls := by
      rw [← tallied.same]
      exact room
    have counted : s.tracker.toolCalls + 1 = toolExecutions s.history + 1 := by rw [tallied.calls]
    exact ⟨{ tallied with calls := counted, callsLimit := below }, calm⟩

theorem emit_running {askedNext executedNext : Nat} (type : TrajectoryEventType) (actor : String)
    (payload : List (String × Recorded)) : Triple (Running budget askedNext executedNext)
      (emit type actor payload : Act σ Unit) (fun _ => Running budget askedNext executedNext) (Stopped budget) :=
  triple_modify fun _ => id

theorem complete_running :
    Triple (Running budget 1 0) (complete env tools) (fun _ => Running budget 0 0) (Stopped budget) := by
  refine triple_ofFn fun s ⟨tallied, calm⟩ => ?_
  generalize asked : env.complete s.messages tools s.world = x
  obtain ⟨completion, world⟩ := x
  have counted : Tallied budget 0 0 s.tracker (s.history ++ [.asked s.messages completion]) :=
    tallied.observe rfl rfl rfl rfl
  dsimp only
  cases completion with
  | response r => exact ⟨counted, calm.append rfl⟩
  | invalid => exact ⟨counted, s.history, _, rfl, calm, rfl⟩
  | raised e => exact ⟨counted, s.history, _, rfl, calm, rfl⟩

theorem recordTokens_running (i o : Option Int) :
    Triple (Running budget 0 0) (recordTokens i o : Act σ Unit) (fun _ => Running budget 0 0) (Stopped budget) := by
  refine triple_ofFn fun s running => ?_
  cases recorded : s.tracker.recordTokens i o with
  | error e => exact stopped_of_running budget running e
  | ok t =>
    obtain ⟨tallied, calm⟩ := running
    obtain ⟨i', o', rfl, input, output, limited⟩ := BudgetTracker.recordTokens_counts recorded
    rw [tallied.same] at limited
    refine ⟨⟨tallied.same, ?_, ?_, ?_, ?_, tallied.turnsLimit, tallied.callsLimit, limited⟩, calm.append rfl⟩
    · simpa [Session.observe, Observation.isAsked] using tallied.turns
    · simpa [Session.observe, Observation.isExecuted] using tallied.calls
    · simp [Session.observe, Observation.inputTokens, tallied.input, input]
    · simp [Session.observe, Observation.outputTokens, tallied.output, output]

theorem execute_running (call : LLMToolCall) :
    Triple (Running budget 0 1) (execute env call) (fun _ => Running budget 0 0) (Stopped budget) := by
  refine triple_ofFn fun s ⟨tallied, calm⟩ => ?_
  exact ⟨tallied.observe rfl rfl rfl rfl, calm.append rfl⟩

/-! ### The loop -/

section Turns

variable [PyText]

theorem callTool_running (call : LLMToolCall) :
    Triple (Running budget 0 0) (callTool env call) (fun _ => Running budget 0 0) (Stopped budget) := by
  refine triple_bind (checkWall_running env budget) fun _ => ?_
  refine triple_bind (bumpCalls_running budget) fun _ => ?_
  refine triple_bind (emit_running budget _ _ _) fun _ => ?_
  refine triple_bind (execute_running env budget call) fun result => ?_
  refine triple_bind (triple_modify (Q := fun _ => Running budget 0 0) fun _ => id) fun _ => ?_
  refine triple_bind (emit_running budget _ _ _) fun _ => ?_
  refine triple_bind (Q := fun _ => Running budget 0 0) ?_ fun _ => triple_modify fun _ => id
  unfold emitToolError
  split
  · exact emit_running budget _ _ _
  · exact triple_pure fun _ => id

theorem callTools_running (calls : List LLMToolCall) :
    Triple (Running budget 0 0) (callTools env calls) (fun _ => Running budget 0 0) (Stopped budget) := by
  induction calls with
  | nil => exact triple_pure fun _ => id
  | cons call calls ih => exact triple_bind (callTool_running env budget call) fun _ => ih

theorem turn_running :
    Triple (Running budget 0 0) (turn env tools) (fun _ => Running budget 0 0) (Stopped budget) := by
  unfold turn respond ask
  refine triple_bind (Q := fun _ => Running budget 0 0) ?_ fun response => ?_
  · refine triple_bind (checkWall_running env budget) fun _ => ?_
    refine triple_bind (bumpTurns_running budget) fun _ => ?_
    refine triple_bind (emit_running budget _ _ _) fun _ => ?_
    refine triple_bind (complete_running env tools budget) fun response => ?_
    refine triple_bind (checkWall_running env budget) fun _ => ?_
    refine triple_bind (recordTokens_running budget _ _) fun _ => ?_
    refine triple_bind (emit_running budget _ _ _) fun _ => ?_
    exact triple_pure fun _ => id
  · unfold branch
    split
    · exact triple_bind (emit_running budget _ _ _) fun _ => triple_pure fun _ => id
    · refine triple_bind (triple_modify (Q := fun _ => Running budget 0 0) fun _ => id) fun _ => ?_
      exact triple_bind (callTools_running env budget _) fun _ => triple_pure fun _ => id

/-- Whatever the model asks for, the loop ends with the turns the budget has left. -/
theorem turns_running (left : Nat) :
    Triple (Running budget 0 0) (turns env tools left) (fun _ => Running budget 0 0) (Stopped budget) := by
  induction left with
  | zero =>
    refine triple_bind (checkWall_running env budget) fun _ => ?_
    exact triple_ofFn fun s running => stopped_of_running budget running _
  | succ left ih =>
    refine triple_bind (turn_running env tools budget) fun answered => ?_
    cases answered with
    | some answer => exact triple_pure fun _ => id
    | none => exact ih

theorem loop_running :
    Triple (Running budget 0 0) (loop env tools) (fun _ => Running budget 0 0) (Stopped budget) :=
  fun s running => turns_running env tools budget _ s running

end Turns

end Loop

/-! ### The result -/

/-- This was thrown to the loop. -/
def Reached (e : Raised) (history : List Observation) : Prop := ∃ o ∈ history, o.raised = some e

/-- A check of the tracker raised. -/
def CheckFired (history : List Observation) : Prop := ∃ e, Observation.failed (.budgetExceeded e) ∈ history

/-- The model raised `BudgetExceeded` on its own. -/
def ModelExceeded (history : List Observation) : Prop :=
  ∃ messages e, Observation.asked messages (.raised (.budgetExceeded e)) ∈ history

theorem exceeded_iff (history : List Observation) :
    CheckFired history ∨ ModelExceeded history ↔ ∃ e, Reached (.budgetExceeded e) history := by
  constructor
  · rintro (⟨e, member⟩ | ⟨messages, e, member⟩)
    · exact ⟨e, _, member, rfl⟩
    · exact ⟨e, _, member, rfl⟩
  · rintro ⟨e, o, member, raised⟩
    cases o with
    | asked messages completion =>
      cases completion with
      | response r => cases raised
      | invalid => cases raised
      | raised e' =>
        obtain rfl := Option.some.inj raised
        exact Or.inr ⟨messages, e, member⟩
    | accepted i o => cases raised
    | executed name arguments answer => cases raised
    | failed e' =>
      obtain rfl := Option.some.inj raised
      exact Or.inl ⟨e, member⟩

theorem Calm.not_reached {history : List Observation} (calm : Calm history) (e : Raised) : ¬ Reached e history := by
  rintro ⟨o, member, raised⟩
  rw [calm o member] at raised
  cases raised

theorem Ended.reached_iff {history : List Observation} {e e' : Raised} (ended : Ended e history) :
    Reached e' history ↔ e' = e := by
  obtain ⟨before, o, rfl, calm, raised⟩ := ended
  constructor
  · rintro ⟨o', member, raised'⟩
    rcases List.mem_append.mp member with earlier | last
    · exact absurd ⟨o', earlier, raised'⟩ (calm.not_reached e')
    · obtain rfl := List.mem_singleton.mp last
      exact Option.some.inj (raised'.symm.trans raised)
  · rintro rfl
    exact ⟨o, by simp, raised⟩

theorem Ended.last {history before after : List Observation} {o : Observation} {e : Raised} (ended : Ended e history)
    (split : history = before ++ o :: after) (raised : o.raised ≠ none) : after = [] := by
  obtain ⟨calmed, o', rfl, calm, -⟩ := ended
  rcases List.eq_nil_or_concat after with none | ⟨rest, last, rfl⟩
  · exact none
  · have same : calmed = before ++ o :: rest := by
      have regrouped : before ++ o :: rest.concat last = (before ++ o :: rest) ++ [last] := by simp
      exact (List.append_inj' (split.trans regrouped) rfl).1
    exact absurd (calm o (by simp [same])) raised

/-- The total of a token count as it is reported: none when nothing was used. -/
def reportedTokens (total : Int) : Option Int := if total = 0 then none else some total

/-- What the result of a run says about its calls. -/
structure Accounted (budget : ExecutionBudget) (r : RuntimeResult) (history : List Observation) : Prop where
  modelCalls_le : modelCalls history ≤ budget.maxModelTurns
  toolExecutions_le : toolExecutions history ≤ budget.maxToolCalls
  tokens_le : ∀ limit : Nat, budget.maxTokens = some limit → inputTokens history + outputTokens history ≤ limit
  exceeded : r.status = .timeout ∨ r.status = .budgetExceeded ↔ CheckFired history ∨ ModelExceeded history
  agentError : r.status = .agentError ↔ ∃ message, Reached (.exception message) history
  last : ∀ before o after, history = before ++ o :: after → o.raised ≠ none → after = []
  modelTurns : r.metrics.modelTurns = modelCalls history
  toolCalls : r.metrics.toolCalls = toolExecutions history
  input : r.metrics.inputTokens.map Nat.cast = reportedTokens (inputTokens history)
  output : r.metrics.outputTokens.map Nat.cast = reportedTokens (outputTokens history)

theorem reported_count {n : Nat} {total : Int} (same : (n : Int) = total) :
    (if n = 0 then none else some n).map Nat.cast = reportedTokens total := by
  subst same
  unfold reportedTokens
  by_cases zero : n = 0 <;> simp [zero]

section Run

variable {budget : ExecutionBudget} {t : BudgetTracker} {history : List Observation}

theorem accounted_of_tallied {r : RuntimeResult} {elapsed : Rat} (tallied : Tallied budget 0 0 t history)
    (metrics : r.metrics = t.metrics elapsed)
    (exceeded : r.status = .timeout ∨ r.status = .budgetExceeded ↔ ∃ e, Reached (.budgetExceeded e) history)
    (agentError : r.status = .agentError ↔ ∃ message, Reached (.exception message) history)
    (last : ∀ before o after, history = before ++ o :: after → o.raised ≠ none → after = []) :
    Accounted budget r history where
  modelCalls_le := le_of_eq_of_le tallied.turns.symm tallied.turnsLimit
  toolExecutions_le := le_of_eq_of_le tallied.calls.symm tallied.callsLimit
  tokens_le limit limited := by
    have total := tallied.tokensLimit limit limited
    rw [← tallied.input, ← tallied.output]
    omega
  exceeded := exceeded.trans (exceeded_iff history).symm
  agentError := agentError
  last := last
  modelTurns := metrics ▸ tallied.turns
  toolCalls := metrics ▸ tallied.calls
  input := metrics ▸ reported_count tallied.input
  output := metrics ▸ reported_count tallied.output

variable [PyText] {σ : Type} (env : Environment σ)

theorem accounted_conclude {x : Except Raised (Option String) × Session σ}
    (ends : Ends (fun _ => Running budget 0 0) (Stopped budget) x) :
    Accounted budget (conclude env x).1 (conclude env x).2.history := by
  obtain ⟨ended, s⟩ := x
  rcases ended with (e | message) | answer
  · obtain ⟨tallied, stopped⟩ := ends
    have exceeded : Reached (.budgetExceeded e) s.history := stopped.reached_iff.mpr rfl
    have other : ∀ message, ¬ Reached (.exception message) s.history := by
      intro message reached
      cases stopped.reached_iff.mp reached
    refine accounted_of_tallied tallied rfl (iff_of_true ?_ ⟨e, exceeded⟩) (iff_of_false ?_ ?_) fun _ _ _ => stopped.last
    · by_cases wall : e.dimension = "wall_seconds"
      · exact Or.inl (if_pos wall)
      · exact Or.inr (if_neg wall)
    · simp only [conclude, failed, result]
      split <;> decide
    · exact not_exists.mpr other
  · obtain ⟨tallied, stopped⟩ := ends
    have reached : Reached (.exception message) s.history := stopped.reached_iff.mpr rfl
    have other : ∀ e, ¬ Reached (.budgetExceeded e) s.history := by
      intro e reached
      cases stopped.reached_iff.mp reached
    refine accounted_of_tallied tallied rfl (iff_of_false ?_ ?_) (iff_of_true rfl ⟨message, reached⟩) fun _ _ _ => stopped.last
    · simp [conclude, failed, result]
    · exact not_exists.mpr other
  · obtain ⟨tallied, calm⟩ := ends
    refine accounted_of_tallied tallied rfl (iff_of_false ?_ ?_) (iff_of_false ?_ ?_) ?_
    · simp only [conclude, result]
      split <;> decide
    · exact not_exists.mpr fun e => calm.not_reached (.budgetExceeded e)
    · simp only [conclude, result]
      split <;> decide
    · exact not_exists.mpr fun message => calm.not_reached (.exception message)
    · intro before o after same raised
      have member : o ∈ before ++ o :: after := by simp
      exact absurd (calm o (same ▸ member)) raised

/-- Once the prompt is built the loop ends and the run returns, within its budget, and the result says how. -/
theorem run_accounted {task : AgentTaskView} {package : AgentPackage} {world : σ} {events : TrajectoryRecorder}
    {prompt : String} (built : buildSystemPrompt env.readArtifact task package env.describe = .ok prompt) :
    ∃ x r s, Loops env (env.describe.map openaiTool) (start task prompt { budget } world events) x ∧
      conclude env x = (r, s) ∧ run env task package { budget } world events = (.ok r, s) ∧
      Accounted budget r s.history := by
  let s₀ := start task prompt { budget } world events
  have fresh : Running budget 0 0 s₀ := by
    refine ⟨⟨rfl, rfl, rfl, rfl, rfl, Nat.zero_le _, Nat.zero_le _, fun _ _ => Nat.zero_le _⟩, ?_⟩
    intro o member
    cases member
  have ends := loop_running env (env.describe.map openaiTool) budget s₀ fresh
  exact ⟨_, _, _, loop_loops s₀, rfl, run_of_prompt built, accounted_conclude env ends⟩

end Run

/-- A model that asks for a tool whenever it is called. -/
def insatiable : Environment Unit where
  elapsed _ := (0, ())
  complete _ _ _ := (.response ⟨none, [⟨"call-1", "get_page", .empty⟩], some 3, some 4⟩, ())
  describe := []
  execute _ _ _ := ((.ok ⟨.obj [], false, ""⟩, []), ())
  readArtifact _ _ := .ok ""

theorem run_accounted_insatiable :
    ∃ prompt x r s,
      @Loops asciiText _ insatiable [] (start askedTask prompt { budget := { maxModelTurns := 3 } } () []) x ∧
      @conclude asciiText _ insatiable x = (r, s) ∧
      @run asciiText _ insatiable askedTask barePackage { budget := { maxModelTurns := 3 } } () [] = (.ok r, s) ∧
      Accounted { maxModelTurns := 3 } r s.history :=
  ⟨_, @run_accounted { maxModelTurns := 3 } asciiText _ insatiable askedTask barePackage () [] _ rfl⟩

/-- A model whose client keeps a budget of its own. -/
def exhausted : Environment Unit where
  elapsed _ := (0, ())
  complete _ _ _ := (.raised (.budgetExceeded ⟨"tokens", 5, .int 6⟩), ())
  describe := []
  execute _ _ _ := ((.ok ⟨.obj [], false, ""⟩, []), ())
  readArtifact _ _ := .ok ""

/-- What the model raises ends the run like a check that fires, and no tokens are reported as none. -/
theorem exhausted_without_check :
    ∃ r s, @run asciiText _ exhausted askedTask barePackage { budget := {} } () [] = (.ok r, s) ∧
      r.status = .budgetExceeded ∧ ¬ CheckFired s.history ∧ r.metrics.inputTokens = none ∧ inputTokens s.history = 0 := by
  refine ⟨_, _, rfl, rfl, ?_, rfl, rfl⟩
  rintro ⟨e, member⟩
  cases List.mem_singleton.mp member

end AgentGym.Runtime
