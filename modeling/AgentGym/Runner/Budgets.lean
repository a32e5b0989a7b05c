import AgentGym.Lib.Text

/-!
# Execution budgets

A tracker counts what a run uses; a check raises when the next use would go over the
budget. Wall time is whatever the clock shows when it is read.
-/

namespace AgentGym.Runner

structure ExecutionBudget where
  maxWallSeconds : Nat := 300
  maxModelTurns : Nat := 50
  maxToolCalls : Nat := 100
  maxTokens : Option Nat := none

structure BudgetExceeded where
  dimension : String
  limit : Nat
  /-- A counter, or a float for wall time. -/
  observed : Json

/-- `str(error)`. -/
def BudgetExceeded.message [PyText] (e : BudgetExceeded) : String :=
  let observed := PyText.repr e.observed
  let limit := PyText.repr (.int e.limit)
  s!"execution budget exceeded for {e.dimension}: {observed} > {limit}"

structure BudgetTracker where
  budget : ExecutionBudget
  modelTurns : Nat := 0
  toolCalls : Nat := 0
  inputTokens : Nat := 0
  outputTokens : Nat := 0

/-- What a step of the agent may raise. -/
inductive Raised where
  | budgetExceeded (e : BudgetExceeded)
  | exception (message : String)

inductive Counter where
  | modelTurns | toolCalls
  deriving DecidableEq

def Counter.name : Counter → String
  | .modelTurns => "model_turns"
  | .toolCalls => "tool_calls"

namespace BudgetTracker

def count (t : BudgetTracker) : Counter → Nat
  | .modelTurns => t.modelTurns
  | .toolCalls => t.toolCalls

def limit (t : BudgetTracker) : Counter → Nat
  | .modelTurns => t.budget.maxModelTurns
  | .toolCalls => t.budget.maxToolCalls

def set (t : BudgetTracker) (counter : Counter) (n : Nat) : BudgetTracker :=
  match counter with
  | .modelTurns => { t with modelTurns := n }
  | .toolCalls => { t with toolCalls := n }

/-- `check_and_bump(counter)`. -/
def checkAndBump (t : BudgetTracker) (counter : Counter) : Except Raised BudgetTracker :=
  let attempted := t.count counter + 1
  if t.limit counter < attempted then
    .error (.budgetExceeded ⟨counter.name, t.limit counter, .int attempted⟩)
  else .ok (t.set counter attempted)

/-- `check_wall`, at a reading of the clock. -/
def checkWall (t : BudgetTracker) (elapsed : Rat) : Except Raised Unit :=
  if (t.budget.maxWallSeconds : Rat) ≤ elapsed then
    .error (.budgetExceeded ⟨"wall_seconds", t.budget.maxWallSeconds, .float elapsed⟩)
  else .ok ()

/-- `_nonnegative_token_count`. -/
def tokenCount : Option Int → Except Raised Nat
  | none => .ok 0
  | some n => if n < 0 then .error (.exception "token counts must be non-negative") else .ok n.toNat

def recordTokens (t : BudgetTracker) (inputTokens outputTokens : Option Int) : Except Raised BudgetTracker := do
  let input ← tokenCount inputTokens
  let output ← tokenCount outputTokens
  let attempted := t.inputTokens + t.outputTokens + input + output
  match t.budget.maxTokens with
  | some limit =>
    if limit < attempted then .error (.budgetExceeded ⟨"tokens", limit, .int attempted⟩)
    else .ok { t with inputTokens := t.inputTokens + input, outputTokens := t.outputTokens + output }
  | none => .ok { t with inputTokens := t.inputTokens + input, outputTokens := t.outputTokens + output }

theorem checkAndBump_ok {t t' : BudgetTracker} {counter : Counter} (h : t.checkAndBump counter = .ok t') :
    t.count counter < t.limit counter ∧ t' = t.set counter (t.count counter + 1) := by
  unfold checkAndBump at h
  by_cases full : t.limit counter < t.count counter + 1
  · simp [full] at h
  · simp only [full, if_false, Except.ok.injEq] at h
    exact ⟨by omega, h.symm⟩

theorem tokenCount_ok {n : Option Int} {count : Nat} (h : tokenCount n = .ok count) : (count : Int) = n.getD 0 := by
  cases n with
  | none =>
    obtain rfl := Except.ok.inj h
    rfl
  | some n =>
    unfold tokenCount at h
    by_cases negative : n < 0
    · simp [negative] at h
    · simp only [negative, if_false, Except.ok.injEq] at h
      subst h
      exact Int.toNat_of_nonneg (by omega)

/-- Recording tokens adds them to the token counts, within the limit, and changes nothing else. -/
theorem recordTokens_counts {t t' : BudgetTracker} {input output : Option Int}
    (h : t.recordTokens input output = .ok t') :
    ∃ i o : Nat, t' = { t with inputTokens := t.inputTokens + i, outputTokens := t.outputTokens + o } ∧
      (i : Int) = input.getD 0 ∧ (o : Int) = output.getD 0 ∧
      ∀ limit, t.budget.maxTokens = some limit → t'.inputTokens + t'.outputTokens ≤ limit := by
  unfold recordTokens at h
  cases counted : tokenCount input with
  | error e => simp [counted, bind, Except.bind] at h
  | ok i =>
    cases counted' : tokenCount output with
    | error e => simp [counted, counted', bind, Except.bind] at h
    | ok o =>
      simp only [counted, counted', bind, Except.bind] at h
      cases limited : t.budget.maxTokens with
      | none =>
        simp only [limited, Except.ok.injEq] at h
        refine ⟨i, o, h.symm, tokenCount_ok counted, tokenCount_ok counted', ?_⟩
        intro limit some
        cases some
      | some limit =>
        by_cases full : limit < t.inputTokens + t.outputTokens + i + o
        · simp [limited, full] at h
        · simp only [limited, full, if_false, Except.ok.injEq] at h
          refine ⟨i, o, h.symm, tokenCount_ok counted, tokenCount_ok counted', ?_⟩
          intro limit' same
          obtain rfl := Option.some.inj same
          subst h
          show t.inputTokens + i + (t.outputTokens + o) ≤ limit
          omega

theorem recordTokens_ok {t t' : BudgetTracker} {input output : Option Int}
    (h : t.recordTokens input output = .ok t') :
    ∃ i o, t' = { t with inputTokens := i, outputTokens := o } := by
  obtain ⟨i, o, rfl, _⟩ := recordTokens_counts h
  exact ⟨_, _, rfl⟩

end BudgetTracker

structure RolloutMetrics where
  wallSeconds : Rat
  modelTurns : Nat
  toolCalls : Nat
  inputTokens : Option Nat
  outputTokens : Option Nat

/-- `metrics()`, at a reading of the clock; no tokens are reported as none. -/
def BudgetTracker.metrics (t : BudgetTracker) (elapsed : Rat) : RolloutMetrics where
  wallSeconds := elapsed
  modelTurns := t.modelTurns
  toolCalls := t.toolCalls
  inputTokens := if t.inputTokens = 0 then none else some t.inputTokens
  outputTokens := if t.outputTokens = 0 then none else some t.outputTokens

end AgentGym.Runner
