import AgentGym.Runtime.Turns

/-!
# Environments that show a part of their world

An environment whose world is seen through a function runs the agent as the other one
does: the agent reads its world through its environment only.
-/

namespace AgentGym.Runtime

open Runner Steps

/-- The second environment shows the world of the first one through `f`. -/
structure Environment.Shows {σ τ : Type} (f : σ → τ) (env : Environment σ) (env' : Environment τ) : Prop where
  elapsed : ∀ w, env'.elapsed (f w) = ((env.elapsed w).1, f (env.elapsed w).2)
  complete : ∀ messages tools w,
    env'.complete messages tools (f w) = ((env.complete messages tools w).1, f (env.complete messages tools w).2)
  describe : env'.describe = env.describe
  execute : ∀ name arguments w,
    env'.execute name arguments (f w) = ((env.execute name arguments w).1, f (env.execute name arguments w).2)
  readArtifact : env'.readArtifact = env.readArtifact

def Session.through {σ τ : Type} (f : σ → τ) (s : Session σ) : Session τ :=
  ⟨f s.world, s.tracker, s.messages, s.hadToolError, s.events, s.history⟩

section Shows

variable [PyText] {σ τ : Type} {f : σ → τ} {env : Environment σ} {env' : Environment τ}

omit [PyText] in
theorem through_emit (type : TrajectoryEventType) (actor : String) (payload : List (String × Recorded)) :
    Simulates (Session.through f) (emit type actor payload) (emit type actor payload) := fun _ => rfl

omit [PyText] in
theorem through_appendMessage (message : Json) :
    Simulates (Session.through f) (appendMessage message) (appendMessage message) := fun _ => rfl

omit [PyText] in
theorem through_noteToolError (result : ToolResult) :
    Simulates (Session.through f) (noteToolError result) (noteToolError result) := fun _ => rfl

omit [PyText] in
theorem through_checkAndBump (counter : Counter) :
    Simulates (Session.through f) (checkAndBump counter) (checkAndBump counter) := by
  intro s
  simp only [checkAndBump, outcome_ofFn, Session.through]
  cases s.tracker.checkAndBump counter <;> rfl

omit [PyText] in
theorem through_recordTokens (input output : Option Int) :
    Simulates (Session.through f) (recordTokens input output) (recordTokens input output) := by
  intro s
  simp only [recordTokens, outcome_ofFn, Session.through]
  cases s.tracker.recordTokens input output <;> rfl

omit [PyText] in
theorem through_emitToolError (call : LLMToolCall) (result : ToolResult) :
    Simulates (Session.through f) (emitToolError call result) (emitToolError call result) := by
  unfold emitToolError
  split
  · exact through_emit _ _ _
  · exact simulates_pure ()

variable (shows_ : env.Shows f env')
include shows_

omit [PyText] in
theorem through_checkWall : Simulates (Session.through f) (checkWall env) (checkWall env') := by
  intro s
  simp only [checkWall, outcome_ofFn, Session.through, shows_.elapsed]
  cases s.tracker.checkWall (env.elapsed s.world).1 <;> rfl

omit [PyText] in
theorem through_complete (tools : List Json) :
    Simulates (Session.through f) (complete env tools) (complete env' tools) := by
  intro s
  simp only [complete, outcome_ofFn, Session.through, shows_.complete]
  rfl

omit [PyText] in
theorem through_execute (call : LLMToolCall) : Simulates (Session.through f) (execute env call) (execute env' call) := by
  intro s
  simp only [execute, outcome_ofFn, Session.through, shows_.execute]
  rfl

theorem through_callTool (call : LLMToolCall) : Simulates (Session.through f) (callTool env call) (callTool env' call) := by
  unfold callTool
  refine simulates_bind (through_checkWall shows_) fun _ => ?_
  refine simulates_bind (through_checkAndBump _) fun _ => ?_
  refine simulates_bind (through_emit _ _ _) fun _ => ?_
  refine simulates_bind (through_execute shows_ call) fun result => ?_
  refine simulates_bind (through_noteToolError result) fun _ => ?_
  refine simulates_bind (through_emit _ _ _) fun _ => ?_
  refine simulates_bind (through_emitToolError call result) fun _ => ?_
  exact through_appendMessage _

theorem through_callTools (calls : List LLMToolCall) :
    Simulates (Session.through f) (callTools env calls) (callTools env' calls) := by
  induction calls with
  | nil => exact simulates_pure ()
  | cons call calls ih => exact simulates_bind (through_callTool shows_ call) fun _ => ih

omit [PyText] in
theorem through_ask (tools : List Json) : Simulates (Session.through f) (ask env tools) (ask env' tools) := by
  unfold ask
  refine simulates_bind (through_emit _ _ _) fun _ => ?_
  refine simulates_bind (through_complete shows_ tools) fun response => ?_
  refine simulates_bind (through_checkWall shows_) fun _ => ?_
  refine simulates_bind (through_recordTokens _ _) fun _ => ?_
  exact simulates_bind (through_emit _ _ _) fun _ => simulates_pure response

theorem through_turn (tools : List Json) : Simulates (Session.through f) (turn env tools) (turn env' tools) := by
  unfold turn respond
  refine simulates_bind ?_ fun response => ?_
  · refine simulates_bind (through_checkWall shows_) fun _ => ?_
    exact simulates_bind (through_checkAndBump _) fun _ => through_ask shows_ tools
  · unfold branch
    split
    · exact simulates_bind (through_emit _ _ _) fun _ => simulates_pure _
    · refine simulates_bind (through_appendMessage _) fun _ => ?_
      exact simulates_bind (through_callTools shows_ _) fun _ => simulates_pure none

theorem through_turns (tools : List Json) (left : Nat) :
    Simulates (Session.through f) (turns env tools left) (turns env' tools left) := by
  induction left with
  | zero => exact simulates_bind (through_checkWall shows_) fun _ => fun _ => rfl
  | succ left ih =>
    refine simulates_bind (through_turn shows_ tools) fun answer => ?_
    cases answer with
    | some answer => exact simulates_pure answer
    | none => exact ih

theorem through_loop (tools : List Json) : Simulates (Session.through f) (loop env tools) (loop env' tools) :=
  simulates_get fun s => through_turns shows_ tools (turnsLeft s.tracker)

omit [PyText] in
theorem through_result (s : Session σ) (status : RunStatus) (answer error : Option String) :
    result env' (s.through f) status answer error =
      ((result env s status answer error).1, (result env s status answer error).2.through f) := by
  unfold result
  rw [show (s.through f).world = f s.world from rfl, shows_.elapsed]
  rfl

theorem through_conclude (ended : Except Raised (Option String)) (s : Session σ) :
    conclude env' (ended, s.through f) = ((conclude env (ended, s)).1, (conclude env (ended, s)).2.through f) := by
  match ended with
  | .ok answer => exact through_result shows_ s _ _ _
  | .error (.budgetExceeded e) | .error (.exception message) =>
    exact through_result shows_ { s with events := append s.events .agentError "agent" _ } _ _ _

/-- The agent's run in the world that is shown is the run in the whole one. -/
theorem run_through (task : AgentTaskView) (package : AgentPackage) (tracker : BudgetTracker) (world : σ)
    (events : TrajectoryRecorder) :
    run env' task package tracker (f world) events = ((run env task package tracker world events).1,
      (run env task package tracker world events).2.through f) := by
  unfold run
  rw [shows_.describe, shows_.readArtifact]
  cases built : buildSystemPrompt env.readArtifact task package env.describe with
  | error message => rfl
  | ok prompt =>
    have looped := through_loop shows_ (env.describe.map openaiTool) (start task prompt tracker world events)
    dsimp only
    rw [show start task prompt tracker (f world) events = (start task prompt tracker world events).through f from rfl,
      looped, through_conclude shows_]

end Shows

end AgentGym.Runtime
