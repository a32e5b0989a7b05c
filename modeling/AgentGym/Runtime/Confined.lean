import AgentGym.Runtime.Turns

/-!
# What a run of the agent leaves alone

The agent adds events of its own kinds to the trajectory, and touches the world through
its environment only: a relation that every operation of the environment keeps is kept
by the run.
-/

namespace AgentGym.Runtime

open Runner Steps

/-- The kinds of events that the agent and its tools send. -/
def agentTypes : List TrajectoryEventType :=
  [.agentStarted, .modelRequest, .modelResponse, .toolCall, .toolResult, .toolError, .worldApiRequest, .worldApiResponse,
    .agentError, .agentCompleted]

/-- Events of these kinds were added, and nothing else. -/
def Extends (types : List TrajectoryEventType) (events events' : TrajectoryRecorder) : Prop :=
  ∃ new, events' = events ++ new ∧ ∀ e ∈ new, e.type ∈ types

theorem Extends.refl (types : List TrajectoryEventType) (events : TrajectoryRecorder) : Extends types events events :=
  ⟨[], by simp, by simp⟩

theorem Extends.trans {types : List TrajectoryEventType} {events events' events'' : TrajectoryRecorder}
    (first : Extends types events events') (later : Extends types events' events'') : Extends types events events'' := by
  obtain ⟨new, rfl, kinds⟩ := first
  obtain ⟨new', rfl, kinds'⟩ := later
  refine ⟨new ++ new', by simp, ?_⟩
  intro e member
  exact (List.mem_append.mp member).elim (kinds e) (kinds' e)

theorem Extends.append {types : List TrajectoryEventType} (events : TrajectoryRecorder) {type : TrajectoryEventType}
    (kind : type ∈ types) (actor : String) (payload : List (String × Recorded)) :
    Extends types events (append events type actor payload) :=
  ⟨[⟨events.length + 1, type, actor, payload⟩], rfl, by simpa using kind⟩

theorem Extends.mono {types types' : List TrajectoryEventType} {events events' : TrajectoryRecorder}
    (extends_ : Extends types events events') (more : types ⊆ types') : Extends types' events events' := by
  obtain ⟨new, same, kinds⟩ := extends_
  exact ⟨new, same, fun e member => more (kinds e member)⟩

section Confined

variable [PyText] {σ : Type} {env : Environment σ} {W : σ → σ → Prop}

/-- A relation that every operation of the environment keeps. -/
structure WorldClosed (env : Environment σ) (W : σ → σ → Prop) : Prop where
  refl : ∀ w, W w w
  trans : ∀ a b c, W a b → W b c → W a c
  elapsed : ∀ w, W w (env.elapsed w).2
  complete : ∀ messages tools w, W w (env.complete messages tools w).2
  execute : ∀ name arguments w, W w (env.execute name arguments w).2

structure Confined (W : σ → σ → Prop) (s s' : Session σ) : Prop where
  world : W s.world s'.world
  events : Extends agentTypes s.events s'.events

omit [PyText] in
theorem Confined.trans (closed : WorldClosed env W) {a b c : Session σ} (first : Confined W a b) (later : Confined W b c) :
    Confined W a c :=
  ⟨closed.trans _ _ _ first.world later.world, first.events.trans later.events⟩

omit [PyText] in
theorem confined_closed (closed : WorldClosed env W) (tools : List Json) : Closed env tools (Confined W) where
  refl s := ⟨closed.refl _, .refl _ _⟩
  trans _ _ _ first later := first.trans closed later
  elapsed s := ⟨closed.elapsed _, .refl _ _⟩
  observed s o := ⟨closed.refl _, .refl _ _⟩
  completed s := ⟨closed.complete _ _ _, .refl _ _⟩
  executed s name arguments := ⟨closed.execute name arguments _, .refl _ _⟩
  tokens s i o t _ := ⟨closed.refl _, .refl _ _⟩
  asked s type actor payload either :=
    ⟨closed.refl _, .append _ (by obtain rfl | rfl := either <;> decide) actor payload⟩
  toolCall s t _ := ⟨closed.refl _, .refl _ _⟩
  message s m := ⟨closed.refl _, .refl _ _⟩
  flag s error := ⟨closed.refl _, .refl _ _⟩
  event s type actor payload member :=
    ⟨closed.refl _, .append _ ((by decide : [TrajectoryEventType.toolCall, .toolResult, .toolError, .worldApiRequest,
      .worldApiResponse] ⊆ agentTypes) member) actor payload⟩

theorem confined_loop (closed : WorldClosed env W) (tools : List Json) : Keeps (Confined W) (loop env tools) :=
  keeps_loop (confined_closed closed tools).turnClosed (fun _ _ _ => ⟨closed.refl _, .refl _ _⟩)
    fun _ actor payload => ⟨closed.refl _, .append _ (by decide) actor payload⟩

theorem confined_conclude (closed : WorldClosed env W) (x : Except Raised (Option String) × Session σ) :
    Confined W x.2 (conclude env x).2 := by
  obtain ⟨ended, s⟩ := x
  match ended with
  | .ok answer => exact ⟨closed.elapsed _, .refl _ _⟩
  | .error (.budgetExceeded e) | .error (.exception message) =>
    exact ⟨closed.elapsed _, .append _ (by decide) _ _⟩

/-- The agent's run adds its own kinds of events, and changes the world as its environment does. -/
theorem run_confined (closed : WorldClosed env W) {task : AgentTaskView} {package : AgentPackage} {tracker : BudgetTracker}
    {world : σ} {events : TrajectoryRecorder} {r : Except String RuntimeResult} {s : Session σ}
    (ran : run env task package tracker world events = (r, s)) :
    W world s.world ∧ Extends agentTypes events s.events := by
  unfold run at ran
  split at ran
  · obtain ⟨-, rfl⟩ := Prod.mk.inj ran
    exact ⟨closed.refl _, .refl _ _⟩
  · rename_i prompt built
    obtain ⟨-, rfl⟩ := Prod.mk.inj ran
    have looped : Confined W (start task prompt tracker world events) _ :=
      confined_loop closed (env.describe.map openaiTool) (start task prompt tracker world events)
    have whole := looped.trans closed (confined_conclude closed _)
    exact ⟨whole.world, (Extends.append events (by decide) _ _).trans whole.events⟩

end Confined

end AgentGym.Runtime
