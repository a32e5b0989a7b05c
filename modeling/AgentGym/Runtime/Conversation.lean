import AgentGym.Runtime.Recording

/-!
# Events and messages side by side

A run is a list of full turns and an ending. The turns say which events the agent emitted
and which messages the model was sent, so the two agree wherever a run is cut off. Events
that the tools send to the sink on their own are left out.
-/

namespace AgentGym.Runtime

open Runner Steps

/-! ### Emitted events -/

/-- An event without its place in the trajectory. -/
structure Emitted where
  type : TrajectoryEventType
  actor : String
  payload : List (String × Recorded)

/-- Sent by a tool, not by the agent. -/
def ofWorld (type : TrajectoryEventType) : Bool := type = .worldApiRequest || type = .worldApiResponse

def agentEvents (events : TrajectoryRecorder) : List Emitted :=
  (events.filter fun e => !ofWorld e.type).map fun e => ⟨e.type, e.actor, e.payload⟩

/-- These events follow the ones that were there. -/
def Emits (base : TrajectoryRecorder) (emitted : List Emitted) (events : TrajectoryRecorder) : Prop :=
  ∃ new, events = base ++ new ∧ agentEvents new = emitted

theorem Emits.append {base events : TrajectoryRecorder} {emitted : List Emitted} (emits : Emits base emitted events)
    {type : TrajectoryEventType} (own : ofWorld type = false) (actor : String) (payload : List (String × Recorded)) :
    Emits base (emitted ++ [⟨type, actor, payload⟩]) (append events type actor payload) := by
  obtain ⟨new, rfl, rfl⟩ := emits
  refine ⟨new ++ [⟨(base ++ new).length + 1, type, actor, payload⟩], ?_, ?_⟩
  · simp [Runner.append]
  · simp [agentEvents, own]

theorem Emits.record {base events : TrajectoryRecorder} {emitted : List Emitted} (emits : Emits base emitted events)
    (sent : List WorldEvent) : Emits base emitted (record events sent) := by
  induction sent generalizing events with
  | nil => exact emits
  | cons e sent ih =>
    obtain ⟨new, rfl, rfl⟩ := emits
    have other : ofWorld (worldEventType e) = true := by
      unfold worldEventType
      split <;> rfl
    have next : Emits base (agentEvents new)
        (Runner.append (base ++ new) (worldEventType e) e.actor (values e.payload)) := by
      refine ⟨new ++ [⟨(base ++ new).length + 1, worldEventType e, e.actor, values e.payload⟩], ?_, ?_⟩
      · simp [Runner.append]
      · simp [agentEvents, other]
    exact ih next

/-! ### Turns -/

section Grammar

def agentStarted (task : AgentTaskView) : Emitted :=
  ⟨.agentStarted, "agent", values [("actor_id", .str task.actorId)]⟩

def modelRequest (tools : List Json) : Emitted :=
  ⟨.modelRequest, "agent", [("messages", .messages), ("tools", .value (.arr tools))]⟩

def modelResponse (r : LLMResponse) : Emitted :=
  ⟨.modelResponse, "model", values [("content", optString r.content), ("tool_calls", .arr (r.toolCalls.map toolCallJson))]⟩

def toolCalled (call : LLMToolCall) : Emitted :=
  ⟨.toolCall, "agent", values [("id", .str call.id), ("name", .str call.name), ("arguments", .ofDict call.arguments)]⟩

def toolResulted (call : LLMToolCall) (result : ToolResult) : Emitted :=
  ⟨.toolResult, "tool", values [("id", .str call.id), ("name", .str call.name), ("payload", result.payload),
    ("error", .bool result.error), ("message", .str result.message)]⟩

def toolFailed (call : LLMToolCall) (result : ToolResult) : Emitted :=
  ⟨.toolError, "tool", values [("id", .str call.id), ("name", .str call.name), ("message", .str result.message)]⟩

def agentCompleted (r : LLMResponse) : Emitted :=
  ⟨.agentCompleted, "agent", values [("final_answer", optString r.content)]⟩

def agentFailed (status : RunStatus) (message : String) : Emitted :=
  ⟨.agentError, "agent", values [("status", .str status.value), ("error", .str message)]⟩

/-- A call that was made, with its result. -/
abbrev CallMade := LLMToolCall × ToolResult

def CallMade.events (c : CallMade) : List Emitted :=
  [toolCalled c.1, toolResulted c.1 c.2] ++ if c.2.error then [toolFailed c.1 c.2] else []

/-- A response with all the calls it asked for, in order. -/
structure FullTurn where
  response : LLMResponse
  calls : List CallMade
  all : calls.map Prod.fst = response.toolCalls
  some : response.toolCalls ≠ []

def FullTurn.events (tools : List Json) (t : FullTurn) : List Emitted :=
  [modelRequest tools, modelResponse t.response] ++ t.calls.flatMap CallMade.events

def FullTurn.messages [PyText] (t : FullTurn) : List Json :=
  assistantToolMessage t.response :: t.calls.map fun c => toolMessage c.1.id c.2

/-- A turn that was cut off: before its request, before its response, or before one of its calls. -/
inductive Cut where
  | idle
  | requested
  | called (response : LLMResponse) (calls : List CallMade) (next : LLMToolCall) (later : List LLMToolCall)
    (proper : calls.map Prod.fst ++ next :: later = response.toolCalls)

def Cut.events (tools : List Json) : Cut → List Emitted
  | .idle => []
  | .requested => [modelRequest tools]
  | .called response calls _ _ _ => [modelRequest tools, modelResponse response] ++ calls.flatMap CallMade.events

/-- How often the model was asked in a turn that was cut off. -/
def Cut.requests : Cut → Nat
  | .idle => 0
  | .requested | .called .. => 1

inductive Ending where
  | completed (response : LLMResponse) (final : response.toolCalls = [])
  | failed (cut : Cut) (status : RunStatus) (message : String)

def Ending.events (tools : List Json) : Ending → List Emitted
  | .completed response _ => [modelRequest tools, modelResponse response, agentCompleted response]
  | .failed cut status message => cut.events tools ++ [agentFailed status message]

def Ending.requests : Ending → Nat
  | .completed .. => 1
  | .failed cut _ _ => cut.requests

/-- What a run emits. -/
def dialogue (task : AgentTaskView) (tools : List Json) (turns : List FullTurn) (ending : Ending) : List Emitted :=
  agentStarted task :: turns.flatMap (FullTurn.events tools) ++ ending.events tools

/-! ### Messages -/

variable [PyText]

/-- The messages after these turns. -/
def conversation (initial : List Json) (turns : List FullTurn) : List Json := initial ++ turns.flatMap FullTurn.messages

/-- What the model was sent the first `n` times: the messages after each earlier turn. -/
def conversations (initial : List Json) (turns : List FullTurn) (n : Nat) : List (List Json) :=
  (List.range n).map fun i => conversation initial (turns.take i)

theorem conversation_cons (initial : List Json) (t : FullTurn) (turns : List FullTurn) :
    conversation initial (t :: turns) = conversation (initial ++ t.messages) turns := by
  simp [conversation]

theorem conversations_cons (initial : List Json) (t : FullTurn) (turns : List FullTurn) (n : Nat) :
    conversations initial (t :: turns) (n + 1) = initial :: conversations (initial ++ t.messages) turns n := by
  unfold conversations
  rw [List.range_succ_eq_map, List.map_cons, List.map_map]
  congr 1
  · simp [conversation]
  · refine List.map_congr_left fun i _ => ?_
    exact conversation_cons initial t (turns.take i)

theorem conversations_nil (initial : List Json) (n : Nat) : conversations initial [] n = List.replicate n initial := by
  simp [conversations, conversation, List.map_const']

end Grammar

def Observation.messages : Observation → Option (List Json)
  | .asked messages _ => some messages
  | _ => none

/-- The messages of every call of the model. -/
def sent (history : List Observation) : List (List Json) := history.filterMap Observation.messages

@[simp] theorem sent_append (history : List Observation) (o : Observation) :
    sent (history ++ [o]) = sent history ++ o.messages.toList := by
  cases named : o.messages <;> simp [sent, named]

/-! ### One call -/

section Loop

variable {σ : Type} (env : Environment σ) (tools : List Json) (base : TrajectoryRecorder)

/-- What was emitted so far, the messages now, and the messages that were sent. -/
structure Tells (emitted : List Emitted) (messages : List Json) (asked : List (List Json)) (s : Session σ) : Prop where
  events : Emits base emitted s.events
  messages : s.messages = messages
  asked : sent s.history = asked

/-- What the events and the history tell alone. -/
structure Stands (emitted : List Emitted) (asked : List (List Json)) (s : Session σ) : Prop where
  events : Emits base emitted s.events
  asked : sent s.history = asked

variable {base} {emitted : List Emitted} {messages : List Json} {asked : List (List Json)}

theorem Tells.stands {s : Session σ} (tells : Tells base emitted messages asked s) : Stands base emitted asked s :=
  ⟨tells.events, tells.asked⟩

/-- What is neither a call of the model nor an event changes nothing. -/
theorem Tells.observe {s : Session σ} (tells : Tells base emitted messages asked s) {o : Observation}
    (quiet : o.messages = none) : Tells base emitted messages asked (s.observe o) where
  events := tells.events
  messages := tells.messages
  asked := by
    show sent (s.history ++ [o]) = asked
    rw [sent_append, quiet, tells.asked]
    exact List.append_nil asked

theorem checkWall_tells : Triple (Tells base emitted messages asked) (checkWall env)
    (fun _ => Tells base emitted messages asked) (fun _ => Tells base emitted messages asked) := by
  refine triple_ofFn fun s tells => ?_
  have read : Tells base emitted messages asked { s with world := (env.elapsed s.world).2 } :=
    ⟨tells.events, tells.messages, tells.asked⟩
  dsimp only
  cases s.tracker.checkWall (env.elapsed s.world).1 with
  | ok u => exact read
  | error e => exact read.observe rfl

theorem checkAndBump_tells (counter : Counter) : Triple (Tells base emitted messages asked)
    (checkAndBump counter : Act σ Unit) (fun _ => Tells base emitted messages asked)
    (fun _ => Tells base emitted messages asked) := by
  refine triple_ofFn fun s tells => ?_
  cases s.tracker.checkAndBump counter with
  | ok t => exact ⟨tells.events, tells.messages, tells.asked⟩
  | error e => exact tells.observe rfl

theorem recordTokens_tells (i o : Option Int) : Triple (Tells base emitted messages asked)
    (recordTokens i o : Act σ Unit) (fun _ => Tells base emitted messages asked)
    (fun _ => Tells base emitted messages asked) := by
  refine triple_ofFn fun s tells => ?_
  cases s.tracker.recordTokens i o with
  | ok t =>
    have counted : Tells base emitted messages asked { s with tracker := t } :=
      ⟨tells.events, tells.messages, tells.asked⟩
    exact counted.observe rfl
  | error e => exact tells.observe rfl

variable {E : Raised → Session σ → Prop}

theorem emit_tells {type : TrajectoryEventType} (own : ofWorld type = false) (actor : String)
    (payload : List (String × Recorded)) : Triple (Tells base emitted messages asked)
      (emit type actor payload : Act σ Unit)
      (fun _ => Tells base (emitted ++ [⟨type, actor, payload⟩]) messages asked) E :=
  triple_modify fun _ tells => ⟨tells.events.append own actor payload, tells.messages, tells.asked⟩

theorem appendMessage_tells (message : Json) : Triple (Tells base emitted messages asked)
    (appendMessage message : Act σ Unit) (fun _ => Tells base emitted (messages ++ [message]) asked) E :=
  triple_modify fun _ tells => ⟨tells.events, congrArg (· ++ [message]) tells.messages, tells.asked⟩

theorem noteToolError_tells (result : ToolResult) : Triple (Tells base emitted messages asked)
    (noteToolError result : Act σ Unit) (fun _ => Tells base emitted messages asked) E :=
  triple_modify fun _ tells => ⟨tells.events, tells.messages, tells.asked⟩

theorem complete_tells : Triple (Tells base emitted messages asked) (complete env tools)
    (fun _ => Tells base emitted messages (asked ++ [messages]))
    (fun _ => Tells base emitted messages (asked ++ [messages])) := by
  refine triple_ofFn fun s tells => ?_
  have told : ∀ (completion : Completion) (world : σ), Tells base emitted messages (asked ++ [messages])
      ({ s with world }.observe (.asked s.messages completion)) := by
    intro completion world
    refine ⟨tells.events, tells.messages, ?_⟩
    show sent (s.history ++ [_]) = _
    rw [sent_append, tells.asked, tells.messages]
    rfl
  generalize env.complete s.messages tools s.world = x
  obtain ⟨completion, world⟩ := x
  dsimp only
  cases completion.answer with
  | ok r => exact told _ _
  | error e => exact told _ _

theorem execute_tells (call : LLMToolCall) : Triple (Tells base emitted messages asked) (execute env call)
    (fun _ => Tells base emitted messages asked) E := by
  refine triple_ofFn fun s tells => ?_
  generalize env.execute call.name call.arguments s.world = x
  obtain ⟨⟨answer, emitted⟩, world⟩ := x
  have recorded : Tells base _ messages asked { s with world, events := record s.events emitted } :=
    ⟨tells.events.record emitted, tells.messages, tells.asked⟩
  exact recorded.observe rfl

/-! ### One turn -/

variable [PyText]

/-- A call is recorded as a whole or not at all. -/
theorem callTool_tells (call : LLMToolCall) : Triple (Tells base emitted messages asked) (callTool env call)
    (fun _ s => ∃ result, Tells base (emitted ++ CallMade.events (call, result))
      (messages ++ [toolMessage call.id result]) asked s)
    (fun _ => Tells base emitted messages asked) := by
  refine triple_bind (checkWall_tells env) fun _ => ?_
  refine triple_bind (checkAndBump_tells _) fun _ => ?_
  refine triple_bind (emit_tells rfl _ _) fun _ => ?_
  refine triple_bind (execute_tells env call) fun result => ?_
  refine triple_bind (noteToolError_tells result) fun _ => ?_
  refine triple_bind (emit_tells rfl _ _) fun _ => ?_
  have called : ∀ s : Session σ, Tells base ((emitted ++ [toolCalled call] ++ [toolResulted call result]) ++
      if result.error then [toolFailed call result] else []) messages asked s →
      Tells base (emitted ++ CallMade.events (call, result)) messages asked s := by
    intro s tells
    simpa [CallMade.events] using tells
  refine triple_bind (Q := fun _ => Tells base (emitted ++ CallMade.events (call, result)) messages asked) ?_ fun _ => ?_
  · unfold emitToolError
    by_cases failed : result.error = true
    · rw [if_pos failed]
      refine (emit_tells rfl _ _).answer fun _ s tells => called s ?_
      rw [if_pos failed]
      exact tells
    · rw [if_neg failed]
      refine triple_pure fun s tells => called s ?_
      rw [if_neg failed, List.append_nil]
      exact tells
  · exact (appendMessage_tells _).answer fun _ _ tells => ⟨result, tells⟩

/-- The calls of a response, up to the one before which the run was cut off. -/
theorem callTools_tells (calls : List LLMToolCall) : Triple (Tells base emitted messages asked) (callTools env calls)
    (fun _ s => ∃ made : List CallMade, made.map Prod.fst = calls ∧
      Tells base (emitted ++ made.flatMap CallMade.events) (messages ++ made.map fun c => toolMessage c.1.id c.2) asked s)
    (fun _ s => ∃ (made : List CallMade) (next : LLMToolCall) (later : List LLMToolCall),
      made.map Prod.fst ++ next :: later = calls ∧ Stands base (emitted ++ made.flatMap CallMade.events) asked s) := by
  induction calls generalizing emitted messages with
  | nil => exact triple_pure fun s tells => ⟨[], rfl, by simpa using tells⟩
  | cons call calls ih =>
    refine triple_bind ((callTool_tells env call).failure ?_) fun _ => ?_
    · intro _ s tells
      exact ⟨[], call, calls, rfl, by simpa using tells.stands⟩
    · rintro s ⟨result, tells⟩
      refine triple_consequence ih (fun _ => id) ?_ ?_ s tells
      · rintro _ s ⟨made, same, tells⟩
        exact ⟨(call, result) :: made, by simp [same], by simpa using tells⟩
      · rintro _ s ⟨made, next, later, proper, stands⟩
        exact ⟨(call, result) :: made, next, later, by simp [proper], by simpa using stands⟩

omit [PyText] in
/-- A request, and the response when it is let in. -/
theorem respond_tells : Triple (Tells base emitted messages asked) (respond env tools)
    (fun r => Tells base (emitted ++ [modelRequest tools, modelResponse r]) messages (asked ++ [messages]))
    (fun _ s => Stands base emitted asked s ∨ Stands base (emitted ++ [modelRequest tools]) (asked ++ [messages]) s) := by
  have idle : ∀ (_ : Raised) (s : Session σ), Tells base emitted messages asked s →
      Stands base emitted asked s ∨ Stands base (emitted ++ [modelRequest tools]) (asked ++ [messages]) s :=
    fun _ _ tells => Or.inl tells.stands
  have requested : ∀ (_ : Raised) (s : Session σ),
      Tells base (emitted ++ [modelRequest tools]) messages (asked ++ [messages]) s →
      Stands base emitted asked s ∨ Stands base (emitted ++ [modelRequest tools]) (asked ++ [messages]) s :=
    fun _ _ tells => Or.inr tells.stands
  unfold respond ask
  refine triple_bind ((checkWall_tells env).failure idle) fun _ => ?_
  refine triple_bind ((checkAndBump_tells _).failure idle) fun _ => ?_
  refine triple_bind (emit_tells rfl _ _) fun _ => ?_
  refine triple_bind ((complete_tells env tools).failure requested) fun r => ?_
  refine triple_bind ((checkWall_tells env).failure requested) fun _ => ?_
  refine triple_bind ((recordTokens_tells _ _).failure requested) fun _ => ?_
  refine triple_bind (emit_tells rfl _ _) fun _ => triple_pure fun s tells => ?_
  simpa [modelRequest, modelResponse] using tells

/-- What a turn that raised nothing tells: the final answer, or a full turn. -/
def TurnTells (base : TrajectoryRecorder) (emitted : List Emitted) (messages : List Json) (asked : List (List Json)) :
    Option (Option String) → Session σ → Prop
  | some _, s => ∃ r : LLMResponse, r.toolCalls = [] ∧
    Stands base (emitted ++ [modelRequest tools, modelResponse r, agentCompleted r]) (asked ++ [messages]) s
  | none, s => ∃ t : FullTurn, Tells base (emitted ++ t.events tools) (messages ++ t.messages) (asked ++ [messages]) s

/-- A turn ends the run, or is a full turn, or is cut off. -/
theorem turn_tells : Triple (Tells base emitted messages asked) (turn env tools)
    (TurnTells tools base emitted messages asked)
    (fun _ s => ∃ cut : Cut, Stands base (emitted ++ cut.events tools) (asked ++ List.replicate cut.requests messages) s) := by
  unfold turn
  refine triple_bind ((respond_tells env tools).failure ?_) fun r => ?_
  · rintro _ s (idle | requested)
    · exact ⟨.idle, by simpa [Cut.events, Cut.requests] using idle⟩
    · exact ⟨.requested, requested⟩
  unfold branch
  by_cases final : r.toolCalls = []
  · rw [if_pos (by simp [final])]
    refine triple_bind (emit_tells rfl _ _) fun _ => triple_pure fun s tells => ⟨r, final, ?_⟩
    simpa [agentCompleted] using tells.stands
  · rw [if_neg (by simp [final])]
    refine triple_bind (appendMessage_tells _) fun _ => ?_
    refine triple_bind ((callTools_tells env r.toolCalls).failure ?_) fun _ => triple_pure ?_
    · rintro _ s ⟨made, next, later, proper, stands⟩
      refine ⟨.called r made next later proper, ?_⟩
      simpa [Cut.events, Cut.requests] using stands
    · rintro s ⟨made, all, tells⟩
      refine ⟨⟨r, made, all, final⟩, ?_⟩
      simpa [FullTurn.events, FullTurn.messages] using tells

/-! ### The run -/

/-- Full turns, and then the final answer or a turn that was cut off. -/
theorem turns_tells (left : Nat) : Triple (Tells base emitted messages asked) (turns env tools left)
    (fun _ s => ∃ (turns : List FullTurn) (r : LLMResponse), r.toolCalls = [] ∧
      Stands base (emitted ++ turns.flatMap (FullTurn.events tools) ++ [modelRequest tools, modelResponse r, agentCompleted r])
        (asked ++ conversations messages turns (turns.length + 1)) s)
    (fun _ s => ∃ (turns : List FullTurn) (cut : Cut),
      Stands base (emitted ++ turns.flatMap (FullTurn.events tools) ++ cut.events tools)
        (asked ++ conversations messages turns (turns.length + cut.requests)) s) := by
  induction left generalizing emitted messages asked with
  | zero =>
    have idle : ∀ s : Session σ, Tells base emitted messages asked s →
        ∃ (turns : List FullTurn) (cut : Cut),
          Stands base (emitted ++ turns.flatMap (FullTurn.events tools) ++ cut.events tools)
            (asked ++ conversations messages turns (turns.length + cut.requests)) s := by
      intro s tells
      exact ⟨[], .idle, by simpa [Cut.events, Cut.requests, conversations] using tells.stands⟩
    refine triple_bind ((checkWall_tells env).failure fun _ => idle) fun _ => ?_
    exact triple_ofFn fun s tells => idle _ (tells.observe rfl)
  | succ left ih =>
    refine triple_bind ((turn_tells env tools).failure ?_) fun answered => ?_
    · rintro _ s ⟨cut, stands⟩
      exact ⟨[], cut, by simpa [conversations_nil] using stands⟩
    cases answered with
    | some answer =>
      refine triple_pure ?_
      rintro s ⟨r, final, stands⟩
      exact ⟨[], r, final, by simpa [conversations_nil] using stands⟩
    | none =>
      rintro s ⟨t, tells⟩
      -- The turn comes before those the induction hypothesis tells of.
      refine triple_consequence ih (fun _ => id) ?_ ?_ s tells
      · rintro _ s ⟨turns, r, final, stands⟩
        refine ⟨t :: turns, r, final, ?_⟩
        rw [List.length_cons, conversations_cons]
        simpa using stands
      · rintro _ s ⟨turns, cut, stands⟩
        refine ⟨t :: turns, cut, ?_⟩
        rw [List.length_cons, Nat.add_right_comm, conversations_cons]
        simpa using stands

end Loop

/-- A completion or an error of the agent. -/
def Emitted.ends (e : Emitted) : Prop := e.type = .agentCompleted ∨ e.type = .agentError

theorem CallMade.open {c : CallMade} : ∀ e ∈ c.events, ¬ e.ends := by
  intro e member
  unfold CallMade.events at member
  split at member
  · simp only [List.mem_append, List.mem_cons, List.not_mem_nil, or_false] at member
    rcases member with (rfl | rfl) | rfl <;> simp [Emitted.ends, toolCalled, toolResulted, toolFailed]
  · simp only [List.append_nil, List.mem_cons, List.not_mem_nil, or_false] at member
    rcases member with rfl | rfl <;> simp [Emitted.ends, toolCalled, toolResulted]

theorem open_calls (calls : List CallMade) : ∀ e ∈ calls.flatMap CallMade.events, ¬ e.ends := by
  intro e member
  obtain ⟨c, -, member⟩ := List.mem_flatMap.mp member
  exact c.open e member

theorem open_request (tools : List Json) : ¬ (modelRequest tools).ends := by simp [Emitted.ends, modelRequest]

theorem open_response (r : LLMResponse) : ¬ (modelResponse r).ends := by simp [Emitted.ends, modelResponse]

theorem FullTurn.open {tools : List Json} {t : FullTurn} : ∀ e ∈ t.events tools, ¬ e.ends := by
  intro e member
  rcases List.mem_append.mp member with asked | called
  · simp only [List.mem_cons, List.not_mem_nil, or_false] at asked
    rcases asked with rfl | rfl
    · exact open_request tools
    · exact open_response t.response
  · exact open_calls t.calls e called

theorem Cut.open {tools : List Json} {cut : Cut} : ∀ e ∈ cut.events tools, ¬ e.ends := by
  intro e member
  cases cut with
  | idle => cases member
  | requested =>
    obtain rfl := List.mem_singleton.mp member
    exact open_request tools
  | called r calls next later proper =>
    rcases List.mem_append.mp member with asked | called
    · simp only [List.mem_cons, List.not_mem_nil, or_false] at asked
      rcases asked with rfl | rfl
      · exact open_request tools
      · exact open_response r
    · exact open_calls calls e called

/-- The run completes or fails once, at its end. -/
theorem dialogue_ends (task : AgentTaskView) (tools : List Json) (turns : List FullTurn) (ending : Ending) :
    ∃ before last, dialogue task tools turns ending = before ++ [last] ∧ last.ends ∧ ∀ e ∈ before, ¬ e.ends := by
  have opened : ∀ e ∈ agentStarted task :: turns.flatMap (FullTurn.events tools), ¬ e.ends := by
    intro e member
    rcases List.mem_cons.mp member with rfl | member
    · simp [Emitted.ends, agentStarted]
    · obtain ⟨t, -, member⟩ := List.mem_flatMap.mp member
      exact t.open e member
  cases ending with
  | completed r final =>
    refine ⟨agentStarted task :: turns.flatMap (FullTurn.events tools) ++ [modelRequest tools, modelResponse r],
      agentCompleted r, by simp [dialogue, Ending.events], Or.inl rfl, ?_⟩
    intro e member
    rcases List.mem_append.mp member with earlier | asked
    · exact opened e earlier
    · simp only [List.mem_cons, List.not_mem_nil, or_false] at asked
      rcases asked with rfl | rfl
      · exact open_request tools
      · exact open_response r
  | failed cut status message =>
    refine ⟨agentStarted task :: turns.flatMap (FullTurn.events tools) ++ cut.events tools, agentFailed status message,
      by simp [dialogue, Ending.events], Or.inr rfl, ?_⟩
    intro e member
    rcases List.mem_append.mp member with earlier | asked
    · exact opened e earlier
    · exact cut.open e asked

section Run

variable [PyText] {σ : Type} (env : Environment σ)

omit [PyText] in
/-- The error that is recorded when the loop raised comes after what the loop emitted. -/
theorem failed_emits {base : TrajectoryRecorder} {emitted : List Emitted} {asked : List (List Json)} {s : Session σ}
    (stands : Stands base emitted asked s) (status : RunStatus) (message : String) :
    Emits base (emitted ++ [agentFailed status message]) (failed env s status message).2.events ∧
      sent (failed env s status message).2.history = asked :=
  ⟨stands.events.append rfl "agent" _, stands.asked⟩

/-- Events and messages of a run follow one grammar, and the last event alone completes it or reports its error. -/
theorem run_follows_grammar {task : AgentTaskView} {package : AgentPackage} {tracker : BudgetTracker} {world : σ}
    {events : TrajectoryRecorder} {prompt : String}
    (built : buildSystemPrompt env.readArtifact task package env.describe = .ok prompt) :
    ∃ r s, run env task package tracker world events = (.ok r, s) ∧
      ∃ (done : List FullTurn) (ending : Ending),
        Emits events (dialogue task (env.describe.map openaiTool) done ending) s.events ∧
        (∃ before last, dialogue task (env.describe.map openaiTool) done ending = before ++ [last] ∧ last.ends ∧
          ∀ e ∈ before, ¬ e.ends) ∧
        sent s.history = conversations (initialMessages task prompt) done (done.length + ending.requests) := by
  let tools := env.describe.map openaiTool
  let s₀ := start task prompt tracker world events
  have started : Tells events [agentStarted task] (initialMessages task prompt) [] s₀ := by
    have none : Emits events [] events := ⟨[], (List.append_nil events).symm, rfl⟩
    exact ⟨none.append rfl _ _, rfl, rfl⟩
  have told := turns_tells env tools (turnsLeft s₀.tracker) s₀ started
  refine ⟨_, _, run_of_prompt built, ?_⟩
  change Ends _ _ ((loop env tools).outcome s₀) at told
  generalize (loop env tools).outcome s₀ = x at told
  obtain ⟨(e | message) | answer, s⟩ := x
  · obtain ⟨done, cut, stands⟩ := told
    let status : RunStatus := if e.dimension = "wall_seconds" then .timeout else .budgetExceeded
    obtain ⟨emits, asked⟩ := failed_emits env stands status e.message
    refine ⟨done, .failed cut status e.message, ?_, dialogue_ends _ _ _ _, asked⟩
    rw [List.append_assoc] at emits
    exact emits
  · obtain ⟨done, cut, stands⟩ := told
    obtain ⟨emits, asked⟩ := failed_emits env stands .agentError message
    refine ⟨done, .failed cut .agentError message, ?_, dialogue_ends _ _ _ _, asked⟩
    rw [List.append_assoc] at emits
    exact emits
  · obtain ⟨done, r, final, stands⟩ := told
    exact ⟨done, .completed r final, stands.events, dialogue_ends _ _ _ _, stands.asked⟩

end Run

def askedTwice : Environment Nat :=
  scripted [⟨none, [⟨"call-1", "get_page", .empty⟩], none, none⟩, ⟨some "hello", [], none, none⟩]

theorem run_follows_grammar_asked_twice :
    ∃ prompt r s, @run asciiText _ askedTwice askedTask barePackage { budget := {} } 0 [] = (.ok r, s) ∧
      ∃ (done : List FullTurn) (ending : Ending), Emits [] (dialogue askedTask [] done ending) s.events ∧
        (∃ before last, dialogue askedTask [] done ending = before ++ [last] ∧ last.ends ∧ ∀ e ∈ before, ¬ e.ends) ∧
        sent s.history = @conversations asciiText (initialMessages askedTask prompt) done (done.length + ending.requests) :=
  ⟨_, @run_follows_grammar asciiText _ askedTwice askedTask barePackage { budget := {} } 0 [] _ rfl⟩

end AgentGym.Runtime
