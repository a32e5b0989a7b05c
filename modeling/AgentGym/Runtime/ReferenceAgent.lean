import AgentGym.Core.Contracts
import AgentGym.Lib.Steps
import AgentGym.Runner.Budgets
import AgentGym.Runner.Recorder

/-!
# The reference agent

A model and its tools take turns until the model answers without calling a tool, a budget
is used up, or something raises. The model, the tools and the clock are given by an
`Environment` over a state of their own.
-/

namespace AgentGym.Runtime

open Runner

structure ToolDescription where
  name : String
  description : String
  parameters : Json

structure ToolResult where
  payload : Json
  error : Bool
  message : String

structure LLMToolCall where
  id : String
  name : String
  arguments : Dict String Json

structure LLMResponse where
  content : Option String
  toolCalls : List LLMToolCall
  inputTokens : Option Int
  outputTokens : Option Int

/-- How `LLMClient.complete` ends. -/
inductive Completion where
  | response (r : LLMResponse)
  | invalid
  | raised (e : Raised)

/-- An event the tools send to the sink on their own. -/
structure WorldEvent where
  isRequest : Bool
  actor : String
  payload : List (String × Json)

structure AgentTaskView where
  goal : String
  actorId : String

structure AgentPackage where
  id : String
  declaredCapabilities : List String
  knowledge : List String
  skills : List String

structure Environment (σ : Type) where
  /-- A reading of `elapsed_seconds`. -/
  elapsed : σ → Rat × σ
  complete : List Json → List Json → σ → Completion × σ
  describe : List ToolDescription
  execute : String → Dict String Json → σ → (Except String ToolResult × List WorldEvent) × σ
  /-- `_read_artifact`, for a layer and a path. -/
  readArtifact : String → String → Except String String

/-! ### Messages -/

section Messages

variable [PyText]

def optString (s : Option String) : Json := (s.map Json.str).getD .null

def openaiTool (d : ToolDescription) : Json :=
  let parameters := if d.parameters.truthy then d.parameters
    else .obj [("type", .str "object"), ("properties", .obj [])]
  .obj [("type", .str "function"), ("function", .obj [("name", .str d.name),
    ("description", .str d.description), ("parameters", parameters)])]

def assistantToolMessage (r : LLMResponse) : Json :=
  .obj [("role", .str "assistant"), ("content", optString r.content),
    ("tool_calls", .arr (r.toolCalls.map fun call => .obj [("id", .str call.id), ("type", .str "function"),
      ("function", .obj [("name", .str call.name), ("arguments", .str (PyText.dumps (.ofDict call.arguments)))])]))]

def toolMessage (toolCallId : String) (result : ToolResult) : Json :=
  let content := if result.error then .obj [("error", .str result.message), ("payload", result.payload)]
    else result.payload
  .obj [("role", .str "tool"), ("tool_call_id", .str toolCallId), ("content", .str (PyText.dumpsUnicode content))]

/-- The sections of one layer of artifacts. -/
def artifactSections (readArtifact : String → String → Except String String) (layer title : String)
    (paths : List String) : Except String (List String) :=
  if paths.isEmpty then .ok ["(none)"]
  else do
    let sections ← paths.mapM fun path => do
      let text ← readArtifact layer path
      pure [s!"\n## {title}: {path}", text]
    pure sections.flatten

def toolSections (descriptions : List ToolDescription) : List String :=
  if descriptions.isEmpty then ["(none)"]
  else descriptions.flatMap fun d =>
    let schema := PyText.dumps d.parameters
    [s!"\n## {d.name}", if d.description = "" then "No description provided." else d.description,
      s!"Arguments JSON schema: {schema}"]

def buildSystemPrompt (readArtifact : String → String → Except String String) (task : AgentTaskView)
    (package : AgentPackage) (descriptions : List ToolDescription) : Except String String := do
  let knowledge ← artifactSections readArtifact "knowledge" "Knowledge" package.knowledge
  let skills ← artifactSections readArtifact "skills" "Skill" package.skills
  pure ("\n".intercalate (["You are a general-purpose enterprise task agent.",
    s!"Acting actor id: {task.actorId}",
    "Complete the user's goal using only the tools listed below. " ++
      "Do not claim a state change unless a tool result supports it.",
    "", "# Package knowledge"] ++ knowledge ++ ["\n# Package skills"] ++ skills ++
    ["\n# Available tools"] ++ toolSections descriptions))

end Messages

/-! ### The session -/

/-- A call the agent made, a usage it accepted, or an exception of its own. -/
inductive Observation where
  | asked (messages : List Json) (completion : Completion)
  | accepted (inputTokens outputTokens : Option Int)
  | executed (name : String) (arguments : Dict String Json) (answer : Except String ToolResult)
  | failed (e : Raised)

/-- The state of one run. -/
structure Session (σ : Type) where
  world : σ
  tracker : BudgetTracker
  messages : List Json
  hadToolError : Bool
  events : TrajectoryRecorder
  /-- What the agent did so far, in order, for proofs to speak about; no step reads it. -/
  history : List Observation

def Session.observe {σ : Type} (s : Session σ) (o : Observation) : Session σ := { s with history := s.history ++ [o] }

abbrev Act (σ : Type) := Steps Raised (Session σ)

section Acts

variable [PyText] {σ : Type} (env : Environment σ)

def emit (type : TrajectoryEventType) (actor : String) (payload : List (String × Recorded)) : Act σ Unit :=
  modify fun s => { s with events := append s.events type actor payload }

def appendMessage (message : Json) : Act σ Unit := modify fun s => { s with messages := s.messages ++ [message] }

/-- The flag is set once and never cleared. -/
def noteToolError (result : ToolResult) : Act σ Unit :=
  modify fun s => { s with hadToolError := s.hadToolError || result.error }

def checkWall : Act σ Unit := Steps.ofFn fun s =>
  let (elapsed, world) := env.elapsed s.world
  match s.tracker.checkWall elapsed with
  | .ok () => (.ok (), { s with world })
  | .error e => (.error e, { s with world }.observe (.failed e))

def checkAndBump (counter : Counter) : Act σ Unit := Steps.ofFn fun s =>
  match s.tracker.checkAndBump counter with
  | .ok tracker => (.ok (), { s with tracker })
  | .error e => (.error e, s.observe (.failed e))

def recordTokens (inputTokens outputTokens : Option Int) : Act σ Unit := Steps.ofFn fun s =>
  match s.tracker.recordTokens inputTokens outputTokens with
  | .ok tracker => (.ok (), { s with tracker }.observe (.accepted inputTokens outputTokens))
  | .error e => (.error e, s.observe (.failed e))

/-- What a completion gives the agent. -/
def Completion.answer : Completion → Except Raised LLMResponse
  | .response r => .ok r
  | .invalid => .error (.exception "LLM client returned an invalid response")
  | .raised e => .error e

def complete (tools : List Json) : Act σ LLMResponse := Steps.ofFn fun s =>
  let (completion, world) := env.complete s.messages tools s.world
  (completion.answer, { s with world }.observe (.asked s.messages completion))

def worldEventType (e : WorldEvent) : TrajectoryEventType :=
  if e.isRequest then .worldApiRequest else .worldApiResponse

def record (events : TrajectoryRecorder) (emitted : List WorldEvent) : TrajectoryRecorder :=
  emitted.foldl (fun events e => append events (worldEventType e) e.actor (values e.payload)) events

/-- A tool that raises gives an error result. -/
def execute (call : LLMToolCall) : Act σ ToolResult := Steps.ofFn fun s =>
  let ((answer, emitted), world) := env.execute call.name call.arguments s.world
  let result := match answer with
    | .ok result => result
    | .error message => ⟨.obj [("error", .str message)], true, message⟩
  let s := { s with world, events := record s.events emitted }
  (.ok result, s.observe (.executed call.name call.arguments answer))

def emitToolError (call : LLMToolCall) (result : ToolResult) : Act σ Unit :=
  if result.error then
    emit .toolError "tool" (values [("id", .str call.id), ("name", .str call.name), ("message", .str result.message)])
  else pure ()

def callTool (call : LLMToolCall) : Act σ Unit := do
  checkWall env
  checkAndBump .toolCalls
  emit .toolCall "agent" (values [("id", .str call.id), ("name", .str call.name),
    ("arguments", .ofDict call.arguments)])
  let result ← execute env call
  noteToolError result
  emit .toolResult "tool" (values [("id", .str call.id), ("name", .str call.name), ("payload", result.payload),
    ("error", .bool result.error), ("message", .str result.message)])
  emitToolError call result
  appendMessage (toolMessage call.id result)

def callTools : List LLMToolCall → Act σ Unit
  | [] => pure ()
  | call :: calls => do
    callTool env call
    callTools calls

def toolCallJson (call : LLMToolCall) : Json :=
  .obj [("id", .str call.id), ("name", .str call.name), ("arguments", .ofDict call.arguments)]

/-- One call of the model, between its two events. -/
def ask (tools : List Json) : Act σ LLMResponse := do
  emit .modelRequest "agent" [("messages", .messages), ("tools", .value (.arr tools))]
  let response ← complete env tools
  checkWall env
  recordTokens response.inputTokens response.outputTokens
  emit .modelResponse "model" (values [("content", optString response.content),
    ("tool_calls", .arr (response.toolCalls.map toolCallJson))])
  pure response

def respond (tools : List Json) : Act σ LLMResponse := do
  checkWall env
  checkAndBump .modelTurns
  ask env tools

/-- What follows a response: the final answer, or the tools it calls. -/
def branch (response : LLMResponse) : Act σ (Option (Option String)) :=
  if response.toolCalls.isEmpty then do
    emit .agentCompleted "agent" (values [("final_answer", optString response.content)])
    pure (some response.content)
  else do
    appendMessage (assistantToolMessage response)
    callTools env response.toolCalls
    pure none

/-- One pass of the loop: the final answer, or none when tools were called. -/
def turn (tools : List Json) : Act σ (Option (Option String)) := do
  let response ← respond env tools
  branch env response

/-- The check that raises once no turn is left. -/
def refuseTurn : Act σ (Option String) := Steps.ofFn fun s =>
  let e := Raised.budgetExceeded ⟨"model_turns", s.tracker.budget.maxModelTurns, .int (s.tracker.modelTurns + 1)⟩
  (.error e, s.observe (.failed e))

/-- The loop, with as many turns as the budget has left. -/
def turns (tools : List Json) : Nat → Act σ (Option String)
  | 0 => do
    checkWall env
    refuseTurn
  | left + 1 => do
    match ← turn env tools with
    | some answer => pure answer
    | none => turns tools left

def turnsLeft (t : BudgetTracker) : Nat := t.budget.maxModelTurns - t.modelTurns

def loop (tools : List Json) : Act σ (Option String) := do
  let s ← get
  turns env tools (turnsLeft s.tracker)

/-! ### The run -/

structure RuntimeResult where
  status : RunStatus
  finalAnswer : Option String
  metrics : RolloutMetrics
  error : Option String

/-- The result, at a last reading of the clock. -/
def result (s : Session σ) (status : RunStatus) (finalAnswer error : Option String) : RuntimeResult × Session σ :=
  let (elapsed, world) := env.elapsed s.world
  (⟨status, finalAnswer, s.tracker.metrics elapsed, error⟩, { s with world })

def failed (s : Session σ) (status : RunStatus) (message : String) : RuntimeResult × Session σ :=
  let payload := values [("status", .str status.value), ("error", .str message)]
  result env { s with events := append s.events .agentError "agent" payload } status none (some message)

def initialMessages (task : AgentTaskView) (prompt : String) : List Json :=
  [.obj [("role", .str "system"), ("content", .str prompt)], .obj [("role", .str "user"), ("content", .str task.goal)]]

/-- The session once the prompt is built. -/
def start (task : AgentTaskView) (prompt : String) (tracker : BudgetTracker) (world : σ)
    (events : TrajectoryRecorder) : Session σ where
  world := world
  tracker := tracker
  messages := initialMessages task prompt
  hadToolError := false
  events := append events .agentStarted "agent" (values [("actor_id", .str task.actorId)])
  history := []

/-- How the loop ended, as a result. -/
def conclude : Except Raised (Option String) × Session σ → RuntimeResult × Session σ
  | (.ok answer, s) => result env s (if s.hadToolError then .toolError else .pass) answer none
  | (.error (.budgetExceeded e), s) =>
    failed env s (if e.dimension = "wall_seconds" then .timeout else .budgetExceeded) e.message
  | (.error (.exception message), s) => failed env s .agentError message

/-- `ReferenceAgent.run`; a prompt that cannot be built raises. -/
def run (task : AgentTaskView) (package : AgentPackage) (tracker : BudgetTracker) (world : σ)
    (events : TrajectoryRecorder) : Except String RuntimeResult × Session σ :=
  match buildSystemPrompt env.readArtifact task package env.describe with
  | .error message => (.error message, ⟨world, tracker, [], false, events, []⟩)
  | .ok prompt =>
    let tools := env.describe.map openaiTool
    let (result, s) := conclude env ((loop env tools).outcome (start task prompt tracker world events))
    (.ok result, s)

end Acts

end AgentGym.Runtime
