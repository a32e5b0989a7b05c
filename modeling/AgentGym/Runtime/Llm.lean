import AgentGym.Lib.JsonText
import AgentGym.Runtime.Simulation

/-!
# The chat-completions client

A response is read out of what an endpoint sends, and its tool calls are written back into
the conversation. The endpoint is sent its own answers: each of them can be read again from
the conversation as it was read from the endpoint, whatever the tools did in between.
-/

namespace AgentGym.Runtime

open Runner Steps

/-- `json.loads`, on any text, with what it does on a text that `json.dumps` wrote. -/
class JsonReader extends PyText where
  loads : String → Option Json
  loads_dumps : ∀ v, loads (dumps v) = some (JsonText.sorted v)

inductive LlmError where
  | value (message : String)
  /-- A `ValidationError`, and what is wrong with the field. -/
  | validation (field message : String)

section Payload

variable [JsonReader]

/-! ### Reading a response -/

def parseArguments : Json → Except LlmError (Dict String Json)
  | .str text =>
    match JsonReader.loads text with
    | none => .error (.validation "arguments" "tool-call arguments must be valid JSON")
    | some (.obj fields) => .ok (.ofEntries fields)
    | some _ => .error (.validation "arguments" "tool-call arguments must decode to an object")
  | .obj fields => .ok (.ofEntries fields)
  | _ => .error (.validation "arguments" "Input should be a valid dictionary")

/-- The name of a function and its arguments. -/
def readFunction : Json → Except LlmError (String × Dict String Json)
  | .obj fields =>
    match (Json.obj fields).get? "name" with
    | some (.str name) =>
      if name = "" then .error (.value "LLM tool call has no function name")
      else do
        let arguments ← parseArguments (((Json.obj fields).get? "arguments").getD (.obj []))
        pure (name, arguments)
    | _ => .error (.value "LLM tool call has no function name")
  | _ => .error (.value "LLM tool call function must be an object")

def readToolCall : Json → Except LlmError LLMToolCall
  | .obj fields => do
    let raw := Json.obj fields
    let (name, arguments) ← readFunction ((raw.get? "function").getD raw)
    pure ⟨pyStr ((raw.get? "id").getD (.str "")), name, arguments⟩
  | _ => .error (.value "LLM tool call must be an object")

/-- What is no list calls nothing. -/
def readToolCalls : Option Json → Except LlmError (List LLMToolCall)
  | some (.arr raw) => raw.mapM readToolCall
  | _ => .ok []

def readContent : Option Json → Option String
  | none | some .null => none
  | some v => some (pyStr v)

def optionalInt : Option Json → Option Int
  | some (.int i) => some i
  | _ => none

/-- The first choice; a text is a sequence too. -/
def firstChoice : Option Json → Except LlmError Json
  | some (.arr (first :: _)) => .ok first
  | some (.str s) =>
    match s.toList with
    | c :: _ => .ok (.str (String.singleton c))
    | [] => .error (.value "LLM response has no choices")
  | _ => .error (.value "LLM response has no choices")

/-- The message of a choice. -/
def readMessage : Json → Except LlmError Json
  | .obj fields =>
    match ((Json.obj fields).get? "message").getD (.obj []) with
    | .obj message => .ok (.obj message)
    | _ => .error (.value "LLM response message must be an object")
  | _ => .error (.value "LLM response choice must be an object")

def responseFromOpenaiPayload (payload : Json) : Except LlmError LLMResponse :=
  if payload.isObj then do
    let first ← firstChoice (payload.get? "choices")
    let message ← readMessage first
    let toolCalls ← readToolCalls (message.get? "tool_calls")
    let usage := (payload.get? "usage").getD .null
    pure ⟨readContent (message.get? "content"), toolCalls, optionalInt (usage.get? "prompt_tokens"),
      optionalInt (usage.get? "completion_tokens")⟩
  else .error (.value "LLM response must be a JSON object")

/-! ### The client -/

structure HttpRequest where
  url : String
  authorization : Option String
  body : Json

structure OpenAIChatClient where
  baseUrl : String
  apiKey : String
  model : String

/-- What answers a request: a payload, or why there is none. -/
structure Endpoint (σ : Type) where
  post : HttpRequest → σ → Except String Json × σ
  /-- The text of a `ValidationError`. -/
  validationText : String → String → String

namespace OpenAIChatClient

variable (client : OpenAIChatClient) {σ : Type} (endpoint : Endpoint σ)

def request (messages tools : List Json) : HttpRequest where
  url := client.baseUrl ++ "/chat/completions"
  authorization := if client.apiKey = "" then none else some ("Bearer " ++ client.apiKey)
  body := .obj ([("model", .str client.model), ("messages", .arr messages), ("stream", .bool false)] ++
    if tools.isEmpty then [] else [("tools", .arr tools)])

def raise : LlmError → Raised
  | .value message => .exception message
  | .validation field message => .exception (endpoint.validationText field message)

def complete (messages tools : List Json) (world : σ) : Completion × σ :=
  match endpoint.post (client.request messages tools) world with
  | (.error message, world) => (.raised (.exception message), world)
  | (.ok payload, world) =>
    match responseFromOpenaiPayload payload with
    | .error e => (.raised (raise endpoint e), world)
    | .ok r => (.response r, world)

/-- The environment whose model is behind the endpoint. -/
def serve (env : Environment σ) : Environment σ := { env with complete := client.complete endpoint }

end OpenAIChatClient

/-! ### What goes over the wire -/

/-- A request that was posted, and what was sent back. -/
abbrev Exchange := HttpRequest × Except String Json

section Wire

omit [JsonReader]

variable {σ : Type}

/-- The endpoint, with a log of its exchanges. -/
def Endpoint.logged (endpoint : Endpoint σ) : Endpoint (σ × List Exchange) where
  post request w :=
    ((endpoint.post request w.1).1, (endpoint.post request w.1).2, w.2 ++ [(request, (endpoint.post request w.1).1)])
  validationText := endpoint.validationText

/-- The environment, which leaves the log alone. -/
def Environment.unlogged (env : Environment σ) : Environment (σ × List Exchange) where
  elapsed w := ((env.elapsed w.1).1, (env.elapsed w.1).2, w.2)
  complete messages tools w :=
    ((env.complete messages tools w.1).1, (env.complete messages tools w.1).2, w.2)
  describe := env.describe
  execute name arguments w := ((env.execute name arguments w.1).1, (env.execute name arguments w.1).2, w.2)
  readArtifact := env.readArtifact

abbrev WiredSession (σ : Type) := Session (σ × List Exchange)

end Wire

/-- The environment whose model is behind the endpoint, with a log of the exchanges. -/
def OpenAIChatClient.wired {σ : Type} (client : OpenAIChatClient) (endpoint : Endpoint σ) (env : Environment σ) :
    Environment (σ × List Exchange) := client.serve endpoint.logged env.unlogged

theorem complete_logged {σ : Type} (client : OpenAIChatClient) (endpoint : Endpoint σ) (messages tools : List Json)
    (w : σ × List Exchange) : client.complete endpoint messages tools w.1 =
      ((client.complete endpoint.logged messages tools w).1, (client.complete endpoint.logged messages tools w).2.1) := by
  unfold OpenAIChatClient.complete Endpoint.logged
  dsimp only
  generalize endpoint.post (client.request messages tools) w.1 = x
  obtain ⟨message | payload, world⟩ := x
  · rfl
  · dsimp only
    cases responseFromOpenaiPayload payload <;> rfl

/-- The log changes nothing. -/
theorem serve_shows {σ : Type} (client : OpenAIChatClient) (endpoint : Endpoint σ) (env : Environment σ) :
    (client.wired endpoint env).Shows Prod.fst (client.serve endpoint env) where
  elapsed _ := rfl
  complete messages tools w := complete_logged client endpoint messages tools w
  describe := rfl
  execute _ _ _ := rfl
  readArtifact := rfl

/-! ### Reading a response again -/

def LLMResponse.Named (r : LLMResponse) : Prop := ∀ call ∈ r.toolCalls, call.name ≠ ""

/-- What the conversation tells of a response: its arguments by key, and no tokens. -/
def LLMResponse.echoed (r : LLMResponse) : LLMResponse where
  content := r.content
  toolCalls := r.toolCalls.map fun call => { call with arguments := JsonText.sortedDict call.arguments }
  inputTokens := none
  outputTokens := none

/-- A payload with one choice, and no usage. -/
def choosing (message : Json) : Json := .obj [("choices", .arr [.obj [("message", message)]])]

theorem named_of_readFunction {function : Json} {name : String} {arguments : Dict String Json}
    (read : readFunction function = .ok (name, arguments)) : name ≠ "" := by
  unfold readFunction at read
  split at read
  · split at read
    · split at read
      · cases read
      · rename_i some_
        obtain ⟨_, -, same⟩ := bind_eq_ok_iff.mp read
        obtain ⟨rfl, -⟩ := Prod.mk.inj (Except.ok.inj same)
        exact some_
    · cases read
  · cases read

theorem named_of_readToolCall {raw : Json} {call : LLMToolCall} (read : readToolCall raw = .ok call) :
    call.name ≠ "" := by
  unfold readToolCall at read
  split at read
  · obtain ⟨⟨name, arguments⟩, function, made⟩ := bind_eq_ok_iff.mp read
    obtain rfl := Except.ok.inj made
    exact named_of_readFunction function
  · cases read

/-- A response that is read calls functions by their names. -/
theorem named_of_response {payload : Json} {r : LLMResponse} (read : responseFromOpenaiPayload payload = .ok r) :
    r.Named := by
  unfold responseFromOpenaiPayload at read
  split at read
  · obtain ⟨first, -, read⟩ := bind_eq_ok_iff.mp read
    obtain ⟨message, -, read⟩ := bind_eq_ok_iff.mp read
    obtain ⟨toolCalls, calls, made⟩ := bind_eq_ok_iff.mp read
    obtain rfl := Except.ok.inj made
    intro call member
    unfold readToolCalls at calls
    split at calls
    · obtain ⟨raw, -, one⟩ := exists_of_forall₂ (mapM_eq_ok_iff.mp calls).flip member
      exact named_of_readToolCall one
    · obtain rfl := Except.ok.inj calls
      cases member
  · cases read

theorem parseArguments_dumps (arguments : Dict String Json) :
    parseArguments (.str (PyText.dumps (.ofDict arguments))) = .ok (JsonText.sortedDict arguments) := by
  simp only [parseArguments, JsonReader.loads_dumps]
  rfl

/-- A call that was written into the conversation is read from it. -/
theorem readToolCall_written {call : LLMToolCall} (named : call.name ≠ "") :
    readToolCall (.obj [("id", .str call.id), ("type", .str "function"),
      ("function", .obj [("name", .str call.name), ("arguments", .str (PyText.dumps (.ofDict call.arguments)))])]) =
        .ok { call with arguments := JsonText.sortedDict call.arguments } := by
  have function : readFunction (.obj [("name", .str call.name),
      ("arguments", .str (PyText.dumps (.ofDict call.arguments)))]) =
        .ok (call.name, JsonText.sortedDict call.arguments) := by
    show (if call.name = "" then _ else _) = _
    rw [if_neg named]
    exact bind_eq_ok_iff.mpr ⟨_, parseArguments_dumps call.arguments, rfl⟩
  exact bind_eq_ok_iff.mpr ⟨_, function, rfl⟩

/-- The message of a response is read as that response. -/
theorem response_of_assistantToolMessage {r : LLMResponse} (named : r.Named) :
    responseFromOpenaiPayload (choosing (assistantToolMessage r)) = .ok r.echoed := by
  have calls : readToolCalls ((assistantToolMessage r).get? "tool_calls") = .ok r.echoed.toolCalls := by
    refine mapM_eq_ok_iff.mpr ?_
    rw [LLMResponse.echoed, List.forall₂_map_left_iff, List.forall₂_map_right_iff, List.forall₂_same]
    exact fun call member => readToolCall_written (named call member)
  have content : readContent ((assistantToolMessage r).get? "content") = r.content := by
    obtain ⟨content, toolCalls, inputTokens, outputTokens⟩ := r
    cases content <;> rfl
  refine bind_eq_ok_iff.mpr ⟨_, rfl, bind_eq_ok_iff.mpr ⟨assistantToolMessage r, rfl, ?_⟩⟩
  refine bind_eq_ok_iff.mpr ⟨_, calls, ?_⟩
  rw [content]
  rfl

/-! ### What is written into the conversation -/

def fromAssistant (message : Json) : Bool :=
  match message.get? "role" with
  | some (.str role) => role = "assistant"
  | _ => false

/-- The responses that the messages of the assistant are read as. -/
def replayed (messages : List Json) : List (Except LlmError LLMResponse) :=
  (messages.filter fromAssistant).map fun message => responseFromOpenaiPayload (choosing message)

/-- The responses that the payloads of these exchanges are read as. -/
def answers (past : List Exchange) : List LLMResponse :=
  past.filterMap fun e => e.2.toOption.bind fun payload => (responseFromOpenaiPayload payload).toOption

theorem answers_append (past past' : List Exchange) : answers (past ++ past') = answers past ++ answers past' :=
  List.filterMap_append

/-- The messages are read as the answers of these exchanges, in order. -/
def Replays (past : List Exchange) (messages : List Json) : Prop :=
  replayed messages = (answers past).map fun r => .ok r.echoed

/-- Every request has in its body the answers before it. -/
def AllReplay (past : List Exchange) : Prop :=
  ∀ before request answer after, past = before ++ (request, answer) :: after →
    ∃ messages, request.body.get? "messages" = some (.arr messages) ∧ Replays before messages

theorem replayed_append (messages messages' : List Json) :
    replayed (messages ++ messages') = replayed messages ++ replayed messages' := by
  rw [replayed, List.filter_append, List.map_append]
  rfl

theorem replayed_tool (toolCallId : String) (result : ToolResult) : replayed [toolMessage toolCallId result] = [] := rfl

theorem replayed_assistant {r : LLMResponse} (named : r.Named) :
    replayed [assistantToolMessage r] = [.ok r.echoed] := by
  show [responseFromOpenaiPayload (choosing (assistantToolMessage r))] = _
  rw [response_of_assistantToolMessage named]

theorem AllReplay.append {past : List Exchange} (all : AllReplay past) {messages : List Json} (now : Replays past messages)
    {request : HttpRequest} (body : request.body.get? "messages" = some (.arr messages)) (answer : Except String Json) :
    AllReplay (past ++ [(request, answer)]) := by
  intro before request' answer' after split
  rcases List.eq_nil_or_concat after with rfl | ⟨later, e, rfl⟩
  · obtain ⟨rfl, same⟩ := List.append_inj' split rfl
    obtain ⟨rfl, rfl⟩ := Prod.mk.inj (List.cons.inj same).1
    exact ⟨messages, body, now⟩
  · have shorter : past = before ++ (request', answer') :: later := by
      have same : past ++ [(request, answer)] = (before ++ (request', answer') :: later) ++ [e] := by
        simpa using split
      exact (List.append_inj' same rfl).1
    exact all before request' answer' later shorter

omit [JsonReader] in
theorem messages_of_request (client : OpenAIChatClient) (messages tools : List Json) :
    (client.request messages tools).body.get? "messages" = some (.arr messages) := rfl

/-! ### One turn -/

variable {σ : Type} (client : OpenAIChatClient) (endpoint : Endpoint σ) (env : Environment σ) (tools : List Json)

/-- Nothing goes over the wire, and the assistant says nothing. -/
def Quiet (s s' : WiredSession σ) : Prop := s'.world.2 = s.world.2 ∧ replayed s'.messages = replayed s.messages

theorem quiet_refl (s : WiredSession σ) : Quiet s s := ⟨rfl, rfl⟩

theorem quiet_trans (a b c : WiredSession σ) (first : Quiet a b) (later : Quiet b c) : Quiet a c :=
  ⟨later.1.trans first.1, later.2.trans first.2⟩

theorem quiet_checkWall : Keeps Quiet (checkWall (client.wired endpoint env)) := by
  intro s
  simp only [checkWall, outcome_ofFn]
  split
  · exact ⟨rfl, rfl⟩
  · exact ⟨rfl, rfl⟩

theorem quiet_checkAndBump (counter : Counter) : Keeps (@Quiet _ σ) (checkAndBump counter) := by
  intro s
  simp only [checkAndBump, outcome_ofFn]
  split
  · exact ⟨rfl, rfl⟩
  · exact ⟨rfl, rfl⟩

theorem quiet_recordTokens (i o : Option Int) : Keeps (@Quiet _ σ) (recordTokens i o) := by
  intro s
  simp only [recordTokens, outcome_ofFn]
  split
  · exact ⟨rfl, rfl⟩
  · exact ⟨rfl, rfl⟩

theorem quiet_emit (type : TrajectoryEventType) (actor : String) (payload : List (String × Recorded)) :
    Keeps (@Quiet _ σ) (emit type actor payload) := fun _ => ⟨rfl, rfl⟩

theorem quiet_callTool (call : LLMToolCall) : Keeps Quiet (callTool (client.wired endpoint env) call) := by
  have executed : Keeps Quiet (execute (client.wired endpoint env) call) := fun _ => ⟨rfl, rfl⟩
  refine keeps_bind quiet_trans (quiet_checkWall client endpoint env) fun _ => ?_
  refine keeps_bind quiet_trans (quiet_checkAndBump _) fun _ => ?_
  refine keeps_bind quiet_trans (quiet_emit _ _ _) fun _ => ?_
  refine keeps_bind quiet_trans executed fun result => ?_
  refine keeps_bind quiet_trans (fun _ => ⟨rfl, rfl⟩) fun _ => ?_
  refine keeps_bind quiet_trans (quiet_emit _ _ _) fun _ => ?_
  refine keeps_bind quiet_trans ?_ fun _ s => ⟨rfl, ?_⟩
  · unfold emitToolError
    split
    · exact quiet_emit _ _ _
    · exact keeps_pure quiet_refl _
  · show replayed (s.messages ++ [toolMessage call.id result]) = _
    rw [replayed_append, replayed_tool, List.append_nil]

theorem quiet_callTools (calls : List LLMToolCall) : Keeps Quiet (callTools (client.wired endpoint env) calls) := by
  induction calls with
  | nil => exact keeps_pure quiet_refl _
  | cons call calls ih => exact keeps_bind quiet_trans (quiet_callTool client endpoint env call) fun _ => ih

/-- Every request so far has in it the answers before it. -/
def Safe (s : WiredSession σ) : Prop := AllReplay s.world.2

/-- So would a request that is posted now. -/
def Caught (s : WiredSession σ) : Prop := Safe s ∧ Replays s.world.2 s.messages

/-- So would one that is posted once the response is in the conversation. -/
def Owes (r : LLMResponse) (s : WiredSession σ) : Prop :=
  Safe s ∧ r.Named ∧ replayed s.messages ++ [.ok r.echoed] = (answers s.world.2).map fun r => .ok r.echoed

theorem Quiet.safe {s s' : WiredSession σ} (quiet : Quiet s s') (safe : Safe s) : Safe s' := by
  rw [Safe, quiet.1]
  exact safe

theorem Quiet.caught {s s' : WiredSession σ} (quiet : Quiet s s') (caught : Caught s) : Caught s' := by
  refine ⟨quiet.safe caught.1, ?_⟩
  rw [Replays, quiet.1, quiet.2]
  exact caught.2

theorem Quiet.owes {r : LLMResponse} {s s' : WiredSession σ} (quiet : Quiet s s') (owes : Owes r s) : Owes r s' := by
  refine ⟨quiet.safe owes.1, owes.2.1, ?_⟩
  rw [quiet.1, quiet.2]
  exact owes.2.2

section Quietly

variable {α : Type} {m : Act (σ × List Exchange) α}

theorem caught_of_quiet (quiet : Keeps Quiet m) : Triple Caught m (fun _ => Caught) (fun _ => Safe) :=
  (triple_of_keeps quiet fun _ _ caught quiet => quiet.caught caught).failure fun _ _ caught => caught.1

theorem owes_of_quiet {r : LLMResponse} (quiet : Keeps Quiet m) : Triple (Owes r) m (fun _ => Owes r) (fun _ => Safe) :=
  (triple_of_keeps quiet fun _ _ owes quiet => quiet.owes owes).failure fun _ _ owes => owes.1

end Quietly

theorem complete_owes : Triple Caught (complete (client.wired endpoint env) tools) (fun r => Owes r)
    (fun _ => Safe) := by
  refine triple_ofFn fun s ⟨safe, replays⟩ => ?_
  dsimp only [OpenAIChatClient.wired, OpenAIChatClient.serve, OpenAIChatClient.complete, Endpoint.logged]
  generalize endpoint.post (client.request s.messages tools) s.world.1 = x
  obtain ⟨answer, world⟩ := x
  have safe' : AllReplay (s.world.2 ++ [(client.request s.messages tools, answer)]) :=
    safe.append replays (messages_of_request client s.messages tools) answer
  cases answer with
  | error message => exact safe'
  | ok payload =>
    dsimp only
    cases read : responseFromOpenaiPayload payload with
    | error e => exact safe'
    | ok r =>
      refine ⟨safe', named_of_response read, ?_⟩
      have last : answers [(client.request s.messages tools, .ok payload)] = [r] := by
        simp [answers, Except.toOption, read]
      show replayed s.messages ++ _ = (answers (s.world.2 ++ [(client.request s.messages tools, .ok payload)])).map _
      rw [show replayed s.messages = _ from replays, answers_append, last, List.map_append]
      rfl

theorem ask_owes : Triple Caught (ask (client.wired endpoint env) tools) (fun r => Owes r) (fun _ => Safe) := by
  refine triple_bind (caught_of_quiet (quiet_emit _ _ _)) fun _ => ?_
  refine triple_bind (complete_owes client endpoint env tools) fun r => ?_
  refine triple_bind (owes_of_quiet (quiet_checkWall client endpoint env)) fun _ => ?_
  refine triple_bind (owes_of_quiet (quiet_recordTokens _ _)) fun _ => ?_
  refine triple_bind (owes_of_quiet (quiet_emit _ _ _)) fun _ => ?_
  exact triple_pure fun _ owes => owes

theorem branch_caught (r : LLMResponse) :
    Triple (Owes r) (branch (client.wired endpoint env) r) (fun answered s => Safe s ∧ (answered = none → Caught s)) (fun _ => Safe) := by
  unfold branch
  split
  · refine triple_bind (owes_of_quiet (quiet_emit _ _ _)) fun _ => triple_pure fun s owes => ⟨owes.1, nofun⟩
  · refine triple_bind (Q := fun _ => Caught) (triple_modify fun s owes => ⟨owes.1, ?_⟩) fun _ => ?_
    · show replayed (s.messages ++ [assistantToolMessage r]) = _
      rw [replayed_append, replayed_assistant owes.2.1]
      exact owes.2.2
    · refine triple_bind (caught_of_quiet (quiet_callTools client endpoint env _)) fun _ => ?_
      exact triple_pure fun s caught => ⟨caught.1, fun _ => caught⟩

theorem turn_caught : Triple Caught (turn (client.wired endpoint env) tools)
    (fun answered s => Safe s ∧ (answered = none → Caught s)) (fun _ => Safe) := by
  refine triple_bind ?_ (branch_caught client endpoint env)
  refine triple_bind (caught_of_quiet (quiet_checkWall client endpoint env)) fun _ => ?_
  refine triple_bind (caught_of_quiet (quiet_checkAndBump _)) fun _ => ?_
  exact ask_owes client endpoint env tools

theorem turns_safe (left : Nat) :
    Triple Caught (turns (client.wired endpoint env) tools left) (fun _ => Safe) (fun _ => Safe) := by
  induction left with
  | zero =>
    refine triple_bind (caught_of_quiet (quiet_checkWall client endpoint env)) fun _ => ?_
    exact triple_ofFn fun _ caught => caught.1
  | succ left ih =>
    refine triple_bind (turn_caught client endpoint env tools) fun answered => ?_
    cases answered with
    | some answer => exact triple_pure fun _ ended => ended.1
    | none => exact triple_consequence ih (fun _ again => again.2 rfl) (fun _ _ => id) fun _ _ => id

/-! ### The run -/

theorem conclude_world (x : Except Raised (Option String) × WiredSession σ) :
    (conclude (client.wired endpoint env) x).2.world.2 = x.2.world.2 := by
  obtain ⟨e | _, s⟩ := x
  · cases e <;> rfl
  · rfl

theorem run_safe (task : AgentTaskView) (package : AgentPackage) (tracker : BudgetTracker) (world : σ)
    (events : TrajectoryRecorder) :
    Safe (run (client.wired endpoint env) task package tracker (world, []) events).2 := by
  have idle : AllReplay [] := fun before _ _ _ split => by cases before <;> cases split
  cases built : buildSystemPrompt env.readArtifact task package env.describe with
  | error message =>
    unfold run
    rw [show buildSystemPrompt (client.wired endpoint env).readArtifact task package
      (client.wired endpoint env).describe = .error message from built]
    exact idle
  | ok prompt =>
    have served : buildSystemPrompt (client.wired endpoint env).readArtifact task package
        (client.wired endpoint env).describe = .ok prompt := built
    rw [run_of_prompt served]
    have looped := turns_safe client endpoint env
      ((client.wired endpoint env).describe.map openaiTool) (turnsLeft tracker)
      (start task prompt tracker (world, []) events) ⟨idle, rfl⟩
    rw [Safe, show (conclude (client.wired endpoint env) _).2.world.2 = _ from conclude_world client endpoint env _]
    show Safe ((turns (client.wired endpoint env) _ (turnsLeft tracker)).outcome _).2
    generalize (turns (client.wired endpoint env) _ (turnsLeft tracker)).outcome _ = x at looped ⊢
    obtain ⟨_ | _, _⟩ := x <;> exact looped

/-- Whatever the endpoint answers and the tools do, each request has in its body every earlier answer of the endpoint, in
order, as the client read it from the payload. The log of the exchanges changes nothing in the run. -/
theorem requests_replay_answers (task : AgentTaskView) (package : AgentPackage) (tracker : BudgetTracker) (world : σ)
    (events : TrajectoryRecorder) :
    let logged := run (client.wired endpoint env) task package tracker (world, []) events
    run (client.serve endpoint env) task package tracker world events = (logged.1, logged.2.through Prod.fst) ∧
      ∀ before request answer after, logged.2.world.2 = before ++ (request, answer) :: after →
        ∃ messages, request.body.get? "messages" = some (.arr messages) ∧
          replayed messages = (answers before).map fun r => .ok r.echoed :=
  ⟨run_through (serve_shows client endpoint env) task package tracker (world, []) events,
    run_safe client endpoint env task package tracker world events⟩

end Payload

/-! ### An endpoint that calls a tool once -/

@[reducible] def compactReader : JsonReader where
  toPyText := { asciiText with dumps := JsonText.dumps JsonText.fractionText }
  loads text := (JsonText.loads JsonText.readFraction text).toOption
  loads_dumps v := by
    have read := JsonText.loads_dumps JsonText.fractionText_laws v [] nofun
    rw [String.ofList_nil, String.append_empty] at read
    exact congrArg Except.toOption read

def searching : Endpoint Nat where
  post _ n :=
    let calls := [Json.obj [("id", .str "call-1"), ("function", .obj [("name", .str "search_pages"),
      ("arguments", .obj [("query", .str "home")])])]]
    let message := if n = 0 then [("content", .null), ("tool_calls", .arr calls)] else [("content", .str "done")]
    (.ok (choosing (.obj message)), n + 1)
  validationText field message := s!"{field}: {message}"

def pageTools : Environment Nat where
  elapsed n := (0, n)
  complete _ _ n := (.invalid, n)
  describe := [⟨"search_pages", "", .obj []⟩]
  execute _ _ n := ((.ok ⟨.arr [], false, ""⟩, []), n)
  readArtifact _ _ := .ok ""

def searchClient : OpenAIChatClient := ⟨"https://api.openai.com/v1", "", "m"⟩

def searchExchanges : List Exchange :=
  (@run compactReader.toPyText _ (@OpenAIChatClient.wired compactReader _ searchClient searching pageTools)
    ⟨"find the home page", "agent"⟩ ⟨"baseline", [], [], []⟩ { budget := {} } (0, []) []).2.world.2

/-- The second request carries the one answer before it. -/
theorem requests_replay_answers_search : ∃ first second messages, searchExchanges = [first, second] ∧
    (@answers compactReader [first]).length = 1 ∧ second.1.body.get? "messages" = some (.arr messages) ∧
      @replayed compactReader messages = (@answers compactReader [first]).map fun r => .ok r.echoed := by
  have two : searchExchanges.length = 2 := by decide +kernel
  have answered : (@answers compactReader (searchExchanges.take 1)).length = 1 := by decide +kernel
  have replay : ∀ before request answer after, searchExchanges = before ++ (request, answer) :: after → _ :=
    (@requests_replay_answers compactReader Nat searchClient searching pageTools
      ⟨"find the home page", "agent"⟩ ⟨"baseline", [], [], []⟩ { budget := {} } 0 []).2
  generalize searchExchanges = past at two answered replay ⊢
  obtain ⟨first, second, rfl⟩ := List.length_eq_two.mp two
  obtain ⟨messages, body, same⟩ := replay [first] second.1 second.2 [] rfl
  exact ⟨first, second, messages, rfl, answered, body, same⟩

end AgentGym.Runtime
