import AgentGym.Runtime.Turns

/-!
# What the trajectory says was asked

Every request event holds the one list of messages the agent keeps appending to, and is
written out when the run is over. So it shows the last state of that list, which is what
was sent exactly when nothing was appended: when the first response ends the run.
-/

namespace AgentGym.Runtime

open Runner Steps

/-! ### Requests in a persisted trajectory -/

def isModelRequest (event : Json) : Bool :=
  match event.get? "type" with
  | some (.str type) => type == "model.request"
  | _ => false

/-- The messages of every request event, in order. -/
def requestedMessages (trajectory : List Json) : List (Option Json) :=
  (trajectory.filter isModelRequest).map fun event => (event.get? "payload").bind (·.get? "messages")

theorem isModelRequest_modelDump (messages : List Json) (e : TrajectoryEvent) :
    isModelRequest (e.modelDump messages) = true ↔ e.type = .modelRequest := by
  show (e.type.value == "model.request") = true ↔ _
  cases e.type <;> decide

theorem requestedMessages_append (messages : List Json) (events events' : TrajectoryRecorder) :
    requestedMessages (persisted messages (events ++ events')) =
      requestedMessages (persisted messages events) ++ requestedMessages (persisted messages events') := by
  simp [requestedMessages, persisted]

theorem requestedMessages_none {messages : List Json} {events : TrajectoryRecorder}
    (other : ∀ e ∈ events, e.type ≠ .modelRequest) : requestedMessages (persisted messages events) = [] := by
  have none : (persisted messages events).filter isModelRequest = [] := by
    rw [List.filter_eq_nil_iff]
    intro dump member
    obtain ⟨e, found, rfl⟩ := List.mem_map.mp member
    rw [isModelRequest_modelDump]
    exact other e found
  rw [requestedMessages, none]
  rfl

theorem requestedMessages_emit {messages : List Json} {events : TrajectoryRecorder} {type : TrajectoryEventType}
    {actor : String} {payload : List (String × Recorded)} (other : type ≠ .modelRequest) :
    requestedMessages (persisted messages (append events type actor payload)) =
      requestedMessages (persisted messages events) := by
  have none : requestedMessages (persisted messages [⟨events.length + 1, type, actor, payload⟩]) = [] :=
    requestedMessages_none (List.forall_mem_singleton.mpr other)
  rw [append, requestedMessages_append, none, List.append_nil]

/-- The event of a request, whatever the messages will be. -/
def requestEvent (sequence : Nat) (tools : List Json) : TrajectoryEvent :=
  ⟨sequence, .modelRequest, "agent", [("messages", .messages), ("tools", .value (.arr tools))]⟩

theorem requestedMessages_request (messages : List Json) (sequence : Nat) (tools : List Json) :
    requestedMessages (persisted messages [requestEvent sequence tools]) = [some (.arr messages)] := rfl

/-! ### A model that remembers -/

variable {σ : Type}

/-- The environment, with a log of the messages each call of the model was passed. -/
def Environment.logged (env : Environment σ) : Environment (σ × List (List Json)) where
  elapsed w := ((env.elapsed w.1).1, (env.elapsed w.1).2, w.2)
  complete messages tools w :=
    ((env.complete messages tools w.1).1, (env.complete messages tools w.1).2, w.2 ++ [messages])
  describe := env.describe
  execute name arguments w := ((env.execute name arguments w.1).1, (env.execute name arguments w.1).2, w.2)
  readArtifact := env.readArtifact

abbrev LoggedSession (σ : Type) := Session (σ × List (List Json))

/-- Messages, events and the log only grow. -/
structure Grown (s s' : LoggedSession σ) : Prop where
  messages : s.messages <+: s'.messages
  events : s.events <+: s'.events
  log : s.world.2 <+: s'.world.2

theorem grown_closed (env : Environment σ) (tools : List Json) : Closed env.logged tools (Grown (σ := σ)) where
  refl _ := ⟨List.prefix_rfl, List.prefix_rfl, List.prefix_rfl⟩
  trans _ _ _ h h' := ⟨h.messages.trans h'.messages, h.events.trans h'.events, h.log.trans h'.log⟩
  elapsed _ := ⟨List.prefix_rfl, List.prefix_rfl, List.prefix_rfl⟩
  observed _ _ := ⟨List.prefix_rfl, List.prefix_rfl, List.prefix_rfl⟩
  completed _ := ⟨List.prefix_rfl, List.prefix_rfl, List.prefix_append _ _⟩
  executed _ _ _ := ⟨List.prefix_rfl, List.prefix_rfl, List.prefix_rfl⟩
  tokens _ _ _ _ _ := ⟨List.prefix_rfl, List.prefix_rfl, List.prefix_rfl⟩
  asked _ _ _ _ _ := ⟨List.prefix_rfl, List.prefix_append _ _, List.prefix_rfl⟩
  toolCall _ _ _ := ⟨List.prefix_rfl, List.prefix_rfl, List.prefix_rfl⟩
  message _ _ := ⟨List.prefix_append _ _, List.prefix_rfl, List.prefix_rfl⟩
  flag _ _ := ⟨List.prefix_rfl, List.prefix_rfl, List.prefix_rfl⟩
  event _ _ _ _ _ := ⟨List.prefix_rfl, List.prefix_append _ _, List.prefix_rfl⟩

/-! ### The first response -/

/-- The model's first response, if it gives one and the budgets let it in. -/
def firstResponse (env : Environment σ) (tools messages : List Json) (tracker : BudgetTracker) (world : σ) :
    Option LLMResponse :=
  let (elapsed, world) := env.elapsed world
  match tracker.checkWall elapsed, tracker.checkAndBump .modelTurns with
  | .ok (), .ok tracker =>
    match env.complete messages tools world with
    | (.response r, world) =>
      match tracker.checkWall (env.elapsed world).1, tracker.recordTokens r.inputTokens r.outputTokens with
      | .ok (), .ok _ => some r
      | _, _ => none
    | _ => none
  | _, _ => none

theorem complete_of_firstResponse {env : Environment σ} {tools messages : List Json} {tracker : BudgetTracker}
    {world : σ} {r : LLMResponse} (first : firstResponse env tools messages tracker world = some r) :
    (env.complete messages tools (env.elapsed world).2).1 = .response r := by
  unfold firstResponse at first
  dsimp only at first
  split at first
  · split at first
    · rename_i completed
      split at first
      · rw [completed, Option.some.inj first]
      · cases first
    · cases first
  · cases first

/-- What one request does to a session: nothing when it is refused, else one event and one entry of
the log, and one more event when the response is let in. -/
inductive Asked (tools : List Json) (s : LoggedSession σ) : Option LLMResponse → LoggedSession σ → Prop where
  | refused {s' : LoggedSession σ} (messages : s'.messages = s.messages) (log : s'.world.2 = s.world.2)
      (events : s'.events = s.events) : Asked tools s none s'
  | failed {s' : LoggedSession σ} (messages : s'.messages = s.messages) (log : s'.world.2 = s.world.2 ++ [s.messages])
      (events : s'.events = s.events ++ [requestEvent (s.events.length + 1) tools]) : Asked tools s none s'
  | answered {s' : LoggedSession σ} {r : LLMResponse} {e : TrajectoryEvent} (messages : s'.messages = s.messages)
      (log : s'.world.2 = s.world.2 ++ [s.messages]) (other : e.type = .modelResponse)
      (events : s'.events = s.events ++ [requestEvent (s.events.length + 1) tools, e]) : Asked tools s (some r) s'

theorem respond_asked (env : Environment σ) (tools : List Json) (s : LoggedSession σ) :
    ∃ s', Asked tools s (firstResponse env tools s.messages s.tracker s.world.1) s' ∧
      match firstResponse env tools s.messages s.tracker s.world.1 with
      | some r => (respond env.logged tools).outcome s = (.ok r, s')
      | none => ∃ e, (respond env.logged tools).outcome s = (.error e, s') := by
  rw [respond_outcome]
  unfold firstResponse
  dsimp only [Environment.logged]
  let refused (e : Raised) : LoggedSession σ :=
    { s with world := ((env.elapsed s.world.1).2, s.world.2) }.observe (.failed e)
  cases s.tracker.checkWall (env.elapsed s.world.1).1 with
  | error e => exact ⟨refused e, .refused rfl rfl rfl, e, rfl⟩
  | ok _ =>
    cases s.tracker.checkAndBump .modelTurns with
    | error e => exact ⟨refused e, .refused rfl rfl rfl, e, rfl⟩
    | ok t =>
      dsimp only
      rw [ask, emit, outcome_bind, outcome_modify]
      dsimp only
      rw [outcome_bind, complete, outcome_ofFn]
      dsimp only
      -- The request is recorded and logged before the model answers.
      let sent (w : σ) (c : Completion) : LoggedSession σ :=
        { s with
          world := (w, s.world.2 ++ [s.messages])
          tracker := t
          events := s.events ++ [requestEvent (s.events.length + 1) tools] }.observe (.asked s.messages c)
      obtain ⟨c, w⟩ := env.complete s.messages tools (env.elapsed s.world.1).2
      cases c with
      | invalid => exact ⟨sent w .invalid, .failed rfl rfl rfl, _, rfl⟩
      | raised e => exact ⟨sent w (.raised e), .failed rfl rfl rfl, e, rfl⟩
      | response r =>
        let timed : LoggedSession σ := { sent w (.response r) with world := ((env.elapsed w).2, s.world.2 ++ [s.messages]) }
        dsimp only [Completion.answer]
        rw [outcome_bind, checkWall, outcome_ofFn]
        dsimp only [Session.observe]
        cases t.checkWall (env.elapsed w).1 with
        | error e => exact ⟨timed.observe (.failed e), .failed rfl rfl rfl, e, rfl⟩
        | ok _ =>
          dsimp only
          rw [outcome_bind, recordTokens, outcome_ofFn]
          dsimp only
          cases t.recordTokens r.inputTokens r.outputTokens with
          | error e => exact ⟨timed.observe (.failed e), .failed rfl rfl rfl, e, rfl⟩
          | ok t' =>
            let answer : TrajectoryEvent :=
              ⟨timed.events.length + 1, .modelResponse, "model",
                values [("content", optString r.content), ("tool_calls", .arr (r.toolCalls.map toolCallJson))]⟩
            let answered : LoggedSession σ :=
              { { timed with tracker := t' }.observe (.accepted r.inputTokens r.outputTokens) with
                events := timed.events ++ [answer] }
            exact ⟨answered, .answered (e := answer) rfl rfl rfl (List.append_assoc _ _ _), rfl⟩

/-! ### Faithful recordings -/

/-- The persisted requests show what the model was passed, call by call. -/
def Faithful (s : LoggedSession σ) : Prop :=
  requestedMessages (persisted s.messages s.events) = s.world.2.map fun sent => some (.arr sent)

section Run

variable [PyText] (env : Environment σ)

/-- The last event of a run is no request. -/
theorem faithful_conclude (x : Except Raised (Option String) × LoggedSession σ) :
    Faithful (conclude env.logged x).2 ↔ Faithful x.2 := by
  obtain ⟨r, s⟩ := x
  have error : ∀ status message, Faithful (failed env.logged s status message).2 ↔ Faithful s := by
    intro status message
    show requestedMessages (persisted s.messages (append s.events .agentError "agent" _)) = _ ↔ _
    rw [requestedMessages_emit (by decide)]
    rfl
  match r with
  | .ok answer => exact Iff.rfl
  | .error (.budgetExceeded e) => exact error _ _
  | .error (.exception message) => exact error _ _

omit [PyText] in
/-- Appending a message after the first request makes the recording unfaithful. -/
theorem not_faithful_of_grown {tools : List Json} {s s₁ s' : LoggedSession σ}
    (fresh : ∀ messages, requestedMessages (persisted messages s.events) = [])
    (requested : s.events ++ [requestEvent (s.events.length + 1) tools] <+: s₁.events)
    (sent : s₁.world.2 = [s.messages]) (appended : s.messages.length < s₁.messages.length) (grown : Grown s₁ s') :
    ¬ Faithful s' := by
  obtain ⟨later, events⟩ := requested.trans grown.events
  obtain ⟨sent', log'⟩ := grown.log
  unfold Faithful
  rw [← events, ← log', requestedMessages_append, requestedMessages_append, fresh, requestedMessages_request, sent]
  intro same
  have head : s'.messages = s.messages := by simpa using congrArg List.head? same
  have longer := grown.messages.length_le
  rw [head] at longer
  omega

theorem faithful_loop_iff {tools : List Json} {s : LoggedSession σ}
    (fresh : ∀ messages, requestedMessages (persisted messages s.events) = []) (log : s.world.2 = []) :
    Faithful ((loop env.logged tools).outcome s).2 ↔
      ∀ r, firstResponse env tools s.messages s.tracker s.world.1 = some r → r.toolCalls = [] := by
  obtain ⟨s', asked, ran⟩ := respond_asked env tools s
  rw [loop_eq]
  cases first : firstResponse env tools s.messages s.tracker s.world.1 with
  | none =>
    rw [first] at asked ran
    obtain ⟨e, ran⟩ := ran
    rw [turn, outcome_bind_error ran]
    simp only [reduceCtorEq, false_imp_iff, implies_true, iff_true]
    unfold Faithful
    cases asked with
    | refused messages log' events => rw [events, fresh, log', log, List.map_nil]
    | failed messages log' events =>
      rw [events, requestedMessages_append, fresh, requestedMessages_request, log', log, messages]
      rfl
  | some r =>
    rw [first] at asked ran
    rw [turn, outcome_bind_ok ran]
    obtain _ | _ | ⟨messages, log', other, events⟩ := asked
    rename_i e
    simp only [Option.some.injEq, forall_eq']
    rw [log, List.nil_append] at log'
    by_cases calls : r.toolCalls = []
    · -- The answer is final: one request, and nothing appended.
      rw [branch, if_pos (by simp [calls]), emit, outcome_bind, outcome_modify]
      simp only [calls, iff_true]
      show requestedMessages (persisted s'.messages (append s'.events .agentCompleted "agent" _)) = s'.world.2.map _
      have answer : requestedMessages (persisted s'.messages [e]) = [] :=
        requestedMessages_none (by simp [other])
      rw [requestedMessages_emit (by decide), events, List.append_cons, requestedMessages_append,
        requestedMessages_append, fresh, requestedMessages_request, answer, log', messages]
      rfl
    · simp only [calls, iff_false]
      have closed := grown_closed env tools
      let s₁ : LoggedSession σ := { s' with messages := s'.messages ++ [assistantToolMessage r] }
      have called : Grown s₁ ((branch env.logged r).outcome s').2 := by
        rw [branch, if_neg (by simp [calls]), appendMessage, outcome_bind, outcome_modify]
        exact keeps_bind closed.trans (keeps_callTools closed.turnClosed r.toolCalls) (fun _ => keeps_pure closed.refl none) s₁
      have requested : s.events ++ [requestEvent (s.events.length + 1) tools] <+: s₁.events := by
        show _ <+: s'.events
        rw [events]
        exact ⟨[_], (List.append_cons _ _ _).symm⟩
      have appended : s.messages.length < s₁.messages.length := by simp [s₁, messages]
      refine not_faithful_of_grown fresh requested log' appended ?_
      generalize (branch env.logged r).outcome s' = x at called ⊢
      obtain ⟨ended, s₂⟩ := x
      rcases ended with e | _ | answer
      · exact called
      · exact closed.trans _ _ _ called (keeps_loop closed.turnClosed
          (fun _ _ _ => ⟨List.prefix_rfl, List.prefix_rfl, List.prefix_rfl⟩)
          (fun _ _ _ => ⟨List.prefix_rfl, List.prefix_append _ _, List.prefix_rfl⟩) s₂)
      · exact called

/-- The trajectory shows what the model was sent exactly when the first response ends the run. -/
theorem recording_faithful_iff {task : AgentTaskView} {package : AgentPackage} {tracker : BudgetTracker} {world : σ}
    {events : TrajectoryRecorder} (fresh : ∀ e ∈ events, e.type ≠ .modelRequest) :
    Faithful (run env.logged task package tracker (world, []) events).2 ↔
      ∀ prompt, buildSystemPrompt env.readArtifact task package env.describe = .ok prompt →
        ∀ r, firstResponse env (env.describe.map openaiTool) (initialMessages task prompt) tracker world = some r →
          r.toolCalls = [] := by
  have described : env.logged.describe = env.describe := rfl
  have artifacts : env.logged.readArtifact = env.readArtifact := rfl
  rw [run, described, artifacts]
  cases built : buildSystemPrompt env.readArtifact task package env.describe with
  | error message =>
    simp only [reduceCtorEq, false_imp_iff, implies_true, iff_true]
    exact requestedMessages_none fresh
  | ok prompt =>
    simp only [Except.ok.injEq, forall_eq']
    have started : ∀ messages, requestedMessages
        (persisted messages (start task prompt tracker (world, ([] : List (List Json))) events).events) = [] := by
      intro messages
      show requestedMessages (persisted messages (append events .agentStarted "agent" _)) = []
      rw [requestedMessages_emit (by decide)]
      exact requestedMessages_none fresh
    rw [faithful_conclude, faithful_loop_iff env started rfl]
    rfl

end Run

/-- A model that gives these replies, one a call, over tools that answer with nothing. -/
def scripted (replies : List LLMResponse) : Environment Nat where
  elapsed calls := (0, calls)
  complete _ _ calls := ((replies[calls]?.map Completion.response).getD .invalid, calls + 1)
  describe := []
  execute _ _ calls := ((.ok ⟨.obj [], false, ""⟩, []), calls)
  readArtifact _ _ := .ok ""

def askedTask : AgentTaskView := ⟨"Say hello.", "bob"⟩

def barePackage : AgentPackage := ⟨"baseline", [], [], []⟩

theorem recording_faithful_answered :
    Faithful (@run asciiText _ (scripted [⟨some "hello", [], none, none⟩]).logged askedTask barePackage ⟨{}, 0, 0, 0, 0⟩
      (0, []) (append [] .runStarted "runner" [])).2 := by
  let _ := asciiText
  refine (recording_faithful_iff (scripted [⟨some "hello", [], none, none⟩]) ?_).mpr ?_
  · simp [append]
  · intro prompt _ r first
    obtain rfl := Completion.response.inj (complete_of_firstResponse first)
    rfl

def messageCount : Json → Nat
  | .arr sent => sent.length
  | _ => 0

/-- A run that calls a tool and then answers: its first request comes out four messages long. -/
theorem request_overwritten :
    ¬ Faithful (@run asciiText _ (scripted [⟨none, [⟨"call-1", "get_page", .empty⟩], none, none⟩,
      ⟨some "hello", [], none, none⟩]).logged askedTask barePackage ⟨{}, 0, 0, 0, 0⟩ (0, [])
      (append [] .runStarted "runner" [])).2 := by
  intro same
  have lengths := congrArg (List.map (Option.map messageCount)) same
  revert lengths
  decide +kernel

end AgentGym.Runtime
