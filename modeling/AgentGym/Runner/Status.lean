import AgentGym.Runner.Record

/-!
# The status of a completed run

When the world session ends well and the agent gave a final answer, the verifier judges
the run. Its verdict is the status, unless a tool call failed on the way: then the run
keeps the agent's status, and the verdict is recorded beside it.
-/

namespace AgentGym.Runner

open AgentGym.Runtime Steps

section Status

variable [PyText] {ω : Type} {outside : Outside ω} {refuse : VerificationResult → Option String} {provider : WorldProvider ω}

/-! ### From the session to the agent -/

omit [PyText] in
theorem inWorld_events {α : Type} {m : Steps String ω α} {s s' : RunState ω} {r : Except String α}
    (ran : (inWorld m).outcome s = (r, s')) : s'.events = s.events := by
  rw [inWorld, outcome_zoom] at ran
  rw [← (Prod.mk.inj ran).2]

omit [PyText] in
theorem lift_events {ε α : Type} {a : Except ε α} {s s' : RunState ω} {r : Except ε α}
    (ran : (lift a).outcome s = (r, s')) : s'.events = s.events := by
  rw [outcome_lift] at ran
  rw [← (Prod.mk.inj ran).2]

theorem runAgent_ok {task : Task} {package : AgentPackage} {root : String} {x : Executor ω} {s s' : RunState ω}
    {result : RuntimeResult} (ran : (runAgent outside task package root x).outcome s = (.ok result, s')) :
    ∃ session, Runtime.run (agentEnvironment outside root x) ⟨task.goal, task.actorId⟩ package s.tracker
      ⟨s.world, false, none, []⟩ s.events = (.ok result, session) ∧ s'.events = session.events := by
  rw [runAgent, outcome_ofFn] at ran
  generalize Runtime.run (agentEnvironment outside root x) ⟨task.goal, task.actorId⟩ package s.tracker
      ⟨s.world, false, none, []⟩ s.events = ended at ran
  obtain ⟨answer, session⟩ := ended
  dsimp only at ran
  split at ran
  · simp at ran
  · simp at ran
  · obtain ⟨same, rfl⟩ := Prod.mk.inj ran
    exact ⟨session, by rw [same], rfl⟩

theorem useWorld_ok {task : Task} {package : AgentPackage} {s s' : RunState ω} {result : RuntimeResult}
    {final : WorldSnapshot} (ran : (useWorld outside provider task package).outcome s = (.ok (result, final), s')) :
    ∃ root x s₁ s₂, (runAgent outside task package root x).outcome s₁ = (.ok result, s₂) ∧
      s₁.events = s.events ∧ s'.events = s₂.events := by
  obtain ⟨granted, s₁, asked, ran⟩ := outcome_bind_eq_ok ran
  obtain ⟨root, s₂, found, ran⟩ := outcome_bind_eq_ok ran
  obtain ⟨_, s₃, got, ran⟩ := outcome_bind_eq_ok ran
  obtain ⟨worldUrl, s₄, exposed, ran⟩ := outcome_bind_eq_ok ran
  obtain ⟨rawTools, s₅, listed, ran⟩ := outcome_bind_eq_ok ran
  obtain ⟨answer, s₆, agent, ran⟩ := outcome_bind_eq_ok ran
  obtain ⟨snap, s₇, captured, ran⟩ := outcome_bind_eq_ok ran
  obtain ⟨_, s₈, kept, ran⟩ := outcome_bind_eq_ok ran
  obtain ⟨same, rfl⟩ := Prod.mk.inj ran
  obtain ⟨rfl, rfl⟩ := Prod.mk.inj (Except.ok.inj same)
  refine ⟨root, _, s₅, s₆, agent, ?_, ?_⟩
  · have unread : s₃ = s₂ := (Prod.mk.inj got).2.symm
    rw [inWorld_events listed, lift_events exposed, unread, lift_events found, inWorld_events asked]
  · have same := inWorld_events captured
    rw [← (Prod.mk.inj kept).2]
    exact same

theorem worldSession_ok {task : Task} {package : AgentPackage} {initial final : WorldSnapshot} {s s' : RunState ω}
    {result : RuntimeResult}
    (ran : (worldSession outside provider task package initial).outcome s = (.ok (result, final), s')) :
    ∃ root x s₁ s₂, (runAgent outside task package root x).outcome s₁ = (.ok result, s₂) ∧
      s₁.events = s.events ∧ s'.events = s₂.events := by
  obtain ⟨_, s₁, start, ran⟩ := outcome_bind_eq_ok ran
  obtain ⟨s₃, ran, stopped⟩ := outcome_andFinally_eq_ok ran
  obtain ⟨_, s₂, restored, ran⟩ := outcome_bind_eq_ok ran
  obtain ⟨root, x, t, t', agent, before, after⟩ := useWorld_ok ran
  refine ⟨root, x, t, t', agent, ?_, ?_⟩
  · rw [before, inWorld_events restored, inWorld_events start]
  · rw [inWorld_events stopped, after]

/-- A session in which the agent completed gives its result the status its events tell. -/
theorem session_status {task : Task} {package : AgentPackage} {initial final : WorldSnapshot} {s s' : RunState ω}
    {result : RuntimeResult} (uncompleted : ¬ HasEvent .agentCompleted s.events)
    (unnoted : ¬ HasEvent .toolError s.events)
    (ran : (worldSession outside provider task package initial).outcome s = (.ok (result, final), s'))
    (completed : HasEvent .agentCompleted s'.events) :
    result.status = if HasEvent .toolError s'.events then .toolError else .pass := by
  obtain ⟨root, x, s₁, s₂, agent, before, after⟩ := worldSession_ok ran
  obtain ⟨session, run, events⟩ := runAgent_ok agent
  rw [after, events] at completed ⊢
  exact (run_completed (before ▸ uncompleted) (before ▸ unnoted) run completed).1

/-! ### From the agent to the status -/

omit [PyText] in
theorem emitAssertions_outcome (assertions : List AssertionResult) (s : RunState ω) :
    ∃ events, (emitAssertions assertions).outcome s = (.ok (), { s with events }) := by
  induction assertions generalizing s with
  | nil => exact ⟨s.events, rfl⟩
  | cons a assertions ih => exact ih _

omit [PyText] in
/-- A verdict that the recorder takes is the outcome. -/
theorem verifyRecorded_accepted {task : Task} {initial final : WorldSnapshot} {s : RunState ω} {v : VerificationResult}
    (verified : outside.verify task initial final (.arr (persisted s.messages s.events)) = .ok v) (taken : refuse v = none) :
    ∃ events, (verifyRecorded outside refuse task initial final).outcome s = (.ok v, { s with events }) := by
  obtain ⟨events, emitted⟩ := emitAssertions_outcome v.assertions s
  have reported : ∃ events, (emitVerdict refuse v).outcome s = (.ok (), { s with events }) := by
    rw [emitVerdict, taken]
    exact ⟨_, by rw [emitVerification, outcome_bind_ok emitted]; rfl⟩
  obtain ⟨events, reported⟩ := reported
  refine ⟨events, ?_⟩
  rw [verifyRecorded, outcome_bind, outcome_get]
  dsimp only
  rw [outcome_bind, outcome_lift, verified]
  exact outcome_bind_ok reported

omit [PyText] in
/-- An agent that answered is judged by the verifier; a tool error keeps its status. -/
theorem judgeRecorded_accepted {task : Task} {initial final : WorldSnapshot} {s : RunState ω} {v : VerificationResult}
    {result : RuntimeResult} {failed : Prop} [Decidable failed]
    (answered : result.status = if failed then .toolError else .pass)
    (verified : outside.verify task initial final (.arr (persisted s.messages s.events)) = .ok v) (taken : refuse v = none) :
    ∃ s', (judgeRecorded outside refuse task initial final result).outcome s =
      (.ok (v, if failed then .toolError else statusAfterVerification v), s') := by
  obtain ⟨events, checked⟩ := verifyRecorded_accepted verified taken
  refine ⟨{ s with events }, ?_⟩
  unfold judgeRecorded
  by_cases h : failed
  · rw [if_pos h] at answered ⊢
    rw [answered, if_neg (by decide), if_pos rfl, outcome_bind_ok checked]
    rfl
  · rw [if_neg h] at answered ⊢
    rw [answered, if_pos (by decide), outcome_bind_ok checked]
    rfl

omit [PyText] in
theorem statusAfterVerification_iff (v : VerificationResult) :
    (statusAfterVerification v = .pass ↔ v.passed = true) ∧
      (statusAfterVerification v = .partialPass ↔ v.passed = false ∧ 0 < v.score) ∧
      (statusAfterVerification v = .taskFail ↔ v.passed = false ∧ ¬ 0 < v.score) := by
  unfold statusAfterVerification
  cases v.passed <;> by_cases positive : 0 < v.score <;> simp [positive]

/-- A completed run has the verifier's verdict, and its status is that verdict unless a tool call failed. -/
theorem completed_run_status {task : Task} {package : AgentPackage} {budget : ExecutionBudget} {world : ω}
    {initial final : WorldSnapshot} {result : RuntimeResult} {s : RunState ω} {v : VerificationResult}
    (read : outside.readSnapshot task.initialSnapshotRef = .ok initial)
    (ended : (worldSession outside provider task package initial).outcome (started task package budget world) =
      (.ok (result, final), s))
    (completed : HasEvent .agentCompleted s.events)
    (verified : outside.verify task initial final (.arr (persisted s.messages s.events)) = .ok v)
    (taken : refuse v = none) :
    let rollout := (runRecorded outside refuse provider task package budget world).1
    rollout.verification = v ∧
      (HasEvent .toolError s.events → rollout.status = .toolError) ∧
      (¬ HasEvent .toolError s.events →
        (rollout.status = .pass ↔ v.passed = true) ∧
        (rollout.status = .partialPass ↔ v.passed = false ∧ 0 < v.score) ∧
        (rollout.status = .taskFail ↔ v.passed = false ∧ ¬ 0 < v.score)) := by
  have answered := session_status (by simp [started, HasEvent, append]) (by simp [started, HasEvent, append]) ended
    completed
  obtain ⟨s', judged⟩ := judgeRecorded_accepted answered verified taken
  have executed : (executionRecorded outside refuse provider task package).outcome (started task package budget world) =
      (.ok (v, if HasEvent .toolError s.events then .toolError else statusAfterVerification v), s') := by
    rw [executionRecorded, outcome_bind, outcome_lift, read]
    dsimp only [Except.mapError]
    rw [outcome_bind, outcome_mapError, ended]
    exact judged
  have settled : (runRecorded outside refuse provider task package budget world).1.verification = v ∧
      (runRecorded outside refuse provider task package budget world).1.status =
        if HasEvent .toolError s.events then .toolError else statusAfterVerification v := by
    unfold runRecorded
    rw [executed]
    exact ⟨rfl, rfl⟩
  refine ⟨settled.1, fun failed => settled.2.trans (if_pos failed), fun clean => ?_⟩
  rw [settled.2, if_neg clean]
  exact statusAfterVerification_iff v

end Status

/-! ### Two runs -/

/-- A model that gives these replies, over a world whose state counts them. Its verifier always passes. -/
def counting (replies : List LLMResponse) (tools : List (RawTool Nat)) : Outside Nat where
  elapsed calls := (0, calls)
  complete _ _ calls := ((replies[calls]?.map Completion.response).getD .invalid, calls + 1)
  readSnapshot _ := .ok ⟨"s", "confluence", "1", "t", .empty⟩
  packageRoot _ := .ok "packages/baseline"
  readArtifact _ _ _ := .ok ""
  listTools _ := pure tools
  verify _ _ _ _ := .ok ⟨true, 1, [], true, true, true, []⟩

def countingWorld : WorldProvider Nat where
  start := pure ()
  restore _ := pure ()
  snapshot := pure ⟨"s", "confluence", "1", "t", .empty⟩
  capabilities := pure ["confluence.pages.read"]
  stop := pure ()
  worldUrl _ := .ok "http://127.0.0.1:8000"
  humanEdit := none

/-- A tool that conflicts when it is called after the first reply, and works after the second. -/
def flakyTool : RawTool Nat where
  description := ⟨"get_page", "", .obj []⟩
  fn _ _ _ := ofFn fun calls => (if calls = 1 then .error "409 Conflict" else .ok (.obj []), calls)

def countedTask : Task := ⟨"t", "s", "train", "Say hello.", "bob", "s.json", "v", .empty⟩

def toolReply : LLMResponse := ⟨none, [⟨"call-1", "get_page", .empty⟩], none, none⟩

def finalReply : LLMResponse := ⟨some "done", [], none, none⟩

/-- The agent's session in a run with these replies. -/
def countedSession (replies : List LLMResponse) : Except String (RuntimeResult × WorldSnapshot) × RunState Nat :=
  (@worldSession asciiText _ (counting replies [flakyTool]) countingWorld countedTask ⟨"baseline", [], [], []⟩
    ⟨"s", "confluence", "1", "t", .empty⟩).outcome (started countedTask ⟨"baseline", [], [], []⟩ {} 0)

theorem countedSession_ended {replies : List LLMResponse} (h : (countedSession replies).1.isOk = true) :
    ∃ ended, countedSession replies = (.ok ended, (countedSession replies).2) := by
  generalize countedSession replies = session at h ⊢
  obtain ⟨result, s⟩ := session
  cases result with
  | ok ended => exact ⟨ended, rfl⟩
  | error e => nomatch h

def countedRun (replies : List LLMResponse) : RunnerRollout × RunState Nat :=
  @runRecorded asciiText _ (counting replies [flakyTool]) (fun _ => none) countingWorld countedTask
    ⟨"baseline", [], [], []⟩ {} 0

theorem completed_run_status_passed : (countedRun [finalReply]).1.status = .pass ∧
    (countedRun [toolReply, finalReply]).1.status = .toolError := by
  let _ := asciiText
  obtain ⟨⟨_, _⟩, ended⟩ := @countedSession_ended [finalReply] (by decide +kernel)
  obtain ⟨-, -, judged⟩ := @completed_run_status asciiText _ (counting [finalReply] [flakyTool]) (fun _ => none)
    countingWorld countedTask ⟨"baseline", [], [], []⟩ {} 0 _ _ _ _ _ rfl ended (by decide +kernel) rfl rfl
  have clean : ¬ HasEvent .toolError (countedSession [finalReply]).2.events := by decide +kernel
  obtain ⟨⟨_, _⟩, ended⟩ := @countedSession_ended [toolReply, finalReply] (by decide +kernel)
  obtain ⟨-, kept, -⟩ := @completed_run_status asciiText _ (counting [toolReply, finalReply] [flakyTool]) (fun _ => none)
    countingWorld countedTask ⟨"baseline", [], [], []⟩ {} 0 _ _ _ _ _ rfl ended (by decide +kernel) rfl rfl
  have failed : HasEvent .toolError (countedSession [toolReply, finalReply]).2.events := by decide +kernel
  unfold countedRun
  exact ⟨(judged clean).1.mpr rfl, kept failed⟩

/-- The agent recovers from a conflict and the verifier passes, yet the run is no pass. -/
theorem recovered_run_not_passed :
    HasEvent .agentCompleted (countedRun [toolReply, toolReply, finalReply]).2.events ∧
      (countedRun [toolReply, toolReply, finalReply]).1.error = none ∧
      (countedRun [toolReply, toolReply, finalReply]).1.verification.passed = true ∧
      (countedRun [toolReply, toolReply, finalReply]).1.status = .toolError := by
  decide +kernel

end AgentGym.Runner
