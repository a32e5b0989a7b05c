import AgentGym.Runner.Ending
import AgentGym.Runner.Unlogged

/-!
# One consistent record

Wherever a run fails, what it returns, what it logs and what it stores agree. Each of the
facts about its record is a case split on how the run ended.
-/

namespace AgentGym.Runner

open AgentGym.Runtime Steps

/-! ### What the log of a session shows -/

theorem SessionLog.faultless {well : Prop} {added : List WorldCall} (log : SessionLog well added) (fine : well) :
    ∀ c ∈ added, c.succeeded = true := by
  cases log with
  | refused failed => exact absurd fine failed
  | stopped inner all =>
    obtain ⟨rfl, inside⟩ := all fine
    intro c member
    rcases List.mem_append.mp member with before | last
    · rcases List.mem_cons.mp before with rfl | within
      · rfl
      · exact inside c within
    · obtain rfl := List.mem_singleton.mp last
      rfl

/-- The world is stopped once if it started, and else not at all. -/
theorem SessionLog.stops {well : Prop} {added : List WorldCall} (log : SessionLog well added) :
    added.countP (fun c => c.operation = .stop) = if ⟨.start, true⟩ ∈ added then 1 else 0 := by
  cases log with
  | refused failed => decide
  | @stopped inside succeeded inner all =>
    have none_ : inside.countP (fun c => c.operation = .stop) = 0 :=
      List.countP_eq_zero.mpr fun c member => by simp [(inner c member).2]
    simp [List.countP_append, none_]

/-! ### The record of a run -/

section Record

variable [PyText] {ω : Type} (outside : Outside ω) (refuse : VerificationResult → Option String) (provider : WorldProvider ω)
  (task : Task) (package : AgentPackage) (budget : ExecutionBudget) (world : ω)

/-- The operations of the world in a run, in order. -/
def worldLog : List WorldCall := (loggedRun outside refuse provider task package budget world).2.world.2

/-- The verifier's own result on this snapshot, which the session captured. -/
def OwnVerdict (final : WorldSnapshot) (v : VerificationResult) : Prop :=
  refuse v = none ∧ ∃ initial result s,
    Consulted outside provider task package budget world initial result final s (.ok v)

/-- The verifier raised. -/
def VerifierRaised (message : String) : Prop :=
  ∃ initial result final s,
    Consulted outside provider task package budget world initial result final s (.error message)

/-- A failure of the world, or of what sets the run up. -/
inductive WorldFault (log : List WorldCall) : Prop
  | snapshot {message : String} (read : outside.readSnapshot task.initialSnapshotRef = .error message)
  | package {message : String} (found : outside.packageRoot package = .error message)
  | call {c : WorldCall} (member : c ∈ log) (raised : c.succeeded = false)
  | session {initial : WorldSnapshot} {message : String} {s : RunState ω}
      (read : outside.readSnapshot task.initialSnapshotRef = .ok initial)
      (ran : (worldSession outside provider task package initial).outcome (started task package budget world) =
        (.error message, s))

def startedEvent : TrajectoryEvent :=
  ⟨1, .runStarted, "runner", values [("task_id", .str task.id), ("package_id", .str package.id)]⟩

/-- What is returned, logged and left behind by a run agrees. -/
structure Consistent (rollout : RunnerRollout) (s : RunState ω) : Prop where
  /-- The run is announced first, and its status last. -/
  events : ∃ between, s.events = startedEvent task package :: between ++ [⟨between.length + 2, .runCompleted, "runner",
      values [("status", .str rollout.status.value), ("error", optString rollout.error)]⟩] ∧
    ∀ e ∈ between, e.type ≠ .runStarted ∧ e.type ≠ .runCompleted
  verdict : rollout.status ∈ verdictStatuses → ∃ final, s.finalSnapshot = some final ∧
    OwnVerdict outside refuse provider task package budget world final rollout.verification
  passed : rollout.status = .pass → rollout.verification.passed = true
  completed : HasEvent .verificationCompleted s.events ↔ ∃ final, s.finalSnapshot = some final ∧
    OwnVerdict outside refuse provider task package budget world final rollout.verification
  verifier : ∀ message, VerifierRaised outside provider task package budget world message →
    rollout.status = .verifierError ∧ rollout.verification = notVerified s!"verifier failed: {message}"
  environment : WorldFault outside provider task package budget world
    (worldLog outside refuse provider task package budget world) → rollout.status = .environmentError
  unverified : rollout.status = .verifierError ∨ rollout.status = .environmentError →
    ∃ reason, rollout.verification = notVerified reason
  stopped : (worldLog outside refuse provider task package budget world).countP (fun c => c.operation = .stop) =
    if ⟨.start, true⟩ ∈ worldLog outside refuse provider task package budget world then 1 else 0

variable {outside refuse provider task package budget world}

theorem session_log {initial : WorldSnapshot} {answer : Except String (RuntimeResult × WorldSnapshot)}
    {s : RunState (Logged ω)} (ran : (worldSession outside.logged provider.logged task package initial).outcome
      (started task package budget (world, [])) = (answer, s)) : SessionLog (answer.isOk = true) s.world.2 := by
  obtain ⟨-, ⟨added, log, session⟩, -⟩ := worldSession_log ran
  obtain rfl : s.world.2 = added := log
  exact session

theorem session_logged {initial : WorldSnapshot} {answer : Except String (RuntimeResult × WorldSnapshot)} {s : RunState ω}
    (ran : (worldSession outside provider task package initial).outcome (started task package budget world) = (answer, s)) :
    ∃ s' : RunState (Logged ω), (worldSession outside.logged provider.logged task package initial).outcome
      (started task package budget (world, [])) = (answer, s') ∧ s'.unlog = s := by
  have same := unlog_worldSession outside provider task package initial (started task package budget (world, []))
  obtain ⟨answers, states⟩ := Prod.mk.inj (same.symm.trans ran)
  exact ⟨_, Prod.ext answers rfl, states⟩

theorem session_events {initial : WorldSnapshot} {answer : Except String (RuntimeResult × WorldSnapshot)} {s : RunState ω}
    (ran : (worldSession outside provider task package initial).outcome (started task package budget world) = (answer, s)) :
    Extends agentTypes [startedEvent task package] s.events := by
  obtain ⟨s', ran', rfl⟩ := session_logged ran
  exact (worldSession_log ran').1

theorem SessionEnded.captured {initial final : WorldSnapshot} {result : RuntimeResult} {s : RunState ω}
    (ended : SessionEnded outside provider task package budget world initial result final s) :
    s.finalSnapshot = some final := by
  obtain ⟨s', ran, rfl⟩ := session_logged ended.ran
  exact (worldSession_log ran).2.2 result final rfl

theorem worldSession_root {initial : WorldSnapshot} {s s' : RunState ω} {answer : RuntimeResult × WorldSnapshot}
    (ran : (worldSession outside provider task package initial).outcome s = (.ok answer, s')) :
    ∃ root, outside.packageRoot package = .ok root := by
  obtain ⟨_, s₁, -, ran⟩ := outcome_bind_eq_ok ran
  obtain ⟨s₂, ran, -⟩ := outcome_andFinally_eq_ok ran
  obtain ⟨_, s₃, -, ran⟩ := outcome_bind_eq_ok ran
  obtain ⟨_, s₄, -, ran⟩ := outcome_bind_eq_ok ran
  obtain ⟨root, s₅, found, -⟩ := outcome_bind_eq_ok ran
  rw [outcome_lift] at found
  exact ⟨root, (Prod.mk.inj found).1⟩

theorem SessionEnded.faultless {initial final : WorldSnapshot} {result : RuntimeResult} {s : RunState (Logged ω)}
    (ended : SessionEnded outside.logged provider.logged task package budget (world, []) initial result final s) :
    ¬ WorldFault outside provider task package budget world s.world.2 := by
  intro fault
  cases fault with
  | snapshot read => cases read.symm.trans ended.read
  | package found =>
    obtain ⟨root, other⟩ := worldSession_root ended.ran
    cases found.symm.trans other
  | call member raised => cases raised.symm.trans ((session_log ended.ran).faultless rfl _ member)
  | session read ran =>
    obtain rfl := Except.ok.inj (read.symm.trans ended.read)
    obtain ⟨s', logged, -⟩ := session_logged ran
    cases logged.symm.trans ended.ran

/-- The kinds of events between the announcement of a run and its status. -/
def betweenTypes : List TrajectoryEventType := agentTypes ++ [.verificationAssertion, .verificationCompleted]

section LoggedEndings

variable {ended : Except Failure (VerificationResult × RunStatus)} {s : RunState (Logged ω)}
  (ending : Ending outside.logged refuse provider.logged task package budget (world, []) ended s)
include ending

theorem Ending.stops :
    s.world.2.countP (fun c => c.operation = .stop) = if ⟨.start, true⟩ ∈ s.world.2 then 1 else 0 := by
  cases ending with
  | unread read => rfl
  | broken read ran => exact (session_log ran).stops
  | unjudged ended fault => exact (session_log ended.ran).stops
  | raised consulted => exact (session_log consulted.ran).stops
  | refused consulted refused asserted => exact (session_log consulted.ran).stops
  | verified consulted accepted asserted => exact (session_log consulted.ran).stops

theorem Ending.environment (fault : WorldFault outside provider task package budget world s.world.2) :
    (settle ended).2.1 = .environmentError := by
  cases ending with
  | unread read => rfl
  | broken read ran => rfl
  | unjudged ended _ => exact absurd fault ended.faultless
  | raised consulted => exact absurd fault consulted.faultless
  | refused consulted refused asserted => rfl
  | verified consulted accepted asserted => exact absurd fault consulted.faultless

end LoggedEndings

section Endings

variable {ended : Except Failure (VerificationResult × RunStatus)} {s : RunState ω}
  (ending : Ending outside refuse provider task package budget world ended s)
include ending

/-- A run whose verifier was asked ends with its error, or after its assertions were recorded. -/
theorem Ending.of_consulted {initial final : WorldSnapshot} {result : RuntimeResult} {s' : RunState ω}
    {answer : Except String VerificationResult}
    (consulted : Consulted outside provider task package budget world initial result final s' answer) :
    (∃ message, answer = .error message ∧ ended = .error (.verifier s!"verifier failed: {message}")) ∨
    ∃ v, answer = .ok v ∧
      ((∃ message, refuse v = some message) ∨ ∃ events, refuse v = none ∧ s.events = completedBy v events) := by
  cases ending with
  | unread read => cases read.symm.trans consulted.read
  | broken read ran =>
    obtain rfl := Except.ok.inj (read.symm.trans consulted.read)
    cases ran.symm.trans consulted.ran
  | unjudged ended fault =>
    obtain ⟨-, rfl, -, -⟩ := ended.unique consulted.toSessionEnded
    exact absurd consulted.judged fault
  | raised other =>
    obtain ⟨rfl, -, rfl, rfl⟩ := other.unique consulted.toSessionEnded
    exact Or.inl ⟨_, consulted.answered.symm.trans other.answered, rfl⟩
  | refused other refused asserted =>
    obtain ⟨rfl, -, rfl, rfl⟩ := other.unique consulted.toSessionEnded
    exact Or.inr ⟨_, consulted.answered.symm.trans other.answered, Or.inl ⟨_, refused⟩⟩
  | verified other accepted asserted =>
    obtain ⟨rfl, -, rfl, rfl⟩ := other.unique consulted.toSessionEnded
    exact Or.inr ⟨_, consulted.answered.symm.trans other.answered, Or.inr ⟨_, accepted, rfl⟩⟩

/-- What the verifier said of the world that was captured. -/
theorem Ending.own {final : WorldSnapshot} {v : VerificationResult}
    (own : OwnVerdict outside refuse provider task package budget world final v) :
    HasEvent .verificationCompleted s.events := by
  obtain ⟨accepted, initial, result, s', consulted⟩ := own
  rcases ending.of_consulted consulted with ⟨message, failed, -⟩ | ⟨w, answer, ⟨message, refused⟩ | ⟨events, -, completed⟩⟩
  · cases failed
  · obtain rfl := Except.ok.inj answer
    cases refused.symm.trans accepted
  · rw [completed]
    exact hasEvent_append.mpr (Or.inr rfl)

theorem Ending.events : Extends betweenTypes [startedEvent task package] s.events := by
  have agents : agentTypes ⊆ betweenTypes := List.subset_append_left _ _
  have assertions : [TrajectoryEventType.verificationAssertion] ⊆ betweenTypes := by decide
  cases ending with
  | unread read => exact .refl _ _
  | broken read ran => exact (session_events ran).mono agents
  | unjudged ended fault => exact (session_events ended.ran).mono agents
  | raised consulted => exact (session_events consulted.ran).mono agents
  | refused consulted refused asserted =>
    exact ((session_events consulted.ran).mono agents).trans (asserted.mono assertions)
  | verified consulted accepted asserted =>
    have reported := ((session_events consulted.ran).mono agents).trans (asserted.mono assertions)
    exact reported.trans (.append _ (by decide) _ _)

/-- A verification is complete only once the verifier's own result was accepted. -/
theorem Ending.completed (completed : HasEvent .verificationCompleted s.events) :
    ∃ final, s.finalSnapshot = some final ∧
      OwnVerdict outside refuse provider task package budget world final (settle ended).1 := by
  have uncompleted : ∀ {types events}, Extends types [startedEvent task package] events →
      .verificationCompleted ∉ types → ¬ HasEvent .verificationCompleted events := by
    rintro types events ⟨new, rfl, kinds⟩ other ⟨e, member, type⟩
    rcases List.mem_append.mp member with first | later
    · obtain rfl := List.mem_singleton.mp first
      cases type
    · exact other (type ▸ kinds e later)
  cases ending with
  | unread read => exact absurd completed (uncompleted (.refl agentTypes _) (by decide))
  | broken read ran => exact absurd completed (uncompleted (session_events ran) (by decide))
  | unjudged ended fault => exact absurd completed (uncompleted (session_events ended.ran) (by decide))
  | raised consulted => exact absurd completed (uncompleted (session_events consulted.ran) (by decide))
  | refused consulted refused asserted =>
    have agents : agentTypes ⊆ agentTypes ++ [.verificationAssertion] := List.subset_append_left _ _
    have reported := ((session_events consulted.ran).mono agents).trans (asserted.mono (List.subset_append_right _ _))
    exact absurd completed (uncompleted reported (by decide))
  | verified consulted accepted asserted => exact ⟨_, consulted.captured, accepted, _, _, _, consulted⟩

theorem Ending.verdict (verdict : (settle ended).2.1 ∈ verdictStatuses) :
    HasEvent .verificationCompleted s.events := by
  cases ending with
  | unjudged ended fault => exact absurd verdict (fault_status (unjudged_fault fault)).1
  | verified consulted accepted asserted => exact hasEvent_append.mpr (Or.inr rfl)
  | _ => simp [settle, verdictStatuses] at verdict

theorem Ending.passed (pass : (settle ended).2.1 = .pass) : (settle ended).1.passed = true := by
  cases ending with
  | @unjudged _ _ result _ ended fault =>
    have status : result.status = .pass := pass
    exact absurd (status ▸ unjudged_fault fault) (by decide)
  | @verified _ _ result _ v _ consulted accepted asserted =>
    simp only [settle] at pass ⊢
    by_cases toolError : result.status = .toolError
    · rw [if_pos toolError] at pass
      cases pass
    · rw [if_neg toolError] at pass
      exact (statusAfterVerification_iff v).1.mp pass
  | _ => cases pass

theorem Ending.verifier {message : String} (raised : VerifierRaised outside provider task package budget world message) :
    (settle ended).2.1 = .verifierError ∧ (settle ended).1 = notVerified s!"verifier failed: {message}" := by
  obtain ⟨initial, result, final, s', consulted⟩ := raised
  rcases ending.of_consulted consulted with ⟨message', failed, rfl⟩ | ⟨v, answer, -⟩
  · obtain rfl := Except.error.inj failed
    exact ⟨rfl, rfl⟩
  · cases answer

theorem Ending.unverified
    (failed : (settle ended).2.1 = .verifierError ∨ (settle ended).2.1 = .environmentError) :
    ∃ reason, (settle ended).1 = notVerified reason := by
  cases ending with
  | @verified _ _ result _ v _ consulted accepted asserted =>
    simp only [settle] at failed
    by_cases toolError : result.status = .toolError
    · rw [if_pos toolError] at failed
      rcases failed with failed | failed <;> cases failed
    · rw [if_neg toolError] at failed
      have verdict := statusAfterVerification_mem v
      rcases failed with failed | failed <;> exact absurd (failed ▸ verdict) (by decide)
  | _ => exact ⟨_, rfl⟩

end Endings

end Record

/-! ### The stored record -/

section Stored

variable [Storage.PyJson] {ω : Type} {outside : Outside ω} {refuse : VerificationResult → Option String}
  {provider : WorldProvider ω} {task : Task} {package : AgentPackage} {budget : ExecutionBudget} {world : ω}
  {sha256 : ByteArray → String} {config : RunnerConfig} {site : Site} {files after : Storage.RunFiles} {manifest : Json}
  {rollout : RunnerRollout} {s : RunState ω}

end Stored

/-! ### A stored run -/

def countedSite : Site where
  rolloutId := "rollout-t-000000000000"
  dirName := "run-1"
  now := "2026-01-01T00:00:01Z"
  timestamp _ := "2026-01-01T00:00:00Z"
  packageDump := .obj [("id", .str "baseline")]
  domainVersion := "1"
  clientClass := "ScriptedClient"
  clientModel := "unknown"
  digits _ := .ok none

end AgentGym.Runner
