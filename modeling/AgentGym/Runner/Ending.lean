import AgentGym.Runner.Record
import AgentGym.Runner.Status
import AgentGym.Runtime.Confined

/-!
# How a run ends

The execution of a run ends in one of six ways: the snapshot is not read, the session
breaks, the agent's own fault is not judged, or the verifier is asked, and then it
raises, or its result is refused by the recorder, or the result is the verdict.
-/

namespace AgentGym.Runner

open AgentGym.Runtime Steps

section Ending

variable [PyText] {ω : Type} (outside : Outside ω) (refuse : VerificationResult → Option String) (provider : WorldProvider ω)
  (task : Task) (package : AgentPackage) (budget : ExecutionBudget) (world : ω)

/-- A fault of the agent is not judged, unless it is the failure of a tool. -/
def Judged (result : RuntimeResult) : Prop := result.status ∉ faultStatuses ∨ result.status = .toolError

/-- The session of the run ended well, in this state. -/
structure SessionEnded (initial : WorldSnapshot) (result : RuntimeResult) (final : WorldSnapshot) (s : RunState ω) : Prop where
  read : outside.readSnapshot task.initialSnapshotRef = .ok initial
  ran : (worldSession outside provider task package initial).outcome (started task package budget world) =
    (.ok (result, final), s)

/-- The verifier was asked about the snapshot that the session captured, and gave this answer. -/
structure Consulted (initial : WorldSnapshot) (result : RuntimeResult) (final : WorldSnapshot) (s : RunState ω)
    (answer : Except String VerificationResult) : Prop extends
    SessionEnded outside provider task package budget world initial result final s where
  judged : Judged result
  answered : outside.verify task initial final (.arr (persisted s.messages s.events)) = answer

/-- The events with the completion of a verification. -/
def completedBy (v : VerificationResult) (events : TrajectoryRecorder) : TrajectoryRecorder :=
  append events .verificationCompleted "verifier" (values [("passed", .bool v.passed), ("score", .float v.score)])

/-- How the execution of a run ends, and the state that it leaves. -/
inductive Ending : Except Failure (VerificationResult × RunStatus) → RunState ω → Prop
  | unread {message : String} (read : outside.readSnapshot task.initialSnapshotRef = .error message) :
      Ending (.error (.environment message)) (started task package budget world)
  | broken {initial : WorldSnapshot} {message : String} {s : RunState ω}
      (read : outside.readSnapshot task.initialSnapshotRef = .ok initial)
      (ran : (worldSession outside provider task package initial).outcome (started task package budget world) =
        (.error message, s)) : Ending (.error (.environment message)) s
  | unjudged {initial final : WorldSnapshot} {result : RuntimeResult} {s : RunState ω}
      (ended : SessionEnded outside provider task package budget world initial result final s) (fault : ¬ Judged result) :
      Ending (.ok (notVerified "run did not reach verifier", result.status)) s
  | raised {initial final : WorldSnapshot} {result : RuntimeResult} {s : RunState ω} {message : String}
      (consulted : Consulted outside provider task package budget world initial result final s (.error message)) :
      Ending (.error (.verifier s!"verifier failed: {message}")) s
  | refused {initial final : WorldSnapshot} {result : RuntimeResult} {s : RunState ω} {v : VerificationResult}
      {message : String} {events : TrajectoryRecorder}
      (consulted : Consulted outside provider task package budget world initial result final s (.ok v))
      (refused : refuse v = some message) (asserted : Extends [.verificationAssertion] s.events events) :
      Ending (.error (.environment message)) { s with events }
  | verified {initial final : WorldSnapshot} {result : RuntimeResult} {s : RunState ω} {v : VerificationResult}
      {events : TrajectoryRecorder}
      (consulted : Consulted outside provider task package budget world initial result final s (.ok v))
      (accepted : refuse v = none) (asserted : Extends [.verificationAssertion] s.events events) :
      Ending (.ok (v, if result.status = .toolError then .toolError else statusAfterVerification v))
        { s with events := completedBy v events }

variable {outside refuse provider task package budget world}

theorem SessionEnded.unique {initial initial' final final' : WorldSnapshot} {result result' : RuntimeResult} {s s' : RunState ω}
    (one : SessionEnded outside provider task package budget world initial result final s)
    (other : SessionEnded outside provider task package budget world initial' result' final' s') :
    initial = initial' ∧ result = result' ∧ final = final' ∧ s = s' := by
  obtain rfl : initial = initial' := Except.ok.inj (one.read.symm.trans other.read)
  obtain ⟨answers, states⟩ := Prod.mk.inj (one.ran.symm.trans other.ran)
  obtain ⟨results, finals⟩ := Prod.mk.inj (Except.ok.inj answers)
  exact ⟨rfl, results, finals, states⟩

end Ending

/-! ### Statuses -/

def verdictStatuses : List RunStatus := [.pass, .partialPass, .taskFail]

theorem statusAfterVerification_mem (v : VerificationResult) : statusAfterVerification v ∈ verdictStatuses := by
  unfold statusAfterVerification
  split
  · decide
  · split
    · decide
    · decide

theorem unjudged_fault {result : RuntimeResult} (fault : ¬ Judged result) : result.status ∈ faultStatuses :=
  not_not.mp fun clean => fault (Or.inl clean)

/-- The agent's own faults are neither verdicts nor faults of its surroundings. -/
theorem fault_status {status : RunStatus} (fault : status ∈ faultStatuses) :
    status ∉ verdictStatuses ∧ status ≠ .verifierError ∧ status ≠ .environmentError := by
  revert fault
  cases status <;> decide

end AgentGym.Runner
