import AgentGym.Runner.Executor
import AgentGym.Runtime.Answers

/-!
# One run of a task

A run provisions a world, lets the agent work in it, and has a verifier compare the world
it leaves with the world it started from. Whatever goes wrong ends in a status, with a
verification that did not pass.
-/

namespace AgentGym.Runner

open AgentGym.Runtime Steps

/-- What a run uses besides its world: the clock, the model, files, and the verifier. -/
structure Outside (ω : Type) where
  elapsed : ω → Rat × ω
  complete : List Json → List Json → ω → Completion × ω
  readSnapshot : String → Except String WorldSnapshot
  packageRoot : AgentPackage → Except String String
  /-- `_read_artifact`, for a root, a layer and a path. -/
  readArtifact : String → String → String → Except String String
  /-- The tools the server below a package root registers. -/
  listTools : String → Steps String ω (List (RawTool ω))
  verify : Task → WorldSnapshot → WorldSnapshot → Json → Except String VerificationResult

structure RunState (ω : Type) where
  world : ω
  tracker : BudgetTracker
  messages : List Json
  events : TrajectoryRecorder
  runtimeResult : Option RuntimeResult
  finalSnapshot : Option WorldSnapshot

/-- What ends a run early: a fault of the verifier, or of anything else. -/
inductive Failure where
  | verifier (message : String)
  | environment (message : String)

structure RunnerRollout where
  taskId : String
  packageId : String
  verification : VerificationResult
  metrics : RolloutMetrics
  status : RunStatus
  error : Option String

def statusAfterVerification (v : VerificationResult) : RunStatus :=
  if v.passed then .pass else if 0 < v.score then .partialPass else .taskFail

def notVerified (reason : String) : VerificationResult where
  passed := false
  score := 0
  assertions := [⟨"verification-not-run", false, .invariant, .null, .null, reason⟩]
  requiredChangesPassed := false
  forbiddenChangesPassed := false
  invariantsPassed := false
  metadata := [("verified", .bool false), ("reason", .str reason)]

def categoryName : Category → String
  | .required => "required"
  | .forbidden => "forbidden"
  | .invariant => "invariant"

section Run

variable [PyText] {ω : Type} (outside : Outside ω) (provider : WorldProvider ω)

/-! ### Verification -/

def emitEvent {ε : Type} (type : TrajectoryEventType) (actor : String) (payload : List (String × Json)) :
    Steps ε (RunState ω) Unit :=
  modify fun s => { s with events := append s.events type actor (values payload) }

def assertionPayload (a : AssertionResult) : List (String × Json) :=
  [("id", .str a.id), ("passed", .bool a.passed), ("category", .str (categoryName a.category)),
    ("expected", a.expected), ("actual", a.actual), ("message", .str a.message)]

def emitAssertions : List AssertionResult → Steps Failure (RunState ω) Unit
  | [] => pure ()
  | a :: assertions => do
    emitEvent .verificationAssertion "verifier" (assertionPayload a)
    emitAssertions assertions

def emitVerification (v : VerificationResult) : Steps Failure (RunState ω) Unit := do
  emitAssertions v.assertions
  emitEvent .verificationCompleted "verifier" [("passed", .bool v.passed), ("score", .float v.score)]

/-! ### The agent in its world -/

def inWorld {α : Type} (m : Steps String ω α) : Steps String (RunState ω) α :=
  zoom RunState.world (fun world s => { s with world }) m

/-- What the agent sees: the model and the clock, and the executor's tools. -/
def agentEnvironment (root : String) (x : Executor ω) : Environment (ExecutorState ω) where
  elapsed s := ((outside.elapsed s.world).1, { s with world := (outside.elapsed s.world).2 })
  complete messages tools s :=
    ((outside.complete messages tools s.world).1, { s with world := (outside.complete messages tools s.world).2 })
  describe := x.descriptions
  execute name arguments s :=
    let (result, s') := (x.execute name arguments).outcome { s with emitted := [] }
    ((result, s'.emitted), s')
  readArtifact := outside.readArtifact root

/-- The agent's run; a failed hook ends it with an error. -/
def runAgent (task : Task) (package : AgentPackage) (root : String) (x : Executor ω) :
    Steps String (RunState ω) RuntimeResult := ofFn fun s =>
  let (result, session) := Runtime.run (agentEnvironment outside root x) ⟨task.goal, task.actorId⟩ package s.tracker
    ⟨s.world, false, none, []⟩ s.events
  let s' : RunState ω :=
    { s with
      world := session.world.world, tracker := session.tracker, messages := session.messages
      events := session.events, runtimeResult := result.toOption }
  match result, session.world.infrastructureError with
  | .error message, _ => (.error message, s')
  | .ok _, some e => (.error e, s')
  | .ok result, none => (.ok result, s')

def useWorld (task : Task) (package : AgentPackage) : Steps String (RunState ω) (RuntimeResult × WorldSnapshot) := do
  let granted ← inWorld provider.capabilities
  let root ← lift (outside.packageRoot package)
  let s ← get
  let worldUrl ← lift (provider.worldUrl s.world)
  let rawTools ← inWorld (outside.listTools root)
  let x := buildExecutor rawTools package.declaredCapabilities granted worldUrl task.actorId
    (concurrencyHook provider (task.metadata.get? "concurrency"))
  let result ← runAgent outside task package root x
  let final ← inWorld provider.snapshot
  modify fun s => { s with finalSnapshot := some final }
  pure (result, final)

/-- `world_session` around the agent's work: the world is stopped in any case. -/
def worldSession (task : Task) (package : AgentPackage) (initial : WorldSnapshot) :
    Steps String (RunState ω) (RuntimeResult × WorldSnapshot) := do
  inWorld provider.start
  andFinally (do
    inWorld (provider.restore initial)
    useWorld outside provider task package) (inWorld provider.stop)

/-! ### The run -/

/-- The statuses of an agent that are not judged as they are. -/
def faultStatuses : List RunStatus := [.agentError, .toolError, .timeout, .budgetExceeded, .policyViolation]

/-- The state once the run is announced. -/
def started (task : Task) (package : AgentPackage) (budget : ExecutionBudget) (world : ω) : RunState ω where
  world := world
  tracker := ⟨budget, 0, 0, 0, 0⟩
  messages := []
  events := append [] .runStarted "runner"
    (values [("task_id", .str task.id), ("package_id", .str package.id)])
  runtimeResult := none
  finalSnapshot := none

def settle : Except Failure (VerificationResult × RunStatus) → VerificationResult × RunStatus × Option String
  | .ok (v, status) => (v, status, none)
  | .error (.verifier message) => (notVerified message, .verifierError, some message)
  | .error (.environment message) => (notVerified message, .environmentError, some message)

end Run

end AgentGym.Runner
