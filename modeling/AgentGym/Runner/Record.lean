import AgentGym.Runner.Run
import AgentGym.Storage.Reload

/-!
# The record of a run

The recorder takes JSON alone, so it may refuse the score of a verification; then the run
ends as if its world had failed. What a run leaves is stored: its trajectory, the two
states, the verification, and a manifest with the status.
-/

namespace AgentGym.Runner

open AgentGym.Runtime Steps

/-! ### Recorded verdicts -/

section Recorded

variable [PyText] {ω : Type} (outside : Outside ω) (refuse : VerificationResult → Option String) (provider : WorldProvider ω)

/-- `_emit_verification`, with the error that the recorder raises on a score that is no finite number. -/
def emitVerdict (v : VerificationResult) : Steps Failure (RunState ω) Unit :=
  match refuse v with
  | none => emitVerification v
  | some error => do
    emitAssertions v.assertions
    throw (.environment error)

/-- `_verify_checked`, and its events. -/
def verifyRecorded (task : Task) (initial final : WorldSnapshot) : Steps Failure (RunState ω) VerificationResult := do
  let s ← get
  let v ← lift ((outside.verify task initial final (.arr (persisted s.messages s.events))).mapError fun e =>
    .verifier s!"verifier failed: {e}")
  emitVerdict refuse v
  pure v

/-- The verification and the status of an agent's result. -/
def judgeRecorded (task : Task) (initial final : WorldSnapshot) (result : RuntimeResult) :
    Steps Failure (RunState ω) (VerificationResult × RunStatus) := do
  if result.status ∉ faultStatuses then
    let v ← verifyRecorded outside refuse task initial final
    pure (v, statusAfterVerification v)
  else if result.status = .toolError then
    let v ← verifyRecorded outside refuse task initial final
    pure (v, result.status)
  else pure (notVerified "run did not reach verifier", result.status)

def executionRecorded (task : Task) (package : AgentPackage) :
    Steps Failure (RunState ω) (VerificationResult × RunStatus) := do
  let initial ← lift ((outside.readSnapshot task.initialSnapshotRef).mapError .environment)
  let (result, final) ← mapError .environment (worldSession outside provider task package initial)
  judgeRecorded outside refuse task initial final result

/-- `Runner.run`, up to the artifacts it stores, with a recorder that may refuse a verification. -/
def runRecorded (task : Task) (package : AgentPackage) (budget : ExecutionBudget) (world : ω) :
    RunnerRollout × RunState ω :=
  let (ended, s) := (executionRecorded outside refuse provider task package).outcome (started task package budget world)
  let (verification, status, fault) := settle ended
  let error := fault.or (s.runtimeResult.bind RuntimeResult.error)
  let (elapsed, world) := outside.elapsed s.world
  let payload := values [("status", .str status.value), ("error", optString error)]
  (⟨task.id, package.id, verification, s.tracker.metrics elapsed, status, error⟩,
    { s with world, events := append s.events .runCompleted "runner" payload })

end Recorded

/-! ### What is stored -/

structure RunnerConfig where
  domainVersion : Option String := none
  runtimeName : String := "reference-agent"
  runtimeVersion : String
  modelProvider : Option String := none
  modelIdentifier : Option String := none
  seed : Option Int := none

/-- What the surroundings of a run give it when it is stored. -/
structure Site where
  rolloutId : String
  dirName : String
  now : String
  /-- The time of the event with this number. -/
  timestamp : Nat → String
  /-- `model_dump` of the package. -/
  packageDump : Json
  /-- `_domain_version`. -/
  domainVersion : String
  /-- The class of the model client, and its `model`. -/
  clientClass : String
  clientModel : String
  /-- The number that a text of digits spells, if the text is one. -/
  digits : String → Except String (Option Int)

/-- The text after the last dash. -/
def idSuffix (id : String) : String := String.ofList (id.toList.reverse.takeWhile (· != '-')).reverse

/-- `_task_seed`. -/
def taskSeed (digits : String → Except String (Option Int)) (task : Task) : Except String Int :=
  match task.metadata.get? "seed" with
  | some (.int seed) => .ok seed
  | _ => (digits (idSuffix task.id)).map fun number => number.getD 0

/-- The seed of the configuration, or the task's. -/
def runSeed (config : RunnerConfig) (site : Site) (task : Task) : Except String Int :=
  match config.seed with
  | some seed => .ok seed
  | none => taskSeed site.digits task

def snapshotDump (snapshot : WorldSnapshot) : Json :=
  .obj [("id", .str snapshot.id), ("domain_id", .str snapshot.domainId), ("schema_version", .str snapshot.schemaVersion),
    ("timestamp", .str snapshot.timestamp), ("resources", .ofDict snapshot.resources)]

/-- An event as it is stored, once the messages are these. -/
def storedEvent (timestamp : Nat → String) (messages : List Json) (e : TrajectoryEvent) : Storage.TrajectoryEvent where
  sequence := e.sequence
  timestamp := timestamp e.sequence
  type := e.type
  actor := e.actor
  payload := .ofEntries (e.payload.map fun (k, v) => (k, v.read messages))

section Store

variable {ω : Type}

def storedEvents (site : Site) (s : RunState ω) : List Storage.EventSource :=
  s.events.map fun e => .event (storedEvent site.timestamp s.messages e)

section Stored

variable [Storage.PyJson] {sha256 : ByteArray → String} {config : RunnerConfig} {site : Site} {task : Task}
  {package : AgentPackage} {initial : Option WorldSnapshot} {rollout : RunnerRollout} {s : RunState ω}

end Stored

end Store

end AgentGym.Runner
