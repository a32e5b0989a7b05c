import AgentGym.Lib.Json

/-!
# Shared contracts

The records the components exchange: world snapshots, tasks and verification results.
-/

namespace AgentGym

structure WorldSnapshot where
  id : String
  domainId : String
  schemaVersion : String
  timestamp : String
  resources : Dict String Json

structure Task where
  id : String
  scenarioId : String
  split : String
  goal : String
  actorId : String
  initialSnapshotRef : String
  verifierId : String
  metadata : Dict String Json

inductive Category where
  | required | forbidden | invariant
  deriving DecidableEq

structure AssertionResult where
  id : String
  passed : Bool
  category : Category
  expected : Json
  actual : Json
  message : String

structure VerificationResult where
  passed : Bool
  score : Rat
  assertions : List AssertionResult
  requiredChangesPassed : Bool
  forbiddenChangesPassed : Bool
  invariantsPassed : Bool
  metadata : List (String × Json)

/-- The outcome of a run. -/
inductive RunStatus where
  | pass | taskFail | partialPass | agentError | toolError | environmentError | verifierError | timeout
  | budgetExceeded | policyViolation
  deriving DecidableEq

def RunStatus.value : RunStatus → String
  | .pass => "pass"
  | .taskFail => "task_fail"
  | .partialPass => "partial"
  | .agentError => "agent_error"
  | .toolError => "tool_error"
  | .environmentError => "environment_error"
  | .verifierError => "verifier_error"
  | .timeout => "timeout"
  | .budgetExceeded => "budget_exceeded"
  | .policyViolation => "policy_violation"

end AgentGym
