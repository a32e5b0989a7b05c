import AgentGym.Lib.Json

/-!
# The trajectory recorder

An event keeps the payload it was given one level deep: a mutable value inside it is
held by reference. The only mutable value the agent puts into a payload is its list of
messages, so a recorded value is either JSON or that list, and events are read back
with the messages as they are at the end.
-/

namespace AgentGym.Runner

inductive TrajectoryEventType where
  | runStarted | agentStarted | modelRequest | modelResponse | toolCall | toolResult | toolError
  | worldApiRequest | worldApiResponse | artifactCreated | agentError | agentCompleted
  | verificationAssertion | verificationCompleted | runCompleted
  deriving DecidableEq

def TrajectoryEventType.value : TrajectoryEventType → String
  | .runStarted => "run.started"
  | .agentStarted => "agent.started"
  | .modelRequest => "model.request"
  | .modelResponse => "model.response"
  | .toolCall => "tool.call"
  | .toolResult => "tool.result"
  | .toolError => "tool.error"
  | .worldApiRequest => "world.api.request"
  | .worldApiResponse => "world.api.response"
  | .artifactCreated => "artifact.created"
  | .agentError => "agent.error"
  | .agentCompleted => "agent.completed"
  | .verificationAssertion => "verification.assertion"
  | .verificationCompleted => "verification.completed"
  | .runCompleted => "run.completed"

inductive Recorded where
  | value (v : Json)
  | messages

def Recorded.read (messages : List Json) : Recorded → Json
  | .value v => v
  | .messages => .arr messages

structure TrajectoryEvent where
  sequence : Nat
  type : TrajectoryEventType
  actor : String
  payload : List (String × Recorded)

abbrev TrajectoryRecorder := List TrajectoryEvent

/-- `TrajectoryRecorder.append`. -/
def append (events : TrajectoryRecorder) (type : TrajectoryEventType) (actor : String)
    (payload : List (String × Recorded)) : TrajectoryRecorder :=
  events ++ [⟨events.length + 1, type, actor, payload⟩]

/-- `model_dump` of an event, once the messages are these. -/
def TrajectoryEvent.modelDump (messages : List Json) (e : TrajectoryEvent) : Json :=
  .obj [("sequence", .int e.sequence), ("type", .str e.type.value), ("actor", .str e.actor),
    ("payload", .obj (e.payload.map fun (k, v) => (k, v.read messages)))]

/-- The events as they are persisted. -/
def persisted (messages : List Json) (events : TrajectoryRecorder) : List Json :=
  events.map (TrajectoryEvent.modelDump messages)

/-- A payload without references. -/
def values (payload : List (String × Json)) : List (String × Recorded) := payload.map fun (k, v) => (k, .value v)

end AgentGym.Runner
