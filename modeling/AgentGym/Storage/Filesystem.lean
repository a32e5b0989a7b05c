import AgentGym.Lib.JsonText
import AgentGym.Lib.Lines
import AgentGym.Runner.Recorder
import AgentGym.World.Page

/-!
# Run artifacts on disk

A run is five files. The states, the verification and the manifest are canonical JSON, the
trajectory is one JSON object a line. The manifest carries the hashes of the two states,
which the loader checks. Files are replaced one after the other, each as a whole.
-/

namespace AgentGym.Storage

open Runner World

/-- What Python's JSON and text libraries do beyond writing canonical text. -/
class PyJson extends PyText where
  /-- `json.loads` of a line. -/
  loads : String → Except String Json
  /-- `json.loads` of a file's bytes. -/
  loadsBytes : ByteArray → Except String Json
  /-- A float is printed as a numeral. -/
  float_numeral : ∀ q, ∀ c ∈ (repr (.float q)).toList, JsonText.isNumeral c = true
  /-- What was written is read back, with a line feed after it. -/
  loads_dumps : ∀ v, ∃ w, loads (JsonText.dumps (fun q => repr (.float q)) v ++ "\n") = .ok w ∧ w.sameText v = true
  loadsBytes_dumps : ∀ v, ∃ w,
    loadsBytes (JsonText.dumps (fun q => repr (.float q)) v).toUTF8 = .ok w ∧ w.sameText v = true

/-! ### Events -/

structure TrajectoryEvent where
  sequence : Int
  timestamp : String
  type : TrajectoryEventType
  actor : String
  payload : Dict String Json

def TrajectoryEvent.modelDump (e : TrajectoryEvent) : Json :=
  .obj [("sequence", .int e.sequence), ("timestamp", .str e.timestamp), ("type", .str e.type.value),
    ("actor", .str e.actor), ("payload", .ofDict e.payload)]

def eventTypes : List TrajectoryEventType :=
  [.runStarted, .agentStarted, .modelRequest, .modelResponse, .toolCall, .toolResult, .toolError, .worldApiRequest,
    .worldApiResponse, .artifactCreated, .agentError, .agentCompleted, .verificationAssertion, .verificationCompleted,
    .runCompleted]

def eventTypeField (v : Json) : Except PyError TrajectoryEventType := do
  let value ← strField v "type"
  match eventTypes.find? fun type => type.value == value with
  | some type => pure type
  | none => .error .validationError

def payloadField (v : Json) : Except PyError (Dict String Json) :=
  match v.get? "payload" with
  | some (.obj kvs) => .ok (.ofEntries kvs)
  | _ => .error .validationError

/-- `TrajectoryEvent.model_validate`; other fields are ignored. -/
def TrajectoryEvent.modelValidate [LaxInt] (v : Json) : Except PyError TrajectoryEvent := do
  let sequence ← intField v "sequence" none
  let timestamp ← strField v "timestamp"
  let type ← eventTypeField v
  let actor ← strField v "actor"
  let payload ← payloadField v
  pure { sequence, timestamp, type, actor, payload }

/-- One item of a trajectory that is to be stored. -/
inductive EventSource where
  | event (e : TrajectoryEvent)
  | mapping (v : Json)

inductive TrajectorySource where
  | none
  /-- A sequence, or the events of a recorder. -/
  | events (items : List EventSource)
  /-- What reading the file at a path gives. -/
  | file (content : Except String ByteArray)

def EventSource.validated [LaxInt] : EventSource → Except String TrajectoryEvent
  | .event e => .ok e
  | .mapping v => (TrajectoryEvent.modelValidate v).mapError fun _ => "invalid trajectory event"

/-! ### Bytes -/

section Bytes

variable [PyJson]

def canonicalJson (v : Json) : String := JsonText.dumps (fun q => PyText.repr (.float q)) v

def canonicalJsonBytes (v : Json) : ByteArray := (canonicalJson v).toUTF8

/-- Lines with a line feed after each. -/
def joinLines (lines : List String) : String := String.ofList (lines.flatMap fun line => line.toList ++ ['\n'])

/-- `_trajectory_bytes`. -/
def trajectoryBytes : TrajectorySource → Except String ByteArray
  | .none => .ok "".toUTF8
  | .file content => content
  | .events items => do
    let events ← items.mapM EventSource.validated
    pure (joinLines (events.map fun e => canonicalJson e.modelDump)).toUTF8

def decodeUtf8 (bytes : ByteArray) : Except String String :=
  match String.fromUTF8? bytes with
  | some text => .ok text
  | none => .error "'utf-8' codec can't decode"

/-- One line of `TrajectoryRecorder.load`. -/
def loadLine (line : List Char) : Except String TrajectoryEvent := do
  let value ← PyJson.loads (String.ofList line)
  if value.isObj then (TrajectoryEvent.modelValidate value).mapError fun _ => "invalid trajectory event"
  else .error "JSONL event must be a JSON object"

/-- `TrajectoryRecorder.load`. -/
def loadTrajectory (bytes : ByteArray) : Except String (List TrajectoryEvent) := do
  let text ← decodeUtf8 bytes
  (textLines text.toList).mapM loadLine

/-- `_read_json`. -/
def readJson (name : String) (bytes : ByteArray) : Except String Json := do
  let value ← PyJson.loadsBytes bytes
  if value.isObj then pure value else .error s!"{name} must contain a JSON object"

end Bytes

/-! ### The manifest -/

def isStr : Json → Bool
  | .str _ => true
  | _ => false

/-- A field of type `dict[str, str]`. -/
def stringMapField (v : Json) (name : String) : Except PyError Unit :=
  match v.get? name with
  | some (.obj kvs) =>
    if (Dict.ofEntries kvs).values.all isStr then .ok () else .error .validationError
  | _ => .error .validationError

/-- `RunManifest.model_validate`, for its errors. -/
def validateManifest [LaxInt] (v : Json) : Except PyError Unit := do
  let _ ← strField v "task_id"
  let _ ← strField v "task_hash"
  let _ ← strField v "package_id"
  let _ ← strField v "package_hash"
  let _ ← strField v "domain_version"
  let _ ← strField v "world_snapshot_hash"
  stringMapField v "runtime"
  stringMapField v "model"
  let _ ← intField v "seed" none
  pure ()

/-- `_text_value`. -/
def textValue : Option Json → Option String
  | some (.str s) => if s = "" then none else some s
  | _ => none

/-- `_text_value` of a text. -/
def nonEmpty (s : Option String) : Option String := textValue (s.map Json.str)

/-- `_mapping_value`. -/
def mappingValue : Option Json → Dict String Json
  | some (.obj kvs) => .ofEntries kvs
  | _ => .empty

/-- `_string_mapping`. -/
def stringMapping [PyText] (value : Dict String Json) (defaults : List (String × String)) : Dict String Json :=
  (Dict.empty.update (defaults.map fun e => (e.1, .str e.2))).update (value.entries.map fun e => (e.1, .str (pyStr e.2)))

/-- `_seed_value`. -/
def seedValue (explicit : Json) (stored : Option Json) : Int :=
  let value := match explicit with
    | .null => stored.getD .null
    | v => v
  match value with
  | .int i => i
  | _ => 0

/-- `_validate_digest`. -/
def isDigest (s : String) : Bool :=
  s.toList.length == 64 && s.toList.all fun c => (48 ≤ c.toNat && c.toNat ≤ 57) || (97 ≤ c.toNat && c.toNat ≤ 102)

/-! ### Storing -/

/-- The arguments of `store_run`; `null` stands for one that is not given. -/
structure StoreArgs where
  runId : Option String := none
  task : Json := .null
  package : Json := .null
  taskId : Option String := none
  packageId : Option String := none
  initialState : Json := .null
  finalState : Json := .null
  trajectory : TrajectorySource := .none
  verification : Json := .null
  domainVersion : Option String := none
  runtime : Json := .null
  model : Json := .null
  seed : Json := .null
  status : Option String := none
  manifest : Json := .null
  taskHash : Option String := none
  packageHash : Option String := none
  worldSnapshotHash : Option String := none

/-- The five files of a run, in the order in which they are replaced. -/
structure RunBytes where
  initialState : ByteArray
  finalState : ByteArray
  trajectory : ByteArray
  verification : ByteArray
  manifest : ByteArray

/-- A run directory. -/
structure RunFiles where
  initialState : Option ByteArray
  finalState : Option ByteArray
  trajectory : Option ByteArray
  verification : Option ByteArray
  manifest : Option ByteArray

def orElse (v other : Json) : Json :=
  match v with
  | .null => other
  | v => v

def StoreArgs.initialValue (args : StoreArgs) : Json := orElse args.initialState (.obj [])

def StoreArgs.verificationValue (args : StoreArgs) : Json := orElse args.verification (.obj [])

def StoreArgs.finalValue (args : StoreArgs) : Json := orElse (orElse args.finalState args.initialState) (.obj [])

/-- The run id that is given, or the manifest's, or the name of the directory. -/
def StoreArgs.resolvedRunId (args : StoreArgs) (dirName : String) : String :=
  ((nonEmpty args.runId).or (textValue ((mappingValue (some args.manifest)).get? "run_id"))).getD dirName

section Store

variable [PyJson] (sha256 : ByteArray → String)

/-- `_hash_source`, once the supplied hash is chosen. -/
def hashSource (source : Json) (supplied : Option String) (fallback : Json) : Except String String :=
  match source, supplied with
  | .null, some digest =>
    if isDigest digest then .ok digest
    else .error "artifact hash must be a lowercase SHA-256 hexadecimal digest"
  | .null, none => .ok (sha256 (canonicalJsonBytes fallback))
  | v, _ => .ok (sha256 (canonicalJsonBytes v))

/-- The id that is given, or the manifest's, or the object's own. -/
def resolvedId (given : Option String) (manifestData : Dict String Json) (key : String) (object : Json) : Option String :=
  ((nonEmpty given).or (textValue (manifestData.get? key))).or (textValue (object.get? "id"))

/-- The mapping that is given, or the manifest's when it is empty. -/
def mappingOr (given : Json) (stored : Option Json) : Dict String Json :=
  if given.truthy then mappingValue (some given) else mappingValue stored

/-- The fields that `store_run` sets in its manifest, at a time. -/
def runFields (now runId taskId taskHash packageId packageHash : String) (args : StoreArgs) : List (String × Json) :=
  let manifestData := mappingValue (some args.manifest)
  let initialHash := sha256 (canonicalJsonBytes args.initialValue)
  let text := fun (given : Option String) (key missing : String) =>
    ((nonEmpty given).or (textValue (manifestData.get? key))).getD missing
  [("run_id", .str runId), ("task_id", .str taskId), ("task_hash", .str taskHash),
    ("package_id", .str packageId), ("package_hash", .str packageHash),
    ("domain_version", .str (text args.domainVersion "domain_version" "unknown")),
    ("world_snapshot_hash", .str initialHash),
    ("runtime", .ofDict (stringMapping (mappingOr args.runtime (manifestData.get? "runtime"))
      [("name", "unknown"), ("version", "unknown")])),
    ("model", .ofDict (stringMapping (mappingOr args.model (manifestData.get? "model"))
      [("provider", "unknown"), ("identifier", "unknown")])),
    ("seed", .int (seedValue args.seed (manifestData.get? "seed"))),
    ("status", .str (text args.status "status" "unknown")),
    ("created_at", .str (text none "created_at" now)),
    ("initial_state_hash", .str initialHash),
    ("final_state_hash", .str (sha256 (canonicalJsonBytes args.finalValue)))]

/-- The manifest of `store_run`: what the caller gave, with the fields of the run over it. -/
def manifestResult (now runId taskId taskHash packageId packageHash : String) (args : StoreArgs) : Dict String Json :=
  (mappingValue (some args.manifest)).update (runFields sha256 now runId taskId taskHash packageId packageHash args)

/-- The manifest of `store_run` once the ids are resolved. -/
def assembleManifest (now dirName taskId packageId : String) (args : StoreArgs) : Except String (Dict String Json) := do
  let manifestData := mappingValue (some args.manifest)
  let taskHash ← hashSource sha256 args.task ((nonEmpty args.taskHash).or (textValue (manifestData.get? "task_hash")))
    (.obj [("task_id", .str taskId)])
  let packageHash ← hashSource sha256 args.package
    ((nonEmpty args.packageHash).or (textValue (manifestData.get? "package_hash")))
    (.obj [("package_id", .str packageId)])
  if args.worldSnapshotHash.any (· != sha256 (canonicalJsonBytes args.initialValue)) then
    .error "world_snapshot_hash does not match initial-state.json"
  else do
    let result := manifestResult sha256 now (args.resolvedRunId dirName) taskId taskHash packageId packageHash args
    (validateManifest (.ofDict result)).mapError fun _ => "invalid manifest"
    pure result

def StoreArgs.resolvedTaskId (args : StoreArgs) : Option String :=
  resolvedId args.taskId (mappingValue (some args.manifest)) "task_id" args.task

def StoreArgs.resolvedPackageId (args : StoreArgs) : Option String :=
  resolvedId args.packageId (mappingValue (some args.manifest)) "package_id" args.package

/-- The files of `store_run` in a directory of this name, before any is written. -/
def prepare (now dirName : String) (args : StoreArgs) : Except String RunBytes :=
  match args.resolvedTaskId, args.resolvedPackageId with
  | some taskId, some packageId => do
    let trajectory ← trajectoryBytes args.trajectory
    let result ← assembleManifest sha256 now dirName taskId packageId args
    pure (RunBytes.mk (canonicalJsonBytes args.initialValue) (canonicalJsonBytes args.finalValue) trajectory
      (canonicalJsonBytes args.verificationValue) (canonicalJsonBytes (.ofDict result)))
  | _, _ => .error "store_run requires task_id and package_id"

/-! ### Replacing files -/

/-- The first `k` replacements of a store; a crash leaves the directory so. -/
def replaced (files : RunFiles) (new : RunBytes) (k : Nat) : RunFiles where
  initialState := if 1 ≤ k then some new.initialState else files.initialState
  finalState := if 2 ≤ k then some new.finalState else files.finalState
  trajectory := if 3 ≤ k then some new.trajectory else files.trajectory
  verification := if 4 ≤ k then some new.verification else files.verification
  manifest := if 5 ≤ k then some new.manifest else files.manifest

/-- What the loader raises, for every failure. -/
structure StorageIntegrityError where
  message : String

structure StoredRun where
  manifest : Json
  trajectory : List TrajectoryEvent
  initialState : Json
  finalState : Json
  verification : Json

def readBytes (name : String) : Option ByteArray → Except String ByteArray
  | some bytes => .ok bytes
  | none => .error s!"[Errno 2] No such file or directory: {name}"

def loadManifest (file : Option ByteArray) : Except StorageIntegrityError Json :=
  (do
    let manifest ← readJson "manifest.json" (← readBytes "manifest.json" file)
    (validateManifest manifest).mapError fun _ => "validation error"
    pure manifest).mapError fun error => ⟨s!"invalid manifest.json: {error}"⟩

/-- The two states, if their hashes are those of the manifest. -/
def loadStates (manifest : Json) (initialFile finalFile : Option ByteArray) :
    Except StorageIntegrityError (ByteArray × ByteArray) := do
  let missing := fun error => StorageIntegrityError.mk s!"missing run state artifact: {error}"
  let initial ← (readBytes "initial-state.json" initialFile).mapError missing
  let final ← (readBytes "final-state.json" finalFile).mapError missing
  let expectedInitial := textValue (manifest.get? "initial_state_hash")
  if expectedInitial.any (· != sha256 initial) then
    let expected := expectedInitial.getD ""
    .error ⟨s!"initial-state.json hash mismatch: expected {expected}, got {sha256 initial}"⟩
  else if textValue (manifest.get? "world_snapshot_hash") ≠ some (sha256 initial) then
    .error ⟨"initial-state.json does not match manifest world_snapshot_hash"⟩
  else match textValue (manifest.get? "final_state_hash") with
    | some expected =>
      if sha256 final ≠ expected then
        .error ⟨s!"final-state.json hash mismatch: expected {expected}, got {sha256 final}"⟩
      else .ok (initial, final)
    | none => .error ⟨"manifest is missing final_state_hash"⟩

def loadArtifacts (manifest : Json) (initial final : ByteArray) (verificationFile trajectoryFile : Option ByteArray) :
    Except StorageIntegrityError StoredRun :=
  (do
    let initialState ← PyJson.loadsBytes initial
    let finalState ← PyJson.loadsBytes final
    let verification ← readJson "verification.json" (← readBytes "verification.json" verificationFile)
    let trajectory ← loadTrajectory (← readBytes "trajectory.jsonl" trajectoryFile)
    pure (StoredRun.mk manifest trajectory initialState finalState verification)).mapError
      fun error => ⟨s!"invalid run artifact: {error}"⟩

/-- `load_run`. -/
def loadRun (files : RunFiles) : Except StorageIntegrityError StoredRun := do
  let manifest ← loadManifest files.manifest
  let (initial, final) ← loadStates sha256 manifest files.initialState files.finalState
  loadArtifacts manifest initial final files.verification files.trajectory

end Store

end AgentGym.Storage
