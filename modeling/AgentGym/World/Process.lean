import AgentGym.Runner.Record
import AgentGym.World.History

/-!
# The process world

A provider serves its world from one child process on a loopback port of its own, and
reaches it through the control routes, which take its key. What the provider does not
decide, its surroundings do: whether a port and a process can be had, when a child begins
to listen or ends, which requests get through, and how long everything takes.
-/

namespace AgentGym.World

open Steps

/-! ### Children -/

structure Child where
  port : Nat
  controlKey : String
  /-- The store it serves, from when it listens. -/
  serving : Option ConfluenceStore
  /-- Set once it has ended. -/
  returncode : Option Int

def Child.running (c : Child) : Bool := c.returncode.isNone

/-- What a running child does between two moments. -/
inductive Fate where
  | stays
  | listens
  | ends (code : Int)

/-- What a request to a server raises. -/
inductive RequestError where
  /-- An `httpx.HTTPError` or a `ValueError`. -/
  | http (message : String)
  | other (message : String)

/-- What becomes of a request. -/
inductive Delivery where
  | lost (e : RequestError)
  /-- It is handled, but its response does not arrive. -/
  | unanswered (e : RequestError)
  | answered

/-- The children a host has started, by number, and the time in milliseconds. -/
structure Host where
  children : List Child
  now : Nat
  /-- How often the host was left to go on. -/
  moment : Nat

/-- What happens around a provider, by moments. -/
structure Surroundings where
  /-- The JSON in the snapshot file, when there is a file. -/
  snapshotFile : Nat → Option (Except String Json)
  reserve : Nat → Except String Nat
  spawn : Nat → Except String Unit
  fate : Nat → Nat → Fate
  /-- The return code of a child that ends within five seconds of being told to. -/
  heeds : Nat → Option Int
  takes : Nat → Nat
  delivery : Nat → Delivery
  refused : Nat → String
  /-- The text of the error `raise_for_status` raises. -/
  statusError : Nat → String
  timestamp : Nat → String

/-! ### Snapshots as JSON -/

def snapshotText (payload : Json) (field : String) : Except String String :=
  match payload.get? field with
  | some (.str text) => .ok text
  | _ => .error s!"{field}: Input should be a valid string"

/-- `WorldSnapshot.model_validate`. -/
def snapshotValidate (payload : Json) : Except String WorldSnapshot := do
  let id ← snapshotText payload "id"
  let domainId ← snapshotText payload "domain_id"
  let schemaVersion ← snapshotText payload "schema_version"
  let timestamp ← snapshotText payload "timestamp"
  match payload.get? "resources" with
  | some (.obj kvs) => pure ⟨id, domainId, schemaVersion, timestamp, Dict.ofEntries kvs⟩
  | _ => throw "resources: Input should be a valid dictionary"

theorem snapshotValidate_dump (snap : WorldSnapshot) : snapshotValidate (Runner.snapshotDump snap) = .ok snap := by
  obtain ⟨id, domainId, schemaVersion, timestamp, resources⟩ := snap
  show Except.ok _ = Except.ok _
  rw [Dict.ofEntries_entries]

/-- The store `world_entry.main` serves from the snapshot file, unless it cannot be read. -/
def entryStore [LaxInt] (file : Option (Except String Json)) : Option ConfluenceStore := do
  let payload ← (← file).toOption
  let snap ← (snapshotValidate payload).toOption
  (ConfluenceStore.ofResources snap.resources).toOption

/-! ### The host -/

/-- A child that cannot serve its snapshot ends. -/
def Child.next (entry : Option ConfluenceStore) (fate : Fate) (c : Child) : Child :=
  match c.returncode, fate with
  | some _, _ | none, .stays => c
  | none, .ends code => { c with returncode := some code }
  | none, .listens =>
    match c.serving, entry with
    | some _, _ => c
    | none, some store => { c with serving := some store }
    | none, none => { c with returncode := some 1 }

/-- The child ends with the code, unless it has ended. -/
def Child.finish (code : Int) (c : Child) : Child :=
  match c.returncode with
  | some _ => c
  | none => { c with returncode := some code }

section Provider

variable [PyText] (around : Surroundings)

/-- The host after a wait of at least so many milliseconds. -/
def Host.wait (host : Host) (atLeast : Nat) : Host where
  children := host.children.mapIdx fun pid c =>
    c.next (entryStore (around.snapshotFile host.moment)) (around.fate host.moment pid)
  now := host.now + atLeast + around.takes host.moment
  moment := host.moment + 1

/-- The child that listens at a port, with its store. -/
def Host.server (host : Host) (port : Nat) : Option (Nat × Child × ConfluenceStore) :=
  host.children.zipIdx.findSome? fun (c, pid) =>
    if c.port = port ∧ c.running then c.serving.map fun store => (pid, c, store) else none

def Host.modify (host : Host) (pid : Nat) (f : Child → Child) : Host :=
  { host with children := host.children.modify pid f }

/-! ### The provider -/

/-- A permission granted to an execution. -/
structure Capability where
  id : String
  system : String
  operation : String

/-- `_default_capabilities`. -/
def defaultCapabilities : List Capability :=
  [⟨"confluence.pages.read", "confluence", "pages.read"⟩, ⟨"confluence.pages.write", "confluence", "pages.write"⟩,
    ⟨"confluence.search", "confluence", "search"⟩]

/-- What a provider is made with. -/
structure ProcessWorldProvider where
  snapshotPath : String
  declaredCapabilities : List Capability
  controlKey : String
  /-- In milliseconds, as the host's time. -/
  readinessTimeout : Nat
  controlKey_nonempty : controlKey ≠ ""

/-- `http://127.0.0.1:{port}`. -/
structure LoopbackUrl where
  port : Nat

def LoopbackUrl.text (url : LoopbackUrl) : String := s!"http://127.0.0.1:{url.port}"

/-- What a provider holds while it is used, and its host. -/
structure ProcessState where
  process : Option Nat
  port : Option Nat
  baseUrl : Option LoopbackUrl
  host : Host

inductive ProviderError where
  | processWorld (message : String)
  | other (message : String)

abbrev Act (α : Type) := Steps ProviderError ProcessState α

def notStarted : ProviderError := .processWorld "process world has not been started"

def ProviderError.text : ProviderError → String
  | .processWorld message | .other message => message

def ProcessState.child (s : ProcessState) : Option Child := s.process.bind fun pid => s.host.children[pid]?

/-- The process it has was started and has no return code. -/
def ProcessState.running (s : ProcessState) : Bool := s.child.any Child.running

def wait (atLeast : Nat) : Act Unit := modify fun s => { s with host := s.host.wait around atLeast }

/-! ### Requests -/

/-- A request to whatever listens at the address, which answers it from its store. -/
def exchange {α : Type} (url : LoopbackUrl) (answer : Child → ConfluenceStore → α × ConfluenceStore) :
    Steps RequestError ProcessState α := ofFn fun s =>
  let s := { s with host := s.host.wait around 0 }
  match around.delivery s.host.moment, s.host.server url.port with
  | .lost e, _ => (.error e, s)
  | _, none => (.error (.http (around.refused s.host.moment)), s)
  | delivery, some (pid, c, store) =>
    let (a, store) := answer c store
    let s := { s with host := s.host.modify pid fun c => { c with serving := some store } }
    match delivery with
    | .unanswered e => (.error e, s)
    | _ => (.ok a, s)

inductive ControlPath where
  | snapshot | humanEdit | restore

/-- The request with these fields, where they have their minimum lengths. -/
def HumanEditRequest.checked (pageId actor body : String) : Option HumanEditRequest :=
  if named : pageId ≠ "" then
    if acting : actor ≠ "" then some ⟨pageId, actor, body, named, acting⟩ else none
  else none

/-- `HumanEditRequest.model_validate`. -/
def humanEditValidate (payload : Json) : Option HumanEditRequest :=
  match payload with
  | .obj kvs =>
    match (kvs.all fun e => ["page_id", "actor", "body"].contains e.1), kvs.lookup "page_id", kvs.lookup "actor",
        kvs.lookup "body" with
    | true, some (.str pageId), some (.str actor), some (.str body) => HumanEditRequest.checked pageId actor body
    | _, _, _, _ => none
  | _ => none

/-- The call of a control route, as its body is validated. -/
def controlCall (path : ControlPath) (body : Option Json) (timestamp : String) : ControlCall :=
  match path with
  | .snapshot => .snapshot timestamp
  | .humanEdit =>
    match body.bind humanEditValidate with
    | some edit => .humanEdit edit
    | none => .malformed
  | .restore =>
    match (body.map snapshotValidate).bind Except.toOption with
    | some snap => .restore snap
    | none => .malformed

def failureStatus : Response → Option Nat
  | .error status _ _ => some status
  | .validationError => some 422
  | .serverError => some 500
  | _ => none

/-- The JSON of a control response, or the status it fails with. -/
def controlJson : ControlResponse → Except Nat Json
  | .snapshot snap => .ok (Runner.snapshotDump snap)
  | .answer (.edited page) => .ok (.ofDict page.modelDump)
  | .answer response => .error ((failureStatus response).getD 500)

def controlFailure (message : String) : ProviderError :=
  .processWorld s!"process world control request failed: {message}"

section Handlers

/-- A request of an agent's tool to the raw API. -/
def rawRequest (url : LoopbackUrl) (actor : Option String) (apiCall : ApiCall) : Steps RequestError ProcessState Response :=
  exchange around url fun _ store => handle store (.request actor apiCall)

namespace ProcessWorldProvider

variable (provider : ProcessWorldProvider)

/-- What a child answers to a call of a control route. -/
def controlAnswer (call : ControlCall) (c : Child) (store : ConfluenceStore) : ControlResponse × ConfluenceStore :=
  control c.controlKey store (some provider.controlKey) call

/-- A control request to an address, and the JSON of its response. -/
def sendControl (url : LoopbackUrl) (call : ControlCall) : Steps RequestError ProcessState Json := do
  let response ← exchange around url (provider.controlAnswer call)
  lift ((controlJson response).mapError fun status => .http (around.statusError status))

def requestFailure : RequestError → ProviderError
  | .http message => controlFailure message
  | .other message => .other message

/-- `_control_request`. -/
def controlRequest (path : ControlPath) (body : Option Json) : Act Json := do
  let s ← get
  match s.baseUrl with
  | none => throw notStarted
  | some url =>
    mapError requestFailure (provider.sendControl around url (controlCall path body (around.timestamp s.host.moment)))

/-! ### Operations -/

def restore (snap : WorldSnapshot) : Act Unit := do
  let _ ← provider.controlRequest around .restore (some (Runner.snapshotDump snap))

def snapshot : Act WorldSnapshot := do
  let payload ← provider.controlRequest around .snapshot none
  lift ((snapshotValidate payload).mapError fun _ => .processWorld "world returned an invalid snapshot")

def humanEditBody (pageId actor body : String) : Json :=
  .obj [("page_id", .str pageId), ("actor", .str actor), ("body", .str body)]

def humanEdit (pageId actor body : String) : Act Json := do
  let payload ← provider.controlRequest around .humanEdit (some (humanEditBody pageId actor body))
  if payload.isObj then pure payload
  else throw (.processWorld "world returned an invalid human-edit response")

def capabilities : Act (List Capability) := pure provider.declaredCapabilities

/-- Terminate the child, and kill it when it has not ended after five seconds. -/
def stop : Act Unit := do
  let s ← get
  set { s with process := none, port := none, baseUrl := none }
  match s.process with
  | none => pure ()
  | some pid =>
    if s.running then
      wait around 0
      modify fun s => { s with host := s.host.modify pid (Child.finish ((around.heeds s.host.moment).getD (-9))) }
    else pure ()

def exitedEarly (detail : String) : ProviderError :=
  .processWorld s!"process world exited before readiness{detail}"

def timedOut (lastError : Option ProviderError) : ProviderError :=
  let detail := (lastError.map fun e => s!": {e.text}").getD ""
  .processWorld s!"process world readiness timed out{detail}"

/-- The loop of `_wait_until_ready`. A pass that leads to another takes the fifty milliseconds of its sleep at least,
so as many passes as there are milliseconds left are enough. -/
def probe (deadline : Nat) : (passes : Nat) → (lastError : Option ProviderError) → Act Unit
  | 0, lastError => throw (timedOut lastError)
  | passes + 1, lastError => do
    let s ← get
    if deadline ≤ s.host.now then throw (timedOut lastError)
    else match s.child with
      | none => throw (exitedEarly "")
      | some c =>
        match c.returncode with
        | some code => throw (exitedEarly s!" (code {code})")
        | none =>
          match ← attempt (provider.controlRequest around .snapshot none) with
          | .ok _ => pure ()
          | .error (.other message) => throw (.other message)
          | .error (.processWorld message) => do
            wait around 50
            probe deadline passes (some (.processWorld message))

def waitUntilReady : Act Unit := do
  let s ← get
  provider.probe around (s.host.now + provider.readinessTimeout) provider.readinessTimeout none

def readinessError : ProviderError → ProviderError
  | .processWorld message => .processWorld message
  | .other _ => .processWorld "process world failed readiness probe"

/-- The child a provider spawns at a port. -/
def spawned (port : Nat) : Child := ⟨port, provider.controlKey, none, none⟩

/-- The port for a child of the snapshot file. -/
def reservedPort (moment : Nat) : Except ProviderError Nat :=
  match around.snapshotFile moment with
  | none => .error (.processWorld s!"world snapshot does not exist: {provider.snapshotPath}")
  | some _ => (around.reserve moment).mapError fun e => .processWorld s!"failed to reserve a loopback port: {e}"

/-- The provider with a new child at a port. -/
def adopt (port : Nat) (s : ProcessState) : ProcessState where
  process := some s.host.children.length
  port := some port
  baseUrl := some ⟨port⟩
  host := { s.host with children := s.host.children ++ [provider.spawned port] }

/-- Wait for a new child, and stop it when it does not get ready. -/
def awaitChild : Act Unit := do
  match ← attempt (provider.waitUntilReady around) with
  | .ok () => pure ()
  | .error e => do
    stop around
    throw (readinessError e)

def start : Act Unit := do
  let s ← get
  if s.running then pure ()
  else do
    let port ← lift (provider.reservedPort around s.host.moment)
    lift ((around.spawn s.host.moment).mapError fun e => .processWorld s!"failed to spawn process world: {e}")
    wait around 0
    modify (provider.adopt port)
    provider.awaitChild around

/-- `start_world`. -/
def startWorld (initial : WorldSnapshot) : Act Unit := do
  provider.start around
  match ← attempt (provider.restore around initial) with
  | .ok () => pure ()
  | .error e => do
    stop around
    throw e

end ProcessWorldProvider

end Handlers

end Provider

end AgentGym.World
