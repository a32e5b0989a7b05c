import AgentGym.Runner.Lifecycle
import AgentGym.Runner.Record
import AgentGym.Runtime.Simulation

/-!
# The log changes nothing

No step of a run reads the log of its world's operations. A run with a log is the run
without it, and the log is beside the world.
-/

namespace AgentGym.Runner

open AgentGym.Runtime Steps

section Unlogged

variable {ω : Type}

def ExecutorState.unlog (s : ExecutorState (Logged ω)) : ExecutorState ω :=
  ⟨s.world.1, s.fired, s.infrastructureError, s.emitted⟩

def RunState.unlog (s : RunState (Logged ω)) : RunState ω :=
  ⟨s.world.1, s.tracker, s.messages, s.events, s.runtimeResult, s.finalSnapshot⟩

theorem simulates_logged {α : Type} (operation : Operation) (m : Steps String ω α) :
    Simulates Prod.fst (logged operation m) m := fun _ => rfl

theorem simulates_unlogged {α : Type} (m : Steps String ω α) : Simulates Prod.fst (unlogged m) m := fun _ => rfl

theorem unlog_onWorld {α : Type} {m : Steps String (Logged ω) α} {n : Steps String ω α} (same : Simulates Prod.fst m n) :
    Simulates ExecutorState.unlog (onWorld m) (onWorld n) := simulates_zoom same (fun _ => rfl) fun _ _ => rfl

theorem unlog_inWorld {α : Type} {m : Steps String (Logged ω) α} {n : Steps String ω α} (same : Simulates Prod.fst m n) :
    Simulates RunState.unlog (inWorld m) (inWorld n) := simulates_zoom same (fun _ => rfl) fun _ _ => rfl

/-! ### The executor -/

theorem unlog_report (isRequest : Bool) (actor : String) (payload : List (String × Json)) :
    Simulates (@ExecutorState.unlog ω) (report isRequest actor payload) (report isRequest actor payload) := fun _ => rfl

theorem unlog_fire (provider : WorldProvider ω) (pageId actor body : String) :
    Simulates ExecutorState.unlog (fire provider.logged pageId actor body) (fire provider pageId actor body) := by
  unfold fire
  refine simulates_bind (fun _ => rfl) fun _ => ?_
  refine simulates_bind (unlog_report _ _ _) fun _ => ?_
  cases supported : provider.humanEdit with
  | none =>
    simp only [WorldProvider.logged, supported, Option.map_none]
    exact simulates_throw _
  | some edit =>
    simp only [WorldProvider.logged, supported, Option.map_some]
    refine simulates_bind (simulates_mapError (unlog_onWorld (simulates_logged _ _))) fun response => ?_
    exact unlog_report _ _ _

theorem unlog_concurrencyHook (provider : WorldProvider ω) (concurrency : Option Json) (name : String)
    (args : Dict String Json) (result : ToolResult) :
    Simulates ExecutorState.unlog (concurrencyHook provider.logged concurrency name args result)
      (concurrencyHook provider concurrency name args result) := by
  refine simulates_get fun s => ?_
  split
  · rw [show s.unlog.fired = s.fired from rfl]
    split
    · exact simulates_pure ()
    · exact unlog_fire provider _ _ _
  · exact simulates_pure ()

/-- A tool's function, which leaves the log alone. -/
def unloggedFn (function : String → String → Dict String Json → Steps String ω Json) (worldUrl actorId : String)
    (args : Dict String Json) : Steps String (Logged ω) Json := unlogged (function worldUrl actorId args)

/-- The second executor is the first one without its log. -/
structure Executor.Unlogs (x : Executor (Logged ω)) (x' : Executor ω) : Prop where
  functions : ∀ name, x.functions.get? name =
    (x'.functions.get? name).map unloggedFn
  descriptions : x.descriptions = x'.descriptions
  worldUrl : x.worldUrl = x'.worldUrl
  actorId : x.actorId = x'.actorId
  afterSuccess : ∀ name args result,
    Simulates ExecutorState.unlog (x.afterSuccess name args result) (x'.afterSuccess name args result)

section Calls

variable [PyText] {x : Executor (Logged ω)} {x' : Executor ω}

omit [PyText] in
theorem unlog_hooked (unlogs : x.Unlogs x') (name : String) (args : Dict String Json) (result : ToolResult) :
    Simulates ExecutorState.unlog (hooked x name args result) (hooked x' name args result) := by
  unfold hooked
  refine simulates_bind (simulates_attempt (unlogs.afterSuccess name args result)) fun answer => ?_
  cases answer with
  | ok u => exact simulates_pure result
  | error e => exact simulates_bind (fun _ => rfl) fun _ => simulates_pure _

theorem unlog_execute (unlogs : x.Unlogs x') (name : String) (args : Dict String Json) :
    Simulates ExecutorState.unlog (x.execute name args) (x'.execute name args) := by
  unfold Executor.execute
  rw [unlogs.functions name, unlogs.worldUrl, unlogs.actorId]
  cases x'.functions.get? name with
  | none => exact simulates_pure _
  | some function =>
    refine simulates_bind (unlog_report _ _ _) fun _ => ?_
    refine simulates_bind (simulates_attempt (unlog_onWorld (simulates_unlogged _))) fun answer => ?_
    cases answer with
    | ok value =>
      refine simulates_bind (unlog_hooked unlogs _ _ _) fun result => ?_
      exact simulates_bind (unlog_report _ _ _) fun _ => simulates_pure result
    | error message => exact simulates_bind (unlog_report _ _ _) fun _ => simulates_pure _

theorem unlog_agentEnvironment (outside : Outside ω) (root : String) (unlogs : x.Unlogs x') :
    (agentEnvironment outside.logged root x).Shows ExecutorState.unlog (agentEnvironment outside root x') where
  elapsed _ := rfl
  complete _ _ _ := rfl
  describe := unlogs.descriptions.symm
  execute name arguments w := by
    have same := unlog_execute unlogs name arguments { w with emitted := [] }
    simp only [agentEnvironment]
    rw [show ({ w.unlog with emitted := [] } : ExecutorState ω) = ExecutorState.unlog { w with emitted := [] } from rfl, same]
    rfl
  readArtifact := rfl

end Calls

theorem buildExecutor_unlogs (rawTools : List (RawTool ω)) (declared granted : List String) (worldUrl actorId : String)
    (provider : WorldProvider ω) (concurrency : Option Json) :
    (buildExecutor (rawTools.map RawTool.unlogged) declared granted worldUrl actorId
      (concurrencyHook provider.logged concurrency)).Unlogs
    (buildExecutor rawTools declared granted worldUrl actorId (concurrencyHook provider concurrency)) := by
  have offers : (rawTools.map RawTool.unlogged).filter (offered granted declared) =
      (rawTools.filter (offered granted declared)).map RawTool.unlogged := by
    rw [List.filter_map]
    rfl
  refine ⟨?_, ?_, rfl, rfl, unlog_concurrencyHook provider concurrency⟩
  · intro name
    simp only [buildExecutor, offers, List.map_map]
    have nothing : ∀ key : String, Dict.empty.get? key = (Dict.empty.get? key).map (@unloggedFn ω) := fun _ => rfl
    have mapped := Dict.get?_update_map unloggedFn
      ((rawTools.filter (offered granted declared)).map fun tool => (tool.description.name, tool.fn)) nothing name
    rw [List.map_map] at mapped
    exact mapped
  · simp only [buildExecutor, offers, List.map_map]
    rfl

/-! ### The run -/

section Runs

variable [PyText] (outside : Outside ω) (refuse : VerificationResult → Option String) (provider : WorldProvider ω)
  (task : Task) (package : AgentPackage)

variable {x : Executor (Logged ω)} {x' : Executor ω} in
theorem unlog_runAgent (root : String) (unlogs : x.Unlogs x') :
    Simulates RunState.unlog (runAgent outside.logged task package root x) (runAgent outside task package root x') := by
  intro s
  have same := run_through (unlog_agentEnvironment outside root unlogs) ⟨task.goal, task.actorId⟩ package s.tracker
    ⟨s.world, false, none, []⟩ s.events
  rw [runAgent, runAgent, outcome_ofFn, outcome_ofFn]
  rw [show ({ world := s.unlog.world, fired := false, infrastructureError := none, emitted := [] } : ExecutorState ω) =
    ExecutorState.unlog ⟨s.world, false, none, []⟩ from rfl]
  rw [show s.unlog.tracker = s.tracker from rfl, show s.unlog.events = s.events from rfl, same]
  generalize Runtime.run (agentEnvironment outside.logged root x) ⟨task.goal, task.actorId⟩ package s.tracker
    ⟨s.world, false, none, []⟩ s.events = ended
  obtain ⟨answer, session⟩ := ended
  cases answer with
  | error message => rfl
  | ok result =>
    obtain ⟨⟨w, fired, infrastructureError, emitted⟩, tracker, messages, hadToolError, events, history⟩ := session
    cases infrastructureError with
    | none => rfl
    | some e => rfl

omit [PyText] in
/-- Tools that are listed with a log are those that are listed without, with their logs left alone. -/
theorem outcome_listTools (root : String) (s : RunState (Logged ω)) :
    (inWorld (outside.logged.listTools root)).outcome s =
      (((inWorld (logged .listTools (outside.listTools root))).outcome s).1.map (List.map RawTool.unlogged),
        ((inWorld (logged .listTools (outside.listTools root))).outcome s).2) := by
  simp only [inWorld, outcome_zoom, Outside.logged, outcome_map]

theorem unlog_useWorld :
    Simulates RunState.unlog (useWorld outside.logged provider.logged task package) (useWorld outside provider task package) := by
  unfold useWorld
  refine simulates_bind (unlog_inWorld (simulates_logged _ _)) fun granted => ?_
  refine simulates_bind (simulates_lift _) fun root => ?_
  refine simulates_get fun s => ?_
  refine simulates_bind (simulates_lift _) fun worldUrl => ?_
  intro s
  rw [outcome_bind, outcome_bind, outcome_listTools, unlog_inWorld (simulates_logged .listTools (outside.listTools root)) s]
  generalize (inWorld (logged .listTools (outside.listTools root))).outcome s = listed
  obtain ⟨answer, s'⟩ := listed
  cases answer with
  | error e => rfl
  | ok rawTools =>
    have unlogs := buildExecutor_unlogs rawTools package.declaredCapabilities granted worldUrl task.actorId provider
      (task.metadata.get? "concurrency")
    refine simulates_bind (unlog_runAgent outside task package root unlogs) (fun result => ?_) s'
    refine simulates_bind (unlog_inWorld (simulates_logged .snapshot provider.snapshot)) fun final => ?_
    exact simulates_bind (fun _ => rfl) fun _ => simulates_pure (result, final)

theorem unlog_worldSession (initial : WorldSnapshot) :
    Simulates RunState.unlog (worldSession outside.logged provider.logged task package initial)
      (worldSession outside provider task package initial) := by
  unfold worldSession
  refine simulates_bind (unlog_inWorld (simulates_logged _ _)) fun _ => ?_
  refine simulates_andFinally ?_ (unlog_inWorld (simulates_logged _ _))
  exact simulates_bind (unlog_inWorld (simulates_logged _ _)) fun _ => unlog_useWorld outside provider task package

omit [PyText] in
theorem unlog_emitAssertions (assertions : List AssertionResult) :
    Simulates (@RunState.unlog ω) (emitAssertions assertions) (emitAssertions assertions) := by
  induction assertions with
  | nil => exact simulates_pure ()
  | cons a assertions ih => exact simulates_bind (fun _ => rfl) fun _ => ih

omit [PyText] in
theorem unlog_verifyRecorded (initial final : WorldSnapshot) :
    Simulates RunState.unlog (verifyRecorded outside.logged refuse task initial final)
      (verifyRecorded outside refuse task initial final) := by
  refine simulates_get fun s => ?_
  refine simulates_bind (simulates_lift _) fun v => ?_
  refine simulates_bind ?_ fun _ => simulates_pure v
  unfold emitVerdict
  split
  · exact simulates_bind (unlog_emitAssertions _) fun _ => fun _ => rfl
  · exact simulates_bind (unlog_emitAssertions _) fun _ => simulates_throw _

omit [PyText] in
theorem unlog_judgeRecorded (initial final : WorldSnapshot) (result : RuntimeResult) :
    Simulates RunState.unlog (judgeRecorded outside.logged refuse task initial final result)
      (judgeRecorded outside refuse task initial final result) := by
  unfold judgeRecorded
  split
  · exact simulates_bind (unlog_verifyRecorded outside refuse task initial final) fun _ => simulates_pure _
  · split
    · exact simulates_bind (unlog_verifyRecorded outside refuse task initial final) fun _ => simulates_pure _
    · exact simulates_pure _

theorem unlog_executionRecorded :
    Simulates RunState.unlog (executionRecorded outside.logged refuse provider.logged task package)
      (executionRecorded outside refuse provider task package) := by
  refine simulates_bind (simulates_lift _) fun initial => ?_
  refine simulates_bind (simulates_mapError (unlog_worldSession outside provider task package initial)) fun ended => ?_
  exact unlog_judgeRecorded outside refuse task initial ended.2 ended.1

/-- The run, with a log of its world's operations. -/
def loggedRun (budget : ExecutionBudget) (world : ω) : RunnerRollout × RunState (Logged ω) :=
  runRecorded outside.logged refuse provider.logged task package budget (world, [])

/-- A run is the run with a log, its log left out. -/
theorem runRecorded_unlogged (budget : ExecutionBudget) (world : ω) :
    runRecorded outside refuse provider task package budget world =
      ((loggedRun outside refuse provider task package budget world).1,
        (loggedRun outside refuse provider task package budget world).2.unlog) := by
  have same := unlog_executionRecorded outside refuse provider task package (started task package budget (world, []))
  unfold loggedRun runRecorded
  rw [show started task package budget world = (started task package budget (world, ([] : List WorldCall))).unlog from rfl, same]
  rfl

end Runs

end Unlogged

end AgentGym.Runner
