import AgentGym.Runner.Lifecycle
import AgentGym.Runner.Record

/-!
# What a session keeps of its world

Between the restore of a world and its stop, a run touches the world through the provider,
the model and the clock, and the tools its executor offers. A relation that all of these
keep holds between the worlds before and after.
-/

namespace AgentGym.Runner

open AgentGym.Runtime Steps

section Session

variable {ω : Type}

section Executing

/-- A relation between the states of an executor that its tools and its hook keep is kept by a call. -/
theorem keeps_execute [PyText] {R : ExecutorState ω → ExecutorState ω → Prop} (trans : ∀ a b c, R a b → R b c → R a c)
    (quiet : ∀ s s' : ExecutorState ω, s'.world = s.world → s'.fired = s.fired → R s s')
    {tools : List (RawTool ω)} {granted declared : List String} {worldUrl actorId : String}
    {afterSuccess : String → Dict String Json → ToolResult → Exec ω Unit}
    (runs : ∀ tool ∈ tools, offered granted declared tool = true → ∀ args,
      Keeps R (onWorld (tool.fn (rstripSlash worldUrl) actorId args)))
    (hooks : ∀ name args result, Keeps R (afterSuccess name args result)) (name : String) (args : Dict String Json) :
    Keeps R ((buildExecutor tools declared granted worldUrl actorId afterSuccess).execute name args) := by
  have refl : ∀ s, R s s := fun s => quiet s s rfl rfl
  have reports : ∀ isRequest actor payload, Keeps R (report isRequest actor payload : Exec ω Unit) :=
    fun _ _ _ => keeps_modify fun s => quiet _ _ rfl rfl
  unfold Executor.execute
  split
  · exact keeps_pure refl _
  · rename_i function found
    have ran : Keeps R (attempt (onWorld (function (rstripSlash worldUrl) actorId args))) := by
      rcases Dict.get?_update_eq_some found with none | inside
      · cases none
      · obtain ⟨tool, member, same⟩ := List.mem_map.mp inside
        obtain ⟨-, rfl⟩ := Prod.mk.inj same
        obtain ⟨listed, offers⟩ := List.mem_filter.mp member
        exact keeps_attempt (runs tool listed offers args)
    refine keeps_bind trans (reports _ _ _) fun _ => keeps_bind trans ran fun answer => ?_
    split
    · refine keeps_bind trans ?_ fun result => keeps_bind trans (reports _ _ _) fun _ => keeps_pure refl _
      refine keeps_bind trans (keeps_attempt (hooks name args _)) fun answer => ?_
      split
      · exact keeps_pure refl _
      · exact keeps_bind trans (keeps_modify fun s => quiet _ _ rfl rfl) fun _ => keeps_pure refl _
    · exact keeps_bind trans (reports _ _ _) fun _ => keeps_pure refl _

end Executing

/-- A relation that everything done to a world inside a session keeps. -/
structure SessionKeeps (outside : Outside ω) (provider : WorldProvider ω) (declared : List String) (W : ω → ω → Prop) :
    Prop where
  refl : ∀ w, W w w
  trans : ∀ a b c, W a b → W b c → W a c
  elapsed : ∀ w, W w (outside.elapsed w).2
  complete : ∀ messages tools w, W w (outside.complete messages tools w).2
  snapshot : Keeps W provider.snapshot
  capabilities : Keeps W provider.capabilities
  humanEdit : ∀ edit, provider.humanEdit = some edit → ∀ pageId actor body, Keeps W (edit pageId actor body)
  listTools : ∀ root, Keeps W (outside.listTools root)
  /-- Of the tools, those that are offered. -/
  tools : ∀ {root w tools w' w₀ granted}, (outside.listTools root).outcome w = (.ok tools, w') →
    (provider.capabilities.outcome w₀).1 = .ok granted → ∀ tool ∈ tools, offered granted declared tool = true →
    ∀ worldUrl actorId args, Keeps W (tool.fn worldUrl actorId args)

/-- The relation, between the worlds of two states of an executor. -/
def OnWorlds (W : ω → ω → Prop) (s s' : ExecutorState ω) : Prop := W s.world s'.world

variable {outside : Outside ω} {provider : WorldProvider ω} {declared : List String} {W : ω → ω → Prop}

section Kept

variable (kept : SessionKeeps outside provider declared W)
include kept

theorem keeps_report (isRequest : Bool) (actor : String) (payload : List (String × Json)) :
    Keeps (OnWorlds W) (report isRequest actor payload : Exec ω Unit) := fun s => kept.refl s.world

theorem keeps_hook (concurrency : Option Json) (name : String) (args : Dict String Json) (result : ToolResult) :
    Keeps (OnWorlds W) (concurrencyHook provider concurrency name args result) := by
  have refl : ∀ s : ExecutorState ω, OnWorlds W s s := fun s => kept.refl s.world
  have trans : ∀ a b c : ExecutorState ω, OnWorlds W a b → OnWorlds W b c → OnWorlds W a c := fun _ _ _ => kept.trans _ _ _
  refine keeps_bind trans (keeps_get refl) fun s => ?_
  split
  · split
    · exact keeps_pure refl _
    · refine keeps_bind trans (keeps_modify refl) fun _ => keeps_bind trans (keeps_report kept _ _ _) fun _ => ?_
      split
      · exact keeps_throw refl _
      · rename_i humanEdit supported
        refine keeps_bind trans ?_ fun _ => keeps_report kept _ _ _
        exact fun s => kept.humanEdit humanEdit supported _ _ _ s.world
  · exact keeps_pure refl _

theorem keeps_execute_offered [PyText] {tools : List (RawTool ω)} {granted : List String} {worldUrl actorId : String}
    {concurrency : Option Json}
    (runs : ∀ tool ∈ tools, offered granted declared tool = true → ∀ worldUrl actorId args,
      Keeps W (tool.fn worldUrl actorId args)) (name : String) (args : Dict String Json) :
    Keeps (OnWorlds W) ((buildExecutor tools declared granted worldUrl actorId
      (concurrencyHook provider concurrency)).execute name args) := by
  have trans : ∀ a b c : ExecutorState ω, OnWorlds W a b → OnWorlds W b c → OnWorlds W a c := fun _ _ _ => kept.trans _ _ _
  refine keeps_execute trans ?_ ?_ (keeps_hook kept concurrency) name args
  · intro s s' world _
    show W s.world s'.world
    rw [world]
    exact kept.refl s.world
  · exact fun tool member offers args s => runs tool member offers _ _ args s.world

theorem agentEnvironment_keeps [PyText] {root : String} {x : Executor ω}
    (runs : ∀ name args, Keeps (OnWorlds W) (x.execute name args)) :
    WorldClosed (agentEnvironment outside root x) (OnWorlds W) where
  refl s := kept.refl s.world
  trans _ _ _ := kept.trans _ _ _
  elapsed s := kept.elapsed s.world
  complete messages tools s := kept.complete messages tools s.world
  execute name arguments s := runs name arguments { s with emitted := [] }

/-- A step of the session, from worlds related to a first one to worlds related to it. -/
abbrev FromWorld {α : Type} (W : ω → ω → Prop) (w : ω) (m : Steps String (RunState ω) α) : Prop :=
  Triple (fun s => W w s.world) m (fun _ s => W w s.world) (fun _ s => W w s.world)

variable {w : ω}

omit kept in
theorem fromWorld_of {α : Type} {m : Steps String (RunState ω) α} (trans : ∀ a b c, W a b → W b c → W a c)
    (keeps : Keeps (fun s s' => W s.world s'.world) m) : FromWorld W w m :=
  triple_of_keeps keeps fun _ _ => trans _ _ _

theorem runAgent_fromWorld [PyText] {tools : List (RawTool ω)} {granted : List String} {worldUrl actorId root : String}
    {concurrency : Option Json} {task : Task} {package : AgentPackage}
    (runs : ∀ tool ∈ tools, offered granted declared tool = true → ∀ worldUrl actorId args,
      Keeps W (tool.fn worldUrl actorId args)) :
    FromWorld W w (runAgent outside task package root (buildExecutor tools declared granted worldUrl actorId
      (concurrencyHook provider concurrency))) := by
  generalize built : buildExecutor tools declared granted worldUrl actorId (concurrencyHook provider concurrency) = x
  refine fromWorld_of kept.trans fun s => ?_
  rw [runAgent, outcome_ofFn]
  generalize ran : Runtime.run (agentEnvironment outside root x) ⟨task.goal, task.actorId⟩ package s.tracker
    ⟨s.world, false, none, []⟩ s.events = ended
  subst built
  obtain ⟨answer, session⟩ := ended
  have confined := (run_confined (agentEnvironment_keeps kept (keeps_execute_offered kept runs)) ran).1
  dsimp only
  split <;> exact confined

theorem useWorld_fromWorld [PyText] (task : Task) {package : AgentPackage} (declares : package.declaredCapabilities = declared) :
    FromWorld W w (useWorld outside provider task package) := by
  subst declares
  have lifted : ∀ {α : Type} (a : Except String α), FromWorld W w (lift a) := fun a =>
    fromWorld_of kept.trans fun s => kept.refl s.world
  have inside : ∀ {α : Type} {m : Steps String ω α}, Keeps W m → FromWorld W w (inWorld m) := fun keeps =>
    fromWorld_of kept.trans fun s => keeps s.world
  unfold useWorld
  refine triple_bind (Q := fun granted s => W w s.world ∧ ∃ w₀, (provider.capabilities.outcome w₀).1 = .ok granted) ?_
    fun granted => ?_
  · intro s start
    have keeps := kept.trans _ _ _ start (kept.capabilities s.world)
    rw [inWorld, outcome_zoom]
    cases answered : (provider.capabilities.outcome s.world).1 with
    | error e => exact keeps
    | ok granted => exact ⟨keeps, s.world, answered⟩
  · intro s both
    obtain ⟨start, w₀, grants⟩ := both
    refine triple_bind (lifted _) (fun root => ?_) s start
    refine triple_bind (Q := fun _ s => W w s.world) (fun _ => id) fun s => triple_bind (lifted _) fun worldUrl => ?_
    refine triple_bind (Q := fun tools s => W w s.world ∧ ∀ tool ∈ tools,
      offered granted package.declaredCapabilities tool = true → ∀ worldUrl actorId args,
        Keeps W (tool.fn worldUrl actorId args)) ?_ fun tools => ?_
    · intro s start
      have keeps := kept.trans _ _ _ start (kept.listTools root s.world)
      rw [inWorld, outcome_zoom]
      cases listed : (outside.listTools root).outcome s.world with
      | mk answer world =>
        rw [listed] at keeps
        cases answer with
        | error e => exact keeps
        | ok tools => exact ⟨keeps, kept.tools listed grants⟩
    · intro s both
      obtain ⟨start, runs⟩ := both
      refine triple_bind (runAgent_fromWorld kept runs) (fun result => ?_) s start
      refine triple_bind (inside kept.snapshot) fun final => ?_
      refine triple_bind (Q := fun _ s => W w s.world) (triple_modify fun s => id) fun _ => ?_
      exact triple_pure fun _ => id

end Kept

end Session

/-! ### The verdict -/

section Worlds

variable {ω : Type} {outside : Outside ω} {refuse : VerificationResult → Option String} {task : Task}

/-- The worlds of two states of a run, and what was captured of them, are the same. -/
def SameWorld (s s' : RunState ω) : Prop := s'.world = s.world ∧ s'.finalSnapshot = s.finalSnapshot

theorem SameWorld.refl (s : RunState ω) : SameWorld s s := ⟨rfl, rfl⟩

theorem SameWorld.trans (a b c : RunState ω) (first : SameWorld a b) (later : SameWorld b c) : SameWorld a c :=
  ⟨later.1.trans first.1, later.2.trans first.2⟩

theorem emitAssertions_world (assertions : List AssertionResult) :
    Keeps SameWorld (emitAssertions assertions : Steps Failure (RunState ω) Unit) := by
  induction assertions with
  | nil => exact keeps_pure .refl ()
  | cons a assertions ih => exact keeps_bind SameWorld.trans (fun s => .refl s) fun _ => ih

/-- A verdict is reached without the world. -/
theorem judgeRecorded_world {initial final : WorldSnapshot} {result : RuntimeResult} :
    Keeps SameWorld (judgeRecorded outside refuse task initial final result) := by
  have emits : ∀ v, Keeps SameWorld (emitVerdict refuse v : Steps Failure (RunState ω) Unit) := by
    intro v
    unfold emitVerdict
    split
    · exact keeps_bind SameWorld.trans (emitAssertions_world _) fun _ s => .refl s
    · exact keeps_bind SameWorld.trans (emitAssertions_world _) fun _ => keeps_throw .refl _
  have verifies : Keeps SameWorld (verifyRecorded outside refuse task initial final) := by
    refine keeps_bind SameWorld.trans (keeps_get .refl) fun s => ?_
    refine keeps_bind SameWorld.trans (keeps_lift .refl _) fun v => ?_
    exact keeps_bind SameWorld.trans (emits v) fun _ => keeps_pure .refl v
  unfold judgeRecorded
  split
  · exact keeps_bind SameWorld.trans verifies fun _ => keeps_pure .refl _
  · split
    · exact keeps_bind SameWorld.trans verifies fun _ => keeps_pure .refl _
    · exact keeps_pure .refl _

end Worlds

end AgentGym.Runner
