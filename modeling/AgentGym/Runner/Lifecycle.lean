import AgentGym.Runner.Run
import AgentGym.Runtime.Confined

/-!
# The lifecycle of a world

A log is kept of every operation of the world and of the loading of the tools, with
whether it raised. A session starts the world once, stops it exactly if it started, and
ends well only if nothing that it logged raised.
-/

namespace AgentGym.Runner

open AgentGym.Runtime Steps

inductive Operation where
  | start | restore | capabilities | listTools | humanEdit | snapshot | stop
  deriving DecidableEq

structure WorldCall where
  operation : Operation
  succeeded : Bool
  deriving DecidableEq

abbrev Logged (ω : Type) := ω × List WorldCall

section Logged

variable {ω α : Type}

/-- The operation, with its outcome at the end of the log. -/
def logged (operation : Operation) (m : Steps String ω α) : Steps String (Logged ω) α := ofFn fun w =>
  ((m.outcome w.1).1, (m.outcome w.1).2, w.2 ++ [⟨operation, (m.outcome w.1).1.isOk⟩])

/-- The step, which leaves the log alone. -/
def unlogged (m : Steps String ω α) : Steps String (Logged ω) α := zoom Prod.fst (fun world w => (world, w.2)) m

def WorldProvider.logged (provider : WorldProvider ω) : WorldProvider (Logged ω) where
  start := Runner.logged .start provider.start
  restore snapshot := Runner.logged .restore (provider.restore snapshot)
  snapshot := Runner.logged .snapshot provider.snapshot
  capabilities := Runner.logged .capabilities provider.capabilities
  stop := Runner.logged .stop provider.stop
  worldUrl w := provider.worldUrl w.1
  humanEdit := provider.humanEdit.map fun edit pageId actor body => Runner.logged .humanEdit (edit pageId actor body)

def RawTool.unlogged (tool : RawTool ω) : RawTool (Logged ω) :=
  ⟨tool.description, fun worldUrl actorId args => Runner.unlogged (tool.fn worldUrl actorId args)⟩

def Outside.logged (outside : Outside ω) : Outside (Logged ω) where
  elapsed w := ((outside.elapsed w.1).1, (outside.elapsed w.1).2, w.2)
  complete messages tools w :=
    ((outside.complete messages tools w.1).1, (outside.complete messages tools w.1).2, w.2)
  readSnapshot := outside.readSnapshot
  packageRoot := outside.packageRoot
  readArtifact := outside.readArtifact
  listTools root := (List.map RawTool.unlogged) <$> Runner.logged .listTools (outside.listTools root)
  verify := outside.verify

/-! ### Steps and the log -/

/-- The step ends with its outcome in the log. -/
def Logs (operation : Operation) (m : Steps String (Logged ω) α) : Prop :=
  ∀ w, (m.outcome w).2.2 = w.2 ++ [⟨operation, (m.outcome w).1.isOk⟩]

def Quiet (m : Steps String (Logged ω) α) : Prop := ∀ w, (m.outcome w).2.2 = w.2

theorem logs_logged (operation : Operation) (m : Steps String ω α) : Logs operation (logged operation m) := fun _ => rfl

theorem quiet_unlogged (m : Steps String ω α) : Quiet (unlogged m) := fun _ => rfl

theorem logs_listTools (outside : Outside ω) (root : String) : Logs .listTools (outside.logged.listTools root) := by
  intro w
  simp only [Outside.logged, outcome_map, logged, outcome_ofFn]
  cases ((outside.listTools root).outcome w.1).1 <;> rfl

theorem quiet_tools {outside : Outside ω} {root : String} {w w' : Logged ω} {tools : List (RawTool (Logged ω))}
    (listed : (outside.logged.listTools root).outcome w = (.ok tools, w')) :
    ∀ tool ∈ tools, ∀ worldUrl actorId args, Quiet (tool.fn worldUrl actorId args) := by
  simp only [Outside.logged, outcome_map, logged, outcome_ofFn] at listed
  obtain ⟨answer, -⟩ := Prod.mk.inj listed
  cases found : ((outside.listTools root).outcome w.1).1 with
  | error e =>
    rw [found] at answer
    cases answer
  | ok raw =>
    rw [found] at answer
    obtain rfl := Except.ok.inj answer
    intro tool member worldUrl actorId args
    obtain ⟨_, -, rfl⟩ := List.mem_map.mp member
    exact quiet_unlogged _

/-! ### The executor and the log -/

/-- The log gained human edits alone, and one that raised left its error behind. -/
structure Edits (s s' : ExecutorState (Logged ω)) : Prop where
  kept : s.infrastructureError.isSome = true → s'.infrastructureError.isSome = true
  log : ∃ new, s'.world.2 = s.world.2 ++ new ∧ (∀ c ∈ new, c.operation = .humanEdit) ∧
    ((∃ c ∈ new, c.succeeded = false) → s'.infrastructureError.isSome = true)

theorem Edits.of_same {s s' : ExecutorState (Logged ω)} (error : s'.infrastructureError = s.infrastructureError)
    (log : s'.world.2 = s.world.2) : Edits s s' :=
  ⟨fun some => error ▸ some, [], by simp [log], by simp, by simp⟩

theorem Edits.refl (s : ExecutorState (Logged ω)) : Edits s s := .of_same rfl rfl

theorem Edits.trans (a b c : ExecutorState (Logged ω)) (first : Edits a b) (later : Edits b c) : Edits a c := by
  obtain ⟨kept, new, log, edits, failed⟩ := first
  obtain ⟨kept', new', log', edits', failed'⟩ := later
  refine ⟨kept' ∘ kept, new ++ new', by rw [log', log, List.append_assoc], ?_, ?_⟩
  · intro call member
    exact (List.mem_append.mp member).elim (edits call) (edits' call)
  · rintro ⟨call, member, raised⟩
    exact (List.mem_append.mp member).elim (fun inside => kept' (failed ⟨call, inside, raised⟩))
      fun inside => failed' ⟨call, inside, raised⟩

/-- A hook that adds human edits to the log, and raises when one of them did. -/
def HookEdits (hook : Exec (Logged ω) Unit) : Prop :=
  ∀ s, (hook.outcome s).2.infrastructureError = s.infrastructureError ∧
    ∃ new, (hook.outcome s).2.world.2 = s.world.2 ++ new ∧ (∀ c ∈ new, c.operation = .humanEdit) ∧
      ((∃ c ∈ new, c.succeeded = false) → (hook.outcome s).1.isOk = false)

theorem fire_edits (provider : WorldProvider ω) (pageId actor body : String) :
    HookEdits (fire provider.logged pageId actor body) := by
  intro s
  unfold fire
  cases supported : provider.humanEdit with
  | none =>
    simp only [WorldProvider.logged, supported, Option.map_none]
    exact ⟨rfl, [], by simp [outcome_bind, report], by simp, by simp⟩
  | some edit =>
    simp only [WorldProvider.logged, supported, Option.map_some, outcome_bind, outcome_modify, report, outcome_mapError,
      onWorld, outcome_zoom, logged, outcome_ofFn]
    cases answered : ((edit pageId actor body).outcome s.world.1).1 with
    | ok response =>
      exact ⟨rfl, [⟨.humanEdit, true⟩], rfl, by simp, by simp⟩
    | error e =>
      exact ⟨rfl, [⟨.humanEdit, false⟩], rfl, by simp, fun _ => rfl⟩

theorem concurrencyHook_edits (provider : WorldProvider ω) (concurrency : Option Json) (name : String)
    (args : Dict String Json) (result : ToolResult) :
    HookEdits (concurrencyHook provider.logged concurrency name args result) := by
  have nothing : HookEdits (pure () : Exec (Logged ω) Unit) := fun s => ⟨rfl, [], by simp, by simp, by simp⟩
  intro s
  unfold concurrencyHook
  rw [outcome_bind, outcome_get]
  dsimp only
  split
  · split
    · exact nothing s
    · exact fire_edits provider _ _ _ s
  · exact nothing s

section Calls

variable [PyText] {x : Executor (Logged ω)}

omit [PyText] in
theorem hooked_edits (hooks : ∀ name args result, HookEdits (x.afterSuccess name args result)) (name : String)
    (args : Dict String Json) (result : ToolResult) : Keeps Edits (hooked x name args result) := by
  intro s
  obtain ⟨error, new, log, edits, failed⟩ := hooks name args result s
  unfold hooked
  rw [outcome_bind, outcome_attempt]
  dsimp only
  cases answered : ((x.afterSuccess name args result).outcome s).1 with
  | ok u =>
    refine ⟨fun some => error ▸ some, new, log, edits, ?_⟩
    intro raised
    rw [answered] at failed
    cases failed raised
  | error e => exact ⟨fun _ => rfl, new, log, edits, fun _ => rfl⟩

theorem execute_edits (hooks : ∀ name args result, HookEdits (x.afterSuccess name args result))
    (quiet : ∀ name function, x.functions.get? name = some function → ∀ args, Quiet (function x.worldUrl x.actorId args))
    (name : String) (args : Dict String Json) : Keeps Edits (x.execute name args) := by
  have reports : ∀ isRequest actor payload, Keeps Edits (report isRequest actor payload : Exec (Logged ω) Unit) :=
    fun _ _ _ s => .of_same rfl rfl
  have pures : ∀ result : ToolResult, Keeps Edits (pure result : Exec (Logged ω) ToolResult) :=
    fun result => keeps_pure Edits.refl result
  unfold Executor.execute
  split
  · exact pures _
  · rename_i function found
    have ran : Keeps Edits (attempt (onWorld (function x.worldUrl x.actorId args))) := fun s =>
      .of_same rfl (quiet name function found args s.world)
    refine keeps_bind Edits.trans (reports _ _ _) fun _ => keeps_bind Edits.trans ran fun answer => ?_
    split
    · refine keeps_bind Edits.trans (hooked_edits hooks _ _ _) fun result => ?_
      exact keeps_bind Edits.trans (reports _ _ _) fun _ => pures _
    · exact keeps_bind Edits.trans (reports _ _ _) fun _ => pures _

/-- The agent's environment adds to the log what its executor does. -/
theorem agentEnvironment_edits {outside : Outside ω} {root : String} (kept : ∀ name args, Keeps Edits (x.execute name args)) :
    WorldClosed (agentEnvironment outside.logged root x) Edits where
  refl := Edits.refl
  trans := Edits.trans
  elapsed _ := .of_same rfl rfl
  complete _ _ _ := .of_same rfl rfl
  execute name arguments s :=
    Edits.trans s { s with emitted := [] } _ (.of_same rfl rfl) (kept name arguments { s with emitted := [] })

/-! ### The session -/

/-- Events of the agent and calls inside the session were added; none of the calls raised if all is well. -/
structure Within (well : Prop) (base : TrajectoryRecorder) (log : List WorldCall) (s : RunState (Logged ω)) : Prop where
  events : Extends agentTypes base s.events
  log : ∃ new, s.world.2 = log ++ new ∧ (∀ c ∈ new, c.operation ≠ .start ∧ c.operation ≠ .stop) ∧
    (well → ∀ c ∈ new, c.succeeded = true)

variable {base : TrajectoryRecorder} {log : List WorldCall}

omit [PyText] in
theorem Within.weaken {well : Prop} {s : RunState (Logged ω)} (within : Within well base log s) : Within False base log s := by
  obtain ⟨events, new, same, inner, -⟩ := within
  exact ⟨events, new, same, inner, False.elim⟩

omit [PyText] in
theorem Within.call {s : RunState (Logged ω)} (within : Within True base log s) {operation : Operation}
    (inner : operation ≠ .start ∧ operation ≠ .stop) {succeeded : Bool} {world : Logged ω}
    (added : world.2 = s.world.2 ++ [⟨operation, succeeded⟩]) :
    Within (succeeded = true) base log { s with world := world } := by
  obtain ⟨events, new, same, inside, well⟩ := within
  refine ⟨events, new ++ [⟨operation, succeeded⟩], ?_, ?_, ?_⟩
  · rw [added, same, List.append_assoc]
  · intro c member
    rcases List.mem_append.mp member with old | last
    · exact inside c old
    · obtain rfl := List.mem_singleton.mp last
      exact inner
  · intro fine c member
    rcases List.mem_append.mp member with old | last
    · exact well trivial c old
    · obtain rfl := List.mem_singleton.mp last
      exact fine

omit [PyText] in
theorem inWorld_within {α : Type} {m : Steps String (Logged ω) α} {operation : Operation} (logs : Logs operation m)
    (inner : operation ≠ .start ∧ operation ≠ .stop) :
    Triple (Within True base log) (inWorld m) (fun _ => Within True base log) (fun _ => Within False base log) := by
  intro s within
  have added := within.call inner (logs s.world)
  rw [inWorld, outcome_zoom]
  cases answered : (m.outcome s.world).1 with
  | ok a =>
    rw [answered] at added
    exact ⟨added.events, added.log.imp fun _ h => ⟨h.1, h.2.1, fun _ => h.2.2 rfl⟩⟩
  | error e => exact added.weaken

omit [PyText] in
theorem lift_within {α : Type} (a : Except String α) :
    Triple (Within True base log) (lift a : Steps String (RunState (Logged ω)) α) (fun _ => Within True base log)
      (fun _ => Within False base log) := by
  intro s within
  rw [outcome_lift]
  cases a with
  | ok a => exact within
  | error e => exact within.weaken

theorem runAgent_within {outside : Outside ω} {task : Task} {package : AgentPackage} {root : String}
    (kept : ∀ name args, Keeps Edits (x.execute name args)) :
    Triple (Within True base log) (runAgent outside.logged task package root x) (fun _ => Within True base log)
      (fun _ => Within False base log) := by
  intro s within
  obtain ⟨events, old, same, inside, well⟩ := within
  rw [runAgent, outcome_ofFn]
  generalize ran : Runtime.run (agentEnvironment outside.logged root x) ⟨task.goal, task.actorId⟩ package s.tracker
    ⟨s.world, false, none, []⟩ s.events = ended
  obtain ⟨answer, session⟩ := ended
  obtain ⟨edits, added⟩ := run_confined (agentEnvironment_edits kept) ran
  obtain ⟨-, new, grown, human, failed⟩ := edits
  have extended : Extends agentTypes base session.events := events.trans added
  have logged : session.world.world.2 = log ++ (old ++ new) := by rw [grown, same, List.append_assoc]
  have inner : ∀ c ∈ old ++ new, c.operation ≠ .start ∧ c.operation ≠ .stop := by
    intro c member
    rcases List.mem_append.mp member with before | edit
    · exact inside c before
    · rw [human c edit]
      exact ⟨by decide, by decide⟩
  dsimp only
  split
  · exact ⟨extended, _, logged, inner, False.elim⟩
  · exact ⟨extended, _, logged, inner, False.elim⟩
  · rename_i clean
    refine ⟨extended, _, logged, inner, fun _ c member => ?_⟩
    rcases List.mem_append.mp member with before | edit
    · exact well trivial c before
    · cases outcome : c.succeeded with
      | true => rfl
      | false =>
        have left := failed ⟨c, edit, outcome⟩
        rw [clean] at left
        cases left

variable {outside : Outside ω} {provider : WorldProvider ω} {task : Task} {package : AgentPackage}

omit [PyText] in
theorem listTools_within (root : String) :
    Triple (Within True base log) (inWorld (outside.logged.listTools root))
      (fun tools s => Within True base log s ∧
        ∀ tool ∈ tools, ∀ worldUrl actorId args, Quiet (tool.fn worldUrl actorId args))
      (fun _ => Within False base log) := by
  intro s within
  have ran := inWorld_within (logs_listTools outside root) ⟨by decide, by decide⟩ s within
  rw [inWorld, outcome_zoom] at ran ⊢
  cases listed : (outside.logged.listTools root).outcome s.world with
  | mk answer world =>
    rw [listed] at ran
    cases answer with
    | ok tools => exact ⟨ran, quiet_tools listed⟩
    | error e => exact ran

theorem buildExecutor_edits {tools : List (RawTool (Logged ω))} {declared granted : List String} {worldUrl actorId : String}
    {concurrency : Option Json} (quiet : ∀ tool ∈ tools, ∀ worldUrl actorId args, Quiet (tool.fn worldUrl actorId args))
    (name : String) (args : Dict String Json) :
    Keeps Edits ((buildExecutor tools declared granted worldUrl actorId
      (concurrencyHook provider.logged concurrency)).execute name args) := by
  apply execute_edits
  · exact concurrencyHook_edits provider concurrency
  · intro name function found args
    rcases Dict.get?_update_eq_some found with none | inside
    · cases none
    · obtain ⟨tool, member, same⟩ := List.mem_map.mp inside
      obtain ⟨-, rfl⟩ := Prod.mk.inj same
      exact quiet tool (List.mem_filter.mp member).1 _ _ args

theorem useWorld_within :
    Triple (Within True base log) (useWorld outside.logged provider.logged task package)
      (fun answer s => Within True base log s ∧ s.finalSnapshot = some answer.2) (fun _ => Within False base log) := by
  have reading : Triple (Within True base log) (get : Steps String (RunState (Logged ω)) _) (fun _ => Within True base log)
      (fun _ => Within False base log) := fun _ within => within
  unfold useWorld
  refine triple_bind (inWorld_within (logs_logged .capabilities _) ⟨by decide, by decide⟩) fun granted => ?_
  refine triple_bind (lift_within _) fun root => ?_
  refine triple_bind reading fun s => ?_
  refine triple_bind (lift_within _) fun worldUrl => ?_
  refine triple_bind (listTools_within root) fun tools => ?_
  refine triple_bind (Q := fun _ => Within True base log) ?_ fun result => ?_
  · intro s both
    exact runAgent_within (buildExecutor_edits both.2) s both.1
  · refine triple_bind (inWorld_within (logs_logged .snapshot _) ⟨by decide, by decide⟩) fun final => ?_
    refine triple_bind (Q := fun _ s => Within True base log s ∧ s.finalSnapshot = some final) ?_ fun _ => ?_
    · exact triple_modify fun s within => ⟨⟨within.events, within.log⟩, rfl⟩
    · exact triple_pure fun s => id

/-- What a session does to the log: no more than a start that raised, or calls between a start and one stop. -/
inductive SessionLog (well : Prop) : List WorldCall → Prop
  | refused (failed : ¬ well) : SessionLog well [⟨.start, false⟩]
  | stopped {inside : List WorldCall} {succeeded : Bool}
      (inner : ∀ c ∈ inside, c.operation ≠ .start ∧ c.operation ≠ .stop)
      (all : well → succeeded = true ∧ ∀ c ∈ inside, c.succeeded = true) :
      SessionLog well (⟨.start, true⟩ :: inside ++ [⟨.stop, succeeded⟩])

/-- A session between its start and its stop. -/
def sessionBody (outside : Outside ω) (provider : WorldProvider ω) (task : Task) (package : AgentPackage)
    (initial : WorldSnapshot) : Steps String (RunState ω) (RuntimeResult × WorldSnapshot) := do
  inWorld (provider.restore initial)
  useWorld outside provider task package

theorem sessionBody_within {initial : WorldSnapshot} :
    Triple (Within True base log) (sessionBody outside.logged provider.logged task package initial)
      (fun answer s => Within True base log s ∧ s.finalSnapshot = some answer.2) (fun _ => Within False base log) :=
  triple_bind (inWorld_within (logs_logged .restore _) ⟨by decide, by decide⟩) fun _ => useWorld_within

theorem worldSession_log {initial : WorldSnapshot} {s s' : RunState (Logged ω)}
    {answer : Except String (RuntimeResult × WorldSnapshot)}
    (ran : (worldSession outside.logged provider.logged task package initial).outcome s = (answer, s')) :
    Extends agentTypes s.events s'.events ∧ (∃ added, s'.world.2 = s.world.2 ++ added ∧ SessionLog (answer.isOk = true) added) ∧
      ∀ result final, answer = .ok (result, final) → s'.finalSnapshot = some final := by
  have unfolded : worldSession outside.logged provider.logged task package initial =
      inWorld (logged .start provider.start) >>= fun _ =>
        andFinally (sessionBody outside.logged provider.logged task package initial) (inWorld (logged .stop provider.stop)) :=
    rfl
  rw [unfolded, outcome_bind, inWorld, outcome_zoom] at ran
  simp only [logged, outcome_ofFn] at ran
  cases began : (provider.start.outcome s.world.1).1 with
  | error e =>
    rw [began] at ran
    obtain ⟨rfl, rfl⟩ := Prod.mk.inj ran
    exact ⟨.refl _ _, ⟨_, rfl, .refused (by simp [Except.isOk, Except.toBool])⟩, by simp⟩
  | ok u =>
    rw [began] at ran
    dsimp only at ran
    generalize beginning : ({ s with world := _ } : RunState (Logged ω)) = s₁ at ran
    have fresh : Within True s.events (s.world.2 ++ [⟨.start, true⟩]) s₁ := by
      subst beginning
      exact ⟨.refl _ _, [], by simp [Except.isOk, Except.toBool], by simp, by simp⟩
    have body : Ends _ _ ((sessionBody outside.logged provider.logged task package initial).outcome s₁) :=
      sessionBody_within s₁ fresh
    simp only [andFinally, outcome_ofFn, inWorld, outcome_zoom] at ran
    generalize (sessionBody outside.logged provider.logged task package initial).outcome s₁ = used at ran body
    obtain ⟨left, s₂⟩ := used
    -- what the body left behind, whether or not it raised
    have kept : Within (left.isOk = true) s.events (s.world.2 ++ [⟨.start, true⟩]) s₂ ∧
        ∀ result final, left = .ok (result, final) → s₂.finalSnapshot = some final := by
      cases left with
      | ok answer =>
        obtain ⟨within, captured⟩ := body
        refine ⟨⟨within.events, within.log.imp fun _ h => ⟨h.1, h.2.1, fun _ => h.2.2 trivial⟩⟩, ?_⟩
        intro result final same
        obtain rfl := Except.ok.inj same
        exact captured
      | error e =>
        refine ⟨⟨body.events, body.log.imp fun _ h => ⟨h.1, h.2.1, ?_⟩⟩, ?_⟩
        · intro fine
          cases fine
        · intro result final same
          cases same
    obtain ⟨⟨events, inside, grown, inner, well⟩, final⟩ := kept
    cases ended : (provider.stop.outcome s₂.world.1).1 with
    | ok u =>
      rw [ended] at ran
      obtain ⟨rfl, rfl⟩ := Prod.mk.inj ran
      refine ⟨events, ⟨⟨.start, true⟩ :: inside ++ [⟨.stop, true⟩], ?_, .stopped inner fun fine => ⟨rfl, well fine⟩⟩, final⟩
      simp [grown, Except.isOk, Except.toBool]
    | error e =>
      rw [ended] at ran
      obtain ⟨rfl, rfl⟩ := Prod.mk.inj ran
      refine ⟨events, ⟨⟨.start, true⟩ :: inside ++ [⟨.stop, false⟩], ?_, .stopped inner ?_⟩, ?_⟩
      · simp [grown, Except.isOk, Except.toBool]
      · intro fine
        cases fine
      · intro result final same
        cases same

end Calls

end Logged

end AgentGym.Runner
