import AgentGym.Runner.Session
import AgentGym.World.InProcess

/-!
# Runs in a process world

The provider of a process world serves the runner. A run leaves no child of its provider
behind, whatever the agent, the tools and the verifier do, and whatever raises.
-/

namespace AgentGym.Runner

open AgentGym.Runtime Steps World

/-! ### The provider -/

section Provided

variable [PyText] (around : Surroundings) (provider : ProcessWorldProvider)

/-- The process world as the runner uses it. -/
def providedWorld : WorldProvider ProcessState where
  start := mapError ProviderError.text (provider.start around)
  restore snap := mapError ProviderError.text (provider.restore around snap)
  snapshot := mapError ProviderError.text (provider.snapshot around)
  capabilities := mapError ProviderError.text ((fun granted => granted.map Capability.id) <$> provider.capabilities)
  stop := mapError ProviderError.text (ProcessWorldProvider.stop around)
  worldUrl s :=
    match s.baseUrl with
    | some url => .ok url.text
    | none => .error notStarted.text
  humanEdit := some fun pageId actor body => mapError ProviderError.text (provider.humanEdit around pageId actor body)

/-- No child runs, of the provider or any other. -/
def Down (provider : ProcessWorldProvider) (s : ProcessState) : Prop := Supervised provider s ∧ s.host.AllEnded

/-- The model, the clock and the tools start no children, and take nothing from the provider. -/
structure Bystander (outside : Outside ProcessState) : Prop where
  elapsed : ∀ s : ProcessState, s.Later (outside.elapsed s).2
  complete : ∀ messages tools (s : ProcessState), s.Later (outside.complete messages tools s).2
  listTools : ∀ root, Keeps ProcessState.Later (outside.listTools root)
  tools : ∀ {root s tools s'}, (outside.listTools root).outcome s = (.ok tools, s') → ∀ tool ∈ tools,
    ∀ worldUrl actorId args, Keeps ProcessState.Later (tool.fn worldUrl actorId args)

variable {around provider} {outside : Outside ProcessState}

theorem Bystander.sessionKeeps (h : Bystander outside) (declared : List String) :
    SessionKeeps outside (providedWorld around provider) declared ProcessState.Later where
  refl := .refl
  trans := ProcessState.Later.trans
  elapsed := h.elapsed
  complete := h.complete
  snapshot := keeps_mapError (provider.snapshot_keeps around)
  capabilities := by
    refine keeps_mapError (keeps_bind ProcessState.Later.trans ?_ fun _ => keeps_pure .refl _)
    exact keeps_pure .refl provider.declaredCapabilities
  humanEdit := by
    rintro edit supported pageId actor body
    obtain rfl := Option.some.inj supported
    exact keeps_mapError (provider.humanEdit_keeps around pageId actor body)
  listTools := h.listTools
  tools listed _ tool member _ := h.tools listed tool member

variable {refuse : VerificationResult → Option String} {task : Task} {package : AgentPackage}

theorem worldSession_down (h : Bystander outside) (initial : WorldSnapshot) :
    Triple (fun s : RunState ProcessState => Down provider s.world)
      (worldSession outside (providedWorld around provider) task package initial)
      (fun _ s => Down provider s.world) (fun _ s => Down provider s.world) := by
  have kept : SessionKeeps outside (providedWorld around provider) package.declaredCapabilities ProcessState.Later :=
    h.sessionKeeps _
  have starts : Triple (fun s : RunState ProcessState => Down provider s.world)
      (inWorld (providedWorld around provider).start) (fun _ s => Supervised provider s.world)
      (fun _ s => Down provider s.world) := by
    intro s down
    have started := ProcessWorldProvider.start_supervised around s.world down.1
    simp only [inWorld, providedWorld, outcome_zoom, outcome_mapError]
    generalize (provider.start around).outcome s.world = starting at started ⊢
    obtain ⟨_ | _, _⟩ := starting <;> exact started
  have stops : Triple (fun s : RunState ProcessState => Supervised provider s.world)
      (inWorld (providedWorld around provider).stop) (fun _ s => Down provider s.world)
      (fun _ s => Down provider s.world) := by
    intro s supervised
    simp only [inWorld, providedWorld, outcome_zoom, outcome_mapError, ProcessWorldProvider.stop_outcome]
    have stopped : Stopped ⟨none, none, none, ProcessWorldProvider.stoppedHost around s.world⟩ :=
      ⟨ProcessWorldProvider.stoppedHost_ended around supervised, rfl, rfl, rfl⟩
    exact ⟨stopped.supervised, stopped.ended⟩
  refine triple_bind starts fun _ => triple_andFinally ?_ stops
  intro s supervised
  have restores : FromWorld ProcessState.Later s.world
      (inWorld ((providedWorld around provider).restore initial)) :=
    fromWorld_of ProcessState.Later.trans fun s => provider.restore_keeps around initial s.world
  have body := triple_bind restores (fun _ => useWorld_fromWorld kept task rfl) s (.refl _)
  generalize outcome _ s = x at body ⊢
  obtain ⟨_ | _, s'⟩ := x <;> exact supervised.later body

/-- A run that begins with no child of its provider ends with none. -/
theorem run_leaves_no_child (h : Bystander outside) {s : ProcessState} (down : Down provider s) (budget : ExecutionBudget) :
    Down provider (runRecorded outside refuse (providedWorld around provider) task package budget s).2.world := by
  have executes : Triple (fun s : RunState ProcessState => Down provider s.world)
      (executionRecorded outside refuse (providedWorld around provider) task package)
      (fun _ s => Down provider s.world) (fun _ s => Down provider s.world) := by
    refine triple_bind (Q := fun _ s => Down provider s.world) ?_ fun initial => ?_
    · exact triple_of_keeps (keeps_lift .refl _) fun s s' down (same : SameWorld s s') => same.1 ▸ down
    · refine triple_bind (triple_mapError (worldSession_down h initial) fun _ _ => id) fun used => ?_
      exact triple_of_keeps judgeRecorded_world fun s s' down (same : SameWorld s s') => same.1 ▸ down
  have ended := executes (started task package budget s) down
  unfold runRecorded
  generalize outcome _ _ = x at ended ⊢
  obtain ⟨answer, s'⟩ := x
  have still : Down provider s'.world := by cases answer <;> exact ended
  exact ⟨still.1.later (h.elapsed s'.world), still.2.later (h.elapsed s'.world).host⟩

end Provided

/-! ### A run over a served world -/

/-- Surroundings in which everything is had at once and gets through. -/
def smooth : Surroundings where
  snapshotFile _ := some (.ok (snapshotDump ⟨"s", "confluence", "1", "t", .empty⟩))
  reserve _ := .ok 8000
  spawn _ := .ok ()
  fate _ _ := .listens
  heeds _ := some 0
  takes _ := 1
  delivery _ := .answered
  refused _ := "connection refused"
  statusError status := s!"status {status}"
  timestamp _ := "2026-01-01T00:00:00Z"

def homeProvider : ProcessWorldProvider := ⟨"snapshot.json", defaultCapabilities, "key", 10000, by decide⟩

/-- A tool that reads a page from the raw API of the served world. -/
def pageReader : RawTool ProcessState where
  description := ⟨"get_page", "", .obj []⟩
  fn _ actorId _ :=
    let _ := asciiText
    mapError ProviderError.text ((fun _ => .obj []) <$> World.useWorld smooth homeProvider (.request (some actorId) (.getPage "page-1")))

/-- A model that is done at once, beside one tool. -/
def idle : Outside ProcessState where
  elapsed s := (0, s)
  complete _ _ s := (.response ⟨some "done", [], none, none⟩, s)
  readSnapshot _ := .ok ⟨"s", "confluence", "1", "t", .empty⟩
  packageRoot _ := .ok "packages/baseline"
  readArtifact _ _ _ := .ok ""
  listTools _ := pure [pageReader]
  verify _ _ _ _ := .ok ⟨true, 1, [], true, true, true, []⟩

theorem idle_bystander : Bystander idle where
  elapsed s := .refl s
  complete _ _ s := .refl s
  listTools _ := keeps_pure .refl _
  tools := by
    intro root s tools s' listed tool member worldUrl actorId args
    obtain rfl := Except.ok.inj (congrArg Prod.fst listed)
    obtain rfl := List.mem_singleton.mp member
    have called := @useWorld_keeps asciiText smooth homeProvider (.request (some actorId) (.getPage "page-1"))
    exact keeps_mapError (keeps_bind ProcessState.Later.trans called fun _ => keeps_pure .refl _)

theorem run_leaves_no_child_idle :
    Down homeProvider (@runRecorded asciiText _ idle (fun _ => none) (@providedWorld asciiText smooth homeProvider)
      ⟨"t", "s", "train", "Say hello.", "bob", "s.json", "v", .empty⟩ ⟨"baseline", [], [], []⟩ {} (unstarted 0 0)).2.world :=
  @run_leaves_no_child asciiText smooth homeProvider idle (fun _ => none) _ _ idle_bystander _ ⟨(unstarted_stopped 0 0).supervised, (unstarted_stopped 0 0).ended⟩ {}

end AgentGym.Runner
