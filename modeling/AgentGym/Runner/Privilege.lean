import AgentGym.Runner.Declared
import AgentGym.Runner.HumanEdit
import AgentGym.Runner.Session
import AgentGym.World.Atomic
import AgentGym.World.Rights

/-!
# What an agent may do to its world

Whatever the model asks for, the world of a run answers only requests in the actor's name
that need nothing but what is granted and declared, and the planned human edit, once. An
agent that may not write leaves the world as that edit leaves it.
-/

namespace AgentGym.Runner

open AgentGym.Runtime Steps World

/-! ### What a request needs -/

/-- A request that fails validation does nothing, and needs nothing. -/
def neededCapability : ApiCall → Option String
  | .searchPages .. => some "confluence.search"
  | .listPages .. | .getPage _ | .getPageVersions _ => some "confluence.pages.read"
  | .createPage _ | .updatePage .. => some "confluence.pages.write"
  | .malformed _ => none

/-- What a tool sends needs what the tool of that name does. -/
def Covered (name : String) (build : Dict String Json → Except String ApiCall) : Prop :=
  ∀ args apiCall, build args = .ok apiCall → neededCapability apiCall = none ∨ neededCapability apiCall = requiredCapability name

section Tools

variable [PyText] {transport : Transport}

omit [PyText] in
theorem getPath_needs {path : String} {apiCall : ApiCall} (built : getPath transport path = .ok apiCall) :
    neededCapability apiCall = some "confluence.pages.read" := by
  unfold getPath at built
  split at built <;> cases built <;> rfl

omit [PyText] in
theorem searchPages_covered : Covered "search_pages" (searchPages transport) := by
  intro args apiCall built
  unfold searchPages at built
  obtain ⟨value, -, built⟩ := bind_eq_ok_iff.mp built
  replace built := Except.ok.inj built
  split at built <;> subst built
  · exact Or.inr rfl
  · exact Or.inl rfl

theorem getPage_covered : Covered "get_page" (getPage transport) := by
  intro args apiCall built
  unfold getPage at built
  obtain ⟨value, -, built⟩ := bind_eq_ok_iff.mp built
  exact Or.inr (getPath_needs built)

theorem getPageVersions_covered : Covered "get_page_versions" (getPageVersions transport) := by
  intro args apiCall built
  unfold getPageVersions at built
  obtain ⟨value, -, built⟩ := bind_eq_ok_iff.mp built
  exact Or.inr (getPath_needs built)

omit [PyText] in
theorem createPage_covered : Covered "create_page" createPage := by
  intro args apiCall built
  unfold createPage at built
  obtain ⟨value, -, built⟩ := bind_eq_ok_iff.mp built
  replace built := Except.ok.inj built
  dsimp only at built
  repeat' split at built
  all_goals subst built
  all_goals first | exact Or.inl rfl | exact Or.inr rfl

theorem updatePage_covered : Covered "update_page" (updatePage transport) := by
  intro args apiCall built
  unfold updatePage at built
  obtain ⟨value, -, built⟩ := bind_eq_ok_iff.mp built
  extract_lets send at built
  have sent : ∀ ifVersion, send ifVersion = .ok apiCall →
      neededCapability apiCall = none ∨ neededCapability apiCall = requiredCapability "update_page" := by
    intro ifVersion sends
    simp only [send] at sends
    split at sends
    · split at sends <;> cases sends
      · exact Or.inr rfl
      · exact Or.inl rfl
    · cases sends
    · cases sends
    · cases sends
  split at built
  · exact sent none built
  · obtain ⟨header, -, built⟩ := bind_eq_ok_iff.mp built
    exact sent (some header) built

theorem baseline_covered {tool : RawTool ProcessWorld} (member : tool ∈ baselineTools transport) :
    ∃ name description build, tool = requestTool transport name description build ∧ Covered name build := by
  simp only [baselineTools, List.mem_cons, List.not_mem_nil, or_false] at member
  obtain rfl | rfl | rfl | rfl | rfl := member
  · exact ⟨_, _, _, rfl, searchPages_covered⟩
  · exact ⟨_, _, _, rfl, getPage_covered⟩
  · exact ⟨_, _, _, rfl, getPageVersions_covered⟩
  · exact ⟨_, _, _, rfl, createPage_covered⟩
  · exact ⟨_, _, _, rfl, updatePage_covered⟩

end Tools

/-! ### What the world answers -/

/-- What may reach the world in a session. -/
inductive Permitted (transport : Transport) (actorId : String) (capabilities : List String) (concurrency : Option Json) :
    Event → Prop where
  | request {actor : String} {apiCall : ApiCall} (sent : transport.header actorId = .ok actor)
      (may : ∀ capability, neededCapability apiCall = some capability → capability ∈ capabilities) :
      Permitted transport actorId capabilities concurrency (.request (some actor) apiCall)
  | humanEdit {edit : HumanEditRequest} (planned : plannedEdit concurrency = some (edit.pageId, edit.actor, edit.body)) :
      Permitted transport actorId capabilities concurrency (.humanEdit edit)

def isEdit : Event → Bool
  | .humanEdit _ => true
  | .request .. => false

section Answered

variable [PyText]

/-- The world once it has answered the events. -/
def ProcessWorld.answering (w : ProcessWorld) (events : List Event) : ProcessWorld :=
  ⟨Machine.final handle w.store events, w.served ++ Machine.trace handle w.store events⟩

theorem answering_nil (w : ProcessWorld) : w.answering [] = w := by
  unfold ProcessWorld.answering
  rw [Machine.final, Machine.trace, List.append_nil]

theorem answering_append (w : ProcessWorld) (events events' : List Event) :
    w.answering (events ++ events') = (w.answering events).answering events' := by
  have traced : ∀ (store : ConfluenceStore), Machine.trace handle store (events ++ events') =
      Machine.trace handle store events ++ Machine.trace handle (Machine.final handle store events) events' := by
    induction events with
    | nil => exact fun _ => rfl
    | cons e events ih => exact fun store => congrArg (_ :: ·) (ih _)
  unfold ProcessWorld.answering
  rw [Machine.final_append, traced, List.append_assoc]

/-- Permitted events were answered, and an edit among them only where the hook fires. -/
def Reaches (P : Event → Prop) (s s' : ExecutorState ProcessWorld) : Prop :=
  ∃ events, s'.world = s.world.answering events ∧ (∀ e ∈ events, P e) ∧ events.countP isEdit + s.fired.toNat ≤ s'.fired.toNat

variable {P : Event → Prop}

theorem Reaches.quiet (s s' : ExecutorState ProcessWorld) (world : s'.world = s.world) (fired : s'.fired = s.fired) :
    Reaches P s s' :=
  ⟨[], world.trans (answering_nil _).symm, nofun, by rw [fired, List.countP_nil, Nat.zero_add]⟩

theorem Reaches.trans (a b c : ExecutorState ProcessWorld) (first : Reaches P a b) (later : Reaches P b c) : Reaches P a c := by
  obtain ⟨events, world, permitted, edits⟩ := first
  obtain ⟨events', world', permitted', edits'⟩ := later
  refine ⟨events ++ events', ?_, ?_, ?_⟩
  · rw [world', world, answering_append]
  · exact fun e member => (List.mem_append.mp member).elim (permitted e) (permitted' e)
  · rw [List.countP_append]
    omega

variable {transport : Transport} {actorId : String} {concurrency : Option Json} {grants declared : List String}

/-- An offered tool sends only what is permitted. -/
theorem baseline_reaches {tool : RawTool ProcessWorld} (member : tool ∈ baselineTools transport)
    (offers : offered grants declared tool = true) (worldUrl : String) (args : Dict String Json) :
    Keeps (Reaches (Permitted transport actorId (effective grants declared) concurrency))
      (onWorld (tool.fn worldUrl actorId args)) := by
  intro s
  obtain ⟨name, description, build, rfl, covered⟩ := baseline_covered member
  have may : ∀ capability, requiredCapability name = some capability → capability ∈ effective grants declared :=
    offersName_iff.mp offers
  rw [onWorld, outcome_zoom]
  obtain ⟨world, -⟩ | ⟨actor, apiCall, sent, built, world⟩ :=
    requestTool_world transport name description build worldUrl actorId args s.world
  · exact .quiet _ _ world rfl
  · refine ⟨[.request (some actor) apiCall], world, ?_, (Nat.zero_add _).le⟩
    intro e only
    obtain rfl := List.mem_singleton.mp only
    refine .request sent fun capability needs => ?_
    obtain none | same := covered args apiCall built
    · cases none.symm.trans needs
    · exact may capability (same.symm.trans needs)

theorem controlEdit_world (transport : Transport) (pageId actor body : String) (w : ProcessWorld) :
    ((controlEdit transport pageId actor body).outcome w).2 = w ∨ ∃ edit : HumanEditRequest,
      (edit.pageId, edit.actor, edit.body) = (pageId, actor, body) ∧
        ((controlEdit transport pageId actor body).outcome w).2 = w.answering [.humanEdit edit] := by
  by_cases nonempty : pageId ≠ "" ∧ actor ≠ ""
  · refine Or.inr ⟨⟨pageId, actor, body, nonempty.1, nonempty.2⟩, rfl, ?_⟩
    rw [controlEdit, dif_pos nonempty]
    rfl
  · rw [controlEdit, dif_neg nonempty]
    exact Or.inl rfl

theorem hook_reaches (baseUrl : String) {capabilities : List String} (name : String) (args : Dict String Json)
    (result : ToolResult) : Keeps (Reaches (Permitted transport actorId capabilities concurrency))
      (concurrencyHook (processWorld transport grants baseUrl) concurrency name args result) := by
  intro s
  rw [concurrencyHook, outcome_bind, outcome_get]
  dsimp only
  split
  · rename_i pageId actor body planned
    split
    · exact .quiet _ _ rfl rfl
    · rename_i fires
      have before : s.fired = false := by
        cases fired : s.fired with
        | false => rfl
        | true => simp [fired] at fires
      rw [fire, outcome_bind, outcome_modify]
      dsimp only
      rw [report, outcome_bind, outcome_modify]
      dsimp only [processWorld]
      rw [outcome_bind, outcome_mapError, onWorld, outcome_zoom]
      have edited := controlEdit_world transport pageId actor body s.world
      generalize (controlEdit transport pageId actor body).outcome s.world = ran at edited ⊢
      obtain ⟨answer, w⟩ := ran
      have reached : ∀ s' : ExecutorState ProcessWorld, s'.world = w → s'.fired = true →
          Reaches (Permitted transport actorId capabilities concurrency) s s' := by
        intro s' world fired
        obtain rfl | ⟨edit, same, rfl⟩ := edited
        · exact ⟨[], world.trans (answering_nil _).symm, by simp, by simp [before, fired]⟩
        · refine ⟨[.humanEdit edit], world, ?_, by simp [before, fired, isEdit]⟩
          intro e only
          obtain rfl := List.mem_singleton.mp only
          exact .humanEdit (planned.trans (congrArg some same.symm))
      cases answer with
      | error e => exact reached _ rfl rfl
      | ok response => exact reached _ rfl rfl
  · exact .quiet _ _ rfl rfl

end Answered

/-! ### Runs -/

/-- The clock and the model leave the world alone, and the tools are the baseline server's. -/
structure Baseline [PyText] (transport : Transport) (outside : Outside ProcessWorld) : Prop where
  elapsed : ∀ w, (outside.elapsed w).2 = w
  complete : ∀ messages tools w, (outside.complete messages tools w).2 = w
  listTools : ∀ root w, ((outside.listTools root).outcome w).2 = w
  tools : ∀ {root w tools w'}, (outside.listTools root).outcome w = (.ok tools, w') →
    ∀ tool ∈ tools, tool ∈ baselineTools transport

section Runs

variable [PyText] (transport : Transport) (grants : List String) (task : Task) (package : AgentPackage)

/-- What may reach the world of the task's run. -/
abbrev Allowed : Event → Prop :=
  Permitted transport task.actorId (effective grants package.declaredCapabilities) (task.metadata.get? "concurrency")

/-- Since the world was `w`, only what is allowed was answered, with one edit at most; what was captured is its store. -/
structure Accounted (w : ProcessWorld) (s : RunState ProcessWorld) : Prop where
  answered : ∃ events, s.world = w.answering events ∧ (∀ e ∈ events, Allowed transport grants task package e) ∧
    events.countP isEdit ≤ 1
  captured : ∀ final, s.finalSnapshot = some final →
    final = s.world.store.snapshot transport.snapshotId transport.timestamp

variable {transport grants task package} {outside : Outside ProcessWorld} {baseUrl : String} {w : ProcessWorld}

/-- The world is still `w`, and nothing was captured of it. -/
def Untouched (w : ProcessWorld) (s : RunState ProcessWorld) : Prop := s.world = w ∧ s.finalSnapshot = none

theorem Untouched.accounted {s : RunState ProcessWorld} (h : Untouched w s) : Accounted transport grants task package w s where
  answered := ⟨[], h.1.trans (answering_nil w).symm, nofun, Nat.zero_le 1⟩
  captured final captured := by cases h.2.symm.trans captured

variable (h : Baseline transport outside)
include h

theorem runAgent_accounted {tools : List (RawTool ProcessWorld)} (served : ∀ tool ∈ tools, tool ∈ baselineTools transport)
    (worldUrl root : String) :
    Triple (Untouched w) (runAgent outside task package root (buildExecutor tools package.declaredCapabilities grants worldUrl
        task.actorId (concurrencyHook (processWorld transport grants baseUrl) (task.metadata.get? "concurrency"))))
      (fun _ s => Accounted transport grants task package w s ∧ s.finalSnapshot = none)
      (fun _ s => Accounted transport grants task package w s ∧ s.finalSnapshot = none) := by
  generalize built : buildExecutor tools package.declaredCapabilities grants worldUrl task.actorId
    (concurrencyHook (processWorld transport grants baseUrl) (task.metadata.get? "concurrency")) = x
  have executes : ∀ name args, Keeps (Reaches (Allowed transport grants task package)) (x.execute name args) := by
    intro name args
    rw [← built]
    exact keeps_execute Reaches.trans Reaches.quiet (fun tool member offers => baseline_reaches (served tool member) offers _)
      (hook_reaches baseUrl) name args
  have closed : WorldClosed (agentEnvironment outside root x) (Reaches (Allowed transport grants task package)) :=
    { refl := fun s => .quiet s s rfl rfl
      trans := Reaches.trans
      elapsed := fun s => .quiet _ _ (h.elapsed s.world) rfl
      complete := fun messages tools s => .quiet _ _ (h.complete messages tools s.world) rfl
      execute := fun name arguments s => executes name arguments { s with emitted := [] } }
  rintro s ⟨rfl, uncaptured⟩
  rw [runAgent, outcome_ofFn]
  generalize ran : Runtime.run (agentEnvironment outside root x) ⟨task.goal, task.actorId⟩ package s.tracker
    ⟨s.world, false, none, []⟩ s.events = ended
  obtain ⟨answer, session⟩ := ended
  obtain ⟨events, world, allowed, edits⟩ := (run_confined closed ran).1
  have once : events.countP isEdit ≤ 1 := (Nat.le_add_right _ _).trans (edits.trans (Bool.toNat_le _))
  dsimp only
  split <;> exact ⟨⟨⟨events, world, allowed, once⟩, fun final captured => by cases uncaptured.symm.trans captured⟩, uncaptured⟩

theorem useWorld_accounted :
    Triple (Untouched w) (useWorld outside (processWorld transport grants baseUrl) task package)
      (fun _ => Accounted transport grants task package w) (fun _ => Accounted transport grants task package w) := by
  have lifted : ∀ {α : Type} (a : Except String α), Triple (Untouched w) (lift a) (fun _ => Untouched w)
      (fun _ => Accounted transport grants task package w) := by
    intro α a s start
    cases a
    · exact start.accounted
    · exact start
  unfold useWorld
  refine triple_bind (Q := fun granted s => Untouched w s ∧ grants = granted) (fun s start => ⟨start, rfl⟩) fun granted => ?_
  rintro s ⟨start, rfl⟩
  refine triple_bind (lifted _) (fun root => ?_) s start
  refine triple_bind (Q := fun _ => Untouched w) (fun _ => id) fun s => triple_bind (lifted _) fun worldUrl => ?_
  refine triple_bind (Q := fun tools s => Untouched w s ∧ ∀ tool ∈ tools, tool ∈ baselineTools transport) ?_ fun tools => ?_
  · intro s start
    have same := h.listTools root s.world
    rw [inWorld, outcome_zoom]
    cases listed : (outside.listTools root).outcome s.world with
    | mk answer world =>
      rw [listed] at same
      have still : Untouched w { s with world } := ⟨Eq.trans same start.1, start.2⟩
      cases answer with
      | error e => exact still.accounted
      | ok tools => exact ⟨still, h.tools listed⟩
  · rintro s ⟨start, served⟩
    refine triple_bind ((runAgent_accounted h served worldUrl root).failure fun _ _ ended => ended.1) (fun result => ?_) s start
    refine triple_bind (Q := fun final s => Accounted transport grants task package w s ∧
      final = s.world.store.snapshot transport.snapshotId transport.timestamp) ?_ fun final => ?_
    · exact fun s ended => ⟨ended.1, rfl⟩
    · refine triple_bind (Q := fun _ => Accounted transport grants task package w) (triple_modify ?_) fun _ =>
        triple_pure fun _ => id
      rintro s ⟨accounted, rfl⟩
      exact ⟨accounted.answered, fun final captured => (Option.some.inj captured).symm⟩

/-- A run restored the world and accounts for it since, or nothing reached its world. -/
theorem runRecorded_accounted (grants : List String) (task : Task) (package : AgentPackage) (baseUrl : String)
    (refuse : VerificationResult → Option String) (budget : ExecutionBudget) (w : ProcessWorld) :
    let s := (runRecorded outside refuse (processWorld transport grants baseUrl) task package budget w).2
    (∃ initial store, outside.readSnapshot task.initialSnapshotRef = .ok initial ∧ w.store.restore initial = (.ok (), store) ∧
        Accounted transport grants task package ⟨store, w.served⟩ s) ∨
      s.world.served = w.served ∧ s.finalSnapshot = none := by
  let Ended : RunState ProcessWorld → Prop := fun s =>
    (∃ initial store, outside.readSnapshot task.initialSnapshotRef = .ok initial ∧ w.store.restore initial = (.ok (), store) ∧
        Accounted transport grants task package ⟨store, w.served⟩ s) ∨
      s.world.served = w.served ∧ s.finalSnapshot = none
  have ended_same : ∀ s s', Ended s → SameWorld s s' → Ended s' := by
    rintro s s' (⟨initial, store, read, restored, answered, captured⟩ | ⟨served, uncaptured⟩) ⟨world, snapshot⟩
    · refine Or.inl ⟨initial, store, read, restored, ?_, ?_⟩
      · rw [world]
        exact answered
      · rw [world, snapshot]
        exact captured
    · exact Or.inr ⟨(congrArg ProcessWorld.served world).trans served, snapshot.trans uncaptured⟩
  have sessions : ∀ initial, outside.readSnapshot task.initialSnapshotRef = .ok initial →
      Triple (Untouched w) (worldSession outside (processWorld transport grants baseUrl) task package initial)
        (fun _ => Ended) (fun _ => Ended) := by
    intro initial read
    refine triple_bind (Q := fun _ => Untouched w) (fun s start => start) fun _ => ?_
    refine triple_andFinally (I := Ended) ?_ (fun s ended => ended)
    refine triple_bind (Q := fun _ s => ∃ store, w.store.restore initial = (.ok (), store) ∧ Untouched ⟨store, w.served⟩ s)
      ?_ fun _ => ?_
    · rintro s ⟨world, uncaptured⟩
      rw [inWorld, outcome_zoom, world]
      dsimp only [processWorld, outcome_ofFn]
      cases ran : w.store.restore initial with
      | mk restored store =>
        cases restored with
        | error e => exact Or.inr ⟨rfl, uncaptured⟩
        | ok _ => exact ⟨store, rfl, rfl, uncaptured⟩
    · rintro s ⟨store, restored, start⟩
      have account : ∀ s, Accounted transport grants task package ⟨store, w.served⟩ s → Ended s :=
        fun s accounted => Or.inl ⟨initial, store, read, restored, accounted⟩
      exact triple_consequence (useWorld_accounted h) (fun _ => id) (fun _ => account) (fun _ => account) s start
  have executes : Triple (Untouched w) (executionRecorded outside refuse (processWorld transport grants baseUrl) task package)
      (fun _ => Ended) (fun _ => Ended) := by
    refine triple_bind (Q := fun initial s => Untouched w s ∧ outside.readSnapshot task.initialSnapshotRef = .ok initial) ?_
      fun initial => ?_
    · intro s start
      rw [outcome_lift]
      cases read : outside.readSnapshot task.initialSnapshotRef with
      | error e => exact Or.inr ⟨congrArg ProcessWorld.served start.1, start.2⟩
      | ok initial => exact ⟨start, rfl⟩
    · rintro s ⟨start, read⟩
      refine triple_bind (triple_mapError (sessions initial read) fun _ _ => id) (fun used => ?_) s start
      exact triple_of_keeps judgeRecorded_world ended_same
  have ended := executes (started task package budget w) ⟨rfl, rfl⟩
  unfold runRecorded
  generalize outcome _ _ = x at ended ⊢
  obtain ⟨answer, s⟩ := x
  have last : Ended s := by cases answer <;> exact ended
  exact ended_same s _ last ⟨h.elapsed s.world, rfl⟩

/-- All that reaches the world of a run is in the actor's name, needs only what is granted and, where anything is
declared, declared, or is the planned edit, once; and what is captured is what it leaves of the restored world. -/
theorem run_within_privileges {refuse : VerificationResult → Option String} (budget : ExecutionBudget) (w : ProcessWorld) :
    let s := (runRecorded outside refuse (processWorld transport grants baseUrl) task package budget w).2
    ∃ store events, s.world.served = w.served ++ Machine.trace handle store events ∧
      (∀ e ∈ events, Permitted transport task.actorId (effective grants package.declaredCapabilities)
        (task.metadata.get? "concurrency") e) ∧
      (∀ header apiCall capability, .request header apiCall ∈ events → neededCapability apiCall = some capability →
        capability ∈ grants ∧ (package.declaredCapabilities ≠ [] → capability ∈ package.declaredCapabilities)) ∧
      events.countP isEdit ≤ 1 ∧
      ∀ final, s.finalSnapshot = some final → ∃ initial, outside.readSnapshot task.initialSnapshotRef = .ok initial ∧
        w.store.restore initial = (.ok (), store) ∧
        final = (Machine.final handle store events).snapshot transport.snapshotId transport.timestamp := by
  intro s
  obtain ⟨initial, store, read, restored, ⟨events, world, allowed, once⟩, captured⟩ | ⟨served, uncaptured⟩ :=
    runRecorded_accounted h grants task package baseUrl refuse budget w
  · refine ⟨store, events, congrArg ProcessWorld.served world, allowed, ?_, once, fun final last => ?_⟩
    · intro header apiCall capability member needs
      cases allowed _ member with
      | request sent may =>
        exact ⟨effective_granted (may capability needs), fun declares => ((mem_effective declares).mp (may capability needs)).2⟩
    refine ⟨initial, read, restored, (captured final last).trans ?_⟩
    rw [world]
    rfl
  · refine ⟨w.store, [], served.trans (List.append_nil _).symm, nofun, nofun, Nat.zero_le 1, fun final last => ?_⟩
    cases uncaptured.symm.trans last

/-- The actor's own header. -/
def Named (transport : Transport) (task : Task) (header : Option String) : Prop :=
  ∃ name, transport.header task.actorId = .ok name ∧ header = some name

/-- The page of the planned edit. -/
def Planned (task : Task) (pageId : String) : Prop :=
  ∃ actor body, plannedEdit (task.metadata.get? "concurrency") = some (pageId, actor, body)

omit [PyText] h in
theorem Permitted.comesFrom {e : Event} (allowed : Allowed transport grants task package e) :
    ComesFrom (Named transport task) (Planned task) e := by
  cases allowed with
  | request sent may => exact ⟨_, sent, rfl⟩
  | humanEdit planned => exact ⟨_, _, planned⟩

/-- The world a run captures differs from the restored one only by what the actor may do there, and the planned edit. -/
theorem run_within_rights {refuse : VerificationResult → Option String} (budget : ExecutionBudget) (w : ProcessWorld)
    (final : WorldSnapshot) (captured : (runRecorded outside refuse (processWorld transport grants baseUrl) task package
      budget w).2.finalSnapshot = some final) :
    ∃ initial store store', outside.readSnapshot task.initialSnapshotRef = .ok initial ∧
      w.store.restore initial = (.ok (), store) ∧ final.resources = store'.resources ∧
      (store.Keyed → WithinRights (Named transport task) (Planned task) store store') := by
  obtain ⟨initial, store, read, restored, ⟨events, world, allowed, -⟩, last⟩ | ⟨-, uncaptured⟩ :=
    runRecorded_accounted h grants task package baseUrl refuse budget w
  · refine ⟨initial, store, Machine.final handle store events, read, restored, ?_, fun keyed => ?_⟩
    · rw [last final captured, world]
      rfl
    · exact run_within (ConfluenceStore.Accepted.restored restored).valid keyed events fun e member =>
        (allowed e member).comesFrom
  · cases uncaptured.symm.trans captured

end Runs

/-! ### Readers -/

section Readers

variable [PyText]

theorem request_idle {store : ConfluenceStore} {header : Option String} {apiCall : ApiCall}
    (reads : neededCapability apiCall ≠ some "confluence.pages.write") : (request store header apiCall).2 = store := by
  unfold request
  split
  · rfl
  · split
    · rfl
    · cases apiCall with
      | createPage payload => exact absurd rfl reads
      | updatePage pageId payload ifVersion => exact absurd rfl reads
      | _ => rfl

/-- Requests that do not write, and one edit at most, leave what that edit leaves. -/
theorem final_idle (store : ConfluenceStore) {events : List Event}
    (reads : ∀ header apiCall, .request header apiCall ∈ events → neededCapability apiCall ≠ some "confluence.pages.write")
    (once : events.countP isEdit ≤ 1) :
    Machine.final handle store events = store ∨
      ∃ edit, .humanEdit edit ∈ events ∧ Machine.final handle store events = (humanEdit store edit).2 := by
  induction events generalizing store with
  | nil => exact Or.inl rfl
  | cons e events ih =>
    have later : ∀ header apiCall, .request header apiCall ∈ events →
        neededCapability apiCall ≠ some "confluence.pages.write" :=
      fun header apiCall member => reads header apiCall (List.mem_cons_of_mem _ member)
    cases e with
    | request header apiCall =>
      have idle : (handle store (.request header apiCall)).2 = store := request_idle (reads header apiCall List.mem_cons_self)
      have fewer : events.countP isEdit ≤ 1 := by simpa [isEdit] using once
      rw [Machine.final, idle]
      refine (ih store later fewer).imp_right ?_
      rintro ⟨edit, member, left⟩
      exact ⟨edit, List.mem_cons_of_mem _ member, left⟩
    | humanEdit edit =>
      have counted : (Event.humanEdit edit :: events).countP isEdit = events.countP isEdit + 1 := List.countP_cons_of_pos rfl
      have none_ : events.countP isEdit = 0 := by omega
      obtain still | ⟨other, member, -⟩ := ih (humanEdit store edit).2 later (none_.le.trans (Nat.zero_le 1))
      · exact Or.inr ⟨edit, List.mem_cons_self, still⟩
      · exact absurd rfl (List.countP_eq_zero.mp none_ _ member)

variable {transport : Transport} {grants : List String} {task : Task} {package : AgentPackage} {outside : Outside ProcessWorld}
  {baseUrl : String} {refuse : VerificationResult → Option String}

/-- Without the capability to write, a run captures the world it was given, or what the planned edit leaves of it. -/
theorem reader_leaves_world (h : Baseline transport outside)
    (reader : "confluence.pages.write" ∉ effective grants package.declaredCapabilities) (budget : ExecutionBudget)
    (w : ProcessWorld) (final : WorldSnapshot)
    (captured : (runRecorded outside refuse (processWorld transport grants baseUrl) task package budget w).2.finalSnapshot =
      some final) :
    ∃ initial store, outside.readSnapshot task.initialSnapshotRef = .ok initial ∧ w.store.restore initial = (.ok (), store) ∧
      (final.resources = store.resources ∨ ∃ edit : HumanEditRequest,
        plannedEdit (task.metadata.get? "concurrency") = some (edit.pageId, edit.actor, edit.body) ∧
          final.resources = (humanEdit store edit).2.resources) := by
  obtain ⟨initial, store, read, restored, ⟨events, world, allowed, once⟩, last⟩ | ⟨-, uncaptured⟩ :=
    runRecorded_accounted h grants task package baseUrl refuse budget w
  · refine ⟨initial, store, read, restored, ?_⟩
    have reads : ∀ header apiCall, .request header apiCall ∈ events →
        neededCapability apiCall ≠ some "confluence.pages.write" := by
      intro header apiCall member writes
      cases allowed _ member with
      | request sent may => exact reader (may _ writes)
    have resources : final.resources = (Machine.final handle store events).resources := by
      rw [last final captured, world]
      rfl
    rw [resources]
    obtain same | ⟨edit, member, left⟩ := final_idle store reads once
    · exact Or.inl (congrArg _ same)
    · cases allowed _ member with
      | humanEdit planned => exact Or.inr ⟨edit, planned, congrArg _ left⟩
  · cases uncaptured.symm.trans captured

end Readers

/-! ### One run -/

/-- A model that reads the page, writes it, and is done, over the baseline tools. -/
def editing : Outside ProcessWorld where
  elapsed w := (0, w)
  complete messages _ w :=
    let calls : List LLMToolCall := match messages.length with
      | 2 => [⟨"call-1", "get_page", readHome.2⟩]
      | 4 => [⟨"call-2", "update_page", (writeHome 2).2⟩]
      | _ => []
    (.response ⟨some "done", calls, none, none⟩, w)
  readSnapshot _ := .ok (homeStore.snapshot "staged" "t")
  packageRoot _ := .ok "packages/baseline"
  readArtifact _ _ _ := .ok ""
  listTools _ := pure (@baselineTools asciiText plainTransport)
  verify _ _ _ _ := .ok ⟨true, 1, [], true, true, true, []⟩

def editingTask : Task := ⟨"t", "s", "train", "Say hello.", "ann", "s.json", "v", ⟨[("concurrency", homeEdit)], by simp⟩⟩

theorem editing_baseline : @Baseline asciiText plainTransport editing :=
  let _ := asciiText
  { elapsed := fun _ => rfl
    complete := fun _ _ _ => rfl
    listTools := fun _ _ => rfl
    tools := by
      intro root w tools w' listed tool member
      obtain rfl := Except.ok.inj (congrArg Prod.fst listed)
      exact member }

def blankWorld : ProcessWorld := ⟨ConfluenceStore.ofCollections .null .null .null, []⟩

def pageCapabilities : List String := ["confluence.pages.read", "confluence.pages.write"]

/-- The run of a package that declares these capabilities. -/
def editingRun (declared : List String) : RunState ProcessWorld :=
  (@runRecorded asciiText _ editing (fun _ => none)
    (@processWorld asciiText plainTransport pageCapabilities "http://127.0.0.1") editingTask
    ⟨"baseline", declared, [], []⟩ {} blankWorld).2

theorem run_within_privileges_editing : ∃ store events,
    (editingRun pageCapabilities).world.served = blankWorld.served ++ Machine.trace (@handle asciiText) store events ∧
      (∀ e ∈ events, Permitted plainTransport editingTask.actorId (effective pageCapabilities pageCapabilities)
        (editingTask.metadata.get? "concurrency") e) ∧ events.countP isEdit ≤ 1 ∧
      ∃ final initial, (editingRun pageCapabilities).finalSnapshot = some final ∧
        @ConfluenceStore.restore asciiText.toLaxInt blankWorld.store initial = (.ok (), store) ∧
        final = (Machine.final (@handle asciiText) store events).snapshot plainTransport.snapshotId
          plainTransport.timestamp := by
  have captures : (editingRun pageCapabilities).finalSnapshot.isSome = true := by decide +kernel
  obtain ⟨final, captured⟩ := Option.isSome_iff_exists.mp captures
  unfold editingRun at captured ⊢
  obtain ⟨store, events, served, permitted, -, once, last⟩ := @run_within_privileges asciiText plainTransport
    pageCapabilities editingTask ⟨"baseline", pageCapabilities, [], []⟩ editing "http://127.0.0.1" editing_baseline
    (fun _ => none) {} blankWorld
  obtain ⟨initial, -, restored, same⟩ := last final captured
  exact ⟨store, events, served, permitted, once, final, initial, captured, restored, same⟩

theorem run_within_rights_editing : ∃ final store store', (editingRun []).finalSnapshot = some final ∧
    @ConfluenceStore.restore asciiText.toLaxInt blankWorld.store (homeStore.snapshot "staged" "t") = (.ok (), store) ∧
    final.resources = store'.resources ∧
      @WithinRights asciiText (Named plainTransport editingTask) (Planned editingTask) store store' := by
  have captures : (editingRun []).finalSnapshot.isSome = true := by decide +kernel
  obtain ⟨final, captured⟩ := Option.isSome_iff_exists.mp captures
  unfold editingRun at captured ⊢
  obtain ⟨initial, store, store', read, restored, same, within⟩ := @run_within_rights asciiText plainTransport
    pageCapabilities editingTask ⟨"baseline", [], [], []⟩ editing "http://127.0.0.1"
    editing_baseline (fun _ => none) {} blankWorld final captured
  obtain rfl := Except.ok.inj read
  have coherent : homeStore.Coherent := ConfluenceStore.soloStore_coherent ["ann"] rfl
  obtain rfl : homeStore = store := by
    have staged := @ConfluenceStore.restore_snapshot asciiText.toLaxInt _ coherent.valid blankWorld.store "staged" "t"
    exact congrArg Prod.snd (staged.symm.trans restored)
  exact ⟨final, homeStore, store', captured, restored, same, within coherent.keyed⟩

theorem reader_leaves_world_editing : ∃ final store, (editingRun ["confluence.pages.read"]).finalSnapshot = some final ∧
    @ConfluenceStore.restore asciiText.toLaxInt blankWorld.store (homeStore.snapshot "staged" "t") = (.ok (), store) ∧
    (final.resources = store.resources ∨ ∃ edit : HumanEditRequest,
      plannedEdit (editingTask.metadata.get? "concurrency") = some (edit.pageId, edit.actor, edit.body) ∧
        final.resources = (@humanEdit asciiText store edit).2.resources) := by
  have captures : (editingRun ["confluence.pages.read"]).finalSnapshot.isSome = true := by decide +kernel
  obtain ⟨final, captured⟩ := Option.isSome_iff_exists.mp captures
  unfold editingRun at captured ⊢
  obtain ⟨initial, store, read, restored, left⟩ := @reader_leaves_world asciiText plainTransport
    pageCapabilities editingTask ⟨"baseline", ["confluence.pages.read"], [], []⟩ editing
    "http://127.0.0.1" (fun _ => none) editing_baseline (by decide) {} blankWorld final captured
  obtain rfl := Except.ok.inj read
  exact ⟨final, store, captured, restored, left⟩

end AgentGym.Runner
