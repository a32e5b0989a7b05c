import Mathlib.Logic.Function.Basic
import AgentGym.Lib.Machine

/-!
# The process environment

A tool learns its world and its actor from two environment variables of the process. An
execution saves them, sets its own values, runs the tool, and restores what it saved. Other
executions may run wherever the tool awaits. Executions that are nested like calls each
see their own values and leave the environment as it was; others need not.
-/

namespace AgentGym.Runner

open Machine

/-- `os.environ`. -/
abbrev Environ := String → Option String

/-- `_restore_environment`: a missing value removes the variable. -/
def restoreEnvironment (name : String) (value : Option String) (env : Environ) : Environ :=
  Function.update env name value

/-- What an executor hands to its tools. -/
structure Identity where
  worldUrl : String
  actorId : String
  deriving DecidableEq

def Identity.enter (x : Identity) (env : Environ) : Environ :=
  Function.update (Function.update env "WORLD_API_URL" (some x.worldUrl)) "ACTOR_ID" (some x.actorId)

/-- The variables have the executor's values. -/
def Identity.Reads (x : Identity) (env : Environ) : Prop :=
  env "WORLD_API_URL" = some x.worldUrl ∧ env "ACTOR_ID" = some x.actorId

/-- An execution whose tool awaits. -/
structure Execution where
  caller : Identity
  oldWorld : Option String
  oldActor : Option String
  /-- The segments after the next one. -/
  later : Nat

/-- The end of an execution. -/
def Execution.leave (e : Execution) (env : Environ) : Environ :=
  restoreEnvironment "ACTOR_ID" e.oldActor (restoreEnvironment "WORLD_API_URL" e.oldWorld env)

structure Process where
  env : Environ
  /-- Newest first. -/
  inProgress : List Execution

/-- What happens between two awaits. -/
inductive Slice where
  /-- A call whose tool has this many segments after its first. -/
  | call (caller : Identity) (later : Nat)
  /-- The execution at this place goes on. -/
  | resume (place : Nat)

/-- The start of an execution, up to its first await or to its end. -/
def begin (p : Process) (caller : Identity) (later : Nat) : Process :=
  let env := caller.enter p.env
  let e : Execution := ⟨caller, p.env "WORLD_API_URL", p.env "ACTOR_ID", later - 1⟩
  if later = 0 then { p with env := e.leave env } else ⟨env, e :: p.inProgress⟩

/-- The next segment of the execution at this place, and its end if it was the last. -/
def proceed (p : Process) (place : Nat) (e : Execution) : Process :=
  match e.later with
  | 0 => ⟨e.leave p.env, p.inProgress.eraseIdx place⟩
  | later + 1 => { p with inProgress := p.inProgress.set place { e with later } }

/-- One slice, with the executor it runs for and the environment its segment reads. -/
def slice (p : Process) : Slice → Option (Identity × Environ) × Process
  | .call caller later => (some (caller, caller.enter p.env), begin p caller later)
  | .resume place =>
    match p.inProgress[place]? with
    | none => (none, p)
    | some e => (some (e.caller, p.env), proceed p place e)

/-- Every segment reads the values of its own executor, and whenever no execution is in progress the
environment is the initial one. -/
def Isolated (initial : Environ) (slices : List Slice) : Prop :=
  (∀ t ∈ trace slice ⟨initial, []⟩ slices, ∀ x env, t.response = some (x, env) → x.Reads env) ∧
    ∀ p ∈ states slice ⟨initial, []⟩ slices, p.inProgress = [] → p.env = initial

/-! ### Nested executions -/

/-- The environment had the executor's values before the execution began. -/
def Execution.Idle (e : Execution) : Prop := e.oldWorld = some e.caller.worldUrl ∧ e.oldActor = some e.caller.actorId

/-- An execution goes on while the newest one is its own executor's, and ends as the newest one
or without having changed the environment. -/
def Nested (p : Process) : Slice → Prop
  | .call _ _ => True
  | .resume place => ∀ e, p.inProgress[place]? = some e →
      (∀ f, p.inProgress.head? = some f → f.caller = e.caller) ∧ (e.later = 0 → place = 0 ∨ e.Idle)

theorem nested_newest (p : Process) : Nested p (.resume 0) := by
  intro e found
  refine ⟨?_, fun _ => Or.inl rfl⟩
  intro f newest
  rw [List.head?_eq_getElem?, found] at newest
  rw [Option.some.inj newest]

/-- The environment is what the executions in progress made of the initial one, oldest first. -/
def Layered (initial : Environ) : Environ → List Execution → Prop
  | env, [] => env = initial
  | env, e :: older => ∃ before : Environ, env = e.caller.enter before ∧ e.oldWorld = before "WORLD_API_URL" ∧
      e.oldActor = before "ACTOR_ID" ∧ Layered initial before older

theorem reads_enter (x : Identity) (env : Environ) : x.Reads (x.enter env) := by
  simp [Identity.Reads, Identity.enter]

theorem leave_enter (e : Execution) (env : Environ) (world : e.oldWorld = env "WORLD_API_URL")
    (actor : e.oldActor = env "ACTOR_ID") : e.leave (e.caller.enter env) = env := by
  funext name
  unfold Execution.leave restoreEnvironment Identity.enter
  by_cases isActor : name = "ACTOR_ID"
  · subst isActor
    rw [Function.update_self, actor]
  rw [Function.update_of_ne isActor]
  by_cases isWorld : name = "WORLD_API_URL"
  · subst isWorld
    rw [Function.update_self, world]
  rw [Function.update_of_ne isWorld, Function.update_of_ne isActor, Function.update_of_ne isWorld]

theorem enter_of_reads {x : Identity} {env : Environ} (reads : x.Reads env) : x.enter env = env := by
  unfold Identity.enter
  rw [← reads.1, Function.update_eq_self, ← reads.2, Function.update_eq_self]

theorem Layered.reads {initial env : Environ} {inProgress : List Execution} (layered : Layered initial env inProgress)
    {place : Nat} {e : Execution} (found : inProgress[place]? = some e)
    (newest : ∀ f, inProgress.head? = some f → f.caller = e.caller) : e.caller.Reads env := by
  cases inProgress with
  | nil => simp at found
  | cons f older =>
    obtain ⟨before, rfl, -⟩ := layered
    rw [← newest f rfl]
    exact reads_enter f.caller before

/-- An execution that changed nothing may go from anywhere. -/
theorem Layered.eraseIdx {initial env : Environ} {inProgress : List Execution}
    (layered : Layered initial env inProgress) {place : Nat} {e : Execution} (found : inProgress[place]? = some e)
    (idle : e.Idle) : Layered initial env (inProgress.eraseIdx place) := by
  induction inProgress generalizing env place with
  | nil => exact layered
  | cons newest older ih =>
    obtain ⟨before, entered, world, actor, rest⟩ := layered
    cases place with
    | zero =>
      obtain rfl := Option.some.inj found
      have reads : newest.caller.Reads before := ⟨world.symm.trans idle.1, actor.symm.trans idle.2⟩
      rw [enter_of_reads reads] at entered
      rw [entered]
      exact rest
    | succ place => exact ⟨before, entered, world, actor, ih rest found⟩

theorem leave_of_idle {e : Execution} {env : Environ} (idle : e.Idle) (reads : e.caller.Reads env) :
    e.leave env = env := by
  unfold Execution.leave restoreEnvironment
  rw [idle.1, idle.2]
  exact enter_of_reads reads

/-- How many segments are left does not matter to the environment. -/
theorem Layered.set {initial env : Environ} {inProgress : List Execution} (layered : Layered initial env inProgress)
    {place : Nat} {e : Execution} (found : inProgress[place]? = some e) (later : Nat) :
    Layered initial env (inProgress.set place { e with later }) := by
  induction inProgress generalizing env place with
  | nil => exact layered
  | cons newest older ih =>
    obtain ⟨before, entered, world, actor, rest⟩ := layered
    cases place with
    | zero =>
      obtain rfl := Option.some.inj found
      exact ⟨before, entered, world, actor, rest⟩
    | succ place => exact ⟨before, entered, world, actor, ih rest found⟩

theorem slice_resume {p : Process} {place : Nat} {e : Execution} (found : p.inProgress[place]? = some e) :
    slice p (.resume place) = (some (e.caller, p.env), proceed p place e) := by
  simp [slice, found]

theorem layered_begin {initial : Environ} (p : Process) (caller : Identity) (later : Nat)
    (layered : Layered initial p.env p.inProgress) :
    Layered initial (begin p caller later).env (begin p caller later).inProgress := by
  unfold begin
  by_cases last : later = 0
  · rw [if_pos last]
    show Layered initial (Execution.leave _ (caller.enter p.env)) p.inProgress
    rw [leave_enter ⟨caller, p.env "WORLD_API_URL", p.env "ACTOR_ID", later - 1⟩ p.env rfl rfl]
    exact layered
  · rw [if_neg last]
    exact ⟨p.env, rfl, rfl, rfl, layered⟩

theorem layered_proceed {initial : Environ} {p : Process} {place : Nat} {e : Execution}
    (found : p.inProgress[place]? = some e) (reads : e.caller.Reads p.env)
    (last : e.later = 0 → place = 0 ∨ e.Idle) (layered : Layered initial p.env p.inProgress) :
    Layered initial (proceed p place e).env (proceed p place e).inProgress := by
  unfold proceed
  cases left : e.later with
  | zero =>
    rcases last left with rfl | idle
    · obtain ⟨env, inProgress⟩ := p
      cases inProgress with
      | nil => simp at found
      | cons newest older =>
        obtain rfl := Option.some.inj found
        obtain ⟨before, entered, world, actor, rest⟩ := layered
        show Layered initial (newest.leave env) older
        change env = newest.caller.enter before at entered
        rw [entered, leave_enter newest before world actor]
        exact rest
    · show Layered initial (e.leave p.env) (p.inProgress.eraseIdx place)
      rw [leave_of_idle idle reads]
      exact layered.eraseIdx found idle
  | succ later => exact layered.set found later

theorem layered_slice {initial : Environ} (p : Process) (s : Slice) (nested : Nested p s)
    (layered : Layered initial p.env p.inProgress) : Layered initial (slice p s).2.env (slice p s).2.inProgress := by
  cases s with
  | call caller later => exact layered_begin p caller later layered
  | resume place =>
    cases found : p.inProgress[place]? with
    | none =>
      simp only [slice, found]
      exact layered
    | some e =>
      obtain ⟨newest, last⟩ := nested e found
      rw [slice_resume found]
      exact layered_proceed found (layered.reads found newest) last layered

theorem reads_slice {initial : Environ} (p : Process) (s : Slice) (nested : Nested p s)
    (layered : Layered initial p.env p.inProgress) {x : Identity} {env : Environ}
    (ran : (slice p s).1 = some (x, env)) : x.Reads env := by
  cases s with
  | call caller later =>
    obtain ⟨rfl, rfl⟩ := Prod.mk.inj (Option.some.inj ran)
    exact reads_enter _ _
  | resume place =>
    cases found : p.inProgress[place]? with
    | none => simp [slice, found] at ran
    | some e =>
      rw [slice_resume found] at ran
      obtain ⟨rfl, rfl⟩ := Prod.mk.inj (Option.some.inj ran)
      exact layered.reads found (nested e found).1

/-- Runs whose executions are nested do not cross. -/
theorem isolated_of_nested {initial : Environ} {slices : List Slice}
    (nested : ∀ t ∈ trace slice ⟨initial, []⟩ slices, Nested t.before t.event) : Isolated initial slices := by
  have start : Layered initial (Process.mk initial []).env (Process.mk initial []).inProgress := rfl
  have layered : ∀ p ∈ states slice ⟨initial, []⟩ slices, Layered initial p.env p.inProgress := fun p member =>
    states_inv_of layered_slice start nested member
  constructor
  · intro t member x env ran
    rw [transition_of_mem member] at ran
    exact reads_slice t.before t.event (nested t member) (layered _ (before_mem_states member)) ran
  · intro p member none
    have env := layered p member
    rw [none] at env
    exact env

def ann : Identity := ⟨"http://127.0.0.1:8001", "ann"⟩

def bob : Identity := ⟨"http://127.0.0.1:8002", "bob"⟩

def unset : Environ := fun _ => none

/-- Bob's call inside one of Ann's. -/
def enclosed : List Slice := [.call ann 1, .call bob 1, .resume 0, .resume 0]

/-- Ann's call goes on while Bob's is in progress, and ends first. -/
def crossed : List Slice := [.call ann 1, .call bob 1, .resume 1, .resume 0]

theorem isolated_enclosed : Isolated unset enclosed := by
  refine isolated_of_nested ?_
  intro t member
  simp only [enclosed, trace, transition, List.mem_cons, List.not_mem_nil, or_false] at member
  rcases member with rfl | rfl | rfl | rfl
  · trivial
  · trivial
  · exact nested_newest _
  · exact nested_newest _

theorem crossed_not_isolated : ¬ Isolated unset crossed := by
  rintro ⟨reads, -⟩
  let both : Process := final slice ⟨unset, []⟩ [.call ann 1, .call bob 1]
  have third : transition slice both (.resume 1) ∈ trace slice ⟨unset, []⟩ crossed :=
    List.mem_cons_of_mem _ (List.mem_cons_of_mem _ List.mem_cons_self)
  have own := (reads _ third ann (bob.enter (ann.enter unset)) rfl).2
  have seen : (bob.enter (ann.enter unset)) "ACTOR_ID" = some "bob" := (reads_enter bob _).2
  rw [seen] at own
  exact absurd own (by decide)

end AgentGym.Runner
