import AgentGym.Runner.Privilege
import AgentGym.Runner.Status
import AgentGym.Verifier.Raising
import AgentGym.Verifier.Witnessed

/-!
# What a pass says of a run

A run passes on the verdict about the world it captured, and on nothing else. With the page
verifier this verdict accounts for every write the world accepted during the run, so a pass
says what the agent did there.
-/

namespace AgentGym.Runner

open AgentGym.Runtime Steps World

/-! ### The verdict -/

section Judged

variable [PyText] {ω : Type} {outside : Outside ω} {provider : WorldProvider ω} {task : Task} {package : AgentPackage}
  {refuse : VerificationResult → Option String} {s s' : RunState ω}

theorem useWorld_captures {result : RuntimeResult} {final : WorldSnapshot}
    (ran : (useWorld outside provider task package).outcome s = (.ok (result, final), s')) :
    s'.finalSnapshot = some final := by
  obtain ⟨_, _, -, ran⟩ := outcome_bind_eq_ok ran
  obtain ⟨_, _, -, ran⟩ := outcome_bind_eq_ok ran
  obtain ⟨_, _, -, ran⟩ := outcome_bind_eq_ok ran
  obtain ⟨_, _, -, ran⟩ := outcome_bind_eq_ok ran
  obtain ⟨_, _, -, ran⟩ := outcome_bind_eq_ok ran
  obtain ⟨_, _, -, ran⟩ := outcome_bind_eq_ok ran
  obtain ⟨_, _, -, ran⟩ := outcome_bind_eq_ok ran
  obtain ⟨_, _, kept, ran⟩ := outcome_bind_eq_ok ran
  obtain ⟨same, rfl⟩ := Prod.mk.inj ran
  obtain ⟨-, rfl⟩ := Prod.mk.inj (Except.ok.inj same)
  rw [← (Prod.mk.inj kept).2]

theorem worldSession_captures {initial final : WorldSnapshot} {result : RuntimeResult}
    (ran : (worldSession outside provider task package initial).outcome s = (.ok (result, final), s')) :
    s'.finalSnapshot = some final := by
  obtain ⟨_, _, -, ran⟩ := outcome_bind_eq_ok ran
  obtain ⟨s₁, ran, stopped⟩ := outcome_andFinally_eq_ok ran
  obtain ⟨_, _, -, ran⟩ := outcome_bind_eq_ok ran
  have captured := useWorld_captures ran
  rw [inWorld, outcome_zoom] at stopped
  rw [← (Prod.mk.inj stopped).2]
  exact captured

omit [PyText] in
theorem verifyRecorded_ok {initial final : WorldSnapshot} {v : VerificationResult}
    (ran : (verifyRecorded outside refuse task initial final).outcome s = (.ok v, s')) :
    ∃ trajectory, outside.verify task initial final trajectory = .ok v := by
  obtain ⟨_, _, -, ran⟩ := outcome_bind_eq_ok ran
  obtain ⟨v', _, verified, ran⟩ := outcome_bind_eq_ok ran
  obtain ⟨_, _, -, ran⟩ := outcome_bind_eq_ok ran
  obtain rfl := Except.ok.inj (Prod.mk.inj ran).1
  exact ⟨_, mapError_eq_ok_iff.mp (Prod.mk.inj verified).1⟩

omit [PyText] in
/-- Only a verdict that passed gives a pass. -/
theorem judgeRecorded_pass {initial final : WorldSnapshot} {result : RuntimeResult} {v : VerificationResult}
    (ran : (judgeRecorded outside refuse task initial final result).outcome s = (.ok (v, .pass), s')) :
    v.passed = true ∧ ∃ trajectory, outside.verify task initial final trajectory = .ok v := by
  unfold judgeRecorded at ran
  split at ran
  · obtain ⟨v', _, verified, ran⟩ := outcome_bind_eq_ok ran
    obtain ⟨same, status⟩ := Prod.mk.inj (Except.ok.inj (Prod.mk.inj ran).1)
    subst same
    exact ⟨(statusAfterVerification_iff v').1.mp status, verifyRecorded_ok verified⟩
  · rename_i fault
    split at ran
    · rename_i failed
      obtain ⟨_, _, -, ran⟩ := outcome_bind_eq_ok ran
      have status := (Prod.mk.inj (Except.ok.inj (Prod.mk.inj ran).1)).2
      rw [failed] at status
      cases status
    · have status := (Prod.mk.inj (Except.ok.inj (Prod.mk.inj ran).1)).2
      exact absurd (by rw [status]; decide) fault

/-- A run passes only on a verdict about the world it read and the one it captured. -/
theorem passed_judged {budget : ExecutionBudget} {world : ω}
    (passed : (runRecorded outside refuse provider task package budget world).1.status = .pass) :
    ∃ initial final trajectory v, outside.readSnapshot task.initialSnapshotRef = .ok initial ∧
      (runRecorded outside refuse provider task package budget world).2.finalSnapshot = some final ∧
      outside.verify task initial final trajectory = .ok v ∧ v.passed = true := by
  unfold runRecorded at passed ⊢
  generalize ran : (executionRecorded outside refuse provider task package).outcome (started task package budget world) = ended
    at passed ⊢
  obtain ⟨answer, s⟩ := ended
  cases answer with
  | error e => cases e <;> cases passed
  | ok judged =>
    obtain ⟨v, status⟩ := judged
    obtain rfl : status = .pass := passed
    obtain ⟨initial, s₀, read, ran⟩ := outcome_bind_eq_ok ran
    obtain ⟨⟨result, final⟩, s₁, used, ran⟩ := outcome_bind_eq_ok ran
    have used : (worldSession outside provider task package initial).outcome s₀ = (.ok (result, final), s₁) :=
      Prod.ext (mapError_eq_ok_iff.mp (Prod.mk.inj used).1) (Prod.mk.inj used).2
    replace ran : (judgeRecorded outside refuse task initial final result).outcome s₁ = (.ok (v, .pass), s) := ran
    have keeps : Keeps SameWorld (judgeRecorded outside refuse task initial final result) := judgeRecorded_world
    have kept := keeps s₁
    rw [ran] at kept
    obtain ⟨good, trajectory, verified⟩ := judgeRecorded_pass ran
    exact ⟨initial, final, trajectory, v, mapError_eq_ok_iff.mp (Prod.mk.inj read).1,
      kept.2.trans (worldSession_captures used), verified, good⟩

end Judged

/-! ### The page verifier's verdict -/

section Earned

variable [PyText]

/-- An accepted write of page `k`, asked for under the actor's header. -/
def OwnWrite (transport : Transport) (actorId k : String) (t : Transition ConfluenceStore Event Response) : Prop :=
  (changeOf k t).isSome = true ∧
    ∃ actor apiCall, t.event = .request (some actor) apiCall ∧ transport.header actorId = .ok actor

/-- What a pass says of a run, in the terms of its task. -/
structure Earned (transport : Transport) (task : Task) (initial final : WorldSnapshot) (tr : History) : Prop where
  /-- The writes are those that the family and its configuration ask for. -/
  accounts : ∃ family config, task.metadata.get? "family" = some (.str family) ∧
    task.metadata.get? "verifier_config" = some (.obj config) ∧
    Verifier.Accounts family (Verifier.permissionMode task.metadata (.obj config)) (.obj config) tr
  /-- Where no write was accepted, nothing changed. -/
  unchanged : (∀ t ∈ tr, accepted t.event t.response = none) → final.resources = initial.resources
  /-- A page with more writes than the edits that were planned was written by the agent. -/
  own : ∀ k, (plannedEdit (task.metadata.get? "concurrency")).toList.length < (changes k tr).length →
    ∃ t ∈ tr, OwnWrite transport task.actorId k t

omit [PyText] in
theorem plannedEdits_le {transport : Transport} {actorId : String}
    {capabilities : List String} {concurrency : Option Json}
    {events : List Event} (permitted : ∀ e ∈ events, Permitted transport actorId capabilities concurrency e)
    (once : events.countP isEdit ≤ 1) : events.countP isEdit ≤ (plannedEdit concurrency).toList.length := by
  cases planned : plannedEdit concurrency with
  | some edit => exact once
  | none =>
    refine Nat.le_of_eq (List.countP_eq_zero.mpr fun e member edits => ?_)
    cases permitted e member with
    | request sent may => cases edits
    | humanEdit found => cases planned.symm.trans found

theorem trace_events (store : ConfluenceStore) (events : List Event) :
    (Machine.trace handle store events).map Transition.event = events := by
  induction events generalizing store with
  | nil => rfl
  | cons e events ih => exact congrArg (e :: ·) (ih _)

theorem own_write {transport : Transport} {actorId : String} {capabilities : List String} {concurrency : Option Json}
    {store : ConfluenceStore} {events : List Event}
    (permitted : ∀ e ∈ events, Permitted transport actorId capabilities concurrency e) {k : String}
    (more : events.countP isEdit < (changes k (Machine.trace handle store events)).length) :
    ∃ t ∈ Machine.trace handle store events, OwnWrite transport actorId k t := by
  by_contra none_
  have edited : ∀ t ∈ Machine.trace handle store events, (changeOf k t).isSome = true → isEdit t.event = true := by
    intro t member written
    cases event : t.event with
    | humanEdit edit => rfl
    | request header apiCall =>
      have may := permitted _ (event ▸ Machine.event_mem_of_mem member)
      cases may with
      | request sent _ => exact absurd ⟨t, member, written, _, _, event, sent⟩ none_
  have few := List.countP_mono_left edited
  rw [← List.length_filterMap_eq_countP] at few
  have counted : (Machine.trace handle store events).countP (fun t => isEdit t.event) = events.countP isEdit := by
    conv_rhs => rw [← trace_events store events, List.countP_map]
    rfl
  rw [counted] at few
  exact absurd more (Nat.not_lt.mpr few)

variable [Verifier.PyFloat] {transport : Transport} {grants : List String} {task : Task} {package : AgentPackage}
  {outside : Outside ProcessWorld} {baseUrl : String} {refuse : VerificationResult → Option String}

/-- A run over a staged world that passes the page verifier did what its family asks for, under the actor's own name. -/
theorem passed_run_earned (h : Baseline transport outside)
    (verifies : ∀ initial final trajectory, outside.verify task initial final trajectory =
      (Verifier.verify? task initial final trajectory).mapError Verifier.VerifierError.text)
    (staged : ∀ initial, outside.readSnapshot task.initialSnapshotRef = .ok initial →
      ∃ s : ConfluenceStore, ∃ snapshotId timestamp, s.Valid ∧ s.Keyed ∧ initial = s.snapshot snapshotId timestamp)
    {budget : ExecutionBudget} {w : ProcessWorld}
    (passed : (runRecorded outside refuse (processWorld transport grants baseUrl) task package budget w).1.status = .pass) :
    ∃ initial final store events, outside.readSnapshot task.initialSnapshotRef = .ok initial ∧
      (runRecorded outside refuse (processWorld transport grants baseUrl) task package budget w).2.finalSnapshot = some final ∧
      (runRecorded outside refuse (processWorld transport grants baseUrl) task package budget w).2.world.served =
        w.served ++ Machine.trace handle store events ∧
      Earned transport task initial final (Machine.trace handle store events) := by
  obtain ⟨initial, final, trajectory, v, read, captured, verified, good⟩ := passed_judged passed
  obtain ⟨initial', store, read', restored, ⟨events, world, allowed, once⟩, last⟩ | ⟨-, uncaptured⟩ :=
    runRecorded_accounted h grants task package baseUrl refuse budget w
  swap
  · cases uncaptured.symm.trans captured
  obtain rfl := Except.ok.inj (read.symm.trans read')
  obtain ⟨s, snapshotId, timestamp, valid, keyed, rfl⟩ := staged initial read
  rw [ConfluenceStore.restore_snapshot valid] at restored
  obtain rfl := (Prod.mk.inj restored).2
  have after : final.resources = (Machine.final handle s events).resources := by
    rw [last final captured, world]
    rfl
  rw [verifies] at verified
  obtain rfl := ((Verifier.returns_verify? v).mp (mapError_eq_ok_iff.mp verified)).2
  obtain ⟨family, config, familyField, configField, passes⟩ := Verifier.verify_passed good
  refine ⟨_, final, s, events, read, captured, congrArg ProcessWorld.served world, ?_, ?_, ?_⟩
  · exact ⟨family, config, familyField, configField,
      Verifier.accounts_family valid keyed events rfl after passes⟩
  · intro idle
    rw [after, (run_of_idle valid keyed events idle).1]
    rfl
  · exact fun k more => own_write allowed ((plannedEdits_le allowed once).trans_lt more)

end Earned

/-! ### A run that passes -/

/-- A model that writes the page at its version and is done, judged by the page verifier. -/
def writing : Outside ProcessWorld :=
  { editing with
    complete := fun messages _ w =>
      (.response ⟨some "done", if messages.length = 2 then [⟨"call-1", "update_page", (writeHome 1).2⟩] else [], none, none⟩, w)
    verify := fun task initial final trajectory =>
      (@Verifier.verify? asciiText Verifier.integers task initial final trajectory).mapError Verifier.VerifierError.text }

theorem writing_baseline : @Baseline asciiText plainTransport writing :=
  let _ := asciiText
  { elapsed := fun _ => rfl
    complete := fun _ _ _ => rfl
    listTools := fun _ _ => rfl
    tools := by
      intro root w tools w' listed tool member
      obtain rfl := Except.ok.inj (congrArg Prod.fst listed)
      exact member }

def writingTask : Task :=
  Verifier.taskOf "edit_page" [("expected_page_ids", .arr [.str "home"]), ("expected_final_body", .str "Changed")]

def writingRun : RunnerRollout × RunState ProcessWorld :=
  @runRecorded asciiText _ writing (fun _ => none)
    (@processWorld asciiText plainTransport pageCapabilities "http://127.0.0.1") writingTask
    ⟨"baseline", [], [], []⟩ {} blankWorld

theorem passed_run_earned_writing :
    ∃ initial final store events, writing.readSnapshot writingTask.initialSnapshotRef = .ok initial ∧
    writingRun.2.finalSnapshot = some final ∧
    writingRun.2.world.served = blankWorld.served ++ Machine.trace (@handle asciiText) store events ∧
    Earned plainTransport writingTask initial final (Machine.trace (@handle asciiText) store events) := by
  have passed : writingRun.1.status = .pass := by decide +kernel
  have coherent : homeStore.Coherent := ConfluenceStore.soloStore_coherent ["ann"] rfl
  unfold writingRun at passed ⊢
  exact @passed_run_earned asciiText Verifier.integers plainTransport pageCapabilities writingTask
    ⟨"baseline", [], [], []⟩ writing "http://127.0.0.1" (fun _ => none) writing_baseline (fun _ _ _ => rfl)
    (fun initial read => ⟨homeStore, "staged", "t", coherent.valid, coherent.keyed, (Except.ok.inj read).symm⟩) {} blankWorld
    passed

end AgentGym.Runner
