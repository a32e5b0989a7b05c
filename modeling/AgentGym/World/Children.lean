import AgentGym.World.Process
import AgentGym.Lib.Machine

/-!
# No child is left behind

A provider has at most one child running, and it is the one that it holds. A call that
stops the world, and a start that raises, leaves none.
-/

namespace AgentGym.World

open Steps

/-! ### Time -/

/-- What time does to a child: it keeps its port and its key, and once ended it stays so. -/
structure Child.Later (c c' : Child) : Prop where
  port : c'.port = c.port
  controlKey : c'.controlKey = c.controlKey
  running : c'.running = true → c.running = true

theorem Child.Later.refl (c : Child) : c.Later c := ⟨rfl, rfl, id⟩

theorem Child.next_later (entry : Option ConfluenceStore) (fate : Fate) (c : Child) : c.Later (c.next entry fate) := by
  unfold Child.next
  split
  · exact .refl c
  · exact .refl c
  · exact ⟨rfl, rfl, nofun⟩
  · rename_i unended
    have running : c.running = true := by simp [Child.running, unended]
    split
    · exact .refl c
    · exact ⟨rfl, rfl, fun _ => running⟩
    · exact ⟨rfl, rfl, nofun⟩

theorem Child.finish_ended (code : Int) (c : Child) : (c.finish code).running = false := by
  unfold Child.finish
  split
  · rename_i ended
    simp [Child.running, ended]
  · rfl

structure Host.Later (h h' : Host) : Prop where
  length : h'.children.length = h.children.length
  child : ∀ (pid : Nat) (c' : Child), h'.children[pid]? = some c' → ∃ c : Child, h.children[pid]? = some c ∧ c.Later c'
  now : h.now ≤ h'.now

namespace Host.Later

variable {h h' h'' : Host}

theorem refl (h : Host) : h.Later h := ⟨rfl, fun _ c found => ⟨c, found, .refl c⟩, le_rfl⟩

theorem trans (first : h.Later h') (later : h'.Later h'') : h.Later h'' where
  length := later.length.trans first.length
  child := by
    intro pid c'' found
    obtain ⟨c', found', second⟩ := later.child pid c'' found
    obtain ⟨c, found, start⟩ := first.child pid c' found'
    exact ⟨c, found, second.port.trans start.port, second.controlKey.trans start.controlKey,
      start.running ∘ second.running⟩
  now := first.now.trans later.now

theorem there (later : h.Later h') {pid : Nat} {c : Child} (found : h.children[pid]? = some c) :
    ∃ c', h'.children[pid]? = some c' ∧ c.Later c' := by
  obtain ⟨bound, -⟩ := List.getElem?_eq_some_iff.mp found
  have present := List.getElem?_eq_getElem (later.length.symm ▸ bound : pid < h'.children.length)
  obtain ⟨c₀, found₀, aged⟩ := later.child pid _ present
  obtain rfl := Option.some.inj (found.symm.trans found₀)
  exact ⟨_, present, aged⟩

end Host.Later

theorem Host.wait_later [PyText] (around : Surroundings) (host : Host) (atLeast : Nat) : host.Later (host.wait around atLeast) where
  length := List.length_mapIdx
  child := by
    intro pid c' found
    rw [Host.wait, List.getElem?_mapIdx] at found
    obtain ⟨c, before, rfl⟩ := Option.map_eq_some_iff.mp found
    exact ⟨c, before, Child.next_later _ _ c⟩
  now := by
    rw [Host.wait, Nat.add_assoc]
    exact Nat.le_add_right _ _

theorem Host.modify_children (host : Host) (pid pid' : Nat) (f : Child → Child) :
    (host.modify pid f).children[pid']? = host.children[pid']?.map fun c => if pid = pid' then f c else c := by
  rw [Host.modify, List.getElem?_modify]
  rfl

theorem Host.modify_later (host : Host) (pid : Nat) {f : Child → Child} (later : ∀ c : Child, c.Later (f c)) :
    host.Later (host.modify pid f) where
  length := List.length_modify ..
  child := by
    intro pid' c' found
    rw [Host.modify_children] at found
    obtain ⟨c, before, rfl⟩ := Option.map_eq_some_iff.mp found
    refine ⟨c, before, ?_⟩
    split
    · exact later c
    · exact .refl c
  now := le_rfl

/-- Time passed, and the provider holds what it held. -/
structure ProcessState.Later (s s' : ProcessState) : Prop where
  process : s'.process = s.process
  port : s'.port = s.port
  baseUrl : s'.baseUrl = s.baseUrl
  host : s.host.Later s'.host

theorem ProcessState.Later.refl (s : ProcessState) : s.Later s := ⟨rfl, rfl, rfl, .refl _⟩

theorem ProcessState.Later.trans (a b c : ProcessState) (first : a.Later b) (later : b.Later c) : a.Later c :=
  ⟨later.process.trans first.process, later.port.trans first.port, later.baseUrl.trans first.baseUrl,
    first.host.trans later.host⟩

section Provider

variable [PyText] (around : Surroundings)

theorem wait_keeps (atLeast : Nat) : Keeps ProcessState.Later (wait around atLeast) :=
  fun s => ⟨rfl, rfl, rfl, s.host.wait_later around atLeast⟩

theorem exchange_keeps {α : Type} (url : LoopbackUrl) (answer : Child → ConfluenceStore → α × ConfluenceStore) :
    Keeps ProcessState.Later (exchange around url answer) := by
  intro s
  have waited : s.Later { s with host := s.host.wait around 0 } := wait_keeps around 0 s
  unfold exchange
  rw [outcome_ofFn]
  dsimp only
  split
  · exact waited
  · exact waited
  · refine waited.trans _ _ _ ?_
    split <;> exact ⟨rfl, rfl, rfl, Host.modify_later _ _ fun c => ⟨rfl, rfl, id⟩⟩

variable (provider : ProcessWorldProvider)

namespace ProcessWorldProvider

theorem controlRequest_keeps (path : ControlPath) (body : Option Json) :
    Keeps ProcessState.Later (provider.controlRequest around path body) := by
  refine keeps_bind ProcessState.Later.trans (keeps_get .refl) fun s => ?_
  split
  · exact keeps_throw .refl _
  · refine keeps_mapError (keeps_bind ProcessState.Later.trans (exchange_keeps around _ _) fun _ => ?_)
    exact keeps_lift .refl _

theorem restore_keeps (snap : WorldSnapshot) : Keeps ProcessState.Later (provider.restore around snap) :=
  keeps_bind ProcessState.Later.trans (provider.controlRequest_keeps around _ _) fun _ => keeps_pure .refl _

theorem snapshot_keeps : Keeps ProcessState.Later (provider.snapshot around) :=
  keeps_bind ProcessState.Later.trans (provider.controlRequest_keeps around _ _) fun _ => keeps_lift .refl _

theorem humanEdit_keeps (pageId actor body : String) : Keeps ProcessState.Later (provider.humanEdit around pageId actor body) := by
  refine keeps_bind ProcessState.Later.trans (provider.controlRequest_keeps around _ _) fun _ => ?_
  split
  · exact keeps_pure .refl _
  · exact keeps_throw .refl _

theorem probe_keeps (deadline passes : Nat) (lastError : Option ProviderError) :
    Keeps ProcessState.Later (provider.probe around deadline passes lastError) := by
  induction passes generalizing lastError with
  | zero => exact keeps_throw .refl _
  | succ passes ih =>
    refine keeps_bind ProcessState.Later.trans (keeps_get .refl) fun s => ?_
    split
    · exact keeps_throw .refl _
    · split
      · exact keeps_throw .refl _
      · split
        · exact keeps_throw .refl _
        · refine keeps_bind ProcessState.Later.trans (keeps_attempt (provider.controlRequest_keeps around _ _)) fun answer => ?_
          split
          · exact keeps_pure .refl _
          · exact keeps_throw .refl _
          · exact keeps_bind ProcessState.Later.trans (wait_keeps around 50) fun _ => ih _

/-- The passes are enough: with more of them, the loop does the same. -/
theorem probe_enough {deadline passes : Nat} {lastError : Option ProviderError} {s : ProcessState}
    (left : deadline ≤ s.host.now + passes) :
    (provider.probe around deadline (passes + 1) lastError).outcome s =
      (provider.probe around deadline passes lastError).outcome s := by
  induction passes generalizing s lastError with
  | zero =>
    rw [probe, probe, outcome_bind, outcome_get]
    dsimp only
    rw [if_pos (by simpa using left)]
  | succ passes ih =>
    rw [probe, probe, outcome_bind, outcome_bind, outcome_get]
    dsimp only
    split
    · rfl
    · split
      · rfl
      · split
        · rfl
        · rw [outcome_bind, outcome_bind, outcome_attempt]
          dsimp only
          split
          · rfl
          · rfl
          · rw [outcome_bind, outcome_bind, wait, outcome_modify]
            have asked : s.Later _ := provider.controlRequest_keeps around .snapshot none s
            have slept := Nat.add_le_add_right asked.host.now 50
            refine ih ?_
            show deadline ≤ _ + 50 + _ + passes
            omega

theorem waitUntilReady_keeps : Keeps ProcessState.Later (provider.waitUntilReady around) :=
  keeps_bind ProcessState.Later.trans (keeps_get .refl) fun _ => provider.probe_keeps around _ _ _

end ProcessWorldProvider

end Provider

/-! ### Supervision -/

/-- Every running child is the one the provider holds, and what it holds belongs to that child. -/
structure Supervised (provider : ProcessWorldProvider) (s : ProcessState) : Prop where
  owned : ∀ (pid : Nat) (c : Child), s.host.children[pid]? = some c → c.running = true → s.process = some pid
  held : ∀ pid, s.process = some pid → ∃ c : Child, s.host.children[pid]? = some c ∧
    c.controlKey = provider.controlKey ∧ s.port = some c.port ∧ s.baseUrl = some ⟨c.port⟩
  released : s.process = none → s.port = none ∧ s.baseUrl = none

def Host.AllEnded (host : Host) : Prop := ∀ (pid : Nat) (c : Child), host.children[pid]? = some c → c.running = false

/-- No child runs, and the provider holds nothing. -/
structure Stopped (s : ProcessState) : Prop where
  ended : s.host.AllEnded
  process : s.process = none
  port : s.port = none
  baseUrl : s.baseUrl = none

theorem Host.AllEnded.later {h h' : Host} (ended : h.AllEnded) (later : h.Later h') : h'.AllEnded := by
  intro pid c' found
  obtain ⟨c, before, aged⟩ := later.child pid c' found
  exact Bool.eq_false_iff.mpr fun running => Bool.eq_false_iff.mp (ended pid c before) (aged.running running)

section Supervision

variable {provider : ProcessWorldProvider} {s s' : ProcessState}

theorem Stopped.supervised (stopped : Stopped s) : Supervised provider s where
  owned := by
    intro pid c found running
    rw [stopped.ended pid c found] at running
    cases running
  held := by
    intro pid holds
    rw [stopped.process] at holds
    cases holds
  released _ := ⟨stopped.port, stopped.baseUrl⟩

namespace Supervised

theorem later (h : Supervised provider s) (time : s.Later s') : Supervised provider s' where
  owned := by
    intro pid c' found running
    obtain ⟨c, before, aged⟩ := time.host.child pid c' found
    exact time.process.trans (h.owned pid c before (aged.running running))
  held := by
    intro pid holds
    obtain ⟨c, found, key, port, url⟩ := h.held pid (time.process.symm.trans holds)
    obtain ⟨c', found', aged⟩ := time.host.there found
    refine ⟨c', found', aged.controlKey.trans key, ?_, ?_⟩
    · rw [time.port, port, aged.port]
    · rw [time.baseUrl, url, aged.port]
  released := by
    intro none
    rw [time.port, time.baseUrl]
    exact h.released (time.process.symm.trans none)

/-- The child it holds has ended, so every child has. -/
theorem allEnded (h : Supervised provider s) (idle : s.running = false) : s.host.AllEnded := by
  intro pid c found
  refine Bool.eq_false_iff.mpr fun running => ?_
  have holds := h.owned pid c found running
  have runs : s.running = true := by simp [ProcessState.running, ProcessState.child, holds, found, running]
  rw [idle] at runs
  cases runs

end Supervised

namespace ProcessWorldProvider

section Calls

variable [PyText] (around : Surroundings)

/-- The host once the provider's child is told to end. -/
def stoppedHost (s : ProcessState) : Host :=
  match s.process with
  | none => s.host
  | some pid =>
    if s.running then
      let host := s.host.wait around 0
      host.modify pid (Child.finish ((around.heeds host.moment).getD (-9)))
    else s.host

theorem stop_outcome (s : ProcessState) :
    (stop around).outcome s = (.ok (), ⟨none, none, none, stoppedHost around s⟩) := by
  unfold stop stoppedHost
  rw [outcome_bind, outcome_get]
  dsimp only
  rw [outcome_bind, outcome_set]
  dsimp only
  cases s.process with
  | none => rfl
  | some pid => cases s.running <;> rfl

theorem stoppedHost_ended (h : Supervised provider s) : (stoppedHost around s).AllEnded := by
  unfold stoppedHost
  split
  · rename_i none
    exact h.allEnded (by simp [ProcessState.running, ProcessState.child, none])
  · rename_i pid holds
    split
    · intro other c found
      rw [Host.modify_children] at found
      obtain ⟨c', waited, rfl⟩ := Option.map_eq_some_iff.mp found
      split
      · exact Child.finish_ended _ c'
      · rename_i different
        obtain ⟨c₀, before, aged⟩ := (s.host.wait_later around 0).child other c' waited
        refine Bool.eq_false_iff.mpr fun running => different ?_
        exact Option.some.inj (holds.symm.trans (h.owned other c₀ before (aged.running running)))
    · rename_i idle
      exact h.allEnded (Bool.eq_false_iff.mpr idle)

theorem stop_triple : Triple (Supervised provider) (stop around) (fun _ => Stopped) (fun _ _ => False) := by
  intro s h
  rw [stop_outcome]
  exact ⟨stoppedHost_ended around h, rfl, rfl, rfl⟩

omit [PyText] in
/-- A host whose children have all ended takes a new one. -/
theorem adopt_supervised (ended : s.host.AllEnded) (port : Nat) : Supervised provider (provider.adopt port s) where
  owned := by
    intro pid c found running
    rcases List.getElem?_append.symm.trans found with found
    split at found
    · rw [ended pid c found] at running
      cases running
    · rename_i past
      have last : pid - s.host.children.length = 0 := by
        obtain ⟨bound, -⟩ := List.getElem?_eq_some_iff.mp found
        simpa using bound
      show some s.host.children.length = some pid
      rw [show pid = s.host.children.length by omega]
  held := by
    intro pid holds
    obtain rfl := Option.some.inj holds
    exact ⟨provider.spawned port, List.getElem?_concat_length, rfl, rfl, rfl⟩
  released := nofun

theorem awaitChild_supervised :
    Triple (Supervised provider) (provider.awaitChild around) (fun _ => Supervised provider) (fun _ => Stopped) := by
  refine triple_bind (Q := fun _ => Supervised provider) ?_ fun answer => ?_
  · exact fun s h => h.later (provider.waitUntilReady_keeps around s)
  · split
    · exact triple_pure fun _ => id
    · exact triple_bind ((stop_triple around).failure fun _ _ => False.elim) fun _ => triple_throw fun _ => id

/-- After a start that raises, no child runs. -/
theorem start_supervised :
    Triple (Supervised provider) (provider.start around) (fun _ => Supervised provider)
      (fun _ s => Supervised provider s ∧ s.host.AllEnded) := by
  intro s h
  unfold start
  rw [outcome_bind, outcome_get]
  dsimp only
  split
  · exact h
  · rename_i idle
    have ended : s.host.AllEnded := h.allEnded (Bool.eq_false_iff.mpr idle)
    have unchanged : ∀ {α : Type} (a : Except ProviderError α),
        Triple (· = s) (lift a) (fun _ => (· = s)) (fun _ s => Supervised provider s ∧ s.host.AllEnded) := by
      rintro α (e | a) s rfl
      · exact ⟨h, ended⟩
      · rfl
    refine triple_bind (unchanged _) (fun port => triple_bind (unchanged _) fun _ => ?_) s rfl
    refine triple_bind (Q := fun _ s => s.host.AllEnded) ?_ fun _ => ?_
    · rintro s rfl
      exact ended.later (s.host.wait_later around 0)
    · refine triple_bind (Q := fun _ => Supervised provider) (triple_modify fun s ended => adopt_supervised ended port) fun _ => ?_
      exact (awaitChild_supervised around).failure fun _ s stopped => ⟨stopped.supervised, stopped.ended⟩

end Calls

end ProcessWorldProvider

end Supervision

end AgentGym.World
