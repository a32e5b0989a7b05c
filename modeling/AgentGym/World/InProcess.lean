import AgentGym.World.Children

/-!
# The process world as a world in process

Seen from outside, a provider is a store in process that is there or is not. A call that
answers does what the store does; one that raises was handled or was not, or found the
child gone, and then nothing is served until the next start.
-/

namespace AgentGym.World

open Steps

/-! ### Calls -/

/-- What a world that is up is used for. -/
inductive Use where
  | restore (snap : WorldSnapshot)
  | snapshot
  | humanEdit (pageId actor body : String)
  | request (actor : Option String) (apiCall : ApiCall)

inductive ProviderCall where
  | start
  | stop
  | capabilities
  | use (u : Use)
  /-- No call, but time that passes before the next one. -/
  | rest (atLeast : Nat)

inductive Reply where
  | done
  | snapshot (snap : WorldSnapshot)
  | payload (json : Json)
  | response (r : Response)
  | capabilities (granted : List Capability)

section Calls

variable [PyText]

/-- The use of a store in process, which has no reply when it raises. -/
def inProcess (time : String) (store : ConfluenceStore) : Use → Option Reply × ConfluenceStore
  | .restore snap =>
    match store.restore snap with
    | (.ok (), store) => (some .done, store)
    | (.error _, store) => (none, store)
  | .snapshot => (some (.snapshot (store.snapshot defaultSnapshotId time)), store)
  | .humanEdit pageId actor body =>
    match HumanEditRequest.checked pageId actor body with
    | some edit =>
      match World.humanEdit store edit with
      | (.edited page, store) => (some (.payload (.ofDict page.modelDump)), store)
      | (_, store) => (none, store)
    | none => (none, store)
  | .request actor apiCall =>
    let (r, store) := handle store (.request actor apiCall)
    (some (.response r), store)

variable (around : Surroundings) (provider : ProcessWorldProvider)

/-- The raw API at the provider's address. -/
def callRaw (actor : Option String) (apiCall : ApiCall) : Act Response := do
  let s ← get
  match s.baseUrl with
  | none => throw notStarted
  | some url => mapError ProcessWorldProvider.requestFailure (rawRequest around url actor apiCall)

def useWorld : Use → Act Reply
  | .restore snap => (fun _ => .done) <$> provider.restore around snap
  | .snapshot => .snapshot <$> provider.snapshot around
  | .humanEdit pageId actor body => .payload <$> provider.humanEdit around pageId actor body
  | .request actor apiCall => .response <$> callRaw around actor apiCall

def perform : ProviderCall → Act Reply
  | .start => (fun _ => .done) <$> provider.start around
  | .stop => (fun _ => .done) <$> ProcessWorldProvider.stop around
  | .capabilities => .capabilities <$> provider.capabilities
  | .use u => useWorld around provider u
  | .rest atLeast => (fun _ => .done) <$> wait around atLeast

end Calls

/-! ### Serving -/

/-- The child the provider holds runs, and serves the store. -/
def Serves (s : ProcessState) (store : ConfluenceStore) : Prop :=
  ∃ c, s.child = some c ∧ c.running = true ∧ c.serving = some store

/-- A child serves what it read from the snapshot file. -/
def Entered [LaxInt] (around : Surroundings) (s : ProcessState) : Prop :=
  ∀ c store, s.child = some c → c.serving = some store → ∃ moment, entryStore (around.snapshotFile moment) = some store

/-- The state after a wait. -/
def ProcessState.waited [PyText] (around : Surroundings) (atLeast : Nat) (s : ProcessState) : ProcessState :=
  { s with host := s.host.wait around atLeast }

/-- The state once the child of that number has written its store. -/
def ProcessState.put (pid : Nat) (store : ConfluenceStore) (s : ProcessState) : ProcessState :=
  { s with host := s.host.modify pid fun c => { c with serving := some store } }

section Serving

variable [PyText] (around : Surroundings) {provider : ProcessWorldProvider} {s : ProcessState} {store : ConfluenceStore}

omit [PyText] in
theorem server_some {host : Host} {port pid : Nat} {c : Child} (found : host.server port = some (pid, c, store)) :
    host.children[pid]? = some c ∧ c.port = port ∧ c.running = true ∧ c.serving = some store := by
  obtain ⟨⟨c', pid'⟩, member, listens⟩ := List.exists_of_findSome?_eq_some found
  dsimp only at listens
  split at listens
  · rename_i here
    obtain ⟨store', serving, same⟩ := Option.map_eq_some_iff.mp listens
    obtain ⟨rfl, rfl, rfl⟩ : pid' = pid ∧ c' = c ∧ store' = store := by simpa using same
    exact ⟨List.mem_zipIdx_iff_getElem?.mp member, here.1, here.2, serving⟩
  · cases listens

omit [PyText] in
theorem server_none {host : Host} {port pid : Nat} {c : Child} (missing : host.server port = none)
    (found : host.children[pid]? = some c) (here : c.port = port) (running : c.running = true) : c.serving = none := by
  have unheard := List.findSome?_eq_none_iff.mp missing (c, pid) (List.mem_zipIdx_iff_getElem?.mpr found)
  simpa [here, running] using unheard

omit [PyText] in
/-- The provider's address leads to its own child alone. -/
theorem Supervised.server (h : Supervised provider s) {port pid : Nat} {c : Child}
    (found : s.host.server port = some (pid, c, store)) :
    s.process = some pid ∧ s.child = some c ∧ c.running = true ∧ c.serving = some store ∧
      c.controlKey = provider.controlKey := by
  obtain ⟨present, -, running, serving⟩ := server_some found
  have holds := h.owned pid c present running
  obtain ⟨c', present', key, -⟩ := h.held pid holds
  obtain rfl := Option.some.inj (present.symm.trans present')
  exact ⟨holds, by rw [ProcessState.child, holds]; exact present, running, serving, key⟩

omit [PyText] in
theorem Supervised.reached {url : LoopbackUrl} (h : Supervised provider s) (known : s.baseUrl = some url)
    (serves : Serves s store) : ∃ pid c, s.host.server url.port = some (pid, c, store) := by
  obtain ⟨c, child, running, serving⟩ := serves
  obtain ⟨pid, holds, present⟩ := Option.bind_eq_some_iff.mp child
  obtain ⟨c', present', -, -, address⟩ := h.held pid holds
  obtain rfl := Option.some.inj (present.symm.trans present')
  have here : c.port = url.port := congrArg LoopbackUrl.port (Option.some.inj (address.symm.trans known))
  cases found : s.host.server url.port with
  | none =>
    rw [server_none found present here running] at serving
    cases serving
  | some server =>
    obtain ⟨pid', c', store'⟩ := server
    obtain ⟨-, child', -, serving', -⟩ := h.server found
    obtain rfl := Option.some.inj (child.symm.trans child')
    obtain rfl := Option.some.inj (serving.symm.trans serving')
    exact ⟨_, _, rfl⟩

theorem waited_later (atLeast : Nat) : s.Later (s.waited around atLeast) := wait_keeps around atLeast s

omit [PyText] in
theorem put_later (pid : Nat) : s.Later (s.put pid store) :=
  ⟨rfl, rfl, rfl, Host.modify_later _ _ fun _ => ⟨rfl, rfl, id⟩⟩

theorem waited_child (atLeast : Nat) {c' : Child} (child : (s.waited around atLeast).child = some c') :
    ∃ pid c, s.child = some c ∧
      c' = c.next (entryStore (around.snapshotFile s.host.moment)) (around.fate s.host.moment pid) := by
  obtain ⟨pid, holds, present⟩ := Option.bind_eq_some_iff.mp child
  change (s.host.children.mapIdx _)[pid]? = some c' at present
  rw [List.getElem?_mapIdx] at present
  obtain ⟨c, before, rfl⟩ := Option.map_eq_some_iff.mp present
  exact ⟨pid, c, by rw [ProcessState.child, show s.process = some pid from holds]; exact before, rfl⟩

/-- A child that serves goes on serving its store, or ends. -/
theorem Serves.waited (h : Supervised provider s) (serves : Serves s store) (atLeast : Nat) :
    Serves (s.waited around atLeast) store ∨ (s.waited around atLeast).host.AllEnded := by
  have later : s.Later (s.waited around atLeast) := waited_later around atLeast
  cases runs : (s.waited around atLeast).running with
  | false => exact Or.inr ((h.later later).allEnded runs)
  | true =>
    obtain ⟨c', child, running⟩ := (Option.any_eq_true _ _).mp runs
    obtain ⟨pid, c, before, rfl⟩ := waited_child around atLeast child
    obtain ⟨c₀, child₀, -, serving⟩ := serves
    obtain rfl := Option.some.inj (before.symm.trans child₀)
    refine Or.inl ⟨_, child, running, ?_⟩
    unfold Child.next
    split
    · exact serving
    · exact serving
    · exact serving
    · simp [serving]

theorem Entered.waited (entered : Entered around s) (atLeast : Nat) : Entered around (s.waited around atLeast) := by
  intro c' store child serving
  obtain ⟨pid, c, before, rfl⟩ := waited_child around atLeast child
  unfold Child.next at serving
  split at serving
  · exact entered c store before serving
  · exact entered c store before serving
  · exact entered c store before serving
  · split at serving
    · exact entered c store before serving
    · rename_i entry
      exact ⟨_, entry.trans serving⟩
    · rename_i silent _
      rw [silent] at serving
      cases serving

omit [PyText] in
theorem put_child {pid : Nat} {c : Child} (holds : s.process = some pid) (child : s.child = some c) :
    (s.put pid store).child = some { c with serving := some store } := by
  rw [ProcessState.child, holds] at child
  show s.process.bind _ = _
  rw [holds]
  show (s.host.modify pid _).children[pid]? = _
  rw [Host.modify_children, show s.host.children[pid]? = some c from child]
  simp

omit [PyText] in
theorem put_serves {pid : Nat} {c : Child} (holds : s.process = some pid) (child : s.child = some c)
    (running : c.running = true) : Serves (s.put pid store) store :=
  ⟨_, put_child holds child, running, rfl⟩

/-! ### Requests -/

/-- A request is lost, or handled by the child the provider holds. -/
inductive Exchanged {α : Type} (provider : ProcessWorldProvider) (answer : Child → ConfluenceStore → α × ConfluenceStore)
    (s : ProcessState) : Except RequestError α × ProcessState → Prop
  | lost (e : RequestError) : Exchanged provider answer s (.error e, s)
  | handled {pid : Nat} {c : Child} {w : ConfluenceStore} (r : Except RequestError α) (holds : s.process = some pid)
      (child : s.child = some c) (running : c.running = true) (serving : c.serving = some w)
      (key : c.controlKey = provider.controlKey) (answered : ∀ a, r = .ok a → a = (answer c w).1) :
      Exchanged provider answer s (r, s.put pid (answer c w).2)

theorem exchange_exchanged {α : Type} (h : Supervised provider s) (url : LoopbackUrl)
    (answer : Child → ConfluenceStore → α × ConfluenceStore) :
    Exchanged provider answer (s.waited around 0) ((exchange around url answer).outcome s) := by
  have later := h.later (waited_later around 0)
  unfold exchange
  rw [outcome_ofFn]
  dsimp only
  split
  · exact .lost _
  · exact .lost _
  · rename_i pid c w found _
    obtain ⟨holds, child, running, serving, key⟩ := later.server found
    split
    · exact .handled (.error _) holds child running serving key (by simp)
    · exact .handled (.ok _) holds child running serving key (by simp)

/-- A request to a child that serves a store: it is not handled, or it is answered from that store. -/
theorem exchange_serves {α : Type} (h : Supervised provider s) (serves : Serves s store) (url : LoopbackUrl)
    (answer : Child → ConfluenceStore → α × ConfluenceStore) {r : Except RequestError α} {s' : ProcessState}
    (ran : (exchange around url answer).outcome s = (r, s')) :
    (∃ e, r = .error e ∧ (s'.host.AllEnded ∨ Serves s' store)) ∨
      ∃ c : Child, c.controlKey = provider.controlKey ∧ Serves s' (answer c store).2 ∧
        ∀ a, r = .ok a → a = (answer c store).1 := by
  have exchanged := exchange_exchanged around h url answer
  rw [ran] at exchanged
  cases exchanged with
  | lost e => exact Or.inl ⟨e, rfl, (serves.waited around h 0).symm⟩
  | handled r holds child running serving key answered =>
    rename_i pid c w
    obtain ⟨c₀, child₀, -, serving₀⟩ | ended := serves.waited around h 0
    · obtain rfl := Option.some.inj (child.symm.trans child₀)
      obtain rfl := Option.some.inj (serving.symm.trans serving₀)
      exact Or.inr ⟨c, key, put_serves holds child running, answered⟩
    · obtain ⟨pid', -, present⟩ := Option.bind_eq_some_iff.mp child
      rw [ended pid' c present] at running
      cases running

omit [PyText] in
theorem Serves.url (h : Supervised provider s) (serves : Serves s store) : ∃ url, s.baseUrl = some url := by
  obtain ⟨c, child, -, -⟩ := serves
  obtain ⟨pid, holds, -⟩ := Option.bind_eq_some_iff.mp child
  obtain ⟨_, -, -, -, url⟩ := h.held pid holds
  exact ⟨_, url⟩

theorem controlRequest_serves (h : Supervised provider s) (serves : Serves s store) (path : ControlPath)
    (body : Option Json) {r : Except ProviderError Json} {s' : ProcessState}
    (ran : (provider.controlRequest around path body).outcome s = (r, s')) :
    let handled := control provider.controlKey store (some provider.controlKey)
      (controlCall path body (around.timestamp s.host.moment))
    (∃ e, r = .error e ∧ (s'.host.AllEnded ∨ Serves s' store)) ∨
      Serves s' handled.2 ∧ ∀ json, r = .ok json → controlJson handled.1 = .ok json := by
  intro handled
  obtain ⟨url, known⟩ := serves.url h
  unfold ProcessWorldProvider.controlRequest at ran
  rw [outcome_bind, outcome_get] at ran
  simp only [known, outcome_mapError, ProcessWorldProvider.sendControl, outcome_bind] at ran
  generalize asked : (exchange around url (provider.controlAnswer _)).outcome s = asking at ran
  obtain ⟨answer, s₁⟩ := asking
  obtain ⟨e, rfl, kept⟩ | ⟨c, key, next, answered⟩ := exchange_serves around h serves url _ asked
  · obtain ⟨rfl, rfl⟩ := Prod.mk.inj ran
    exact Or.inl ⟨_, rfl, kept⟩
  · have same : provider.controlAnswer (controlCall path body (around.timestamp s.host.moment)) c store = handled := by
      rw [ProcessWorldProvider.controlAnswer, key]
    rw [same] at next answered
    cases answer with
    | error e =>
      obtain ⟨rfl, rfl⟩ := Prod.mk.inj ran
      exact Or.inr ⟨next, nofun⟩
    | ok response =>
      obtain rfl := answered response rfl
      simp only [outcome_lift] at ran
      obtain ⟨rfl, rfl⟩ := Prod.mk.inj ran
      refine Or.inr ⟨next, fun json ok => ?_⟩
      cases given : controlJson handled.1 with
      | ok json' =>
        rw [given] at ok
        exact congrArg Except.ok (Except.ok.inj ok)
      | error status =>
        rw [given] at ok
        cases ok

/-! ### Uses -/

/-- A use that answers does what the store in process does; one that raises did it, did not, or found the child gone. -/
def Used (w w' : ConfluenceStore) (reply : Option Reply) : Except ProviderError Reply × ProcessState → Prop
  | (.ok r, s') => reply = some r ∧ Serves s' w'
  | (.error _, s') => s'.host.AllEnded ∨ Serves s' w ∨ Serves s' w'

/-- A use through a control route. -/
theorem control_used (h : Supervised provider s) (serves : Serves s store) (path : ControlPath) (body : Option Json)
    (read : Json → Except ProviderError Reply) {w' : ConfluenceStore} {reply : Option Reply} {m : Act Reply}
    (shape : m = provider.controlRequest around path body >>= fun json => lift (read json))
    (handled : (control provider.controlKey store (some provider.controlKey)
      (controlCall path body (around.timestamp s.host.moment))).2 = w')
    (replied : ∀ json r, controlJson (control provider.controlKey store (some provider.controlKey)
      (controlCall path body (around.timestamp s.host.moment))).1 = .ok json → read json = .ok r → reply = some r) :
    Used store w' reply (m.outcome s) := by
  subst shape
  rw [outcome_bind]
  generalize asked : (provider.controlRequest around path body).outcome s = asking
  obtain ⟨answer, s₁⟩ := asking
  have served := controlRequest_serves around h serves path body asked
  dsimp only at served
  rw [handled] at served
  cases answer with
  | error e =>
    obtain ⟨_, -, ended | kept⟩ | ⟨next, -⟩ := served
    · exact Or.inl ended
    · exact Or.inr (Or.inl kept)
    · exact Or.inr (Or.inr next)
  | ok json =>
    obtain ⟨_, failed, -⟩ | ⟨next, answered⟩ := served
    · cases failed
    · dsimp only
      rw [outcome_lift]
      cases given : read json with
      | error e => exact Or.inr (Or.inr next)
      | ok r => exact ⟨replied json r (answered json rfl) given, next⟩

theorem control_restore (provider : ProcessWorldProvider) (store : ConfluenceStore) (snap : WorldSnapshot) (time : String) :
    control provider.controlKey store (some provider.controlKey)
      (controlCall .restore (some (Runner.snapshotDump snap)) time) =
      match store.restore snap with
      | (.error _, store) => (.answer .serverError, store)
      | (.ok (), store) => (.snapshot (store.snapshot snap.id snap.timestamp), store) := by
  simp only [controlCall, Option.map_some, snapshotValidate_dump, Except.toOption, Option.bind_some, control]
  exact if_neg (by simp)

omit [PyText] in
theorem humanEditValidate_body (pageId actor body : String) :
    humanEditValidate (ProcessWorldProvider.humanEditBody pageId actor body) = HumanEditRequest.checked pageId actor body := rfl

theorem restore_used (h : Supervised provider s) (serves : Serves s store) (snap : WorldSnapshot) :
    let there := inProcess (around.timestamp s.host.moment) store (.restore snap)
    Used store there.2 there.1 ((useWorld around provider (.restore snap)).outcome s) := by
  intro there
  refine control_used around h serves .restore (some (Runner.snapshotDump snap))
    (fun _ => .ok .done) (map_bind _ _ _) ?_ ?_
  · rw [control_restore]
    simp only [there, inProcess]
    generalize store.restore snap = restored
    obtain ⟨_ | _, _⟩ := restored <;> rfl
  · intro json r answered read
    obtain rfl := Except.ok.inj read
    rw [control_restore] at answered
    simp only [there, inProcess]
    generalize store.restore snap = restored at answered ⊢
    obtain ⟨_ | _, _⟩ := restored
    · cases answered
    · rfl

theorem snapshot_used (h : Supervised provider s) (serves : Serves s store) :
    let there := inProcess (around.timestamp s.host.moment) store .snapshot
    Used store there.2 there.1 ((useWorld around provider .snapshot).outcome s) := by
  intro there
  have taken : ∀ time, control provider.controlKey store (some provider.controlKey) (controlCall .snapshot none time) =
      (.snapshot (store.snapshot defaultSnapshotId time), store) := fun time => if_neg (by simp)
  refine control_used around h serves .snapshot none
    (fun json => .snapshot <$> (snapshotValidate json).mapError fun _ =>
      .processWorld "world returned an invalid snapshot") ?_ ?_ ?_
  · refine (map_bind _ _ _).trans (congrArg _ (funext fun json => ?_))
    cases snapshotValidate json <;> rfl
  · exact congrArg Prod.snd (taken _)
  · intro json r answered read
    rw [taken] at answered
    obtain rfl := Except.ok.inj answered
    rw [snapshotValidate_dump] at read
    exact congrArg some (Except.ok.inj read)

/-- What `human_edit` makes of the payload. -/
def editReply (json : Json) : Except ProviderError Reply :=
  if json.isObj then .ok (.payload json) else .error (.processWorld "world returned an invalid human-edit response")

theorem editReply_map (pageId actor body : String) :
    (Reply.payload <$> provider.humanEdit around pageId actor body : Act Reply) =
      provider.controlRequest around .humanEdit (some (ProcessWorldProvider.humanEditBody pageId actor body)) >>= fun json =>
        lift (editReply json) := by
  refine (map_bind _ _ _).trans (congrArg _ (funext fun json => ?_))
  unfold editReply
  split <;> rfl

theorem humanEdit_used (h : Supervised provider s) (serves : Serves s store) (pageId actor body : String) :
    let there := inProcess (around.timestamp s.host.moment) store (.humanEdit pageId actor body)
    Used store there.2 there.1 ((useWorld around provider (.humanEdit pageId actor body)).outcome s) := by
  intro there
  cases valid : HumanEditRequest.checked pageId actor body with
  | some edit =>
    have handled : ∀ time, control provider.controlKey store (some provider.controlKey)
        (controlCall .humanEdit (some (ProcessWorldProvider.humanEditBody pageId actor body)) time) =
          (.answer (World.humanEdit store edit).1, (World.humanEdit store edit).2) := by
      intro time
      simp only [controlCall, Option.bind_some, humanEditValidate_body, valid]
      exact if_neg (by simp)
    refine control_used around h serves .humanEdit
      (some (ProcessWorldProvider.humanEditBody pageId actor body)) editReply (editReply_map around ..) ?_ ?_
    · rw [handled]
      simp only [there, inProcess, valid]
      split <;> rename_i answered <;> exact congrArg Prod.snd answered
    · intro json r answered read
      rw [handled] at answered
      simp only [there, inProcess, valid]
      generalize World.humanEdit store edit = edited at answered ⊢
      obtain ⟨response, w⟩ := edited
      cases response with
      | edited page =>
        obtain rfl := Except.ok.inj answered
        exact congrArg some (Except.ok.inj read)
      | _ => cases answered
  | none =>
    have refused : ∀ time, control provider.controlKey store (some provider.controlKey)
        (controlCall .humanEdit (some (ProcessWorldProvider.humanEditBody pageId actor body)) time) =
          (.answer .validationError, store) := by
      intro time
      simp only [controlCall, Option.bind_some, humanEditValidate_body, valid]
      rfl
    refine control_used around h serves .humanEdit
      (some (ProcessWorldProvider.humanEditBody pageId actor body)) editReply (editReply_map around ..) ?_ ?_
    · rw [refused]
      simp only [there, inProcess, valid]
    · intro json r answered
      rw [refused] at answered
      cases answered

theorem request_used (h : Supervised provider s) (serves : Serves s store) (actor : Option String) (apiCall : ApiCall) :
    let there := inProcess (around.timestamp s.host.moment) store (.request actor apiCall)
    Used store there.2 there.1 ((useWorld around provider (.request actor apiCall)).outcome s) := by
  intro there
  obtain ⟨url, known⟩ := serves.url h
  rw [useWorld, outcome_map, callRaw, outcome_bind, outcome_get]
  simp only [known, outcome_mapError, rawRequest]
  generalize asked : (exchange around url _).outcome s = asking
  obtain ⟨answer, s₁⟩ := asking
  obtain ⟨e, rfl, kept⟩ | ⟨c, -, next, answered⟩ := exchange_serves around h serves url _ asked
  · exact kept.imp_right Or.inl
  · cases answer with
    | error e => exact Or.inr (Or.inr next)
    | ok response =>
      obtain rfl := answered response rfl
      exact ⟨rfl, next⟩

theorem useWorld_used (h : Supervised provider s) (serves : Serves s store) (u : Use) :
    let there := inProcess (around.timestamp s.host.moment) store u
    Used store there.2 there.1 ((useWorld around provider u).outcome s) := by
  cases u with
  | restore snap => exact restore_used around h serves snap
  | snapshot => exact snapshot_used around h serves
  | humanEdit pageId actor body => exact humanEdit_used around h serves pageId actor body
  | request actor apiCall => exact request_used around h serves actor apiCall

/-! ### When no child runs -/

theorem exchange_ended {α : Type} (h : Supervised provider s) (ended : s.host.AllEnded) (url : LoopbackUrl)
    (answer : Child → ConfluenceStore → α × ConfluenceStore) : ∃ e, ((exchange around url answer).outcome s).1 = .error e := by
  have exchanged := exchange_exchanged around h url answer
  generalize (exchange around url answer).outcome s = asking at exchanged
  cases exchanged with
  | lost e => exact ⟨e, rfl⟩
  | handled r holds child running serving key answered =>
    obtain ⟨pid, -, present⟩ := Option.bind_eq_some_iff.mp child
    rw [(ended.later (waited_later around 0).host) pid _ present] at running
    cases running

theorem controlRequest_ended (h : Supervised provider s) (ended : s.host.AllEnded) (path : ControlPath)
    (body : Option Json) : ∃ e, ((provider.controlRequest around path body).outcome s).1 = .error e := by
  unfold ProcessWorldProvider.controlRequest
  rw [outcome_bind, outcome_get]
  dsimp only
  split
  · exact ⟨_, rfl⟩
  · rename_i url known
    obtain ⟨e, failed⟩ := exchange_ended around h ended url
      (provider.controlAnswer (controlCall path body (around.timestamp s.host.moment)))
    refine ⟨ProcessWorldProvider.requestFailure e, ?_⟩
    rw [outcome_mapError, ProcessWorldProvider.sendControl, outcome_bind_error (Prod.ext failed rfl)]
    rfl

omit [PyText] in
theorem outcome_bind_fst_error {α β : Type} {m : Act α} {f : α → Act β} {e : ProviderError}
    (failed : (m.outcome s).1 = .error e) : (outcome (m >>= f) s).1 = .error e :=
  congrArg Prod.fst (outcome_bind_error (Prod.ext failed rfl))

theorem useWorld_ended (h : Supervised provider s) (ended : s.host.AllEnded) (u : Use) :
    ∃ e, ((useWorld around provider u).outcome s).1 = .error e := by
  have through : ∀ {α : Type} {m : Act α} (f : α → Reply), (∃ e, (m.outcome s).1 = .error e) →
      ∃ e, ((f <$> m).outcome s).1 = .error e := by
    rintro α m f ⟨e, failed⟩
    exact ⟨e, by rw [outcome_map, failed]; rfl⟩
  have control : ∀ {α : Type} path body (f : Json → Act α),
      ∃ e, (outcome (provider.controlRequest around path body >>= f) s).1 = .error e := by
    intro α path body f
    obtain ⟨e, failed⟩ := controlRequest_ended around h ended path body
    exact ⟨e, outcome_bind_fst_error failed⟩
  cases u with
  | restore snap => exact through _ (control _ _ _)
  | snapshot => exact through _ (control _ _ _)
  | humanEdit pageId actor body => exact through _ (control _ _ _)
  | request actor apiCall =>
    refine through _ ?_
    rw [callRaw, outcome_bind, outcome_get]
    dsimp only
    split
    · exact ⟨_, rfl⟩
    · rename_i url known
      obtain ⟨e, failed⟩ := exchange_ended around h ended url fun _ store => handle store (.request actor apiCall)
      exact ⟨ProcessWorldProvider.requestFailure e, by rw [outcome_mapError, rawRequest, failed]; rfl⟩

theorem useWorld_keeps (u : Use) : Keeps ProcessState.Later (useWorld around provider u) := by
  have through : ∀ {α : Type} {m : Act α} (f : α → Reply), Keeps ProcessState.Later m → Keeps ProcessState.Later (f <$> m) := by
    intro α m f kept s
    rw [outcome_map]
    exact kept s
  cases u with
  | restore snap => exact through _ (provider.restore_keeps around snap)
  | snapshot => exact through _ (provider.snapshot_keeps around)
  | humanEdit pageId actor body => exact through _ (provider.humanEdit_keeps around pageId actor body)
  | request actor apiCall =>
    refine through _ (keeps_bind ProcessState.Later.trans (keeps_get .refl) fun s => ?_)
    split
    · exact keeps_throw .refl _
    · exact keeps_mapError (exchange_keeps around _ _)

/-! ### Starting -/

/-- The provider is supervised, and its child serves what it read. -/
structure Booting (around : Surroundings) (provider : ProcessWorldProvider) (s : ProcessState) : Prop where
  supervised : Supervised provider s
  entered : Entered around s

/-- The child serves what it read from the snapshot file. -/
structure Ready (around : Surroundings) (provider : ProcessWorldProvider) (s : ProcessState) : Prop extends
    Booting around provider s where
  serves : ∃ store, Serves s store

theorem Booting.waited (h : Booting around provider s) (atLeast : Nat) : Booting around provider (s.waited around atLeast) :=
  ⟨h.supervised.later (waited_later around atLeast), h.entered.waited around atLeast⟩

/-- A request for a snapshot leaves the store as it is. -/
theorem ping_ready : Triple (Booting around provider) (provider.controlRequest around .snapshot none)
    (fun _ => Ready around provider) (fun _ => Booting around provider) := by
  intro s h
  unfold ProcessWorldProvider.controlRequest
  rw [outcome_bind, outcome_get]
  dsimp only
  split
  · exact h
  · rename_i url known
    rw [outcome_mapError, ProcessWorldProvider.sendControl, outcome_bind]
    have exchanged := exchange_exchanged around h.supervised url
      (provider.controlAnswer (controlCall .snapshot none (around.timestamp s.host.moment)))
    generalize (exchange around url _).outcome s = asking at exchanged ⊢
    cases exchanged with
    | lost e => exact h.waited around 0
    | handled r holds child running serving key answered =>
      rename_i pid c w
      have unchanged : (provider.controlAnswer (controlCall .snapshot none (around.timestamp s.host.moment)) c w).2 = w := by
        rw [ProcessWorldProvider.controlAnswer, key]
        exact congrArg Prod.snd (if_neg (by simp))
      rw [unchanged]
      have booting : Booting around provider ((s.waited around 0).put pid w) := by
        refine ⟨(h.waited around 0).supervised.later (put_later pid), fun c' store child' serving' => ?_⟩
        rw [put_child holds child] at child'
        obtain rfl := Option.some.inj child'
        exact (h.waited around 0).entered c store child (serving.trans serving')
      have ready : Ready around provider ((s.waited around 0).put pid w) :=
        { booting with serves := ⟨w, put_serves holds child running⟩ }
      cases r with
      | error e => exact booting
      | ok response =>
        dsimp only
        rw [outcome_lift]
        cases controlJson response with
        | error status => exact booting
        | ok json => exact ready

theorem probe_ready (deadline passes : Nat) (lastError : Option ProviderError) :
    Triple (Booting around provider) (provider.probe around deadline passes lastError)
      (fun _ => Ready around provider) (fun _ => Booting around provider) := by
  induction passes generalizing lastError with
  | zero => exact triple_throw fun _ => id
  | succ passes ih =>
    refine triple_bind (Q := fun _ => Booting around provider) (fun _ => id) fun s => ?_
    split
    · exact triple_throw fun _ => id
    · split
      · exact triple_throw fun _ => id
      · split
        · exact triple_throw fun _ => id
        · refine triple_bind (Q := fun answer s => Ends (fun _ => Ready around provider) (fun _ => Booting around provider) (answer, s))
            (fun s h => ping_ready around s h) fun answer => ?_
          split
          · exact triple_pure fun _ => id
          · exact triple_throw fun _ => id
          · refine triple_bind (Q := fun _ => Booting around provider) (triple_modify fun s h => Booting.waited around h 50) fun _ => ih _

theorem adopt_booting (ended : s.host.AllEnded) (port : Nat) : Booting around provider (provider.adopt port s) where
  supervised := ProcessWorldProvider.adopt_supervised ended port
  entered := by
    intro c store child serving
    obtain ⟨pid, holds, present⟩ := Option.bind_eq_some_iff.mp child
    obtain rfl := Option.some.inj holds
    obtain rfl := Option.some.inj (List.getElem?_concat_length.symm.trans present)
    cases serving

theorem awaitChild_ready : Triple (Booting around provider) (provider.awaitChild around) (fun _ => Ready around provider)
    (fun e s => (∃ message, e = .processWorld message) ∧ Supervised provider s ∧ s.host.AllEnded) := by
  have waited : Triple (Booting around provider) (provider.waitUntilReady around) (fun _ => Ready around provider)
      (fun _ => Booting around provider) :=
    triple_bind (Q := fun _ => Booting around provider) (fun _ => id) fun s => probe_ready around _ _ _
  refine triple_bind (Q := fun answer s => Ends (fun _ => Ready around provider) (fun _ => Booting around provider) (answer, s))
    ?_ fun answer => ?_
  · exact fun s h => waited s h
  · split
    · exact triple_pure fun _ => id
    · rename_i e
      have named : ∃ message, ProcessWorldProvider.readinessError e = .processWorld message := by
        cases e <;> exact ⟨_, rfl⟩
      refine triple_bind (Q := fun _ => Stopped) ?_ fun _ => ?_
      · exact triple_consequence (ProcessWorldProvider.stop_triple around) (fun _ h => Booting.supervised h) (fun _ _ => id)
          fun _ _ => False.elim
      · exact triple_throw fun s stopped => ⟨named, stopped.supervised, stopped.ended⟩

/-- A start of a world that is down gives one that serves its snapshot file, or leaves it down. -/
theorem start_ready (h : Supervised provider s) (ended : s.host.AllEnded) :
    Ends (fun _ => Ready around provider)
      (fun e s => (∃ message, e = .processWorld message) ∧ Supervised provider s ∧ s.host.AllEnded)
      ((provider.start around).outcome s) := by
  have idle : s.running = false := by
    refine Bool.eq_false_iff.mpr fun runs => ?_
    obtain ⟨c, child, running⟩ := (Option.any_eq_true _ _).mp runs
    obtain ⟨pid, -, present⟩ := Option.bind_eq_some_iff.mp child
    rw [ended pid c present] at running
    cases running
  unfold ProcessWorldProvider.start
  rw [outcome_bind, outcome_get]
  simp only [idle, Bool.false_eq_true, if_false]
  have unchanged : ∀ {α : Type} (a : Except ProviderError α), (∀ e, a = .error e → ∃ message, e = .processWorld message) →
      Triple (· = s) (lift a) (fun _ => (· = s))
        (fun e s => (∃ message, e = .processWorld message) ∧ Supervised provider s ∧ s.host.AllEnded) := by
    rintro α (e | a) named s rfl
    · exact ⟨named e rfl, h, ended⟩
    · rfl
  refine triple_bind (unchanged _ ?_) (fun port => triple_bind (unchanged _ ?_) fun _ => ?_) s rfl
  · intro e refused
    unfold ProcessWorldProvider.reservedPort at refused
    split at refused
    · exact ⟨_, (Except.error.inj refused).symm⟩
    · cases reserved : around.reserve s.host.moment <;> rw [reserved] at refused <;> cases refused
      exact ⟨_, rfl⟩
  · intro e refused
    cases spawned : around.spawn s.host.moment <;> rw [spawned] at refused <;> cases refused
    exact ⟨_, rfl⟩
  · refine triple_bind (Q := fun _ s => s.host.AllEnded) ?_ fun _ => ?_
    · rintro s rfl
      exact ended.later (s.host.wait_later around 0)
    · exact triple_bind (Q := fun _ => Booting around provider) (triple_modify fun s ended => adopt_booting around ended port)
        fun _ => awaitChild_ready around

/-! ### Runs -/

/-- What a call may do to a world that is down, or up with a store; with time a world that is up may go down. -/
inductive Allowed (around : Surroundings) (granted : List Capability) (moment : Nat) :
    Option ConfluenceStore → ProviderCall → Except ProviderError Reply → Option ConfluenceStore → Prop
  | alreadyUp (w : ConfluenceStore) : Allowed around granted moment (some w) .start (.ok .done) (some w)
  | started {later : Nat} {w : ConfluenceStore} (entered : entryStore (around.snapshotFile later) = some w) :
      Allowed around granted moment none .start (.ok .done) (some w)
  | refused (message : String) : Allowed around granted moment none .start (.error (.processWorld message)) none
  | stopped (a : Option ConfluenceStore) : Allowed around granted moment a .stop (.ok .done) none
  | granted (a : Option ConfluenceStore) : Allowed around granted moment a .capabilities (.ok (.capabilities granted)) a
  | answered {w w' : ConfluenceStore} {u : Use} {r : Reply}
      (there : inProcess (around.timestamp moment) w u = (some r, w')) :
      Allowed around granted moment (some w) (.use u) (.ok r) (some w')
  | lost (w : ConfluenceStore) (u : Use) (e : ProviderError) :
      Allowed around granted moment (some w) (.use u) (.error e) (some w)
  | unanswered (w : ConfluenceStore) (u : Use) (e : ProviderError) :
      Allowed around granted moment (some w) (.use u) (.error e) (some (inProcess (around.timestamp moment) w u).2)
  | crashed (w : ConfluenceStore) (u : Use) (e : ProviderError) :
      Allowed around granted moment (some w) (.use u) (.error e) none
  | down (u : Use) (e : ProviderError) : Allowed around granted moment none (.use u) (.error e) none
  | rested (a : Option ConfluenceStore) (atLeast : Nat) : Allowed around granted moment a (.rest atLeast) (.ok .done) a
  | died (w : ConfluenceStore) (atLeast : Nat) : Allowed around granted moment (some w) (.rest atLeast) (.ok .done) none

/-- A run of calls, each with what it may do. -/
def Follows (around : Surroundings) (granted : List Capability) :
    Option ConfluenceStore → List (Transition ProcessState ProviderCall (Except ProviderError Reply)) → Prop
  | _, [] => True
  | a, t :: rest => ∃ a', Allowed around granted t.before.host.moment a t.event t.response a' ∧ Follows around granted a' rest

/-- The provider's world is down, or up with the store. -/
def Related (provider : ProcessWorldProvider) (s : ProcessState) (a : Option ConfluenceStore) : Prop :=
  Supervised provider s ∧ match a with
    | none => s.host.AllEnded
    | some w => Serves s w

def performed (around : Surroundings) (provider : ProcessWorldProvider) (s : ProcessState) (c : ProviderCall) :
    Except ProviderError Reply × ProcessState := (perform around provider c).outcome s

theorem performed_follows {a : Option ConfluenceStore} (related : Related provider s a) (c : ProviderCall) :
    ∃ a', Allowed around provider.declaredCapabilities s.host.moment a c (performed around provider s c).1 a' ∧
      Related provider (performed around provider s c).2 a' := by
  obtain ⟨supervised, state⟩ := related
  unfold performed
  cases c with
  | stop =>
    rw [perform, outcome_map, ProcessWorldProvider.stop_outcome]
    have stopped : Stopped ⟨none, none, none, ProcessWorldProvider.stoppedHost around s⟩ :=
      ⟨ProcessWorldProvider.stoppedHost_ended around supervised, rfl, rfl, rfl⟩
    exact ⟨none, .stopped a, stopped.supervised, stopped.ended⟩
  | start =>
    rw [perform, outcome_map]
    cases a with
    | some w =>
      obtain ⟨c, child, running, serving⟩ := state
      have runs : s.running = true := (Option.any_eq_true _ _).mpr ⟨c, child, running⟩
      have nothing : (provider.start around).outcome s = (.ok (), s) := by
        unfold ProcessWorldProvider.start
        rw [outcome_bind, outcome_get]
        simp only [runs, if_true, outcome_pure]
      rw [nothing]
      exact ⟨some w, .alreadyUp w, supervised, c, child, running, serving⟩
    | none =>
      have ready := start_ready around supervised state
      generalize (provider.start around).outcome s = starting at ready
      obtain ⟨answer, s'⟩ := starting
      cases answer with
      | ok _ =>
        obtain ⟨w, serves⟩ := ready.serves
        obtain ⟨c, child, running, serving⟩ := serves
        obtain ⟨later, entered⟩ := ready.entered c w child serving
        exact ⟨some w, .started entered, ready.supervised, c, child, running, serving⟩
      | error e =>
        obtain ⟨⟨message, rfl⟩, supervised, ended⟩ := ready
        exact ⟨none, .refused message, supervised, ended⟩
  | capabilities =>
    rw [perform, outcome_map]
    exact ⟨a, .granted a, supervised, state⟩
  | rest atLeast =>
    rw [perform, outcome_map]
    have later : s.Later (s.waited around atLeast) := waited_later around atLeast
    cases a with
    | some w =>
      obtain serves | ended := Serves.waited around supervised state atLeast
      · exact ⟨some w, .rested _ atLeast, supervised.later later, serves⟩
      · exact ⟨none, .died w atLeast, supervised.later later, ended⟩
    | none => exact ⟨none, .rested _ atLeast, supervised.later later, Host.AllEnded.later state later.host⟩
  | use u =>
    have supervised' : Supervised provider ((useWorld around provider u).outcome s).2 :=
      supervised.later (useWorld_keeps around u s)
    cases a with
    | some w =>
      have used := useWorld_used around supervised state u
      rw [perform]
      generalize (useWorld around provider u).outcome s = using_ at used supervised'
      obtain ⟨answer, s'⟩ := using_
      cases answer with
      | ok r => exact ⟨_, .answered (Prod.ext used.1 rfl), supervised', used.2⟩
      | error e =>
        obtain ended | same | next := used
        · exact ⟨none, .crashed w u e, supervised', ended⟩
        · exact ⟨some w, .lost w u e, supervised', same⟩
        · exact ⟨_, .unanswered w u e, supervised', next⟩
    | none =>
      obtain ⟨e, failed⟩ := useWorld_ended around supervised state u
      rw [perform, failed]
      exact ⟨none, .down u e, supervised', Host.AllEnded.later state (useWorld_keeps around u s).host⟩

theorem trace_follows {a : Option ConfluenceStore} (related : Related provider s a) (calls : List ProviderCall) :
    Follows around provider.declaredCapabilities a (Machine.trace (performed around provider) s calls) := by
  induction calls generalizing s a with
  | nil => trivial
  | cons c calls ih =>
    obtain ⟨a', allowed, next⟩ := performed_follows around related c
    exact ⟨a', allowed, ih next⟩

end Serving

/-! ### From the first start on -/

/-- A provider that was not started, on a host without children. -/
def unstarted (now moment : Nat) : ProcessState := ⟨none, none, none, ⟨[], now, moment⟩⟩

theorem unstarted_stopped (now moment : Nat) : Stopped (unstarted now moment) :=
  ⟨fun pid c found => by simp [unstarted] at found, rfl, rfl, rfl⟩

section Unstarted

variable [PyText] (around : Surroundings) (provider : ProcessWorldProvider) (now moment : Nat) (calls : List ProviderCall)

omit [PyText] in
theorem unstarted_related : Related provider (unstarted now moment) none :=
  ⟨(unstarted_stopped now moment).supervised, (unstarted_stopped now moment).ended⟩

theorem performed_supervised (s : ProcessState) (c : ProviderCall) (h : Supervised provider s) :
    Supervised provider (performed around provider s c).2 := by
  unfold performed
  cases c with
  | start =>
    rw [perform, outcome_map]
    have started := ProcessWorldProvider.start_supervised around s h
    generalize (provider.start around).outcome s = starting at started
    obtain ⟨_ | _, s'⟩ := starting
    · exact started.1
    · exact started
  | stop =>
    rw [perform, outcome_map, ProcessWorldProvider.stop_outcome]
    exact Stopped.supervised ⟨ProcessWorldProvider.stoppedHost_ended around h, rfl, rfl, rfl⟩
  | capabilities => exact h
  | use u => exact h.later (useWorld_keeps around u s)
  | rest atLeast => exact h.later (waited_later around atLeast)

/-- At any time at most one child runs, the one the provider holds; a stop, and a start that raises, leave none. -/
theorem children_supervised :
    (∀ s ∈ Machine.states (performed around provider) (unstarted now moment) calls, ∀ (pid : Nat) (c : Child),
      s.host.children[pid]? = some c → c.running = true → s.process = some pid) ∧
    ∀ t ∈ Machine.trace (performed around provider) (unstarted now moment) calls,
      t.event = .stop ∨ t.event = .start ∧ (∃ e, t.response = .error e) → t.after.host.AllEnded := by
  have fresh : Supervised provider (unstarted now moment) := (unstarted_stopped now moment).supervised
  have keep := performed_supervised around provider
  refine ⟨fun s member => (Machine.states_inv keep fresh member).owned, ?_⟩
  rintro t member ending
  have before := Machine.before_inv keep fresh member
  rw [Machine.transition_of_mem member] at ending ⊢
  generalize t.before = s at before ending ⊢
  obtain stopped | ⟨started, e, failed⟩ := ending
  · change t.event = .stop at stopped
    show (performed around provider s t.event).2.host.AllEnded
    rw [stopped, performed, perform, outcome_map, ProcessWorldProvider.stop_outcome]
    exact ProcessWorldProvider.stoppedHost_ended around before
  · change t.event = .start at started
    change (performed around provider s t.event).1 = _ at failed
    show (performed around provider s t.event).2.host.AllEnded
    rw [started, performed, perform, outcome_map] at failed ⊢
    have ended := ProcessWorldProvider.start_supervised around s before
    generalize (provider.start around).outcome s = starting at ended failed
    obtain ⟨_ | _, s'⟩ := starting
    · exact ended.2
    · cases failed

/-- Every run of a provider is one of a world in process that its surroundings take up and down. -/
theorem process_follows : Follows around provider.declaredCapabilities none
    (Machine.trace (performed around provider) (unstarted now moment) calls) :=
  trace_follows around (unstarted_related provider now moment) calls

theorem final_related {s : ProcessState} {a : Option ConfluenceStore} (related : Related provider s a) :
    ∃ a', Related provider (Machine.final (performed around provider) s calls) a' := by
  induction calls generalizing s a with
  | nil => exact ⟨a, related⟩
  | cons c calls ih =>
    obtain ⟨a', -, next⟩ := performed_follows around related c
    exact ih next

/-- A restore of a world that is up. -/
theorem restore_serves {s : ProcessState} {w : ConfluenceStore} (h : Supervised provider s) (serves : Serves s w)
    (snap : WorldSnapshot) :
    Ends (fun _ s => ∃ before after, ConfluenceStore.restore before snap = (.ok (), after) ∧ Serves s after)
      (fun _ s => Supervised provider s) ((provider.restore around snap).outcome s) := by
  have used := restore_used around h serves snap
  have later := provider.restore_keeps around snap s
  dsimp only at used
  rw [useWorld, outcome_map] at used
  generalize (provider.restore around snap).outcome s = restoring at used later
  obtain ⟨answer, s'⟩ := restoring
  cases answer with
  | error e => exact h.later later
  | ok u =>
    obtain ⟨replied, serves'⟩ := used
    rw [inProcess] at replied serves'
    generalize restored : w.restore snap = outcome at replied serves'
    obtain ⟨answer, after⟩ := outcome
    cases answer with
    | error e => cases replied
    | ok u => exact ⟨w, after, restored, serves'⟩

/-- After any use, `start_world` serves the snapshot it is given, or raises and leaves no child. -/
theorem startWorld_restores (initial : WorldSnapshot) :
    Ends (fun _ s => ∃ before after, ConfluenceStore.restore before initial = (.ok (), after) ∧ Serves s after)
      (fun _ s => s.host.AllEnded)
      ((provider.startWorld around initial).outcome (Machine.final (performed around provider) (unstarted now moment) calls)) := by
  obtain ⟨a, related⟩ := final_related around provider calls (unstarted_related provider now moment)
  generalize Machine.final _ _ _ = s at related
  obtain ⟨a', allowed, supervised, state⟩ := performed_follows around related .start
  rw [performed, perform, outcome_map] at allowed supervised state
  unfold ProcessWorldProvider.startWorld
  rw [outcome_bind]
  generalize (provider.start around).outcome s = starting at allowed supervised state ⊢
  obtain ⟨answer, s₁⟩ := starting
  cases answer with
  | error e =>
    cases allowed with
    | refused message => exact state
  | ok u =>
    obtain ⟨w, rfl⟩ : ∃ w, a' = some w := by cases allowed <;> exact ⟨_, rfl⟩
    have restored := restore_serves around provider supervised state initial
    dsimp only
    rw [outcome_bind, outcome_attempt]
    generalize (provider.restore around initial).outcome s₁ = restoring at restored ⊢
    obtain ⟨answer, s₂⟩ := restoring
    cases answer with
    | ok u => exact restored
    | error e =>
      dsimp only
      rw [outcome_bind, ProcessWorldProvider.stop_outcome]
      exact ProcessWorldProvider.stoppedHost_ended around restored

end Unstarted

end AgentGym.World
