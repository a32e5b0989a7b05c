import AgentGym.Scenarios.Common
import AgentGym.World.History

/-!
# Histories over whole runs

A world is staged by `set_page`, served through the API, and steered through the control
routes, in any order. Its histories stay coherent all along.
-/

namespace AgentGym.Scenarios

open World

/-! ### Staging keeps histories coherent -/

section SetPage

/-- What `set_page` makes of an entry of the history. -/
def retouch (page : PageData) (changes : List (String × Json)) (entry : PageData) : PageData :=
  if (versionOf entry).pyEq (versionOf page) then entry.update changes else entry

theorem setPage_some {s : ConfluenceStore} {k : String} {page : PageData} {entries : List PageData}
    (found : s.pages.get? k = some page) (history : s.pageVersions.get? k = some entries)
    (title body : Option String) :
    setPage s k title body = .ok { s with
      pages := s.pages.set k (page.update (textChanges title body))
      pageVersions := s.pageVersions.set k (entries.map (retouch page (textChanges title body))) } := by
  unfold setPage
  rw [found]
  dsimp only
  rw [history]
  rfl

theorem retouch_modelDump (page : PageData) (q : Page) (title body : Option String) :
    ∃ q' : Page, retouch page (textChanges title body) q.modelDump = q'.modelDump ∧ q'.id = q.id ∧
      q'.version = q.version := by
  unfold retouch
  split
  · exact ⟨retouched q title body, update_textChanges q title body, rfl, rfl⟩
  · exact ⟨q, rfl, rfl, rfl⟩

theorem retouch_self (page : PageData) (changes : List (String × Json)) :
    retouch page changes page = page.update changes := by
  unfold retouch
  rw [if_pos (Json.pyEq_refl _)]

variable {s : ConfluenceStore} (h : s.HistoryCoherent)
include h

theorem history_of_found {k : String} {d : PageData} (found : s.pages.get? k = some d) :
    s.pageVersions.get? k = some (s.getPageVersions k) := by
  have same := h.ids k
  unfold Dict.contains at same
  rw [found] at same
  obtain ⟨entries, stored⟩ := Option.isSome_iff_exists.mp same
  unfold ConfluenceStore.getPageVersions
  rw [stored]
  rfl

/-- What staging a page leaves: its entry and its history retouched, everything else as it was. -/
structure Staged (s s' : ConfluenceStore) (p : Page) (title body : Option String) : Prop where
  found : s.pages.get? p.id = some p.modelDump
  pages : ∀ j, s'.pages.get? j = if j = p.id then some (retouched p title body).modelDump else s.pages.get? j
  known : ∀ j, s'.pageVersions.contains j = (j == p.id || s.pageVersions.contains j)
  histories : ∀ j, s'.getPageVersions j =
    if j = p.id then (s.getPageVersions j).map (retouch p.modelDump (textChanges title body)) else s.getPageVersions j

theorem setPage_staged {s' : ConfluenceStore} {k : String} {title body : Option String}
    (staged : setPage s k title body = .ok s') : ∃ p : Page, Staged s s' p title body := by
  cases found : s.pages.get? k with
  | none =>
    unfold setPage at staged
    rw [found] at staged
    cases staged
  | some page =>
    rw [setPage_some found (history_of_found h found)] at staged
    obtain rfl := Except.ok.inj staged
    obtain ⟨p, rfl, rfl⟩ := h.coherent.page_of_found found
    refine ⟨p, found, ?_, ?_, ?_⟩
    · intro j
      rw [Dict.get?_set, update_textChanges]
    · intro j
      unfold Dict.contains
      rw [Dict.get?_set]
      split
      · rename_i same
        simp [same]
      · rename_i other
        simp [other]
    · intro j
      unfold ConfluenceStore.getPageVersions
      rw [Dict.get?_set]
      split
      · rename_i same
        rw [same]
        rfl
      · rfl

/-- An entry of a staged history is an old one, retouched or not. -/
theorem Staged.entry {s' : ConfluenceStore} {p : Page} {title body : Option String} (staged : Staged s s' p title body)
    {j : String} {i : Nat} {d : PageData} (here : (s'.getPageVersions j)[i]? = some d) :
    ∃ q q' : Page, (s.getPageVersions j)[i]? = some q.modelDump ∧ d = q'.modelDump ∧ q'.id = q.id ∧ q'.version = q.version := by
  rw [staged.histories] at here
  split at here
  · rw [List.getElem?_map, Option.map_eq_some_iff] at here
    obtain ⟨old, there, rfl⟩ := here
    obtain ⟨q, rfl⟩ := h.valid.histories (List.mem_of_getElem? there)
    obtain ⟨q', dump, id, version⟩ := retouch_modelDump p.modelDump q title body
    exact ⟨q, q', there, dump, id, version⟩
  · obtain ⟨q, rfl⟩ := h.valid.histories (List.mem_of_getElem? here)
    exact ⟨q, q, here, rfl, rfl, rfl⟩

theorem setPage_historyCoherent {s' : ConfluenceStore} {k : String} {title body : Option String}
    (staged : setPage s k title body = .ok s') : s'.HistoryCoherent := by
  obtain ⟨p, after⟩ := setPage_staged h staged
  refine { valid := ⟨?_, ?_⟩, keyed := ?_, ids := ?_, current := ?_, numbered := ?_ }
  · intro j d here
    rw [after.pages] at here
    split at here
    · exact ⟨_, (Option.some.inj here).symm⟩
    · exact h.valid.pages here
  · intro j d member
    obtain ⟨i, here⟩ := List.mem_iff_getElem?.mp member
    obtain ⟨_, q', _, dump, _⟩ := after.entry h here
    exact ⟨q', dump⟩
  · intro j d here
    rw [after.pages] at here
    split at here
    · rename_i same
      rw [← Option.some.inj here, Page.get?_id, same]
      rfl
    · exact h.keyed here
  · intro j
    rw [after.known, h.ids]
    unfold Dict.contains
    rw [after.pages]
    split
    · rename_i same
      simp [same]
    · rename_i other
      simp [other]
  · intro j d here
    rw [after.pages] at here
    rw [after.histories]
    split at here
    · rename_i same
      rw [if_pos same, List.getLast?_map, same, h.current after.found, ← here, ← update_textChanges]
      exact congrArg some (retouch_self _ _)
    · rename_i other
      rw [if_neg other]
      exact h.current here
  · intro j i d here
    obtain ⟨q, q', there, rfl, id, version⟩ := after.entry h here
    have numbered := h.numbered there
    simpa [id, version] using numbered

end SetPage

/-! ### Whole runs -/

inductive Operation where
  | request (actor : Option String) (call : ApiCall)
  | control (key : Option String) (call : ControlCall)
  | setPage (pageId : String) (title body : Option String)

inductive Reply where
  | response (response : Response)
  | control (response : ControlResponse)
  | staged (result : Except PyError Unit)

/-- Restores take snapshots of coherent stores. -/
def Operation.Trusted : Operation → Prop
  | .control _ (.restore snap) => Genuine snap
  | _ => True

/-- Everything but staging and restoring. -/
def Operation.appends : Operation → Bool
  | .setPage _ _ _ | .control _ (.restore _) => false
  | _ => true

section Runs

variable [PyText] (controlKey : String)

def operate (s : ConfluenceStore) : Operation → Reply × ConfluenceStore
  | .request actor call =>
    let (response, s) := World.request s actor call
    (.response response, s)
  | .control key call =>
    let (response, s) := World.control controlKey s key call
    (.control response, s)
  | .setPage pageId title body => match setPage s pageId title body with
    | .error e => (.staged (.error e), s)
    | .ok s => (.staged (.ok ()), s)

theorem operate_historyCoherent (s : ConfluenceStore) (op : Operation) (trusted : op.Trusted)
    (h : s.HistoryCoherent) : (operate controlKey s op).2.HistoryCoherent := by
  cases op with
  | request actor call => exact handle_historyCoherent h (.request actor call)
  | control key call =>
    refine control_historyCoherent controlKey h key ?_
    rintro snap rfl
    exact trusted
  | setPage pageId title body =>
    dsimp only [operate]
    split
    · exact h
    · rename_i staged
      exact setPage_historyCoherent h staged

theorem operate_extends {s : ConfluenceStore} {op : Operation} (h : s.HistoryCoherent) (appends : op.appends = true) :
    s.ledger.Extends (operate controlKey s op).2.ledger := by
  cases op with
  | request actor call => exact handle_extends s (.request actor call) h.coherent
  | control key call =>
    refine control_extends controlKey h key ?_
    rintro snap rfl
    cases appends
  | setPage pageId title body => cases appends

/-- From an empty or a coherent store the histories stay coherent, and only staging and restoring rewrite them. -/
theorem histories_append_only {s : ConfluenceStore}
    (start : (∃ users spaces permissions, s = .ofCollections users spaces permissions) ∨ s.HistoryCoherent)
    {ops : List Operation} (trusted : ∀ op ∈ ops, op.Trusted) :
    (∀ s' ∈ Machine.states (operate controlKey) s ops, s'.HistoryCoherent) ∧
      ∀ t ∈ Machine.trace (operate controlKey) s ops, t.event.appends = true →
        ∀ k, t.before.getPageVersions k <+: t.after.getPageVersions k := by
  have coherent : s.HistoryCoherent := by
    rcases start with ⟨users, spaces, permissions, rfl⟩ | h
    · exact ConfluenceStore.ofCollections_historyCoherent users spaces permissions
    · exact h
  have meets : ∀ t ∈ Machine.trace (operate controlKey) s ops, t.event.Trusted :=
    fun t member => trusted _ (Machine.event_mem_of_mem member)
  have along : ∀ s' ∈ Machine.states (operate controlKey) s ops, s'.HistoryCoherent := fun s' member =>
    Machine.states_inv_of (P := fun _ op => op.Trusted) (operate_historyCoherent controlKey) coherent meets member
  refine ⟨along, fun t member appends k => ?_⟩
  have before := along _ (Machine.before_mem_states member)
  rw [Machine.transition_of_mem member]
  exact operate_extends controlKey before appends k

end Runs

theorem histories_append_only_home :
    let home := ConfluenceStore.soloStore ["ann"] ⟨"home", "eng", "Home", "Hello", 1, "ann", Dict.empty, Page.noExtras⟩
    let ops := [.setPage "home" (some "Start") none,
      .request (some "ann") (.updatePage "home" ⟨none, some "Edited"⟩ (some "1")),
      .control (some "key") (.restore (home.snapshot "initial" "2026-01-01T00:00:00Z"))]
    (∀ s ∈ Machine.states (@operate asciiText "key") home ops, s.HistoryCoherent) ∧
      ∀ t ∈ Machine.trace (@operate asciiText "key") home ops, t.event.appends = true →
        ∀ k, t.before.getPageVersions k <+: t.after.getPageVersions k := by
  intro home ops
  have coherent : home.HistoryCoherent :=
    (ConfluenceStore.ofCollections_historyCoherent _ _ _).created (by simp [ConfluenceStore.ofCollections]) rfl
  refine @histories_append_only asciiText "key" home (Or.inr coherent) ops ?_
  intro op member
  simp only [ops, List.mem_cons, List.not_mem_nil, or_false] at member
  obtain rfl | rfl | rfl := member
  · trivial
  · trivial
  · exact ⟨home, _, _, coherent, rfl⟩

end AgentGym.Scenarios
