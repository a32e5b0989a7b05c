import AgentGym.World.Coherent

/-!
# Coherent histories

A store and its histories are coherent when both hold the same ids, and each history is
the page's own versions, numbered from one up to the current page. The API and the trusted
control routes keep that, and every call but a restore only appends to the histories.
-/

namespace AgentGym.World

namespace ConfluenceStore

structure HistoryCoherent (s : ConfluenceStore) : Prop where
  valid : s.Valid
  keyed : s.Keyed
  ids : ∀ k, s.pageVersions.contains k = s.pages.contains k
  current : ∀ {k d}, s.pages.get? k = some d → (s.getPageVersions k).getLast? = some d
  numbered : ∀ {k} {i : Nat} {d}, (s.getPageVersions k)[i]? = some d →
    d.get? "id" = some (.str k) ∧ d.get? "version" = some (.int (i + 1))

/-- Every entry of a history is a version of that page. -/
def Named (s : ConfluenceStore) : Prop :=
  ∀ {k d}, d ∈ s.getPageVersions k → d.get? "id" = some (.str k)

namespace HistoryCoherent

variable {s : ConfluenceStore}

theorem coherent (h : s.HistoryCoherent) : s.Coherent where
  valid := h.valid
  keyed := h.keyed
  current := h.current
  numbered := by
    intro k i p entry
    have number := (h.numbered entry).2
    rw [p.get?_version] at number
    exact Json.int.inj (Option.some.inj number)
  orphans := by
    intro k absent
    have same := h.ids k
    unfold Dict.contains at same
    rw [absent] at same
    unfold getPageVersions
    rw [Option.isSome_eq_false_iff.mp same |> Option.isNone_iff_eq_none.mp]
    rfl

theorem named (h : s.HistoryCoherent) : s.Named := by
  intro k d member
  obtain ⟨i, bound, entry⟩ := List.mem_iff_getElem.mp member
  exact (h.numbered ((List.getElem?_eq_getElem bound).trans (congrArg some entry))).1

theorem of_coherent (h : s.Coherent) (ids : ∀ k, s.pageVersions.contains k = s.pages.contains k)
    (named : s.Named) : s.HistoryCoherent where
  valid := h.valid
  keyed := h.keyed
  ids := ids
  current := h.current
  numbered := by
    intro k i d entry
    have member : d ∈ s.getPageVersions k := List.mem_of_getElem? entry
    refine ⟨named member, ?_⟩
    obtain ⟨p, rfl⟩ := h.valid.histories member
    rw [p.get?_version, h.numbered entry]

theorem nonempty (h : s.HistoryCoherent) {k : String} {d : PageData} (found : s.pages.get? k = some d) :
    s.getPageVersions k ≠ [] := by
  intro empty
  have last := h.current found
  rw [empty] at last
  cases last

theorem updated (h : s.HistoryCoherent) {p : Page} (next : (s.updated p).Coherent) :
    (s.updated p).HistoryCoherent := by
  refine of_coherent next ?_ ?_
  · intro k
    show (s.pageVersions.set _ _).contains k = (s.pages.set _ _).contains k
    unfold Dict.contains
    rw [Dict.get?_set, Dict.get?_set]
    split
    · rfl
    · exact h.ids k
  · intro k d member
    rw [updated_history] at member
    split at member
    · rename_i same
      rcases List.mem_append.mp member with old | new
      · exact h.named old
      · rw [List.mem_singleton.mp new, p.get?_id, same]
    · exact h.named member

theorem created (h : s.HistoryCoherent) {p : Page} (fresh : s.pages.get? p.id = none) (first : p.version = 1) :
    (s.created p).HistoryCoherent := by
  have next := h.coherent.created fresh first
  rw [created_eq_updated (h.coherent.orphans fresh)] at next ⊢
  exact h.updated next

end HistoryCoherent

theorem ofCollections_historyCoherent (users spaces permissions : Json) :
    (ofCollections users spaces permissions).HistoryCoherent :=
  .of_coherent (ofCollections_coherent users spaces permissions) (fun _ => rfl)
    fun member => by simp [ofCollections, getPageVersions] at member

end ConfluenceStore

/-! ### The control routes -/

/-- A call of the trusted control router, with the clock a snapshot is stamped with. -/
inductive ControlCall where
  | snapshot (timestamp : String)
  | humanEdit (edit : HumanEditRequest)
  | restore (snapshot : WorldSnapshot)
  | malformed

inductive ControlResponse where
  | answer (response : Response)
  | snapshot (snapshot : WorldSnapshot)

def defaultSnapshotId : String := "confluence-snapshot"

def invalidControlKey : ControlResponse := .answer (.error 403 "http_error" "invalid control key")

/-- `create_control_router(control_key)`. A body that fails validation is refused before the key is looked at. -/
def control [PyText] (controlKey : String) (store : ConfluenceStore) (key : Option String) :
    ControlCall → ControlResponse × ConfluenceStore
  | .malformed => (.answer .validationError, store)
  | .snapshot timestamp =>
    if key ≠ some controlKey then (invalidControlKey, store)
    else (.snapshot (store.snapshot defaultSnapshotId timestamp), store)
  | .humanEdit edit =>
    if key ≠ some controlKey then (invalidControlKey, store)
    else
      let (response, store) := humanEdit store edit
      (.answer response, store)
  | .restore snapshot =>
    if key ≠ some controlKey then (invalidControlKey, store)
    else match store.restore snapshot with
      | (.error _, store) => (.answer .serverError, store)
      | (.ok (), store) => (.snapshot (store.snapshot snapshot.id snapshot.timestamp), store)

/-! ### What the calls keep -/

/-- A snapshot taken from a coherent store. -/
def Genuine (snap : WorldSnapshot) : Prop :=
  ∃ (s : ConfluenceStore) (id time : String), s.HistoryCoherent ∧ snap = s.snapshot id time

section Calls

variable [PyText] {s : ConfluenceStore}

theorem handle_historyCoherent (h : s.HistoryCoherent) (e : Event) : (handle s e).2.HistoryCoherent := by
  have next := handle_coherent s e h.coherent
  have effect := handle_effect h.valid h.keyed e
  revert effect next
  generalize (handle s e).1 = r
  generalize (handle s e).2 = s'
  intro next effect
  cases effect with
  | idle => exact h
  | created _ _ _ fresh => exact h.created fresh rfl
  | updated => exact h.updated next
  | edited => exact h.updated next

theorem restore_historyCoherent (s : ConfluenceStore) {snap : WorldSnapshot} (genuine : Genuine snap) :
    (s.restore snap).2.HistoryCoherent := by
  obtain ⟨taken, id, time, coherent, rfl⟩ := genuine
  rw [ConfluenceStore.restore_snapshot coherent.valid]
  exact coherent

theorem control_historyCoherent (controlKey : String) (h : s.HistoryCoherent) (key : Option String)
    {c : ControlCall} (genuine : ∀ snap, c = .restore snap → Genuine snap) :
    (control controlKey s key c).2.HistoryCoherent := by
  unfold control
  split
  · exact h
  · split
    · exact h
    · exact h
  · rename_i edit
    split
    · exact h
    · exact handle_historyCoherent h (.humanEdit edit)
  · rename_i snap
    have restored := restore_historyCoherent s (genuine snap rfl)
    split
    · exact h
    · split <;> simp_all

/-- No control call but a restore changes what the histories hold. -/
theorem control_extends (controlKey : String) (h : s.HistoryCoherent) (key : Option String) {c : ControlCall}
    (kept : ∀ snap, c ≠ .restore snap) : s.ledger.Extends (control controlKey s key c).2.ledger := by
  unfold control
  split
  · exact .refl _
  · split
    · exact .refl _
    · exact .refl _
  · rename_i edit
    split
    · exact .refl _
    · exact handle_extends s (.humanEdit edit) h.coherent
  · rename_i snap
    exact absurd rfl (kept snap)

end Calls

end AgentGym.World
