import Mathlib.Data.Fintype.Card
import AgentGym.Lib.CodePoints
import AgentGym.Lib.Steps
import AgentGym.Lib.Traversal

/-!
# JSON-safe values

A value that is to be persisted is checked where it is validated. It may refer to lists
and dictionaries that refer to each other, so the check keeps the set of the containers
that it is inside of: a container that is shared is visited again, and one that contains
itself is refused.
-/

namespace AgentGym.Core

open Steps Relation

/-! ### Objects and containers -/

inductive PyFloat where
  | finite (q : Rat)
  | negZero
  | inf (negative : Bool)
  | nan

/-- `math.isfinite`. -/
def PyFloat.isFinite : PyFloat → Bool
  | .finite _ | .negZero => true
  | .inf _ | .nan => false

/-- A value; lists and dictionaries are known by their identity. -/
inductive PyObject (ι : Type) where
  | none
  | bool (b : Bool)
  | int (i : Int)
  | float (x : PyFloat)
  | str (s : PyString)
  | container (id : ι)
  /-- An object of any other type. -/
  | foreign (typeName : PyString)

inductive DictKey where
  | str (s : PyString)
  | foreign (id : Nat) (repr : PyString)
  deriving DecidableEq

def DictKey.isStr : DictKey → Bool
  | .str _ => true
  | .foreign .. => false

inductive Container (ι : Type) where
  | dict (items : Dict DictKey (PyObject ι))
  | list (items : List (PyObject ι))

inductive JsonSafeError where
  | valueError (message : PyString)
  /-- What `set.remove` raises. -/
  | keyError
  /-- The stack has no frame left. -/
  | recursionError

variable {ι : Type}

def PyObject.isContainer : PyObject ι → Bool
  | .container _ => true
  | _ => false

/-! ### The check -/

def py (s : String) : PyString := .ofString s

section Loops

variable (validate : PyObject ι → PyString → Steps JsonSafeError (Finset ι) Unit) (path : PyString)

def validateItems : Nat → List (PyObject ι) → Steps JsonSafeError (Finset ι) Unit
  | _, [] => pure ()
  | index, item :: items => do
    validate item (path ++ py s!"[{index}]")
    validateItems (index + 1) items

def validateEntries : List (DictKey × PyObject ι) → Steps JsonSafeError (Finset ι) Unit
  | [] => pure ()
  | (.foreign _ repr, _) :: _ =>
    throw (.valueError (path ++ py " contains a non-string dictionary key: " ++ repr))
  | (.str key, item) :: entries => do
    validate item (path ++ py "." ++ key)
    validateEntries entries

end Loops

section Check

variable [DecidableEq ι]

def enterContainer (id : ι) (path : PyString) : Steps JsonSafeError (Finset ι) Unit := do
  let active ← get
  if id ∈ active then throw (.valueError (path ++ py " contains a cyclic container, which is not JSON-safe"))
  else modify (insert id)

/-- `active_containers.remove`. -/
def removeContainer (id : ι) : Steps JsonSafeError (Finset ι) Unit := do
  let active ← get
  if id ∈ active then modify (·.erase id) else throw .keyError

/-- `_validate_json_value`, on a stack of so many frames. -/
def validateJsonValue (heap : ι → Container ι) : Nat → PyObject ι → PyString → Steps JsonSafeError (Finset ι) Unit
  | 0, _, _ => throw .recursionError
  | frames + 1, value, path =>
    match value with
    | .none | .bool _ | .int _ | .str _ => pure ()
    | .float x =>
      if x.isFinite then pure ()
      else throw (.valueError (path ++ py " contains a non-finite float, which is not JSON-safe"))
    | .container id => do
      enterContainer id path
      match heap id with
      | .dict items => andFinally (validateEntries (validateJsonValue heap frames) path items.entries) (removeContainer id)
      | .list items => andFinally (validateItems (validateJsonValue heap frames) path 0 items) (removeContainer id)
    | .foreign typeName =>
      throw (.valueError (path ++ py " contains a non-JSON-safe value of type " ++ typeName ++
        py "; persisted values must be JSON values"))

def ensureJsonSafe (heap : ι → Container ι) (frames : Nat) (value : PyObject ι) (path : PyString) :
    Except JsonSafeError (PyObject ι) :=
  (outcome (validateJsonValue heap frames value path) ∅).1.map fun _ => value

/-- What is checked inside a container. -/
def validateContents (validate : PyObject ι → PyString → Steps JsonSafeError (Finset ι) Unit) (path : PyString) :
    Container ι → Steps JsonSafeError (Finset ι) Unit
  | .dict items => validateEntries validate path items.entries
  | .list items => validateItems validate path 0 items

theorem validateJsonValue_container (heap : ι → Container ι) (frames : Nat) (id : ι) (path : PyString) :
    validateJsonValue heap (frames + 1) (.container id) path =
      (do enterContainer id path; andFinally (validateContents (validateJsonValue heap frames) path (heap id)) (removeContainer id)) := by
  rw [validateJsonValue]
  cases heap id with
  | dict items => rfl
  | list items => rfl

end Check

/-! ### The set of active containers -/

/-- A step that leaves the set as it was, however it ends. -/
def Steady (active : Finset ι) (allowed : JsonSafeError → Prop) (m : Steps JsonSafeError (Finset ι) Unit) : Prop :=
  Triple (· = active) m (fun _ s => s = active) fun e s => s = active ∧ allowed e

variable {active : Finset ι} {allowed : JsonSafeError → Prop}

theorem Steady.state {m : Steps JsonSafeError (Finset ι) Unit} (steady : Steady active allowed m) :
    (outcome m active).2 = active := by
  have ends := steady active rfl
  generalize outcome m active = x at ends ⊢
  obtain ⟨_ | _, s⟩ := x
  · exact ends.1
  · exact ends

section Loops

variable {validate : PyObject ι → PyString → Steps JsonSafeError (Finset ι) Unit}
  (each : ∀ item path, Steady active allowed (validate item path))
include each

theorem validateItems_steady (path : PyString) (index : Nat) (items : List (PyObject ι)) :
    Steady active allowed (validateItems validate path index items) := by
  induction items generalizing index with
  | nil => exact triple_pure fun s same => same
  | cons item items ih => exact triple_bind (each item _) fun _ => ih (index + 1)

theorem validateEntries_steady (values : ∀ message, allowed (.valueError message)) (path : PyString)
    (entries : List (DictKey × PyObject ι)) : Steady active allowed (validateEntries validate path entries) := by
  induction entries with
  | nil => exact triple_pure fun s same => same
  | cons e entries ih =>
    obtain ⟨key, item⟩ := e
    cases key with
    | str key => exact triple_bind (each item _) fun _ => ih
    | foreign id repr => exact triple_throw fun s same => ⟨same, values _⟩

theorem validateContents_steady (values : ∀ message, allowed (.valueError message)) (path : PyString) (contents : Container ι) :
    Steady active allowed (validateContents validate path contents) := by
  cases contents with
  | dict items => exact validateEntries_steady each values path items.entries
  | list items => exact validateItems_steady each path 0 items

end Loops

section Containers

variable [DecidableEq ι]

theorem enterContainer_outcome (id : ι) (path : PyString) (active : Finset ι) : outcome (enterContainer id path) active =
    if id ∈ active then (.error (.valueError (path ++ py " contains a cyclic container, which is not JSON-safe")), active)
    else (.ok (), insert id active) := by
  unfold enterContainer
  rw [outcome_bind, outcome_get]
  simp only
  split <;> rfl

theorem removeContainer_outcome {id : ι} {active : Finset ι} (fresh : id ∉ active) :
    outcome (removeContainer id) (insert id active) = (.ok (), active) := by
  unfold removeContainer
  rw [outcome_bind, outcome_get]
  simp only [Finset.mem_insert_self, if_true, outcome_modify, Finset.erase_insert fresh]

theorem container_outcome {id : ι} (fresh : id ∉ active) (path : PyString) {body : Steps JsonSafeError (Finset ι) Unit}
    (steady : (outcome body (insert id active)).2 = insert id active) :
    outcome (do enterContainer id path; andFinally body (removeContainer id)) active =
      ((outcome body (insert id active)).1, active) := by
  rw [outcome_bind, enterContainer_outcome, if_neg fresh]
  simp only [andFinally, outcome_ofFn, steady, removeContainer_outcome fresh]

theorem container_active {id : ι} (member : id ∈ active) (path : PyString) (body : Steps JsonSafeError (Finset ι) Unit) :
    outcome (do enterContainer id path; andFinally body (removeContainer id)) active =
      (.error (.valueError (path ++ py " contains a cyclic container, which is not JSON-safe")), active) := by
  rw [outcome_bind, enterContainer_outcome, if_pos member]

theorem container_steady {id : ι} {path : PyString} {body : Steps JsonSafeError (Finset ι) Unit}
    (values : ∀ message, allowed (.valueError message))
    (inside : id ∉ active → Steady (insert id active) allowed body) :
    Steady active allowed (do enterContainer id path; andFinally body (removeContainer id)) := by
  rintro s same
  rw [same]
  by_cases member : id ∈ active
  · rw [container_active member]
    exact ⟨rfl, values _⟩
  · have steady := inside member
    rw [container_outcome member path steady.state]
    have ends := steady _ rfl
    generalize outcome body (insert id active) = x at ends ⊢
    obtain ⟨_ | _, _⟩ := x
    · exact ⟨rfl, ends.2⟩
    · rfl

/-- What a check may raise inside these containers: it never misses one that it removes, and
only a stack with no more frames than there are other containers is too small. -/
def Allowed [Fintype ι] (frames : Nat) (active : Finset ι) : JsonSafeError → Prop
  | .valueError _ => True
  | .keyError => False
  | .recursionError => frames ≤ activeᶜ.card

variable [Fintype ι] (heap : ι → Container ι)

omit heap in
theorem card_compl_insert {id : ι} (fresh : id ∉ active) : (insert id active)ᶜ.card + 1 = activeᶜ.card := by
  rw [Finset.compl_insert]
  exact Finset.card_erase_add_one (Finset.mem_compl.mpr fresh)

theorem allowed_succ {frames : Nat} {id : ι} (fresh : id ∉ active) (e : JsonSafeError)
    (allowed : Allowed frames (insert id active) e) : Allowed (frames + 1) active e := by
  cases e with
  | valueError message => trivial
  | keyError => exact allowed
  | recursionError =>
    show frames + 1 ≤ activeᶜ.card
    rw [← card_compl_insert fresh]
    exact Nat.succ_le_succ allowed

/-- Every call leaves the set of active containers as it found it. -/
theorem validateJsonValue_steady (frames : Nat) (value : PyObject ι) (path : PyString) (active : Finset ι) :
    Steady active (Allowed frames active) (validateJsonValue heap frames value path) := by
  induction frames generalizing value path active with
  | zero => exact triple_throw fun s same => ⟨same, Nat.zero_le _⟩
  | succ frames ih =>
    have inside : ∀ id, id ∉ active → ∀ item path,
        Steady (insert id active) (Allowed (frames + 1) active) (validateJsonValue heap frames item path) :=
      fun id fresh item path => (ih item path (insert id active)).failure fun e s h => ⟨h.1, allowed_succ fresh e h.2⟩
    cases value with
    | container id =>
      rw [validateJsonValue_container]
      exact container_steady (fun _ => trivial) fun fresh =>
        validateContents_steady (inside id fresh) (fun _ => trivial) path (heap id)
    | float x =>
      rw [validateJsonValue]
      split
      · exact triple_pure fun s same => same
      · exact triple_throw fun s same => ⟨same, trivial⟩
    | foreign typeName => exact triple_throw fun s same => ⟨same, trivial⟩
    | _ => exact triple_pure fun s same => same

theorem validateContents_state (frames : Nat) (path : PyString) (contents : Container ι) (active : Finset ι) :
    (outcome (validateContents (validateJsonValue heap frames) path contents) active).2 = active :=
  (validateContents_steady (fun item path => validateJsonValue_steady heap frames item path active) (fun _ => trivial) path
    contents).state

end Containers

/-! ### What is accepted -/

def Container.values : Container ι → List (PyObject ι)
  | .dict items => items.entries.map Prod.snd
  | .list items => items

def Container.StringKeys : Container ι → Prop
  | .dict items => ∀ e ∈ items.entries, e.1.isStr = true
  | .list _ => True

section Loops

variable {validate : PyObject ι → PyString → Steps JsonSafeError (Finset ι) Unit} {good : PyObject ι → Prop}
  (state : ∀ item path, (outcome (validate item path) active).2 = active)
  (accepts : ∀ item path, (outcome (validate item path) active).1 = .ok () ↔ good item)
include state accepts

theorem validateItems_ok_iff (path : PyString) (index : Nat) (items : List (PyObject ι)) :
    (outcome (validateItems validate path index items) active).1 = .ok () ↔ ∀ item ∈ items, good item := by
  induction items generalizing index with
  | nil => simp [validateItems]
  | cons item items ih =>
    rw [validateItems, outcome_bind_fst_eq_ok (state item _), accepts, ih, List.forall_mem_cons]

theorem validateEntries_ok_iff (path : PyString) (entries : List (DictKey × PyObject ι)) :
    (outcome (validateEntries validate path entries) active).1 = .ok () ↔
      (∀ e ∈ entries, e.1.isStr = true) ∧ ∀ item ∈ entries.map Prod.snd, good item := by
  induction entries with
  | nil => simp [validateEntries]
  | cons e entries ih =>
    obtain ⟨key, item⟩ := e
    cases key with
    | str key =>
      rw [validateEntries, outcome_bind_fst_eq_ok (state item _), accepts, ih]
      simp only [List.map_cons, List.forall_mem_cons, DictKey.isStr, true_and]
      exact and_left_comm
    | foreign id repr => simp [validateEntries, DictKey.isStr]

theorem validateContents_ok_iff (path : PyString) (contents : Container ι) :
    (outcome (validateContents validate path contents) active).1 = .ok () ↔
      contents.StringKeys ∧ ∀ item ∈ contents.values, good item := by
  cases contents with
  | dict items => exact validateEntries_ok_iff state accepts path items.entries
  | list items => exact (validateItems_ok_iff state accepts path 0 items).trans (Iff.of_eq (true_and _).symm)

end Loops

/-- One value holds another one. -/
def Child (heap : ι → Container ι) (v w : PyObject ι) : Prop := ∃ id, v = .container id ∧ w ∈ (heap id).values

def Reaches (heap : ι → Container ι) : PyObject ι → PyObject ι → Prop := ReflTransGen (Child heap)

/-- Null, a boolean, an integer, a finite float or a string. -/
def PyObject.isScalar : PyObject ι → Bool
  | .none | .bool _ | .int _ | .str _ => true
  | .float x => x.isFinite
  | .container _ | .foreign _ => false

/-- What may be persisted as JSON: no container is inside of itself, dictionaries have strings as
their keys, and everything else is a scalar. -/
structure JsonSafe (heap : ι → Container ι) (v : PyObject ι) : Prop where
  acyclic : ∀ id, Reaches heap v (.container id) → ¬TransGen (Child heap) (.container id) (.container id)
  keys : ∀ id items, Reaches heap v (.container id) → heap id = .dict items → ∀ e ∈ items.entries, e.1.isStr = true
  leaves : ∀ w, Reaches heap v w → w.isContainer = false → w.isScalar = true

/-- What is checked of a value itself. -/
def Acceptable (heap : ι → Container ι) : PyObject ι → Prop
  | .container id => (heap id).StringKeys
  | v => v.isScalar = true

theorem jsonSafe_iff (heap : ι → Container ι) (v : PyObject ι) :
    JsonSafe heap v ↔ Traversal.Sound (Child heap) (Acceptable heap) ∅ v := by
  constructor
  · intro safe
    refine ⟨?_, ?_, fun w _ => Set.notMem_empty w⟩
    · intro w reached
      cases w with
      | container id =>
        show (heap id).StringKeys
        cases contents : heap id with
        | dict items => exact safe.keys id items reached contents
        | list items => trivial
      | _ => exact safe.leaves _ reached rfl
    · intro w reached cycle
      obtain ⟨x, ⟨id, rfl, -⟩, -⟩ := TransGen.head'_iff.mp cycle
      exact safe.acyclic id reached cycle
  · intro sound
    refine ⟨fun id => sound.acyclic _, ?_, ?_⟩
    · intro id items reached contents
      have keys : (heap id).StringKeys := sound.good _ reached
      rw [contents] at keys
      exact keys
    · intro w reached leaf
      have here := sound.good w reached
      cases w with
      | container id => cases leaf
      | _ => exact here

/-- The containers of a set, as values. -/
def activeValues (active : Finset ι) : Set (PyObject ι) := {v | ∃ id ∈ active, v = .container id}

section Accepts

variable [DecidableEq ι] [Fintype ι] (heap : ι → Container ι)

omit [Fintype ι] in
theorem activeValues_insert (id : ι) (active : Finset ι) :
    insert (.container id) (activeValues active) = activeValues (insert id active) := by
  ext v
  simp only [activeValues, Set.mem_insert_iff, Set.mem_ofPred_eq, Finset.mem_insert]
  constructor
  · rintro (rfl | ⟨id', member, rfl⟩)
    · exact ⟨id, Or.inl rfl, rfl⟩
    · exact ⟨id', Or.inr member, rfl⟩
  · rintro ⟨id', rfl | member, rfl⟩
    · exact Or.inl rfl
    · exact Or.inr ⟨id', member, rfl⟩

omit [DecidableEq ι] [Fintype ι] in
theorem sound_leaf {value : PyObject ι} (leaf : value.isContainer = false) :
    Traversal.Sound (Child heap) (Acceptable heap) (activeValues active) value ↔ value.isScalar = true := by
  rw [Traversal.sound_iff]
  have fresh : value ∉ activeValues active := by
    rintro ⟨id, -, rfl⟩
    cases leaf
  have childless : ∀ w, ¬Child heap value w := by
    rintro w ⟨id, rfl, -⟩
    cases leaf
  have here : Acceptable heap value ↔ value.isScalar = true := by
    cases value with
    | container id => cases leaf
    | _ => exact Iff.rfl
  rw [here]
  exact ⟨fun sound => sound.2.1, fun scalar => ⟨fresh, scalar, fun w edge => absurd edge (childless w)⟩⟩

omit [Fintype ι] in
theorem sound_container {id : ι} (fresh : id ∉ active) :
    Traversal.Sound (Child heap) (Acceptable heap) (activeValues active) (.container id) ↔
      (heap id).StringKeys ∧ ∀ item ∈ (heap id).values,
        Traversal.Sound (Child heap) (Acceptable heap) (activeValues (insert id active)) item := by
  have outside : .container id ∉ activeValues active := by
    rintro ⟨id', member, same⟩
    exact fresh (PyObject.container.inj same ▸ member)
  rw [Traversal.sound_iff, activeValues_insert]
  constructor
  · rintro ⟨-, keys, items⟩
    exact ⟨keys, fun item member => items item ⟨id, rfl, member⟩⟩
  · rintro ⟨keys, items⟩
    refine ⟨outside, keys, ?_⟩
    rintro item ⟨id', same, member⟩
    exact items item (PyObject.container.inj same ▸ member)

theorem validateJsonValue_ok_iff {frames : Nat} {active : Finset ι} (enough : activeᶜ.card < frames) (value : PyObject ι)
    (path : PyString) : (outcome (validateJsonValue heap frames value path) active).1 = .ok () ↔
      Traversal.Sound (Child heap) (Acceptable heap) (activeValues active) value := by
  induction frames generalizing value path active with
  | zero => exact absurd enough (Nat.not_lt_zero _)
  | succ frames ih =>
    cases value with
    | container id =>
      rw [validateJsonValue_container]
      by_cases member : id ∈ active
      · rw [container_active member]
        have cyclic : ¬Traversal.Sound (Child heap) (Acceptable heap) (activeValues active) (.container id) :=
          fun sound => sound.outside _ .refl ⟨id, member, rfl⟩
        simp [cyclic]
      · have fewer : (insert id active)ᶜ.card < frames := by
          rw [← card_compl_insert member] at enough
          exact Nat.lt_of_succ_lt_succ enough
        have state : ∀ item path, (outcome (validateJsonValue heap frames item path) (insert id active)).2 = insert id active :=
          fun item path => (validateJsonValue_steady heap frames item path _).state
        have contents := validateContents_ok_iff state (fun item path => ih fewer item path) path (heap id)
        rw [sound_container heap member, ← contents, container_outcome member path (validateContents_state heap frames path _ _)]
    | float x =>
      rw [sound_leaf heap rfl, validateJsonValue]
      split
      · rename_i finite
        exact iff_of_true rfl finite
      · rename_i infinite
        exact iff_of_false (by simp) infinite
    | _ =>
      rw [sound_leaf heap rfl]
      simp [validateJsonValue, PyObject.isScalar]

end Accepts

/-! ### How deep the check goes -/

section Loops

variable {validate validate' : PyObject ι → PyString → Steps JsonSafeError (Finset ι) Unit}
  (state : ∀ item path, (outcome (validate item path) active).2 = active)
  (same : ∀ item path, outcome (validate' item path) active = outcome (validate item path) active)
include state same

theorem validateItems_congr (path : PyString) (index : Nat) (items : List (PyObject ι)) :
    outcome (validateItems validate' path index items) active = outcome (validateItems validate path index items) active := by
  induction items generalizing index with
  | nil => rfl
  | cons item items ih => exact outcome_bind_congr (state item _) (same item _) (ih (index + 1))

theorem validateEntries_congr (path : PyString) (entries : List (DictKey × PyObject ι)) :
    outcome (validateEntries validate' path entries) active = outcome (validateEntries validate path entries) active := by
  induction entries with
  | nil => rfl
  | cons e entries ih =>
    obtain ⟨key, item⟩ := e
    cases key with
    | str key => exact outcome_bind_congr (state item _) (same item _) ih
    | foreign id repr => rfl

theorem validateContents_congr (path : PyString) (contents : Container ι) :
    outcome (validateContents validate' path contents) active = outcome (validateContents validate path contents) active := by
  cases contents with
  | dict items => exact validateEntries_congr state same path items.entries
  | list items => exact validateItems_congr state same path 0 items

end Loops

section Depth

variable [DecidableEq ι] [Fintype ι] (heap : ι → Container ι)

/-- One more frame changes nothing once there are more frames than containers to enter. -/
theorem validateJsonValue_succ {frames : Nat} {active : Finset ι} (enough : activeᶜ.card < frames) (value : PyObject ι)
    (path : PyString) : outcome (validateJsonValue heap (frames + 1) value path) active =
      outcome (validateJsonValue heap frames value path) active := by
  induction frames generalizing value path active with
  | zero => exact absurd enough (Nat.not_lt_zero _)
  | succ frames ih =>
    cases value with
    | container id =>
      rw [validateJsonValue_container, validateJsonValue_container]
      by_cases member : id ∈ active
      · rw [container_active member, container_active member]
      · have fewer : (insert id active)ᶜ.card < frames := by
          rw [← card_compl_insert member] at enough
          exact Nat.lt_of_succ_lt_succ enough
        have state : ∀ frames item path, (outcome (validateJsonValue heap frames item path) (insert id active)).2 = insert id active :=
          fun frames item path => (validateJsonValue_steady heap frames item path _).state
        have contents := validateContents_congr (state frames) (fun item path => ih fewer item path) path (heap id)
        rw [container_outcome member path (validateContents_state heap _ path _ _), container_outcome member path (validateContents_state heap _ path _ _),
          contents]
    | _ => rfl

omit heap in
theorem card_compl_empty {frames : Nat} (enough : Fintype.card ι < frames) : (∅ : Finset ι)ᶜ.card < frames := by
  rw [Finset.compl_empty]
  exact enough

theorem ensureJsonSafe_eq {frames : Nat} (enough : Fintype.card ι < frames) (value : PyObject ι) (path : PyString) :
    ensureJsonSafe heap frames value path = ensureJsonSafe heap (Fintype.card ι + 1) value path := by
  induction frames, enough using Nat.le_induction with
  | base => rfl
  | succ frames enough ih =>
    rw [← ih]
    unfold ensureJsonSafe
    rw [validateJsonValue_succ heap (card_compl_empty enough)]

omit [Fintype ι] in
theorem ensureJsonSafe_ok {frames : Nat} {value : PyObject ι} {path : PyString} :
    ensureJsonSafe heap frames value path = .ok value ↔ (outcome (validateJsonValue heap frames value path) ∅).1 = .ok () := by
  unfold ensureJsonSafe
  cases (outcome (validateJsonValue heap frames value path) ∅).1 <;> simp [Except.map]

theorem ensureJsonSafe_accepts {frames : Nat} (enough : Fintype.card ι < frames) (value : PyObject ι) (path : PyString) :
    ensureJsonSafe heap frames value path = .ok value ↔ JsonSafe heap value := by
  have empty : activeValues (∅ : Finset ι) = ∅ := by simp [activeValues]
  rw [ensureJsonSafe_ok, validateJsonValue_ok_iff heap (card_compl_empty enough), empty, jsonSafe_iff]

theorem ensureJsonSafe_cases (frames : Nat) (value : PyObject ι) (path : PyString) :
    ensureJsonSafe heap frames value path = .ok value ∨
      ∃ e, Allowed frames (∅ : Finset ι) e ∧ ensureJsonSafe heap frames value path = .error e := by
  have ends := validateJsonValue_steady heap frames value path ∅ ∅ rfl
  unfold ensureJsonSafe
  generalize outcome (validateJsonValue heap frames value path) ∅ = x at ends ⊢
  obtain ⟨e | _, s⟩ := x
  · exact Or.inr ⟨e, ends.2, rfl⟩
  · exact Or.inl rfl

theorem valueError_of_allowed {frames : Nat} (enough : Fintype.card ι < frames) {e : JsonSafeError}
    (allowed : Allowed frames (∅ : Finset ι) e) : ∃ message, e = .valueError message := by
  cases e with
  | valueError message => exact ⟨message, rfl⟩
  | keyError => exact allowed.elim
  | recursionError =>
    have few : frames ≤ (∅ : Finset ι)ᶜ.card := allowed
    rw [Finset.compl_empty] at few
    exact absurd enough (Nat.not_lt.mpr few)

end Depth

/-- What the check does on the graph of the containers of a heap. -/
structure Exact [DecidableEq ι] [Fintype ι] (heap : ι → Container ι) : Prop where
  /-- No stack with more frames than there are containers runs out. -/
  terminates : ∀ value path, ∃ answer, answer ≠ .error .recursionError ∧
    ∀ frames, Fintype.card ι < frames → ensureJsonSafe heap frames value path = answer
  accepts : ∀ value path frames, Fintype.card ι < frames →
    (ensureJsonSafe heap frames value path = .ok value ↔ JsonSafe heap value)
  refuses : ∀ value path frames, Fintype.card ι < frames → ¬JsonSafe heap value →
    ∃ message, ensureJsonSafe heap frames value path = .error (.valueError message)
  /-- Every call leaves the active containers as they were, also when it raises. -/
  restores : ∀ frames value path active, (outcome (validateJsonValue heap frames value path) active).2 = active

theorem ensureJsonSafe_exact [DecidableEq ι] [Fintype ι] (heap : ι → Container ι) : Exact heap where
  terminates value path := by
    refine ⟨_, ?_, fun frames enough => ensureJsonSafe_eq heap enough value path⟩
    rcases ensureJsonSafe_cases heap (Fintype.card ι + 1) value path with accepted | ⟨e, allowed, raised⟩
    · simp [accepted]
    · obtain ⟨message, rfl⟩ := valueError_of_allowed (Nat.lt_succ_self _) allowed
      simp [raised]
  accepts value path frames enough := ensureJsonSafe_accepts heap enough value path
  refuses value path frames enough unsafe_ := by
    rcases ensureJsonSafe_cases heap frames value path with accepted | ⟨e, allowed, raised⟩
    · exact absurd ((ensureJsonSafe_accepts heap enough value path).mp accepted) unsafe_
    · obtain ⟨message, rfl⟩ := valueError_of_allowed enough allowed
      exact ⟨message, raised⟩
  restores frames value path active := (validateJsonValue_steady heap frames value path active).state

/-- A list that is held by another one twice, and neither of them by itself. -/
def sharedList : Bool → Container Bool := fun id => if id then .list [.container false, .container false] else .list []

example : (ensureJsonSafe sharedList 3 (.container true) (py "$")).isOk = true := by decide

def selfHeld : Unit → Container Unit := fun _ => .dict (.ofEntries [(.str (py "self"), .container ())])

example : ensureJsonSafe selfHeld 2 (.container ()) (py "$") =
    .error (.valueError (py "$.self contains a cyclic container, which is not JSON-safe")) := by rfl

end AgentGym.Core
