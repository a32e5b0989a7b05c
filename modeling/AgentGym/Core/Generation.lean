import AgentGym.Core.Freeze
import AgentGym.Lib.Machine

/-!
# Generations

An accepted generation keeps its mutation ids and metrics in deeply frozen copies. Whatever
is done afterwards with the values it was made from, with other containers or with its own,
it stands for what it was given, and every mutation of a container below it raises, unless
the methods that refuse it are bypassed.
-/

namespace AgentGym.Core

open Steps Relation Storage.Persistence

/-! ### Construction -/

/-- The fields of a generation, as they are given and as they are kept. -/
structure Generation where
  number : Int
  packageId : PyString
  parentPackageId : Option PyString
  mutationIds : PyObject Nat
  trainMetrics : PyObject Nat
  validationMetrics : PyObject Nat
  createdAt : PyString

def Generation.containers (g : Generation) : List (PyObject Nat) := [g.mutationIds, g.trainMetrics, g.validationMetrics]

inductive GenerationError where
  /-- A `ValidationError`, at this field. -/
  | invalid (field : String)
  | recursionError
  deriving DecidableEq

/-- A copy of the container of a field, as validation makes it. -/
def copied (contents : Container Nat) : Steps GenerationError PyHeap (PyObject Nat) := allocate ⟨false, contents⟩

/-- Validation of `mutation_ids : list[str]`. -/
def mutationIdsField (value : PyObject Nat) : Steps GenerationError PyHeap (PyObject Nat) := do
  let h ← get
  match value with
  | .container id =>
    match PyHeap.contents h id with
    | .list items =>
      if items.all fun item => item matches .str _ then copied (.list items) else throw (.invalid "mutation_ids")
    | .dict _ => throw (.invalid "mutation_ids")
  | _ => throw (.invalid "mutation_ids")

/-- Validation of metrics, `dict[str, Any]`, with `validate_metrics` before it. -/
def metricsField (field : String) (frames : Nat) (value : PyObject Nat) :
    Steps GenerationError PyHeap (PyObject Nat) := do
  let h ← get
  match ensureJsonSafe (PyHeap.contents h) frames value (py "$") with
  | .error .recursionError => throw .recursionError
  | .error _ => throw (.invalid field)
  | .ok value =>
    match value with
    | .container id =>
      match PyHeap.contents h id with
      | .dict items => copied (.dict items)
      | .list _ => throw (.invalid field)
    | _ => throw (.invalid field)

def frozen (frames : Nat) (value : PyObject Nat) : Steps GenerationError PyHeap (PyObject Nat) :=
  mapError (fun _ => .recursionError) (deepFreeze frames value)

/-- `Generation(...)`, with `freeze_nested_containers`. -/
def Generation.create (frames : Nat) (given : Generation) : Steps GenerationError PyHeap Generation := do
  let mutationIds ← mutationIdsField given.mutationIds
  let trainMetrics ← metricsField "train_metrics" frames given.trainMetrics
  let validationMetrics ← metricsField "validation_metrics" frames given.validationMetrics
  let mutationIds ← frozen frames mutationIds
  let trainMetrics ← frozen frames trainMetrics
  let validationMetrics ← frozen frames validationMetrics
  pure { given with mutationIds, trainMetrics, validationMetrics }

/-! ### What can be done with containers -/

/-- The methods that change a list or a dictionary. -/
inductive Mutator where
  | setitem | delitem | iadd | imul | append | clear | extend | insert | pop | remove | reverse | sort
  | popitem | setdefault | update | ior
  /-- `__init__`, called again. -/
  | init
  deriving DecidableEq

/-- Those that a built-in list or dictionary has. -/
def Container.mutators : Container Nat → List Mutator
  | .list _ => [.append, .clear, .extend, .insert, .pop, .remove, .reverse, .sort, .setitem, .delitem, .iadd, .imul,
    .init]
  | .dict _ => [.clear, .pop, .popitem, .setdefault, .update, .setitem, .delitem, .ior, .init]

/-- Those that `_FrozenList` and `_FrozenDict` replace by `_raise_immutable`. -/
def Container.replaced : Container Nat → List Mutator
  | .list _ => [.setitem, .delitem, .iadd, .imul, .append, .clear, .extend, .insert, .pop, .remove, .reverse, .sort]
  | .dict _ => [.setitem, .delitem, .clear, .pop, .popitem, .setdefault, .update, .ior]

inductive HeapError where
  /-- The `TypeError` of `_raise_immutable`, "Generation containers are immutable". -/
  | immutable
  | noAttribute
  /-- The `ValidationError` of a frozen instance. -/
  | frozenInstance
  | construction (e : GenerationError)
  /-- The program has no such object. -/
  | unknown
  deriving DecidableEq

structure PyState where
  heap : PyHeap
  generations : List Generation

inductive HeapOp where
  /-- A list or a dictionary is built. -/
  | build (contents : Container Nat)
  /-- A method of a container is called; `left` is what it leaves of one that is not frozen. -/
  | call (id : Nat) (mutator : Mutator) (left : Container Nat)
  /-- A method of `list` or `dict` itself is called with the container as its first argument. -/
  | callBase (id : Nat) (mutator : Mutator) (left : Container Nat)
  /-- A field of a generation is assigned. -/
  | assign (index : Nat) (field : String) (value : PyObject Nat)
  | create (frames : Nat) (given : Generation)

namespace PyState

def knows (h : PyHeap) : PyObject Nat → Bool
  | .container id => id < h.size
  | _ => true

/-- A method leaves a list a list, and a dictionary a dictionary. -/
def fits : Container Nat → Container Nat → Bool
  | .list _, .list _ => true
  | .dict _, .dict _ => true
  | _, _ => false

/-- A container has a method called on it, which may be `_raise_immutable`. -/
def mutate (s : PyState) (id : Nat) (mutator : Mutator) (left : Container Nat) (refused : Bool) :
    Except HeapError Unit × PyState :=
  let cell := s.heap.cells id
  if id < s.heap.size ∧ left.values.all (knows s.heap) ∧ fits cell.contents left then
    if mutator ∉ cell.contents.mutators then (.error .noAttribute, s)
    else if refused then (.error .immutable, s)
    else (.ok (), { s with heap := s.heap.set id { cell with contents := left } })
  else (.error .unknown, s)

def step (s : PyState) : HeapOp → Except HeapError Unit × PyState
  | .build contents =>
    if contents.values.all (knows s.heap) then (.ok (), { s with heap := s.heap.push ⟨false, contents⟩ })
    else (.error .unknown, s)
  | .call id mutator left =>
    let cell := s.heap.cells id
    mutate s id mutator left (cell.frozen && mutator ∈ cell.contents.replaced)
  | .callBase id mutator left => mutate s id mutator left false
  | .assign _ _ _ => (.error .frozenInstance, s)
  | .create frames given =>
    if given.containers.all (knows s.heap) then
      match (Generation.create frames given).outcome s.heap with
      | (.ok g, heap) => (.ok (), ⟨heap, s.generations ++ [g]⟩)
      -- nothing refers to the copies of an instance that was not made
      | (.error e, _) => (.error (.construction e), s)
    else (.error .unknown, s)

/-- The operation does not bypass the methods of a frozen container: neither `__init__`, which none of them replaces, is
called on it again, nor a method of `list` or `dict` itself. -/
def Regular (s : PyState) : HeapOp → Prop
  | .call id mutator _ => (s.heap.cells id).frozen = true → mutator ≠ .init
  | .callBase id _ _ => (s.heap.cells id).frozen = false
  | _ => True

instance (s : PyState) : DecidablePred (Regular s)
  | .build _ => inferInstanceAs (Decidable True)
  | .call id mutator _ => inferInstanceAs (Decidable ((s.heap.cells id).frozen = true → mutator ≠ .init))
  | .callBase id _ _ => inferInstanceAs (Decidable ((s.heap.cells id).frozen = false))
  | .assign _ _ _ => inferInstanceAs (Decidable True)
  | .create _ _ => inferInstanceAs (Decidable True)

/-- All operations of a run are regular. -/
def Regularly (s : PyState) (ops : List HeapOp) : Prop := ∀ t ∈ Machine.trace step s ops, Regular t.before t.event

end PyState

/-! ### What a generation is made of -/

variable {h₀ h h' : PyHeap} {frames : Nat} {given : Generation} {v₀ v : PyObject Nat}

/-- The value stands for one of a kind, and is not deeper than the stack lets it be copied. -/
def Shallow (h : PyHeap) (frames : Nat) (kind : PyValue → Prop) (v : PyObject Nat) : Prop :=
  ∃ m tree, 2 * m ≤ frames ∧ unfold h.contents m v = some tree ∧ kind tree

def IsStrings (tree : PyValue) : Prop := ∃ ids : List PyString, tree = .list (ids.map .str)

def IsDict (tree : PyValue) : Prop := ∃ entries, tree = .dict entries

/-- The ids are strings and the metrics dictionaries. -/
structure Generation.Accepted (h : PyHeap) (frames : Nat) (given : Generation) : Prop where
  mutationIds : Shallow h frames IsStrings given.mutationIds
  trainMetrics : Shallow h frames IsDict given.trainMetrics
  validationMetrics : Shallow h frames IsDict given.validationMetrics

/-- In the heap a generation is frozen, and stands for what it was given in another one. -/
structure Generation.MadeOf (g : Generation) (h : PyHeap) (given : Generation) (h₀ : PyHeap) : Prop where
  plain : { g with mutationIds := given.mutationIds, trainMetrics := given.trainMetrics,
                   validationMetrics := given.validationMetrics } = given
  fields : List.Forall₂ (fun v v₀ => FrozenAs h v fun m => unfold h₀.contents m v₀) g.containers given.containers

/-- In the heap a value stands for what another one stood for at first. -/
structure KeptAs (h₀ : PyHeap) (v₀ : PyObject Nat) (h : PyHeap) (v : PyObject Nat) : Prop where
  sound : h.Sound
  known : v.Within h.live
  stands : ∀ m, unfold h.contents m v = unfold h₀.contents m v₀

theorem KeptAs.grows (kept : KeptAs h₀ v₀ h v) (grows : Grows h h') : KeptAs h₀ v₀ h' v where
  sound := grows.sound kept.sound
  known id same := grows.live (kept.known id same)
  stands m := (unfold_agrees kept.sound.live grows.agrees kept.known m).trans (kept.stands m)

theorem copied_ends {E : GenerationError → PyHeap → Prop} {id : Nat} (kept : KeptAs h₀ v₀ h (.container id)) :
    Ends (fun v' h' => Grows h h' ∧ KeptAs h₀ v₀ h' v') E ((copied (h.contents id)).outcome h) := by
  have grows : Grows h (h.push ⟨false, h.contents id⟩) := grows_push (kept.sound.live id (kept.known id rfl))
  have kept' := kept.grows grows
  have same : PyHeap.contents (h.push ⟨false, h.contents id⟩) h.size =
      PyHeap.contents (h.push ⟨false, h.contents id⟩) id := by
    show ((h.push _).cells h.size).contents = ((h.push _).cells id).contents
    rw [Heap.cells_push_self, Heap.cells_push_of_live (kept.known id rfl)]
    rfl
  refine ⟨grows, kept'.sound, ?_, fun m => ?_⟩
  · intro id' same'
    obtain rfl := PyObject.container.inj same'
    exact Nat.lt_succ_self h.size
  · rw [← kept'.stands m]
    cases m with
    | zero => rfl
    | succ m => exact unfold_container same fun _ _ => rfl

theorem eq_str_of_unfold {ι : Type} {heap : ι → Container ι} {n : Nat} {item : PyObject ι} {s : PyString}
    (stands : unfold heap n item = some (.str s)) : item = .str s := by
  cases n with
  | zero => cases stands
  | succ n =>
    cases item with
    | container id =>
      cases contents : heap id with
      | dict items =>
        rw [unfold_dict contents] at stands
        obtain ⟨_, -, same⟩ := Option.map_eq_some_iff.mp stands
        cases same
      | list items =>
        rw [unfold_list contents] at stands
        obtain ⟨_, -, same⟩ := Option.map_eq_some_iff.mp stands
        cases same
    | str t =>
      obtain rfl := PyValue.str.inj (Option.some.inj stands)
      rfl
    | float x => cases x <;> cases stands
    | _ => cases stands

/-- What stands for a list is one, and its items stand for the items. -/
theorem list_of_unfold {ι : Type} {heap : ι → Container ι} {n : Nat} {v : PyObject ι} {values : List PyValue}
    (stands : unfold heap n v = some (.list values)) :
    ∃ m id items, n = m + 1 ∧ v = .container id ∧ heap id = .list items ∧
      List.Forall₂ (fun item value => unfold heap m item = some value) items values := by
  cases n with
  | zero => cases stands
  | succ n =>
    cases v with
    | container id =>
      cases contents : heap id with
      | dict items =>
        rw [unfold_dict contents] at stands
        obtain ⟨_, -, same⟩ := Option.map_eq_some_iff.mp stands
        cases same
      | list items =>
        rw [unfold_list contents] at stands
        obtain ⟨_, each, same⟩ := Option.map_eq_some_iff.mp stands
        obtain rfl := PyValue.list.inj same
        exact ⟨n, id, items, rfl, rfl, contents, forall₂_of_mapM_eq_some each⟩
    | float x => cases x <;> cases stands
    | _ => cases stands

theorem dict_of_unfold {ι : Type} {heap : ι → Container ι} {n : Nat} {v : PyObject ι}
    {entries : List (PyString × PyValue)} (stands : unfold heap n v = some (.dict entries)) :
    ∃ id items, v = .container id ∧ heap id = .dict items := by
  cases n with
  | zero => cases stands
  | succ n =>
    cases v with
    | container id =>
      cases contents : heap id with
      | dict items => exact ⟨id, items, rfl, contents⟩
      | list items =>
        rw [unfold_list contents] at stands
        obtain ⟨_, -, same⟩ := Option.map_eq_some_iff.mp stands
        cases same
    | float x => cases x <;> cases stands
    | _ => cases stands

/-- Ids are copied where they are strings. -/
theorem mutationIdsField_ends (frames : Nat) (kept : KeptAs h₀ v₀ h v) :
    Ends (fun v' h' => Grows h h' ∧ KeptAs h₀ v₀ h' v') (fun _ _ => ¬ Shallow h₀ frames IsStrings v₀)
      ((mutationIdsField v).outcome h) := by
  have refused : (∀ id items, v = .container id → h.contents id = .list items → ¬ items.all (· matches .str _) = true) →
      ¬ Shallow h₀ frames IsStrings v₀ := by
    rintro bad ⟨m, _, -, stands, ids, rfl⟩
    rw [← kept.stands m] at stands
    obtain ⟨n, id, items, -, same, contents, each⟩ := list_of_unfold stands
    refine bad id items same contents (List.all_eq_true.mpr fun item member => ?_)
    obtain ⟨value, inside, is⟩ := exists_of_forall₂ each member
    obtain ⟨s, -, rfl⟩ := List.mem_map.mp inside
    rw [eq_str_of_unfold is]
  unfold mutationIdsField
  rw [outcome_bind, outcome_get]
  dsimp only
  split
  · rename_i id
    split
    · rename_i items contents
      split
      · rw [← contents]
        exact copied_ends kept
      · rename_i bad
        refine refused fun id' items' same contents' => ?_
        obtain rfl := PyObject.container.inj same
        obtain rfl := Container.list.inj (contents.symm.trans contents')
        exact bad
    · rename_i items contents
      refine refused fun id' items' same contents' => ?_
      obtain rfl := PyObject.container.inj same
      rw [contents] at contents'
      cases contents'
  · rename_i other
    exact refused fun id items same => absurd same (other id)

/-- Metrics are copied where they stand for a dictionary. -/
theorem metricsField_ends (field : String) (frames : Nat) (kept : KeptAs h₀ v₀ h v) :
    Ends (fun v' h' => Grows h h' ∧ KeptAs h₀ v₀ h' v') (fun _ _ => ¬ Shallow h₀ frames IsDict v₀)
      ((metricsField field frames v).outcome h) := by
  have refused : (∀ id items, v = .container id → h.contents id = .dict items → False) →
      ¬ Shallow h₀ frames IsDict v₀ := by
    rintro bad ⟨m, _, -, stands, entries, rfl⟩
    rw [← kept.stands m] at stands
    obtain ⟨id, items, same, contents⟩ := dict_of_unfold stands
    exact bad id items same contents
  have valid : Shallow h₀ frames IsDict v₀ → ensureJsonSafe h.contents frames v (py "$") = .ok v := by
    rintro ⟨m, tree, few, stands, -⟩
    rw [← kept.stands m] at stands
    have accepted := validate_unfolded (show m ≤ frames by omega) (py "$")
      (fun id inside => absurd inside (Finset.notMem_empty id)) (Option.isSome_iff_exists.mpr ⟨tree, stands⟩)
    rw [ensureJsonSafe, accepted]
    rfl
  have answer : ∀ w, ensureJsonSafe h.contents frames v (py "$") = .ok w → w = v := by
    intro w answered
    rw [ensureJsonSafe] at answered
    generalize (outcome (validateJsonValue h.contents frames v (py "$")) ∅).1 = x at answered
    cases x with
    | error e => cases answered
    | ok _ => exact (Except.ok.inj answered).symm
  unfold metricsField
  rw [outcome_bind, outcome_get]
  dsimp only
  split
  · rename_i failed
    intro shallow
    rw [valid shallow] at failed
    cases failed
  · rename_i e _ failed
    intro shallow
    rw [valid shallow] at failed
    cases failed
  · rename_i w answered
    obtain rfl := answer w answered
    split
    · rename_i id
      split
      · rename_i items contents
        rw [← contents]
        exact copied_ends kept
      · rename_i items contents
        refine refused fun id' items' same contents' => ?_
        obtain rfl := PyObject.container.inj same
        rw [contents] at contents'
        cases contents'
    · rename_i other
      exact refused fun id items same => absurd same (other id)

theorem frozen_ends (kind : PyValue → Prop) (frames : Nat) (kept : KeptAs h₀ v₀ h v) :
    Ends (fun v' h' => Grows h h' ∧ FrozenAs h' v' fun m => unfold h₀.contents m v₀)
      (fun _ _ => ¬ Shallow h₀ frames kind v₀) ((frozen frames v).outcome h) := by
  have ends := deepFreeze_ends frames kept.sound kept.known
  unfold frozen
  rw [outcome_mapError]
  generalize outcome (deepFreeze frames v) h = x at ends ⊢
  obtain ⟨e | v', h'⟩ := x
  · rintro ⟨m, tree, few, stands, -⟩
    have none_ : unfold h.contents m v = none := ends m few
    rw [← kept.stands m, none_] at stands
    cases stands
  · obtain ⟨grows, frozen⟩ := ends
    exact ⟨grows, frozen.sound, frozen.within, fun m => (frozen.stands m).trans (kept.stands m)⟩

/-- A generation is made where its fields are accepted, and of what it was given. -/
theorem create_ends (frames : Nat) (sound : h.Sound) (known : ∀ v ∈ given.containers, v.Within h.live) :
    Ends (fun g h' => Grows h h' ∧ g.MadeOf h' given h) (fun _ _ => ¬ given.Accepted h frames)
      ((Generation.create frames given).outcome h) := by
  have start : ∀ v ∈ given.containers, KeptAs h v h v := fun v member => ⟨sound, known v member, fun _ => rfl⟩
  have keptIds := start given.mutationIds (by simp [Generation.containers])
  have keptTrain := start given.trainMetrics (by simp [Generation.containers])
  have keptValidation := start given.validationMetrics (by simp [Generation.containers])
  unfold Generation.create
  refine ends_bind_of (mutationIdsField_ends frames keptIds) (fun _ _ bad ok => bad ok.mutationIds) ?_
  rintro mutationIds h₁ ⟨grows₁, kept₁⟩
  refine ends_bind_of (metricsField_ends _ frames (keptTrain.grows grows₁)) (fun _ _ bad ok => bad ok.trainMetrics) ?_
  rintro trainMetrics h₂ ⟨grows₂, kept₂⟩
  refine ends_bind_of (metricsField_ends _ frames ((keptValidation.grows grows₁).grows grows₂))
    (fun _ _ bad ok => bad ok.validationMetrics) ?_
  rintro validationMetrics h₃ ⟨grows₃, kept₃⟩
  refine ends_bind_of (frozen_ends IsStrings frames ((kept₁.grows grows₂).grows grows₃))
    (fun _ _ bad ok => bad ok.mutationIds) ?_
  rintro mutationIds h₄ ⟨grows₄, frozen₄⟩
  refine ends_bind_of (frozen_ends IsDict frames ((kept₂.grows grows₃).grows grows₄))
    (fun _ _ bad ok => bad ok.trainMetrics) ?_
  rintro trainMetrics h₅ ⟨grows₅, frozen₅⟩
  refine ends_bind_of (frozen_ends IsDict frames ((kept₃.grows grows₄).grows grows₅))
    (fun _ _ bad ok => bad ok.validationMetrics) ?_
  rintro validationMetrics h₆ ⟨grows₆, frozen₆⟩
  have fields : List.Forall₂ (fun v v₀ => FrozenAs h₆ v fun m => unfold h.contents m v₀)
      [mutationIds, trainMetrics, validationMetrics] given.containers :=
    .cons ((frozen₄.grows grows₅).grows grows₆) (.cons (frozen₅.grows grows₆) (.cons frozen₆ .nil))
  have copies : Grows h h₃ := grows₁.trans _ _ _ (grows₂.trans _ _ _ grows₃)
  have grows : Grows h h₆ := copies.trans _ _ _ (grows₄.trans _ _ _ (grows₅.trans _ _ _ grows₆))
  exact ⟨grows, rfl, fields⟩

/-! ### What is done with it afterwards -/

/-- The frozen classes replace every method that changes a container, but `__init__`. -/
theorem replaced_iff (contents : Container Nat) :
    ∀ mutator ∈ contents.mutators, mutator ∈ contents.replaced ↔ mutator ≠ .init := by
  cases contents <;> simp only [Container.mutators, Container.replaced] <;> decide

theorem Generation.MadeOf.settled {g : Generation} (made : g.MadeOf h given h₀) (settled : Settled h h')
    (sound : h'.Sound) : g.MadeOf h' given h₀ :=
    ⟨made.plain, made.fields.imp fun _ _ frozen => frozen.settled settled sound⟩

/-- A container that is not frozen may be left with other contents. -/
theorem settled_set {id : Nat} {left : Container Nat} (sound : h.Sound) (soft : (h.cells id).frozen = false)
    (known : ∀ item ∈ left.values, item.Within h.live) :
    PyHeap.Sound (h.set id ⟨(h.cells id).frozen, left⟩) ∧ Settled h (h.set id ⟨(h.cells id).frozen, left⟩) := by
  have outside : id ∉ h.frozenCells := fun inside => by
    rw [inside.2] at soft
    cases soft
  have agrees : Heap.Agrees h.frozenCells h (h.set id ⟨(h.cells id).frozen, left⟩) := Heap.agrees_set outside
  have frozen : PyHeap.frozenCells (h.set id ⟨(h.cells id).frozen, left⟩) = h.frozenCells := by
    ext id'
    show id' < h.size ∧ ((h.set id _).cells id').frozen = true ↔ _
    by_cases same : id' = id
    · subst same
      rw [Heap.cells_set_self]
      exact Iff.rfl
    · rw [Heap.cells_set_of_ne same]
      exact Iff.rfl
  refine ⟨⟨sound.live.set fun child inside => known _ inside child rfl, ?_⟩, frozen.ge, agrees⟩
  rw [frozen]
  exact sound.frozen.agrees agrees

namespace PyState

theorem within_of_knows (knows : PyState.knows h v = true) : v.Within h.live := by
  rintro id rfl
  exact (decide_eq_true_iff (p := id < h.size)).mp knows

theorem within_of_all {values : List (PyObject Nat)} (all : values.all (PyState.knows h) = true) :
    ∀ v ∈ values, v.Within h.live := fun v member => within_of_knows (List.all_eq_true.mp all v member)

/-- What an operation leaves: what is frozen stays as it is, and so do the generations. -/
structure Later (s s' : PyState) : Prop where
  heap : Settled s.heap s'.heap
  generations : s.generations <+: s'.generations

theorem Later.refl (s : PyState) : Later s s := ⟨.refl _, List.prefix_refl _⟩

theorem Later.trans {a b c : PyState} (first : Later a b) (later : Later b c) : Later a c :=
  ⟨first.heap.trans later.heap, first.generations.trans later.generations⟩

/-- A method that is not refused may change what is not frozen. -/
theorem mutate_later {s : PyState} (sound : s.heap.Sound) {id : Nat} {mutator : Mutator} {left : Container Nat}
    {refused : Bool} (soft : mutator ∈ (s.heap.contents id).mutators → refused = false → (s.heap.cells id).frozen = false) :
    (mutate s id mutator left refused).2.heap.Sound ∧ Later s (mutate s id mutator left refused).2 := by
  have same : s.heap.Sound ∧ Later s s := ⟨sound, .refl s⟩
  simp only [mutate]
  split
  · rename_i fit
    split
    · exact same
    · rename_i has
      split
      · exact same
      · rename_i allowed
        have soft := soft (not_not.mp has) (Bool.eq_false_iff.mpr allowed)
        obtain ⟨sound, settled⟩ := settled_set sound soft (within_of_all fit.2.1)
        exact ⟨sound, settled, List.prefix_refl _⟩
  · exact same

theorem step_later (s : PyState) (op : HeapOp) (regular : Regular s op) (sound : s.heap.Sound) :
    (step s op).2.heap.Sound ∧ Later s (step s op).2 := by
  have same : s.heap.Sound ∧ Later s s := ⟨sound, .refl s⟩
  cases op with
  | build contents =>
    simp only [step]
    split
    · rename_i known
      have grows : Grows s.heap (s.heap.push ⟨false, contents⟩) :=
        grows_push fun id inside => within_of_all known _ inside id rfl
      exact ⟨grows.sound sound, grows.settled, List.prefix_refl _⟩
    · exact same
  | call id mutator left =>
    refine mutate_later sound fun has allowed => Bool.eq_false_iff.mpr fun icy => ?_
    have replaced := (replaced_iff _ mutator has).mpr (regular icy)
    have refused : ((s.heap.cells id).frozen && decide (mutator ∈ (s.heap.contents id).replaced)) = true := by
      rw [icy, decide_eq_true replaced, Bool.and_self]
    exact Bool.false_ne_true (allowed.symm.trans refused)
  | callBase id mutator left => exact mutate_later sound fun _ _ => regular
  | assign index field value => exact same
  | create frames given =>
    simp only [step]
    split
    · rename_i known
      have ends := create_ends frames sound (within_of_all known)
      split
      · rename_i g heap made
        rw [made] at ends
        exact ⟨ends.1.sound sound, ends.1.settled, List.prefix_append _ _⟩
      · exact same
    · exact same

/-- A program without objects. -/
def start : PyState := ⟨⟨fun _ => ⟨false, .list []⟩, 0⟩, []⟩

theorem start_sound : start.heap.Sound :=
  ⟨fun _ none_ => absurd none_ (Nat.not_lt_zero _), fun _ none_ => absurd none_.1 (Nat.not_lt_zero _)⟩

theorem final_later {s : PyState} (sound : s.heap.Sound) {ops : List HeapOp} (regular : Regularly s ops) :
    (Machine.final step s ops).heap.Sound ∧ Later s (Machine.final step s ops) := by
  have kept : ∀ s' op, Regular s' op → s'.heap.Sound ∧ Later s s' →
      (step s' op).2.heap.Sound ∧ Later s (step s' op).2 := by
    rintro s' op regular ⟨sound, later⟩
    obtain ⟨sound', next⟩ := step_later s' op regular sound
    exact ⟨sound', later.trans next⟩
  exact Machine.final_inv_of kept ⟨sound, .refl s⟩ regular

/-- The container can be reached from the value. -/
def Reaches (h : PyHeap) (v : PyObject Nat) (id : Nat) : Prop :=
  ∃ root, v = .container root ∧ ReflTransGen (h.edge PyCell.refs) root id

/-- What a method does to a frozen container that has it. -/
theorem mutate_frozen {s : PyState} {id : Nat} (frozen : id ∈ s.heap.frozenCells) {mutator : Mutator}
    {left : Container Nat} (has : mutator ∈ (s.heap.contents id).mutators)
    (known : left.values.all (knows s.heap) = true) (fit : fits (s.heap.contents id) left = true) (refused : Bool) :
    mutate s id mutator left refused = if refused then (.error .immutable, s)
      else (.ok (), { s with heap := s.heap.set id ⟨true, left⟩ }) := by
  obtain ⟨live, icy⟩ := frozen
  simp only [mutate]
  rw [if_pos ⟨live, known, fit⟩, icy]
  exact if_neg (not_not.mpr has)

/-- Of its own methods, only `__init__` changes a frozen container; those of `list` and `dict` do too. -/
theorem call_frozen {s : PyState} {id : Nat} (frozen : id ∈ s.heap.frozenCells) {mutator : Mutator}
    {left : Container Nat} (has : mutator ∈ (s.heap.contents id).mutators)
    (known : left.values.all (knows s.heap) = true) (fit : fits (s.heap.contents id) left = true) :
    let changed : Except HeapError Unit × PyState := (.ok (), { s with heap := s.heap.set id ⟨true, left⟩ })
    step s (.call id mutator left) = (if mutator = .init then changed else (.error .immutable, s)) ∧
      step s (.callBase id mutator left) = changed := by
  intro changed
  refine ⟨?_, mutate_frozen frozen has known fit false⟩
  show mutate s id mutator left ((s.heap.cells id).frozen && decide (mutator ∈ (s.heap.contents id).replaced)) = _
  rw [mutate_frozen frozen has known fit, frozen.2, Bool.true_and]
  by_cases again : mutator = .init
  · rw [if_pos again, decide_eq_false fun replaced => (replaced_iff _ _ has).mp replaced again]
    rfl
  · rw [if_neg again, decide_eq_true ((replaced_iff _ _ has).mpr again)]
    rfl

theorem reached_frozen {g : Generation} (made : g.MadeOf h given h₀) {v : PyObject Nat} (member : v ∈ g.containers)
    {id : Nat} (reaches : Reaches h v id) : id ∈ h.frozenCells := by
  obtain ⟨root, rfl, path⟩ := reaches
  obtain ⟨v₀, -, frozen⟩ := exists_of_forall₂ made.fields member
  exact frozen.sound.frozen.reach (frozen.within root rfl) path

theorem step_create_made {s : PyState} (sound : s.heap.Sound) {frames : Nat} {given : Generation}
    (ok : (step s (.create frames given)).1 = .ok ()) :
    ∃ g, (step s (.create frames given)).2.generations = s.generations ++ [g] ∧
      g.MadeOf (step s (.create frames given)).2.heap given s.heap := by
  simp only [step] at ok ⊢
  split at ok
  · rename_i known
    have ends := create_ends frames sound (within_of_all known)
    rw [if_pos known]
    split at ok
    · rename_i g heap made
      rw [made] at ends
      exact ⟨g, rfl, ends.2⟩
    · cases ok
  · cases ok

theorem step_create_accepted {s : PyState} (sound : s.heap.Sound) {frames : Nat} {given : Generation}
    (known : given.containers.all (knows s.heap) = true) (accepted : given.Accepted s.heap frames) :
    (step s (.create frames given)).1 = .ok () := by
  have ends := create_ends frames sound (within_of_all known)
  simp only [step]
  rw [if_pos known]
  split
  · rfl
  · rename_i e heap failed
    rw [failed] at ends
    exact absurd accepted ends

/-- A generation of fields that are accepted is made, and for good: whatever is done afterwards without bypassing the
methods of frozen containers, it stands for what its fields stood for when it was made, and no method of a container
that can be reached from it changes anything, but `__init__`. -/
theorem generation_immutable (before after : List HeapOp) (frames : Nat) (given : Generation) :
    let s := Machine.final step start before
    let created := step s (.create frames given)
    let s' := Machine.final step created.2 after
    Regularly start before → Regularly created.2 after →
    (given.containers.all (knows s.heap) = true → given.Accepted s.heap frames → created.1 = .ok ()) ∧
      (created.1 = .ok () → ∃ g, s.generations ++ [g] <+: s'.generations ∧ g.MadeOf s'.heap given s.heap ∧
        ∀ v ∈ g.containers, ∀ id, Reaches s'.heap v id → ∀ mutator ∈ (s'.heap.contents id).mutators, ∀ left,
          left.values.all (knows s'.heap) = true → fits (s'.heap.contents id) left = true →
            let changed : Except HeapError Unit × PyState := (.ok (), { s' with heap := s'.heap.set id ⟨true, left⟩ })
            step s' (.call id mutator left) = (if mutator = .init then changed else (.error .immutable, s')) ∧
              step s' (.callBase id mutator left) = changed) := by
  intro s created s' regular regular'
  have sound : s.heap.Sound := (final_later start_sound regular).1
  have sound' : created.2.heap.Sound := (step_later s (.create frames given) trivial sound).1
  refine ⟨step_create_accepted sound, fun ok => ?_⟩
  obtain ⟨g, added, made⟩ := step_create_made sound ok
  obtain ⟨sound'', later⟩ := final_later sound' regular'
  have made' : g.MadeOf s'.heap given s.heap := made.settled later.heap sound''
  refine ⟨g, added ▸ later.generations, made', fun v member id reaches mutator has left known fit => ?_⟩
  exact call_frozen (reached_frozen made' member reaches) has known fit

/-- The list of ids that a generation was made of is cleared; its own list stands for what it stood for, and cannot be
cleared. -/
def lineage : List HeapOp :=
  [.build (.list [.str (py "m1")]), .build (.dict (.ofEntries [(.str (py "losses"), .container 0)])),
    .build (.dict .empty)]

theorem generation_immutable_lineage :
    let given : Generation := ⟨1, py "p1", none, .container 0, .container 1, .container 2, py "now"⟩
    let created := (step (Machine.final step start lineage) (.create 8 given)).2
    let cleared := step created (.call 0 .clear (.list []))
    cleared.1 = .ok () ∧ ∃ g ∈ cleared.2.generations,
      unfold cleared.2.heap.contents 2 g.mutationIds = some (.list [.str (py "m1")]) ∧
        ∃ id, g.mutationIds = .container id ∧
          step cleared.2 (.call id .clear (.list [])) = (.error .immutable, cleared.2) := by
  intro given created cleared
  have made : (step (Machine.final step start lineage) (.create 8 given)).1 = .ok () := by decide +kernel
  have changed : cleared.1 = .ok () := by decide +kernel
  have regular : Regularly start lineage := by unfold Regularly; decide +kernel
  have regular' : Regularly created [.call 0 .clear (.list [])] := by unfold Regularly; decide +kernel
  obtain ⟨g, added, made, refused⟩ :=
    (generation_immutable lineage [.call 0 .clear (.list [])] 8 given regular regular').2 made
  obtain ⟨ids, -⟩ := List.forall₂_cons.mp made.fields
  have stands : unfold cleared.2.heap.contents 2 g.mutationIds = some (.list [.str (py "m1")]) := (ids.stands 2).trans rfl
  obtain ⟨_, id, items, -, own, contents, -⟩ := list_of_unfold stands
  have contents : PyHeap.contents cleared.2.heap id = .list items := contents
  have has : Mutator.clear ∈ (PyHeap.contents cleared.2.heap id).mutators := by
    rw [contents]
    simp [Container.mutators]
  have fit : fits (PyHeap.contents cleared.2.heap id) (.list []) = true := by
    rw [contents]
    rfl
  have kept := refused g.mutationIds List.mem_cons_self id ⟨id, own, .refl⟩ .clear has (.list []) rfl fit
  exact ⟨changed, g, added.mem (List.mem_append_right _ List.mem_cons_self), stands, id, own, kept.1⟩

end PyState

end AgentGym.Core
