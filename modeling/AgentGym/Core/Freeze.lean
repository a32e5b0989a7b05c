import AgentGym.Lib.Heaps
import AgentGym.Storage.Persistable

/-!
# Deep freezing

`_deep_freeze` copies lists and dictionaries into containers that refuse every mutation. The
copy of a value stands for what the value stood for, and it refers to nothing that could
still be changed.
-/

namespace AgentGym.Core

open Steps Storage.Persistence

/-! ### Objects on a heap -/

/-- A list or dictionary, of the frozen class or of the built-in one. -/
structure PyCell where
  frozen : Bool
  contents : Container Nat

abbrev PyHeap := Heap PyCell

def PyHeap.contents (h : PyHeap) (id : Nat) : Container Nat := (h.cells id).contents

def PyCell.refs (cell : PyCell) : Set Nat := {id | .container id ∈ cell.contents.values}

def PyHeap.frozenCells (h : PyHeap) : Set Nat := {id | id < h.size ∧ (h.cells id).frozen = true}

/-- A value that is no container, or a container of the set. -/
def PyObject.Within (S : Set Nat) (v : PyObject Nat) : Prop := ∀ id, v = .container id → id ∈ S

/-- Everything referred to is there, and what is frozen refers to nothing else. -/
structure PyHeap.Sound (h : PyHeap) : Prop where
  live : Heap.Closed PyCell.refs h h.live
  frozen : Heap.Closed PyCell.refs h h.frozenCells

def allocate {ε : Type} (cell : PyCell) : Steps ε PyHeap (PyObject Nat) := ofFn fun h =>
  (.ok (.container h.size), h.push cell)

/-- `_deep_freeze`, on a stack of so many frames; the items of a list are frozen in a generator, which takes one. -/
def deepFreeze : Nat → PyObject Nat → Steps JsonSafeError PyHeap (PyObject Nat)
  | 0, _ => throw .recursionError
  | frames + 1, value =>
    match value with
    | .container id => do
      let h ← get
      match PyHeap.contents h id with
      | .dict items => do
        let entries ← items.entries.mapM fun e => do
          let item ← deepFreeze frames e.2
          pure (e.1, item)
        allocate ⟨true, .dict (.ofEntries entries)⟩
      | .list items =>
        match frames with
        | 0 => throw .recursionError
        | frames + 1 => do
          let items ← items.mapM (deepFreeze frames)
          allocate ⟨true, .list items⟩
    | value => pure value

/-! ### What is seen from a value -/

section Seen

variable {ι : Type} {heap heap' : ι → Container ι}

theorem mapM_congr_of_forall₂ {α β γ : Type} {f : α → Option γ} {g : β → Option γ} {xs : List α} {ys : List β}
    (same : List.Forall₂ (fun x y => g y = f x) xs ys) : ys.mapM g = xs.mapM f := by
  induction same with
  | nil => rfl
  | cons first _ ih => rw [List.mapM_cons, List.mapM_cons, first, ih]

theorem mapM_congr_of_mem {α γ : Type} {f g : α → Option γ} {xs : List α} (same : ∀ x ∈ xs, g x = f x) :
    xs.mapM g = xs.mapM f :=
  mapM_congr_of_forall₂ (List.forall₂_same.mpr same)

theorem forall₂_of_mapM_eq_some {α γ : Type} {f : α → Option γ} {xs : List α} {ys : List γ}
    (all : xs.mapM f = some ys) : List.Forall₂ (fun x y => f x = some y) xs ys := by
  induction xs generalizing ys with
  | nil =>
    obtain rfl := Option.some.inj all
    exact .nil
  | cons x xs ih =>
    rw [List.mapM_cons] at all
    obtain ⟨y, first, all⟩ := Option.bind_eq_some_iff.mp all
    obtain ⟨zs, rest, all⟩ := Option.bind_eq_some_iff.mp all
    obtain rfl := Option.some.inj all
    exact .cons first (ih rest)

theorem isSome_of_mapM {α γ : Type} {f : α → Option γ} {xs : List α} (all : (xs.mapM f).isSome = true) :
    ∀ x ∈ xs, (f x).isSome = true := by
  obtain ⟨ys, all⟩ := Option.isSome_iff_exists.mp all
  intro x member
  obtain ⟨y, -, found⟩ := exists_of_forall₂ (forall₂_of_mapM_eq_some all) member
  exact Option.isSome_iff_exists.mpr ⟨y, found⟩

theorem unfoldEntry_congr {unfold unfold' : PyObject ι → Option PyValue} (key : DictKey) {item item' : PyObject ι}
    (same : unfold' item' = unfold item) : unfoldEntry unfold' (key, item') = unfoldEntry unfold (key, item) := by
  cases key with
  | str key => exact congrArg (Option.map _) same
  | foreign id repr => rfl

theorem isSome_of_unfoldEntry {unfold : PyObject ι → Option PyValue} {e : DictKey × PyObject ι}
    (some_ : (unfoldEntry unfold e).isSome = true) : e.1.isStr = true ∧ (unfold e.2).isSome = true := by
  obtain ⟨key | key, item⟩ := e
  · exact ⟨rfl, Option.isSome_map.symm.trans some_⟩
  · cases some_

theorem snd_mem_values {items : Dict DictKey (PyObject ι)} {e : DictKey × PyObject ι} (member : e ∈ items.entries) :
    e.2 ∈ (Container.dict items).values := List.mem_map.mpr ⟨e, member, rfl⟩

/-- A container stands for no more than its contents do. -/
theorem unfold_container {n n' : Nat} {id id' : ι} (same : heap' id' = heap id)
    (items : ∀ item ∈ (heap id).values, unfold heap' n' item = unfold heap n item) :
    unfold heap' (n' + 1) (.container id') = unfold heap (n + 1) (.container id) := by
  cases contents : heap id with
  | dict entries =>
    rw [contents] at same items
    rw [unfold_dict same, unfold_dict contents,
      mapM_congr_of_mem fun e member => unfoldEntry_congr e.1 (items e.2 (snd_mem_values member))]
  | list entries =>
    rw [contents] at same items
    have each : ∀ item ∈ entries, unfold heap' n' item = unfold heap n item := items
    rw [unfold_list same, unfold_list contents, mapM_congr_of_mem each]

/-- What a container stands for, all of its contents must stand for something. -/
theorem isSome_of_unfold {n : Nat} {id : ι} (some_ : (unfold heap (n + 1) (.container id)).isSome = true) :
    (∀ items, heap id = .dict items → ∀ e ∈ items.entries, e.1.isStr = true) ∧
      ∀ item ∈ (heap id).values, (unfold heap n item).isSome = true := by
  cases contents : heap id with
  | dict items =>
    rw [unfold_dict contents, Option.isSome_map] at some_
    have each := fun e member => isSome_of_unfoldEntry (isSome_of_mapM some_ e member)
    refine ⟨fun _ same e member => ?_, fun item member => ?_⟩
    · obtain rfl := Container.dict.inj same
      exact (each e member).1
    · obtain ⟨e, inside, rfl⟩ := List.mem_map.mp member
      exact (each e inside).2
  | list items =>
    rw [unfold_list contents, Option.isSome_map] at some_
    exact ⟨nofun, isSome_of_mapM some_⟩

theorem unfold_leaf {n : Nat} {v : PyObject ι} (leaf : v.isContainer = false) : unfold heap' n v = unfold heap n v := by
  cases n with
  | zero => rfl
  | succ n =>
    cases v with
    | container id => cases leaf
    | float x => cases x <;> rfl
    | _ => rfl

end Seen

variable {h h' h'' : PyHeap} {S : Set Nat} {v : PyObject Nat}

theorem within_of_mem (closed : Heap.Closed PyCell.refs h S) {id : Nat} (inside : id ∈ S) {item : PyObject Nat}
    (member : item ∈ (h.contents id).values) : item.Within S := by
  rintro child rfl
  exact closed id inside member

/-- Where a closed set of cells stays as it is, its values stand for what they stood for. -/
theorem unfold_agrees (closed : Heap.Closed PyCell.refs h S) (agrees : Heap.Agrees S h h') (within : v.Within S)
    (frames : Nat) : unfold h'.contents frames v = unfold h.contents frames v := by
  induction frames generalizing v with
  | zero => rfl
  | succ frames ih =>
    cases v with
    | container id =>
      have inside : id ∈ S := within id rfl
      exact unfold_container (congrArg PyCell.contents (agrees id inside)) fun item member =>
        ih (within_of_mem closed inside member)
    | _ => exact unfold_leaf rfl

/-! ### Growing heaps -/

/-- The heap has new cells, and otherwise is what it was. -/
structure Grows (h h' : PyHeap) : Prop where
  live : h.live ⊆ h'.live
  agrees : Heap.Agrees h.live h h'
  sound : h.Sound → h'.Sound

theorem frozen_subset_live (h : PyHeap) : h.frozenCells ⊆ h.live := fun _ inside => inside.1

theorem Grows.refl (h : PyHeap) : Grows h h := ⟨subset_rfl, .refl _ h, id⟩

theorem Grows.trans (a b c : PyHeap) (first : Grows a b) (later : Grows b c) : Grows a c :=
  ⟨first.live.trans later.live, first.agrees.trans (later.agrees.mono first.live), later.sound ∘ first.sound⟩

theorem Grows.frozen (grows : Grows h h') : h.frozenCells ⊆ h'.frozenCells := by
  rintro id ⟨there, frozen⟩
  exact ⟨grows.live there, by rwa [grows.agrees id there]⟩

/-- What was frozen still is, and is the same. -/
structure Settled (h h' : PyHeap) : Prop where
  frozen : h.frozenCells ⊆ h'.frozenCells
  agrees : Heap.Agrees h.frozenCells h h'

theorem Settled.refl (h : PyHeap) : Settled h h := ⟨subset_rfl, .refl _ h⟩

theorem Settled.trans (first : Settled h h') (later : Settled h' h'') : Settled h h'' :=
  ⟨first.frozen.trans later.frozen, first.agrees.trans (later.agrees.mono first.frozen)⟩

theorem Grows.settled (grows : Grows h h') : Settled h h' := ⟨grows.frozen, grows.agrees.mono (frozen_subset_live h)⟩

theorem frozenCells_push (h : PyHeap) (cell : PyCell) :
    Heap.Agrees h.live h (h.push cell) ∧ PyHeap.frozenCells (h.push cell) =
      if cell.frozen then insert h.size h.frozenCells else h.frozenCells := by
  refine ⟨Heap.agrees_push, ?_⟩
  ext id
  show id < h.size + 1 ∧ ((h.push cell).cells id).frozen = true ↔ _
  by_cases last : id = h.size
  · subst last
    have fresh : h.size ∉ h.frozenCells := fun inside => absurd inside.1 (Nat.lt_irrefl _)
    rw [Heap.cells_push_self]
    cases cell.frozen <;> simp [fresh]
  · rw [show ((h.push cell).cells id) = h.cells id from Function.update_of_ne last ..]
    have below : id < h.size + 1 ↔ id < h.size :=
      ⟨fun lt => lt_of_le_of_ne (Nat.le_of_lt_succ lt) last, Nat.lt_succ_of_lt⟩
    rw [below]
    cases cell.frozen <;> simp [PyHeap.frozenCells, last]

/-- A new cell that is frozen may only refer to frozen cells. -/
theorem grows_push {cell : PyCell} (within : cell.refs ⊆ if cell.frozen then h.frozenCells else h.live) :
    Grows h (h.push cell) := by
  obtain ⟨agrees, frozen⟩ := frozenCells_push h cell
  have known : cell.refs ⊆ h.live := by
    refine within.trans ?_
    split
    · exact frozen_subset_live h
    · exact subset_rfl
  refine ⟨?_, agrees, fun sound => ⟨?_, ?_⟩⟩
  · rw [Heap.live_push]
    exact Set.subset_insert _ _
  · rw [Heap.live_push]
    exact sound.live.push subset_rfl known
  · rw [frozen]
    split
    · rename_i icy
      rw [if_pos icy] at within
      exact sound.frozen.push (frozen_subset_live h) within
    · exact sound.frozen.agrees (agrees.mono (frozen_subset_live h))

/-! ### The frozen copy -/

/-- In the heap a value is frozen, and stands for what it should. -/
structure FrozenAs (h : PyHeap) (v : PyObject Nat) (stands : Nat → Option PyValue) : Prop where
  sound : h.Sound
  within : v.Within h.frozenCells
  stands : ∀ frames, unfold h.contents frames v = stands frames

theorem FrozenAs.settled {stands : Nat → Option PyValue} (frozen : FrozenAs h v stands) (settled : Settled h h')
    (sound : h'.Sound) : FrozenAs h' v stands where
  sound := sound
  within id same := settled.frozen (frozen.within id same)
  stands frames := (unfold_agrees frozen.sound.frozen settled.agrees frozen.within frames).trans (frozen.stands frames)

theorem FrozenAs.grows {stands : Nat → Option PyValue} (frozen : FrozenAs h v stands) (grows : Grows h h') :
    FrozenAs h' v stands := frozen.settled grows.settled (grows.sound frozen.sound)

theorem keys_of_forall₂ {κ α β : Type} {R : κ × α → κ × β → Prop} {xs : List (κ × α)} {ys : List (κ × β)}
    (same : List.Forall₂ (fun x y => y.1 = x.1 ∧ R x y) xs ys) : ys.map Prod.fst = xs.map Prod.fst := by
  induction same with
  | nil => rfl
  | cons first _ ih => rw [List.map_cons, List.map_cons, first.1, ih]

/-- A new frozen container of frozen values. -/
theorem frozen_push {contents : Container Nat} {stands : Nat → Option PyValue} (sound : h.Sound)
    (refs : ∀ item ∈ contents.values, item.Within h.frozenCells) (nothing : stands 0 = none)
    (same : ∀ (h' : PyHeap) (frames : Nat), Grows h h' → h'.contents h.size = contents →
      unfold h'.contents (frames + 1) (.container h.size) = stands (frames + 1)) :
    Grows h (h.push ⟨true, contents⟩) ∧ FrozenAs (h.push ⟨true, contents⟩) (.container h.size) stands := by
  have grows : Grows h (h.push ⟨true, contents⟩) := grows_push fun id inside => refs _ inside id rfl
  refine ⟨grows, grows.sound sound, ?_, ?_⟩
  · intro id same
    obtain rfl := PyObject.container.inj same
    rw [(frozenCells_push h _).2]
    exact Set.mem_insert _ _
  · intro frames
    cases frames with
    | zero => exact nothing.symm
    | succ frames => exact same _ frames grows (congrArg PyCell.contents Heap.cells_push_self)

/-- A value that has no meaning on this many frames, with two for each container. -/
def TooDeep (h : PyHeap) (frames : Nat) (v : PyObject Nat) : Prop :=
  ∀ m, 2 * m ≤ frames → unfold h.contents m v = none

theorem tooDeep_container {id : Nat} {frames : Nat} {item : PyObject Nat} (member : item ∈ (h.contents id).values)
    (deep : TooDeep h frames item) : TooDeep h (frames + 2) (.container id) := by
  intro m few
  cases m with
  | zero => rfl
  | succ m =>
    refine Option.not_isSome_iff_eq_none.mp fun some_ => ?_
    have inner := (isSome_of_unfold some_).2 item member
    rw [deep m (by omega)] at inner
    cases inner

theorem TooDeep.mono {frames frames' : Nat} (deep : TooDeep h frames v) (le : frames' ≤ frames) : TooDeep h frames' v :=
  fun m few => deep m (few.trans le)

/-- Freezing copies a value into cells that are frozen; it raises only on values that are too deep. -/
theorem deepFreeze_ends (frames : Nat) (sound : h.Sound) (known : v.Within h.live) :
    Ends (fun v' h' => Grows h h' ∧ FrozenAs h' v' fun m => unfold h.contents m v) (fun _ _ => TooDeep h frames v)
      ((deepFreeze frames v).outcome h) := by
  induction frames using Nat.strong_induction_on generalizing h v with
  | h frames ih =>
    have shallow : ∀ {frames}, frames < 2 → TooDeep h frames v := by
      intro frames few m fits
      obtain rfl : m = 0 := by omega
      rfl
    cases frames with
    | zero => exact shallow (by omega)
    | succ frames =>
      cases v with
      | container id =>
        -- a later heap sees in an item what the first one saw
        have items : ∀ item ∈ (h.contents id).values, ∀ n ≤ frames, n + 2 ≥ frames + 1 → ∀ s, Grows h s →
            Ends (fun item' s' => Grows s s' ∧ FrozenAs s' item' fun m => unfold h.contents m item)
              (fun _ _ => TooDeep h (frames + 1) (.container id)) ((deepFreeze n item).outcome s) := by
          intro item member n below enough s grows
          have inside : item.Within h.live := within_of_mem sound.live (known id rfl) member
          have same : ∀ m, unfold s.contents m item = unfold h.contents m item :=
            unfold_agrees sound.live grows.agrees inside
          refine ends_mono (ih n (by omega) (grows.sound sound) fun child same => grows.live (inside child same)) ?_ ?_
          · rintro item' s' ⟨grows', frozen⟩
            exact ⟨grows', frozen.sound, frozen.within, fun m => (frozen.stands m).trans (same m)⟩
          · intro _ _ deep
            have deep : TooDeep h n item := fun m few => (same m).symm.trans (deep m few)
            exact (tooDeep_container member deep).mono enough
        unfold deepFreeze
        rw [outcome_bind, outcome_get]
        dsimp only
        cases contents : PyHeap.contents h id with
        | dict entries =>
          rw [contents] at items
          have frozenEntry : ∀ s s' (e e' : DictKey × PyObject Nat), Grows s s' →
              e'.1 = e.1 ∧ FrozenAs s e'.2 (fun m => unfold h.contents m e.2) →
              e'.1 = e.1 ∧ FrozenAs s' e'.2 fun m => unfold h.contents m e.2 :=
            fun s s' e e' grows frozen => ⟨frozen.1, frozen.2.grows grows⟩
          refine ends_bind (ends_mapM Grows.refl Grows.trans frozenEntry ?_) ?_
          · intro e member s grows
            refine ends_bind (items e.2 (snd_mem_values member) frames (by omega) (by omega) s grows) ?_
            rintro item s' ⟨grows', frozen⟩
            exact ⟨grows', rfl, frozen⟩
          · rintro frozen s ⟨grows, same⟩
            obtain ⟨copy, rfl⟩ : ∃ d : Dict DictKey (PyObject Nat), d.entries = frozen :=
              ⟨⟨frozen, keys_of_forall₂ same ▸ entries.nodup⟩, rfl⟩
            rw [Dict.ofEntries_entries]
            have made : Grows s (s.push ⟨true, .dict copy⟩) ∧ FrozenAs (s.push ⟨true, .dict copy⟩) (.container s.size)
                fun m => unfold h.contents m (.container id) := by
              refine frozen_push (grows.sound sound) ?_ rfl fun s' m grows' stored => ?_
              · intro item member
                obtain ⟨e', inside, rfl⟩ := List.mem_map.mp member
                obtain ⟨e, -, -, frozen⟩ := exists_of_forall₂ same.flip inside
                exact frozen.within
              · rw [unfold_dict stored, unfold_dict contents, mapM_congr_of_forall₂ (same.imp ?_)]
                rintro ⟨key, item⟩ ⟨key', item'⟩ ⟨rfl, frozen⟩
                exact unfoldEntry_congr key' ((frozen.grows grows').stands m)
            exact ⟨grows.trans _ _ _ made.1, made.2⟩
        | list values =>
          rw [contents] at items
          cases frames with
          | zero => exact shallow (by omega)
          | succ frames =>
            have frozenItem : ∀ s s' (item item' : PyObject Nat), Grows s s' →
                FrozenAs s item' (fun m => unfold h.contents m item) →
                FrozenAs s' item' fun m => unfold h.contents m item :=
              fun s s' item item' grows frozen => frozen.grows grows
            refine ends_bind (ends_mapM Grows.refl Grows.trans frozenItem
              fun item member s grows => items item member frames (by omega) (by omega) s grows) ?_
            rintro frozen s ⟨grows, same⟩
            have made : Grows s (s.push ⟨true, .list frozen⟩) ∧ FrozenAs (s.push ⟨true, .list frozen⟩) (.container s.size)
                fun m => unfold h.contents m (.container id) := by
              refine frozen_push (grows.sound sound) ?_ rfl fun s' m grows' stored => ?_
              · intro item member
                obtain ⟨_, -, frozen⟩ := exists_of_forall₂ same.flip member
                exact frozen.within
              · rw [unfold_list stored, unfold_list contents, mapM_congr_of_forall₂ (same.imp ?_)]
                exact fun item item' frozen => (frozen.grows grows').stands m
            exact ⟨grows.trans _ _ _ made.1, made.2⟩
      | _ => exact ⟨.refl h, sound, nofun, fun _ => rfl⟩

/-! ### What unfolds is accepted -/

section Accepted

variable {ι : Type} [DecidableEq ι] {heap : ι → Container ι}

omit [DecidableEq ι] in
theorem unfold_succ {n : Nat} {v : PyObject ι} {tree : PyValue} (stands : unfold heap n v = some tree) :
    unfold heap (n + 1) v = some tree := by
  induction n generalizing v tree with
  | zero => cases stands
  | succ n ih =>
    rw [← stands]
    cases v with
    | container id =>
      refine unfold_container rfl fun item member => ?_
      obtain ⟨t, is⟩ := Option.isSome_iff_exists.mp ((isSome_of_unfold (by rw [stands]; rfl)).2 item member)
      rw [is, ih is]
    | float x => cases x <;> rfl
    | _ => rfl

omit [DecidableEq ι] in
theorem unfold_mono {n m : Nat} (le : n ≤ m) {v : PyObject ι} {tree : PyValue} (stands : unfold heap n v = some tree) :
    unfold heap m v = some tree := by
  induction le with
  | refl => exact stands
  | step _ ih => exact unfold_succ ih

variable {validate : PyObject ι → PyString → Steps JsonSafeError (Finset ι) Unit} {active : Finset ι}

omit [DecidableEq ι] in
theorem validateItems_accepts {items : List (PyObject ι)}
    (each : ∀ item ∈ items, ∀ path, outcome (validate item path) active = (.ok (), active)) (path : PyString)
    (index : Nat) : outcome (validateItems validate path index items) active = (.ok (), active) := by
  induction items generalizing index with
  | nil => rfl
  | cons item items ih =>
    obtain ⟨first, later⟩ := List.forall_mem_cons.mp each
    exact (outcome_bind_ok (first _)).trans (ih later (index + 1))

omit [DecidableEq ι] in
theorem validateEntries_accepts {entries : List (DictKey × PyObject ι)} (keys : ∀ e ∈ entries, e.1.isStr = true)
    (each : ∀ e ∈ entries, ∀ path, outcome (validate e.2 path) active = (.ok (), active)) (path : PyString) :
    outcome (validateEntries validate path entries) active = (.ok (), active) := by
  induction entries with
  | nil => rfl
  | cons e entries ih =>
    obtain ⟨first, later⟩ := List.forall_mem_cons.mp each
    obtain ⟨str, others⟩ := List.forall_mem_cons.mp keys
    obtain ⟨key | key, item⟩ := e
    · exact (outcome_bind_ok (first _)).trans (ih others later)
    · cases str

/-- A value that stands for a tree is accepted: no container on the way to it can be inside of it, as it would have to
be unfolded further than it is. -/
theorem validate_unfolded {m frames : Nat} (enough : m ≤ frames) {v : PyObject ι} (path : PyString) {active : Finset ι}
    (outside : ∀ id ∈ active, unfold heap m (.container id) = none) (some_ : (unfold heap m v).isSome = true) :
    outcome (validateJsonValue heap frames v path) active = (.ok (), active) := by
  induction m using Nat.strong_induction_on generalizing v frames path active with
  | h m ih =>
    obtain ⟨frames, rfl⟩ : ∃ n, frames = n + 1 := by
      cases m with
      | zero => cases some_
      | succ m => exact ⟨frames - 1, by omega⟩
    cases v with
    | container id =>
      have fresh : id ∉ active := by
        intro inside
        rw [outside id inside] at some_
        cases some_
      have exist : ∃ n, (unfold heap n (.container id)).isSome = true := ⟨m, some_⟩
      have least := Nat.find_min' exist some_
      have found := Nat.find_spec exist
      have below : ∀ {k}, k < Nat.find exist → unfold heap k (.container id) = none := fun lt =>
        Option.not_isSome_iff_eq_none.mp (Nat.find_min exist lt)
      generalize Nat.find exist = k at least found below
      obtain ⟨n, rfl⟩ : ∃ n, k = n + 1 := by
        cases k with
        | zero => cases found
        | succ n => exact ⟨n, rfl⟩
      have others : ∀ j ∈ insert id active, unfold heap n (.container j) = none := by
        intro j member
        rcases Finset.mem_insert.mp member with rfl | inside
        · exact below (Nat.lt_succ_self n)
        · cases stands : unfold heap n (.container j) with
          | none => rfl
          | some tree =>
            have more := unfold_mono (Nat.le_of_succ_le least) stands
            rw [outside j inside] at more
            cases more
      have each : ∀ item, (unfold heap n item).isSome = true → ∀ path,
          outcome (validateJsonValue heap frames item path) (insert id active) = (.ok (), insert id active) :=
        fun item isSome path => ih n least (by omega) path others isSome
      have body : outcome (validateContents (validateJsonValue heap frames) path (heap id)) (insert id active) =
          (.ok (), insert id active) := by
        obtain ⟨keys, inner⟩ := isSome_of_unfold found
        cases contents : heap id with
        | dict items =>
          rw [contents] at inner
          exact validateEntries_accepts (keys items contents)
            (fun e member => each e.2 (inner e.2 (snd_mem_values member))) path
        | list items =>
          rw [contents] at inner
          exact validateItems_accepts (fun item member => each item (inner item member)) path 0
      rw [validateJsonValue_container, container_outcome fresh path (congrArg Prod.snd body), body]
    | float x =>
      cases x with
      | finite q => rfl
      | negZero => rfl
      | inf negative => cases m <;> cases some_
      | nan => cases m <;> cases some_
    | foreign typeName => cases m <;> cases some_
    | _ => rfl

end Accepted

end AgentGym.Core
