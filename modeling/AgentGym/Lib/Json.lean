import Mathlib.Data.List.Forall2
import AgentGym.Lib.Dict

/-!
# JSON values

An object is read by its first entry for a key, so a repeated key is shadowed rather
than excluded. Equality of objects ignores the order of keys. It is stated once for any
equality of scalars and used at two: Python's `==`, where `True == 1 == 1.0`, and the
equality of canonical JSON text, which keeps them apart.
-/

namespace AgentGym

inductive Json where
  | null
  | bool (b : Bool)
  | int (i : Int)
  | float (q : Rat)
  /-- The float `-0.0`, equal to `0.0` but printed differently. -/
  | negZero
  | str (s : String)
  | arr (xs : List Json)
  | obj (kvs : List (String × Json))

namespace Json

def isLeaf : Json → Bool
  | .arr _ => false
  | .obj _ => false
  | _ => true

def isObj : Json → Bool
  | .obj _ => true
  | _ => false

/-- `value.get(key)` on a mapping; nothing else has keys. -/
def get? : Json → String → Option Json
  | .obj kvs, k => kvs.lookup k
  | _, _ => none

def ofDict (d : Dict String Json) : Json := .obj d.entries

@[simp] theorem get?_obj (kvs : List (String × Json)) (k : String) :
    (Json.obj kvs).get? k = kvs.lookup k := rfl

@[simp] theorem get?_ofDict (d : Dict String Json) (k : String) : (ofDict d).get? k = d.get? k := rfl

/-- Python truthiness. -/
def truthy : Json → Bool
  | .null => false
  | .bool b => b
  | .int i => i != 0
  | .float q => q != 0
  | .negZero => false
  | .str s => s != ""
  | .arr xs => !xs.isEmpty
  | .obj kvs => !kvs.isEmpty

/-- Structural induction, with the leaves as one case. -/
theorem ind {P : Json → Prop} (leaf : ∀ v : Json, v.isLeaf = true → P v)
    (arr : ∀ xs, (∀ x ∈ xs, P x) → P (.arr xs))
    (obj : ∀ kvs, (∀ e ∈ kvs, P e.2) → P (.obj kvs)) (v : Json) : P v := by
  refine @Json.rec P (fun xs => ∀ x ∈ xs, P x) (fun kvs => ∀ e ∈ kvs, P e.2) (fun e => P e.2)
    (leaf _ rfl) (fun b => leaf (.bool b) rfl) (fun i => leaf (.int i) rfl)
    (fun q => leaf (.float q) rfl) (leaf _ rfl) (fun s => leaf (.str s) rfl)
    arr obj ?_ ?_ ?_ ?_ ?_ v
  · simp
  · intro x xs hx hxs
    exact List.forall_mem_cons.mpr ⟨hx, hxs⟩
  · simp
  · intro e kvs he hkvs
    exact List.forall_mem_cons.mpr ⟨he, hkvs⟩
  · intro _ v hv
    exact hv

/-! ### Equality up to the order of keys -/

section EqBy

variable (scalar : Json → Json → Bool)

mutual

/-- Equality of values for a given equality of scalars. -/
def eqBy : Json → Json → Bool
  | .arr xs, .arr ys => eqByList xs ys
  | .obj kvs, .obj kvs' => kvs'.all (fun e => (kvs.lookup e.1).isSome) && eqByEntries [] kvs kvs'
  | .arr _, _ => false
  | .obj _, _ => false
  | a, b => scalar a b

def eqByList : List Json → List Json → Bool
  | [], [] => true
  | x :: xs, y :: ys => eqBy x y && eqByList xs ys
  | _, _ => false

/-- Every entry of the first object not yet `seen` has an equal one in the second. -/
def eqByEntries : List String → List (String × Json) → List (String × Json) → Bool
  | _, [], _ => true
  | seen, (k, v) :: rest, other =>
    (seen.contains k ||
      match other.lookup k with
      | some w => eqBy v w
      | none => false) && eqByEntries (k :: seen) rest other

end

/-- Equality of two lookups: both absent, or both present and equal. -/
def optEqBy : Option Json → Option Json → Bool
  | some v, some w => eqBy scalar v w
  | none, none => true
  | _, _ => false

/-- What an equality of scalars has to satisfy. -/
structure ScalarEquiv : Prop where
  leaves : ∀ {a b : Json}, scalar a b = true → a.isLeaf = true ∧ b.isLeaf = true
  refl : ∀ {a : Json}, a.isLeaf = true → scalar a a = true
  symm : ∀ {a b : Json}, scalar a b = true → scalar b a = true
  trans : ∀ {a b c : Json}, scalar a b = true → scalar b c = true → scalar a c = true

variable {scalar}

theorem eqBy_leaf {a : Json} (ha : a.isLeaf = true) (b : Json) : eqBy scalar a b = scalar a b := by
  cases a <;> first | rfl | simp [isLeaf] at ha

theorem eqByEntries_iff {seen : List String} {kvs other : List (String × Json)} :
    eqByEntries scalar seen kvs other = true ↔
      ∀ k v, k ∉ seen → kvs.lookup k = some v → ∃ w, other.lookup k = some w ∧ eqBy scalar v w = true := by
  induction kvs generalizing seen with
  | nil => simp [eqByEntries]
  | cons entry rest ih =>
    obtain ⟨k, v⟩ := entry
    rw [eqByEntries, Bool.and_eq_true, ih, Bool.or_eq_true]
    constructor
    · rintro ⟨head, tail⟩ k' v' fresh found
      rw [Entries.lookup_cons] at found
      split at found
      · rename_i same
        subst same
        obtain rfl := Option.some.inj found
        rcases head with old | matched
        · exact absurd (by simpa using old) fresh
        · split at matched
          · exact ⟨_, by assumption, matched⟩
          · simp at matched
      · rename_i different
        exact tail k' v' (by simp [fresh, Ne.symm different]) found
    · intro all
      constructor
      · by_cases old : k ∈ seen
        · simp [old]
        · obtain ⟨w, found, same⟩ := all k v old (by rw [Entries.lookup_cons, if_pos rfl])
          simp [found, same]
      · intro k' v' fresh found
        obtain ⟨different, fresh⟩ := not_or.mp (List.mem_cons.not.mp fresh)
        exact all k' v' fresh (by rw [Entries.lookup_cons, if_neg (Ne.symm different)]; exact found)

theorem eqBy_obj {kvs kvs' : List (String × Json)} :
    eqBy scalar (.obj kvs) (.obj kvs') = true ↔
      ∀ k, optEqBy scalar (kvs.lookup k) (kvs'.lookup k) = true := by
  rw [eqBy, Bool.and_eq_true, eqByEntries_iff, List.all_eq_true]
  constructor
  · rintro ⟨keys, values⟩ k
    cases left : kvs.lookup k with
    | some v =>
      obtain ⟨w, right, same⟩ := values k v List.not_mem_nil left
      simp [right, optEqBy, same]
    | none =>
      cases right : kvs'.lookup k with
      | none => rfl
      | some w =>
        have present := keys (k, w) (Entries.mem_of_lookup right)
        simp [left] at present
  · intro agree
    refine ⟨?_, ?_⟩
    · intro e member
      have present := Entries.lookup_isSome_iff_mem.mpr (List.mem_map_of_mem (f := Prod.fst) member)
      have same := agree e.1
      obtain ⟨w, right⟩ := Option.isSome_iff_exists.mp present
      cases left : kvs.lookup e.1 with
      | some v => rfl
      | none => simp [left, right, optEqBy] at same
    · intro k v _ left
      have same := agree k
      cases right : kvs'.lookup k with
      | some w => exact ⟨w, rfl, by simpa [left, right, optEqBy] using same⟩
      | none => simp [left, right, optEqBy] at same

theorem eqByList_iff {xs ys : List Json} :
    eqByList scalar xs ys = true ↔ List.Forall₂ (fun x y => eqBy scalar x y = true) xs ys := by
  induction xs generalizing ys with
  | nil => cases ys <;> simp [eqByList]
  | cons x xs ih => cases ys <;> simp [eqByList, ih]

theorem forall₂_imp_mem {α β : Type} {R S : α → β → Prop} {xs : List α} {ys : List β}
    (h : List.Forall₂ R xs ys) (imp : ∀ x ∈ xs, ∀ y, R x y → S x y) : List.Forall₂ S xs ys :=
  List.Forall₂.imp (fun _ y both => both.1 y both.2)
    ((List.forall₂_and_left (p := fun x => ∀ y, R x y → S x y) xs ys).mpr ⟨imp, h⟩)

theorem forall₂_compose {α β γ : Type} {R : α → β → Prop} {S : γ → β → Prop} {xs : List α} {ys : List β} {zs : List γ}
    (left : List.Forall₂ R xs ys) (right : List.Forall₂ S zs ys) :
    List.Forall₂ (fun x z => ∃ y, S z y ∧ R x y) xs zs := by
  induction left generalizing zs with
  | nil =>
    cases right
    exact .nil
  | cons head _ ih =>
    cases right with
    | cons head' tail' => exact .cons ⟨_, head', head⟩ (ih tail')

theorem eqBy_arr {xs ys : List Json} :
    eqBy scalar (.arr xs) (.arr ys) = true ↔ List.Forall₂ (fun x y => eqBy scalar x y = true) xs ys :=
  eqByList_iff

theorem optEqBy_refl {o : Option Json} (h : ∀ v, o = some v → eqBy scalar v v = true) :
    optEqBy scalar o o = true := by
  cases o with
  | none => rfl
  | some v => exact h v rfl

section Laws

variable (laws : ScalarEquiv scalar)
include laws

theorem eqBy_refl (v : Json) : eqBy scalar v v = true := by
  induction v using Json.ind with
  | leaf v hv => rw [eqBy_leaf hv]; exact laws.refl hv
  | arr xs ih => rw [eqBy_arr, List.forall₂_same]; exact ih
  | obj kvs ih =>
    rw [eqBy_obj]
    intro k
    exact optEqBy_refl fun v found => ih (k, v) (Entries.mem_of_lookup found)

theorem isLeaf_of_eqBy {a b : Json} (h : eqBy scalar a b = true) : a.isLeaf = b.isLeaf := by
  by_cases ha : a.isLeaf = true
  · rw [eqBy_leaf ha] at h
    rw [ha, (laws.leaves h).2]
  · cases a <;> simp [isLeaf] at ha <;> cases b <;> simp [eqBy] at h <;> rfl

theorem isObj_of_eqBy {a b : Json} (h : eqBy scalar a b = true) : a.isObj = b.isObj := by
  have shapes := isLeaf_of_eqBy laws h
  cases a <;> cases b <;> simp_all [isLeaf, isObj, eqBy]

theorem eqBy_symm {a b : Json} (h : eqBy scalar a b = true) : eqBy scalar b a = true := by
  induction a using Json.ind generalizing b with
  | leaf a ha =>
    have hb : b.isLeaf = true := (isLeaf_of_eqBy laws h).symm.trans ha
    rw [eqBy_leaf ha] at h
    rw [eqBy_leaf hb]
    exact laws.symm h
  | arr xs ih =>
    cases b with
    | arr ys =>
      rw [eqBy_arr] at h ⊢
      exact (forall₂_imp_mem h fun x hx _ same => ih x hx same).flip
    | _ => simp [eqBy] at h
  | obj kvs ih =>
    cases b with
    | obj kvs' =>
      rw [eqBy_obj] at h ⊢
      intro k
      have same := h k
      cases left : kvs.lookup k with
      | none => cases right : kvs'.lookup k <;> simp [left, right, optEqBy] at same ⊢
      | some v =>
        cases right : kvs'.lookup k with
        | none => simp [left, right, optEqBy] at same
        | some w =>
          simp only [left, right, optEqBy] at same ⊢
          exact ih (k, v) (Entries.mem_of_lookup left) same
    | _ => simp [eqBy] at h

theorem eqBy_trans {a b c : Json} (hab : eqBy scalar a b = true) (hbc : eqBy scalar b c = true) :
    eqBy scalar a c = true := by
  induction a using Json.ind generalizing b c with
  | leaf a ha =>
    have hb : b.isLeaf = true := (isLeaf_of_eqBy laws hab).symm.trans ha
    rw [eqBy_leaf ha] at hab ⊢
    rw [eqBy_leaf hb] at hbc
    exact laws.trans hab hbc
  | arr xs ih =>
    cases b with
    | arr ys =>
      cases c with
      | arr zs =>
        rw [eqBy_arr] at hab hbc ⊢
        clear laws
        induction hab generalizing zs with
        | nil => exact hbc
        | cons head _ rec =>
          obtain ⟨z, zs, headNext, tailNext, rfl⟩ := List.forall₂_cons_left_iff.mp hbc
          exact .cons (ih _ List.mem_cons_self head headNext)
            (rec (fun x hx => ih x (List.mem_cons_of_mem _ hx)) _ tailNext)
      | _ => simp [eqBy] at hbc
    | _ => simp [eqBy] at hab
  | obj kvs ih =>
    cases b with
    | obj kvs' =>
      cases c with
      | obj kvs'' =>
        rw [eqBy_obj] at hab hbc ⊢
        intro k
        have first := hab k
        have second := hbc k
        cases left : kvs.lookup k <;> cases middle : kvs'.lookup k <;>
          cases right : kvs''.lookup k <;> simp [left, middle, right, optEqBy] at first second ⊢
        rename_i v w x
        exact ih (k, v) (Entries.mem_of_lookup left) first second
      | _ => simp [eqBy] at hbc
    | _ => simp [eqBy] at hab

theorem optEqBy_trans {a b c : Option Json} (hab : optEqBy scalar a b = true)
    (hbc : optEqBy scalar b c = true) : optEqBy scalar a c = true := by
  cases a <;> cases b <;> cases c <;> simp [optEqBy] at hab hbc ⊢
  exact eqBy_trans laws hab hbc

theorem optEqBy_symm {a b : Option Json} (h : optEqBy scalar a b = true) :
    optEqBy scalar b a = true := by
  cases a <;> cases b <;> simp [optEqBy] at h ⊢
  exact eqBy_symm laws h

end Laws

theorem optEqBy_get? (laws : ScalarEquiv scalar) {a b : Json} (h : eqBy scalar a b = true) (k : String) :
    optEqBy scalar (a.get? k) (b.get? k) = true := by
  cases a with
  | obj kvs =>
    cases b with
    | obj kvs' => exact eqBy_obj.mp h k
    | _ => simp [eqBy] at h
  | _ =>
    have leaf := isLeaf_of_eqBy laws h
    cases b <;> simp [isLeaf] at leaf <;> first | rfl | simp [eqBy] at h

theorem eqBy_mono {fine coarse : Json → Json → Bool} (finer : ∀ {a b : Json}, a.isLeaf = true →
      fine a b = true → coarse a b = true) {a b : Json} (h : eqBy fine a b = true) :
    eqBy coarse a b = true := by
  induction a using Json.ind generalizing b with
  | leaf a ha =>
    rw [eqBy_leaf ha] at h ⊢
    exact finer ha h
  | arr xs ih =>
    cases b with
    | arr ys =>
      rw [eqBy_arr] at h ⊢
      exact forall₂_imp_mem h fun x hx _ same => ih x hx same
    | _ => simp [eqBy] at h
  | obj kvs ih =>
    cases b with
    | obj kvs' =>
      rw [eqBy_obj] at h ⊢
      intro k
      have same := h k
      cases left : kvs.lookup k <;> cases right : kvs'.lookup k <;>
        simp [left, right, optEqBy] at same ⊢
      exact ih (k, _) (Entries.mem_of_lookup left) same
    | _ => simp [eqBy] at h

end EqBy

/-! ### Python equality -/

/-- The number a scalar stands for in a comparison. -/
def number? : Json → Option Rat
  | .bool b => some (if b then 1 else 0)
  | .int i => some i
  | .float q => some q
  | .negZero => some 0
  | _ => none

def pyScalarEq : Json → Json → Bool
  | .null, .null => true
  | .str s, .str t => s == t
  | a, b =>
    match a.number?, b.number? with
    | some x, some y => x == y
    | _, _ => false

/-- Python's `==` on JSON values. -/
def pyEq (a b : Json) : Bool := eqBy pyScalarEq a b

theorem pyEq_str (s t : String) : (str s).pyEq (str t) = (s == t) := rfl

theorem pyEq_int {i j : Int} : (int i).pyEq (int j) = true ↔ i = j := by
  simp [pyEq, eqBy, pyScalarEq, number?]

/-- Scalars with the same JSON text. -/
def textScalarEq : Json → Json → Bool
  | .null, .null => true
  | .bool a, .bool b => a == b
  | .int i, .int j => i == j
  | .float q, .float r => q == r
  | .negZero, .negZero => true
  | .str s, .str t => s == t
  | _, _ => false

/-- Values with the same JSON text once keys are sorted. -/
def sameText (a b : Json) : Bool := eqBy textScalarEq a b

theorem pyScalarEq_laws : ScalarEquiv pyScalarEq where
  leaves {a b} h := by
    cases a <;> cases b <;> simp_all [pyScalarEq, number?, isLeaf]
  refl {a} h := by
    cases a <;> simp_all [pyScalarEq, number?, isLeaf]
  symm {a b} h := by
    cases a <;> cases b <;> simp_all [pyScalarEq, number?]
  trans {a b c} hab hbc := by
    cases a <;> cases b <;> simp [pyScalarEq, number?] at hab <;>
      cases c <;> simp_all [pyScalarEq, number?]

theorem textScalarEq_laws : ScalarEquiv textScalarEq where
  leaves {a b} h := by
    cases a <;> cases b <;> simp_all [textScalarEq, isLeaf]
  refl {a} h := by
    cases a <;> simp_all [textScalarEq, isLeaf]
  symm {a b} h := by
    cases a <;> cases b <;> simp_all [textScalarEq]
  trans {a b c} hab hbc := by
    cases a <;> cases b <;> simp [textScalarEq] at hab <;>
      cases c <;> simp_all [textScalarEq]

theorem pyEq_refl (v : Json) : pyEq v v = true := eqBy_refl pyScalarEq_laws v

theorem pyEq_symm {a b : Json} (h : pyEq a b = true) : pyEq b a = true := eqBy_symm pyScalarEq_laws h

theorem pyEq_trans {a b c : Json} (hab : pyEq a b = true) (hbc : pyEq b c = true) : pyEq a c = true :=
  eqBy_trans pyScalarEq_laws hab hbc

theorem sameText_refl (v : Json) : sameText v v = true := eqBy_refl textScalarEq_laws v

theorem sameText_symm {a b : Json} (h : sameText a b = true) : sameText b a = true :=
  eqBy_symm textScalarEq_laws h

theorem sameText_trans {a b c : Json} (hab : sameText a b = true) (hbc : sameText b c = true) :
    sameText a c = true :=
  eqBy_trans textScalarEq_laws hab hbc

/-- A scalar has its text alone. -/
theorem eq_of_sameText {a b : Json} (leaf : a.isLeaf = true) (h : sameText a b = true) : a = b := by
  rw [sameText, eqBy_leaf leaf] at h
  cases a <;> cases b <;> simp_all [textScalarEq]

/-- Fields of values with the same text: the same scalar, or values with the same text that are none. -/
theorem get?_of_sameText {a b : Json} (h : sameText a b = true) (k : String) :
    a.get? k = b.get? k ∨
      ∃ v w, a.get? k = some v ∧ b.get? k = some w ∧ v.isLeaf = false ∧ w.isLeaf = false ∧ sameText v w = true := by
  have same := optEqBy_get? textScalarEq_laws h k
  cases left : a.get? k with
  | none =>
    cases right : b.get? k with
    | none => exact Or.inl rfl
    | some w => simp [left, right, optEqBy] at same
  | some v =>
    cases right : b.get? k with
    | none => simp [left, right, optEqBy] at same
    | some w =>
      rw [left, right] at same
      have shapes := isLeaf_of_eqBy textScalarEq_laws same
      by_cases leaf : v.isLeaf = true
      · exact Or.inl (congrArg some (eq_of_sameText leaf same))
      · rw [Bool.not_eq_true] at leaf
        exact Or.inr ⟨v, w, rfl, rfl, leaf, shapes ▸ leaf, same⟩

theorem isObj_of_sameText {a b : Json} (h : sameText a b = true) : a.isObj = b.isObj :=
  isObj_of_eqBy textScalarEq_laws h

/-- The same text means the same value to Python. -/
theorem pyEq_of_sameText {a b : Json} (h : sameText a b = true) : pyEq a b = true := by
  refine eqBy_mono ?_ h
  intro a b _ same
  cases a <;> cases b <;> simp_all [textScalarEq, pyScalarEq, number?]

/-! ### The integers of a value -/

section AllInts

variable (test : Int → Bool)

mutual

/-- Every integer in the value passes the test. -/
def allInts : Json → Bool
  | .int i => test i
  | .arr xs => allIntsList xs
  | .obj kvs => allIntsEntries kvs
  | _ => true

def allIntsList : List Json → Bool
  | [] => true
  | x :: xs => allInts x && allIntsList xs

def allIntsEntries : List (String × Json) → Bool
  | [] => true
  | (_, v) :: kvs => allInts v && allIntsEntries kvs

end

variable {test}

theorem allInts_arr {xs : List Json} : allInts test (.arr xs) = true ↔ ∀ x ∈ xs, allInts test x = true := by
  rw [allInts]
  induction xs with
  | nil => simp [allIntsList]
  | cons x xs ih => rw [allIntsList, Bool.and_eq_true, ih, List.forall_mem_cons]

end AllInts

end Json

end AgentGym
