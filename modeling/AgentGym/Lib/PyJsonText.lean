import Mathlib.Data.Set.List
import AgentGym.Lib.CodePoints
import AgentGym.Lib.JsonText

/-!
# JSON text of any code points

The values here have strings of any code points. Their compact JSON text leaves every code
point beyond ASCII as it is, also a surrogate, so the text can be encoded if and only if
there is no surrogate in the value. Integers have a text up to a number of digits. The
values that have both are those of `Json`, with the same text.
-/

namespace AgentGym

inductive PyValue where
  | null
  | bool (b : Bool)
  | int (i : Int)
  | float (q : Rat)
  | negZero
  | str (s : PyString)
  | list (xs : List PyValue)
  | dict (kvs : List (PyString × PyValue))

namespace PyValue

open PyString (Plain)

def isLeaf : PyValue → Bool
  | .list _ | .dict _ => false
  | _ => true

/-- Structural induction, with the leaves as one case. -/
theorem ind {P : PyValue → Prop} (leaf : ∀ v : PyValue, v.isLeaf = true → P v) (list : ∀ xs, (∀ x ∈ xs, P x) → P (.list xs))
    (dict : ∀ kvs, (∀ e ∈ kvs, P e.2) → P (.dict kvs)) (v : PyValue) : P v := by
  refine @PyValue.rec P (fun xs => ∀ x ∈ xs, P x) (fun kvs => ∀ e ∈ kvs, P e.2) (fun e => P e.2)
    (leaf _ rfl) (fun b => leaf (.bool b) rfl) (fun i => leaf (.int i) rfl) (fun q => leaf (.float q) rfl) (leaf _ rfl)
    (fun s => leaf (.str s) rfl) list dict ?_ ?_ ?_ ?_ ?_ v
  · simp
  · intro x xs here rest
    exact List.forall_mem_cons.mpr ⟨here, rest⟩
  · simp
  · intro e kvs here rest
    exact List.forall_mem_cons.mpr ⟨here, rest⟩
  · intro _ v here
    exact here

/-! ### Writing -/

/-- The escape of a code point; a surrogate is written as it is. -/
def escape (c : CodePoint) : PyString :=
  match c.toChar? with
  | some d => .ofChars (JsonText.escape d)
  | none => [c]

def quote (s : PyString) : PyString := .ofChars ['"'] ++ s.flatMap escape ++ .ofChars ['"']

def writeMore (close : Char) : List PyString → PyString
  | [] => .ofChars [close]
  | piece :: pieces => .ofChars [','] ++ piece ++ writeMore close pieces

/-- Pieces between commas, up to the closing bracket. -/
def writeList (close : Char) : List PyString → PyString
  | [] => .ofChars [close]
  | piece :: pieces => piece ++ writeMore close pieces

/-- Whether the interpreter turns the integer into text. -/
def HasText (i : Int) : Prop := (Nat.toDigits 10 i.natAbs).length ≤ 4300

instance (i : Int) : Decidable (HasText i) := inferInstanceAs (Decidable (_ ≤ _))

theorem hasText_iff {i : Int} : HasText i ↔ i.natAbs < Nat.pow 10 4300 :=
  Nat.length_toDigits_le_iff (by decide) (by decide)

def writeInt (i : Int) : Except String PyString :=
  if HasText i then .ok (.ofChars (JsonText.writeInt i))
  else .error "Exceeds the limit (4300 digits) for integer string conversion"

section Write

variable (float : Rat → String)

mutual

/-- The text of a value, its entries in order. -/
def write : PyValue → Except String PyString
  | .null => .ok (.ofChars ['n', 'u', 'l', 'l'])
  | .bool true => .ok (.ofChars ['t', 'r', 'u', 'e'])
  | .bool false => .ok (.ofChars ['f', 'a', 'l', 's', 'e'])
  | .int i => writeInt i
  | .float q => .ok (.ofChars (float q).toList)
  | .negZero => .ok (.ofChars ['-', '0', '.', '0'])
  | .str s => .ok (quote s)
  | .list xs => do
    let pieces ← writeItems xs
    pure (.ofChars ['['] ++ writeList ']' pieces)
  | .dict kvs => do
    let pieces ← writeFields kvs
    pure (.ofChars ['\x7b'] ++ writeList '\x7d' pieces)

def writeItems : List PyValue → Except String (List PyString)
  | [] => .ok []
  | x :: xs => do
    let piece ← write x
    let pieces ← writeItems xs
    pure (piece :: pieces)

def writeFields : List (PyString × PyValue) → Except String (List PyString)
  | [] => .ok []
  | (k, v) :: kvs => do
    let piece ← write v
    let pieces ← writeFields kvs
    pure ((quote k ++ .ofChars [':'] ++ piece) :: pieces)

end

end Write

/-- The order of strings by code points. -/
def keyLE : PyString → PyString → Bool
  | [], _ => true
  | _ :: _, [] => false
  | a :: as, b :: bs => a.val < b.val || (a.val == b.val && keyLE as bs)

/-- The entries of a dictionary by key. -/
def sortEntries (kvs : List (PyString × PyValue)) : List (PyString × PyValue) :=
  kvs.insertionSort fun a b => keyLE a.1 b.1 = true

mutual

def sorted : PyValue → PyValue
  | .list xs => .list (sortedItems xs)
  | .dict kvs => .dict (sortEntries (sortedFields kvs))
  | v => v

def sortedItems : List PyValue → List PyValue
  | [] => []
  | x :: xs => sorted x :: sortedItems xs

def sortedFields : List (PyString × PyValue) → List (PyString × PyValue)
  | [] => []
  | (k, v) :: kvs => (k, sorted v) :: sortedFields kvs

end

/-- `json.dumps` with compact separators, sorted keys and no escapes beyond ASCII. -/
def dumps (float : Rat → String) (v : PyValue) : Except String PyString := write float (sorted v)

theorem writeItems_eq (float : Rat → String) (xs : List PyValue) : writeItems float xs = xs.mapM (write float) := by
  induction xs with
  | nil => rfl
  | cons x xs ih => rw [writeItems, ih, List.mapM_cons]

def writeField (float : Rat → String) (e : PyString × PyValue) : Except String PyString :=
  (write float e.2).map fun piece => quote e.1 ++ .ofChars [':'] ++ piece

theorem writeFields_eq (float : Rat → String) (kvs : List (PyString × PyValue)) :
    writeFields float kvs = kvs.mapM (writeField float) := by
  induction kvs with
  | nil => rfl
  | cons e kvs ih =>
    obtain ⟨k, v⟩ := e
    rw [writeFields, ih, List.mapM_cons, writeField]
    cases write float v with
    | error e => rfl
    | ok piece => rfl

theorem sortedItems_eq (xs : List PyValue) : sortedItems xs = xs.map sorted := by
  induction xs with
  | nil => rfl
  | cons x xs ih => rw [sortedItems, ih, List.map_cons]

theorem sortedFields_eq (kvs : List (PyString × PyValue)) : sortedFields kvs = kvs.map fun e => (e.1, sorted e.2) := by
  induction kvs with
  | nil => rfl
  | cons e kvs ih =>
    obtain ⟨k, v⟩ := e
    rw [sortedFields, ih, List.map_cons]

/-! ### Values without surrogates -/

mutual

/-- No string and no key has a surrogate, and every integer has a text. -/
def Persistable : PyValue → Prop
  | .int i => HasText i
  | .str s => Plain s
  | .list xs => PersistableItems xs
  | .dict kvs => PersistableFields kvs
  | _ => True

def PersistableItems : List PyValue → Prop
  | [] => True
  | x :: xs => Persistable x ∧ PersistableItems xs

def PersistableFields : List (PyString × PyValue) → Prop
  | [] => True
  | (k, v) :: kvs => (Plain k ∧ Persistable v) ∧ PersistableFields kvs

end

theorem persistable_list {xs : List PyValue} : Persistable (.list xs) ↔ ∀ x ∈ xs, Persistable x := by
  show PersistableItems xs ↔ _
  induction xs with
  | nil => simp [PersistableItems]
  | cons x xs ih => rw [PersistableItems, ih, List.forall_mem_cons]

theorem persistable_dict {kvs : List (PyString × PyValue)} :
    Persistable (.dict kvs) ↔ ∀ e ∈ kvs, Plain e.1 ∧ Persistable e.2 := by
  show PersistableFields kvs ↔ _
  induction kvs with
  | nil => simp [PersistableFields]
  | cons e kvs ih =>
    obtain ⟨k, v⟩ := e
    rw [PersistableFields, ih, List.forall_mem_cons]

theorem persistable_sorted (v : PyValue) : Persistable (sorted v) ↔ Persistable v := by
  induction v using ind with
  | leaf v leaf => cases v <;> first | rfl | cases leaf
  | list xs ih =>
    rw [sorted, sortedItems_eq, persistable_list, persistable_list, List.forall_mem_map]
    exact forall₂_congr ih
  | dict kvs ih =>
    have members : ∀ e, e ∈ sortEntries (sortedFields kvs) ↔ e ∈ kvs.map fun e => (e.1, sorted e.2) := by
      intro e
      rw [← sortedFields_eq]
      exact (List.perm_insertionSort _ _).mem_iff
    rw [sorted, persistable_dict, persistable_dict]
    simp only [members, List.forall_mem_map]
    exact forall₂_congr fun e member => and_congr_right fun _ => ih e member

/-! ### The values of `Json` -/

mutual

def ofJson : Json → PyValue
  | .null => .null
  | .bool b => .bool b
  | .int i => .int i
  | .float q => .float q
  | .negZero => .negZero
  | .str s => .str (.ofString s)
  | .arr xs => .list (ofJsonItems xs)
  | .obj kvs => .dict (ofJsonFields kvs)

def ofJsonItems : List Json → List PyValue
  | [] => []
  | x :: xs => ofJson x :: ofJsonItems xs

def ofJsonFields : List (String × Json) → List (PyString × PyValue)
  | [] => []
  | (k, v) :: kvs => (.ofString k, ofJson v) :: ofJsonFields kvs

end

def ofJsonField (e : String × Json) : PyString × PyValue := (.ofString e.1, ofJson e.2)

theorem ofJson_arr (xs : List Json) : ofJson (.arr xs) = .list (xs.map ofJson) := by
  show PyValue.list (ofJsonItems xs) = _
  congr 1
  induction xs with
  | nil => rfl
  | cons x xs ih => rw [ofJsonItems, ih, List.map_cons]

theorem ofJson_obj (kvs : List (String × Json)) : ofJson (.obj kvs) = .dict (kvs.map ofJsonField) := by
  show PyValue.dict (ofJsonFields kvs) = _
  congr 1
  induction kvs with
  | nil => rfl
  | cons e kvs ih =>
    obtain ⟨k, v⟩ := e
    rw [ofJsonFields, ih, List.map_cons, ofJsonField]

theorem exists_ofString {s : PyString} (plain : Plain s) : ∃ t, s = .ofString t := by
  obtain ⟨cs, rfl⟩ := PyString.exists_ofChars plain
  exact ⟨String.ofList cs, by rw [PyString.ofString, String.toList_ofList]⟩

theorem exists_ofJson {v : PyValue} (persistable : Persistable v) : ∃ j, ofJson j = v := by
  induction v using ind with
  | leaf v leaf =>
    cases v with
    | null => exact ⟨.null, rfl⟩
    | bool b => exact ⟨.bool b, rfl⟩
    | int i => exact ⟨.int i, rfl⟩
    | float q => exact ⟨.float q, rfl⟩
    | negZero => exact ⟨.negZero, rfl⟩
    | str s =>
      obtain ⟨t, rfl⟩ := exists_ofString persistable
      exact ⟨.str t, rfl⟩
    | list xs => cases leaf
    | dict kvs => cases leaf
  | list xs ih =>
    rw [persistable_list] at persistable
    have each : xs ∈ Set.range (List.map ofJson) := by
      rw [Set.range_list_map]
      exact fun x member => ih x member (persistable x member)
    obtain ⟨js, rfl⟩ := each
    exact ⟨.arr js, ofJson_arr js⟩
  | dict kvs ih =>
    rw [persistable_dict] at persistable
    have each : kvs ∈ Set.range (List.map ofJsonField) := by
      rw [Set.range_list_map]
      rintro ⟨k, v⟩ member
      obtain ⟨plain, inner⟩ := persistable _ member
      obtain ⟨key, rfl⟩ := exists_ofString plain
      obtain ⟨j, rfl⟩ := ih _ member inner
      exact ⟨(key, j), rfl⟩
    obtain ⟨js, rfl⟩ := each
    exact ⟨.obj js, ofJson_obj js⟩

/-! ### One text -/

theorem quote_ofString (s : String) : quote (.ofString s) = .ofChars (JsonText.quote s.toList) := by
  have escapes : ∀ cs : List Char, (PyString.ofChars cs).flatMap escape = PyString.ofChars (cs.flatMap JsonText.escape) := by
    intro cs
    simp only [PyString.ofChars, List.flatMap_map, List.map_flatMap, escape, CodePoint.toChar?_ofChar]
  unfold quote JsonText.quote PyString.ofString
  rw [escapes]
  simp [PyString.ofChars]

theorem writeList_ofChars (close : Char) (pieces : List (List Char)) :
    writeList close (pieces.map PyString.ofChars) = .ofChars (JsonText.writeList close pieces) := by
  have more : ∀ pieces : List (List Char), writeMore close (pieces.map PyString.ofChars) =
      .ofChars (JsonText.writeMore close pieces) := by
    intro pieces
    induction pieces with
    | nil => rfl
    | cons piece pieces ih =>
      rw [List.map_cons, writeMore, ih]
      simp [JsonText.writeMore, PyString.ofChars]
  cases pieces with
  | nil => rfl
  | cons piece pieces =>
    rw [List.map_cons, writeList, more]
    simp [JsonText.writeList, PyString.ofChars]

theorem mapM_map_eq {ε α β γ : Type} {f : α → Except ε β} {g : γ → α} {h : γ → β} {xs : List γ}
    (each : ∀ x ∈ xs, f (g x) = .ok (h x)) : (xs.map g).mapM f = .ok (xs.map h) := by
  rw [mapM_eq_ok_iff, List.forall₂_map_left_iff, List.forall₂_map_right_iff, List.forall₂_same]
  exact each

/-- A value of `Json` whose integers have texts is written like it. -/
theorem write_ofJson (float : Rat → String) {j : Json} (persistable : Persistable (ofJson j)) :
    write float (ofJson j) = .ok (.ofChars (JsonText.write float j)) := by
  induction j using Json.ind with
  | leaf j leaf =>
    cases j with
    | null => rfl
    | bool b => cases b <;> rfl
    | int i => exact if_pos persistable
    | float q => rfl
    | negZero => rfl
    | str s => exact congrArg Except.ok (quote_ofString s)
    | arr xs => cases leaf
    | obj kvs => cases leaf
  | arr xs ih =>
    rw [ofJson_arr, persistable_list, List.forall_mem_map] at persistable
    have items : (xs.map ofJson).mapM (write float) = .ok ((xs.map (JsonText.write float)).map PyString.ofChars) := by
      rw [List.map_map]
      exact mapM_map_eq fun j member => ih j member (persistable j member)
    rw [ofJson_arr, write, writeItems_eq, items, JsonText.write, JsonText.writeItems_eq]
    show Except.ok (_ ++ writeList ']' _) = _
    rw [writeList_ofChars]
    rfl
  | obj kvs ih =>
    rw [ofJson_obj, persistable_dict, List.forall_mem_map] at persistable
    have fields : (kvs.map ofJsonField).mapM (writeField float) =
        .ok ((kvs.map (JsonText.writeField float)).map PyString.ofChars) := by
      rw [List.map_map]
      refine mapM_map_eq fun e member => ?_
      rw [writeField, ofJsonField, ih e member (persistable e member).2, quote_ofString]
      simp [Except.map, JsonText.writeField, PyString.ofChars]
    rw [ofJson_obj, write, writeFields_eq, fields, JsonText.write, JsonText.writeFields_eq]
    show Except.ok (_ ++ writeList '\x7d' _) = _
    rw [writeList_ofChars]
    rfl

/-- No dictionary has a key twice. -/
inductive Distinct : PyValue → Prop where
  | leaf {v : PyValue} : v.isLeaf = true → Distinct v
  | list {xs : List PyValue} : (∀ x ∈ xs, Distinct x) → Distinct (.list xs)
  | dict {kvs : List (PyString × PyValue)} : (kvs.map Prod.fst).Nodup → (∀ e ∈ kvs, Distinct e.2) → Distinct (.dict kvs)

theorem keyLE_ofChars (as bs : List Char) : keyLE (.ofChars as) (.ofChars bs) = JsonText.textLE as bs := by
  induction as generalizing bs with
  | nil => rfl
  | cons a as ih =>
    cases bs with
    | nil => rfl
    | cons b bs =>
      rw [JsonText.textLE, ← ih bs]
      rfl

theorem sorted_ofJson {j : Json} (distinct : Distinct (ofJson j)) : sorted (ofJson j) = ofJson (JsonText.sorted j) := by
  induction j using Json.ind with
  | leaf j leaf => cases j <;> first | rfl | cases leaf
  | arr xs ih =>
    rw [ofJson_arr] at distinct ⊢
    rw [sorted, sortedItems_eq, JsonText.sorted, JsonText.sortedItems_eq, ofJson_arr, List.map_map, List.map_map]
    cases distinct with
    | leaf leaf => cases leaf
    | list items =>
      congr 1
      exact List.map_congr_left fun x member => ih x member (items _ (List.mem_map_of_mem member))
  | obj kvs ih =>
    rw [ofJson_obj] at distinct ⊢
    cases distinct with
    | leaf leaf => cases leaf
    | dict nodup fields =>
      have sortedFields_ : (kvs.map ofJsonField).map (fun e => (e.1, sorted e.2)) =
          (kvs.map fun e => (e.1, JsonText.sorted e.2)).map ofJsonField := by
        rw [List.map_map, List.map_map]
        refine List.map_congr_left fun e member => ?_
        exact congrArg (Prod.mk _) (ih e member (fields _ (List.mem_map_of_mem member)))
      have keys : ((kvs.map fun e => (e.1, JsonText.sorted e.2)).map Prod.fst).Nodup := by
        rw [List.map_map] at nodup ⊢
        exact List.Nodup.of_map PyString.ofString (by rw [List.map_map]; exact nodup)
      have entries : JsonText.sortEntries (kvs.map fun e => (e.1, JsonText.sorted e.2)) =
          (kvs.map fun e => (e.1, JsonText.sorted e.2)).insertionSort fun a b => JsonText.textLE a.1.toList b.1.toList = true := by
        unfold JsonText.sortEntries
        rw [Dict.ofEntries_entries ⟨_, keys⟩]
      rw [sorted, sortedFields_eq, sortedFields_, JsonText.sorted, JsonText.sortedFields_eq, entries, ofJson_obj]
      congr 1
      refine (List.map_insertionSort _ _ _ _ fun a _ b _ => ?_).symm
      exact Iff.of_eq (congrArg (· = true) (keyLE_ofChars a.1.toList b.1.toList).symm)

theorem dumps_ofJson (float : Rat → String) {j : Json} (distinct : Distinct (ofJson j))
    (persistable : Persistable (ofJson j)) : dumps float (ofJson j) = .ok (.ofString (JsonText.dumps float j)) := by
  have text : Persistable (ofJson (JsonText.sorted j)) := by
    rw [← sorted_ofJson distinct, persistable_sorted]
    exact persistable
  rw [dumps, sorted_ofJson distinct, write_ofJson float text, PyString.ofString, JsonText.dumps, String.toList_ofList]

/-! ### Texts without surrogates -/

theorem mem_writeList {close : Char} {pieces : List PyString} {piece : PyString} (member : piece ∈ pieces) {c : CodePoint}
    (inside : c ∈ piece) : c ∈ writeList close pieces := by
  have more : ∀ pieces : List PyString, piece ∈ pieces → c ∈ writeMore close pieces := by
    intro pieces member
    induction pieces with
    | nil => cases member
    | cons first pieces ih =>
      rw [writeMore]
      rcases List.mem_cons.mp member with rfl | later
      · simp [inside]
      · simp [ih later]
  cases pieces with
  | nil => cases member
  | cons first pieces =>
    rw [writeList]
    rcases List.mem_cons.mp member with rfl | later
    · simp [inside]
    · simp [more pieces later]

/-- A surrogate is not escaped. -/
theorem plain_of_quote {s : PyString} (plain : Plain (quote s)) : Plain s := by
  intro c member
  by_contra surrogate
  have kept : escape c = [c] := by
    rw [Bool.not_eq_false] at surrogate
    rw [escape, CodePoint.toChar?, if_pos surrogate]
  have inside : c ∈ quote s := by
    unfold quote
    simp only [List.mem_append, List.mem_flatMap]
    exact Or.inl (Or.inr ⟨c, member, by rw [kept]; exact List.mem_singleton_self c⟩)
  exact surrogate (plain c inside)

/-- Every string of a value stands in its text. -/
theorem persistable_of_write {float : Rat → String} {v : PyValue} {text : PyString} (written : write float v = .ok text)
    (plain : Plain text) : Persistable v := by
  induction v using ind generalizing text with
  | leaf v leaf =>
    cases v with
    | int i =>
      rw [write, writeInt] at written
      split at written
      · assumption
      · cases written
    | str s =>
      obtain rfl := Except.ok.inj written
      exact plain_of_quote plain
    | list xs => cases leaf
    | dict kvs => cases leaf
    | _ => trivial
  | list xs ih =>
    rw [write, writeItems_eq] at written
    obtain ⟨pieces, items, same⟩ := bind_eq_ok_iff.mp written
    obtain rfl := Except.ok.inj same
    rw [persistable_list]
    intro x member
    obtain ⟨piece, inside, ran⟩ := mem_mapM_of_mem items member
    exact ih x member ran fun c found => plain c (List.mem_append_right _ (mem_writeList inside found))
  | dict kvs ih =>
    rw [write, writeFields_eq] at written
    obtain ⟨pieces, fields, same⟩ := bind_eq_ok_iff.mp written
    obtain rfl := Except.ok.inj same
    rw [persistable_dict]
    intro e member
    obtain ⟨piece, inside, ran⟩ := mem_mapM_of_mem fields member
    have here : Plain piece := fun c found => plain c (List.mem_append_right _ (mem_writeList inside found))
    rw [writeField] at ran
    cases value : write float e.2 with
    | error e => rw [value] at ran; cases ran
    | ok text =>
      rw [value] at ran
      obtain rfl := Except.ok.inj ran
      refine ⟨plain_of_quote fun c found => here c ?_, ih e member value fun c found => here c ?_⟩
      · simp [found]
      · simp [found]

theorem persistable_of_dumps {float : Rat → String} {v : PyValue} {text : PyString} (written : dumps float v = .ok text)
    (plain : Plain text) : Persistable v :=
  (persistable_sorted v).mp (persistable_of_write written plain)

end PyValue

end AgentGym
