import Mathlib.Data.List.Infix
import Mathlib.Data.List.Sort
import AgentGym.Lib.Dict

/-!
# File systems with symbolic links

A file system maps absolute paths, lists of names, to regular files, directories and
symbolic links. A path is walked name by name, and every link on it is followed. A
location is a path that meets no link, and what a walk ends at is one.
-/

namespace AgentGym.Files

/-! ### Paths -/

abbrev Path := List String

structure ProperName (name : String) : Prop where
  nonempty : name ≠ ""
  notDot : name ≠ "."
  notDotDot : name ≠ ".."
  noSlash : '/' ∉ name.toList

instance (name : String) : Decidable (ProperName name) :=
  decidable_of_iff (name ≠ "" ∧ name ≠ "." ∧ name ≠ ".." ∧ '/' ∉ name.toList)
    ⟨fun h => ⟨h.1, h.2.1, h.2.2.1, h.2.2.2⟩, fun h => ⟨h.1, h.2, h.3, h.4⟩⟩

/-- What stands between the slashes, nothing and dots included. -/
def components (text : String) : List String := (text.toList.splitOn '/').map String.ofList

def isAbsolute (text : String) : Bool := text.toList.head? == some '/'

/-- A parsed path: absolute or not, without its empty and single-dot components. -/
structure PurePath where
  absolute : Bool
  parts : List String
  deriving DecidableEq

namespace PurePath

def parse (text : String) : PurePath where
  absolute := isAbsolute text
  parts := (components text).filter fun name => name ≠ "" ∧ name ≠ "."

/-- `left / right`: an absolute path replaces what is on its left. -/
def join (left right : PurePath) : PurePath :=
  if right.absolute then right else ⟨left.absolute, left.parts ++ right.parts⟩

def name (p : PurePath) : String := p.parts.getLast?.getD ""

def parent (p : PurePath) : PurePath := ⟨p.absolute, p.parts.dropLast⟩

/-- The path counted from the root. -/
def located (cwd : Path) (p : PurePath) : Path := if p.absolute then p.parts else cwd ++ p.parts

end PurePath

def asPosix (p : Path) : String := "/".intercalate p

theorem asPosix_components (text : String) : asPosix (components text) = text := by
  have texts : (components text).map String.toList = text.toList.splitOn '/' := by
    rw [components, List.map_map]
    conv_rhs => rw [← List.map_id (text.toList.splitOn '/')]
    exact List.map_congr_left fun _ _ => String.toList_ofList
  rw [← String.toList_inj, asPosix, String.toList_intercalate, texts]
  exact List.intercalate_splitOn '/'

theorem components_asPosix {p : Path} (proper : ∀ name ∈ p, ProperName name) (nonempty : p ≠ []) :
    components (asPosix p) = p := by
  have split : (asPosix p).toList.splitOn '/' = p.map String.toList := by
    rw [asPosix, String.toList_intercalate]
    refine List.splitOn_intercalate '/' ?_ (by simpa using nonempty)
    intro cs member
    obtain ⟨name, listed, rfl⟩ := List.mem_map.mp member
    exact (proper name listed).noSlash
  rw [components, split, List.map_map]
  conv_rhs => rw [← List.map_id p]
  exact List.map_congr_left fun _ _ => String.ofList_toList

theorem asPosix_injective {p q : Path} (left : ∀ name ∈ p, ProperName name) (right : ∀ name ∈ q, ProperName name)
    (same : asPosix p = asPosix q) : p = q := by
  have empty : ∀ {p : Path}, (∀ name ∈ p, ProperName name) → asPosix p = "" → p = [] := by
    intro p proper none
    by_contra nonempty
    have alone := components_asPosix proper nonempty
    rw [none] at alone
    exact (proper "" (alone ▸ by decide)).nonempty rfl
  by_cases none : p = []
  · subst none
    exact (empty right same.symm).symm
  · have none' : q ≠ [] := by
      rintro rfl
      exact none (empty left same)
    rw [← components_asPosix left none, same, components_asPosix right none']

/-! ### File systems -/

-- Of the two instances a reader may have in scope, the core library's is meant.
instance bytesDecidableEq : DecidableEq ByteArray := ByteArray.instDecidableEq

inductive Node where
  | file (bytes : ByteArray)
  | dir
  | link (target : String)
  deriving DecidableEq

namespace Node

def isFile : Node → Bool
  | .file _ => true
  | _ => false

def isDir : Node → Bool
  | .dir => true
  | _ => false

def isLink : Node → Bool
  | .link _ => true
  | _ => false

end Node

inductive OsError where
  | fileNotFound | fileExists | notADirectory | isADirectory
  deriving DecidableEq

/-- What lies in a directory is below one, and properly named. -/
structure FileSystem where
  nodes : Dict Path Node
  rooted : nodes.get? [] = some .dir
  nested : ∀ p name, (nodes.get? (p ++ [name])).isSome → nodes.get? p = some .dir
  named : ∀ p name, (nodes.get? (p ++ [name])).isSome → ProperName name

namespace FileSystem

def get? (files : FileSystem) (p : Path) : Option Node := files.nodes.get? p

/-- Whether entries make up a file system: what is not the root is properly named and lies in a directory. -/
def wellFormed (nodes : Dict Path Node) : Bool :=
  decide (nodes.get? [] = some .dir) && nodes.entries.all fun e =>
    match e.1.getLast? with
    | none => true
    | some name => decide (ProperName name) && decide (nodes.get? e.1.dropLast = some .dir)

theorem wellFormed_entry {nodes : Dict Path Node} (formed : wellFormed nodes = true) {p : Path} {name : String}
    (present : (nodes.get? (p ++ [name])).isSome) : ProperName name ∧ nodes.get? p = some .dir := by
  obtain ⟨node, here⟩ := Option.isSome_iff_exists.mp present
  have checked := List.all_eq_true.mp (Bool.and_eq_true_iff.mp formed).2 _ (Dict.mem_entries_iff.mpr here)
  simpa using checked

def ofNodes (nodes : Dict Path Node) (formed : wellFormed nodes = true) : FileSystem where
  nodes
  rooted := of_decide_eq_true (Bool.and_eq_true_iff.mp formed).1
  nested _ _ present := (wellFormed_entry formed present).2
  named _ _ present := (wellFormed_entry formed present).1

/-- `files` with something new in a directory, or something other than a directory replaced. -/
def put (files : FileSystem) (p : Path) (name : String) (node : Node) (parent : files.get? p = some .dir)
    (proper : ProperName name) (leaf : files.get? (p ++ [name]) ≠ some .dir) : FileSystem where
  nodes := files.nodes.set (p ++ [name]) node
  rooted := by
    rw [Dict.get?_set_ne _ _ (by simp)]
    exact files.rooted
  nested q child present := by
    by_cases new : q ++ [child] = p ++ [name]
    · obtain ⟨rfl, -⟩ := List.append_inj' new rfl
      rw [Dict.get?_set_ne _ _ (by simp)]
      exact parent
    · rw [Dict.get?_set_ne _ _ new] at present
      have above := files.nested q child present
      rw [Dict.get?_set_ne]
      · exact above
      · rintro rfl
        exact leaf above
  named q child present := by
    by_cases new : q ++ [child] = p ++ [name]
    · obtain rfl := List.cons.inj (List.append_inj' new rfl).2 |>.1
      exact proper
    · rw [Dict.get?_set_ne _ _ new] at present
      exact files.named q child present

theorem get?_put {files : FileSystem} {p : Path} {name : String} {node : Node} {parent proper leaf} (q : Path) :
    (files.put p name node parent proper leaf).get? q = if q = p ++ [name] then some node else files.get? q :=
  Dict.get?_set _ _ _ _

/-! ### Walking -/

/-- One walk over the components from a directory. `follow` walks what a link points to. A strict walk
fails where something is missing or is no directory; the other one takes what is left as it stands. -/
def walkWith (files : FileSystem) (strict : Bool) (follow : Path → List String → Option Path) :
    Path → List String → Option Path
  | cur, [] => some cur
  | cur, name :: rest =>
    if strict && !(files.get? cur).any Node.isDir then none
    else if name = "" ∨ name = "." then walkWith files strict follow cur rest
    else if name = ".." then walkWith files strict follow cur.dropLast rest
    else
      match files.get? (cur ++ [name]) with
      | some (.link target) =>
        (follow (if isAbsolute target then [] else cur) (components target)).bind fun mid =>
          walkWith files strict follow mid rest
      | some _ => walkWith files strict follow (cur ++ [name]) rest
      | none => if strict then none else walkWith files strict follow (cur ++ [name]) rest

/-- A walk through links nested at most `depth` deep. -/
def walk (files : FileSystem) (strict : Bool) : (depth : Nat) → Path → List String → Option Path
  | 0 => walkWith files strict fun _ _ => none
  | depth + 1 => walkWith files strict (walk files strict depth)

def linkCount (files : FileSystem) : Nat := (files.nodes.entries.filter fun e => e.2.isLink).length

/-- `os.path.realpath`. Links nested deeper than there are links form a loop. -/
def resolve (files : FileSystem) (p : Path) : Option Path := walk files false files.linkCount [] p

/-- Where the system finds the path, if it does. -/
def stat (files : FileSystem) (p : Path) : Option Path := walk files true files.linkCount [] p

def node? (files : FileSystem) (p : Path) : Option Node := (files.stat p).bind files.get?

def pathExists (files : FileSystem) (p : Path) : Bool := (files.node? p).isSome

def isFile (files : FileSystem) (p : Path) : Bool := (files.node? p).any Node.isFile

def isDir (files : FileSystem) (p : Path) : Bool := (files.node? p).any Node.isDir

def isSymlink (files : FileSystem) (p : Path) : Bool :=
  match p.getLast? with
  | none => false
  | some name => (files.stat p.dropLast).any fun dir => (files.get? (dir ++ [name])).any Node.isLink

/-- Everything below a directory, by its path from there. -/
def rglob (files : FileSystem) (p : Path) : List (Path × Node) :=
  match files.stat p with
  | none => []
  | some dir => files.nodes.entries.filterMap fun (q, node) =>
      if dir.isPrefixOf q ∧ q ≠ dir then some (q.drop dir.length, node) else none

/-! ### Changing -/

/-- `os.mkdir`. -/
def mkdir (files : FileSystem) (p : Path) : Except OsError FileSystem :=
  match p.getLast? with
  | none => .error .fileExists
  | some name =>
    match files.stat p.dropLast with
    | none => .error .fileNotFound
    | some dir =>
      if parent : files.get? dir = some .dir then
        -- A name that is no proper one is one of the dots, and a directory is there.
        if new : ProperName name ∧ files.get? (dir ++ [name]) = none then
          .ok (files.put dir name .dir parent new.1 (by simp [new.2]))
        else .error .fileExists
      else .error .notADirectory

/-- `Path.mkdir(exist_ok=True)`. -/
def ensureDir (files : FileSystem) (p : Path) : Except OsError FileSystem :=
  match mkdir files p with
  | .ok made => .ok made
  | .error e => if files.isDir p then .ok files else .error e

/-- `Path.mkdir(parents=True, exist_ok=True)`, with as many parents as the path has names. -/
def makeDirs (files : FileSystem) : (depth : Nat) → Path → Except OsError FileSystem
  | 0, p => ensureDir files p
  | depth + 1, p =>
    match mkdir files p with
    | .error .fileNotFound => do ensureDir (← makeDirs files depth p.dropLast) p
    | _ => ensureDir files p

/-- Opening a path for writing, and writing it. A link to nothing is written through. -/
def writeBytes (files : FileSystem) (p : Path) (bytes : ByteArray) : Except OsError FileSystem :=
  match files.resolve p with
  | none => .error .fileNotFound
  | some location =>
    match location.getLast? with
    | none => .error .isADirectory
    | some name =>
      if parent : files.get? location.dropLast = some .dir then
        if proper : ProperName name then
          if leaf : files.get? (location.dropLast ++ [name]) ≠ some .dir then
            .ok (files.put location.dropLast name (.file bytes) parent proper leaf)
          else .error .isADirectory
        else .error .fileNotFound
      else .error .fileNotFound

/-! ### Locations -/

/-- A path of real names that meets no link. -/
def IsLocation (files : FileSystem) (p : Path) : Prop :=
  ∀ q name, q ++ [name] <+: p →
    (name ≠ "" ∧ name ≠ "." ∧ name ≠ "..") ∧ ∀ target, files.get? (q ++ [name]) ≠ some (.link target)

variable {files : FileSystem}

theorem isLocation_nil : files.IsLocation [] := by
  intro q name start
  simp at start

theorem IsLocation.of_prefix {p q : Path} (location : files.IsLocation p) (start : q <+: p) : files.IsLocation q :=
  fun q' name start' => location q' name (start'.trans start)

theorem IsLocation.concat {p : Path} {name : String} (location : files.IsLocation p)
    (real : name ≠ "" ∧ name ≠ "." ∧ name ≠ "..") (plain : ∀ target, files.get? (p ++ [name]) ≠ some (.link target)) :
    files.IsLocation (p ++ [name]) := by
  intro q child start
  rcases List.prefix_concat_iff.mp start with whole | within
  · obtain ⟨rfl, last⟩ := List.append_inj' whole rfl
    obtain rfl := List.cons.inj last |>.1
    exact ⟨real, plain⟩
  · exact location q child within

/-- A prefix of two paths joined ends in the first, or goes on into the second. -/
theorem concat_prefix_append {p q r : Path} {name : String} (start : q ++ [name] <+: p ++ r) :
    q ++ [name] <+: p ∨ ∃ s, q = p ++ s ∧ s ++ [name] <+: r := by
  rcases List.prefix_or_prefix_of_prefix start (List.prefix_append p r) with within | ⟨rest, split⟩
  · exact Or.inl within
  · induction rest using List.reverseRecOn with
    | nil => exact Or.inl (by simp [← split])
    | append_singleton rest last _ =>
      rw [← List.append_assoc] at split
      obtain ⟨rfl, same⟩ := List.append_inj' split rfl
      obtain rfl := List.cons.inj same |>.1
      rw [List.append_assoc, List.prefix_append_right_inj] at start
      exact Or.inr ⟨rest, rfl, start⟩

theorem dir_above {p q : Path} (below : q ≠ []) (present : (files.get? (p ++ q)).isSome) : files.get? p = some .dir := by
  induction q using List.reverseRecOn with
  | nil => exact absurd rfl below
  | append_singleton q name ih =>
    rw [← List.append_assoc] at present
    have above := files.nested _ _ present
    by_cases last : q = []
    · subst last
      rwa [List.append_nil] at above
    · exact ih last (by rw [FileSystem.get?, above]; rfl)

theorem proper_of_present {p : Path} (present : (files.get? p).isSome) : ∀ name ∈ p, ProperName name := by
  intro name member
  obtain ⟨before, after, rfl⟩ := List.append_of_mem member
  have here : (files.get? (before ++ [name])).isSome := by
    by_cases last : after = []
    · subst last
      exact present
    · have above := dir_above (p := before ++ [name]) last (by simpa using present)
      rw [above]
      rfl
  exact files.named _ _ here

/-! ### What walks do -/

section Walks

variable {strict : Bool} {follow : Path → List String → Option Path}

theorem walkWith_append (cur : Path) (xs ys : List String) : walkWith files strict follow cur (xs ++ ys) =
    (walkWith files strict follow cur xs).bind fun mid => walkWith files strict follow mid ys := by
  induction xs generalizing cur with
  | nil => rfl
  | cons name xs ih =>
    rw [List.cons_append, walkWith, walkWith]
    split
    · rfl
    · split
      · exact ih cur
      · split
        · exact ih _
        · split
          · rw [Option.bind_assoc]
            exact congrArg _ (funext ih)
          · exact ih _
          · split
            · rfl
            · exact ih _

theorem walkWith_location {cur rest : Path} (location : files.IsLocation (cur ++ rest)) :
    walkWith files false follow cur rest = some (cur ++ rest) := by
  induction rest generalizing cur with
  | nil => simp [walkWith]
  | cons name rest ih =>
    rw [List.append_cons] at location ⊢
    obtain ⟨⟨nonempty, notDot, notDotDot⟩, plain⟩ := location cur name (List.prefix_append _ _)
    rw [walkWith, if_neg (by simp), if_neg (by simp [nonempty, notDot]), if_neg notDotDot]
    split
    · rename_i target found
      exact absurd found (plain target)
    · exact ih location
    · exact ih location

theorem location_walkWith (safe : ∀ cur rest r, files.IsLocation cur → follow cur rest = some r → files.IsLocation r)
    {cur r : Path} {rest : List String} (location : files.IsLocation cur)
    (walked : walkWith files strict follow cur rest = some r) : files.IsLocation r := by
  induction rest generalizing cur with
  | nil => exact Option.some.inj walked ▸ location
  | cons name rest ih =>
    rw [walkWith] at walked
    split at walked
    · simp at walked
    · split at walked
      · exact ih location walked
      · rename_i real
        split at walked
        · exact ih (location.of_prefix (List.dropLast_prefix cur)) walked
        · rename_i notUp
          obtain ⟨nonempty, notDot⟩ := not_or.mp real
          split at walked
          · obtain ⟨mid, followed, onward⟩ := Option.bind_eq_some_iff.mp walked
            refine ih (safe _ _ _ ?_ followed) onward
            split
            · exact isLocation_nil
            · exact location
          · rename_i plain found
            refine ih (location.concat ⟨nonempty, notDot, notUp⟩ ?_) walked
            rintro target same
            exact plain target (Option.some.inj (found.symm.trans same))
          · rename_i missing
            split at walked
            · simp at walked
            · refine ih (location.concat ⟨nonempty, notDot, notUp⟩ ?_) walked
              simp [missing]

/-- What a strict walk finds, the other one ends at too. -/
theorem walkWith_loose {follow' : Path → List String → Option Path}
    (loose : ∀ cur rest r, follow cur rest = some r → follow' cur rest = some r) {cur r : Path} {rest : List String}
    (walked : walkWith files true follow cur rest = some r) : walkWith files false follow' cur rest = some r := by
  induction rest generalizing cur with
  | nil => exact walked
  | cons name rest ih =>
    rw [walkWith] at walked ⊢
    rw [if_neg (by simp)]
    split at walked
    · simp at walked
    · split at walked
      · rename_i dot
        rw [if_pos dot]
        exact ih walked
      · rename_i real
        rw [if_neg real]
        split at walked
        · rename_i up
          rw [if_pos up]
          exact ih walked
        · rename_i notUp
          rw [if_neg notUp]
          split at walked
          · rename_i target found
            obtain ⟨mid, followed, onward⟩ := Option.bind_eq_some_iff.mp walked
            rw [loose _ _ _ followed]
            exact ih onward
          · exact ih walked
          · simp at walked

theorem walkWith_present {cur rest : Path} (location : files.IsLocation (cur ++ rest))
    (present : (files.get? (cur ++ rest)).isSome) : walkWith files true follow cur rest = some (cur ++ rest) := by
  induction rest generalizing cur with
  | nil => simp [walkWith]
  | cons name rest ih =>
    have dir := dir_above (List.cons_ne_nil name rest) present
    rw [List.append_cons] at location present ⊢
    obtain ⟨⟨nonempty, notDot, notDotDot⟩, plain⟩ := location cur name (List.prefix_append _ _)
    have here : (files.get? (cur ++ [name])).isSome := by
      by_cases last : rest = []
      · subst last
        simpa using present
      · rw [dir_above last present]
        rfl
    rw [walkWith, if_neg (by simp [dir, Node.isDir]), if_neg (by simp [nonempty, notDot]), if_neg notDotDot]
    split
    · rename_i target found
      exact absurd found (plain target)
    · exact ih location present
    · rename_i missing
      simp [missing] at here

end Walks

theorem walk_append {strict : Bool} (depth : Nat) (cur : Path) (xs ys : List String) :
    walk files strict depth cur (xs ++ ys) =
      (walk files strict depth cur xs).bind fun mid => walk files strict depth mid ys := by
  cases depth with
  | zero => exact walkWith_append cur xs ys
  | succ depth => exact walkWith_append cur xs ys

theorem walk_location {depth : Nat} {cur rest : Path} (location : files.IsLocation (cur ++ rest)) :
    walk files false depth cur rest = some (cur ++ rest) := by
  cases depth with
  | zero => exact walkWith_location location
  | succ depth => exact walkWith_location location

theorem location_walk {strict : Bool} {depth : Nat} {cur r : Path} {rest : List String}
    (location : files.IsLocation cur) (walked : walk files strict depth cur rest = some r) : files.IsLocation r := by
  induction depth generalizing cur r rest with
  | zero => exact location_walkWith (by simp) location walked
  | succ depth ih => exact location_walkWith (fun _ _ _ => ih) location walked

theorem walk_loose {depth : Nat} {cur r : Path} {rest : List String} (walked : walk files true depth cur rest = some r) :
    walk files false depth cur rest = some r := by
  induction depth generalizing cur r rest with
  | zero => exact walkWith_loose (by simp) walked
  | succ depth ih => exact walkWith_loose (fun _ _ _ => ih) walked

theorem walk_present {depth : Nat} {cur rest : Path} (location : files.IsLocation (cur ++ rest))
    (present : (files.get? (cur ++ rest)).isSome) : walk files true depth cur rest = some (cur ++ rest) := by
  cases depth with
  | zero => exact walkWith_present location present
  | succ depth => exact walkWith_present location present

/-! ### Resolving and finding -/

section Resolving

variable {p r : Path}

theorem resolve_location (location : files.IsLocation p) : files.resolve p = some p := walk_location location

theorem location_resolve (resolved : files.resolve p = some r) : files.IsLocation r :=
  location_walk isLocation_nil resolved

theorem resolve_append (resolved : files.resolve p = some r) (q : Path) : files.resolve (r ++ q) = files.resolve (p ++ q) := by
  have here := resolve_location (location_resolve resolved)
  unfold resolve at here resolved ⊢
  rw [walk_append, walk_append, here, resolved]

theorem exists_resolve_prefix {q : Path} (resolved : files.resolve (p ++ q) = some r) : ∃ mid, files.resolve p = some mid := by
  rw [resolve, walk_append] at resolved
  obtain ⟨mid, first, -⟩ := Option.bind_eq_some_iff.mp resolved
  exact ⟨mid, first⟩

theorem resolve_of_stat (found : files.stat p = some r) : files.resolve p = some r := walk_loose found

theorem stat_location (location : files.IsLocation p) (present : (files.get? p).isSome) : files.stat p = some p :=
  walk_present location present

theorem node?_location (location : files.IsLocation p) : files.node? p = files.get? p := by
  cases here : files.get? p with
  | some node => rw [node?, stat_location location (by rw [here]; rfl), Option.bind_some, here]
  | none =>
    rw [node?, Option.bind_eq_none_iff]
    intro r found
    obtain rfl := Option.some.inj ((resolve_location location).symm.trans (resolve_of_stat found))
    exact here

theorem node?_eq_some {node : Node} : files.node? p = some node ↔ ∃ r, files.stat p = some r ∧ files.get? r = some node :=
  Option.bind_eq_some_iff

theorem isSymlink_location (location : files.IsLocation p) : files.isSymlink p = false := by
  induction p using List.reverseRecOn with
  | nil => rfl
  | append_singleton p name _ =>
    rw [isSymlink, List.getLast?_concat, List.dropLast_concat, Bool.eq_false_iff]
    intro linked
    obtain ⟨dir, found, isLink⟩ := Option.any_eq_true _ _ |>.mp linked
    have above := location.of_prefix (List.prefix_append p [name])
    obtain rfl := Option.some.inj ((resolve_location above).symm.trans (resolve_of_stat found))
    obtain ⟨node, here, kind⟩ := Option.any_eq_true _ _ |>.mp isLink
    cases node with
    | link target => exact (location p name (List.prefix_refl _)).2 target here
    | _ => simp [Node.isLink] at kind

theorem mem_rglob (location : files.IsLocation p) (present : (files.get? p).isSome) {q : Path} {node : Node} :
    (q, node) ∈ files.rglob p ↔ q ≠ [] ∧ files.get? (p ++ q) = some node := by
  simp only [rglob, stat_location location present, List.mem_filterMap, Prod.exists, Option.ite_none_right_eq_some,
    Option.some.injEq, Prod.mk.injEq]
  constructor
  · rintro ⟨k, node', listed, ⟨start, other⟩, rfl, rfl⟩
    obtain ⟨q, rfl⟩ := List.isPrefixOf_iff_prefix.mp start
    rw [List.drop_left]
    refine ⟨?_, Dict.mem_entries_iff.mp listed⟩
    rintro rfl
    exact other (List.append_nil p)
  · rintro ⟨nonempty, here⟩
    refine ⟨p ++ q, node, Dict.mem_entries_iff.mpr here, ⟨?_, ?_⟩, List.drop_left, rfl⟩
    · exact List.isPrefixOf_iff_prefix.mpr (List.prefix_append p q)
    · simpa using nonempty

theorem rglob_nodup (p : Path) : ((files.rglob p).map Prod.fst).Nodup := by
  unfold rglob
  cases files.stat p with
  | none => exact List.nodup_nil
  | some dir =>
    have keys : (files.nodes.entries.filterMap fun (q, node) =>
        if dir.isPrefixOf q ∧ q ≠ dir then some (q.drop dir.length, node) else none).map Prod.fst =
        files.nodes.keys.filterMap fun q => if dir.isPrefixOf q ∧ q ≠ dir then some (q.drop dir.length) else none := by
      rw [Dict.keys, List.map_filterMap, List.filterMap_map]
      refine List.filterMap_congr fun e _ => ?_
      obtain ⟨q, node⟩ := e
      by_cases below : dir.isPrefixOf q ∧ q ≠ dir
      · simp only [Function.comp_apply, if_pos below, Option.map_some]
      · simp only [Function.comp_apply, if_neg below, Option.map_none]
    simp only at keys ⊢
    rw [keys]
    refine List.Nodup.filterMap ?_ files.nodes.keys_nodup
    intro q q' rest left right
    simp only [Option.mem_def, Option.ite_none_right_eq_some, Option.some.injEq] at left right
    obtain ⟨⟨start, -⟩, rfl⟩ := left
    obtain ⟨⟨start', -⟩, same⟩ := right
    obtain ⟨a, rfl⟩ := List.isPrefixOf_iff_prefix.mp start
    obtain ⟨b, rfl⟩ := List.isPrefixOf_iff_prefix.mp start'
    rw [List.drop_left, List.drop_left] at same
    rw [same]

end Resolving

end FileSystem

end AgentGym.Files
