import AgentGym.Lib.Files

/-!
# Changes to a file system

Paths lead where they led as long as the links stay: what is added or rewritten elsewhere
does not move them. Making a directory that is there changes nothing.
-/

namespace AgentGym.Files.FileSystem

variable {files files' : FileSystem}

def SameLinks (files files' : FileSystem) : Prop :=
  ∀ p target, files.get? p = some (.link target) ↔ files'.get? p = some (.link target)

theorem SameLinks.refl (files : FileSystem) : SameLinks files files := fun _ _ => Iff.rfl

theorem SameLinks.trans {files'' : FileSystem} (first : SameLinks files files') (second : SameLinks files' files'') :
    SameLinks files files'' := fun p target => (first p target).trans (second p target)

theorem linkCount_congr (same : SameLinks files files') : files.linkCount = files'.linkCount := by
  have nodup : ∀ files : FileSystem, (files.nodes.entries.filter fun e => e.2.isLink).Nodup := fun files =>
    (List.Nodup.of_map Prod.fst files.nodes.nodup).filter _
  refine List.Perm.length_eq ((List.perm_ext_iff_of_nodup (nodup files) (nodup files')).mpr ?_)
  rintro ⟨p, node⟩
  simp only [List.mem_filter, Dict.mem_entries_iff]
  cases node with
  | link target => exact and_congr_left fun _ => same p target
  | _ => simp [Node.isLink]

theorem walkWith_congr (same : SameLinks files files') {follow : Path → List String → Option Path} (cur : Path)
    (rest : List String) : walkWith files false follow cur rest = walkWith files' false follow cur rest := by
  induction rest generalizing cur with
  | nil => rfl
  | cons name rest ih =>
    have links := same (cur ++ [name])
    simp only [walkWith, Bool.false_and, Bool.false_eq_true, if_false]
    by_cases dot : name = "" ∨ name = "."
    · rw [if_pos dot, if_pos dot]
      exact ih cur
    · rw [if_neg dot, if_neg dot]
      by_cases up : name = ".."
      · rw [if_pos up, if_pos up]
        exact ih _
      · rw [if_neg up, if_neg up]
        split
        · rename_i target found
          rw [(links target).mp found]
          exact congrArg _ (funext ih)
        · rename_i plain found
          split
          · rename_i target found'
            rw [(links target).mpr found'] at found
            exact absurd (Option.some.inj found).symm (plain target)
          · exact ih _
          · exact ih _
        · rename_i missing
          split
          · rename_i target found'
            simp [(links target).mpr found'] at missing
          · exact ih _
          · exact ih _

theorem resolve_congr (same : SameLinks files files') (p : Path) : files.resolve p = files'.resolve p := by
  have walks : ∀ depth, walk files false depth = walk files' false depth := by
    intro depth
    induction depth with
    | zero => exact funext fun cur => funext fun rest => walkWith_congr same cur rest
    | succ depth ih =>
      funext cur rest
      show walkWith files false (walk files false depth) cur rest = walkWith files' false (walk files' false depth) cur rest
      rw [ih, walkWith_congr same]
  rw [resolve, resolve, linkCount_congr same, walks]

/-- Links stay, directories stay directories, and nothing disappears. -/
structure Grows (files files' : FileSystem) : Prop where
  links : SameLinks files files'
  dirs : ∀ p, files.get? p = some .dir → files'.get? p = some .dir
  present : ∀ p, (files.get? p).isSome → (files'.get? p).isSome

theorem Grows.refl (files : FileSystem) : Grows files files := ⟨.refl files, fun _ => id, fun _ => id⟩

theorem Grows.trans {files'' : FileSystem} (first : Grows files files') (second : Grows files' files'') : Grows files files'' :=
  ⟨first.links.trans second.links, fun p dir => second.dirs p (first.dirs p dir),
    fun p here => second.present p (first.present p here)⟩

theorem walkWith_grows (grows : Grows files files') {follow follow' : Path → List String → Option Path}
    (later : ∀ cur rest r, follow cur rest = some r → follow' cur rest = some r) {cur r : Path} {rest : List String}
    (walked : walkWith files true follow cur rest = some r) : walkWith files' true follow' cur rest = some r := by
  induction rest generalizing cur with
  | nil => exact walked
  | cons name rest ih =>
    rw [walkWith] at walked ⊢
    split at walked
    · simp at walked
    · rename_i inDir
      have dir : files.get? cur = some .dir := by
        cases here : files.get? cur with
        | none => simp [here] at inDir
        | some node => cases node <;> simp_all [Node.isDir]
      rw [if_neg (by simp [grows.dirs cur dir, Node.isDir])]
      split at walked
      · rename_i dot
        rw [if_pos dot]
        exact ih walked
      · rename_i notDot
        rw [if_neg notDot]
        split at walked
        · rename_i up
          rw [if_pos up]
          exact ih walked
        · rename_i notUp
          rw [if_neg notUp]
          split at walked
          · rename_i target found
            rw [(grows.links _ target).mp found]
            obtain ⟨mid, followed, onward⟩ := Option.bind_eq_some_iff.mp walked
            simp only [later _ _ _ followed, Option.bind_some]
            exact ih onward
          · rename_i plain found
            have still := grows.present (cur ++ [name]) (by rw [found]; rfl)
            split
            · rename_i target found'
              rw [(grows.links _ target).mpr found'] at found
              exact absurd (Option.some.inj found).symm (plain target)
            · exact ih walked
            · rename_i missing
              simp [missing] at still
          · simp at walked

theorem stat_grows (grows : Grows files files') {p r : Path} (found : files.stat p = some r) : files'.stat p = some r := by
  have walks : ∀ depth cur rest r, walk files true depth cur rest = some r → walk files' true depth cur rest = some r := by
    intro depth
    induction depth with
    | zero => exact fun _ _ _ => walkWith_grows grows (by simp)
    | succ depth ih => exact fun _ _ _ => walkWith_grows grows ih
  rw [stat, ← linkCount_congr grows.links]
  exact walks _ _ _ _ found

/-! ### Making and writing -/

/-- One path holds something else now. -/
structure Changed (files files' : FileSystem) (p : Path) (node : Node) : Prop where
  there : files'.get? p = some node
  elsewhere : ∀ q, q ≠ p → files'.get? q = files.get? q

theorem Changed.unchanged {p : Path} {node : Node} (here : files.get? p = some node) : Changed files files p node :=
  ⟨here, fun _ _ => rfl⟩

theorem Changed.grows {p : Path} {node : Node} (changed : Changed files files' p node) (plain : node.isLink = false)
    (was : ∀ target, files.get? p ≠ some (.link target)) (stays : files.get? p = some .dir → node = .dir) :
    Grows files files' := by
  refine ⟨?_, ?_, ?_⟩
  · intro q target
    by_cases here : q = p
    · subst here
      rw [changed.there]
      constructor
      · exact fun found => absurd found (was target)
      · intro found
        rw [Option.some.inj found] at plain
        simp [Node.isLink] at plain
    · rw [changed.elsewhere q here]
  · intro q dir
    by_cases here : q = p
    · subst here
      rw [changed.there, stays dir]
    · rwa [changed.elsewhere q here]
  · intro q present
    by_cases here : q = p
    · rw [here, changed.there]
      rfl
    · rwa [changed.elsewhere q here]

theorem put_changed {p : Path} {name : String} {node : Node} {parent proper leaf} :
    Changed files (files.put p name node parent proper leaf) (p ++ [name]) node :=
  ⟨by rw [get?_put, if_pos rfl], fun q other => by rw [get?_put, if_neg other]⟩

theorem stat_parent {p r : Path} {name : String} (found : files.stat (p ++ [name]) = some r) :
    ∃ dir, files.stat p = some dir ∧ files.get? dir = some .dir ∧ (ProperName name → (files.get? (dir ++ [name])).isSome) := by
  rw [stat, walk_append] at found
  obtain ⟨dir, first, last⟩ := Option.bind_eq_some_iff.mp found
  obtain ⟨follow, step⟩ : ∃ follow, walkWith files true follow dir [name] = some r := by
    generalize files.linkCount = depth at last
    cases depth with
    | zero => exact ⟨_, last⟩
    | succ depth => exact ⟨_, last⟩
  refine ⟨dir, first, ?_, ?_⟩
  · rw [walkWith] at step
    split at step
    · simp at step
    · rename_i inDir
      cases here : files.get? dir with
      | none => simp [here] at inDir
      | some node => cases node <;> simp_all [Node.isDir]
  · intro proper
    rw [walkWith] at step
    split at step
    · simp at step
    · rw [if_neg (by simp [proper.nonempty, proper.notDot]), if_neg proper.notDotDot] at step
      cases here : files.get? (dir ++ [name]) with
      | none => simp [here] at step
      | some node => rfl

theorem mkdir_existing {p r : Path} (found : files.stat p = some r) : files.mkdir p = .error .fileExists := by
  induction p using List.reverseRecOn with
  | nil => rfl
  | append_singleton p name _ =>
    obtain ⟨dir, above, isDir, here⟩ := stat_parent found
    have taken : ¬ (ProperName name ∧ files.get? (dir ++ [name]) = none) := fun new => by simpa [new.2] using here new.1
    simp only [mkdir, List.getLast?_concat, List.dropLast_concat, above, dif_pos isDir, dif_neg taken]

theorem ensureDir_existing {p : Path} (directory : files.isDir p = true) : files.ensureDir p = .ok files := by
  obtain ⟨node, here, -⟩ := Option.any_eq_true _ _ |>.mp directory
  obtain ⟨r, found, -⟩ := node?_eq_some.mp here
  simp only [ensureDir, mkdir_existing found, directory, if_true]

theorem makeDirs_existing {p : Path} (directory : files.isDir p = true) (depth : Nat) :
    files.makeDirs depth p = .ok files := by
  obtain ⟨node, here, -⟩ := Option.any_eq_true _ _ |>.mp directory
  obtain ⟨r, found, -⟩ := node?_eq_some.mp here
  cases depth with
  | zero => exact ensureDir_existing directory
  | succ depth => simp only [makeDirs, mkdir_existing found, ensureDir_existing directory]

theorem stat_child {p dir : Path} {name : String} {node : Node} (found : files.stat p = some dir)
    (here : files.get? (dir ++ [name]) = some node) (plain : node.isLink = false) :
    files.stat (p ++ [name]) = some (dir ++ [name]) := by
  have proper := files.named dir name (by rw [← get?, here]; rfl)
  have location : files.IsLocation (dir ++ [name]) := by
    refine (location_resolve (resolve_of_stat found)).concat ⟨proper.nonempty, proper.notDot, proper.notDotDot⟩ ?_
    intro target linked
    rw [Option.some.inj (here.symm.trans linked)] at plain
    simp [Node.isLink] at plain
  rw [stat] at found ⊢
  rw [walk_append, found]
  exact walk_present location (by rw [here]; rfl)

theorem ensureDir_child {p dir : Path} {name : String} (found : files.stat p = some dir) (parent : files.get? dir = some .dir)
    (proper : ProperName name) (room : files.get? (dir ++ [name]) = none ∨ files.get? (dir ++ [name]) = some .dir) :
    ∃ files', files.ensureDir (p ++ [name]) = .ok files' ∧ Changed files files' (dir ++ [name]) .dir := by
  rcases room with free | taken
  · refine ⟨files.put dir name .dir parent proper (by simp [free]), ?_, put_changed⟩
    have new : ProperName name ∧ files.get? (dir ++ [name]) = none := ⟨proper, free⟩
    simp only [ensureDir, mkdir, List.getLast?_concat, List.dropLast_concat, found, dif_pos parent, dif_pos new]
  · refine ⟨files, ensureDir_existing ?_, .unchanged taken⟩
    simp [isDir, node?, stat_child found taken rfl, taken, Node.isDir]

theorem writeBytes_child {p dir : Path} {name : String} (bytes : ByteArray) (found : files.resolve p = some dir)
    (parent : files.get? dir = some .dir) (proper : ProperName name)
    (room : ∀ target, files.get? (dir ++ [name]) ≠ some (.link target)) (leaf : files.get? (dir ++ [name]) ≠ some .dir) :
    ∃ files', files.writeBytes (p ++ [name]) bytes = .ok files' ∧ Changed files files' (dir ++ [name]) (.file bytes) := by
  have location := (location_resolve found).concat ⟨proper.nonempty, proper.notDot, proper.notDotDot⟩ room
  have resolved : files.resolve (p ++ [name]) = some (dir ++ [name]) :=
    (resolve_append found [name]).symm.trans (resolve_location location)
  refine ⟨files.put dir name (.file bytes) parent proper leaf, ?_, put_changed⟩
  simp only [writeBytes, resolved, List.getLast?_concat, List.dropLast_concat, dif_pos parent, dif_pos proper, dif_pos leaf]

end AgentGym.Files.FileSystem
