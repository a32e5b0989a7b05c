import AgentGym.Runner.Executor

/-!
# Declared capabilities

A package gets the tools whose capability is granted to the task and declared by the package.
Declaring more gives no fewer tools, but a package that declares nothing gets whatever is
granted.
-/

namespace AgentGym.Runner

open AgentGym.Runtime Steps

/-! ### Names that are offered -/

/-- Whether tools of that name are given out. -/
def offersName (granted declared : List String) (name : String) : Bool :=
  match requiredCapability name with
  | some required => (effective granted declared).contains required
  | none => true

theorem mem_effective {granted declared : List String} (declares : declared ≠ []) {capability : String} :
    capability ∈ effective granted declared ↔ capability ∈ granted ∧ capability ∈ declared := by
  have some_ : declared.isEmpty = false := by simpa using declares
  simp [effective, some_]

theorem effective_granted {granted declared : List String} {capability : String}
    (member : capability ∈ effective granted declared) : capability ∈ granted := by
  unfold effective at member
  split at member
  · exact member
  · exact (List.mem_filter.mp member).1

theorem offersName_iff {granted declared : List String} {name : String} :
    offersName granted declared name = true ↔
      ∀ capability, requiredCapability name = some capability → capability ∈ effective granted declared := by
  unfold offersName
  cases requiredCapability name <;> simp

section Built

variable {ω : Type} (tools : List (RawTool ω)) (granted declared : List String) (worldUrl actorId : String)
  (afterSuccess : String → Dict String Json → ToolResult → Exec ω Unit)

def toolFunction (tool : RawTool ω) : String × (String → String → Dict String Json → Steps String ω Json) :=
  (tool.description.name, tool.fn)

theorem functions_get? (name : String) :
    (buildExecutor tools declared granted worldUrl actorId afterSuccess).functions.get? name =
      if offersName granted declared name then (Dict.empty.update (tools.map toolFunction)).get? name else none := by
  have given : (tools.filter (offered granted declared)).map toolFunction =
      (tools.map toolFunction).filter fun e => offersName granted declared e.1 := by
    rw [List.filter_map]
    rfl
  show (Dict.empty.update ((tools.filter (offered granted declared)).map toolFunction)).get? name = _
  rw [given]
  by_cases offers : offersName granted declared name = true
  · rw [if_pos offers, Dict.get?_update_filter offers]
  · rw [if_neg offers, Dict.get?_update_of_not_mem]
    · rfl
    · intro listed
      obtain ⟨e, kept, rfl⟩ := List.mem_map.mp listed
      exact offers (List.mem_filter.mp kept).2

theorem mem_descriptions {d : ToolDescription} :
    d ∈ (buildExecutor tools declared granted worldUrl actorId afterSuccess).descriptions ↔
      offersName granted declared d.name = true ∧ ∃ tool ∈ tools, tool.description = d := by
  show d ∈ (tools.filter (offered granted declared)).map RawTool.description ↔ _
  rw [List.mem_map]
  constructor
  · rintro ⟨tool, kept, rfl⟩
    obtain ⟨member, offers⟩ := List.mem_filter.mp kept
    exact ⟨offers, tool, member, rfl⟩
  · rintro ⟨offers, tool, member, rfl⟩
    exact ⟨tool, List.mem_filter.mpr ⟨member, offers⟩, rfl⟩

/-- A tool that is described or can be called. -/
def Executor.Exposes (x : Executor ω) (name : String) : Prop :=
  (∃ d ∈ x.descriptions, d.name = name) ∨ (x.functions.get? name).isSome

/-- What is exposed is a tool that is offered, and is both described and callable. -/
theorem exposes_iff {name : String} :
    (buildExecutor tools declared granted worldUrl actorId afterSuccess).Exposes name ↔
      offersName granted declared name = true ∧ ∃ tool ∈ tools, tool.description.name = name := by
  constructor
  · rintro (⟨d, described, rfl⟩ | callable)
    · obtain ⟨offers, tool, member, rfl⟩ := (mem_descriptions ..).mp described
      exact ⟨offers, tool, member, rfl⟩
    · rw [functions_get?] at callable
      split at callable
      · rename_i offers
        obtain ⟨function, found⟩ := Option.isSome_iff_exists.mp callable
        rcases Dict.get?_update_eq_some found with absent | listed
        · cases absent
        · obtain ⟨tool, member, same⟩ := List.mem_map.mp listed
          exact ⟨offers, tool, member, (Prod.mk.inj same).1⟩
      · cases callable
  · rintro ⟨offers, tool, member, rfl⟩
    exact Or.inl ⟨_, (mem_descriptions ..).mpr ⟨offers, tool, member, rfl⟩, rfl⟩

theorem callable_of_offered {name : String} (offers : offersName granted declared name = true) {tool : RawTool ω}
    (member : tool ∈ tools) (named : tool.description.name = name) :
    ((buildExecutor tools declared granted worldUrl actorId afterSuccess).functions.get? name).isSome := by
  rw [functions_get?, if_pos offers]
  refine Dict.get?_update_isSome ?_ _
  rw [List.map_map]
  exact List.mem_map.mpr ⟨tool, member, named⟩

/-! ### The boundary -/

/-- The declaration `declared` bounds the tools: no tool is lost by declaring `declared'`, none needs what is not
declared and granted, and nothing else runs. -/
structure Bounded [PyText] (declared' : List String) : Prop where
  described : ∀ d ∈ (buildExecutor tools declared granted worldUrl actorId afterSuccess).descriptions,
    d ∈ (buildExecutor tools declared' granted worldUrl actorId afterSuccess).descriptions ∧
      ((buildExecutor tools declared' granted worldUrl actorId afterSuccess).functions.get? d.name).isSome
  callable : ∀ name function,
    (buildExecutor tools declared granted worldUrl actorId afterSuccess).functions.get? name = some function →
    (buildExecutor tools declared' granted worldUrl actorId afterSuccess).functions.get? name = some function ∧
      ∃ d ∈ (buildExecutor tools declared' granted worldUrl actorId afterSuccess).descriptions, d.name = name
  needed : ∀ name capability, (buildExecutor tools declared granted worldUrl actorId afterSuccess).Exposes name →
    requiredCapability name = some capability → capability ∈ declared ∧ capability ∈ granted
  refused : ∀ name, ¬ (buildExecutor tools declared granted worldUrl actorId afterSuccess).Exposes name → ∀ args s,
    outcome ((buildExecutor tools declared granted worldUrl actorId afterSuccess).execute name args) s =
      (.ok ⟨.obj [("error", .str s!"unknown tool: {name}")], true, "unknown tool"⟩, s)

variable {tools granted declared worldUrl actorId afterSuccess}

theorem execute_unexposed [PyText] {x : Executor ω} {name : String} (unexposed : ¬ x.Exposes name)
    (args : Dict String Json) (s : ExecutorState ω) : outcome (x.execute name args) s =
      (.ok ⟨.obj [("error", .str s!"unknown tool: {name}")], true, "unknown tool"⟩, s) := by
  have absent : x.functions.get? name = none := by
    rw [← Option.not_isSome_iff_eq_none]
    exact fun callable => unexposed (Or.inr callable)
  simp only [Executor.execute, absent, outcome_pure]

/-- More is offered to those who declare more, if they declare anything. -/
theorem bounded_of_offers [PyText] {declared' : List String}
    (more : ∀ tool ∈ tools, offersName granted declared tool.description.name = true →
      offersName granted declared' tool.description.name = true)
    (needs : ∀ tool ∈ tools, offersName granted declared tool.description.name = true → ∀ capability,
      requiredCapability tool.description.name = some capability → capability ∈ declared ∧ capability ∈ granted) :
    Bounded tools granted declared worldUrl actorId afterSuccess declared' where
  described d described := by
    obtain ⟨offers, tool, member, rfl⟩ := (mem_descriptions ..).mp described
    exact ⟨(mem_descriptions ..).mpr ⟨more tool member offers, tool, member, rfl⟩,
      callable_of_offered _ _ _ _ _ _ (more tool member offers) member rfl⟩
  callable name function found := by
    obtain ⟨offers, tool, member, rfl⟩ := (exposes_iff ..).mp (Or.inr (by rw [found]; rfl))
    rw [functions_get?, if_pos offers] at found
    rw [functions_get?, if_pos (more tool member offers)]
    exact ⟨found, _, (mem_descriptions ..).mpr ⟨more tool member offers, tool, member, rfl⟩, rfl⟩
  needed name capability exposed required := by
    obtain ⟨offers, tool, member, rfl⟩ := (exposes_iff ..).mp exposed
    exact needs tool member offers capability required
  refused _ unexposed := execute_unexposed unexposed

/-- The declaration bounds the tools unless it is empty and some tool needs a capability that is granted. -/
theorem bounded_iff [PyText] {declared' : List String} (within : declared ⊆ declared') :
    Bounded tools granted declared worldUrl actorId afterSuccess declared' ↔
      declared ≠ [] ∨ ∀ tool ∈ tools, ∀ capability, requiredCapability tool.description.name = some capability →
        capability ∉ granted := by
  constructor
  · intro bounded
    by_cases declares : declared = []
    · subst declares
      refine Or.inr fun tool member capability required holds => ?_
      have offers : offersName granted [] tool.description.name = true := by
        rw [offersName_iff]
        intro other same
        obtain rfl := Option.some.inj (required.symm.trans same)
        exact holds
      have exposed := (exposes_iff tools granted [] worldUrl actorId afterSuccess).mpr ⟨offers, tool, member, rfl⟩
      exact absurd (bounded.needed _ _ exposed required).1 List.not_mem_nil
    · exact Or.inl declares
  · rintro (declares | nothing)
    · have declares' : declared' ≠ [] := by
        rintro rfl
        exact declares (List.subset_nil.mp within)
      have both : ∀ {name}, offersName granted declared name = true → ∀ capability,
          requiredCapability name = some capability → capability ∈ granted ∧ capability ∈ declared := fun offers capability required =>
        (mem_effective declares).mp (offersName_iff.mp offers capability required)
      refine bounded_of_offers (fun tool _ offers => ?_) fun tool _ offers capability required => (both offers capability required).symm
      rw [offersName_iff]
      intro capability required
      obtain ⟨isGranted, isDeclared⟩ := both offers capability required
      exact (mem_effective declares').mpr ⟨isGranted, within isDeclared⟩
    · -- No tool that needs a capability is offered to anyone.
      have free : ∀ tool ∈ tools, offersName granted declared tool.description.name = true →
          requiredCapability tool.description.name = none := by
        intro tool member offers
        cases required : requiredCapability tool.description.name with
        | none => rfl
        | some capability =>
          exact absurd (effective_granted (offersName_iff.mp offers capability required)) (nothing tool member capability required)
      refine bounded_of_offers (fun tool member offers => ?_) fun tool member offers capability required => ?_
      · rw [offersName_iff, free tool member offers]
        exact fun _ same => nomatch same
      · rw [free tool member offers] at required
        cases required

end Built

/-! ### A server with one tool -/

def updateTool : RawTool Unit := ⟨⟨"update_page", "", .obj []⟩, fun _ _ _ => pure .null⟩

def noHook : String → Dict String Json → ToolResult → Exec Unit Unit := fun _ _ _ => pure ()

theorem bounded_search :
    @Bounded Unit [updateTool] ["confluence.pages.write"] ["confluence.search"] "" "" noHook asciiText
      ["confluence.search", "confluence.pages.write"] :=
  (@bounded_iff Unit _ _ _ _ _ _ asciiText _ (by simp)).mpr (Or.inl (by simp))

/-- A package that declares nothing may write; once it declares that it searches, it may not. -/
theorem undeclared_write :
    (buildExecutor [updateTool] [] ["confluence.pages.write"] "" "" noHook).Exposes "update_page" ∧
    ¬ (buildExecutor [updateTool] ["confluence.search"] ["confluence.pages.write"] "" "" noHook).Exposes "update_page" ∧
    ¬ @Bounded Unit [updateTool] ["confluence.pages.write"] [] "" "" noHook asciiText ["confluence.search"] := by
  refine ⟨?_, ?_, ?_⟩
  · rw [exposes_iff]
    exact ⟨by decide, updateTool, by simp, rfl⟩
  · rw [exposes_iff]
    exact fun exposed => absurd exposed.1 (by decide)
  · rw [@bounded_iff Unit _ _ _ _ _ _ asciiText _ (List.nil_subset _)]
    rintro (declares | nothing)
    · exact declares rfl
    · exact nothing updateTool (by simp) "confluence.pages.write" rfl (by simp)

end AgentGym.Runner
