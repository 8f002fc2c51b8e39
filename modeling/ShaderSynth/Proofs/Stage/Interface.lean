import ShaderSynth.Proofs.Glsl.Flow
import ShaderSynth.Proofs.Linker

/-!
# Interfaces between stages

The values that a stage declares at one of its boundaries, under the names
that they have there.  What a stage declares to pass on, the next stage
declares to receive, and every way through the stage assigns it before it is
handed on.
-/

namespace ShaderSynth

open Glsl

/-! ## What a stage declares -/

/-- A value as a stage declares it at a boundary. -/
structure Port extends Varying where
  /-- Whether the stage has it of every vertex at once. -/
  array : Bool
deriving DecidableEq

/-- A value of one vertex, as a stage receives it that sees several. -/
def Port.gathered (port : Port) : Port :=
  { port with array := true }

/-- The values that an item declares at a boundary. -/
def Glsl.Item.boundary (direction : Direction) (names : String → String) :
    Item → List Port
  | .varying interpolation declared type name array =>
      if declared = direction then
        [⟨⟨interpolation, type, names name⟩, array⟩]
      else []
  | _ => []

/-- Whether an item declares nothing at a boundary. -/
def Glsl.Item.interior : Item → Bool
  | .varying _ _ _ _ _ => false
  | _ => true

/-- The values that items declare at a boundary. -/
def interfaceFrom (direction : Direction) (names : String → String) :
    List Item → List Port
  | [] => []
  | item :: rest =>
      item.boundary direction names ++
        interfaceFrom direction (item.rename names) rest

/-- The values that a stage declares at a boundary. -/
def interface (direction : Direction) (items : List Item) : List Port :=
  interfaceFrom direction id items

section Boundary

variable {direction : Direction} {names : String → String}

theorem interfaceFrom_append (direction : Direction)
    (names : String → String) (first rest : List Item) :
    interfaceFrom direction names (first ++ rest) =
      interfaceFrom direction names first ++
        interfaceFrom direction (namesAfter names first) rest := by
  induction first generalizing names with
  | nil => rfl
  | cons item others ih =>
      simp only [List.cons_append, interfaceFrom, ih, List.append_assoc]
      rfl

theorem interfaceFrom_interior {items : List Item}
    (interior : ∀ item ∈ items, item.interior) :
    interfaceFrom direction names items = [] := by
  induction items generalizing names with
  | nil => rfl
  | cons item rest ih =>
      have silent : item.boundary direction names = [] := by
        cases item with
        | varying => exact absurd (interior _ (.head _)) Bool.false_ne_true
        | _ => rfl
      rw [interfaceFrom, silent, List.nil_append]
      exact ih fun other member => interior other (.tail _ member)

theorem interfaceFrom_varyingItems (shading : Shading)
    (direction : Direction) (names : String → String) (lead : String)
    (array : Bool) :
    interfaceFrom direction names
        (varyingItems shading direction lead array) =
      (varyings shading).map fun varying =>
        ⟨{ varying with name := names (lead ++ varying.name) }, array⟩ := by
  cases direction <;> rfl

end Boundary

/-- The values at a boundary, under names that start with a lead. -/
def leading (lead : String) (array : Bool) (shading : Shading) : List Port :=
  (varyings shading).map fun varying =>
    ⟨{ varying with name := lead ++ varying.name }, array⟩

/-! ## The boundaries of each stage -/

/-- Texture units declare uniforms only. -/
theorem exists_uniform_of_mem_fetch
    (units : Texture.Units) (unit : Fin 4) {item : Item}
    (member : item ∈ (units.fetch unit).uniforms) :
    ∃ type name count, item = .uniform type name count := by
  unfold Texture.Units.fetch at member
  split at member
  · rename_i mode _
    split at member
    · cases mode with
      | project3D =>
          simp only [Texture.Units.modeFetch, Texture.Units.volumeFetch]
            at member
          split at member <;> cases member
      | bumpEnvMap =>
          simp only [Texture.Units.modeFetch, Texture.Units.bumpFetch,
            List.mem_singleton] at member
          exact ⟨_, _, _, member⟩
      | bumpEnvMapLuminance =>
          simp only [Texture.Units.modeFetch,
            Texture.Units.bumpLuminanceFetch, List.mem_cons,
            List.not_mem_nil, or_false] at member
          rcases member with same | same | same <;> exact ⟨_, _, _, same⟩
      | _ => cases member
    · cases member
  · cases member

theorem exists_uniform_of_mem_items
    (units : Texture.Units) (unit : Fin 4) {item : Item}
    (member : item ∈ units.items unit) :
    ∃ type name count, item = .uniform type name count := by
  simp only [Texture.Units.items, List.mem_append, List.mem_singleton]
    at member
  rcases member with (fetched | same) | sampled
  · exact exists_uniform_of_mem_fetch units unit fetched
  · exact ⟨_, _, _, same⟩
  · split at sampled
    · exact ⟨_, _, _, List.mem_singleton.mp sampled⟩
    · cases sampled

theorem interface_fragment (state : PixelState) (shading : Shading) :
    interface .input (Fragment.source state shading) =
      leading "" false shading := by
  have declared :
      interfaceFrom .input id
          ([.version, .blank] ++ varyingItems shading .input "" false) =
        leading "" false shading := by
    rw [interfaceFrom_append, interfaceFrom_varyingItems]
    rfl
  have helpers :
      ∀ item ∈ Fragment.signHelpers ++ Fragment.dotHelpers
          ++ Fragment.convolutionHelpers,
        item.interior := by
    decide
  rw [interface, Fragment.source, Fragment.declarations]
  simp only [List.append_assoc]
  rw [← List.append_assoc, interfaceFrom_append, declared,
    interfaceFrom_interior, List.append_nil]
  intro item member
  simp only [List.mem_append, List.mem_flatMap, List.mem_map] at member helpers
  rcases member with
    header | sign | dot | convolution | clip | ⟨unit, _, texture⟩ | test |
      ⟨name, _, rfl⟩ | main
  · revert header
    revert item
    decide
  · exact helpers item (.inl (.inl sign))
  · exact helpers item (.inl (.inr dot))
  · exact helpers item (.inr convolution)
  · rw [List.mem_singleton] at clip
    rw [clip]
    rfl
  · obtain ⟨type, name, count, rfl⟩ :=
      exists_uniform_of_mem_items _ unit texture
    rfl
  · split at test
    · rw [List.mem_singleton] at test
      rw [test]
      rfl
    · cases test
  · rfl
  · rw [List.mem_singleton] at main
    rw [main]
    rfl

theorem interface_geometry_input
    (layout : Geometry.Layout) (shading : Shading) :
    interface .input (layout.source shading) =
      leading vertexLead true shading := by
  cases shading <;> rfl

theorem interface_geometry_output
    (layout : Geometry.Layout) (shading : Shading) :
    interface .output (layout.source shading) =
      leading "" false shading := by
  cases shading <;> rfl

/-! ## The vertex stage -/

namespace Vertex

/-- What the names of passed values start with. -/
def lead (renamed : Bool) : String :=
  if renamed then vertexLead else ""

/-- The names of passed values, with and without a lead. -/
def reserved : List String :=
  (varyings .smooth).map Varying.name
    ++ (varyings .smooth).map fun varying => vertexLead ++ varying.name

/-- The variables of passed values. -/
def outputVariables (renamed : Bool) : List String :=
  (varyings .smooth).map fun varying => lead renamed ++ varying.name

theorem outputVariables_subset (renamed : Bool) :
    outputVariables renamed ⊆ reserved := by
  cases renamed <;> decide

theorem mem_outputVariables {shading : Shading} {varying : Varying}
    (member : varying ∈ varyings shading) (renamed : Bool) :
    lead renamed ++ varying.name ∈ outputVariables renamed := by
  cases shading <;> cases renamed <;> revert varying <;> decide

/-- Whether an item leaves the passed values alone. -/
def quiet : Item → Bool
  | .varying _ _ _ _ _ => false
  | .define head _ replacement =>
      head ∉ reserved ∧ replacement ∉ reserved
  | .function definition => closes reserved 0 definition.body
  | _ => true

section Quiet

variable {items : List Item} (allQuiet : ∀ item ∈ items, quiet item)

include allQuiet

theorem interfaceFrom_quiet (direction : Direction)
    (names : String → String) :
    interfaceFrom direction names items = [] := by
  apply interfaceFrom_interior
  intro item member
  have silent := allQuiet item member
  cases item with
  | varying => exact absurd silent Bool.false_ne_true
  | _ => rfl

theorem namesAfter_quiet (names : String → String) {name : String}
    (member : name ∈ reserved) :
    namesAfter names items name = names name := by
  apply namesAfter_of_absent
  intro item itemMember same
  have silent := allQuiet item itemMember
  cases item with
  | define head width replacement =>
      simp only [Item.head?, Option.some.injEq] at same
      simp only [quiet, decide_eq_true_eq] at silent
      exact silent.1 (same ▸ member)
  | _ => cases same

theorem calm_quiet (renamed : Bool) :
    ∀ item ∈ items, item.calm reserved (outputVariables renamed) := by
  intro item member
  have silent := allQuiet item member
  cases item with
  | define head width replacement =>
      simp only [quiet, decide_eq_true_eq] at silent
      simp only [Item.calm, decide_eq_true_eq]
      exact .inl fun output =>
        silent.2 (outputVariables_subset renamed output)
  | function definition => exact silent
  | _ => rfl

end Quiet

/-- The items of a vertex stage before its main function. -/
theorem exists_sharedItems
    (state : VertexState) (shading : Shading) (renamed : Bool)
    {items : List Item} (allQuiet : ∀ item ∈ items, quiet item) :
    ∃ before after,
      sharedItems state shading renamed ++ items =
          before ++ outputItems shading renamed ++ after ∧
        (∀ item ∈ before, quiet item) ∧ ∀ item ∈ after, quiet item := by
  rw [sharedItems, List.append_assoc _ [Item.blank] items,
    List.append_assoc _ (attributeItems state),
    List.append_assoc _ [Item.blank] (attributeItems state ++ _)]
  refine ⟨_, _, rfl, by decide, ?_⟩
  intro item member
  simp only [List.mem_append, List.mem_singleton, attributeItems,
    List.mem_map] at member
  rcases member with rfl | ⟨number, _, rfl⟩ | rfl | member
  · rfl
  · split <;> rfl
  · rfl
  · exact allQuiet item member

/-- What is renamed is what is passed on. -/
theorem renamedNames_eq (shading : Shading) :
    renamedNames = (varyings shading).map Varying.name := by
  cases shading <;> decide

/-- Definitions that give each name its lead. -/
theorem namesAfter_defines (names : String → String) (heads : List String)
    (name : String) :
    namesAfter names
        (heads.map fun head => .define head 0 (vertexLead ++ head)) name =
      if name ∈ heads then vertexLead ++ name else names name := by
  induction heads generalizing names with
  | nil => rfl
  | cons first rest ih =>
      rw [List.map_cons, namesAfter, List.foldl_cons]
      refine (ih _).trans ?_
      by_cases same : name = first
      · simp [same, Item.rename]
      · simp [same, Item.rename]

theorem namesAfter_outputItems (names : String → String)
    (shading : Shading) (renamed : Bool) {varying : Varying}
    (member : varying ∈ varyings shading)
    (plain : names varying.name = varying.name) :
    namesAfter names (outputItems shading renamed) varying.name =
      lead renamed ++ varying.name := by
  have declared (start : String) :
      namesAfter names (varyingItems shading .output start false) = names :=
    rfl
  cases renamed with
  | false =>
      simp [outputItems, declared, lead, plain]
  | true =>
      have named : varying.name ∈ renamedNames := by
        rw [renamedNames_eq shading]
        exact List.mem_map_of_mem member
      simp only [outputItems, if_true, namesAfter, List.foldl_append]
      refine (namesAfter_defines _ _ _).trans ?_
      rw [if_pos named]
      rfl

theorem interfaceFrom_outputItems (names : String → String)
    (shading : Shading) (renamed : Bool)
    (plain : ∀ name ∈ reserved, names name = name) :
    interfaceFrom .output names (outputItems shading renamed) =
      leading (lead renamed) false shading := by
  have declared :
      interfaceFrom .output names
          (varyingItems shading .output (lead renamed) false) =
        leading (lead renamed) false shading := by
    rw [interfaceFrom_varyingItems]
    apply List.map_congr_left
    intro varying member
    rw [plain _ (outputVariables_subset renamed
      (mem_outputVariables member renamed))]
  cases renamed with
  | false => exact declared
  | true =>
      refine (interfaceFrom_append ..).trans ?_
      rw [show vertexLead = lead true from rfl, declared,
        interfaceFrom_interior, List.append_nil]
      intro item member
      obtain ⟨varying, _, rfl⟩ := List.mem_map.mp member
      rfl

theorem quiet_transform (settings : FixedFunction) :
    ∀ item ∈ Transform.items settings, quiet item := by
  have declarations : ∀ item ∈ Transform.declarations, quiet item := by
    decide
  have lights (number : Nat) (type : LightType) :
      ∀ item ∈ Transform.lightItems number type, quiet item := by
    cases type <;> simp [Transform.lightItems, quiet]
  intro item member
  rw [Transform.items, List.mem_append] at member
  rcases member with declared | lit
  · exact declarations item declared
  · split at lit
    · rw [Transform.lightingItems, List.mem_append] at lit
      rcases lit with material | light
      · split at material
        · rw [List.mem_singleton.mp material]
          rfl
        · cases material
      · obtain ⟨⟨type, number⟩, _, light⟩ := List.mem_flatMap.mp light
        exact lights number type item light
    · cases lit

theorem quiet_microcode :
    ∀ item ∈ Microcode.declarations, quiet item := by
  decide

/-! ## Lines of the two kinds of programs -/

theorem closes_append_zero {first rest : List Line}
    (before : closes reserved 0 first) (after : closes reserved 0 rest) :
    closes reserved 0 (first ++ rest) :=
  closes_append before after

theorem closes_unpackLines (state : VertexState) :
    closes reserved 0 (unpackLines state) := by
  have free : ∀ number < 16, "v" ++ toString number ∉ reserved := by
    decide
  apply closes_flat
  intro line member
  obtain ⟨number, kept, rfl⟩ := List.mem_map.mp member
  have small : number < 16 := List.mem_range.mp (List.mem_filter.mp kept).1
  exact ⟨rfl, decide_eq_true (free number small)⟩

theorem harmless_shader (statement : Microcode.Statement) :
    statement.shader.shape = .stays ∧
      statement.shader.harmless reserved := by
  cases statement with
  | compute operation destination mask inputs =>
      refine ⟨rfl, decide_eq_true ?_⟩
      cases operation with
      | mac opcode => cases opcode <;> decide
      | ilu opcode => cases opcode <;> decide
  | loadAddress staged inputs => exact ⟨rfl, rfl⟩
  | commit register mask => exact ⟨rfl, rfl⟩
  | commitAddress => exact ⟨rfl, rfl⟩

theorem closes_slot (slot : Microcode.Slot) :
    closes reserved 0 slot.lines := by
  apply closes_flat
  intro line member
  simp only [Microcode.Slot.lines, indented, List.cons_append,
    List.mem_cons, List.mem_append, List.mem_map] at member
  rcases member with rfl | ⟨_, ⟨statement, _, rfl⟩, rfl⟩ | rfl | none
  · exact ⟨rfl, rfl⟩
  · exact harmless_shader statement
  · exact ⟨rfl, rfl⟩
  · cases none

theorem closes_epilogue (zPerspective : Bool) :
    ∃ rest,
      Microcode.epilogue zPerspective = inverseWLines ++ rest ∧
        closes reserved 0 rest := by
  rw [Microcode.epilogue]
  cases zPerspective with
  | false => exact ⟨_, by simp only [List.append_assoc]; rfl, by decide⟩
  | true => exact ⟨_, by simp only [List.append_assoc]; rfl, by decide⟩

theorem closes_blend (skinning : Skinning) :
    closes reserved 0 (Transform.Blend.position.lines skinning) ∧
      closes reserved 0 (Transform.Blend.normal.lines skinning) := by
  cases skinning <;> decide

theorem closes_texgenLines (unit coordinate : Nat) (letter plane : String)
    (mode : Texgen) :
    closes reserved 0
      (Transform.texgenLines unit coordinate letter plane mode) := by
  unfold Transform.texgenLines
  split
  · cases mode <;> rfl
  · rfl

theorem closes_lightLines (source : ColorSource) (light : Nat)
    (type : LightType) :
    closes reserved 0 (Transform.lightLines source light type) := by
  cases type <;> rfl

theorem closes_fogDistanceLines (fog : FogState) :
    closes reserved 0 (Transform.fogDistanceLines fog) := by
  unfold Transform.fogDistanceLines
  split
  · cases fog.source <;> rfl
  · rfl

theorem closes_pointLines (state : VertexState) :
    closes reserved 0 (Transform.pointLines state) := by
  simp only [Transform.pointLines]
  split <;> rfl

theorem closes_texgenAllLines (settings : FixedFunction) :
    closes reserved 0 (Transform.texgenAllLines settings) := by
  apply closes_flatMap
  intro ⟨modes, unit⟩ _
  change closes reserved 0 ([_] ++ _)
  apply closes_append_zero rfl
  apply closes_flatMap
  intro ⟨⟨coordinate, letter, plane⟩, mode⟩ _
  exact closes_texgenLines unit coordinate letter plane mode

theorem closes_textureMatrixLines (settings : FixedFunction) :
    closes reserved 0 (Transform.textureMatrixLines settings) := by
  apply closes_flatMap
  intro ⟨enabled, unit⟩ _
  cases enabled <;> rfl

theorem closes_colorLines (settings : FixedFunction) :
    closes reserved 0 (Transform.colorLines settings) := by
  have lit : closes reserved 0 (Transform.lightingLines settings) := by
    apply closes_append_zero rfl
    apply closes_flatMap
    intro ⟨type, light⟩ _
    exact closes_lightLines settings.diffuseSource light type
  apply closes_append_zero _ rfl
  split
  · exact lit
  · rfl

theorem closes_screenLines (skinning : Skinning) :
    closes reserved 0 (Transform.screenLines skinning) := by
  cases skinning <;> rfl

/-- The fixed pipeline ends with the reciprocal depth. -/
theorem closes_transform (state : VertexState) (settings : FixedFunction) :
    ∃ before,
      Transform.lines state settings = before ++ inverseWLines ∧
        closes reserved 0 before := by
  refine ⟨_, rfl, ?_⟩
  have blends := closes_blend settings.skinning
  have normalized :
      closes reserved 0
        (if settings.normalization then
          [⟨0, .set "tNormal" (.call "normalize" "tNormal")⟩] else []) := by
    split <;> rfl
  apply closes_append_zero _ (closes_pointLines state)
  apply closes_append_zero _ (closes_screenLines settings.skinning)
  apply closes_append_zero _ (closes_fogDistanceLines state.fog)
  apply closes_append_zero _ (closes_colorLines settings)
  apply closes_append_zero _ (closes_textureMatrixLines settings)
  apply closes_append_zero _ (closes_texgenAllLines settings)
  apply closes_append_zero _ normalized
  apply closes_append_zero _ blends.2
  exact closes_append_zero rfl blends.1

theorem closes_fogLines (state : VertexState) :
    closes reserved 0 (fogLines state) := by
  unfold fogLines
  split
  · cases state.program <;> cases state.fog.mode <;> rfl
  · rfl

/-- What a vertex stage is made of, for both kinds of programs. -/
theorem exists_programCode {state : VertexState} {items : List Item}
    {lines : List Line} (code : programCode state = .ok (items, lines)) :
    (∀ item ∈ items, quiet item) ∧
      ∃ before after,
        lines = before ++ inverseWLines ++ after ∧
          closes reserved 0 before ∧ closes reserved 0 after := by
  unfold programCode at code
  cases kind : state.program with
  | fixedFunction settings =>
      rw [kind] at code
      cases code
      obtain ⟨before, split, closed⟩ := closes_transform state settings
      refine ⟨quiet_transform settings, before, [], ?_, closed, rfl⟩
      rw [split, List.append_nil]
  | microcode program =>
      rw [kind] at code
      obtain ⟨generated, translated, same⟩ := map_eq_ok_iff.mp code
      cases same
      refine ⟨quiet_microcode, ?_⟩
      unfold Microcode.Program.lines at translated
      split at translated
      · cases translated
      · rename_i scan _
        split at translated
        · cases translated
          obtain ⟨rest, split, closed⟩ :=
            closes_epilogue program.zPerspective
          refine ⟨scan.slots.flatMap Microcode.Slot.lines, rest, ?_, ?_,
            closed⟩
          · rw [split, List.append_assoc]
          · exact closes_flatMap fun slot _ => closes_slot slot
        · cases translated
        · cases translated

/-- The names of the passed values at the main function. -/
theorem interface_vertex {state : VertexState} {shading : Shading}
    {renamed : Bool} {items : List Item}
    (generated : source state shading renamed = .ok items) :
    interface .output items = leading (lead renamed) false shading := by
  obtain ⟨⟨declared, lines⟩, code, rfl⟩ := map_eq_ok_iff.mp generated
  obtain ⟨before, after, split, quietBefore, quietAfter⟩ :=
    exists_sharedItems state shading renamed (exists_programCode code).1
  simp only
  rw [interface, interfaceFrom_append, split, interfaceFrom_append,
    interfaceFrom_append, interfaceFrom_quiet quietBefore,
    interfaceFrom_quiet quietAfter, interfaceFrom_outputItems,
    interfaceFrom_interior]
  · simp
  · intro item member
    rw [List.mem_singleton.mp member]
    rfl
  · intro name member
    exact namesAfter_quiet quietBefore id member

/-! ## What the vertex stage assigns -/

theorem calm_outputItems (shading : Shading) (renamed : Bool) :
    ∀ item ∈ outputItems shading renamed,
      item.calm reserved (outputVariables renamed) := by
  cases shading <;> cases renamed <;> decide

/-- The scope of the main function. -/
theorem scope_main (state : VertexState) (shading : Shading)
    (renamed : Bool) {items : List Item}
    (allQuiet : ∀ item ∈ items, quiet item) (choices : Nat → Bool) :
    let scope :=
      Scope.initial.addAll choices
        (sharedItems state shading renamed ++ items)
    scope.Calm reserved (outputVariables renamed) ∧
      ∀ varying ∈ varyings shading,
        scope.rename varying.name = lead renamed ++ varying.name := by
  obtain ⟨before, after, split, quietBefore, quietAfter⟩ :=
    exists_sharedItems state shading renamed allQuiet
  constructor
  · apply (Scope.calm_initial (outputVariables_subset renamed)).addAll
    rw [split]
    intro item member
    simp only [List.mem_append] at member
    rcases member with (first | declared) | last
    · exact calm_quiet quietBefore renamed item first
    · exact calm_outputItems shading renamed item declared
    · exact calm_quiet quietAfter renamed item last
  · intro varying member
    have named : varying.name ∈ reserved :=
      outputVariables_subset false (mem_outputVariables member false)
    rw [Scope.rename_addAll, split]
    simp only [namesAfter_append]
    rw [namesAfter_quiet quietAfter _ named]
    apply namesAfter_outputItems _ _ _ member
    exact namesAfter_quiet quietBefore id named

/-- The reciprocal depth is assigned whichever way its condition turns out. -/
theorem assigned_inverseWLines {scope : Scope} {outputs : List String}
    (choices : Nat → Bool) {flow : Flow} (ready : flow.Ready outputs)
    (smooth : scope.rename "vtx_inv_w" ∈ outputs)
    (flat : scope.rename "vtx_inv_w_flat" ∈ outputs) :
    scope.rename "vtx_inv_w" ∈
        (scope.run choices inverseWLines flow).assigned ∧
      scope.rename "vtx_inv_w_flat" ∈
        (scope.run choices inverseWLines flow).assigned := by
  have smoothShown := ready.locals _ smooth
  have flatShown := ready.locals _ flat
  cases chosen : choices flow.decided <;>
    simp [Scope.run, inverseWLines, Scope.step, Statement.set, Statement.whole?,
      Flow.record, Flow.live, Flow.turn, chosen, ready.frames, ready.left,
      smoothShown, flatShown]

theorem flat_outputLines (shading : Shading) :
    ∀ line ∈ outputLines shading,
      line.statement.shape = .stays ∧ line.statement.harmless reserved := by
  cases shading <;> decide

/-- Each value is assigned at the end, or with the reciprocal depth. -/
theorem exists_assignment {shading : Shading} {varying : Varying}
    (member : varying ∈ varyings shading) :
    varying.name = "vtx_inv_w" ∨ varying.name = "vtx_inv_w_flat" ∨
      ∃ line ∈ outputLines shading,
        line.statement.whole? = some varying.name := by
  cases shading <;> revert varying <;> decide

/-- Every way through the stage assigns every value that it passes on. -/
theorem assigned_vertex {state : VertexState} {shading : Shading}
    {renamed : Bool} {items : List Item}
    (generated : source state shading renamed = .ok items)
    (choices : Nat → Bool) {varying : Varying}
    (member : varying ∈ varyings shading) :
    lead renamed ++ varying.name ∈ (flowOf choices items).assigned := by
  obtain ⟨⟨declared, lines⟩, code, rfl⟩ := map_eq_ok_iff.mp generated
  obtain ⟨allQuiet, before, after, split, closedBefore, closedAfter⟩ :=
    exists_programCode code
  obtain ⟨calm, renames⟩ :=
    scope_main state shading renamed allQuiet choices
  have regrouped :
      unpackLines state ++ lines ++ fogLines state ++ outputLines shading =
        (unpackLines state ++ before)
          ++ (inverseWLines
            ++ ((after ++ fogLines state) ++ outputLines shading)) := by
    rw [split]
    simp only [List.append_assoc]
  simp only
  rw [(flowOf_main choices ..).1, regrouped]
  generalize
    Scope.initial.addAll choices
      (sharedItems state shading renamed ++ declared) = scope at *
  have outputs (value : Varying) (passed : value ∈ varyings shading) :
      scope.rename value.name ∈ outputVariables renamed := by
    rw [renames value passed]
    exact mem_outputVariables passed renamed
  have readyFirst :=
    Flow.ready_start.passes
      (calm.run_closes choices
        (closes_append_zero (closes_unpackLines state) closedBefore) _
        (Nat.zero_le _))
  have readySecond :=
    readyFirst.passes
      (calm.run_closes choices (show closes reserved 0 inverseWLines by decide)
        _ (Nat.zero_le _))
  have third flow :=
    calm.run_closes choices
      (closes_append_zero closedAfter (closes_fogLines state)) flow
      (Nat.zero_le _)
  have fourth flow :=
    calm.run_closes choices (closes_flat (flat_outputLines shading)) flow
      (Nat.zero_le _)
  have inverse :=
    assigned_inverseWLines choices readyFirst
      (outputs ⟨.noperspective, .float, "vtx_inv_w"⟩ (.head _))
      (outputs ⟨.flat, .float, "vtx_inv_w_flat"⟩ (.tail _ (.head _)))
  rw [← renames varying member, Scope.run_append, Scope.run_append,
    Scope.run_append]
  rcases exists_assignment member with same | same | assigned
  · rw [same]
    exact (fourth _).assigned ((third _).assigned inverse.1)
  · rw [same]
    exact (fourth _).assigned ((third _).assigned inverse.2)
  · exact (readySecond.passes (third _)).assigned_of_mem calm choices
      (flat_outputLines shading) assigned (outputs varying member)

end Vertex

/-! ## The geometry stage -/

namespace Geometry

/-- The values that are passed on. -/
def outputVariables : List String :=
  (varyings .smooth).map Varying.name

theorem mem_outputVariables {shading : Shading} {varying : Varying}
    (member : varying ∈ varyings shading) :
    varying.name ∈ outputVariables := by
  cases shading <;> revert varying <;> decide

/-- The statements of the emitting function before the vertex is emitted. -/
theorem exists_emitFunction (shading : Shading) :
    ∃ lines : List Line,
      (emitFunction shading).body =
          lines ++ [Line.mk 2 (.invoke "EmitVertex" none)] ∧
        (∀ line ∈ lines,
          line.statement.shape = .stays ∧
            line.statement.harmless outputVariables) ∧
        ∀ name ∈ outputVariables,
          ∃ line ∈ lines, line.statement.whole? = some name := by
  refine ⟨(emitFunction shading).body.dropLast, ?_⟩
  cases shading <;> decide

theorem hidden_emitFunction (shading : Shading) :
    ∀ name ∈ outputVariables,
      name ∉ (emitFunction shading).parameters.map Prod.snd := by
  cases shading <;> decide

/-- A vertex is emitted with all values assigned. -/
theorem delivers_emitFunction (shading : Shading) (choices : Nat → Bool)
    {flow : Flow} (delivers : flow.Delivers outputVariables) :
    (Scope.initial.body choices (emitFunction shading) flow).Delivers
      outputVariables := by
  obtain ⟨lines, split, flat, assigned⟩ := exists_emitFunction shading
  have calm : Scope.initial.Calm outputVariables outputVariables :=
    Scope.calm_initial (List.Subset.refl _)
  let inside : Flow :=
    { flow with
      frames := []
      left := false
      locals := (emitFunction shading).parameters.map Prod.snd }
  have ready : inside.Ready outputVariables :=
    ⟨rfl, rfl, hidden_emitFunction shading⟩
  have passes :=
    calm.run_closes choices (closes_flat flat) inside (Nat.zero_le _)
  have after := ready.passes passes
  have emitted :
      (Scope.initial.body choices (emitFunction shading) flow).emitted =
        (Scope.initial.run choices lines inside).assigned ::
          flow.emitted := by
    have live : (Scope.initial.run choices lines inside).live = true := by
      simp [Flow.live, after.frames, after.left]
    change (Scope.initial.run choices (emitFunction shading).body
      inside).emitted = _
    rw [split, Scope.run_append, Scope.run_invoke _ _ live,
      ← show _ = flow.emitted from passes.emitted]
    rfl
  intro values member
  rw [emitted] at member
  rcases List.mem_cons.mp member with rfl | earlier
  · intro name named
    exact ready.assigned_of_mem calm choices flat (assigned name named) named
  · exact delivers values earlier

/-- The main function calls nothing else that emits vertices. -/
theorem invoked_emission (emission : Emission) {line : Line}
    (member : line ∈ emission.lines) {function : String}
    {arguments : Option Expr}
    (invoked : line.statement = .invoke function arguments) :
    function = "emit_vertex" ∨ function = "EndPrimitive" := by
  have vertices (provoking indent : Nat) (vertex : Vertex)
      (listed : line ∈ vertex.lines provoking indent) :
      function = "emit_vertex" := by
    cases vertex with
    | always index =>
        rw [Vertex.lines, List.mem_singleton] at listed
        subst listed
        cases invoked
        rfl
    | first index =>
        simp only [Vertex.lines, List.mem_cons, List.not_mem_nil, or_false]
          at listed
        rcases listed with rfl | rfl | rfl <;> cases invoked
        rfl
  simp only [Emission.lines, List.mem_append, List.mem_flatMap] at member
  rcases member with (guarded | ⟨part, _, listed⟩) | last
  · split at guarded
    · rw [List.mem_singleton] at guarded
      subst guarded
      cases invoked
    · cases guarded
  · left
    cases part with
    | one vertex => exact vertices _ _ vertex listed
    | parity even odd =>
        simp only [Part.lines, List.mem_append, List.mem_flatMap,
          List.mem_singleton] at listed
        rcases listed with
          (((rfl | ⟨vertex, _, shown⟩) | rfl) | ⟨vertex, _, shown⟩) | rfl
        · cases invoked
        · exact vertices _ _ vertex shown
        · cases invoked
        · exact vertices _ _ vertex shown
        · cases invoked
  · rw [List.mem_singleton] at last
    subst last
    cases invoked
    exact .inr rfl

/-- Every vertex that the stage emits has all values assigned. -/
theorem delivers_source (layout : Layout) (shading : Shading)
    (choices : Nat → Bool) :
    (flowOf choices (layout.source shading)).Delivers outputVariables := by
  obtain ⟨items, split, scopeEq⟩ :
      ∃ items,
        layout.source shading =
            items ++ [mainFunction layout.emission.lines] ∧
          Scope.initial.addAll choices items =
            { Scope.initial with
              call :=
                Function.update Scope.initial.call "emit_vertex"
                  (Scope.initial.body choices (emitFunction shading)) } := by
    refine ⟨(layout.source shading).dropLast, ?_⟩
    cases shading <;> exact ⟨rfl, rfl⟩
  rw [Flow.Delivers, split, (flowOf_main choices ..).2, scopeEq]
  apply Scope.run_delivers
  · intro line member function arguments invoked flow delivers
    rcases invoked_emission layout.emission member invoked with rfl | rfl
    · exact delivers_emitFunction shading choices delivers
    · exact delivers
  · exact fun _ member => absurd member List.not_mem_nil

/-- The stage emits some vertex, unless it is told not to. -/
theorem emitted_ne_nil {primitive : PrimitiveMode} {polygon : PolygonMode}
    {shading : Shading} {layout : Layout}
    (planned : layout? primitive polygon shading = some layout) :
    (flowOf (fun _ => false) (layout.source shading)).emitted ≠ [] := by
  cases primitive <;> cases polygon <;> cases shading <;>
    first
    | cases planned; decide
    | cases planned

end Geometry

/-! ## The stages of a configuration -/

/-- Every way through a stage ends with all that it passes on assigned. -/
def AssignsOutputs (items : List Item) : Prop :=
  ∀ choices, ∀ output ∈ interface .output items,
    output.name ∈ (flowOf choices items).assigned

/--
A stage emits vertices, and each of them with all that it passes on assigned.
-/
def EmitsOutputs (items : List Item) : Prop :=
  (∃ choices, (flowOf choices items).emitted ≠ []) ∧
    ∀ choices, ∀ values ∈ (flowOf choices items).emitted,
      ∀ output ∈ interface .output items, output.name ∈ values

theorem leading_empty (shading : Shading) :
    leading "" false shading = (varyings shading).map (Port.mk · false) := by
  cases shading <;> decide

theorem map_gathered_leading (lead : String) (shading : Shading) :
    (leading lead false shading).map Port.gathered =
      leading lead true shading :=
  List.map_map

theorem Vertex.assignsOutputs {state : VertexState} {shading : Shading}
    {renamed : Bool} {items : List Item}
    (generated : Vertex.source state shading renamed = .ok items) :
    AssignsOutputs items := by
  intro choices output member
  rw [interface_vertex generated] at member
  obtain ⟨varying, listed, rfl⟩ := List.mem_map.mp member
  exact assigned_vertex generated choices listed

theorem Geometry.emitsOutputs {state : GeometryState} {shading : Shading}
    {plan : Geometry.Plan} {layout : Geometry.Layout}
    (planned : Geometry.plan state shading = .ok plan)
    (present : plan.layout = some layout) :
    EmitsOutputs (layout.source shading) := by
  constructor
  · unfold Geometry.plan at planned
    split at planned
    · split at planned
      · cases planned
        exact ⟨_, emitted_ne_nil present⟩
      · cases planned
    · cases planned
  · intro choices values member output passed
    rw [interface_geometry_output, leading_empty] at passed
    obtain ⟨varying, listed, rfl⟩ := List.mem_map.mp passed
    exact delivers_source layout shading choices values member
      (mem_outputVariables listed)

theorem exists_plan {state : PipelineState} {stages : Stages}
    (staged : state.stages = .ok stages) :
    ∃ plan,
      Geometry.plan state.geometry state.shading = .ok plan ∧
        stages =
          { vertex := .vertex state.vertex state.shading plan.layout.isSome
            geometry :=
              plan.layout.map fun _ => .geometry state.geometry state.shading
            fragment := .fragment state.pixel state.shading
            assembly := plan.assembly } := by
  unfold PipelineState.stages at staged
  split at staged
  · cases staged
  · rename_i plan planned
    exact ⟨plan, planned, (Except.ok.inj staged).symm⟩

theorem StageKey.items_geometry
    {state : GeometryState} {shading : Shading} {plan : Geometry.Plan}
    {layout : Geometry.Layout}
    (planned : Geometry.plan state shading = .ok plan)
    (present : plan.layout = some layout) :
    (StageKey.geometry state shading).items =
      .ok (layout.source shading) := by
  simp only [StageKey.items, planned, present]

/-- What the sources of a program are written from, stage by stage. -/
theorem PipelineState.parts_of_sources
    {state : PipelineState} {sources : Sources}
    (generated : state.sources = .ok sources) :
    ∃ plan vertex,
      Geometry.plan state.geometry state.shading = .ok plan ∧
        state.stages =
          .ok
            { vertex := .vertex state.vertex state.shading plan.layout.isSome
              geometry :=
                plan.layout.map fun _ =>
                  .geometry state.geometry state.shading
              fragment := .fragment state.pixel state.shading
              assembly := plan.assembly } ∧
        Vertex.source state.vertex state.shading plan.layout.isSome =
          .ok vertex ∧
        sources.vertex = itemsText vertex ∧
        sources.geometry =
          plan.layout.map (fun layout =>
            itemsText (layout.source state.shading)) ∧
        sources.fragment =
          itemsText (Fragment.source state.pixel state.shading) := by
  obtain ⟨stages, staged, -, vertexSource, fragmentSource,
      geometrySource⟩ :=
    PipelineState.exists_stages generated
  obtain ⟨plan, planned, rfl⟩ := exists_plan staged
  obtain ⟨vertex, vertexItems, vertexText⟩ :=
    map_eq_ok_iff.mp vertexSource
  refine ⟨plan, vertex, planned, staged, mapError_eq_ok_iff.mp vertexItems,
    vertexText.symm, ?_, (Except.ok.inj fragmentSource).symm⟩
  cases present : plan.layout with
  | none =>
      rw [present] at geometrySource
      exact geometrySource
  | some layout =>
      rw [present] at geometrySource
      obtain ⟨text, found, written⟩ := geometrySource
      rw [StageKey.source, StageKey.items_geometry planned present] at written
      rw [found, ← Except.ok.inj written]
      rfl

/--
The stages of every program that can be generated fit together: what one
declares to pass on is what the next one declares to receive, value by value,
and each stage assigns what it passes on.  Only the geometry stage receives
the values of several vertices at once.
-/
theorem interfaces_match {state : PipelineState} {sources : Sources}
    (generated : state.sources = .ok sources) :
    ∃ stages vertex fragment,
      state.stages = .ok stages ∧
        (stages.vertex.items = .ok vertex ∧
          itemsText vertex = sources.vertex) ∧
        (stages.fragment.items = .ok fragment ∧
          itemsText fragment = sources.fragment) ∧
        AssignsOutputs vertex ∧
        interface .input fragment =
          (varyings state.shading).map (Port.mk · false) ∧
        match stages.geometry, sources.geometry with
        | none, none => interface .output vertex = interface .input fragment
        | some key, some text =>
            ∃ geometry,
              (key.items = .ok geometry ∧ itemsText geometry = text) ∧
                (interface .output vertex).map Port.gathered =
                  interface .input geometry ∧
                interface .output geometry = interface .input fragment ∧
                EmitsOutputs geometry
        | _, _ => False := by
  obtain ⟨plan, vertex, planned, staged, vertexGenerated, vertexText,
    geometryText, fragmentText⟩ := PipelineState.parts_of_sources generated
  have passed := Vertex.interface_vertex vertexGenerated
  have received :=
    (interface_fragment state.pixel state.shading).trans
      (leading_empty state.shading)
  refine ⟨_, vertex, Fragment.source state.pixel state.shading, staged,
    ⟨mapError_eq_ok_iff.mpr vertexGenerated, vertexText.symm⟩,
    ⟨rfl, fragmentText.symm⟩, Vertex.assignsOutputs vertexGenerated,
    received, ?_⟩
  rw [received, geometryText]
  cases present : plan.layout with
  | none =>
      rw [present] at passed
      exact passed.trans (leading_empty state.shading)
  | some layout =>
      rw [present] at passed
      refine ⟨layout.source state.shading,
        ⟨StageKey.items_geometry planned present, rfl⟩, ?_, ?_,
        Geometry.emitsOutputs planned present⟩
      · rw [interface_geometry_input, passed]
        exact map_gathered_leading vertexLead state.shading
      · rw [interface_geometry_output]
        exact leading_empty state.shading

/-- A flat polygon that a vertex program draws, with a geometry stage. -/
def flatPolygon : PipelineState :=
  { (default : PipelineState) with
    vertex :=
      { (default : VertexState) with
        program := .microcode ⟨[#v[0, 0, 0, 1]], false⟩ }
    geometry := ⟨.polygon, .fill, .fill⟩
    smoothShading := false }

theorem interfaces_match_flatPolygon :
    ∃ sources stages vertex geometry fragment,
      flatPolygon.sources = .ok sources ∧
        flatPolygon.stages = .ok stages ∧
        stages.vertex.items = .ok vertex ∧
        stages.geometry.map StageKey.items = some (.ok geometry) ∧
        stages.fragment.items = .ok fragment ∧
        AssignsOutputs vertex ∧
        (interface .output vertex).map Port.gathered =
          interface .input geometry ∧
        EmitsOutputs geometry ∧
        interface .output geometry = interface .input fragment ∧
        interface .input fragment =
          (varyings .flat).map (Port.mk · false) := by
  obtain ⟨sources, generated⟩ :
      ∃ sources, flatPolygon.sources = .ok sources :=
    ⟨_, rfl⟩
  obtain ⟨stages, vertex, fragment, staged, ⟨vertexItems, -⟩,
    ⟨fragmentItems, -⟩, assigns, received, matched⟩ :=
    interfaces_match generated
  obtain ⟨key, present⟩ : ∃ key, stages.geometry = some key := by
    cases staged
    exact ⟨_, rfl⟩
  rw [present] at matched
  split at matched
  · rename_i absent _
    cases absent
  · rename_i found text same _
    cases same
    obtain ⟨geometry, ⟨geometryItems, -⟩, first, second, emits⟩ := matched
    refine ⟨sources, stages, vertex, geometry, fragment, generated, staged,
      vertexItems, ?_, fragmentItems, assigns, first, emits, second,
      received⟩
    rw [present, Option.map_some, geometryItems]
  · cases matched

end ShaderSynth
