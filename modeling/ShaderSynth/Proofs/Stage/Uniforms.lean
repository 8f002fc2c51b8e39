import ShaderSynth.Proofs.Stage.Interface
import ShaderSynth.Proofs.Stage.Lighting
import ShaderSynth.Uniform

/-!
# Uniforms of the stages

The stages declare uniforms as they need them, while the renderer looks for a
fixed list of names.  Every stage declares each of its uniforms once, and the
renderer looks for all of them, for arrays element by element.  The fixed
pipeline declares exactly the uniforms of lights and materials that it reads.
-/

namespace ShaderSynth

open Glsl

/-! ## Locations -/

namespace Locations

/--
Resolving the locations of a program asks the device for a name, and keeps the
answer as the location of a uniform.
-/
def Keeps (name : String) : Prop :=
  ∃ uniform : Uniform,
    uniform.name = name ∧
      ∀ {device : Type} [Device device] (host : device)
        (program : ProgramId),
        ∃ before after,
          Uniform.all = before ++ uniform :: after ∧
            (resolve host program).1.get? uniform =
              (Device.location (query program before host).2 program
                name).1

theorem lookup_query_of_not_mem
    {device : Type} [Device device] (program : ProgramId)
    {uniforms : List Uniform} {uniform : Uniform}
    (absent : uniform ∉ uniforms) (host : device) :
    (query program uniforms host).1.lookup uniform = none := by
  induction uniforms generalizing host with
  | nil => rfl
  | cons first rest ih =>
      obtain ⟨other, absent⟩ := not_or.mp (mt List.mem_cons.mpr absent)
      simp only [query]
      split
      · rw [List.lookup_cons, beq_false_of_ne other]
        exact ih absent _
      · exact ih absent _

/-- A uniform that is asked for once has the answer as its location. -/
theorem lookup_query
    {device : Type} [Device device] (program : ProgramId)
    {before after : List Uniform} {uniform : Uniform}
    (earlier : uniform ∉ before) (later : uniform ∉ after) (host : device) :
    (query program (before ++ uniform :: after) host).1.lookup uniform =
      (Device.location (query program before host).2 program
        uniform.name).1 := by
  induction before generalizing host with
  | nil =>
      simp only [List.nil_append, query]
      split
      · rename_i location found
        rw [List.lookup_cons, beq_self_eq_true, found]
      · rename_i found
        rw [found]
        exact lookup_query_of_not_mem program later _
  | cons first rest ih =>
      obtain ⟨other, earlier⟩ := not_or.mp (mt List.mem_cons.mpr earlier)
      simp only [List.cons_append, query]
      split
      · rw [List.lookup_cons, beq_false_of_ne other]
        exact ih earlier _
      · exact ih earlier _

end Locations

namespace Uniform

/-- The place of a uniform in the order in which they are resolved. -/
def place : Uniform → Nat
  | constant index => index
  | lightContextA index => 192 + index
  | lightContextB index => 218 + index
  | lightContext1 index => 270 + index
  | sampler unit => 290 + unit
  | combinerConstant stage slot => 294 + 2 * stage + slot
  | alphaReference => 312
  | texture role unit => 313 + 4 * UnitUniform.all.idxOf role + unit
  | surfaceSize => 329
  | clipRange => 330
  | fogColor => 331
  | fogParam index => 332 + index
  | inverseViewport => 334
  | light number role => 335 + 4 * number + LightUniform.all.idxOf role
  | clipRegion index => 367 + index
  | materialAlpha => 375

theorem map_place_all : all.map place = List.range 376 := by
  decide +kernel

theorem nodup_all : all.Nodup :=
  .of_map place (map_place_all ▸ List.nodup_range)

theorem mem_unitRoles (role : UnitUniform) : role ∈ UnitUniform.all := by
  cases role <;> decide

theorem mem_lightRoles (role : LightUniform) : role ∈ LightUniform.all := by
  cases role <;> decide

theorem mem_all (uniform : Uniform) : uniform ∈ all := by
  simp only [all, List.mem_append, List.mem_map, List.mem_flatMap]
  cases uniform <;> simp [mem_unitRoles, mem_lightRoles]

theorem keeps_name (uniform : Uniform) : Locations.Keeps uniform.name := by
  refine ⟨uniform, rfl, fun host program => ?_⟩
  obtain ⟨before, after, parts⟩ := List.append_of_mem uniform.mem_all
  have distinct := nodup_all
  rw [parts, List.nodup_middle, List.nodup_cons, List.mem_append,
    not_or] at distinct
  refine ⟨before, after, parts, ?_⟩
  unfold Locations.resolve Locations.get?
  rw [parts]
  exact Locations.lookup_query program distinct.1.1 distinct.1.2 host

end Uniform

/-! ## What stages may declare -/

/-- A declaration, with the uniforms of the renderer that it stands for. -/
inductive Declared where
  | single (uniform : Uniform)
  | array (name : String) (count : Nat) (element : Fin count → Uniform)
      (named : ∀ index, (element index).name = elementText name index)

namespace Declared

/-- The name, and the length of an array. -/
def entry : Declared → String × Option Nat
  | single uniform => (uniform.name, none)
  | array name count _ _ => (name, some count)

theorem keeps (declared : Declared) :
    ∀ name ∈ slotNames declared.entry, Locations.Keeps name := by
  intro name member
  cases declared with
  | single uniform =>
      obtain rfl := List.mem_singleton.mp member
      exact uniform.keeps_name
  | array stem count element named =>
      obtain ⟨index, bound, rfl⟩ := List.mem_map.mp member
      rw [← named ⟨index, List.mem_range.mp bound⟩]
      exact (element _).keeps_name

end Declared

namespace Transform

/-- What the fixed pipeline declares. -/
def table : List Declared :=
  [.array "ltctxa" _ .lightContextA fun _ => rfl,
    .array "ltctxb" _ .lightContextB fun _ => rfl,
    .array "ltc1" _ .lightContext1 fun _ => rfl,
    .single .inverseViewport]

/-- What a light may declare. -/
def lightTable (number : Fin lightCount) : List Declared :=
  LightUniform.all.map fun role => .single (.light number role)

/-- What lighting may declare. -/
def lightingTable : List Declared :=
  .single .materialAlpha :: (List.finRange lightCount).flatMap lightTable

end Transform

namespace Vertex

/-- What every vertex stage declares. -/
def sharedTable : List Declared :=
  [.single .clipRange, .single .surfaceSize,
    .array "c" _ .constant fun _ => rfl,
    .array "fogParam" _ .fogParam fun _ => rfl]

/-- What a vertex stage may declare. -/
def table : List Declared :=
  sharedTable ++ (Transform.table ++ Transform.lightingTable)

end Vertex

/-- What a texture unit may declare. -/
def Texture.unitTable (unit : Fin 4) : List Declared :=
  [.single (.texture .bumpScale unit), .single (.texture .bumpOffset unit),
    .single (.texture .bumpMatrix unit),
    .single (.texture .textureScale unit), .single (.sampler unit)]

/-- What a fragment stage may declare besides the constants of combiners. -/
def Fragment.table : List Declared :=
  [Declared.single .fogColor, .array "clipRegion" _ .clipRegion fun _ => rfl]
    ++ (List.finRange 4).flatMap Texture.unitTable
    ++ [Declared.single .alphaReference]

/-- The names of the constants of combiners. -/
def Combiner.constantNames : List String :=
  (List.finRange 9).flatMap fun stage =>
    (List.finRange 2).map fun slot => (Uniform.combinerConstant stage slot).name

theorem Vertex.nodup_table :
    (Vertex.table.map fun declared => declared.entry.1).Nodup := by
  decide +kernel

theorem Fragment.nodup_table :
    ((Fragment.table.map fun declared => declared.entry.1)
      ++ Combiner.constantNames).Nodup := by
  decide +kernel

/-! ## The fragment stage -/

theorem sublist_flatMap {index element : Type} {first second : index → List element}
    (list : List index)
    (sublist : ∀ number, (first number).Sublist (second number)) :
    (list.flatMap first).Sublist (list.flatMap second) := by
  induction list with
  | nil => exact .slnil
  | cons number rest ih =>
      rw [List.flatMap_cons, List.flatMap_cons]
      exact (sublist number).append ih

namespace Texture.Units

/-- Displaced lookups declare a matrix, some of them two factors before it. -/
theorem uniforms_fetch (units : Units) (unit : Fin 4) :
    (uniforms (units.fetch unit).uniforms).Sublist
      (((unitTable unit).take 3).map Declared.entry) := by
  have nothing (fetch : Fetch) (none : fetch.uniforms = []) :
      (uniforms fetch.uniforms).Sublist
        (((unitTable unit).take 3).map Declared.entry) := by
    rw [none]
    exact List.nil_sublist _
  rw [fetch]
  split
  · rename_i mode _
    split
    · cases mode with
      | project3D =>
          rw [modeFetch, volumeFetch]
          split <;> exact nothing _ rfl
      | bumpEnvMap => exact .cons _ (.cons _ (.refl _))
      | bumpEnvMapLuminance => exact .refl _
      | _ => exact nothing _ rfl
    · exact nothing _ rfl
  · exact nothing _ rfl

theorem uniforms_items (units : Units) (unit : Fin 4) :
    (uniforms (units.items unit)).Sublist
      ((unitTable unit).map Declared.entry) := by
  rw [items, uniforms_append, uniforms_append, List.append_assoc]
  refine (uniforms_fetch units unit).append (.cons_cons _ ?_)
  split
  · exact .refl _
  · exact List.nil_sublist _

end Texture.Units

theorem nodup_eraseDups (names : List String) : names.eraseDups.Nodup := by
  induction length : names.length using Nat.strongRecOn generalizing names with
  | ind count ih =>
      cases names with
      | nil => exact List.nodup_nil
      | cons name rest =>
          rw [List.eraseDups_cons, List.nodup_cons, List.mem_eraseDups]
          constructor
          · simp
          · have shorter := List.length_filter_le (fun other => !other == name) rest
            refine ih _ ?_ _ rfl
            simp only [List.length_cons] at length
            omega

namespace Combiner

theorem constantName_mem
    {context : Context} (bound : context.stage ≤ 8) (slot : Fin 2)
    (unique : Bool) :
    context.constantName slot unique ∈ constantNames := by
  have small :
      (if unique || context.stage == finalStage then context.stage
        else 0) < 9 := by
    split <;> omega
  exact List.mem_flatMap.mpr
    ⟨⟨_, small⟩, List.mem_finRange _,
      List.mem_map.mpr ⟨slot, List.mem_finRange _, rfl⟩⟩

theorem Context.constants_subset
    {context : Context} (bound : context.stage ≤ 8) (input : Input) :
    context.constants input ⊆ constantNames := by
  intro name member
  rw [Context.constants] at member
  split at member
  · obtain rfl := List.mem_singleton.mp member
    exact constantName_mem bound 0 _
  · obtain rfl := List.mem_singleton.mp member
    exact constantName_mem bound 1 _
  · cases member

/-- Stages have numbers below eight, and the final combiner has number eight. -/
theorem constants_subset (state : PixelState) :
    (Settings.ofPixel state).constants ⊆ constantNames := by
  intro name member
  rw [Settings.constants, List.mem_eraseDups, List.mem_append] at member
  rcases member with general | final
  · obtain ⟨⟨stage, context⟩, listed, member⟩ := List.mem_flatMap.mp general
    obtain ⟨⟨found, index⟩, numbered, same⟩ := List.mem_map.mp listed
    have bound : context.stage ≤ 8 := by
      have below : index < (Settings.ofPixel state).stages.length :=
        List.snd_lt_of_mem_zipIdx numbered
      have length :
          (Settings.ofPixel state).stages.length =
            min (Control.ofWord state.combinerControl).stages 8 := by
        simp [Settings.ofPixel]
      have room : (Settings.ofPixel state).stages.length ≤ 8 :=
        length ▸ Nat.min_le_right _ _
      cases same
      exact Nat.le_of_lt (Nat.lt_of_lt_of_le below room)
    simp only [Stage.constants, Half.constants, List.mem_append,
      List.mem_flatMap] at member
    rcases member with ⟨input, _, member⟩ | ⟨input, _, member⟩
    · exact Context.constants_subset bound input member
    · exact Context.constants_subset bound input member
  · split at final
    · rename_i combiner _
      obtain ⟨input, _, member⟩ := List.mem_flatMap.mp final
      exact Context.constants_subset (Nat.le_refl 8) input member
    · cases final

end Combiner

namespace Fragment

/-- A fragment stage declares a part of its table, and constants of combiners. -/
theorem uniforms_source (state : PixelState) (shading : Shading) :
    ∃ first : List (String × Option Nat),
      uniforms (source state shading) =
          first
            ++ (Combiner.Settings.ofPixel state).constants.map
              (fun name => (name, none)) ∧
        first.Sublist (table.map Declared.entry) := by
  let units := Texture.Units.ofPixel state
  let tests : List (String × Option Nat) :=
    if testsAlpha state then [("alphaRef", none)] else []
  refine ⟨[("fogColor", none), ("clipRegion", some clipRegionCount)]
    ++ (List.finRange 4).flatMap (fun unit => uniforms (units.items unit))
    ++ tests, ?_, ?_⟩
  · have varying : uniforms (varyingItems shading .input "" false) = [] := by
      cases shading <;> rfl
    have signs : uniforms signHelpers = [] := rfl
    have dots : uniforms dotHelpers = [] := rfl
    have convolution : uniforms convolutionHelpers = [] := by
      decide +kernel
    have main (lines : List Line) : uniforms [mainFunction lines] = [] := rfl
    have head : uniforms [.version, .blank] = [] := rfl
    have color :
        uniforms [.blank, .target .vec4 "fragColor", .blank,
          .uniform .vec4 "fogColor" none] = [("fogColor", none)] :=
      rfl
    have regions :
        uniforms [.uniform .ivec4 "clipRegion" (some clipRegionCount)] =
          [("clipRegion", some clipRegionCount)] :=
      rfl
    have tested :
        uniforms (if testsAlpha state then
          [.uniform .float "alphaRef" none] else []) = tests := by
      simp only [tests]
      split <;> rfl
    rw [source, declarations]
    simp only [uniforms_append, uniforms_flatMap, head, varying, color, signs,
      dots, convolution, regions, tested, uniforms_constants, main, units]
    simp
  · rw [table]
    simp only [List.map_append, List.map_flatMap]
    refine (List.Sublist.append (.refl _) ?_).append ?_
    · exact sublist_flatMap _ fun unit => units.uniforms_items unit
    · simp only [tests]
      split
      · exact .refl _
      · exact List.nil_sublist _

end Fragment

/-! ## The vertex stage -/

theorem sublist_zipIdx_flatMap {kind element : Type}
    {first : kind → Nat → List element} {second : Nat → List element}
    (sublist : ∀ value number, (first value number).Sublist (second number))
    (values : List kind) (start : Nat) :
    ((values.zipIdx start).flatMap fun (value, number) =>
        first value number).Sublist
      ((List.range' start values.length).flatMap second) := by
  induction values generalizing start with
  | nil => exact .slnil
  | cons value rest ih =>
      rw [List.zipIdx_cons, List.length_cons, List.range'_succ,
        List.flatMap_cons, List.flatMap_cons]
      exact (sublist value start).append (ih (start + 1))

namespace Transform

/-- What a light may declare, by names. -/
def lightEntries (light : Nat) : List (String × Option Nat) :=
  [(ofLight "lightInfiniteHalfVector" light, none),
    (ofLight "lightInfiniteDirection" light, none),
    (ofLight "lightLocalPosition" light, none),
    (ofLight "lightLocalAttenuation" light, none)]

theorem uniforms_lightItems (type : LightType) (light : Nat) :
    (uniforms (lightItems light type)).Sublist (lightEntries light) := by
  cases type with
  | off => exact List.nil_sublist _
  | infinite => exact .cons_cons _ (.cons_cons _ (List.nil_sublist _))
  | «local» => exact .cons _ (.cons _ (.refl _))
  | spot => exact .cons _ (.cons _ (.refl _))

theorem uniforms_lightingItems (settings : FixedFunction) :
    (uniforms (lightingItems settings)).Sublist
      (lightingTable.map Declared.entry) := by
  have alpha :
      (uniforms (if settings.diffuseSource = .material then
        [.uniform .float "material_alpha" none] else [])).Sublist
          [("material_alpha", none)] := by
    split
    · exact .refl _
    · exact List.nil_sublist _
  have lights :=
    sublist_zipIdx_flatMap uniforms_lightItems settings.lights.toList 0
  rw [Vector.length_toList] at lights
  rw [lightingItems, uniforms_append, uniforms_flatMap]
  exact alpha.append lights

end Transform

namespace Vertex

/-- A vertex stage declares a part of its table. -/
theorem uniforms_source
    {state : VertexState} {shading : Shading} {renamed : Bool}
    {items : List Item}
    (generated : source state shading renamed = .ok items) :
    (uniforms items).Sublist (table.map Declared.entry) := by
  obtain ⟨⟨declared, lines⟩, code, rfl⟩ := map_eq_ok_iff.mp generated
  have main (body : List Line) : uniforms [mainFunction body] = [] := rfl
  rw [uniforms_append, uniforms_append, uniforms_sharedItems, main,
    List.append_nil, table, List.map_append, List.map_append]
  refine .append (.refl _) ?_
  unfold programCode at code
  split at code
  · rename_i settings _
    cases code
    rw [Transform.uniforms_items]
    refine .append (.refl _) ?_
    split
    · exact Transform.uniforms_lightingItems settings
    · exact List.nil_sublist _
  · obtain ⟨_, _, same⟩ := map_eq_ok_iff.mp code
    cases same
    exact List.nil_sublist _

end Vertex

theorem Geometry.uniforms_source (layout : Layout) (shading : Shading) :
    uniforms (layout.source shading) = [] := by
  cases shading <;> rfl

/-! ## Stages and locations -/

/-- Every uniform is declared once, and the renderer looks for it. -/
def Glsl.Located (items : List Item) : Prop :=
  (uniformNames items).Nodup ∧
    ∀ entry ∈ uniforms items, ∀ name ∈ slotNames entry,
      Locations.Keeps name

theorem Declared.keeps_entry {table : List Declared}
    {entry : String × Option Nat} (member : entry ∈ table.map Declared.entry) :
    ∀ name ∈ slotNames entry, Locations.Keeps name := by
  obtain ⟨declared, -, rfl⟩ := List.mem_map.mp member
  exact declared.keeps

theorem Vertex.located
    {state : VertexState} {shading : Shading} {renamed : Bool}
    {items : List Item}
    (generated : source state shading renamed = .ok items) :
    Located items := by
  have part := uniforms_source generated
  constructor
  · have names := part.map fun entry => entry.1
    rw [List.map_map] at names
    exact names.nodup nodup_table
  · exact fun entry member =>
      Declared.keeps_entry (part.subset member)

theorem Geometry.located (layout : Layout) (shading : Shading) :
    Located (layout.source shading) := by
  rw [Located, uniformNames, uniforms_source]
  exact ⟨.nil, fun _ member => absurd member List.not_mem_nil⟩

theorem Combiner.exists_constant {name : String}
    (member : name ∈ constantNames) :
    ∃ stage slot, (Uniform.combinerConstant stage slot).name = name := by
  obtain ⟨stage, -, member⟩ := List.mem_flatMap.mp member
  obtain ⟨slot, -, same⟩ := List.mem_map.mp member
  exact ⟨stage, slot, same⟩

theorem Fragment.located (state : PixelState) (shading : Shading) :
    Located (source state shading) := by
  obtain ⟨first, declared, part⟩ := uniforms_source state shading
  have constants := Combiner.constants_subset state
  rw [Located, uniformNames, declared]
  constructor
  · have names := part.map fun entry => entry.1
    rw [List.map_map] at names
    have identity :
        (Combiner.Settings.ofPixel state).constants.map
            ((fun entry => entry.1) ∘ fun name =>
              ((name, none) : String × Option Nat)) =
          (Combiner.Settings.ofPixel state).constants :=
      List.map_id _
    rw [List.map_append, List.map_map, identity]
    obtain ⟨fixed, _, apart⟩ := List.nodup_append.mp nodup_table
    refine List.nodup_append.mpr
      ⟨names.nodup fixed, nodup_eraseDups _, fun name member other listed => ?_⟩
    exact apart name (names.subset member) other (constants listed)
  · intro entry member
    rcases List.mem_append.mp member with member | member
    · exact Declared.keeps_entry (part.subset member)
    · obtain ⟨constant, listed, rfl⟩ := List.mem_map.mp member
      obtain ⟨stage, slot, same⟩ := Combiner.exists_constant (constants listed)
      intro name slots
      obtain rfl := List.mem_singleton.mp slots
      rw [← same]
      exact Uniform.keeps_name _

/--
In every stage of every program that can be generated, each uniform is declared
once and has a location that the renderer asks for, for arrays element by
element.  The constants of combiners are among those the renderer knows.  The
fixed pipeline mentions the uniforms of lights and of the material exactly if
it declares them.
-/
theorem uniforms_located {state : PipelineState} {sources : Sources}
    (generated : state.sources = .ok sources) :
    ∃ stages vertex fragment,
      state.stages = .ok stages ∧
        (stages.vertex.items = .ok vertex ∧
          itemsText vertex = sources.vertex) ∧
        (stages.fragment.items = .ok fragment ∧
          itemsText fragment = sources.fragment) ∧
        Located vertex ∧
        Located fragment ∧
        (match stages.geometry, sources.geometry with
          | none, none => True
          | some key, some text =>
              ∃ geometry,
                (key.items = .ok geometry ∧ itemsText geometry = text) ∧
                  Located geometry
          | _, _ => False) ∧
        (∀ name ∈ (Combiner.Settings.ofPixel state.pixel).constants,
          (name, none) ∈ uniforms fragment ∧
            ∃ stage slot,
              (Uniform.combinerConstant stage slot).name = name) ∧
        ∀ settings, state.vertex.program = .fixedFunction settings →
          ∃ header body,
            vertex = header ++ [mainFunction body] ∧
              ∀ name, Transform.ofLighting name = true →
                (mentions (· == name) body = true ↔
                  name ∈ uniformNames header) := by
  obtain ⟨plan, vertex, planned, staged, vertexGenerated, vertexText,
    geometryText, fragmentText⟩ := PipelineState.parts_of_sources generated
  refine ⟨_, vertex, Fragment.source state.pixel state.shading, staged,
    ⟨mapError_eq_ok_iff.mpr vertexGenerated, vertexText.symm⟩,
    ⟨rfl, fragmentText.symm⟩, Vertex.located vertexGenerated,
    Fragment.located _ _, ?_, ?_, ?_⟩
  · rw [geometryText]
    cases present : plan.layout with
    | none => trivial
    | some layout =>
        exact ⟨layout.source state.shading,
          ⟨StageKey.items_geometry planned present, rfl⟩,
          Geometry.located _ _⟩
  · intro name listed
    obtain ⟨first, declared, -⟩ :=
      Fragment.uniforms_source state.pixel state.shading
    constructor
    · rw [declared]
      exact List.mem_append_right _ (List.mem_map.mpr ⟨name, listed, rfl⟩)
    · exact Combiner.exists_constant (Combiner.constants_subset _ listed)
  · exact fun settings fixed => Vertex.lighting_declared fixed vertexGenerated

/-- Quads under three lights of different types. -/
def lanterns : PipelineState :=
  { (default : PipelineState) with
    vertex :=
      { (default : VertexState) with
        program := .fixedFunction
          { (default : FixedFunction) with
            lighting := true
            lights := #v[.infinite, .off, .spot, .off, .local, .off, .off,
              .off]
            diffuseSource := .material } }
    geometry := ⟨.quads, .fill, .fill⟩ }

theorem uniforms_located_lanterns :
    ∃ sources stages vertex fragment header body,
      lanterns.sources = .ok sources ∧
        lanterns.stages = .ok stages ∧
        stages.vertex.items = .ok vertex ∧
        stages.fragment.items = .ok fragment ∧
        Located vertex ∧
        Located fragment ∧
        vertex = header ++ [mainFunction body] ∧
        (mentions (· == "lightLocalPosition2") body = true ↔
          "lightLocalPosition2" ∈ uniformNames header) := by
  obtain ⟨sources, generated⟩ : ∃ sources, lanterns.sources = .ok sources :=
    ⟨_, rfl⟩
  obtain ⟨stages, vertex, fragment, staged, ⟨vertexItems, -⟩,
    ⟨fragmentItems, -⟩, vertexLocated, fragmentLocated, -, -, lit⟩ :=
    uniforms_located generated
  obtain ⟨header, body, split, declared⟩ := lit _ rfl
  exact ⟨sources, stages, vertex, fragment, header, body, generated, staged,
    vertexItems, fragmentItems, vertexLocated, fragmentLocated, split,
    declared _ (by decide +kernel)⟩

end ShaderSynth
