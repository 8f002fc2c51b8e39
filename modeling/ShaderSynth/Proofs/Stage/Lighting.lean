import ShaderSynth.Proofs.Fallible
import ShaderSynth.Proofs.Glsl.Names
import ShaderSynth.Stage.Vertex

/-!
# Uniforms of lighting

The fixed pipeline declares uniforms for the lights and for the material's
alpha in one place and mentions them in another, and both depend on the types
of the lights, on the source of the diffuse color and on whether there is
lighting at all.  Every line apart from the ones of lighting mentions none of
them, and each light mentions what it declares.
-/

namespace ShaderSynth

open Glsl

namespace Transform

/-- Whether a name is one of a light's uniform or of the material's alpha. -/
def ofLighting (name : String) : Bool :=
  name == "material_alpha" || name.startsWith "lightInfinite"
    || name.startsWith "lightLocal"

/-- What a fixed pipeline mentions by a name without a number. -/
def plainNames : List String :=
  ["abs", "attenuation", "backDiffuse", "backSpecular", "clamp",
    "clipRange", "compositeMat", "cosHalfPhi", "cosHalfTheta", "d", "d_e",
    "decompress_11_11_10", "diffuse", "dot", "exp2", "eyePosition",
    "fogCoord", "fogDistance", "fogFactor", "fogParam", "fogPlane",
    "gl_ClipDistance", "gl_PointSize", "gl_Position", "halfVector", "invM",
    "invScale", "invViewport", "isinf", "length", "lightAmbient",
    "lightAmbientColor", "lightDiffuse", "lightDiffuseColor",
    "lightSpecular", "lightSpecularColor", "lightSpotDirection",
    "materialEmissionColor", "max", "min", "modelViewMat0", "nDotHV",
    "nDotVP", "normalize", "oB0", "oB1", "oD0", "oD1", "oFog", "oPos",
    "oPts", "pf", "position", "pow", "r", "reflect", "rho",
    "sceneAmbientColor", "specular", "spotDir", "spotDirDotVP", "sqrt",
    "tNormal", "tPosition", "u", "vec3", "vec4", "VP", "vtx_inv_w",
    "vtx_inv_w_flat", "vtxB0", "vtxB1", "vtxD0", "vtxD1", "vtxFog",
    "weight", "weight_i", "weight_n"]

theorem ofLighting_plainNames :
    ∀ name ∈ plainNames, ofLighting name = false := by
  decide +kernel

/-- What the numbered names of a vertex stage start with. -/
def numberedLeads : List String :=
  ["v", "oT", "texture", "texPlane", "texMat", "vtxT", "modelViewMat",
    "invModelViewMat"]

theorem ofLighting_append {lead : String} (numbered : lead ∈ numberedLeads)
    (ending : String) :
    ofLighting (lead ++ ending) = false := by
  simp only [numberedLeads, List.mem_cons, List.not_mem_nil, or_false]
    at numbered
  rcases numbered with rfl | rfl | rfl | rfl | rfl | rfl | rfl | rfl <;>
    simp [ofLighting, ← String.toList_inj]

/-- Lines that mention no uniform of lighting. -/
def Unlit (lines : List Line) : Prop :=
  mentions ofLighting lines = false

@[simp]
theorem unlit_nil : Unlit [] :=
  rfl

@[simp]
theorem unlit_cons {line : Line} {lines : List Line} :
    Unlit (line :: lines) ↔
      line.statement.mentions ofLighting = false ∧ Unlit lines :=
  Bool.or_eq_false_iff

@[simp]
theorem unlit_append {first second : List Line} :
    Unlit (first ++ second) ↔ Unlit first ∧ Unlit second := by
  rw [Unlit, mentions_append, Bool.or_eq_false_iff]
  rfl

theorem unlit_flatMap {index : Type} {list : List index}
    {lines : index → List Line} :
    Unlit (list.flatMap lines) ↔ ∀ number ∈ list, Unlit (lines number) := by
  rw [Unlit, mentions_flatMap, List.any_eq_false]
  exact forall₂_congr fun _ _ => Bool.eq_false_iff.symm

@[simp]
theorem unlit_map {index : Type} {list : List index} {line : index → Line} :
    Unlit (list.map line) ↔
      ∀ number ∈ list,
        (line number).statement.mentions ofLighting = false := by
  rw [List.map_eq_flatMap, unlit_flatMap]
  simp

/-- Unlit lines mention none of the names. -/
theorem Unlit.mentions_eq_false {lines : List Line} (unlit : Unlit lines)
    {name : String} (lit : ofLighting name = true) :
    mentions (· == name) lines = false := by
  rw [Bool.eq_false_iff]
  intro mentioned
  have found : mentions ofLighting lines = true :=
    mentions_mono (fun other same => eq_of_beq same ▸ lit) mentioned
  exact Bool.false_ne_true (unlit.symm.trans found)

/-! ## Lines apart from lighting -/

theorem unlit_blend {blend : Blend} (skinning : Skinning)
    (target : ofLighting blend.target = false)
    (type : ofLighting blend.type.keyword = false)
    (operand : blend.operand.mentions ofLighting = false)
    (matrix : ∀ ending, ofLighting (blend.matrix ++ ending) = false) :
    Unlit (blend.lines skinning) := by
  have plain := ofLighting_plainNames
  simp only [plainNames, List.forall_mem_cons] at plain
  have transformed (index : Nat) :
      (blend.transformed index).mentions ofLighting = false := by
    simp [Blend.transformed, operand, matrix]
  have accumulated (index : Nat) {weight : Expr}
      (unlit : weight.mentions ofLighting = false) :
      (blend.accumulate index weight).mentions ofLighting = false := by
    simp [Blend.accumulate, target, transformed, unlit]
  have derived (count : Nat) : Unlit (blend.derivedLines count) := by
    simp only [Blend.derivedLines, unlit_append, unlit_flatMap]
    refine ⟨⟨by simp [plain], fun (letter, index) _ => ⟨?_, ?_⟩⟩, rfl⟩
    · split <;> simp [plain]
    · simp [accumulated, plain]
  unfold Blend.lines
  dsimp only
  split
  · simp [target, transformed]
  · refine unlit_cons.mpr ⟨by simp [target, type], ?_⟩
    split
    · exact derived _
    · refine unlit_map.mpr fun (letter, index) _ => ?_
      simp [accumulated, plain]

theorem unlit_position (skinning : Skinning) :
    Unlit (Blend.position.lines skinning) :=
  unlit_blend skinning (by simp [Blend.position, ofLighting])
    (by simp [Blend.position, ofLighting, Ty.keyword])
    (by simp [Blend.position, ofLighting])
    fun _ => ofLighting_append (by decide) _

theorem unlit_normal (skinning : Skinning) :
    Unlit (Blend.normal.lines skinning) :=
  unlit_blend skinning (by simp [Blend.normal, ofLighting])
    (by simp [Blend.normal, ofLighting, Ty.keyword])
    (by simp [Blend.normal, ofLighting])
    fun _ => ofLighting_append (by decide) _

theorem unlit_texgenLines
    (unit coordinate : Nat) (letter plane : String) (mode : Texgen) :
    Unlit (texgenLines unit coordinate letter plane mode) := by
  have target (ending : String) : ofLighting ("oT" ++ ending) = false :=
    ofLighting_append (by decide) _
  have passed (ending : String) : ofLighting ("texture" ++ ending) = false :=
    ofLighting_append (by decide) _
  have planes (ending : String) :
      ofLighting ("texPlane" ++ plane ++ ending) = false := by
    rw [String.append_assoc]
    exact ofLighting_append (by decide) _
  have plain := ofLighting_plainNames
  simp only [plainNames, List.forall_mem_cons] at plain
  unfold texgenLines
  split
  · split <;>
      simp [reflectionLines, planeDistance,
        target, passed, planes, plain]
  · simp [target, passed]

theorem unlit_texgenAllLines (settings : FixedFunction) :
    Unlit (texgenAllLines settings) := by
  refine unlit_flatMap.mpr fun (modes, unit) _ => unlit_cons.mpr ⟨rfl, ?_⟩
  exact unlit_flatMap.mpr fun _ _ => unlit_texgenLines ..

theorem unlit_textureMatrixLines (settings : FixedFunction) :
    Unlit (textureMatrixLines settings) := by
  refine unlit_flatMap.mpr fun (enabled, unit) _ => ?_
  have target (ending : String) : ofLighting ("oT" ++ ending) = false :=
    ofLighting_append (by decide) _
  have matrix (ending : String) : ofLighting ("texMat" ++ ending) = false :=
    ofLighting_append (by decide) _
  dsimp only
  split
  · simp [target, matrix]
  · rfl

theorem unlit_fogDistanceLines (fog : FogState) :
    Unlit (fogDistanceLines fog) := by
  have plain := ofLighting_plainNames
  simp only [plainNames, List.forall_mem_cons] at plain
  unfold fogDistanceLines
  split
  · dsimp only
    split <;> simp [plain]
  · rfl

theorem unlit_screenLines (skinning : Skinning) :
    Unlit (screenLines skinning) := by
  have plain := ofLighting_plainNames
  simp only [plainNames, List.forall_mem_cons] at plain
  unfold screenLines
  split <;> simp [plain]

theorem unlit_pointLines (state : VertexState) :
    Unlit (pointLines state) := by
  have plain := ofLighting_plainNames
  simp only [plainNames, List.forall_mem_cons] at plain
  unfold pointLines
  dsimp only
  split
  · simp [setting, plain]
  · simp [setting, plain]

theorem unlit_inverseWLines : Unlit inverseWLines := by
  have plain := ofLighting_plainNames
  simp only [plainNames, List.forall_mem_cons] at plain
  simp [inverseWLines, plain]

/-! ## Lines of lighting -/

theorem unlit_spotLines (light : Nat) : Unlit (spotLines light) := by
  have plain := ofLighting_plainNames
  simp only [plainNames, List.forall_mem_cons] at plain
  simp [spotLines, plain]

theorem unlit_termLines (light : Nat) (diffuseSource : ColorSource) :
    Unlit (termLines light diffuseSource) := by
  have plain := ofLighting_plainNames
  simp only [plainNames, List.forall_mem_cons] at plain
  cases diffuseSource <;>
    simp [termLines, diffuseTerm, plain]

section Lit

variable {name : String} (lit : ofLighting name = true)
include lit

theorem beq_eq_false {other : String} (plain : ofLighting other = false) :
    (other == name) = false := by
  rw [beq_eq_false_iff_ne]
  rintro rfl
  exact Bool.false_ne_true (plain.symm.trans lit)

theorem mentions_directionLines (light : Nat) :
    mentions (· == name) (directionLines light) = true ↔
      ofLight "lightInfiniteDirection" light = name ∨
        ofLight "lightInfiniteHalfVector" light = name := by
  have plain := ofLighting_plainNames
  simp only [plainNames, List.forall_mem_cons] at plain
  simp [directionLines, indented, litAmount,
    beq_eq_false lit, plain]

theorem mentions_positionLines (light : Nat) :
    mentions (· == name) (positionLines light) = true ↔
      ofLight "lightLocalPosition" light = name ∨
        ofLight "lightLocalAttenuation" light = name := by
  have plain := ofLighting_plainNames
  simp only [plainNames, List.forall_mem_cons] at plain
  simp [positionLines, indented, litAmount,
    beq_eq_false lit, plain]

/-- The code of a light mentions what the light declares. -/
theorem mentions_lightLines
    (diffuseSource : ColorSource) (light : Nat) (type : LightType) :
    mentions (· == name) (lightLines diffuseSource light type) = true ↔
      name ∈ uniformNames (lightItems light type) := by
  have framed (geometry : List Line) :
      mentions (· == name)
          ([⟨0, .enter (.scope (some ("Light " ++ toString light)))⟩]
            ++ geometry ++ termLines light diffuseSource ++ [⟨0, .leave⟩]) =
        mentions (· == name) geometry := by
    have terms := (unlit_termLines light diffuseSource).mentions_eq_false lit
    simp only [mentions_append, terms, Bool.or_false]
    simp [mentions]
  have spot := (unlit_spotLines light).mentions_eq_false lit
  cases type with
  | off => exact iff_of_false Bool.false_ne_true List.not_mem_nil
  | infinite =>
      refine (Bool.eq_iff_iff.mp (framed (directionLines light))).trans ?_
      rw [mentions_directionLines lit, or_comm]
      simp [lightItems, uniformNames, uniforms, Item.uniforms, @eq_comm _ name]
  | «local» =>
      refine (Bool.eq_iff_iff.mp (framed (positionLines light))).trans ?_
      rw [mentions_positionLines lit]
      simp [lightItems, uniformNames, uniforms, Item.uniforms, @eq_comm _ name]
  | spot =>
      refine (Bool.eq_iff_iff.mp
        (framed (positionLines light ++ spotLines light))).trans ?_
      rw [mentions_append, spot, Bool.or_false, mentions_positionLines lit]
      simp [lightItems, uniformNames, uniforms, Item.uniforms, @eq_comm _ name]

theorem mentions_sceneColor (source : ColorSource) :
    (sceneColor source).mentions (· == name) = false := by
  have plain := ofLighting_plainNames
  simp only [plainNames, List.forall_mem_cons] at plain
  cases source <;>
    simp [sceneColor, beq_eq_false lit, plain]

theorem mentions_litAlpha (source : ColorSource) :
    (litAlpha source).mentions (· == name) = true ↔
      name ∈ uniformNames (if source = .material then
        [.uniform .float "material_alpha" none] else []) := by
  have plain := ofLighting_plainNames
  simp only [plainNames, List.forall_mem_cons] at plain
  cases source <;>
    simp [litAlpha, beq_eq_false lit, plain, uniformNames,
      uniforms, Item.uniforms, @eq_comm _ name]

theorem mentions_lightingLines (settings : FixedFunction) :
    mentions (· == name) (lightingLines settings) = true ↔
      name ∈ uniformNames (lightingItems settings) := by
  have plain := ofLighting_plainNames
  simp only [plainNames, List.forall_mem_cons] at plain
  have head (ambient alpha emission : Expr)
      (ambientPlain : ambient.mentions (· == name) = false)
      (emissionPlain : emission.mentions (· == name) = false) :
      mentions (· == name)
        [⟨0, .set "oD0" (.call2 "vec4" ambient alpha)⟩,
          ⟨0, .assign (.of "oD0" "rgb") .mul
            (.of "materialEmissionColor" "rgb")⟩,
          ⟨0, .assign (.of "oD0" "rgb") .add emission⟩,
          ⟨0, .set "oD1" (.call4 "vec4" 0.0 0.0 0.0 (.of "specular" "a"))⟩] =
        alpha.mentions (· == name) := by
    simp [Expr.call4, beq_eq_false lit, plain,
      ambientPlain, emissionPlain]
  rw [lightingLines, mentions_append,
    head _ _ _ (mentions_sceneColor lit _) (mentions_sceneColor lit _),
    mentions_flatMap, lightingItems, uniformNames_append, List.mem_append,
    Bool.or_eq_true_iff, mentions_litAlpha lit, List.any_eq_true,
    mem_uniformNames_flatMap]
  refine or_congr Iff.rfl (exists_congr fun (type, light) => ?_)
  exact and_congr Iff.rfl
    (mentions_lightLines lit settings.diffuseSource light type)

/-- The fixed pipeline mentions what it declares, if it lights at all. -/
theorem mentions_lines (state : VertexState) (settings : FixedFunction) :
    mentions (· == name) (lines state settings) = true ↔
      settings.lighting = true ∧
        name ∈ uniformNames (lightingItems settings) := by
  have plain := ofLighting_plainNames
  simp only [plainNames, List.forall_mem_cons] at plain
  have unlit {segment : List Line} (none : Unlit segment) :
      mentions (· == name) segment = false :=
    none.mentions_eq_false lit
  have normalized :
      Unlit (if settings.normalization then
        [⟨0, .set "tNormal" (.call "normalize" "tNormal")⟩] else []) := by
    split
    · simp [plain]
    · rfl
  have note (text : String) : Unlit [⟨0, .comment text⟩] := rfl
  have colors :
      mentions (· == name) (colorLines settings) = true ↔
        settings.lighting = true ∧
          name ∈ uniformNames (lightingItems settings) := by
    have back :
        Unlit
          [⟨2, .set "oB0" "backDiffuse"⟩,
            ⟨2, .set "oB1" "backSpecular"⟩] := by
      simp [plain]
    have front :
        Unlit [⟨2, .set "oD0" "diffuse"⟩, ⟨2, .set "oD1" "specular"⟩] := by
      simp [plain]
    rw [colorLines, mentions_append, unlit back, Bool.or_false]
    split
    · rename_i lighting
      rw [mentions_lightingLines lit, and_iff_right lighting]
    · rename_i dark
      rw [unlit front]
      exact iff_of_false Bool.false_ne_true (fun both => dark both.1)
  rw [lines]
  simp only [mentions_append, unlit (note _), unlit (unlit_position _),
    unlit (unlit_normal _), unlit normalized, unlit (unlit_texgenAllLines _),
    unlit (unlit_textureMatrixLines _), unlit (unlit_fogDistanceLines _),
    unlit (unlit_screenLines _), unlit (unlit_pointLines _),
    unlit unlit_inverseWLines, Bool.false_or, Bool.or_false]
  exact colors

end Lit

/-! ## What the fixed pipeline declares -/

theorem uniforms_items (settings : FixedFunction) :
    uniforms (items settings) =
      [("ltctxa", some lightContextACount),
        ("ltctxb", some lightContextBCount),
        ("ltc1", some lightContext1Count), ("invViewport", none)]
        ++ if settings.lighting then uniforms (lightingItems settings)
          else [] := by
  have fixed :
      uniforms declarations =
        [("ltctxa", some lightContextACount),
          ("ltctxb", some lightContextBCount),
          ("ltc1", some lightContext1Count), ("invViewport", none)] :=
    rfl
  rw [items, uniforms_append, fixed]
  split <;> rfl

end Transform

namespace Vertex

open Transform

theorem uniforms_sharedItems
    (state : VertexState) (shading : Shading) (renamed : Bool) :
    uniforms (sharedItems state shading renamed) =
      [("clipRange", none), ("surfaceSize", none),
        ("c", some constantCount), ("fogParam", some 2)] := by
  have outputs : uniforms (outputItems shading renamed) = [] := by
    cases shading <;> cases renamed <;> rfl
  have attributes : uniforms (attributeItems state) = [] := by
    refine uniforms_eq_nil fun item member => ?_
    obtain ⟨number, _, rfl⟩ := List.mem_map.mp member
    dsimp only
    split <;> rfl
  rw [sharedItems]
  simp only [uniforms_append, outputs, attributes]
  rfl

theorem unlit_unpackLines (state : VertexState) :
    Unlit (unpackLines state) := by
  have attributeName (ending : String) : ofLighting ("v" ++ ending) = false :=
    ofLighting_append (by decide) _
  have packedName (number : String) :
      ofLighting ("v" ++ number ++ "_cmp") = false := by
    rw [String.append_assoc]
    exact attributeName _
  have plain := ofLighting_plainNames
  simp only [plainNames, List.forall_mem_cons] at plain
  refine unlit_map.mpr fun number _ => ?_
  simp [attributeName, packedName, plain]

theorem unlit_fogLines (state : VertexState) : Unlit (fogLines state) := by
  have plain := ofLighting_plainNames
  simp only [plainNames, List.forall_mem_cons] at plain
  have curve : Unlit (fogCurveLines state.fog.mode) := by
    cases state.fog.mode <;>
      simp [fogCurveLines, fogCurveLines.exponential, finiteFogLines,
        fogParam, plain]
  have absolute :
      Unlit (if state.fog.mode.isAbs then
        [⟨2, .set "fogFactor" (.call "abs" "fogFactor")⟩] else []) := by
    split
    · simp [plain]
    · rfl
  unfold fogLines
  split
  · simp only [unlit_append]
    refine ⟨⟨⟨?_, curve⟩, absolute⟩, by simp [plain]⟩
    split
    · simp [plain]
    · rfl
  · simp [plain]

theorem unlit_outputLines (shading : Shading) :
    Unlit (outputLines shading) := by
  have unitNames (ending : String) :
      ofLighting ("vtxT" ++ ending) = false ∧
        ofLighting ("oT" ++ ending) = false :=
    ⟨ofLighting_append (by decide) _, ofLighting_append (by decide) _⟩
  have plain := ofLighting_plainNames
  simp only [plainNames, List.forall_mem_cons] at plain
  have inverse : ofLighting shading.inverseW = false := by
    cases shading <;> simp [Shading.inverseW, plain]
  simp [outputLines, colorNames, unitNames, inverse, plain]

/--
The vertex stage of a fixed pipeline mentions a uniform of a light, or the
material's alpha, in its main function exactly if it declares it before.
-/
theorem lighting_declared
    {state : VertexState} {settings : FixedFunction}
    (fixed : state.program = .fixedFunction settings)
    {shading : Shading} {renamed : Bool} {items : List Item}
    (generated : source state shading renamed = .ok items) :
    ∃ header body,
      items = header ++ [mainFunction body] ∧
        ∀ name, ofLighting name = true →
          (mentions (· == name) body = true ↔
            name ∈ uniformNames header) := by
  rw [source, programCode, fixed] at generated
  refine ⟨_, _, (Except.ok.inj generated).symm, fun name lit => ?_⟩
  let sharedNames :=
    ["clipRange", "surfaceSize", "c", "fogParam", "ltctxa", "ltctxb", "ltc1",
      "invViewport"]
  have plain : ∀ other ∈ sharedNames, ofLighting other = false := by
    simp [sharedNames, ofLighting]
  have apart : name ∉ sharedNames := fun member =>
    Bool.false_ne_true ((plain name member).symm.trans lit)
  have names :
      uniformNames
          (sharedItems state shading renamed ++ Transform.items settings) =
        sharedNames ++ if settings.lighting then
          uniformNames (lightingItems settings) else [] := by
    rw [uniformNames, uniforms_append, uniforms_sharedItems, uniforms_items]
    split <;> rfl
  have declared :
      name ∈ uniformNames
          (sharedItems state shading renamed ++ Transform.items settings) ↔
        settings.lighting = true ∧
          name ∈ uniformNames (lightingItems settings) := by
    rw [names, List.mem_append, or_iff_right apart]
    split
    · rename_i lighting
      rw [and_iff_right lighting]
    · rename_i dark
      exact iff_of_false List.not_mem_nil fun both => dark both.1
  rw [declared, mentions_append, mentions_append, mentions_append,
    (unlit_unpackLines state).mentions_eq_false lit,
    (unlit_fogLines state).mentions_eq_false lit,
    (unlit_outputLines shading).mentions_eq_false lit,
    Bool.false_or, Bool.or_false, Bool.or_false]
  exact mentions_lines lit state settings

end Vertex

end ShaderSynth
