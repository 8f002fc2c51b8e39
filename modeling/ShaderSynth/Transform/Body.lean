import ShaderSynth.Transform.Layout
import ShaderSynth.Transform.Lighting
import ShaderSynth.Varying
import ShaderSynth.Warning

/-!
# The fixed transform pipeline

The body of a vertex stage that no program drives: vertex blending, texture
coordinates, lighting, fog distance, position and point size.
-/

namespace ShaderSynth.Transform

open Glsl

/-- The letters of the components. -/
def componentLetters : List String := ["x", "y", "z", "w"]

/-! ## Vertex blending -/

/-- A vector that is blended from several matrices. -/
structure Blend where
  type : Ty
  target : String
  operand : Expr
  matrix : String
  components : String

namespace Blend

/-- The position. -/
def position : Blend :=
  ⟨.vec4, "tPosition", "position", "modelViewMat", "xyzw"⟩

/-- The normal. -/
def normal : Blend :=
  ⟨.vec3, "tNormal", .call2 "vec4" "normal" 0.0, "invModelViewMat", "xyz"⟩

/-- The vector transformed by one of the matrices. -/
def transformed (blend : Blend) (index : Nat) : Expr :=
  (Expr.group
    (blend.operand * .name (blend.matrix ++ toString index))).select
      blend.components

/-- Adds the vector transformed by one of the matrices, times a weight. -/
def accumulate (blend : Blend) (index : Nat) (weight : Expr) : Statement :=
  .assign blend.target .add (blend.transformed index * weight)

/-- The terms of a blend whose last weight is what the others leave over. -/
def derivedLines (blend : Blend) (count : Nat) : List Line :=
  [⟨0, .enter (.scope none)⟩,
      ⟨2, .declareEmpty .float "weight_i"⟩,
      ⟨2, .define .float "weight_n" 1.0⟩]
    ++ (componentLetters.take count).zipIdx.flatMap (fun (letter, index) =>
      (if index + 1 < count then
          [⟨2, .set "weight_i" (.of "weight" letter)⟩,
            ⟨2, .assign "weight_n" .sub "weight_i"⟩]
        else [⟨2, .set "weight_i" "weight_n"⟩])
        ++ [⟨2, blend.accumulate index "weight_i"⟩])
    ++ [⟨0, .leave⟩]

/-- The code of a blend. -/
def lines (blend : Blend) (skinning : Skinning) : List Line :=
  let count := skinning.matrixCount
  if count = 0 then
    [⟨0, .define blend.type blend.target (blend.transformed 0)⟩]
  else
    ⟨0, .define blend.type blend.target
        (.call blend.type.keyword 0.0)⟩ ::
      if skinning.derivesLastWeight then blend.derivedLines count
      else
        (componentLetters.take count).zipIdx.map fun (letter, index) =>
          ⟨0, blend.accumulate index (.of "weight" letter)⟩

end Blend

/-! ## Texture coordinates -/

/-- Whether a generation mode is defined for a coordinate. -/
def texgenSupported (coordinate : Nat) : Texgen → Bool
  | .sphereMap => coordinate < 2
  | .reflectionMap | .normalMap => coordinate < 3
  | _ => true

/-- The reflected ray that two of the modes use. -/
def reflectionLines : List Line :=
  [⟨0, .enter (.scope none)⟩,
    ⟨2, .define .vec3 "u" (.call "normalize" (.of "tPosition" "xyz"))⟩,
    ⟨2, .define .vec3 "r" (.call2 "reflect" "u" "tNormal")⟩]

/-- The dot product with a plane. -/
def planeDistance (plane : String) (unit : Nat) (point : Expr) : Expr :=
  .call2 "dot" ("texPlane" ++ plane ++ toString unit) point

/-- The code of a generated coordinate. -/
def texgenLines
    (unit coordinate : Nat) (letter plane : String) (mode : Texgen) :
    List Line :=
  let target := Expr.of ("oT" ++ toString unit) letter
  let passed : List Line :=
    [⟨0, .set target (.of ("texture" ++ toString unit) letter)⟩]
  if texgenSupported coordinate mode then
    match mode with
    | .disable => passed
    | .eyeLinear => [⟨0, .set target (planeDistance plane unit "tPosition")⟩]
    | .objectLinear =>
        [⟨0, .set target (planeDistance plane unit "position")⟩]
    | .sphereMap =>
        reflectionLines
          ++ [⟨2, .define .float "invM"
              (1.0 / .group (2.0 *
                .call "length" ("r" + .call3 "vec3" 0.0 0.0 1.0)))⟩,
            ⟨2, .set target (.of "r" letter * .name "invM" + 0.5)⟩,
            ⟨0, .leave⟩]
    | .reflectionMap =>
        reflectionLines ++ [⟨2, .set target (.of "r" letter)⟩, ⟨0, .leave⟩]
    | .normalMap => [⟨0, .set target (.of "tNormal" letter)⟩]
  else passed

/-- The four coordinates of a unit with their letters and planes. -/
def coordinates (modes : Vector Texgen 4) :
    List ((Nat × String × String) × Texgen) :=
  [(0, "x", "S"), (1, "y", "T"), (2, "z", "R"), (3, "w", "Q")].zip
    modes.toList

/-- The code of all generated coordinates. -/
def texgenAllLines (settings : FixedFunction) : List Line :=
  settings.texgen.toList.zipIdx.flatMap fun (modes, unit) =>
    ⟨0, .comment ("Texgen for stage " ++ toString unit)⟩ ::
      (coordinates modes).flatMap fun ((coordinate, letter, plane), mode) =>
        texgenLines unit coordinate letter plane mode

/-- What the generated coordinates warn about. -/
def warnings (settings : FixedFunction) : List Warning :=
  settings.texgen.toList.zipIdx.flatMap fun (modes, unit) =>
    (coordinates modes).flatMap fun ((coordinate, letter, _), mode) =>
      if texgenSupported coordinate mode then []
      else [.texgenUnsupported unit letter mode]

/-- Applies the texture matrices that are switched on. -/
def textureMatrixLines (settings : FixedFunction) : List Line :=
  settings.textureMatrix.toList.zipIdx.flatMap fun (enabled, unit) =>
    let target := "oT" ++ toString unit
    if enabled then
      [⟨0, .set target (target * .name ("texMat" ++ toString unit))⟩]
    else []

/-! ## Fog and point size -/

/-- The distance that fog depends on. -/
def fogDistanceLines (fog : FogState) : List Line :=
  let planar : Expr :=
    .call2 "dot" (.of "fogPlane" "xyz") (.of "tPosition" "xyz")
      + .of "fogPlane" "w"
  if fog.enable then
    match fog.source with
    | .specularAlpha =>
        [⟨2, .define .float "fogDistance"
          (.call3 "clamp" (.of "specular" "a") 0.0 1.0)⟩]
    | .radial =>
        [⟨2, .define .float "fogDistance"
          (.call "length" (.of "tPosition" "xyz"))⟩]
    | .planar => [⟨2, .define .float "fogDistance" planar⟩]
    | .absPlanar =>
        [⟨2, .define .float "fogDistance" planar⟩,
          ⟨2, .set "fogDistance" (.call "abs" "fogDistance")⟩]
    | .coordinate => [⟨2, .define .float "fogDistance" "fogCoord"⟩]
  else []

/-- A single-precision setting, written with six places. -/
def setting (value : Single) : Expr :=
  .literal value.fixed

/-- The size of points: fixed, or falling off with distance. -/
def pointLines (state : VertexState) : List Line :=
  let point := state.point
  let param (number : Nat) : Expr := setting (point.param number)
  let scale : Expr := .int state.surfaceScale.toNat
  let scaled := Expr.binary .mul .tight
  if point.paramsEnable then
    [⟨2, .define .float "d_e"
        (.call "length" ("position" * .name "modelViewMat0"))⟩,
      ⟨2, .set (.of "oPts" "x")
        (.binary .div .tight (.int 1)
            (.call "sqrt"
              (param 0 + scaled (param 1) "d_e" +
                scaled (scaled (param 2) "d_e") "d_e"))
          + param 6)⟩,
      ⟨2, .set (.of "oPts" "x")
        (.call2 "min"
            (scaled (.of "oPts" "x") (param 3) + param 7)
            64.0
          * scale)⟩]
  else [⟨2, .set (.of "oPts" "x") (setting point.size * scale)⟩]

/-- The position on the screen. -/
def screenLines (skinning : Skinning) : List Line :=
  (if skinning = .off then [⟨2, .set "tPosition" "position"⟩] else [])
    ++ [⟨3, .set "oPos"
        ("invViewport" * .group ("tPosition" * .name "compositeMat"))⟩,
      ⟨3, .set (.of "oPos" "z") (.of "oPos" "z" * 2.0 - .of "oPos" "w")⟩]

/-! ## The whole pipeline -/

/-- The colors: lit ones, or the incoming ones. -/
def colorLines (settings : FixedFunction) : List Line :=
  (if settings.lighting then lightingLines settings
    else [⟨2, .set "oD0" "diffuse"⟩, ⟨2, .set "oD1" "specular"⟩])
    ++ [⟨2, .set "oB0" "backDiffuse"⟩, ⟨2, .set "oB1" "backSpecular"⟩]

/-- Everything the pipeline declares at file level. -/
def items (settings : FixedFunction) : List Item :=
  declarations ++ if settings.lighting then lightingItems settings else []

/-- The body of the vertex stage. -/
def lines (state : VertexState) (settings : FixedFunction) : List Line :=
  [⟨0, .comment ("Skinning mode " ++
      toString (Coded.code settings.skinning).toNat)⟩]
    ++ Blend.position.lines settings.skinning
    ++ Blend.normal.lines settings.skinning
    ++ (if settings.normalization then
        [⟨0, .set "tNormal" (.call "normalize" "tNormal")⟩] else [])
    ++ texgenAllLines settings
    ++ textureMatrixLines settings
    ++ colorLines settings
    ++ fogDistanceLines state.fog
    ++ screenLines settings.skinning
    ++ pointLines state
    ++ inverseWLines

end ShaderSynth.Transform
