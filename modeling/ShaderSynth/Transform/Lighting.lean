import ShaderSynth.Glsl.Source
import ShaderSynth.State.Vertex

/-!
# Lighting

Each enabled light adds an ambient, a diffuse and a specular term to the
vertex colors.  A light brings the uniforms it needs.
-/

namespace ShaderSynth.Transform

open Glsl

/-- A name with the number of a light. -/
def ofLight (stem : String) (light : Nat) : String :=
  stem ++ toString light

/-- The larger of zero and a dot product with the normal. -/
def litAmount (direction : Expr) : Expr :=
  .call2 "max" 0.0 (.call2 "dot" "tNormal" direction)

/-- The color a material color source gives, where scenes have one of their own. -/
def sceneColor : ColorSource → Expr
  | .material => "sceneAmbientColor"
  | .diffuse => .of "diffuse" "rgb"
  | .specular => .of "specular" "rgb"

/-- The alpha of lit vertices. -/
def litAlpha : ColorSource → Expr
  | .material => "material_alpha"
  | .diffuse => .of "diffuse" "a"
  | .specular => .of "specular" "a"

/-- The uniforms of a light. -/
def lightItems (light : Nat) : LightType → List Item
  | .off => []
  | .infinite =>
      [.uniform .vec3 (ofLight "lightInfiniteHalfVector" light) none,
        .uniform .vec3 (ofLight "lightInfiniteDirection" light) none]
  | .local | .spot =>
      [.uniform .vec3 (ofLight "lightLocalPosition" light) none,
        .uniform .vec3 (ofLight "lightLocalAttenuation" light) none]

/-- Direction, distance and attenuation of a light with a position. -/
def positionLines (light : Nat) : List Line :=
  let attenuation (component : String) : Expr :=
    .of (ofLight "lightLocalAttenuation" light) component
  let tightDiv := Expr.binary .div .tight
  let folded := Expr.binary .add (.folded 31)
  indented 2
    [.define .vec3 "VP"
        (ofLight "lightLocalPosition" light -
          tightDiv (.of "tPosition" "xyz") (.of "tPosition" "w")),
      .define .float "d" (.call "length" "VP"),
      .set "VP" (.call "normalize" "VP"),
      .define .float "attenuation"
        (1.0 / .group
          (folded (folded (attenuation "x") (attenuation "y" * .name "d"))
            (attenuation "z" * .name "d" * .name "d"))),
      .define .vec3 "halfVector"
        (.call "normalize"
          ("VP" + .of "eyePosition" "xyz" / .of "eyePosition" "w")),
      .define .float "nDotVP" (litAmount "VP"),
      .define .float "nDotHV" (litAmount "halfVector")]

/-- Direction of a light without a position. -/
def directionLines (light : Nat) : List Line :=
  indented 2
    [.define .float "attenuation" 1.0,
      .define .float "nDotVP"
        (litAmount (.call "normalize"
          (.call "vec3" (ofLight "lightInfiniteDirection" light)))),
      .define .float "nDotHV"
        (litAmount (.call "vec3" (ofLight "lightInfiniteHalfVector" light)))]

/-- The falloff of a spot light toward the rim of its cone. -/
def spotLines (light : Nat) : List Line :=
  let scaled := Expr.binary .mul .tight
  [⟨2, .define .vec4 "spotDir"
      (.call "lightSpotDirection" (.int light))⟩,
    ⟨2, .define .float "invScale"
      (.binary .div .tight (.int 1)
        (.call "length" (.of "spotDir" "xyz")))⟩,
    ⟨2, .define .float "cosHalfPhi"
      (scaled (-.name "invScale") (.of "spotDir" "w"))⟩,
    ⟨2, .define .float "cosHalfTheta"
      ("invScale" + .name "cosHalfPhi")⟩,
    ⟨2, .define .float "spotDirDotVP"
      (.call2 "dot" (.of "spotDir" "xyz") "VP")⟩,
    ⟨2, .define .float "rho" (scaled "invScale" "spotDirDotVP")⟩,
    ⟨2, .enter (.when (.compare .greater "rho" "cosHalfTheta"))⟩,
    ⟨2, .enter (.otherwiseWhen (.compare .lessEqual "rho" "cosHalfPhi"))⟩,
    ⟨4, .set "attenuation" 0.0⟩,
    ⟨2, .enter .otherwise⟩,
    ⟨4, .assign "attenuation" .mul
      ("spotDirDotVP" + .of "spotDir" "w")⟩,
    ⟨2, .leave⟩]

/-- The diffuse term: the light's, times the material's color. -/
def diffuseTerm : ColorSource → Expr
  | .material => "lightDiffuse"
  | .diffuse => .of "diffuse" "xyz" * .name "lightDiffuse"
  | .specular => .of "specular" "xyz" * .name "lightDiffuse"

/-- Adds the three terms of a light. -/
def termLines (light : Nat) (diffuseSource : ColorSource) : List Line :=
  [⟨2, .declareEmpty .float "pf"⟩,
    ⟨2, .enter (.when (.compare .equal "nDotVP" 0.0))⟩,
    ⟨4, .set "pf" 0.0⟩,
    ⟨2, .enter .otherwise⟩,
    ⟨4, .set "pf" (.call2 "pow" "nDotHV" (.literal "0.001"))⟩,
    ⟨2, .leave⟩,
    ⟨2, .define .vec3 "lightAmbient"
      (.call "lightAmbientColor" (.int light) * .name "attenuation")⟩,
    ⟨2, .define .vec3 "lightDiffuse"
      (.call "lightDiffuseColor" (.int light) * .name "attenuation" *
        .name "nDotVP")⟩,
    ⟨2, .define .vec3 "lightSpecular"
      (.call "lightSpecularColor" (.int light) * .name "pf")⟩,
    ⟨2, .assign (.of "oD0" "xyz") .add "lightAmbient"⟩,
    ⟨2, .assign (.of "oD0" "xyz") .add (diffuseTerm diffuseSource)⟩,
    ⟨2, .assign (.of "oD1" "xyz") .add
      (.of "specular" "xyz" * .name "lightSpecular")⟩]

/-- The code of a light. -/
def lightLines
    (diffuseSource : ColorSource) (light : Nat) (type : LightType) :
    List Line :=
  let geometry :=
    match type with
    | .off => []
    | .infinite => directionLines light
    | .local => positionLines light
    | .spot => positionLines light ++ spotLines light
  match type with
  | .off => []
  | _ =>
      [⟨0, .enter (.scope (some ("Light " ++ toString light)))⟩]
        ++ geometry ++ termLines light diffuseSource ++ [⟨0, .leave⟩]

/-- The uniforms of lighting. -/
def lightingItems (settings : FixedFunction) : List Item :=
  (if settings.diffuseSource = .material then
      [.uniform .float "material_alpha" none] else [])
    ++ settings.lights.toList.zipIdx.flatMap fun (type, light) =>
      lightItems light type

/-- The code of lighting: the scene's colors, then each light's terms. -/
def lightingLines (settings : FixedFunction) : List Line :=
  [⟨0, .set "oD0"
      (.call2 "vec4" (sceneColor settings.ambientSource)
        (litAlpha settings.diffuseSource))⟩,
    ⟨0, .assign (.of "oD0" "rgb") .mul (.of "materialEmissionColor" "rgb")⟩,
    ⟨0, .assign (.of "oD0" "rgb") .add
      (sceneColor settings.emissionSource)⟩,
    ⟨0, .set "oD1" (.call4 "vec4" 0.0 0.0 0.0 (.of "specular" "a"))⟩]
    ++ settings.lights.toList.zipIdx.flatMap fun (type, light) =>
      lightLines settings.diffuseSource light type

end ShaderSynth.Transform
