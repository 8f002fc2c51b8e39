import ShaderSynth.Glsl.Source
import ShaderSynth.Texture.Settings
import ShaderSynth.Warning

/-!
# Texture fetches

Each texture unit computes a vector `t0` to `t3` for the combiners.  The code
of a unit is a `Fetch`: the uniforms it needs, the lines that declare its
vector, and the kind of sampler it looks up, if it does.

Units run in order, and a unit only builds on earlier ones.  A mode that is
unknown, or that the unit cannot run, yields zero.
-/

namespace ShaderSynth.Texture

open Glsl

/-- The code of a texture unit. -/
structure Fetch where
  uniforms : List Item
  lines : List Line
  sampler : Option Sampler

namespace Fetch

/-- A fetch that computes its vector without a lookup. -/
def computed (lines : List Line) : Fetch :=
  ⟨[], lines, none⟩

/-- A fetch that looks up a texture. -/
def lookup (sampler : Sampler) (lines : List Line) : Fetch :=
  ⟨[], lines, some sampler⟩

end Fetch

/-- A name with a number. -/
def numbered (stem : String) (number : Nat) : String :=
  stem ++ toString number

/-- A zero vector of four components. -/
def zeroVector : Expr := .call "vec4" 0.0

/-- The comment that names a mode. -/
def modeComment (text : String) : String :=
  "PS_TEXTUREMODES_" ++ text

/-- Zero, with a comment that names the mode. -/
def placeholder (unit : Nat) (mode : String) : Line :=
  ⟨0, .declare .vec4 (numbered "t" unit) (some zeroVector)
    (some (modeComment mode))⟩

/-- The texture units of a pixel configuration. -/
structure Units where
  state : PixelState
  settings : Settings

/-- The texture units of a pixel configuration. -/
def Units.ofPixel (state : PixelState) : Units :=
  ⟨state, .ofPixel state⟩

namespace Units

/-- The settings of a unit. -/
def texture (units : Units) (unit : Fin 4) : TextureState :=
  units.state.textures.get unit

/-- The sampler of a plain texture. -/
def plainSampler (units : Units) (unit : Fin 4) : Sampler :=
  if (units.texture unit).rect then .rectangle else .flat

/-- Whether a unit's texture has a border. -/
def hasBorder (units : Units) (unit : Fin 4) : Bool :=
  !(units.texture unit).borderLogicalSize[0].isZero

/-- A vector of three settings. -/
def sizeVector (sizes : Vector Single 3) : Expr :=
  .call3 "vec3" (.literal sizes[0].fixed) (.literal sizes[1].fixed)
    (.literal sizes[2].fixed)

/-- Moves coordinates past the border of four texels around a bordered texture. -/
def borderLines
    (units : Units) (unit : Fin 4) (coordinates components : String) :
    List Line :=
  let texture := units.texture unit
  let logical := numbered "t" unit ++ "LogicalSize"
  let inverse := numbered "t" unit ++ "InvRealSize"
  if units.hasBorder unit then
    [⟨0, .define .vec3 logical (sizeVector texture.borderLogicalSize)⟩,
      ⟨0, .define .vec3 inverse (sizeVector texture.borderInverseSize)⟩,
      ⟨0, .set (.of coordinates components)
        (.group (.of coordinates components * .of logical components + 4.0)
          * .of inverse components)⟩]
  else []

/-- A lookup that declares the unit's vector. -/
def lookupLine
    (unit : Fin 4) (function : String) (coordinates : Expr) : Line :=
  ⟨0, .define .vec4 (numbered "t" unit)
    (.call2 function (numbered "texSamp" unit) coordinates)⟩

/-- The scale of a unit's coordinates. -/
def scale (unit : Fin 4) : Expr :=
  numbered "texScale" unit

/-- The dot product of a unit's coordinates and the mapped result of another. -/
def dotExpr (units : Units) (unit : Fin 4) : Expr :=
  .call2 "dot" (.of (numbered "pT" unit) "xyz")
    (.call (units.settings.dotMapping unit).function
      (numbered "t" (units.settings.inputUnit unit)))

/-- Names the mode and declares the unit's dot product. -/
def dotLines (units : Units) (unit : Fin 4) (mode : Mode) : List Line :=
  [⟨0, .comment (modeComment mode.text)⟩,
    ⟨0, .define .float (numbered "dot" unit) (units.dotExpr unit)⟩]

/-- Compares the looked-up depth; the result is one or zero. -/
def depthLine (unit : Fin 4) (operator : Operator) (limit : Expr) : Line :=
  ⟨0, .define .vec4 (numbered "t" unit)
    (.call "vec4"
      (.choose
        (.compare operator (.of (numbered "t" unit ++ "_depth") "x") limit)
        1.0 0.0))⟩

/--
Scales the looked-up depth up to the range of its format, and brings the
coordinate it is compared with into the same range.
-/
def depthRangeLines (coordinates depth maxDepth : String) : List Line :=
  [⟨0, .declareEmpty .float maxDepth⟩,
    ⟨0, .enter (.when (.compare .greater (.of depth "y") (.int 0)))⟩,
    ⟨2, .set maxDepth (.literal "0xFFFFFF")⟩,
    ⟨0, .enter .otherwise⟩,
    ⟨2, .set maxDepth
      (.choose (.compare .greater (.of depth "z") (.int 0))
        (.literal "511.9375") (.literal "0xFFFF"))⟩,
    ⟨0, .leave⟩,
    ⟨0, .assign (.of depth "x") .mul maxDepth⟩,
    ⟨0, .set (.of coordinates "z")
      (.call3 "clamp" (.of coordinates "z" / .of coordinates "w")
        (.int 0) maxDepth)⟩]

/-- A shadow lookup, which compares depth; some comparisons need no lookup. -/
def shadowLines (units : Units) (unit : Fin 4) (compareZ : Bool) :
    List Line :=
  let vector := numbered "t" unit
  let coordinates := numbered "pT" unit
  let depth := vector ++ "_depth"
  match units.state.shadowFunction.operator? with
  | none =>
      let value : Expr :=
        if units.state.shadowFunction = .never then 0.0 else 1.0
      [⟨0, .define .vec4 vector (.call "vec4" value)⟩]
  | some operator =>
      [⟨0, .assign (.of coordinates "xy") .mul (scale unit)⟩,
        ⟨0, .define .vec4 depth
          (.call2 "textureProj" (numbered "texSamp" unit)
            (.of coordinates "xyw"))⟩]
      ++
      if compareZ then
        depthRangeLines coordinates depth (vector ++ "_max_depth")
          ++ [depthLine unit operator (.of coordinates "z")]
      else [depthLine unit operator 0.0]

/-- The clip tests of a unit's four coordinates. -/
def clipLines (units : Units) (unit : Fin 4) : List Line :=
  (["x", "y", "z", "w"].zip (units.texture unit).compareMode.toList).map
    fun (component, fromZero) =>
      let operator := if fromZero then Operator.greaterEqual else .less
      ⟨2, .guard .tight
        (.compare operator (.of (numbered "pT" unit) component) 0.0)
        .discard⟩

/-- A projective lookup of a plain texture, perhaps through a filter. -/
def projectFetch (units : Units) (unit : Fin 4) : Fetch :=
  let texture := units.texture unit
  let coordinates := numbered "pT" unit
  let function :=
    if texture.convolution != .disabled && texture.rect then
      "gaussianFilter2DRectProj"
    else "textureProj"
  .lookup (units.plainSampler unit)
    (if texture.shadowMap then units.shadowLines unit false
      else
        units.borderLines unit coordinates "xyz"
          ++ [⟨0, .set (.of coordinates "xy")
              (scale unit * .of coordinates "xy")⟩,
            lookupLine unit function (.of coordinates "xyw")])

/-- A projective lookup of a volume. -/
def volumeFetch (units : Units) (unit : Fin 4) : Fetch :=
  let coordinates := numbered "pT" unit
  if (units.texture unit).shadowMap then
    .lookup (units.plainSampler unit) (units.shadowLines unit true)
  else
    .lookup .volume
      (units.borderLines unit coordinates "xyz"
        ++ [lookupLine unit "textureProj" (.of coordinates "xyzw")])

/-- A component of an earlier result as a signed number. -/
def signedComponent (source component : String) : Expr :=
  .call "sign3" (.of source component)

/-- A lookup displaced by an earlier result. -/
def bumpFetch (units : Units) (unit : Fin 4) : Fetch :=
  let input := units.settings.inputUnit unit
  let source := numbered "t" input
  let offset := numbered "dsdt" unit
  let matrix := numbered "bumpMat" unit
  let displacement : Expr :=
    if (units.texture input).signed then .of source "bg"
    else
      .call2 "vec2" (signedComponent source "b") (signedComponent source "g")
  { uniforms := [.uniform .mat2 matrix none]
    lines :=
      [⟨0, .define .vec2 offset displacement⟩,
        ⟨0, .set offset (matrix * .name offset)⟩,
        lookupLine unit "texture"
          (scale unit *
            .group (.of (numbered "pT" unit) "xy" + .name offset))]
    sampler := some (units.plainSampler unit) }

/-- As `bumpFetch`, with a luminance that scales the result. -/
def bumpLuminanceFetch (units : Units) (unit : Fin 4) : Fetch :=
  let input := units.settings.inputUnit unit
  let source := numbered "t" input
  let vector := numbered "t" unit
  let offset := numbered "dsdtl" unit
  let matrix := numbered "bumpMat" unit
  let gain := numbered "bumpScale" unit
  let bias := numbered "bumpOffset" unit
  let displacement : Expr :=
    if (units.texture input).signed then
      .call2 "vec3" (.of source "bg")
        (.call "sign3_to_0_to_1" (.of source "r"))
    else
      .call3 "vec3" (signedComponent source "b") (signedComponent source "g")
        (.of source "r")
  { uniforms :=
      [.uniform .float gain none, .uniform .float bias none,
        .uniform .mat2 matrix none]
    lines :=
      [⟨0, .define .vec3 offset displacement⟩,
        ⟨0, .set (.of offset "st") (matrix * .of offset "st")⟩,
        lookupLine unit "texture"
          (scale unit *
            .group (.of (numbered "pT" unit) "xy" + .of offset "st")),
        ⟨0, .set vector
          (vector * .group (gain * .of offset "p" + .name bias))⟩]
    sampler := some (units.plainSampler unit) }

/-- A lookup at two dot products. -/
def dotPlaneFetch (units : Units) (unit : Fin 4) : Fetch :=
  let coordinates := numbered "dotST" unit
  .lookup (units.plainSampler unit)
    (units.dotLines unit .dotSt
      ++ [⟨0, .define .vec2 coordinates
          (.call2 "vec2" (numbered "dot" (unit - 1)) (numbered "dot" unit))⟩]
      ++ units.borderLines unit coordinates "xy"
      ++ [lookupLine unit "texture" (scale unit * .name coordinates)])

/-- A cube lookup along a normal, which the last unit's product completes. -/
def reflectDiffuseFetch (units : Units) (unit : Fin 4) : Fetch :=
  let normal := numbered "n_" unit
  let completed := numbered "dot" unit ++ "_n"
  .lookup .cube
    (units.dotLines unit .dotReflectDiffuse
      ++ [⟨0, .define .float completed (units.dotExpr lastUnit)⟩,
        ⟨0, .define .vec3 normal
          (.call3 "vec3" (numbered "dot" (unit - 1)) (numbered "dot" unit)
            completed)⟩]
      ++ units.borderLines unit normal "xyz"
      ++ [lookupLine unit "texture" normal])

/-- The vector of the last three dot products. -/
def dotVector (unit : Fin 4) : Expr :=
  .call3 "vec3" (numbered "dot" (unit - 2)) (numbered "dot" (unit - 1))
    (numbered "dot" unit)

/-- A cube lookup along a reflected ray. -/
def reflectSpecularFetch (units : Units) (unit : Fin 4) : Fetch :=
  let normal := numbered "n_" unit
  let eye := numbered "e_" unit
  let ray := numbered "rv_" unit
  let tightMul := Expr.binary .mul .tight
  let dotOf (left right : Expr) :=
    Expr.call "dot" (.comma .tight left right)
  .lookup .cube
    (units.dotLines unit .dotReflectSpecular
      ++ [⟨0, .define .vec3 normal (dotVector unit)⟩,
        ⟨0, .define .vec3 eye
          (.call3 "vec3" (.of (numbered "pT" (unit - 2)) "w")
            (.of (numbered "pT" (unit - 1)) "w")
            (.of (numbered "pT" unit) "w"))⟩,
        ⟨0, .define .vec3 ray
          (.binary .div .tight
              (tightMul (tightMul (.int 2) normal) (dotOf normal eye))
              (dotOf normal normal)
            - .name eye)⟩]
      ++ units.borderLines unit ray "xyz"
      ++ [lookupLine unit "texture" ray])

/-- A lookup at three dot products, in a volume or a cube. -/
def dotSpaceFetch
    (units : Units) (unit : Fin 4) (mode : Mode)
    (coordinates : String) (sampler : Sampler) :
    Fetch :=
  .lookup sampler
    (units.dotLines unit mode
      ++ [⟨0, .define .vec3 coordinates (dotVector unit)⟩]
      ++ units.borderLines unit coordinates "xyz"
      ++ [lookupLine unit "texture" coordinates])

/-- A lookup at two components of an earlier result. -/
def dependentFetch
    (units : Units) (unit : Fin 4) (channels components : String) : Fetch :=
  let coordinates := numbered "t" unit ++ channels
  .lookup .flat
    (⟨0, .define .vec2 coordinates
        (.of (numbered "t" (units.settings.inputUnit unit)) components)⟩ ::
      units.borderLines unit coordinates "xy"
        ++ [lookupLine unit "texture" coordinates])

/-- A dot product that only later units use. -/
def dotFetch (units : Units) (unit : Fin 4) (mode : Mode) : Fetch :=
  .computed
    (units.dotLines unit mode
      ++ [⟨0, .define .vec4 (numbered "t" unit) zeroVector⟩])

/-- The code of a mode that the unit can run. -/
def modeFetch (units : Units) (unit : Fin 4) (mode : Mode) : Fetch :=
  match mode with
  | .project2D => units.projectFetch unit
  | .project3D => units.volumeFetch unit
  | .cubeMap =>
      .lookup .cube
        [lookupLine unit "texture"
          (.of (numbered "pT" unit) "xyz" / .of (numbered "pT" unit) "w")]
  | .passThrough =>
      .computed [⟨0, .define .vec4 (numbered "t" unit) (numbered "pT" unit)⟩]
  | .clipPlane =>
      .computed (placeholder unit mode.text :: units.clipLines unit)
  | .bumpEnvMap => units.bumpFetch unit
  | .bumpEnvMapLuminance => units.bumpLuminanceFetch unit
  | .dotSt => units.dotPlaneFetch unit
  | .dotReflectDiffuse => units.reflectDiffuseFetch unit
  | .dotReflectSpecular => units.reflectSpecularFetch unit
  | .dotStr3D =>
      units.dotSpaceFetch unit mode (numbered "dotSTR" unit) .volume
  | .dotStrCube =>
      units.dotSpaceFetch unit mode (numbered "dotSTR" unit ++ "Cube") .cube
  | .dependentAr => units.dependentFetch unit "AR" "ar"
  | .dependentGb => units.dependentFetch unit "GB" "gb"
  | .dotZw | .dotProduct => units.dotFetch unit mode
  | .none | .brdf | .dotReflectSpecularConst =>
      .computed [placeholder unit mode.text]

/-- The code of a unit, without its sampler. -/
def fetch (units : Units) (unit : Fin 4) : Fetch :=
  match units.settings.mode? unit with
  | some mode =>
      if mode.validOn unit then units.modeFetch unit mode
      else .computed [placeholder unit mode.text]
  | none => .computed [placeholder unit "UNKNOWN"]

/-- The uniforms of a unit. -/
def items (units : Units) (unit : Fin 4) : List Item :=
  let fetch := units.fetch unit
  fetch.uniforms
    ++ [.uniform .float (numbered "texScale" unit) none]
    ++ match fetch.sampler with
      | some kind =>
          [.uniform (.sampler kind) (numbered "texSamp" unit) none]
      | none => []

/-- The lines of a unit; a unit that looks up can discard transparent texels. -/
def lines (units : Units) (unit : Fin 4) : List Line :=
  let fetch := units.fetch unit
  fetch.lines
    ++ if fetch.sampler.isSome && (units.texture unit).alphaKill then
        [⟨0, .guard .terminated
          (.compare .equal (.of (numbered "t" unit) "a") 0.0) .discard⟩]
      else []

/-! ## Warnings -/

/-- Warns of an input that is no earlier unit. -/
def inputWarnings (units : Units) (unit : Fin 4) : List Warning :=
  let chosen := (units.settings.inputs.get unit).toNat
  if 0 < unit.val ∧ unit.val ≤ chosen then
    [.laterTextureInput unit chosen]
  else []

/-- Warns of a dot mapping that is reserved or approximate. -/
def dotMappingWarnings (units : Units) (unit : Fin 4) : List Warning :=
  let raw := units.settings.dotMappings.get unit
  match (Coded.ofCode? raw : Option DotMapping) with
  | none => [.reservedDotMapping unit raw.toNat]
  | some mapping =>
      if mapping.isExact then [] else [.approximateDotMapping unit mapping]

/-- What a dot product warns about. -/
def dotWarnings (units : Units) (unit : Fin 4) : List Warning :=
  units.dotMappingWarnings unit ++ units.inputWarnings unit

/-- What a mode that the unit can run warns about. -/
def modeWarnings (units : Units) (unit : Fin 4) (mode : Mode) :
    List Warning :=
  let texture := units.texture unit
  let shadow :=
    if texture.shadowMap && mode != .project2D && mode != .project3D then
      [Warning.shadowIgnored unit mode]
    else []
  shadow ++
    match mode with
    | .project2D =>
        if !texture.shadowMap && texture.convolution != .disabled &&
            !texture.rect then
          [.convolutionIgnored unit texture.convolution]
        else []
    | .passThrough =>
        if units.hasBorder unit then [.borderIgnored unit] else []
    | .bumpEnvMap | .bumpEnvMapLuminance | .dependentAr | .dependentGb =>
        units.inputWarnings unit
    | .brdf | .dotReflectSpecularConst =>
        [.unimplementedTextureMode unit mode]
    | .dotReflectDiffuse =>
        units.dotWarnings unit ++ units.dotWarnings lastUnit
    | .dotSt | .dotZw | .dotReflectSpecular | .dotStr3D | .dotStrCube
    | .dotProduct =>
        units.dotWarnings unit
    | .none | .project3D | .cubeMap | .clipPlane => []

/-- What a unit warns about. -/
def warnings (units : Units) (unit : Fin 4) : List Warning :=
  match units.settings.mode? unit with
  | some mode =>
      if mode.validOn unit then units.modeWarnings unit mode
      else [.misplacedTextureMode unit mode]
  | none => [.unknownTextureMode unit (units.settings.modes.get unit).toNat]

end Units

end ShaderSynth.Texture
