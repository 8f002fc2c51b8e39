import ShaderSynth.Coded
import ShaderSynth.State.Pixel

/-!
# Texture shader settings

Each of the four texture units runs a small program chosen by its mode: a
lookup, or an address computation that later units build on.
-/

namespace ShaderSynth.Texture

/-- What a texture unit does. -/
inductive Mode where
  | none
  | project2D
  | project3D
  | cubeMap
  | passThrough
  | clipPlane
  | bumpEnvMap
  | bumpEnvMapLuminance
  | brdf
  | dotSt
  | dotZw
  | dotReflectDiffuse
  | dotReflectSpecular
  | dotStr3D
  | dotStrCube
  | dependentAr
  | dependentGb
  | dotProduct
  | dotReflectSpecularConst
deriving DecidableEq, Repr

instance : Coded Mode where
  members := [.none, .project2D, .project3D, .cubeMap, .passThrough,
    .clipPlane, .bumpEnvMap, .bumpEnvMapLuminance, .brdf, .dotSt, .dotZw,
    .dotReflectDiffuse, .dotReflectSpecular, .dotStr3D, .dotStrCube,
    .dependentAr, .dependentGb, .dotProduct, .dotReflectSpecularConst]
  code
    | .none => 0x00
    | .project2D => 0x01
    | .project3D => 0x02
    | .cubeMap => 0x03
    | .passThrough => 0x04
    | .clipPlane => 0x05
    | .bumpEnvMap => 0x06
    | .bumpEnvMapLuminance => 0x07
    | .brdf => 0x08
    | .dotSt => 0x09
    | .dotZw => 0x0A
    | .dotReflectDiffuse => 0x0B
    | .dotReflectSpecular => 0x0C
    | .dotStr3D => 0x0D
    | .dotStrCube => 0x0E
    | .dependentAr => 0x0F
    | .dependentGb => 0x10
    | .dotProduct => 0x11
    | .dotReflectSpecularConst => 0x12
  label
    | .none => "None"
    | .project2D => "Project2D"
    | .project3D => "Project3D"
    | .cubeMap => "Cubemap"
    | .passThrough => "Passthru"
    | .clipPlane => "ClipPlane"
    | .bumpEnvMap => "BumpEnvMap"
    | .bumpEnvMapLuminance => "BumpEnvMapLum"
    | .brdf => "Brdf"
    | .dotSt => "DotSt"
    | .dotZw => "DotZw"
    | .dotReflectDiffuse => "DotReflectDiffuse"
    | .dotReflectSpecular => "DotReflectSpecular"
    | .dotStr3D => "DotStr3D"
    | .dotStrCube => "DotStrCube"
    | .dependentAr => "DependentAr"
    | .dependentGb => "DependentGb"
    | .dotProduct => "DotProduct"
    | .dotReflectSpecularConst => "DotReflectSpecularConst"

namespace Mode

/-- The name of a mode in comments and messages. -/
def text : Mode → String
  | none => "NONE"
  | project2D => "PROJECT2D"
  | project3D => "PROJECT3D"
  | cubeMap => "CUBEMAP"
  | passThrough => "PASSTHRU"
  | clipPlane => "CLIPPLANE"
  | bumpEnvMap => "BUMPENVMAP"
  | bumpEnvMapLuminance => "BUMPENVMAP_LUM"
  | brdf => "BRDF"
  | dotSt => "DOT_ST"
  | dotZw => "DOT_ZW"
  | dotReflectDiffuse => "DOT_RFLCT_DIFF"
  | dotReflectSpecular => "DOT_RFLCT_SPEC"
  | dotStr3D => "DOT_STR_3D"
  | dotStrCube => "DOT_STR_CUBE"
  | dependentAr => "DPNDNT_AR"
  | dependentGb => "DPNDNT_GB"
  | dotProduct => "DOTPRODUCT"
  | dotReflectSpecularConst => "DOT_RFLCT_SPEC_CONST"

/-- Whether a unit can run a mode: what builds on other units needs enough of them. -/
def validOn (unit : Fin 4) : Mode → Bool
  | none | project2D | project3D | cubeMap | passThrough | clipPlane => true
  | bumpEnvMap | bumpEnvMapLuminance | dependentAr | dependentGb =>
      1 ≤ unit.val
  | brdf | dotSt | dotZw => 2 ≤ unit.val
  | dotProduct => unit.val = 1 || unit.val = 2
  | dotReflectDiffuse => unit.val = 2
  | dotReflectSpecular | dotStr3D | dotStrCube | dotReflectSpecularConst =>
      unit.val = 3

end Mode

/-- How a texel becomes the vector of a dot product. -/
inductive DotMapping where
  | zeroToOne
  | minus1To1Direct
  | minus1To1Gl
  | minus1To1
  | hiLo1
  | hiLoHemisphereDirect
  | hiLoHemisphereGl
  | hiLoHemisphere
deriving DecidableEq, Repr

instance : Coded DotMapping where
  members := [.zeroToOne, .minus1To1Direct, .minus1To1Gl, .minus1To1, .hiLo1,
    .hiLoHemisphereDirect, .hiLoHemisphereGl, .hiLoHemisphere]
  code
    | .zeroToOne => 0
    | .minus1To1Direct => 1
    | .minus1To1Gl => 2
    | .minus1To1 => 3
    | .hiLo1 => 4
    | .hiLoHemisphereDirect => 5
    | .hiLoHemisphereGl => 6
    | .hiLoHemisphere => 7
  label
    | .zeroToOne => "ZeroToOne"
    | .minus1To1Direct => "Minus1To1D3d"
    | .minus1To1Gl => "Minus1To1Gl"
    | .minus1To1 => "Minus1To1"
    | .hiLo1 => "HiLo1"
    | .hiLoHemisphereDirect => "HiLoHemisphereD3d"
    | .hiLoHemisphereGl => "HiLoHemisphereGl"
    | .hiLoHemisphere => "HiLoHemisphere"

namespace DotMapping

/-- The shader function of a mapping. -/
def function : DotMapping → String
  | zeroToOne => "dotmap_zero_to_one"
  | minus1To1Direct => "dotmap_minus1_to_1_d3d"
  | minus1To1Gl => "dotmap_minus1_to_1_gl"
  | minus1To1 => "dotmap_minus1_to_1"
  | hiLo1 => "dotmap_hilo_1"
  | hiLoHemisphereDirect => "dotmap_hilo_hemisphere_d3d"
  | hiLoHemisphereGl => "dotmap_hilo_hemisphere_gl"
  | hiLoHemisphere => "dotmap_hilo_hemisphere"

/-- Whether the shader function is more than an approximation. -/
def isExact : DotMapping → Bool
  | zeroToOne | minus1To1Direct | minus1To1Gl | minus1To1 => true
  | _ => false

end DotMapping

/-- The unit that runs first. -/
def firstUnit : Fin 4 := ⟨0, Nat.zero_lt_succ 3⟩

/-- The unit that runs last. -/
def lastUnit : Fin 4 := Fin.last 3

/-- The settings of all units, as the registers hold them. -/
structure Settings where
  modes : Vector UInt8 4
  dotMappings : Vector UInt8 4
  /-- The unit whose result another unit builds on. -/
  inputs : Vector UInt8 4
deriving DecidableEq, Repr

namespace Settings

/-- Takes the texture shader words of a pixel configuration apart. -/
def ofPixel (state : PixelState) : Settings :=
  let mode (shift : UInt32) :=
    ((state.shaderStageProgram >>> shift) &&& 31).toUInt8
  let nibble (shift : UInt32) :=
    ((state.otherStageInput >>> shift) &&& 15).toUInt8
  { modes := #v[mode 0, mode 5, mode 10, mode 15]
    dotMappings := #v[0, nibble 0, nibble 4, nibble 8]
    inputs := #v[0, 0, nibble 16, nibble 20] }

/-- The mode of a unit, if its code is in use. -/
def mode? (settings : Settings) (unit : Fin 4) : Option Mode :=
  Coded.ofCode? (settings.modes.get unit)

/-- The earlier unit that a unit builds on: the chosen one, or else the one before. -/
def inputUnit (settings : Settings) (unit : Fin 4) : Fin 4 :=
  let chosen := (settings.inputs.get unit).toNat
  if earlier : chosen < unit.val then ⟨chosen, by omega⟩
  else ⟨unit.val - 1, by omega⟩

/-- The dot mapping of a unit; reserved ones count as the plain one. -/
def dotMapping (settings : Settings) (unit : Fin 4) : DotMapping :=
  (Coded.ofCode? (settings.dotMappings.get unit)).getD .zeroToOne

end Settings

end ShaderSynth.Texture
