import ShaderSynth.Coded
import ShaderSynth.Microcode.Program
import ShaderSynth.Single

/-!
# Vertex configuration

The vertex stage is driven either by an uploaded program or by the settings of
the fixed transform and lighting pipeline.  Fog and point size settings apply
to both.
-/

namespace ShaderSynth

/-- Curves of the fog factor. -/
inductive FogMode where
  | linear
  | exp
  | exp2
  | linearAbs
  | expAbs
  | exp2Abs
deriving DecidableEq, Inhabited, Repr

instance : Coded FogMode where
  members := [.linear, .exp, .exp2, .linearAbs, .expAbs, .exp2Abs]
  code
    | .linear => 0
    | .exp => 1
    | .exp2 => 3
    | .linearAbs => 4
    | .expAbs => 5
    | .exp2Abs => 7
  label
    | .linear => "Linear"
    | .exp => "Exp"
    | .exp2 => "Exp2"
    | .linearAbs => "LinearAbs"
    | .expAbs => "ExpAbs"
    | .exp2Abs => "Exp2Abs"

/-- Whether the curve takes the factor's magnitude. -/
def FogMode.isAbs : FogMode → Bool
  | linearAbs | expAbs | exp2Abs => true
  | _ => false

/-- Where the fixed pipeline takes the fog distance from. -/
inductive FogSource where
  | specularAlpha
  | radial
  | planar
  | absPlanar
  | coordinate
deriving DecidableEq, Inhabited, Repr

instance : Coded FogSource where
  members := [.specularAlpha, .radial, .planar, .absPlanar, .coordinate]
  code
    | .specularAlpha => 0
    | .radial => 1
    | .planar => 2
    | .absPlanar => 3
    | .coordinate => 4
  label
    | .specularAlpha => "SpecAlpha"
    | .radial => "Radial"
    | .planar => "Planar"
    | .absPlanar => "AbsPlanar"
    | .coordinate => "FogX"

/-- Vertex blending. -/
inductive Skinning where
  | off
  | oneWeight
  | twoWeightsTwoMatrices
  | twoWeights
  | threeWeightsThreeMatrices
  | threeWeights
  | fourWeightsFourMatrices
deriving DecidableEq, Inhabited, Repr

instance : Coded Skinning where
  members := [.off, .oneWeight, .twoWeightsTwoMatrices, .twoWeights,
    .threeWeightsThreeMatrices, .threeWeights, .fourWeightsFourMatrices]
  code
    | .off => 0
    | .oneWeight => 1
    | .twoWeightsTwoMatrices => 2
    | .twoWeights => 3
    | .threeWeightsThreeMatrices => 4
    | .threeWeights => 5
    | .fourWeightsFourMatrices => 6
  label
    | .off => "Off"
    | .oneWeight => "OneWeight"
    | .twoWeightsTwoMatrices => "TwoWeightsTwoMatrices"
    | .twoWeights => "TwoWeights"
    | .threeWeightsThreeMatrices => "ThreeWeightsThreeMatrices"
    | .threeWeights => "ThreeWeights"
    | .fourWeightsFourMatrices => "FourWeightsFourMatrices"

/-- How many matrices are blended. -/
def Skinning.matrixCount : Skinning → Nat
  | off => 0
  | oneWeight | twoWeightsTwoMatrices => 2
  | twoWeights | threeWeightsThreeMatrices => 3
  | threeWeights | fourWeightsFourMatrices => 4

/-- Whether the last weight is what the others leave over. -/
def Skinning.derivesLastWeight : Skinning → Bool
  | oneWeight | twoWeights | threeWeights => true
  | _ => false

/-- Generation of a texture coordinate. -/
inductive Texgen where
  | disable
  | eyeLinear
  | objectLinear
  | sphereMap
  | normalMap
  | reflectionMap
deriving DecidableEq, Inhabited, Repr

instance : Coded Texgen where
  members := [.disable, .eyeLinear, .objectLinear, .sphereMap, .normalMap,
    .reflectionMap]
  code
    | .disable => 0
    | .eyeLinear => 1
    | .objectLinear => 2
    | .sphereMap => 3
    | .normalMap => 4
    | .reflectionMap => 5
  label
    | .disable => "Disable"
    | .eyeLinear => "EyeLinear"
    | .objectLinear => "ObjectLinear"
    | .sphereMap => "SphereMap"
    | .normalMap => "NormalMap"
    | .reflectionMap => "ReflectionMap"

/-- Kinds of light sources. -/
inductive LightType where
  | off
  | infinite
  | local
  | spot
deriving DecidableEq, Inhabited, Repr

instance : Coded LightType where
  members := [.off, .infinite, .local, .spot]
  code
    | .off => 0
    | .infinite => 1
    | .local => 2
    | .spot => 3
  label
    | .off => "Off"
    | .infinite => "Infinite"
    | .local => "Local"
    | .spot => "Spot"

/-- Where a material color comes from. -/
inductive ColorSource where
  | material
  | diffuse
  | specular
deriving DecidableEq, Inhabited, Repr

instance : Coded ColorSource where
  members := [.material, .diffuse, .specular]
  code
    | .material => 0
    | .diffuse => 1
    | .specular => 2
  label
    | .material => "Material"
    | .diffuse => "Diffuse"
    | .specular => "Specular"

/-- Settings of the fixed transform and lighting pipeline. -/
structure FixedFunction where
  skinning : Skinning
  normalization : Bool
  textureMatrix : Vector Bool 4
  /-- For each texture unit, the generation of its four coordinates. -/
  texgen : Vector (Vector Texgen 4) 4
  lighting : Bool
  lights : Vector LightType 8
  emissionSource : ColorSource
  ambientSource : ColorSource
  diffuseSource : ColorSource
  specularSource : ColorSource
deriving DecidableEq, Inhabited, Repr

/-- What drives the vertex stage. -/
inductive VertexProgram where
  | microcode (program : Microcode.Program)
  | fixedFunction (settings : FixedFunction)
deriving DecidableEq, Repr

instance : Inhabited VertexProgram := ⟨.fixedFunction default⟩

/-- Fog settings. -/
structure FogState where
  enable : Bool
  mode : FogMode
  source : FogSource
deriving DecidableEq, Inhabited, Repr

/-- Point size settings. -/
structure PointState where
  paramsEnable : Bool
  size : Single
  params : Vector Single 8
deriving DecidableEq, Inhabited, Repr

/-- A parameter of the point size, by its number. -/
def PointState.param (point : PointState) (number : Nat) : Single :=
  point.params[number]?.getD default

/-- Vertex configuration. -/
structure VertexState where
  program : VertexProgram
  /-- Bit `i` is set if attribute `i` arrives packed in one integer. -/
  compressedAttributes : UInt16
  surfaceScale : UInt32
  fog : FogState
  point : PointState
deriving DecidableEq, Inhabited, Repr

end ShaderSynth
