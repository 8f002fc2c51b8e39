import ShaderSynth.Coded
import ShaderSynth.Glsl.Expr
import ShaderSynth.Single

/-!
# Pixel configuration

Combiner and texture shader settings are kept as the register words that hold
them; the texture units have settings of their own.
-/

namespace ShaderSynth

/-- Comparisons of depth and alpha values. -/
inductive CompareFunction where
  | never
  | less
  | equal
  | lessEqual
  | greater
  | notEqual
  | greaterEqual
  | always
deriving DecidableEq, Repr

instance : Inhabited CompareFunction := ⟨.always⟩

instance : Coded CompareFunction where
  members := [.never, .less, .equal, .lessEqual, .greater, .notEqual,
    .greaterEqual, .always]
  code
    | .never => 0
    | .less => 1
    | .equal => 2
    | .lessEqual => 3
    | .greater => 4
    | .notEqual => 5
    | .greaterEqual => 6
    | .always => 7
  label
    | .never => "Never"
    | .less => "Less"
    | .equal => "Equal"
    | .lessEqual => "LessEqual"
    | .greater => "Greater"
    | .notEqual => "NotEqual"
    | .greaterEqual => "GreaterEqual"
    | .always => "Always"

/-- The operator of a comparison that looks at its operands. -/
def CompareFunction.operator? : CompareFunction → Option Glsl.Operator
  | never | always => none
  | less => some .less
  | equal => some .equal
  | lessEqual => some .lessEqual
  | greater => some .greater
  | notEqual => some .notEqual
  | greaterEqual => some .greaterEqual

/-- Convolution applied to a texture lookup. -/
inductive Convolution where
  | disabled
  | quincunx
  | gaussian
deriving DecidableEq, Inhabited, Repr

instance : Coded Convolution where
  members := [.disabled, .quincunx, .gaussian]
  code
    | .disabled => 0
    | .quincunx => 1
    | .gaussian => 2
  label
    | .disabled => "Disabled"
    | .quincunx => "Quincunx"
    | .gaussian => "Gaussian"

/-- Settings of a texture unit. -/
structure TextureState where
  rect : Bool
  signed : Bool
  shadowMap : Bool
  alphaKill : Bool
  /-- For each clip plane, whether values from zero up are cut off. -/
  compareMode : Vector Bool 4
  convolution : Convolution
  /-- A texture whose first logical size is zero has no border. -/
  borderLogicalSize : Vector Single 3
  borderInverseSize : Vector Single 3
deriving DecidableEq, Inhabited, Repr

/-- Pixel configuration. -/
structure PixelState where
  combinerControl : UInt32
  shaderStageProgram : UInt32
  otherStageInput : UInt32
  finalInputs0 : UInt32
  finalInputs1 : UInt32
  rgbInputs : Vector UInt32 8
  rgbOutputs : Vector UInt32 8
  alphaInputs : Vector UInt32 8
  alphaOutputs : Vector UInt32 8
  textures : Vector TextureState 4
  shadowFunction : CompareFunction
  alphaTest : Bool
  alphaFunction : CompareFunction
  pointSprite : Bool
  windowClipExclusive : Bool
deriving DecidableEq, Inhabited, Repr

end ShaderSynth
