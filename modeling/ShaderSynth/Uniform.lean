import ShaderSynth.Device.Interface
import ShaderSynth.Transform.Layout

/-!
# Uniforms

The uniforms that a renderer sets, and their locations in a program.  A
program has only some of them; `Locations.resolve` asks for each in turn.
-/

namespace ShaderSynth

open Transform

/-- What a light has uniforms for. -/
inductive LightUniform where
  | halfVector
  | direction
  | position
  | attenuation
deriving DecidableEq, Repr

/-- The uniforms of one light, in the order in which they are resolved. -/
def LightUniform.all : List LightUniform :=
  [halfVector, direction, position, attenuation]

/-- What a texture unit has uniforms for, besides its sampler. -/
inductive UnitUniform where
  | bumpMatrix
  | bumpScale
  | bumpOffset
  | textureScale
deriving DecidableEq, Repr

/-- The uniforms of texture units, in the order in which they are resolved. -/
def UnitUniform.all : List UnitUniform :=
  [bumpMatrix, bumpScale, bumpOffset, textureScale]

/-- The uniforms that a renderer sets. -/
inductive Uniform where
  | constant (index : Fin constantCount)
  | lightContextA (index : Fin lightContextACount)
  | lightContextB (index : Fin lightContextBCount)
  | lightContext1 (index : Fin lightContext1Count)
  | sampler (unit : Fin 4)
  | combinerConstant (stage : Fin 9) (slot : Fin 2)
  | alphaReference
  | texture (role : UnitUniform) (unit : Fin 4)
  | surfaceSize
  | clipRange
  | fogColor
  | fogParam (index : Fin 2)
  | inverseViewport
  | light (number : Fin lightCount) (role : LightUniform)
  | clipRegion (index : Fin 8)
  | materialAlpha
deriving DecidableEq, Repr

namespace Uniform

/-- The name of a uniform in the source of a stage. -/
def name : Uniform → String
  | constant index => s!"c[{index.val}]"
  | lightContextA index => s!"ltctxa[{index.val}]"
  | lightContextB index => s!"ltctxb[{index.val}]"
  | lightContext1 index => s!"ltc1[{index.val}]"
  | sampler unit => s!"texSamp{unit.val}"
  | combinerConstant stage slot => s!"c{slot.val}_{stage.val}"
  | alphaReference => "alphaRef"
  | texture .bumpMatrix unit => s!"bumpMat{unit.val}"
  | texture .bumpScale unit => s!"bumpScale{unit.val}"
  | texture .bumpOffset unit => s!"bumpOffset{unit.val}"
  | texture .textureScale unit => s!"texScale{unit.val}"
  | surfaceSize => "surfaceSize"
  | clipRange => "clipRange"
  | fogColor => "fogColor"
  | fogParam index => s!"fogParam[{index.val}]"
  | inverseViewport => "invViewport"
  | light number .halfVector => s!"lightInfiniteHalfVector{number.val}"
  | light number .direction => s!"lightInfiniteDirection{number.val}"
  | light number .position => s!"lightLocalPosition{number.val}"
  | light number .attenuation => s!"lightLocalAttenuation{number.val}"
  | clipRegion index => s!"clipRegion[{index.val}]"
  | materialAlpha => "material_alpha"

/-- Every uniform, in the order in which they are resolved. -/
def all : List Uniform :=
  (List.finRange constantCount).map constant
    ++ (List.finRange lightContextACount).map lightContextA
    ++ (List.finRange lightContextBCount).map lightContextB
    ++ (List.finRange lightContext1Count).map lightContext1
    ++ (List.finRange 4).map sampler
    ++ (List.finRange 9).flatMap
      (fun stage => (List.finRange 2).map (combinerConstant stage))
    ++ [alphaReference]
    ++ UnitUniform.all.flatMap
      (fun role => (List.finRange 4).map (texture role))
    ++ [surfaceSize, clipRange, fogColor]
    ++ (List.finRange 2).map fogParam
    ++ [inverseViewport]
    ++ (List.finRange lightCount).flatMap
      (fun number => LightUniform.all.map (light number))
    ++ (List.finRange 8).map clipRegion
    ++ [materialAlpha]

end Uniform

/-- The locations of the uniforms that a program has. -/
structure Locations where
  entries : List (Uniform × Location)
deriving DecidableEq, Repr

namespace Locations

/-- Where a program keeps a uniform, if it has it. -/
def get? (locations : Locations) (uniform : Uniform) : Option Location :=
  locations.entries.lookup uniform

/-- Asks a device for the locations of uniforms. -/
def query
    {device : Type} [Device device]
    (program : ProgramId) :
    List Uniform → device → List (Uniform × Location) × device
  | [], host => ([], host)
  | uniform :: rest, host =>
      let (found, host) := Device.location host program uniform.name
      let (entries, host) := query program rest host
      match found with
      | some location => ((uniform, location) :: entries, host)
      | none => (entries, host)

/-- Asks a device for the locations of all uniforms. -/
def resolve
    {device : Type} [Device device]
    (host : device) (program : ProgramId) :
    Locations × device :=
  let (entries, host) := query program Uniform.all host
  (⟨entries⟩, host)

end Locations

end ShaderSynth
