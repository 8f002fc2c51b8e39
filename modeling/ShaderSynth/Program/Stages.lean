import ShaderSynth.Stage.Fragment
import ShaderSynth.Stage.Geometry
import ShaderSynth.Stage.Vertex
import ShaderSynth.State.Pipeline

/-!
# The stages of a program

A `StageKey` names everything that the source of one stage depends on, so
that programs with equal keys can share the compiled stage.  `stages` gives
the keys of a configuration, and `sources` their source texts.
-/

namespace ShaderSynth

open Glsl

/-- The kinds of stages. -/
inductive StageKind where
  | vertex
  | geometry
  | fragment
deriving DecidableEq, Repr

/-- The name of a kind. -/
def StageKind.text : StageKind → String
  | vertex => "vertex"
  | geometry => "geometry"
  | fragment => "fragment"

/-- Why a configuration has no program. -/
inductive SourceError where
  | vertex (error : Microcode.ProgramError)
  | geometry (error : Geometry.GeometryError)
  | nativePrimitive (assembly : Assembly)
deriving DecidableEq, Repr

/-- The message of an error. -/
def SourceError.message : SourceError → String
  | vertex error => "vertex program translation failed: " ++ error.message
  | geometry error => "geometry stage synthesis failed: " ++ error.message
  | nativePrimitive assembly =>
      "primitive is drawn natively as " ++ assembly.text ++
        "; there is no geometry stage to generate"

/-- What the source of a stage depends on. -/
inductive StageKey where
  /-- A vertex stage leaves the names of its values to a geometry stage. -/
  | vertex (state : VertexState) (shading : Shading) (renamed : Bool)
  | geometry (state : GeometryState) (shading : Shading)
  | fragment (state : PixelState) (shading : Shading)
deriving DecidableEq, Repr

namespace StageKey

/-- The kind of a stage. -/
def kind : StageKey → StageKind
  | vertex .. => .vertex
  | geometry .. => .geometry
  | fragment .. => .fragment

/-- The source of a stage, as items. -/
def items : StageKey → Except SourceError (List Item)
  | vertex state shading renamed =>
      (Vertex.source state shading renamed).mapError SourceError.vertex
  | geometry state shading =>
      match Geometry.plan state shading with
      | .error error => .error (.geometry error)
      | .ok plan =>
          match plan.layout with
          | some layout => .ok (layout.source shading)
          | none => .error (.nativePrimitive plan.assembly)
  | fragment state shading => .ok (Fragment.source state shading)

/-- The source of a stage. -/
def source (key : StageKey) : Except SourceError String :=
  key.items.map itemsText

/-- What generating the source warns about. -/
def warnings : StageKey → List Warning
  | vertex state _ _ => Vertex.warnings state
  | geometry _ _ => []
  | fragment state _ => Fragment.warnings state

end StageKey

/-- The stages of a program, and the host primitive it is drawn with. -/
structure Stages where
  vertex : StageKey
  geometry : Option StageKey
  fragment : StageKey
  assembly : Assembly
deriving DecidableEq, Repr

/-- The stages in the order in which they are linked. -/
def Stages.toList (stages : Stages) : List StageKey :=
  stages.vertex :: stages.geometry.toList ++ [stages.fragment]

/-- The stages of a configuration. -/
def PipelineState.stages (state : PipelineState) :
    Except SourceError Stages :=
  match Geometry.plan state.geometry state.shading with
  | .error error => .error (.geometry error)
  | .ok plan =>
      .ok
        { vertex := .vertex state.vertex state.shading plan.layout.isSome
          geometry :=
            plan.layout.map fun _ => .geometry state.geometry state.shading
          fragment := .fragment state.pixel state.shading
          assembly := plan.assembly }

/-- The sources of a program. -/
structure Sources where
  vertex : String
  geometry : Option String
  fragment : String
  assembly : Assembly
deriving DecidableEq, Repr

/-- The sources in the order in which they are linked. -/
def Sources.toList (sources : Sources) : List String :=
  sources.vertex :: sources.geometry.toList ++ [sources.fragment]

namespace PipelineState

/-- The sources of a configuration. -/
def sources (state : PipelineState) : Except SourceError Sources := do
  let stages ← state.stages
  let vertex ← stages.vertex.source
  let geometry ←
    match stages.geometry with
    | none => pure none
    | some key => some <$> key.source
  let fragment ← stages.fragment.source
  return ⟨vertex, geometry, fragment, stages.assembly⟩

/-- What generating the sources warns about, up to the first error. -/
def sourceWarnings (state : PipelineState) : List Warning :=
  match state.stages with
  | .error _ => []
  | .ok stages =>
      stages.vertex.warnings ++
        match stages.vertex.items with
        | .error _ => []
        | .ok _ => stages.fragment.warnings

end PipelineState

end ShaderSynth
