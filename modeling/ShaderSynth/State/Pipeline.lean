import ShaderSynth.State.Pixel
import ShaderSynth.State.Primitive
import ShaderSynth.State.Vertex

/-!
# Pipeline configuration

Everything that decides which shaders a draw needs.  Two draws with equal
configurations can share one program.
-/

namespace ShaderSynth

/-- The configuration of all stages. -/
structure PipelineState where
  vertex : VertexState
  geometry : GeometryState
  pixel : PixelState
  /-- Smooth shading interpolates colors; flat shading takes one vertex's. -/
  smoothShading : Bool
deriving DecidableEq, Inhabited, Repr

namespace PipelineState

/-- The shading of all stages. -/
def shading (state : PipelineState) : Shading :=
  .ofSmooth state.smoothShading

/-- Whether the fixed pipeline drives the vertex stage. -/
def isFixedFunction (state : PipelineState) : Bool :=
  match state.vertex.program with
  | .fixedFunction _ => true
  | .microcode _ => false

end PipelineState

end ShaderSynth
