import ShaderSynth.State.Primitive
import ShaderSynth.Varying

/-!
# The geometry stage

Some draws need a geometry stage: quads, which hosts do not draw, outlines of
faces, and flat polygons, whose color comes from another vertex than the
host's.  The stage receives one primitive at a time and emits a strip of its
vertices.  What it emits is an `Emission`, which depends on the primitive's
number only through its parity and through being the first.
-/

namespace ShaderSynth.Geometry

open Glsl

/-- A vertex that is emitted. -/
inductive Vertex where
  | always (index : Nat)
  /-- Only for the first primitive of a draw. -/
  | first (index : Nat)
deriving DecidableEq, Repr

/-- A part of a strip. -/
inductive Part where
  | one (vertex : Vertex)
  /-- One list for even primitives and another for odd ones. -/
  | parity (even odd : List Vertex)
deriving DecidableEq, Repr

/-- The strip emitted for a primitive. -/
structure Emission where
  /-- Whether odd primitives emit nothing. -/
  evenOnly : Bool
  /-- The vertex that flat values come from. -/
  provoking : Nat
  parts : List Part
deriving DecidableEq, Repr

namespace Emission

/-- The same vertices for every primitive. -/
def plain (provoking : Nat) (indices : List Nat) : Emission :=
  ⟨false, provoking, indices.map fun index => .one (.always index)⟩

/-- The outline of a triangle. -/
def triangleOutline : Emission := plain 0 [0, 1, 2, 0]

/-- The outline of a strip's triangle, without the edge it shares. -/
def triangleStripOutline : Emission :=
  ⟨false, 0,
    [.parity [.first 0, .always 1, .always 2, .always 0]
      [.always 2, .always 1, .always 0]]⟩

/-- The outline of a fan's triangle, without the edge it shares. -/
def triangleFanOutline : Emission :=
  ⟨false, 0, [.one (.first 0), .one (.always 1), .one (.always 2),
    .one (.always 0)]⟩

/-- The outline of a quad. -/
def quadOutline : Emission := plain 3 [0, 1, 2, 3, 0]

/-- The two triangles of a quad. -/
def quadFill : Emission := plain 3 [3, 0, 2, 1]

/--
The outline of a strip's quad, without the edge it shares.  The host passes
every run of four vertices, of which every second one is a quad.
-/
def quadStripOutline : Emission :=
  ⟨true, 3, [.one (.first 0), .one (.always 1), .one (.always 3),
    .one (.always 2), .one (.always 0)]⟩

/-- The two triangles of a strip's quad. -/
def quadStripFill : Emission :=
  { plain 3 [0, 1, 2, 3] with evenOnly := true }

/-- A flat polygon's triangle, colored by its third vertex. -/
def flatPolygon : Emission := plain 2 [0, 1, 2]

end Emission

/-- A geometry stage: what it receives, and what it emits. -/
structure Layout where
  input : String
  output : String
  maxVertices : Nat
  emission : Emission
deriving DecidableEq, Repr

/-- The geometry stage of a draw, if it needs one. -/
def layout? :
    PrimitiveMode → PolygonMode → Shading → Option Layout
  | .triangles, .line, _ =>
      some ⟨"triangles", "line_strip", 4, .triangleOutline⟩
  | .triangleStrip, .line, _ =>
      some ⟨"triangles", "line_strip", 4, .triangleStripOutline⟩
  | .triangleFan, .line, _ =>
      some ⟨"triangles", "line_strip", 4, .triangleFanOutline⟩
  | .quads, .line, _ =>
      some ⟨"lines_adjacency", "line_strip", 5, .quadOutline⟩
  | .quads, .fill, _ =>
      some ⟨"lines_adjacency", "triangle_strip", 4, .quadFill⟩
  | .quadStrip, .line, _ =>
      some ⟨"lines_adjacency", "line_strip", 5, .quadStripOutline⟩
  | .quadStrip, .fill, _ =>
      some ⟨"lines_adjacency", "triangle_strip", 4, .quadStripFill⟩
  | .polygon, .fill, .flat =>
      some ⟨"triangles", "triangle_strip", 3, .flatPolygon⟩
  | _, _, _ => none

/-! ## The text of a stage -/

/-- The number of the primitive. -/
def primitiveNumber : Expr := "gl_PrimitiveIDIn"

/-- The lowest bit of the primitive's number. -/
def parityBit : Expr :=
  .group (.binary .bitAnd .loose primitiveNumber (.int 1))

/-- The lines that emit a vertex. -/
def Vertex.lines (provoking indent : Nat) : Vertex → List Line
  | always index =>
      [⟨indent, .invoke "emit_vertex"
        (some (.comma .loose (.int index) (.int provoking)))⟩]
  | first index =>
      [⟨indent, .enter (.when
          (.compare .equal primitiveNumber (.int 0)))⟩,
        ⟨indent + 2, .invoke "emit_vertex"
          (some (.comma .loose (.int index) (.int provoking)))⟩,
        ⟨indent, .leave⟩]

/-- The lines of a part of a strip. -/
def Part.lines (provoking : Nat) : Part → List Line
  | one vertex => vertex.lines provoking 2
  | parity even odd =>
      [⟨2, .enter (.when (.compare .equal parityBit (.int 0)))⟩]
        ++ even.flatMap (Vertex.lines provoking 4)
        ++ [⟨2, .enter .otherwise⟩]
        ++ odd.flatMap (Vertex.lines provoking 4)
        ++ [⟨2, .leave⟩]

/-- The body of the main function. -/
def Emission.lines (emission : Emission) : List Line :=
  (if emission.evenOnly then
      [⟨2, .guard .braced (.compare .notEqual parityBit (.int 0)) .return⟩]
    else [])
    ++ emission.parts.flatMap (Part.lines emission.provoking)
    ++ [⟨2, .invoke "EndPrimitive" none⟩]

/-- The incoming vertex. -/
def incoming : Expr := .element "gl_in" "index"

/-- Copies a built-in value of the incoming vertex. -/
def copyBuiltin (name : String) : Statement :=
  .set name (incoming.select name)

/-- Copies a clip distance of the incoming vertex. -/
def copyClipDistance (plane : Nat) : Statement :=
  .set (.element "gl_ClipDistance" (.int plane))
    (.element (incoming.select "gl_ClipDistance") (.int plane))

/-- Copies a value of the vertex at an index. -/
def copyVarying (target value index : String) : Statement :=
  .set target (.element (vertexLead ++ value) index)

/-- The function that emits one vertex; smooth values need no provoking vertex. -/
def emitFunction (shading : Shading) : Function :=
  let flatIndex :=
    match shading with
    | .smooth => "index"
    | .flat => "provoking_index"
  let second :=
    match shading with
    | .smooth => "_unused"
    | .flat => "provoking_index"
  { result := .void
    name := "emit_vertex"
    parameters := [(.int, "index"), (.int, second)]
    braces := .sameLine
    body := indented 2
      ([copyBuiltin "gl_Position", copyBuiltin "gl_PointSize",
          copyClipDistance 0, copyClipDistance 1,
          copyVarying "vtx_inv_w" "vtx_inv_w" "index",
          copyVarying "vtx_inv_w_flat" "vtx_inv_w" flatIndex]
        ++ colorNames.map (fun color =>
          copyVarying ("vtx" ++ color) ("vtx" ++ color) flatIndex)
        ++ [copyVarying "vtxFog" "vtxFog" "index"]
        ++ (List.range 4).map (fun unit =>
          let name := "vtxT" ++ toString unit
          copyVarying name name "index")
        ++ [.invoke "EmitVertex" none]) }

/-- The source of a geometry stage. -/
def Layout.source (layout : Layout) (shading : Shading) : List Item :=
  [Item.version, .blank, .primitiveIn layout.input,
      .primitiveOut layout.output layout.maxVertices, .blank]
    ++ varyingItems shading .input vertexLead true
    ++ [Item.blank]
    ++ varyingItems shading .output "" false
    ++ [Item.blank, .function (emitFunction shading), .blank,
      mainFunction layout.emission.lines]

/-! ## Geometry of a configuration -/

/-- Why a draw has no geometry. -/
inductive GeometryError where
  | mismatch (front back : PolygonMode)
  | invalidPrimitive (mode : PrimitiveMode)
deriving DecidableEq, Repr

/-- The message of an error. -/
def GeometryError.message : GeometryError → String
  | mismatch front back =>
      "two-sided polygon modes are not supported (front " ++ front.text ++
        ", back " ++ back.text ++ ")"
  | invalidPrimitive mode =>
      "no primitive assembly for primitive mode " ++ mode.text

/-- The host primitive of a draw and its geometry stage, if it needs one. -/
structure Plan where
  assembly : Assembly
  layout : Option Layout
deriving DecidableEq, Repr

/-- Plans the geometry of a draw.  Both faces are rasterised alike. -/
def plan (state : GeometryState) (shading : Shading) :
    Except GeometryError Plan :=
  if state.frontMode = state.backMode then
    match assembly? state.primitiveMode state.frontMode with
    | some assembly =>
        .ok ⟨assembly,
          layout? state.primitiveMode state.frontMode shading⟩
    | none => .error (.invalidPrimitive state.primitiveMode)
  else .error (.mismatch state.frontMode state.backMode)

end ShaderSynth.Geometry
