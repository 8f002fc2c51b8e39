import ShaderSynth.Coded

/-!
# Primitives

A draw names a primitive and how its faces are rasterised.  `assembly?` gives
the primitive the host is asked to draw.  Hosts draw no quads: those are
assembled from four vertices each by way of the adjacency primitives.
-/

namespace ShaderSynth

/-- Primitives of a draw. -/
inductive PrimitiveMode where
  /-- No draw is in progress. -/
  | invalid
  | points
  | lines
  | lineLoop
  | lineStrip
  | triangles
  | triangleStrip
  | triangleFan
  | quads
  | quadStrip
  | polygon
deriving DecidableEq, Inhabited, Repr

instance : Coded PrimitiveMode where
  members := [.invalid, .points, .lines, .lineLoop, .lineStrip, .triangles,
    .triangleStrip, .triangleFan, .quads, .quadStrip, .polygon]
  code
    | .invalid => 0
    | .points => 1
    | .lines => 2
    | .lineLoop => 3
    | .lineStrip => 4
    | .triangles => 5
    | .triangleStrip => 6
    | .triangleFan => 7
    | .quads => 8
    | .quadStrip => 9
    | .polygon => 10
  label
    | .invalid => "Invalid"
    | .points => "Points"
    | .lines => "Lines"
    | .lineLoop => "LineLoop"
    | .lineStrip => "LineStrip"
    | .triangles => "Triangles"
    | .triangleStrip => "TriangleStrip"
    | .triangleFan => "TriangleFan"
    | .quads => "Quads"
    | .quadStrip => "QuadStrip"
    | .polygon => "Polygon"

namespace PrimitiveMode

/-- The name of a primitive in messages. -/
def text : PrimitiveMode → String
  | invalid => "invalid"
  | points => "points"
  | lines => "lines"
  | lineLoop => "line_loop"
  | lineStrip => "line_strip"
  | triangles => "triangles"
  | triangleStrip => "triangle_strip"
  | triangleFan => "triangle_fan"
  | quads => "quads"
  | quadStrip => "quad_strip"
  | polygon => "polygon"

/-- Whether the primitive has faces to fill. -/
def hasFaces : PrimitiveMode → Bool
  | triangles | triangleStrip | triangleFan | quads | quadStrip
  | polygon => true
  | _ => false

end PrimitiveMode

/-- How faces are rasterised. -/
inductive PolygonMode where
  | fill
  | point
  | line
deriving DecidableEq, Inhabited, Repr

instance : Coded PolygonMode where
  members := [.fill, .point, .line]
  code
    | .fill => 0
    | .point => 1
    | .line => 2
  label
    | .fill => "Fill"
    | .point => "Point"
    | .line => "Line"

/-- The name of a polygon mode in messages. -/
def PolygonMode.text : PolygonMode → String
  | fill => "fill"
  | point => "point"
  | line => "line"

/-- Primitives the host is asked to draw. -/
inductive Assembly where
  | points
  | lines
  | lineLoop
  | lineStrip
  | triangles
  | triangleStrip
  | triangleFan
  | linesAdjacency
  | lineStripAdjacency
deriving DecidableEq, Repr

/-- The name of an assembly. -/
def Assembly.text : Assembly → String
  | points => "points"
  | lines => "lines"
  | lineLoop => "line_loop"
  | lineStrip => "line_strip"
  | triangles => "triangles"
  | triangleStrip => "triangle_strip"
  | triangleFan => "triangle_fan"
  | linesAdjacency => "lines_adjacency"
  | lineStripAdjacency => "line_strip_adjacency"

/-- The host primitive of a draw; there is none while no draw is in progress. -/
def assembly? : PrimitiveMode → PolygonMode → Option Assembly
  | .invalid, _ => none
  | _, .point => some .points
  | .points, _ => some .points
  | .lines, _ => some .lines
  | .lineLoop, _ => some .lineLoop
  | .lineStrip, _ => some .lineStrip
  | .triangles, _ => some .triangles
  | .triangleStrip, _ => some .triangleStrip
  | .triangleFan, _ => some .triangleFan
  | .quads, _ => some .linesAdjacency
  | .quadStrip, _ => some .lineStripAdjacency
  | .polygon, .line => some .lineLoop
  | .polygon, _ => some .triangleFan

/-- Geometry configuration. -/
structure GeometryState where
  primitiveMode : PrimitiveMode
  frontMode : PolygonMode
  backMode : PolygonMode
deriving DecidableEq, Inhabited, Repr

end ShaderSynth
