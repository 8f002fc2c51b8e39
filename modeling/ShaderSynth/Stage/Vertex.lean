import ShaderSynth.Microcode.Prelude
import ShaderSynth.Transform.Body

/-!
# The vertex stage

The vertex stage unpacks its attributes, runs a program or the fixed
pipeline, computes the fog factor, and passes everything on.
-/

namespace ShaderSynth.Vertex

open Glsl

/-- The output registers, in the order of their declarations. -/
def outputNames : List String :=
  ["oPos", "oD0", "oD1", "oB0", "oB1", "oPts", "oFog", "oT0", "oT1", "oT2",
    "oT3"]

/-- The function that unpacks an attribute of three numbers in one word. -/
def unpackFunction : Function :=
  { result := .vec4
    name := "decompress_11_11_10"
    parameters := [(.int, "cmp")]
    braces := .sameLine
    body := indented 4
      [.verbatim "float x = float(bitfieldExtract(cmp, 0,  11)) / 1023.0;",
        .verbatim "float y = float(bitfieldExtract(cmp, 11, 11)) / 1023.0;",
        .verbatim "float z = float(bitfieldExtract(cmp, 22, 10)) / 511.0;",
        .verbatim "return vec4(x, y, z, 1);"] }

/-- Whether an attribute arrives packed. -/
def compressed (state : VertexState) (attributeNumber : Nat) : Bool :=
  state.compressedAttributes.toNat.testBit attributeNumber

/-- The declarations of the attributes. -/
def attributeItems (state : VertexState) : List Item :=
  (List.range Transform.attributeCount).map fun number =>
    let name := "v" ++ toString number
    if compressed state number then
      .vertexInput number .int (name ++ "_cmp")
    else .vertexInput number .vec4 name

/-- Unpacks the attributes that arrive packed. -/
def unpackLines (state : VertexState) : List Line :=
  ((List.range Transform.attributeCount).filter (compressed state)).map
    fun number =>
      let name := "v" ++ toString number
      ⟨0, .define .vec4 name
        (.call "decompress_11_11_10" (name ++ "_cmp"))⟩

/-- The names that are given a lead if another stage follows. -/
def renamedNames : List String :=
  ["vtx_inv_w", "vtx_inv_w_flat", "vtxD0", "vtxD1", "vtxB0", "vtxB1",
    "vtxFog", "vtxT0", "vtxT1", "vtxT2", "vtxT3"]

/-- The values passed on; renamed ones leave their names to the next stage. -/
def outputItems (shading : Shading) (renamed : Bool) : List Item :=
  if renamed then
    varyingItems shading .output vertexLead false
      ++ renamedNames.map fun name => .define name 0 (vertexLead ++ name)
  else varyingItems shading .output "" false

/-- The declarations that every vertex stage has. -/
def sharedItems (state : VertexState) (shading : Shading) (renamed : Bool) :
    List Item :=
  [Item.version, .blank,
      .uniform .vec4 "clipRange" none,
      .uniform .vec2 "surfaceSize" none, .blank,
      .uniform .vec4 "c" (some Transform.constantCount), .blank,
      .uniform .float "fogParam" (some 2), .blank,
      .define "fogPlane" 0 (Transform.place "c" Transform.fogPlane)]
    ++ Transform.defineMatrices "texMat" Transform.textureMatrices
    ++ [Item.blank]
    ++ outputNames.map (fun name =>
      Item.global .vec4 name (some (Microcode.initialVector 1.0)))
    ++ [Item.blank, .function unpackFunction]
    ++ outputItems shading renamed
    ++ [Item.blank]
    ++ attributeItems state
    ++ [Item.blank]

/-- Replaces an infinite fog distance. -/
def finiteFogLines : List Line :=
  [⟨2, .enter (.when (.call "isinf" "fogDistance"))⟩,
    ⟨4, .set "fogDistance" 0.0⟩,
    ⟨2, .leave⟩]

/-- A fog parameter. -/
def fogParam (index : Nat) : Expr :=
  .element "fogParam" (.int index)

/-- The fog factor of a curve. -/
def fogCurveLines : FogMode → List Line
  | .linear | .linearAbs =>
      finiteFogLines
        ++ [⟨2, .define .float "fogFactor"
            (fogParam 0 + "fogDistance" * fogParam 1)⟩,
          ⟨2, .assign "fogFactor" .sub 1.0⟩]
  | .exp =>
      finiteFogLines ++ exponential
  | .expAbs => exponential
  | .exp2 | .exp2Abs =>
      [⟨2, .define .float "fogFactor"
          (fogParam 0 + .call "exp2"
            (-.name "fogDistance" * .name "fogDistance" * fogParam 1 *
              fogParam 1 * 32.0))⟩,
        ⟨2, .assign "fogFactor" .sub 1.5⟩]
where
  /-- The curve that falls off exponentially. -/
  exponential : List Line :=
    [⟨2, .define .float "fogFactor"
        (fogParam 0 + .call "exp2" ("fogDistance" * fogParam 1 * 16.0))⟩,
      ⟨2, .assign "fogFactor" .sub 1.5⟩]

/-- The fog output.  Programs leave the fog distance in it. -/
def fogLines (state : VertexState) : List Line :=
  if state.fog.enable then
    (match state.program with
      | .microcode _ => [⟨2, .define .float "fogDistance" (.of "oFog" "x")⟩]
      | .fixedFunction _ => [])
      ++ fogCurveLines state.fog.mode
      ++ (if state.fog.mode.isAbs then
          [⟨2, .set "fogFactor" (.call "abs" "fogFactor")⟩] else [])
      ++ [⟨2, .set (.of "oFog" "xyzw") (.call "vec4" "fogFactor")⟩]
  else [⟨2, .set (.of "oFog" "xyzw") (.call "vec4" 1.0)⟩]

/-- Passes the output registers on, each times the reciprocal depth. -/
def outputLines (shading : Shading) : List Line :=
  let clipPlane (plane : Nat) (distance : Expr) : Line :=
    ⟨2, .set (.element "gl_ClipDistance" (.int plane)) distance⟩
  let limit (component : String) : Expr :=
    .binary .mul .tight (.of "oPos" "w") (.of "clipRange" component)
  ⟨0, .blank⟩ ::
    colorNames.map (fun color =>
      ⟨2, .set ("vtx" ++ color)
        (.call3 "clamp" ("o" ++ color) 0.0 1.0 * .name shading.inverseW)⟩)
    ++ [⟨2, .set "vtxFog" (.of "oFog" "x" * .name "vtx_inv_w")⟩]
    ++ (List.range 4).map (fun unit =>
      ⟨2, .set ("vtxT" ++ toString unit)
        (.name ("oT" ++ toString unit) * .name "vtx_inv_w")⟩)
    ++ [⟨2, .set "gl_Position" "oPos"⟩,
      ⟨2, .set "gl_PointSize" (.of "oPts" "x")⟩,
      clipPlane 0 (.of "oPos" "z" - limit "z"),
      clipPlane 1 (limit "w" - .of "oPos" "z"),
      ⟨0, .blank⟩]

/-- What the stage runs: declarations, and the body of the main function. -/
def programCode (state : VertexState) :
    Except Microcode.ProgramError (List Item × List Line) :=
  match state.program with
  | .fixedFunction settings =>
      .ok (Transform.items settings, Transform.lines state settings)
  | .microcode program =>
      program.lines.map fun lines => (Microcode.declarations, lines)

/-- The source of the vertex stage. -/
def source (state : VertexState) (shading : Shading) (renamed : Bool) :
    Except Microcode.ProgramError (List Item) :=
  (programCode state).map fun (items, lines) =>
    sharedItems state shading renamed ++ items
      ++ [mainFunction
        (unpackLines state ++ lines ++ fogLines state
          ++ outputLines shading)]

/-- What the generator warns about. -/
def warnings (state : VertexState) : List Warning :=
  match state.program with
  | .fixedFunction settings => Transform.warnings settings
  | .microcode program =>
      program.routedAddresses.map Warning.addressRouted

end ShaderSynth.Vertex
