import ShaderSynth.Combiner.Final
import ShaderSynth.Texture.Fetch
import ShaderSynth.Varying

/-!
# The fragment stage

The main function clips against the window regions, undoes the perspective
factor of the incoming values, runs the four texture units and the combiners,
and tests the resulting alpha.
-/

namespace ShaderSynth.Fragment

open Glsl

/-- A helper function with fixed lines. -/
def helper
    (result : Ty) (name : String) (parameters : List (Ty × String))
    (body : List String) :
    Item :=
  .function
    { result := result
      name := name
      parameters := parameters
      braces := .sameLine
      body := indented 4 (body.map .verbatim) }

/-- Functions that turn a texel component into a signed number. -/
def signHelpers : List Item :=
  let parameter := [(Ty.float, "x")]
  [helper .float "sign1" parameter
      ["x *= 255.0;", "return (x-128.0)/127.0;"],
    helper .float "sign2" parameter
      ["x *= 255.0;",
        "if (x >= 128.0) return (x-255.5)/127.5;",
        "           else return (x+0.5)/127.5;"],
    helper .float "sign3" parameter
      ["x *= 255.0;",
        "if (x >= 128.0) return (x-256.0)/127.0;",
        "           else return (x)/127.0;"],
    helper .float "sign3_to_0_to_1" parameter
      ["if (x >= 0) return x/2;",
        "       else return 1+x/2;"]]

/-- Functions of the dot mappings. -/
def dotHelpers : List Item :=
  let parameter := [(Ty.vec4, "col")]
  let signed (function : String) :=
    ["return vec3(" ++ function ++ "(col.r)," ++ function ++ "(col.g)," ++
      function ++ "(col.b));"]
  [helper .vec3 "dotmap_zero_to_one" parameter ["return col.rgb;"],
    helper .vec3 "dotmap_minus1_to_1_d3d" parameter (signed "sign1"),
    helper .vec3 "dotmap_minus1_to_1_gl" parameter (signed "sign2"),
    helper .vec3 "dotmap_minus1_to_1" parameter (signed "sign3"),
    helper .vec3 "dotmap_hilo_1" parameter
      ["uint hi_i = uint(col.a * float(0xff)) << 8",
        "          | uint(col.r * float(0xff));",
        "uint lo_i = uint(col.g * float(0xff)) << 8",
        "          | uint(col.b * float(0xff));",
        "float hi_f = float(hi_i) / float(0xffff);",
        "float lo_f = float(lo_i) / float(0xffff);",
        "return vec3(hi_f, lo_f, 1.0);"],
    helper .vec3 "dotmap_hilo_hemisphere_d3d" parameter ["return col.rgb;"],
    helper .vec3 "dotmap_hilo_hemisphere_gl" parameter ["return col.rgb;"],
    helper .vec3 "dotmap_hilo_hemisphere" parameter ["return col.rgb;"]]

/-- The convolution kernel and the filtered lookup. -/
def convolutionHelpers : List Item :=
  [.verbatim
      ["const float[9] gaussian3x3 = float[9](",
        "    1.0/16.0, 2.0/16.0, 1.0/16.0,",
        "    2.0/16.0, 4.0/16.0, 2.0/16.0,",
        "    1.0/16.0, 2.0/16.0, 1.0/16.0);",
        "const vec2[9] convolution3x3 = vec2[9](",
        "    vec2(-1.0,-1.0),vec2(0.0,-1.0),vec2(1.0,-1.0),",
        "    vec2(-1.0, 0.0),vec2(0.0, 0.0),vec2(1.0, 0.0),",
        "    vec2(-1.0, 1.0),vec2(0.0, 1.0),vec2(1.0, 1.0));"],
    helper .vec4 "gaussianFilter2DRectProj"
      [(.sampler .rectangle, "sampler"), (.vec3, "texCoord")]
      ["vec4 sum = vec4(0.0);",
        "for (int i = 0; i < 9; i++) \x7b",
        "    sum += gaussian3x3[i]*textureProj(sampler,",
        "               texCoord + vec3(convolution3x3[i], 0.0));",
        "\x7d",
        "return sum;"]]

/-- The number of window clip regions. -/
def clipRegionCount : Nat := 8

/-- Discards fragments inside some region, or outside of all of them. -/
def windowClipLines (exclusive : Bool) : List Line :=
  let region (components : String) : Expr :=
    .call "vec2" ((Expr.element "clipRegion" "i").select components)
  let outside : Expr :=
    .call "any" (.call "bvec4"
      (.comma .tight
        (.broken 6 (.call2 "lessThan" "coord" (region "xy")))
        (.broken 6 (.call2 "greaterThanEqual" "coord" (region "zw")))))
  let kind := if exclusive then "Exclusive" else "Inclusive"
  [⟨0, .comment (" Window-clip (" ++ kind ++ ")")⟩]
    ++ (if exclusive then []
      else [⟨0, .define .bool "clipContained" "false"⟩])
    ++ [⟨0, .define .vec2 "coord" (.of "gl_FragCoord" "xy" - 0.5)⟩,
      ⟨0, .enter (.count "i" clipRegionCount)⟩,
      ⟨2, .define .bool "outside" outside⟩,
      ⟨2, .enter (.when (.not "outside"))⟩]
    ++ (if exclusive then [⟨4, .jump .discard⟩]
      else [⟨4, .set "clipContained" "true"⟩, ⟨4, .jump .break⟩])
    ++ [⟨2, .leave⟩, ⟨0, .leave⟩]
    ++ (if exclusive then []
      else [⟨0, .enter (.when (.not "clipContained"))⟩,
        ⟨2, .jump .discard⟩,
        ⟨0, .leave⟩])

/-- A value without its perspective factor. -/
def undivided (name value : String) (factor : String) : Line :=
  ⟨0, .define .vec4 name (value / .name factor)⟩

/-- The incoming values; a point sprite replaces the last coordinates. -/
def inputLines (state : PixelState) (shading : Shading) : List Line :=
  let coordinates (unit : Nat) :=
    undivided ("pT" ++ toString unit) ("vtxT" ++ toString unit) "vtx_inv_w"
  colorNames.map (fun color =>
      undivided ("p" ++ color) ("vtx" ++ color) shading.inverseW)
    ++ [⟨0, .define .vec4 "pFog"
      (.call2 "vec4" (.of "fogColor" "rgb")
        (.call3 "clamp" ("vtxFog" / .name "vtx_inv_w") 0.0 1.0))⟩]
    ++ [coordinates 0, coordinates 1, coordinates 2]
    ++ (if state.pointSprite then
        [⟨0, .define .vec4 "pT3" (.call3 "vec4" "gl_PointCoord" 1.0 1.0)⟩]
      else [coordinates 3])

/-- The registers that the combiners start from. -/
def registerLines : List Line :=
  [⟨0, .blank⟩,
    ⟨0, .define .vec4 "v0" "pD0"⟩,
    ⟨0, .define .vec4 "v1" "pD1"⟩,
    ⟨0, .declareEmpty .vec4 "ab"⟩,
    ⟨0, .declareEmpty .vec4 "cd"⟩,
    ⟨0, .declareEmpty .vec4 "mux_sum"⟩]

/-- Declares a spare register; the first one starts with the first texture's alpha. -/
def spareLines (units : Texture.Units) (spare : String) : List Line :=
  ⟨0, .declareEmpty .vec4 spare⟩ ::
    if spare = "r0" then
      let alpha : Expr :=
        if units.settings.mode? Texture.firstUnit = some .none then 1.0 else .of "t0" "a"
      [⟨0, .set (.of "r0" "a") alpha⟩]
    else []

/-- Whether the alpha test needs its reference value declared. -/
def testsAlpha (state : PixelState) : Bool :=
  state.alphaTest && state.alphaFunction != .always

/-- Discards fragments that fail the alpha test. -/
def alphaTestLines (state : PixelState) : List Line :=
  if testsAlpha state then
    match state.alphaFunction.operator? with
    | some operator =>
        [⟨0, .guard .bare
          (.not (.group
            (.compare operator (.of "fragColor" "a") "alphaRef")))
          .discard⟩]
    | none => [⟨0, .jump .discard⟩]
  else []

/-- The body of the main function. -/
def mainLines (state : PixelState) (shading : Shading) : List Line :=
  let units := Texture.Units.ofPixel state
  let combiner := Combiner.Settings.ofPixel state
  windowClipLines state.windowClipExclusive
    ++ inputLines state shading
    ++ registerLines
    ++ (List.finRange 4).flatMap units.lines
    ++ combiner.spares.flatMap (spareLines units)
    ++ indented 0 combiner.statements
    ++ alphaTestLines state

/-- Everything declared before the main function. -/
def declarations (state : PixelState) (shading : Shading) : List Item :=
  let units := Texture.Units.ofPixel state
  let combiner := Combiner.Settings.ofPixel state
  varyingItems shading .input "" false
    ++ [Item.blank, .target .vec4 "fragColor", .blank,
      .uniform .vec4 "fogColor" none]
    ++ signHelpers ++ dotHelpers ++ convolutionHelpers
    ++ [Item.uniform .ivec4 "clipRegion" (some clipRegionCount)]
    ++ (List.finRange 4).flatMap units.items
    ++ (if testsAlpha state then [Item.uniform .float "alphaRef" none] else [])
    ++ combiner.constants.map (fun name => Item.uniform .vec4 name none)

/-- The source of the fragment stage. -/
def source (state : PixelState) (shading : Shading) : List Item :=
  [Item.version, .blank] ++ declarations state shading
    ++ [mainFunction (mainLines state shading)]

/-- What the generator warns about. -/
def warnings (state : PixelState) : List Warning :=
  let units := Texture.Units.ofPixel state
  (if state.pointSprite && (state.textures.get Texture.lastUnit).rect then
      [.pointSpriteOnRectangle] else [])
    ++ (List.finRange 4).flatMap units.warnings
    ++ (Combiner.Settings.ofPixel state).warnings

end ShaderSynth.Fragment
