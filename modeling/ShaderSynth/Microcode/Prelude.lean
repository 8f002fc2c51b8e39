import ShaderSynth.Glsl.Source

/-!
# Register and opcode definitions

The declarations that the statements of a program rely on: the temporary
registers, the staging variables, and one textual definition per opcode.  The
definition `NAME(dest, mask, src...)` assigns the masked components of what the
function `_NAME` returns.  Inputs are first widened to four components by
repeating the last one.
-/

namespace ShaderSynth.Microcode

open Glsl

/-- How many temporary registers have storage of their own. -/
def temporaryCount : Nat := 12

/-- A helper function with fixed lines. -/
def helper
    (result : Ty) (name : String) (parameters : List (Ty × String))
    (body : List String) :
    Item :=
  .function
    { result := result
      name := name
      parameters := parameters
      braces := .ownLine
      body := indented 2 (body.map .verbatim) }

/-- An opcode's definition and function. -/
structure OpcodeDefinition where
  mnemonic : String
  sources : List String
  /-- Whether the function takes the first components only. -/
  scalar : Bool
  body : List String

/-- The items that define an opcode. -/
def OpcodeDefinition.items (definition : OpcodeDefinition) : List Item :=
  let function := "_" ++ definition.mnemonic
  let widened := definition.sources.map fun source =>
    "_in(" ++ source ++ ")" ++ (if definition.scalar then ".x" else "")
  let type := if definition.scalar then Ty.float else .vec4
  [.define
      (definition.mnemonic ++ "(" ++
        ", ".intercalate ("dest" :: "mask" :: definition.sources) ++ ")") 0
      ("dest.mask = " ++ function ++ "(" ++ ", ".intercalate widened ++
        ").mask"),
    helper .vec4 function
      (definition.sources.map fun source => (type, source))
      definition.body]

/-- A statement in braces, on one line. -/
def bracedText (statement : String) : String :=
  "\x7b " ++ statement ++ " \x7d"

/-- Definitions of the multiply-accumulate opcodes. -/
def macDefinitions : List OpcodeDefinition :=
  let pair := ["src0", "src1"]
  [⟨"MOV", ["src"], false, ["return src;"]⟩,
    ⟨"MUL", pair, false,
      ["vec4 zero_components = sign(src0) * sign(src1);",
        "vec4 ret = src0 * src1;",
        "if (zero_components.x == 0.0) " ++ bracedText "ret.x = 0.0;",
        "if (zero_components.y == 0.0) " ++ bracedText "ret.y = 0.0;",
        "if (zero_components.z == 0.0) " ++ bracedText "ret.z = 0.0;",
        "if (zero_components.w == 0.0) " ++ bracedText "ret.w = 0.0;",
        "return ret;"]⟩,
    ⟨"ADD", pair, false, ["return src0 + src1;"]⟩,
    ⟨"MAD", ["src0", "src1", "src2"], false,
      ["return _MUL(src0, src1) + src2;"]⟩,
    ⟨"DP3", pair, false, ["return vec4(dot(src0.xyz, src1.xyz));"]⟩,
    ⟨"DPH", pair, false, ["return vec4(dot(vec4(src0.xyz, 1.0), src1));"]⟩,
    ⟨"DP4", pair, false, ["return vec4(dot(src0, src1));"]⟩,
    ⟨"DST", pair, false,
      ["return vec4(1.0,",
        "            src0.y * src1.y,",
        "            src0.z,",
        "            src1.w);"]⟩,
    ⟨"MIN", pair, false, ["return min(src0, src1);"]⟩,
    ⟨"MAX", pair, false, ["return max(src0, src1);"]⟩,
    ⟨"SLT", pair, false, ["return vec4(lessThan(src0, src1));"]⟩,
    ⟨"SGE", pair, false, ["return vec4(greaterThanEqual(src0, src1));"]⟩]

/-- Definitions of the scalar opcodes. -/
def iluDefinitions : List OpcodeDefinition :=
  let source := ["src"]
  [⟨"RCP", source, true, ["return vec4(1.0 / src);"]⟩,
    ⟨"RCC", source, true,
      ["float t = 1.0 / src;",
        "if (t > 0.0) \x7b",
        "  t = clamp(t, 5.42101e-020, 1.884467e+019);",
        "\x7d else \x7b",
        "  t = clamp(t, -1.884467e+019, -5.42101e-020);",
        "\x7d",
        "return vec4(t);"]⟩,
    ⟨"RSQ", source, true,
      ["if (src == 0.0) " ++ bracedText "return vec4(INFINITY);",
        "if (isinf(src)) " ++ bracedText "return vec4(0.0);",
        "return vec4(inversesqrt(abs(src)));"]⟩,
    ⟨"EXP", source, true,
      ["vec4 result;",
        "result.x = exp2(floor(src));",
        "result.y = src - floor(src);",
        "result.z = exp2(src);",
        "result.w = 1.0;",
        "return result;"]⟩,
    ⟨"LOG", source, true,
      ["float tmp = abs(src);",
        "if (tmp == 0.0) " ++
          bracedText "return vec4(-INFINITY, 1.0f, -INFINITY, 1.0f);",
        "vec4 result;",
        "result.x = floor(log2(tmp));",
        "result.y = tmp / exp2(floor(log2(tmp)));",
        "result.z = log2(tmp);",
        "result.w = 1.0;",
        "return result;"]⟩,
    ⟨"LIT", source, false,
      ["vec4 s = src;",
        "float epsilon = 1.0 / 256.0;",
        "s.w = clamp(s.w, -(128.0 - epsilon), 128.0 - epsilon);",
        "s.x = max(s.x, 0.0);",
        "s.y = max(s.y, 0.0);",
        "vec4 t = vec4(1.0, 0.0, 0.0, 1.0);",
        "t.y = s.x;",
        "t.z = (s.x > 0.0) ? exp2(s.w * log2(s.y)) : 0.0;",
        "return t;"]⟩]

/-- The four widths of an input, each filled up with its last component. -/
def widenings : List Item :=
  [(Ty.float, "vec4(v)"), (.vec2, "v.xyyy"), (.vec3, "v.xyzz"),
    (.vec4, "v.xyzw")].map fun (type, value) =>
      .function
        { result := .vec4
          name := "_in"
          parameters := [(type, "v")]
          braces := .inline
          body := [⟨0, .verbatim ("return " ++ value ++ ";")⟩] }

/--
The address load.  Hosts disagree on how a scaled fraction rounds, so a small
bias is added before the fraction is cut off.
-/
def addressItems : List Item :=
  [.define "ARL(dest, src)" 0 "dest = _ARL(_in(src).x)",
    helper .int "_ARL" [(.float, "src")] ["return int(floor(src + 0.001));"]]

/-- The initial value of a register: zeros before the last component. -/
def initialVector (last : Expr) : Expr :=
  .call "vec4"
    (.comma .tight (.comma .tight (.comma .tight 0.0 0.0) 0.0) last)

/-- The shader variables of the temporary registers; one more names the position. -/
def temporaryItems : List Item :=
  (List.range temporaryCount).map (fun number =>
      Item.global .vec4 ("R" ++ toString number) (some (initialVector 0.0)))
    ++ [Item.define "R12" 0 "oPos"]

/-- All declarations that the statements of a program rely on. -/
def declarations : List Item :=
  [Item.blank, .global .int "A0" (some (.int 0)), .blank]
    ++ temporaryItems
    ++ [Item.blank, .global .vec4 "_temp_vec" none,
      .global .int "_temp_addr" none, .blank,
      .comment "Converts the input to vec4, pads with last component"]
    ++ widenings
    ++ [Item.blank, .define "INFINITY" 0 "(1.0 / 0.0)", .blank]
    ++ macDefinitions.flatMap (fun definition =>
      definition.items ++ [Item.blank])
    ++ addressItems
    ++ iluDefinitions.flatMap (fun definition =>
      Item.blank :: definition.items)

end ShaderSynth.Microcode
