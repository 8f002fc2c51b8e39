import ShaderSynth.Combiner.Operand
import ShaderSynth.Glsl.Statement

/-!
# General combiner stages

A stage computes, for color and for alpha, two products and their sum, or one
of them.  All results are computed before any register is written, as the
hardware does: `Stage.statements` lists the computations of both portions
first, and then their writes.
-/

namespace ShaderSynth.Combiner

open Glsl (Expr Statement)

/-- One portion of a stage. -/
structure Half where
  inputs : Inputs
  output : Output
  portion : Portion

namespace Stage

/-- The color portion. -/
def rgb (stage : Stage) : Half :=
  ⟨stage.rgbInputs, stage.rgbOutput, .rgb⟩

/-- The alpha portion. -/
def alpha (stage : Stage) : Half :=
  ⟨stage.alphaInputs, stage.alphaOutput, .alpha⟩

end Stage

/-- The shader variable that a destination nibble names, if it can be written. -/
def destination? (raw : UInt8) : Option String :=
  (Register.ofNibble? raw).bind Register.writable?

/-- The spare register that a destination nibble names. -/
def destinationSpares (raw : UInt8) : List String :=
  match Register.ofNibble? raw with
  | some .r0 => ["r0"]
  | some .r1 => ["r1"]
  | _ => []

namespace Half

/-- A product of two operands. -/
def product (dot : Bool) (left right : Expr) : Expr :=
  if dot then .call2 "dot" left right else .group (left * right)

/-- The expression of an operand. -/
def operand (half : Half) (context : Context) (input : Input) : Expr :=
  (context.operand input half.portion).render half.portion

/-- The first product. -/
def ab (half : Half) (context : Context) : Expr :=
  product half.output.abDot (half.operand context half.inputs.a)
    (half.operand context half.inputs.b)

/-- The second product. -/
def cd (half : Half) (context : Context) : Expr :=
  product half.output.cdDot (half.operand context half.inputs.c)
    (half.operand context half.inputs.d)

/-- The test that chooses the second product: a bit of the spare alpha. -/
def muxTest (context : Context) : Expr :=
  if context.control.muxMsb then
    .compare .greaterEqual (.of "r0" "a") 0.5
  else
    .compare .equal
      (.group (.binary .bitAnd .loose
        (.call "uint" (.of "r0" "a" * 255.0)) (.literal "1u")))
      (.literal "1u")

/-- The sum of the products, or the chosen one. -/
def muxSum (half : Half) (context : Context) : Expr :=
  if half.output.mux then
    .group (.choose (.group (muxTest context))
      (half.portion.cast (half.cd context))
      (half.portion.cast (half.ab context)))
  else .group (half.ab context + half.cd context)

/-- The output mapping; a reserved one counts as the identity. -/
def mapping (half : Half) : OutputMapping :=
  half.output.mapping?.getD .identity

/-- A result variable with the components of the portion. -/
def masked (half : Half) (variableName : String) : Expr :=
  .of variableName half.portion.mask

/-- Computes a result: mapped, made as wide as the portion, and clamped. -/
def compute (half : Half) (variableName : String) (result : Expr) :
    Statement :=
  .set (half.masked variableName)
    (.call3 "clamp" (half.portion.cast (half.mapping.apply result))
      (-1.0) 1.0)

/-- Computations of the results that have a destination. -/
def computations (half : Half) (context : Context) : List Statement :=
  (if (destination? half.output.ab).isSome then
      [half.compute "ab" (half.ab context)] else [])
    ++ (if (destination? half.output.cd).isSome then
      [half.compute "cd" (half.cd context)] else [])
    ++ (if (destination? half.output.muxSum).isSome then
      [half.compute "mux_sum" (half.muxSum context)] else [])

/-- Writes a result to its destination, with the copy of blue to alpha. -/
def write (half : Half) (raw : UInt8) (variableName : String)
    (blueToAlpha : Bool) :
    List Statement :=
  match destination? raw with
  | none => []
  | some destination =>
      .set (half.masked destination) (half.masked variableName) ::
        if half.portion = .rgb ∧ blueToAlpha = true then
          [.set (.of destination "a") (.of variableName "b")]
        else []

/-- Writes of the results that have a destination. -/
def writes (half : Half) : List Statement :=
  half.write half.output.ab "ab" half.output.abBlueToAlpha
    ++ half.write half.output.cd "cd" half.output.cdBlueToAlpha
    ++ half.write half.output.muxSum "mux_sum" false

/-- The constants a portion reads. -/
def constants (half : Half) (context : Context) : List String :=
  half.inputs.toList.flatMap context.constants

/-- The spare registers a portion touches. -/
def spares (half : Half) : List String :=
  half.inputs.toList.flatMap Context.spares
    ++ destinationSpares half.output.ab
    ++ destinationSpares half.output.cd
    ++ destinationSpares half.output.muxSum
    ++ (if (destination? half.output.muxSum).isSome && half.output.mux then
      ["r0"] else [])

/-- What a destination nibble warns about. -/
def destinationWarnings (context : Context) (raw : UInt8) : List Warning :=
  match Register.ofNibble? raw with
  | some .zero => []
  | _ =>
      if (destination? raw).isNone then
        [.readOnlyDestination context.stage raw.toNat]
      else []

/-- What a portion warns about. -/
def warnings (half : Half) (context : Context) : List Warning :=
  half.inputs.toList.flatMap context.inputWarnings
    ++ (if half.output.mapping?.isNone then
      [.reservedOutputMapping context.stage half.output.mappingBits.toNat]
      else [])
    ++ destinationWarnings context half.output.ab
    ++ destinationWarnings context half.output.cd
    ++ destinationWarnings context half.output.muxSum

end Half

namespace Stage

/-- The statements of a stage. -/
def statements (stage : Stage) (context : Context) : List Statement :=
  .remark ("Stage " ++ toString context.stage) ::
    stage.rgb.computations context ++ stage.alpha.computations context
    ++ stage.rgb.writes ++ stage.alpha.writes

/-- The constants a stage reads. -/
def constants (stage : Stage) (context : Context) : List String :=
  stage.rgb.constants context ++ stage.alpha.constants context

/-- The spare registers a stage touches. -/
def spares (stage : Stage) : List String :=
  stage.rgb.spares ++ stage.alpha.spares

/-- What a stage warns about. -/
def warnings (stage : Stage) (context : Context) : List Warning :=
  stage.rgb.warnings context ++ stage.alpha.warnings context

end Stage

end ShaderSynth.Combiner
