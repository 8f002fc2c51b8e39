import ShaderSynth.Combiner.Settings
import ShaderSynth.Warning

/-!
# Combiner operands

The operand of a combiner is an expression over the shader variables of the
registers, or a constant if the register reads as zero.  Constants are folded
through their input mapping, so that the final combiner can be simplified.

What an operand needs declared, and what it warns about, is read off the
same input byte.
-/

namespace ShaderSynth.Combiner

open Glsl (Expr)

/-- The stage number of the final combiner. -/
def finalStage : Nat := 8

/-- Which components a combiner computes. -/
inductive Portion where
  | rgb
  | alpha
deriving DecidableEq, Repr

namespace Portion

/-- The components written. -/
def mask : Portion → String
  | rgb => "rgb"
  | alpha => "a"

/-- The components read: an operand may select alpha. -/
def components (alphaSelected : Bool) : Portion → String
  | rgb => if alphaSelected then "aaa" else "rgb"
  | alpha => if alphaSelected then "a" else "b"

/-- Makes a result as wide as the portion. -/
def cast (result : Expr) : Portion → Expr
  | rgb => .call "vec3" result
  | alpha => .group result

end Portion

/-- An operand after its input mapping. -/
inductive Operand where
  | constant (value : Rat)
  | expr (expression : Expr)
deriving DecidableEq, Repr

namespace Operand

/-- The expression of an operand, as wide as the portion. -/
def render (portion : Portion) : Operand → Expr
  | constant value =>
      match portion with
      | .rgb => .call "vec3" (.number value)
      | .alpha => .number value
  | expr expression => expression

/-- The expression of an operand, made three components wide. -/
def vec3 : Operand → Expr
  | constant value => .call "vec3" (.number value)
  | expr expression => .call "vec3" expression

end Operand

/-- The shader variable of a constant of a stage. -/
def constantName (slot stage : Nat) : String :=
  "c" ++ toString slot ++ "_" ++ toString stage

/-- What reading a register depends on. -/
structure Context where
  control : Control
  sum : SumSettings
  stage : Nat
  /-- The two factors of the final product, where it can be read. -/
  product : Option (Expr × Expr)

namespace Context

/-- The shader variable of a constant: shared by the general stages, or not. -/
def constantName (context : Context) (slot : Nat) (unique : Bool) : String :=
  Combiner.constantName slot
    (if unique || context.stage == finalStage then context.stage else 0)

/-- The complement of a variable, where it is asked for. -/
def complemented (complement : Bool) (variableName : String) : Expr :=
  if complement then .group (1.0 - variableName) else variableName

/-- The sum register. -/
def sumExpr (context : Context) : Expr :=
  let sum :=
    Expr.call2 "vec4"
      ((complemented context.sum.complementV1 "v1").select "rgb" +
        (complemented context.sum.complementR0 "r0").select "rgb")
      0.0
  if context.sum.clamp then .call3 "clamp" sum 0.0 1.0 else sum

/-- The expression of a register that does not read as zero. -/
def read? (context : Context) : Register → Option Expr
  | .zero => none
  | .c0 => some (context.constantName 0 context.control.uniqueC0)
  | .c1 => some (context.constantName 1 context.control.uniqueC1)
  | .fog => some "pFog"
  | .v0 => some "v0"
  | .v1 => some "v1"
  | .t0 => some "t0"
  | .t1 => some "t1"
  | .t2 => some "t2"
  | .t3 => some "t3"
  | .r0 => some "r0"
  | .r1 => some "r1"
  | .v1r0Sum => some context.sumExpr
  | .efProduct =>
      context.product.map fun (e, f) => Expr.call2 "vec4" (e * f) 0.0

/-- The operand of an input byte; a reserved register reads zero. -/
def operand
    (context : Context) (input : Input) (portion : Portion) : Operand :=
  match input.register?.bind context.read? with
  | none => .constant (input.mapping.fold 0)
  | some register =>
      .expr (input.mapping.apply
        (register.select (portion.components input.alpha)))

/-- The constant an input byte reads. -/
def constants (context : Context) (input : Input) : List String :=
  match input.register? with
  | some .c0 => [context.constantName 0 context.control.uniqueC0]
  | some .c1 => [context.constantName 1 context.control.uniqueC1]
  | _ => []

/-- The spare register an input byte reads. -/
def spares (input : Input) : List String :=
  match input.register? with
  | some .r0 | some .v1r0Sum => ["r0"]
  | some .r1 => ["r1"]
  | _ => []

/-- What an input byte warns about. -/
def inputWarnings (context : Context) (input : Input) : List Warning :=
  match input.register? with
  | none => [.reservedRegister context.stage input.register.toNat]
  | some .efProduct =>
      if context.product.isNone then [.productOutsideFinal context.stage]
      else []
  | some _ => []

end Context

/-- The four operands of a combiner in order. -/
def Inputs.toList (inputs : Inputs) : List Input :=
  [inputs.a, inputs.b, inputs.c, inputs.d]

end ShaderSynth.Combiner
