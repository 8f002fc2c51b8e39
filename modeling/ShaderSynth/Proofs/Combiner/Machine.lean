import Mathlib.Logic.Function.Basic
import ShaderSynth.Combiner.Stage

/-!
# The combiner machine

The machine that general combiner stages are written for.  A stage reads all
of its operands from the registers as it finds them.  For color and for alpha
it computes two products and their sum, or one of them, scales the results and
limits them.  Only then are the results written: those of the color portion
first, and of each portion the two products before the sum.

The machine works component by component and knows nothing of shader
statements.  What the arithmetic computes is left open.
-/

namespace ShaderSynth.Combiner

/-- The arithmetic of the combiners, with what chooses between products. -/
class Arithmetic (value : Type) extends Scalar value where
  /-- Whether the first value is not below the second. -/
  atLeast : value → value → Bool
  /-- The whole number that a value is cut off to. -/
  toWord : value → UInt32

/-! ## Colors -/

/-- The components of a color. -/
inductive Component where
  | r
  | g
  | b
  | a
deriving DecidableEq, Repr

/-- A color. -/
@[ext]
structure Color (value : Type) where
  r : value
  g : value
  b : value
  a : value
deriving DecidableEq, Repr

/-- A component of a color. -/
def Color.get {value : Type} (color : Color value) : Component → value
  | .r => color.r
  | .g => color.g
  | .b => color.b
  | .a => color.a

namespace Portion

/-- The components that a portion computes. -/
def written : Portion → List Component
  | rgb => [.r, .g, .b]
  | alpha => [.a]

/-- The component of an operand that a component is computed from. -/
def source (alphaSelected : Bool) (component : Component) :
    Portion → Component
  | rgb => if alphaSelected then .a else component
  | alpha => if alphaSelected then .a else .b

/-- A color with a result put in; blue may be put into alpha as well. -/
def put
    {value : Type} (result : Component → value) (blueToAlpha : Bool)
    (old : Color value) :
    Portion → Color value
  | rgb =>
      ⟨result .r, result .g, result .b,
        if blueToAlpha then result .b else old.a⟩
  | alpha => { old with a := result .a }

end Portion

/-! ## Registers -/

/-- The registers that can be written. -/
inductive Cell where
  | v0
  | v1
  | t0
  | t1
  | t2
  | t3
  | r0
  | r1
deriving DecidableEq, Repr

/-- The register as one that can be written; the others discard results. -/
def Register.cell? : Register → Option Cell
  | .v0 => some .v0
  | .v1 => some .v1
  | .t0 => some .t0
  | .t1 => some .t1
  | .t2 => some .t2
  | .t3 => some .t3
  | .r0 => some .r0
  | .r1 => some .r1
  | .zero | .c0 | .c1 | .fog | .v1r0Sum | .efProduct => none

/-- What the registers hold. -/
@[ext]
structure Registers (value : Type) where
  cells : Cell → Color value
  fog : Color value
  /-- The constants, by slot and stage. -/
  constants : Nat → Nat → Color value

variable {value : Type} [Arithmetic value]

/-! ## Results -/

/-- The results of a portion. -/
inductive Result where
  | ab
  | cd
  | muxSum
deriving DecidableEq, Repr

/-- The results in the order in which they are written. -/
def Result.inOrder : List Result := [.ab, .cd, .muxSum]

namespace Output

/-- The nibble of a result's destination. -/
def target (output : Output) : Result → UInt8
  | .ab => output.ab
  | .cd => output.cd
  | .muxSum => output.muxSum

/-- Whether the blue of a result is copied to alpha. -/
def copiesBlue (output : Output) : Result → Bool
  | .ab => output.abBlueToAlpha
  | .cd => output.cdBlueToAlpha
  | .muxSum => false

end Output

/-! ## Mappings -/

/-- What an input mapping makes of a value. -/
def InputMapping.meaning (operand : value) : InputMapping → value
  | unsignedIdentity => Scalar.max operand (Scalar.ofRat 0)
  | unsignedInvert =>
      Scalar.sub (Scalar.ofRat 1)
        (Scalar.clamp operand (Scalar.ofRat 0) (Scalar.ofRat 1))
  | expandNormal =>
      Scalar.sub
        (Scalar.mul (Scalar.ofRat 2) (Scalar.max operand (Scalar.ofRat 0)))
        (Scalar.ofRat 1)
  | expandNegate =>
      Scalar.add
        (Scalar.mul (Scalar.neg (Scalar.ofRat 2))
          (Scalar.max operand (Scalar.ofRat 0)))
        (Scalar.ofRat 1)
  | halfBiasNormal =>
      Scalar.sub (Scalar.max operand (Scalar.ofRat 0)) (Scalar.ofRat (1 / 2))
  | halfBiasNegate =>
      Scalar.add (Scalar.neg (Scalar.max operand (Scalar.ofRat 0)))
        (Scalar.ofRat (1 / 2))
  | signedIdentity => operand
  | signedNegate => Scalar.neg operand

/-- What an input mapping makes of zero, computed exactly. -/
def InputMapping.ofZero : InputMapping → Rat
  | unsignedIdentity | signedIdentity | signedNegate => 0
  | unsignedInvert | expandNegate => 1
  | expandNormal => -1
  | halfBiasNormal => -1 / 2
  | halfBiasNegate => 1 / 2

/-- What an output mapping makes of a value. -/
def OutputMapping.meaning (result : value) : OutputMapping → value
  | identity => result
  | bias => Scalar.sub result (Scalar.ofRat (1 / 2))
  | shiftLeft1 => Scalar.mul result (Scalar.ofRat 2)
  | shiftLeft1Bias =>
      Scalar.mul (Scalar.sub result (Scalar.ofRat (1 / 2))) (Scalar.ofRat 2)
  | shiftLeft2 => Scalar.mul result (Scalar.ofRat 4)
  | shiftRight1 => Scalar.div result (Scalar.ofRat 2)

/-! ## Operands -/

namespace Registers

/-- A color that the sum register adds up, or its complement. -/
def addend (complement : Bool) (color : Color value)
    (component : Component) : value :=
  if complement then Scalar.sub (Scalar.ofRat 1) (color.get component)
  else color.get component

/-- The sum register, which has no alpha. -/
def sum (registers : Registers value) (settings : SumSettings) :
    Color value :=
  let limit (component : value) : value :=
    if settings.clamp then
      Scalar.clamp component (Scalar.ofRat 0) (Scalar.ofRat 1)
    else component
  let add (component : Component) : value :=
    Scalar.add
      (addend settings.complementV1 (registers.cells .v1) component)
      (addend settings.complementR0 (registers.cells .r0) component)
  ⟨limit (add .r), limit (add .g), limit (add .b), limit (Scalar.ofRat 0)⟩

/-- A constant in a stage: its own one, or the one that all stages share. -/
def constant
    (registers : Registers value) (slot stage : Nat) (unique : Bool) :
    Color value :=
  registers.constants slot (if unique then stage else 0)

/--
The color that a register gives in a stage, unless it reads as zero.  There is
no product outside of the final combiner.
-/
def read? (registers : Registers value) (context : Context) :
    Register → Option (Color value)
  | .zero | .efProduct => none
  | .c0 =>
      some (registers.constant 0 context.stage context.control.uniqueC0)
  | .c1 =>
      some (registers.constant 1 context.stage context.control.uniqueC1)
  | .fog => some registers.fog
  | .v1r0Sum => some (registers.sum context.sum)
  | .v0 => some (registers.cells .v0)
  | .v1 => some (registers.cells .v1)
  | .t0 => some (registers.cells .t0)
  | .t1 => some (registers.cells .t1)
  | .t2 => some (registers.cells .t2)
  | .t3 => some (registers.cells .t3)
  | .r0 => some (registers.cells .r0)
  | .r1 => some (registers.cells .r1)

/--
The operand that a component is computed from.  Zero is mapped exactly, and
reserved registers read as zero.
-/
def operand
    (registers : Registers value) (context : Context) (portion : Portion)
    (input : Input) (component : Component) :
    value :=
  match input.register?.bind (registers.read? context) with
  | none => Scalar.ofRat input.mapping.ofZero
  | some color =>
      input.mapping.meaning
        (color.get (portion.source input.alpha component))

/-! ## Computations -/

/-- The sum of values, from the first one on. -/
def total : List value → value
  | [] => Scalar.ofRat 0
  | first :: rest => rest.foldl Scalar.add first

/-- A product of two operands, or their dot product over a portion. -/
def product
    (portion : Portion) (dot : Bool) (left right : Component → value)
    (component : Component) :
    value :=
  if dot then
    total (portion.written.map fun each =>
      Scalar.mul (left each) (right each))
  else Scalar.mul (left component) (right component)

/-- Whether the second product is chosen: a bit of the first spare's alpha. -/
def choosesSecond (registers : Registers value) (context : Context) : Bool :=
  let alpha := (registers.cells .r0).a
  if context.control.muxMsb then
    Arithmetic.atLeast alpha (Scalar.ofRat (1 / 2))
  else
    Arithmetic.toWord (Scalar.mul alpha (Scalar.ofRat 255)) &&& 1 == 1

/-- Scales a result and limits it; a reserved mapping leaves it as it is. -/
def finish (output : Output) (result : value) : value :=
  Scalar.clamp ((output.mapping?.getD .identity).meaning result)
    (Scalar.neg (Scalar.ofRat 1)) (Scalar.ofRat 1)

/-- A result of a portion as it is computed, before it is scaled. -/
def raw
    (registers : Registers value) (context : Context) (half : Half)
    (component : Component) :
    Result → value :=
  let operand := registers.operand context half.portion
  let ab :=
    product half.portion half.output.abDot (operand half.inputs.a)
      (operand half.inputs.b)
  let cd :=
    product half.portion half.output.cdDot (operand half.inputs.c)
      (operand half.inputs.d)
  fun
  | .ab => ab component
  | .cd => cd component
  | .muxSum =>
      if half.output.mux then
        if registers.choosesSecond context then cd component
        else ab component
      else Scalar.add (ab component) (cd component)

/-- The results of a portion, from the registers as they are. -/
def results
    (registers : Registers value) (context : Context) (half : Half)
    (result : Result) (component : Component) :
    value :=
  finish half.output (registers.raw context half component result)

/-! ## Writes -/

/-- Gives a register another color. -/
def set (registers : Registers value) (cell : Cell) (color : Color value) :
    Registers value :=
  ⟨Function.update registers.cells cell color, registers.fog,
    registers.constants⟩

/-- Writes a result to the register of a nibble, if it can be written. -/
def write
    (registers : Registers value) (portion : Portion) (nibble : UInt8)
    (blueToAlpha : Bool) (result : Component → value) :
    Registers value :=
  match (Register.ofNibble? nibble).bind Register.cell? with
  | none => registers
  | some cell =>
      registers.set cell
        (portion.put result blueToAlpha (registers.cells cell))

/-- Writes the results of a portion in their order. -/
def commit
    (registers : Registers value) (half : Half)
    (results : Result → Component → value) :
    Registers value :=
  Result.inOrder.foldl
    (fun current result =>
      current.write half.portion (half.output.target result)
        (half.output.copiesBlue result) (results result))
    registers

/-! ## Stages -/

/-- Carries out a stage: everything is computed before anything is written. -/
def step
    (registers : Registers value) (stage : Stage) (context : Context) :
    Registers value :=
  let color := registers.results context stage.rgb
  let alpha := registers.results context stage.alpha
  (registers.commit stage.rgb color).commit stage.alpha alpha

/-- Carries out stages in turn. -/
def run (registers : Registers value) (stages : List (Stage × Context)) :
    Registers value :=
  stages.foldl (fun current entry => current.step entry.1 entry.2) registers

end Registers

end ShaderSynth.Combiner
