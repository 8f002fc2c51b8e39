import Mathlib.Logic.Function.Basic
import ShaderSynth.Microcode.Instruction

/-!
# The vertex machine

The machine that vertex programs are written for.  An instruction reads all of
its operands from the registers as it finds them, and both units compute.
Then the results are committed in a fixed order: the output write, the scalar
result, and last the result of the multiply-accumulate unit.

The machine works on tokens and knows nothing of shader statements.  What the
operations compute is left open.
-/

namespace ShaderSynth.Microcode

/-- A vector of four components. -/
structure Vec4 (scalar : Type) where
  x : scalar
  y : scalar
  z : scalar
  w : scalar
deriving DecidableEq, Repr

namespace Vec4

variable {scalar : Type}

/-- The component of a selector, of which the low two bits count. -/
def component (vector : Vec4 scalar) (selector : UInt8) : scalar :=
  match (selector &&& 3).toNat with
  | 0 => vector.x
  | 1 => vector.y
  | 2 => vector.z
  | _ => vector.w

/-- The components that a selection makes. -/
def swizzle (vector : Vec4 scalar) (selection : Swizzle) : Vec4 scalar :=
  ⟨vector.component selection.x, vector.component selection.y,
    vector.component selection.z, vector.component selection.w⟩

/-- Changes every component. -/
def map (change : scalar → scalar) (vector : Vec4 scalar) : Vec4 scalar :=
  ⟨change vector.x, change vector.y, change vector.z, change vector.w⟩

/-- Puts the components that a mask reaches into another vector. -/
def blend (result : Vec4 scalar) (mask : Mask) (old : Vec4 scalar) :
    Vec4 scalar :=
  ⟨if mask.x then result.x else old.x, if mask.y then result.y else old.y,
    if mask.z then result.z else old.z, if mask.w then result.w else old.w⟩

@[simp]
theorem swizzle_identity (vector : Vec4 scalar) :
    vector.swizzle .identity = vector :=
  rfl

@[simp]
theorem blend_empty (result old : Vec4 scalar) :
    result.blend .empty old = old :=
  rfl

/-- What was blended into a vector can be blended on from there. -/
theorem blend_blend (result : Vec4 scalar) (mask : Mask)
    (old other : Vec4 scalar) :
    (result.blend mask old).blend mask other = result.blend mask other := by
  simp only [blend, mk.injEq]
  refine ⟨?_, ?_, ?_, ?_⟩
  all_goals split <;> simp_all

end Vec4

/-- What the operations compute. -/
structure Interpretation (scalar : Type) where
  /-- The value of an operand with its sign changed. -/
  negate : scalar → scalar
  /-- The result of the operation with a mnemonic. -/
  compute : String → List (Vec4 scalar) → Vec4 scalar
  /-- The result of an address load. -/
  address : Vec4 scalar → Int

/-- The registers of the machine. -/
@[ext]
structure Registers (scalar : Type) where
  temporaries : UInt8 → Vec4 scalar
  outputs : OutputRegister → Vec4 scalar
  address : Int
  inputs : UInt8 → Vec4 scalar
  constants : Int → Vec4 scalar

/-- The operands that a multiply-accumulate operation takes, in order. -/
def MacOp.inputs (mac : MacOp) : List InputSlot :=
  (if mac.readsA then [InputSlot.a] else []) ++
    (if mac.readsB then [InputSlot.b] else []) ++
    (if mac.readsC then [InputSlot.c] else [])

/-- The operands that a scalar operation takes. -/
def IluOp.inputs (ilu : IluOp) : List InputSlot :=
  if ilu = .nop then [] else [.c]

/-- What a unit has computed. -/
inductive Result (scalar : Type) where
  | nothing
  | vector (value : Vec4 scalar)
  | address (value : Int)

namespace Result

variable {scalar : Type}

/-- Whether the unit had an operation. -/
def active : Result scalar → Bool
  | nothing => false
  | vector _ | address _ => true

/-- The result of the multiply-accumulate unit. -/
def ofMac (meaning : Interpretation scalar) (mac : MacOp)
    (inputs : List (Vec4 scalar)) :
    Result scalar :=
  match mac, inputs with
  | .nop, _ => nothing
  | .arl, [source] => address (meaning.address source)
  | _, inputs => vector (meaning.compute mac.mnemonic inputs)

/-- The result of the scalar unit. -/
def ofIlu (meaning : Interpretation scalar) (ilu : IluOp)
    (inputs : List (Vec4 scalar)) :
    Result scalar :=
  match ilu with
  | .nop => nothing
  | _ => vector (meaning.compute ilu.mnemonic inputs)

end Result

namespace Registers

variable {scalar : Type}

/-! ## Operands -/

/--
The registers as shader expressions read them: number twelve is another name
of the position.
-/
def readable (registers : Registers scalar) : Registers scalar :=
  { registers with
    temporaries :=
      Function.update registers.temporaries 12
        (registers.outputs .position) }

/-- Where constants are counted from. -/
def base (registers : Registers scalar) (token : Token) : Int :=
  if Field.relative.get token = 0 then 0 else registers.address

/-- The value of an operand, if its register file selector is in use. -/
def operand
    (meaning : Interpretation scalar) (registers : Registers scalar)
    (token : Token) (slot : InputSlot) :
    Option (Vec4 scalar) :=
  let operand := Operand.decode token slot
  operand.file?.map fun file =>
    let vector :=
      match file with
      | .temporary => registers.temporaries operand.register
      | .input => registers.inputs (Field.input.get token)
      | .constant =>
          registers.constants
            (registers.base token +
              constantIndex (Field.constant.get token))
    let selected := vector.swizzle operand.swizzle
    if operand.negate then selected.map meaning.negate else selected

/-! ## Results -/

/-- Writes components of an output register. -/
def writeOutput
    (registers : Registers scalar) (register : OutputRegister) (mask : Mask)
    (result : Vec4 scalar) :
    Registers scalar :=
  { registers with
    outputs :=
      Function.update registers.outputs register
        (result.blend mask (registers.outputs register)) }

/--
Writes components of a temporary register.  Number twelve is another name of
the position.
-/
def writeTemporary
    (registers : Registers scalar) (number : UInt8) (mask : Mask)
    (result : Vec4 scalar) :
    Registers scalar :=
  if number = 12 then registers.writeOutput .position mask result
  else
    { registers with
      temporaries :=
        Function.update registers.temporaries number
          (result.blend mask (registers.temporaries number)) }

/-- Commits the result of the selected unit to the outputs. -/
def commitOutput
    (token : Token) (mac ilu : Result scalar)
    (registers : Registers scalar) :
    Registers scalar :=
  let selected := if Field.outputUnit.get token = 0 then mac else ilu
  let mask := Mask.ofNibble (Field.outputMask.get token)
  match selected,
    OutputRegister.ofAddress? (Field.outputAddress.get token) with
  | .vector value, some register =>
      registers.writeOutput register
        (if register = .fog then mask.packed else mask) value
  | _, _ => registers

/-- Commits the scalar result; with two results it goes to register one. -/
def commitIlu
    (token : Token) (mac ilu : Result scalar)
    (registers : Registers scalar) :
    Registers scalar :=
  let number := if mac.active then 1 else Field.register.get token
  match ilu with
  | .vector value =>
      registers.writeTemporary number
        (Mask.ofNibble (Field.iluMask.get token)) value
  | _ => registers

/--
Commits the result of the multiply-accumulate unit.  With two results,
register one is not for this unit.
-/
def commitMac
    (token : Token) (mac ilu : Result scalar)
    (registers : Registers scalar) :
    Registers scalar :=
  let number := Field.register.get token
  match mac with
  | .nothing => registers
  | .address value => { registers with address := value }
  | .vector value =>
      if ilu.active && number == 1 then registers
      else
        registers.writeTemporary number
          (Mask.ofNibble (Field.macMask.get token)) value

/-- Commits the results of both units. -/
def commit
    (token : Token) (mac ilu : Result scalar)
    (registers : Registers scalar) :
    Registers scalar :=
  commitMac token mac ilu
    (commitIlu token mac ilu (commitOutput token mac ilu registers))

/-! ## Instructions and programs -/

/-- Carries out an instruction, if it is one. -/
def step
    (meaning : Interpretation scalar) (token : Token)
    (registers : Registers scalar) :
    Option (Registers scalar) := do
  let mac : MacOp ← Coded.ofCode? (Field.mac.get token)
  let ilu := IluOp.ofLowBits (Field.ilu.get token)
  let macInputs ← mac.inputs.mapM (registers.operand meaning token)
  let iluInputs ← ilu.inputs.mapM (registers.operand meaning token)
  return registers.commit token (.ofMac meaning mac macInputs)
    (.ofIlu meaning ilu iluInputs)

/-- Carries out instructions up to the first final one. -/
def run (meaning : Interpretation scalar) :
    List Token → Registers scalar → Option (Registers scalar)
  | [], registers => some registers
  | token :: rest, registers => do
      let after ← step meaning token registers
      if Field.final.get token = 0 then run meaning rest after
      else some after

end Registers

/-- The tokens up to the first final one. -/
def executed : List Token → List Token
  | [] => []
  | token :: rest =>
      if Field.final.get token = 0 then token :: executed rest else [token]

/-- The operands that an instruction reads. -/
def Token.inputs (token : Token) : List InputSlot :=
  let mac : Option MacOp := Coded.ofCode? (Field.mac.get token)
  (mac.map MacOp.inputs).getD [] ++
    (IluOp.ofLowBits (Field.ilu.get token)).inputs

/-- An instruction reads a temporary register. -/
def Token.ReadsTemporary (token : Token) (number : UInt8) : Prop :=
  ∃ slot ∈ Token.inputs token,
    (Operand.decode token slot).file? = some .temporary ∧
      (Operand.decode token slot).register = number

instance (token : Token) (number : UInt8) :
    Decidable (Token.ReadsTemporary token number) :=
  inferInstanceAs (Decidable (∃ slot ∈ Token.inputs token, _))

end ShaderSynth.Microcode
