import ShaderSynth.Microcode.Opcode
import ShaderSynth.Microcode.Operand

/-!
# Decoded instructions

`Instruction.decode` takes a token apart and refuses those that the hardware
does not define.  Only the parts that take effect are looked at: the operands
the two operations read, and the output write of an active unit.
-/

namespace ShaderSynth.Microcode

/-- The components of a register that a write reaches. -/
structure Mask where
  x : Bool
  y : Bool
  z : Bool
  w : Bool
deriving DecidableEq, Repr

namespace Mask

/-- The mask in the low four bits of a field; the highest of them is `x`. -/
def ofNibble (raw : UInt8) : Mask :=
  ⟨raw &&& 8 != 0, raw &&& 4 != 0, raw &&& 2 != 0, raw &&& 1 != 0⟩

/-- The mask that reaches nothing. -/
def empty : Mask := ⟨false, false, false, false⟩

/-- The letters of the components, in order. -/
def letters (mask : Mask) : String :=
  (if mask.x then "x" else "") ++ (if mask.y then "y" else "") ++
    (if mask.z then "z" else "") ++ (if mask.w then "w" else "")

/-- How many components the mask reaches. -/
def count (mask : Mask) : Nat :=
  mask.x.toNat + mask.y.toNat + mask.z.toNat + mask.w.toNat

/-- As many components, starting from `x`. -/
def packed (mask : Mask) : Mask :=
  ⟨0 < mask.count, 1 < mask.count, 2 < mask.count, 3 < mask.count⟩

end Mask

/-- Output registers of the vertex program. -/
inductive OutputRegister where
  | position
  | diffuse
  | specular
  | fog
  | pointSize
  | backDiffuse
  | backSpecular
  | texture0
  | texture1
  | texture2
  | texture3
deriving DecidableEq, Repr

namespace OutputRegister

/-- The register at an address, of which the low four bits count. -/
def ofAddress? (address : UInt8) : Option OutputRegister :=
  match (address &&& 15).toNat with
  | 0 => some position
  | 3 => some diffuse
  | 4 => some specular
  | 5 => some fog
  | 6 => some pointSize
  | 7 => some backDiffuse
  | 8 => some backSpecular
  | 9 => some texture0
  | 10 => some texture1
  | 11 => some texture2
  | 12 => some texture3
  | _ => none

/-- The shader variable of an output register. -/
def variableName : OutputRegister → String
  | position => "oPos"
  | diffuse => "oD0"
  | specular => "oD1"
  | fog => "oFog"
  | pointSize => "oPts"
  | backDiffuse => "oB0"
  | backSpecular => "oB1"
  | texture0 => "oT0"
  | texture1 => "oT1"
  | texture2 => "oT2"
  | texture3 => "oT3"

/--
The components written for a mask.  The fog output keeps a single value, so
the written components move to the front of it.
-/
def writtenMask (register : OutputRegister) (mask : Mask) : Mask :=
  match register with
  | fog => mask.packed
  | _ => mask

end OutputRegister

/-- Where an operand is read from. -/
inductive Source where
  | temporary (number : UInt8)
  | input (number : UInt8)
  | constant (index : Nat)
  /-- A constant counted from the address register. -/
  | relativeConstant (index : Nat)
deriving DecidableEq, Repr

/-- An operand as an operation reads it. -/
structure Read where
  negate : Bool
  source : Source
  swizzle : Swizzle
deriving DecidableEq, Repr

/-- The two execution units. -/
inductive ExecutionUnit where
  | mac
  | ilu
deriving DecidableEq, Repr

/-- A result routed to an output register. -/
structure OutputWrite where
  unit : ExecutionUnit
  register : OutputRegister
  mask : Mask
deriving DecidableEq, Repr

/-- A well-formed instruction; the inputs of an operation are in order. -/
structure Instruction where
  mac : MacOp
  macInputs : List Read
  macMask : Mask
  ilu : IluOp
  iluInputs : List Read
  iluMask : Mask
  /-- The temporary register that receives results. -/
  register : UInt8
  output : Option OutputWrite
deriving DecidableEq, Repr

/-- Why a token is refused. -/
inductive Fault where
  | macOpcode (opcode : UInt8)
  | operand (slot : InputSlot)
  | constantOutput
  | reservedOutput (address : UInt8)
deriving DecidableEq, Repr

/-- The constant a token addresses. -/
def Token.constantSource (token : Token) : Source :=
  let index := constantIndex (Field.constant.get token)
  if Field.relative.get token != 0 then .relativeConstant index
  else .constant index

/-- The operand in a slot, if its register file selector is in use. -/
def Token.read? (token : Token) (slot : InputSlot) : Option Read :=
  let operand := Operand.decode token slot
  operand.file?.map fun file =>
    { negate := operand.negate
      source :=
        match file with
        | .temporary => .temporary operand.register
        | .input => .input (Field.input.get token)
        | .constant => token.constantSource
      swizzle := operand.swizzle }

/-- The operand in a slot as a list, empty if it is not needed. -/
def Token.readWhen
    (needed : Bool) (token : Token) (slot : InputSlot) :
    Except Fault (List Read) :=
  if needed then
    match Token.read? token slot with
    | some read => .ok [read]
    | none => .error (.operand slot)
  else .ok []

/-- The unit whose result a token routes to the outputs. -/
def Token.outputUnit (token : Token) : ExecutionUnit :=
  if Field.outputUnit.get token = 0 then .mac else .ilu

/-- Whether a unit has an operation. -/
def ExecutionUnit.active (mac : MacOp) (ilu : IluOp) : ExecutionUnit → Bool
  | .mac => mac != .nop
  | .ilu => ilu != .nop

/-- The output write of a token, if an active unit has one. -/
def Token.outputWrite
    (token : Token) (mac : MacOp) (ilu : IluOp) :
    Except Fault (Option OutputWrite) :=
  let unit := Token.outputUnit token
  let mask := Mask.ofNibble (Field.outputMask.get token)
  let address := Field.outputAddress.get token &&& 15
  if unit.active mac ilu && mask != .empty then
    if Field.outputBank.get token = 0 then .error .constantOutput
    else
      match OutputRegister.ofAddress? address with
      | some register => .ok (some ⟨unit, register, mask⟩)
      | none => .error (.reservedOutput address)
  else .ok none

/--
Takes a token apart.  Faults are found in a fixed order: the opcode, the
operands C, A and B, and then the output write.
-/
def Instruction.decode (token : Token) : Except Fault Instruction :=
  let opcode := Field.mac.get token
  match Coded.ofCode? opcode with
  | none => .error (.macOpcode opcode)
  | some mac => do
      let ilu := IluOp.ofLowBits (Field.ilu.get token)
      let c ← Token.readWhen (mac.readsC || ilu != .nop) token .c
      let a ← Token.readWhen mac.readsA token .a
      let b ← Token.readWhen mac.readsB token .b
      let output ← Token.outputWrite token mac ilu
      return {
        mac := mac
        macInputs := a ++ b ++ (if mac.readsC then c else [])
        macMask := Mask.ofNibble (Field.macMask.get token)
        ilu := ilu
        iluInputs := if ilu != .nop then c else []
        iluMask := Mask.ofNibble (Field.iluMask.get token)
        register := Field.register.get token
        output := output }

end ShaderSynth.Microcode
