import ShaderSynth.Coded
import ShaderSynth.Microcode.Token

/-!
# Input operands

The three input operands A, B and C share one shape: a register file selector,
a register number, a sign and a component selection.  `Operand.decode` keeps
all of it, so `Operand.encode` can write an operand back unchanged.

A component selection is written after a register as a suffix.  Suffixes may
be short: the last letter stands for all components that follow it.
-/

namespace ShaderSynth.Microcode

/-- Four component selectors; `0` to `3` select `x` to `w`. -/
structure Swizzle where
  x : UInt8
  y : UInt8
  z : UInt8
  w : UInt8
deriving DecidableEq, Repr

namespace Swizzle

/-- The selection that leaves a vector as it is. -/
def identity : Swizzle := ⟨0, 1, 2, 3⟩

/-- The selectors in order. -/
def toList (swizzle : Swizzle) : List UInt8 :=
  [swizzle.x, swizzle.y, swizzle.z, swizzle.w]

/-- The letter of a selector, of which the low two bits count. -/
def letter (selector : UInt8) : Char :=
  match (selector &&& 3).toNat with
  | 0 => 'x'
  | 1 => 'y'
  | 2 => 'z'
  | _ => 'w'

/-- The selector of a letter. -/
def ofLetter? : Char → Option UInt8
  | 'x' => some 0
  | 'y' => some 1
  | 'z' => some 2
  | 'w' => some 3
  | _ => none

/-- How many letters the shortest suffix needs. -/
def letterCount (swizzle : Swizzle) : Nat :=
  if swizzle = identity then 0
  else if swizzle.x = swizzle.y ∧ swizzle.y = swizzle.z ∧
      swizzle.z = swizzle.w then 1
  else if swizzle.y = swizzle.z ∧ swizzle.z = swizzle.w then 2
  else if swizzle.z = swizzle.w then 3
  else 4

/-- The letters of the shortest suffix, without the dot. -/
def letters (swizzle : Swizzle) : List Char :=
  (swizzle.toList.take swizzle.letterCount).map letter

/-- The shortest suffix that makes the selection, with its dot. -/
def suffix (swizzle : Swizzle) : String :=
  match swizzle.letters with
  | [] => ""
  | letters => String.ofList ('.' :: letters)

/-- The selection made by one to four letters. -/
def ofLetters? : List Char → Option Swizzle
  | [x] => do
      let x ← ofLetter? x
      return ⟨x, x, x, x⟩
  | [x, y] => do
      let x ← ofLetter? x
      let y ← ofLetter? y
      return ⟨x, y, y, y⟩
  | [x, y, z] => do
      let x ← ofLetter? x
      let y ← ofLetter? y
      let z ← ofLetter? z
      return ⟨x, y, z, z⟩
  | [x, y, z, w] => do
      let x ← ofLetter? x
      let y ← ofLetter? y
      let z ← ofLetter? z
      let w ← ofLetter? w
      return ⟨x, y, z, w⟩
  | _ => none

/-- The selection a suffix makes; the empty suffix leaves the vector as it is. -/
def ofSuffix? (suffix : String) : Option Swizzle :=
  match suffix.toList with
  | [] => some identity
  | '.' :: letters => ofLetters? letters
  | _ => none

end Swizzle

/-- The three input operands of an instruction. -/
inductive InputSlot where
  | a
  | b
  | c
deriving DecidableEq, Repr

namespace InputSlot

/-- The letter under which an operand is reported. -/
def letter : InputSlot → String
  | a => "A"
  | b => "B"
  | c => "C"

/-- The field with the register file selector. -/
def muxField : InputSlot → Field
  | a => .aMux
  | b => .bMux
  | c => .cMux

/-- The field with the sign. -/
def negateField : InputSlot → Field
  | a => .aNegate
  | b => .bNegate
  | c => .cNegate

/-- The fields with the component selectors, in the order `x`, `y`, `z`, `w`. -/
def selectFields : InputSlot → Field × Field × Field × Field
  | a => (.aSelectX, .aSelectY, .aSelectZ, .aSelectW)
  | b => (.bSelectX, .bSelectY, .bSelectZ, .bSelectW)
  | c => (.cSelectX, .cSelectY, .cSelectZ, .cSelectW)

/-- The number of the temporary register; operand C splits it over two words. -/
def getRegister (token : Token) : InputSlot → UInt8
  | a => Field.aRegister.get token
  | b => Field.bRegister.get token
  | c =>
      (Field.cRegisterHigh.get token <<< 2) ||| Field.cRegisterLow.get token

/-- Writes the number of the temporary register. -/
def setRegister (number : UInt8) (token : Token) : InputSlot → Token
  | a => Field.aRegister.set number token
  | b => Field.bRegister.set number token
  | c =>
      Field.cRegisterLow.set (number &&& 3)
        (Field.cRegisterHigh.set (number >>> 2) token)

end InputSlot

/-- The register files an operand can come from. -/
inductive RegisterFile where
  | temporary
  | input
  | constant
deriving DecidableEq, Repr

instance : Coded RegisterFile where
  members := [.temporary, .input, .constant]
  code
    | .temporary => 1
    | .input => 2
    | .constant => 3
  label
    | .temporary => "Temp"
    | .input => "Input"
    | .constant => "Constant"

/-- An input operand as the token holds it. -/
structure Operand where
  mux : UInt8
  register : UInt8
  negate : Bool
  swizzle : Swizzle
deriving DecidableEq, Repr

namespace Operand

/-- Reads the operand in an input slot. -/
def decode (token : Token) (slot : InputSlot) : Operand :=
  let (x, y, z, w) := slot.selectFields
  { mux := slot.muxField.get token
    register := slot.getRegister token
    negate := slot.negateField.get token != 0
    swizzle := ⟨x.get token, y.get token, z.get token, w.get token⟩ }

/-- Writes the operand into an input slot. -/
def encode (operand : Operand) (token : Token) (slot : InputSlot) : Token :=
  let (x, y, z, w) := slot.selectFields
  let token := slot.setRegister operand.register token
  let token := slot.muxField.set operand.mux token
  let token := slot.negateField.set operand.negate.toUInt8 token
  let token := x.set operand.swizzle.x token
  let token := y.set operand.swizzle.y token
  let token := z.set operand.swizzle.z token
  w.set operand.swizzle.w token

/-- The register file an operand comes from; one selector value is not in use. -/
def file? (operand : Operand) : Option RegisterFile :=
  Coded.ofCode? operand.mux

end Operand

/-!
## Addresses in the constant file

An instruction addresses the constants `c[-96]` to `c[159]` in banks of 32,
and the encoding counts them from the lowest.  The shader's constant array is
counted from the same register, so an encoded address is its index.
-/

/-- Index in the constant array of an encoded address. -/
def constantIndex (encoded : UInt8) : Nat :=
  encoded.toNat

/-- The encoded address of an index, if it has one. -/
def encodeConstantIndex? (index : Int) : Option UInt8 :=
  if 0 ≤ index ∧ index < 256 then some (UInt8.ofNat index.toNat) else none

end ShaderSynth.Microcode
