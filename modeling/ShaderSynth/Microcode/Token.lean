/-!
# Instruction tokens and their bit fields

A vertex program instruction is a token of four words.  Word zero is not used
by the hardware; the other three hold two opcodes, three input operands and
the routing of the results.  `Field.location` is the complete layout, and a
field is read and written only through it.
-/

namespace ShaderSynth.Microcode

/-- One instruction as uploaded: four words. -/
abbrev Token := Vector UInt32 4

/-- The bit fields of a token. -/
inductive Field where
  | ilu
  | mac
  | constant
  | input
  | aNegate
  | aSelectX
  | aSelectY
  | aSelectZ
  | aSelectW
  | aRegister
  | aMux
  | bNegate
  | bSelectX
  | bSelectY
  | bSelectZ
  | bSelectW
  | bRegister
  | bMux
  | cNegate
  | cSelectX
  | cSelectY
  | cSelectZ
  | cSelectW
  | cRegisterHigh
  | cRegisterLow
  | cMux
  | macMask
  | register
  | iluMask
  | outputMask
  | outputBank
  | outputAddress
  | outputUnit
  | relative
  | final
deriving DecidableEq, Repr

namespace Field

/-- A run of bits inside one word of a token. -/
structure Location where
  word : Fin 4
  shift : Nat
  width : Nat

/-- Where each field lies. -/
def location : Field → Location
  | ilu => ⟨1, 25, 3⟩
  | mac => ⟨1, 21, 4⟩
  | constant => ⟨1, 13, 8⟩
  | input => ⟨1, 9, 4⟩
  | aNegate => ⟨1, 8, 1⟩
  | aSelectX => ⟨1, 6, 2⟩
  | aSelectY => ⟨1, 4, 2⟩
  | aSelectZ => ⟨1, 2, 2⟩
  | aSelectW => ⟨1, 0, 2⟩
  | aRegister => ⟨2, 28, 4⟩
  | aMux => ⟨2, 26, 2⟩
  | bNegate => ⟨2, 25, 1⟩
  | bSelectX => ⟨2, 23, 2⟩
  | bSelectY => ⟨2, 21, 2⟩
  | bSelectZ => ⟨2, 19, 2⟩
  | bSelectW => ⟨2, 17, 2⟩
  | bRegister => ⟨2, 13, 4⟩
  | bMux => ⟨2, 11, 2⟩
  | cNegate => ⟨2, 10, 1⟩
  | cSelectX => ⟨2, 8, 2⟩
  | cSelectY => ⟨2, 6, 2⟩
  | cSelectZ => ⟨2, 4, 2⟩
  | cSelectW => ⟨2, 2, 2⟩
  | cRegisterHigh => ⟨2, 0, 2⟩
  | cRegisterLow => ⟨3, 30, 2⟩
  | cMux => ⟨3, 28, 2⟩
  | macMask => ⟨3, 24, 4⟩
  | register => ⟨3, 20, 4⟩
  | iluMask => ⟨3, 16, 4⟩
  | outputMask => ⟨3, 12, 4⟩
  | outputBank => ⟨3, 11, 1⟩
  | outputAddress => ⟨3, 3, 8⟩
  | outputUnit => ⟨3, 2, 1⟩
  | relative => ⟨3, 1, 1⟩
  | final => ⟨3, 0, 1⟩

/-- The fields from the first word's high bits down to the last word's low bits. -/
def all : List Field :=
  [ilu, mac, constant, input,
    aNegate, aSelectX, aSelectY, aSelectZ, aSelectW, aRegister, aMux,
    bNegate, bSelectX, bSelectY, bSelectZ, bSelectW, bRegister, bMux,
    cNegate, cSelectX, cSelectY, cSelectZ, cSelectW,
    cRegisterHigh, cRegisterLow, cMux,
    macMask, register, iluMask, outputMask, outputBank, outputAddress,
    outputUnit, relative, final]

/-- The name under which a field is reported. -/
def label : Field → String
  | ilu => "Ilu"
  | mac => "Mac"
  | constant => "Const"
  | input => "V"
  | aNegate => "ANeg"
  | aSelectX => "ASwzX"
  | aSelectY => "ASwzY"
  | aSelectZ => "ASwzZ"
  | aSelectW => "ASwzW"
  | aRegister => "AR"
  | aMux => "AMux"
  | bNegate => "BNeg"
  | bSelectX => "BSwzX"
  | bSelectY => "BSwzY"
  | bSelectZ => "BSwzZ"
  | bSelectW => "BSwzW"
  | bRegister => "BR"
  | bMux => "BMux"
  | cNegate => "CNeg"
  | cSelectX => "CSwzX"
  | cSelectY => "CSwzY"
  | cSelectZ => "CSwzZ"
  | cSelectW => "CSwzW"
  | cRegisterHigh => "CRHigh"
  | cRegisterLow => "CRLow"
  | cMux => "CMux"
  | macMask => "OutMacMask"
  | register => "OutR"
  | iluMask => "OutIluMask"
  | outputMask => "OutOMask"
  | outputBank => "OutOrb"
  | outputAddress => "OutAddress"
  | outputUnit => "OutMux"
  | relative => "A0X"
  | final => "Final"

/-- As many low one bits as the field is wide. -/
def mask (field : Field) : UInt32 :=
  UInt32.ofNat ((1 <<< field.location.width) - 1)

/-- The distance of the field from the low end of its word. -/
def shift (field : Field) : UInt32 :=
  UInt32.ofNat field.location.shift

/-- The value of a field. -/
def get (field : Field) (token : Token) : UInt8 :=
  ((token[field.location.word] >>> field.shift) &&& field.mask).toUInt8

/-- Replaces a field by the low bits of a value and leaves every other bit. -/
def set (field : Field) (value : UInt8) (token : Token) : Token :=
  let word := field.location.word
  let window := field.mask <<< field.shift
  token.set word
    ((token[word] &&& ~~~window) |||
      ((value.toUInt32 <<< field.shift) &&& window))

end Field

end ShaderSynth.Microcode
