import ShaderSynth.Coded
import ShaderSynth.Glsl.Expr
import ShaderSynth.Scalar
import ShaderSynth.Single

/-!
# Combiner registers and mappings

A combiner reads its operands from registers through an input mapping, and
writes its results through an output mapping.  Each mapping exists twice: as
an expression for the shader, and as arithmetic for constant operands.
-/

namespace ShaderSynth.Combiner

open Glsl (Expr)

/-- Registers a combiner can name. -/
inductive Register where
  /-- Reads zero and discards what is written. -/
  | zero
  | c0
  | c1
  | fog
  | v0
  | v1
  | t0
  | t1
  | t2
  | t3
  | r0
  | r1
  /-- The sum of the secondary color and the first spare register. -/
  | v1r0Sum
  /-- The product of two inputs of the final combiner. -/
  | efProduct
deriving DecidableEq, Repr

instance : Coded Register where
  members := [.zero, .c0, .c1, .fog, .v0, .v1, .t0, .t1, .t2, .t3, .r0, .r1,
    .v1r0Sum, .efProduct]
  code
    | .zero => 0
    | .c0 => 1
    | .c1 => 2
    | .fog => 3
    | .v0 => 4
    | .v1 => 5
    | .t0 => 8
    | .t1 => 9
    | .t2 => 10
    | .t3 => 11
    | .r0 => 12
    | .r1 => 13
    | .v1r0Sum => 14
    | .efProduct => 15
  label
    | .zero => "Zero"
    | .c0 => "C0"
    | .c1 => "C1"
    | .fog => "Fog"
    | .v0 => "V0"
    | .v1 => "V1"
    | .t0 => "T0"
    | .t1 => "T1"
    | .t2 => "T2"
    | .t3 => "T3"
    | .r0 => "R0"
    | .r1 => "R1"
    | .v1r0Sum => "V1R0Sum"
    | .efProduct => "EfProd"

namespace Register

/-- The register named by the low four bits; two values are reserved. -/
def ofNibble? (raw : UInt8) : Option Register :=
  Coded.ofCode? (raw &&& 15)

/-- The shader variable of a register that can be written. -/
def writable? : Register → Option String
  | v0 => some "v0"
  | v1 => some "v1"
  | t0 => some "t0"
  | t1 => some "t1"
  | t2 => some "t2"
  | t3 => some "t3"
  | r0 => some "r0"
  | r1 => some "r1"
  | _ => none

end Register

/-- Mappings applied to what is read. -/
inductive InputMapping where
  | unsignedIdentity
  | unsignedInvert
  | expandNormal
  | expandNegate
  | halfBiasNormal
  | halfBiasNegate
  | signedIdentity
  | signedNegate
deriving DecidableEq, Repr

instance : Coded InputMapping where
  members := [.unsignedIdentity, .unsignedInvert, .expandNormal,
    .expandNegate, .halfBiasNormal, .halfBiasNegate, .signedIdentity,
    .signedNegate]
  code
    | .unsignedIdentity => 0
    | .unsignedInvert => 1
    | .expandNormal => 2
    | .expandNegate => 3
    | .halfBiasNormal => 4
    | .halfBiasNegate => 5
    | .signedIdentity => 6
    | .signedNegate => 7
  label
    | .unsignedIdentity => "UnsignedIdentity"
    | .unsignedInvert => "UnsignedInvert"
    | .expandNormal => "ExpandNormal"
    | .expandNegate => "ExpandNegate"
    | .halfBiasNormal => "HalfBiasNormal"
    | .halfBiasNegate => "HalfBiasNegate"
    | .signedIdentity => "SignedIdentity"
    | .signedNegate => "SignedNegate"

namespace InputMapping

/-- The mapping in the high three bits of an input byte. -/
def ofByte (raw : UInt8) : InputMapping :=
  (Coded.ofCode? (raw >>> 5)).getD .signedNegate

/-- The mapping of an expression. -/
def apply (operand : Expr) : InputMapping → Expr
  | unsignedIdentity => .call2 "max" operand 0.0
  | unsignedInvert => .group (1.0 - .call3 "clamp" operand 0.0 1.0)
  | expandNormal => .group (2.0 * .call2 "max" operand 0.0 - 1.0)
  | expandNegate => .group (-2.0 * .call2 "max" operand 0.0 + 1.0)
  | halfBiasNormal => .group (.call2 "max" operand 0.0 - 0.5)
  | halfBiasNegate => .group (-.call2 "max" operand 0.0 + 0.5)
  | signedIdentity => operand
  | signedNegate => -operand

/-- The mapping of a value.  Negation subtracts from zero: zero stays positive. -/
def fold {value : Type} [Scalar value] (operand : value) :
    InputMapping → value
  | unsignedIdentity => Scalar.max operand (Scalar.ofRat 0)
  | unsignedInvert =>
      Scalar.sub (Scalar.ofRat 1)
        (Scalar.clamp operand (Scalar.ofRat 0) (Scalar.ofRat 1))
  | expandNormal =>
      Scalar.sub
        (Scalar.mul (Scalar.ofRat 2) (Scalar.max operand (Scalar.ofRat 0)))
        (Scalar.ofRat 1)
  | expandNegate =>
      Scalar.add
        (Scalar.mul (Scalar.ofRat (-2))
          (Scalar.max operand (Scalar.ofRat 0)))
        (Scalar.ofRat 1)
  | halfBiasNormal =>
      Scalar.sub (Scalar.max operand (Scalar.ofRat 0)) (Scalar.ofRat (1 / 2))
  | halfBiasNegate =>
      Scalar.add (Scalar.neg (Scalar.max operand (Scalar.ofRat 0)))
        (Scalar.ofRat (1 / 2))
  | signedIdentity => operand
  | signedNegate => Scalar.sub (Scalar.ofRat 0) operand

/-- The mapping of a single-precision number. -/
def foldSingle (operand : Single) (mapping : InputMapping) : Single :=
  ⟨(mapping.fold (Float32.ofBits operand.bits)).toBits⟩

end InputMapping

/-- An operand of a combiner as an input byte holds it. -/
structure Input where
  /-- The register's four bits. -/
  register : UInt8
  /-- Whether alpha is read, in place of color or blue. -/
  alpha : Bool
  mapping : InputMapping
deriving DecidableEq, Repr

namespace Input

/-- The operand in an input byte. -/
def ofByte (raw : UInt8) : Input :=
  ⟨raw &&& 15, raw &&& 16 != 0, .ofByte raw⟩

/-- The register an operand names. -/
def register? (input : Input) : Option Register :=
  Register.ofNibble? input.register

end Input

/-- The four operands of a combiner. -/
structure Inputs where
  a : Input
  b : Input
  c : Input
  d : Input
deriving DecidableEq, Repr

/-- The operands in a word, from the high byte down. -/
def Inputs.ofWord (word : UInt32) : Inputs :=
  ⟨.ofByte (word >>> 24).toUInt8, .ofByte (word >>> 16).toUInt8,
    .ofByte (word >>> 8).toUInt8, .ofByte word.toUInt8⟩

/-- Mappings applied to what is written. -/
inductive OutputMapping where
  | identity
  | bias
  | shiftLeft1
  | shiftLeft1Bias
  | shiftLeft2
  | shiftRight1
deriving DecidableEq, Repr

namespace OutputMapping

/-- The mapping a word's operation flags select; two selections are reserved. -/
def ofFlags? (flags : UInt32) : Option OutputMapping :=
  match (flags &&& 0x38).toNat with
  | 0x00 => some identity
  | 0x08 => some bias
  | 0x10 => some shiftLeft1
  | 0x18 => some shiftLeft1Bias
  | 0x20 => some shiftLeft2
  | 0x30 => some shiftRight1
  | _ => none

/-- The name under which a mapping is reported. -/
def label : OutputMapping → String
  | identity => "Identity"
  | bias => "Bias"
  | shiftLeft1 => "ShiftLeft1"
  | shiftLeft1Bias => "ShiftLeft1Bias"
  | shiftLeft2 => "ShiftLeft2"
  | shiftRight1 => "ShiftRight1"

/-- The mapping of an expression. -/
def apply (result : Expr) : OutputMapping → Expr
  | identity => result
  | bias => .group (result - 0.5)
  | shiftLeft1 => .group (result * 2.0)
  | shiftLeft1Bias => .group (.group (result - 0.5) * 2.0)
  | shiftLeft2 => .group (result * 4.0)
  | shiftRight1 => .group (result / 2.0)

end OutputMapping

end ShaderSynth.Combiner
