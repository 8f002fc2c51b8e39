import ShaderSynth.Coded

/-!
# Opcodes of the two execution units

An instruction issues one operation to the multiply-accumulate unit and one to
the scalar unit; `nop` leaves a unit idle.
-/

namespace ShaderSynth.Microcode

/-- Operations of the multiply-accumulate unit. -/
inductive MacOp where
  | nop
  | mov
  | mul
  | add
  | mad
  | dp3
  | dph
  | dp4
  | dst
  | min
  | max
  | slt
  | sge
  | arl
deriving DecidableEq, Repr

instance : Coded MacOp where
  members := [.nop, .mov, .mul, .add, .mad, .dp3, .dph, .dp4, .dst, .min,
    .max, .slt, .sge, .arl]
  code
    | .nop => 0
    | .mov => 1
    | .mul => 2
    | .add => 3
    | .mad => 4
    | .dp3 => 5
    | .dph => 6
    | .dp4 => 7
    | .dst => 8
    | .min => 9
    | .max => 10
    | .slt => 11
    | .sge => 12
    | .arl => 13
  label
    | .nop => "Nop"
    | .mov => "Mov"
    | .mul => "Mul"
    | .add => "Add"
    | .mad => "Mad"
    | .dp3 => "Dp3"
    | .dph => "Dph"
    | .dp4 => "Dp4"
    | .dst => "Dst"
    | .min => "Min"
    | .max => "Max"
    | .slt => "Slt"
    | .sge => "Sge"
    | .arl => "Arl"

namespace MacOp

/-- The mnemonic, which is also the name of the opcode's shader definition. -/
def mnemonic : MacOp → String
  | nop => "NOP"
  | mov => "MOV"
  | mul => "MUL"
  | add => "ADD"
  | mad => "MAD"
  | dp3 => "DP3"
  | dph => "DPH"
  | dp4 => "DP4"
  | dst => "DST"
  | min => "MIN"
  | max => "MAX"
  | slt => "SLT"
  | sge => "SGE"
  | arl => "ARL"

/-- Whether the operation reads input A: every operation but `nop` does. -/
def readsA : MacOp → Bool
  | nop => false
  | _ => true

/-- Whether the operation reads input B. -/
def readsB : MacOp → Bool
  | nop | mov | add | arl => false
  | _ => true

/-- Whether the operation reads input C. -/
def readsC : MacOp → Bool
  | add | mad => true
  | _ => false

end MacOp

/-- Operations of the scalar unit. -/
inductive IluOp where
  | nop
  | mov
  | rcp
  | rcc
  | rsq
  | exp
  | log
  | lit
deriving DecidableEq, Repr

instance : Coded IluOp where
  members := [.nop, .mov, .rcp, .rcc, .rsq, .exp, .log, .lit]
  code
    | .nop => 0
    | .mov => 1
    | .rcp => 2
    | .rcc => 3
    | .rsq => 4
    | .exp => 5
    | .log => 6
    | .lit => 7
  label
    | .nop => "Nop"
    | .mov => "Mov"
    | .rcp => "Rcp"
    | .rcc => "Rcc"
    | .rsq => "Rsq"
    | .exp => "Exp"
    | .log => "Log"
    | .lit => "Lit"

namespace IluOp

/-- The operation named by the low three bits of a code; every value is in use. -/
def ofLowBits (raw : UInt8) : IluOp :=
  (Coded.ofCode? (raw &&& 7)).getD .lit

/-- The mnemonic, which is also the name of the opcode's shader definition. -/
def mnemonic : IluOp → String
  | nop => "NOP"
  | mov => "MOV"
  | rcp => "RCP"
  | rcc => "RCC"
  | rsq => "RSQ"
  | exp => "EXP"
  | log => "LOG"
  | lit => "LIT"

end IluOp

end ShaderSynth.Microcode
