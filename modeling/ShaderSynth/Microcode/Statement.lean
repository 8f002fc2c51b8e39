import ShaderSynth.Glsl.Statement
import ShaderSynth.Microcode.Instruction

/-!
# Statements of an instruction

Both units of an instruction commit in the same cycle, while shader statements
run one after the other.  When both units are active the multiply-accumulate
result is computed into a staging variable, and copied to its register after
the statement of the scalar unit.
-/

namespace ShaderSynth.Microcode

/-- What a statement computes into. -/
inductive Destination where
  | temporary (number : UInt8)
  | output (register : OutputRegister)
  | staging
deriving DecidableEq, Repr

/-- An operation of either unit. -/
inductive Operation where
  | mac (opcode : MacOp)
  | ilu (opcode : IluOp)
deriving DecidableEq, Repr

/-- The mnemonic of an operation. -/
def Operation.mnemonic : Operation → String
  | mac opcode => opcode.mnemonic
  | ilu opcode => opcode.mnemonic

/-- Statements emitted for instructions. -/
inductive Statement where
  /-- Computes an operation into the components of a destination. -/
  | compute (operation : Operation) (destination : Destination)
      (mask : Mask) (inputs : List Read)
  /-- Computes the address register, or the staged value of it. -/
  | loadAddress (staged : Bool) (inputs : List Read)
  /-- Copies staged components to a temporary register. -/
  | commit (register : UInt8) (mask : Mask)
  /-- Copies the staged address to the address register. -/
  | commitAddress
deriving DecidableEq, Repr

namespace Instruction

/-- Whether both units have an operation. -/
def paired (instruction : Instruction) : Bool :=
  instruction.mac != .nop && instruction.ilu != .nop

/--
The components of the temporary register that the multiply-accumulate result
reaches.  The scalar unit of a paired instruction owns register one.
-/
def macTarget (instruction : Instruction) : Mask :=
  if instruction.paired && instruction.register == 1 then .empty
  else instruction.macMask

/-- The temporary register of the scalar result. -/
def iluRegister (instruction : Instruction) : UInt8 :=
  if instruction.paired then 1 else instruction.register

/-- The output write of a unit. -/
def outputStatements
    (instruction : Instruction) (unit : ExecutionUnit)
    (operation : Operation) (inputs : List Read) :
    List Statement :=
  match instruction.output with
  | some write =>
      if write.unit = unit then
        [.compute operation (.output write.register)
          (write.register.writtenMask write.mask) inputs]
      else []
  | none => []

/-- The statements of the multiply-accumulate unit, before the commit. -/
def macStatements (instruction : Instruction) : List Statement :=
  let operation := Operation.mac instruction.mac
  let inputs := instruction.macInputs
  match instruction.mac with
  | .nop => []
  | .arl => [.loadAddress instruction.paired inputs]
  | _ =>
      instruction.outputStatements .mac operation inputs ++
        if instruction.macTarget = .empty then []
        else
          let destination :=
            if instruction.paired then Destination.staging
            else .temporary instruction.register
          [.compute operation destination instruction.macTarget inputs]

/-- The statements of the scalar unit. -/
def iluStatements (instruction : Instruction) : List Statement :=
  let operation := Operation.ilu instruction.ilu
  let inputs := instruction.iluInputs
  match instruction.ilu with
  | .nop => []
  | _ =>
      instruction.outputStatements .ilu operation inputs ++
        if instruction.iluMask = .empty then []
        else
          [.compute operation (.temporary instruction.iluRegister)
            instruction.iluMask inputs]

/-- The copies of staged results. -/
def commitStatements (instruction : Instruction) : List Statement :=
  if instruction.paired then
    if instruction.mac = .arl then [.commitAddress]
    else if instruction.macTarget = .empty then []
    else [.commit instruction.register instruction.macTarget]
  else []

/-- The statements of an instruction, in order. -/
def statements (instruction : Instruction) : List Statement :=
  instruction.macStatements ++ instruction.iluStatements ++
    instruction.commitStatements

/-- Whether an address load is routed to an output, which has no effect. -/
def routesAddress (instruction : Instruction) : Bool :=
  match instruction.mac, instruction.output with
  | .arl, some write => write.unit = .mac
  | _, _ => false

end Instruction

/-! ## The text of a statement -/

/-- The shader variable of a temporary register. -/
def temporaryName (number : UInt8) : String :=
  "R" ++ toString number.toNat

/-- The expression that reads a source. -/
def Source.expr : Source → Glsl.Expr
  | temporary number => temporaryName number
  | input number => "v" ++ toString number.toNat
  | constant index => .element "c" (.int index)
  | relativeConstant index =>
      .element "c" (.binary .add .tight "A0" (.int index))

/-- The expression that reads an operand. -/
def Read.expr (read : Read) : Glsl.Expr :=
  let selected :=
    match read.swizzle.letters with
    | [] => read.source.expr
    | letters => read.source.expr.select (String.ofList letters)
  if read.negate then .negate selected else selected

/-- The shader variable of a destination. -/
def Destination.variableName : Destination → String
  | temporary number => temporaryName number
  | output register => register.variableName
  | staging => "_temp_vec"

/-- Further arguments after the first ones. -/
def withInputs (first : Glsl.Expr) (inputs : List Read) : Glsl.Expr :=
  inputs.foldl (fun arguments read => .comma .loose arguments read.expr) first

/-- The shader statement. -/
def Statement.shader : Statement → Glsl.Statement
  | compute operation destination mask inputs =>
      let target : Glsl.Expr :=
        .comma .tight destination.variableName mask.letters
      .invoke operation.mnemonic (some (withInputs target inputs))
  | loadAddress staged inputs =>
      let target := if staged then "_temp_addr" else "A0"
      .invoke MacOp.arl.mnemonic (some (withInputs target inputs))
  | commit register mask =>
      .set (.of (temporaryName register) mask.letters)
        (.of "_temp_vec" mask.letters)
  | commitAddress => .set "A0" "_temp_addr"

end ShaderSynth.Microcode
