import ShaderSynth.Proofs.Glsl.Locals
import ShaderSynth.Proofs.Microcode.Acceptance
import ShaderSynth.Proofs.Microcode.Commit
import ShaderSynth.Proofs.Stage.Lighting

/-!
# Registers that programs name

The fields of a token have room for more temporary registers than are declared,
and for more constants.  Which of them the lines of a program name is read off
the tokens: an operand counts if a unit that takes it delivers its result
somewhere, a destination if something is stored there.

Nothing is refused for such a number.  So what an accepted program names exists
exactly if the numbers in its tokens are in range.
-/

namespace ShaderSynth.Glsl

/-! ## Parts of expressions -/

/-- An expression and all that it is made of. -/
def Expr.parts (whole : Expr) : List Expr :=
  whole ::
    match whole with
    | .name _ | .number _ | .literal _ => []
    | .select inner _ | .call _ inner | .negate inner | .not inner
    | .group inner | .broken _ inner => inner.parts
    | .element first second | .comma _ first second
    | .binary _ _ first second => first.parts ++ second.parts
    | .choose condition whenTrue whenFalse =>
        condition.parts ++ whenTrue.parts ++ whenFalse.parts

/-- The expressions in the head of a block. -/
def Opening.parts : Opening → List Expr
  | .when condition | .otherwiseWhen condition => condition.parts
  | .count counter _ => [.name counter]
  | .otherwise | .scope _ => []

/-- The expressions in a statement; a verbatim line counts as a name. -/
def Statement.parts : Statement → List Expr
  | .declare _ name value _ => .name name :: value.toList.flatMap Expr.parts
  | .assign target _ value => target.parts ++ value.parts
  | .invoke _ arguments => arguments.toList.flatMap Expr.parts
  | .guard _ condition _ => condition.parts
  | .enter opening => opening.parts
  | .blank | .comment _ | .remark _ | .jump _ | .leave => []
  | .verbatim text => [.name text]

/-- The expressions in lines. -/
def parts (lines : List Line) : List Expr :=
  lines.flatMap fun line => line.statement.parts

/-- The variables and the textual definitions of items. -/
def definedNames (items : List Item) : List String :=
  items.filterMap fun
    | .global _ name _ => some name
    | .define head _ _ => some head
    | _ => none

theorem Expr.int_inj {first second : Nat}
    (same : Expr.int first = Expr.int second) : first = second :=
  number_inj (congrArg ("" ++ ·) (Expr.literal.inj same))

end ShaderSynth.Glsl

namespace ShaderSynth.Microcode

open Glsl

/-! ## Registers in lines -/

/-- Whether an expression names a temporary register, or an element of an array. -/
def isRegister : Expr → Bool
  | .name identifier => stemOf identifier == "R"
  | .element _ _ => true
  | _ => false

theorem stemOf_temporaryName (number : UInt8) :
    stemOf (temporaryName number) = "R" := by
  have whole := stemOf_numbered (by decide : unnumbered "R" = true)
    number.toNat ""
  rwa [String.append_empty] at whole

theorem isRegister_temporaryName (number : UInt8) :
    isRegister (.name (temporaryName number)) = true := by
  rw [isRegister, stemOf_temporaryName]
  rfl

/-- The registers that a source names; inputs are none. -/
def Source.registers : Source → List Expr
  | .input _ => []
  | source => [source.expr]

/-- The registers that a destination names. -/
def Destination.registers : Destination → List Expr
  | .temporary number => [.name (temporaryName number)]
  | .output _ | .staging => []

/-- The registers that operands name. -/
def inputRegisters (inputs : List Read) : List Expr :=
  inputs.flatMap fun read => read.source.registers

/-- The registers that a statement names. -/
def Statement.registers : Statement → List Expr
  | .compute _ destination _ inputs =>
      destination.registers ++ inputRegisters inputs
  | .loadAddress _ inputs => inputRegisters inputs
  | .commit register _ => [.name (temporaryName register)]
  | .commitAddress => []

theorem registers_source (source : Source) :
    source.expr.parts.filter isRegister = source.registers := by
  cases source with
  | temporary number =>
      simp [Source.expr, Expr.parts, Source.registers,
        isRegister_temporaryName]
  | input number =>
      have stem := stemOf_numbered (by decide : unnumbered "v" = true)
        number.toNat ""
      rw [String.append_empty] at stem
      have other :
          isRegister (.name ("v" ++ toString number.toNat)) = false := by
        rw [isRegister, stem]
        rfl
      exact List.filter_cons_of_neg (Bool.eq_false_iff.mp other)
  | constant index => rfl
  | relativeConstant index => rfl

/-- Sign and selection of an operand name nothing. -/
theorem registers_read (read : Read) :
    read.expr.parts.filter isRegister = read.source.registers := by
  unfold Read.expr
  dsimp only
  split <;> split <;> exact registers_source read.source

theorem registers_withInputs (first : Expr) (inputs : List Read) :
    (withInputs first inputs).parts.filter isRegister =
      first.parts.filter isRegister ++ inputRegisters inputs := by
  unfold withInputs
  induction inputs generalizing first with
  | nil => exact (List.append_nil _).symm
  | cons read rest ih =>
      have pair :
          (Expr.comma .loose first read.expr).parts.filter isRegister =
            first.parts.filter isRegister ++ read.source.registers := by
        rw [← registers_read, ← List.filter_append]
        rfl
      rw [List.foldl_cons, ih, pair, List.append_assoc]
      rfl

theorem isRegister_letters (mask : Mask) :
    isRegister (.name mask.letters) = false := by
  rcases mask with ⟨x, y, z, w⟩
  cases x <;> cases y <;> cases z <;> cases w <;> rfl

theorem registers_destination (destination : Destination) (mask : Mask) :
    (Expr.comma .tight destination.variableName mask.letters).parts.filter
      isRegister = destination.registers := by
  have letters := isRegister_letters mask
  show [Expr.name destination.variableName, .name mask.letters].filter _ = _
  rw [List.filter_cons, List.filter_singleton, letters]
  cases destination with
  | temporary number => exact if_pos (isRegister_temporaryName number)
  | output register => cases register <;> rfl
  | staging => rfl

theorem registers_shader (statement : Statement) :
    statement.shader.parts.filter isRegister = statement.registers := by
  have single (arguments : Expr) (function : String) :
      (Glsl.Statement.invoke function (some arguments)).parts =
        arguments.parts :=
    List.append_nil _
  cases statement with
  | compute operation destination mask inputs =>
      rw [Statement.shader, single, registers_withInputs,
        registers_destination]
      rfl
  | loadAddress staged inputs =>
      rw [Statement.shader, single, registers_withInputs]
      cases staged <;> rfl
  | commit register mask =>
      have copied :
          (Statement.commit register mask).shader.parts =
            (Expr.of (temporaryName register) mask.letters).parts
              ++ (Expr.of "_temp_vec" mask.letters).parts :=
        rfl
      have staging : isRegister (.name "_temp_vec") = false := by decide
      have selection (vector : Expr) (components : String) :
          isRegister (.select vector components) = false :=
        rfl
      simp [copied, Expr.of, Expr.parts, isRegister_temporaryName, staging,
        selection, Statement.registers]
  | commitAddress => rfl

/-- The registers that the statements of an instruction name. -/
def Instruction.registers (instruction : Instruction) : List Expr :=
  instruction.statements.flatMap Statement.registers

theorem registers_slot (slot : Slot) :
    (parts slot.lines).filter isRegister = slot.instruction.registers := by
  have lines :
      parts slot.lines =
        slot.instruction.statements.flatMap fun statement =>
          statement.shader.parts := by
    simp [parts, Slot.lines, indented, Glsl.Statement.parts,
      List.flatMap_map]
  rw [lines, List.filter_flatMap]
  simp only [registers_shader]
  rfl

theorem registers_epilogue (zPerspective : Bool) :
    (parts (epilogue zPerspective)).filter isRegister = [] := by
  cases zPerspective <;> decide

/-! ## What a token names -/

namespace Token

/-- The multiply-accumulate unit stores a result in a temporary register. -/
def MacStores (token : Token) : Prop :=
  Field.mac.get token ≠ Coded.code MacOp.nop ∧
    Field.mac.get token ≠ Coded.code MacOp.arl ∧
    Field.macMask.get token ≠ 0 ∧
    (Field.ilu.get token = Coded.code IluOp.nop ∨
      Field.register.get token ≠ 1)

/-- The scalar unit stores a result in a temporary register. -/
def IluStores (token : Token) : Prop :=
  Field.ilu.get token ≠ Coded.code IluOp.nop ∧ Field.iluMask.get token ≠ 0

/-- The result of the multiply-accumulate unit goes somewhere. -/
def MacDelivers (token : Token) : Prop :=
  Field.mac.get token = Coded.code MacOp.arl ∨
    Field.mac.get token ≠ Coded.code MacOp.nop ∧
      Field.outputUnit.get token = 0 ∧ Field.outputMask.get token ≠ 0 ∨
    token.MacStores

/-- The result of the scalar unit goes somewhere. -/
def IluDelivers (token : Token) : Prop :=
  Field.ilu.get token ≠ Coded.code IluOp.nop ∧
      Field.outputUnit.get token = 1 ∧ Field.outputMask.get token ≠ 0 ∨
    token.IluStores

/-- A unit whose result goes somewhere takes an operand. -/
def Takes (token : Token) : InputSlot → Prop
  | .a => token.MacDelivers
  | .b => token.MacDelivers ∧ Field.mac.get token ∈ binaryOps.map Coded.code
  | .c =>
      token.MacDelivers ∧
          Field.mac.get token ∈ [MacOp.add, .mad].map Coded.code ∨
        token.IluDelivers

/-- The temporary registers that a token names are among those that exist. -/
structure TemporariesExist (token : Token) : Prop where
  operands : ∀ slot, token.Takes slot →
    slot.muxField.get token = Coded.code RegisterFile.temporary →
    (slot.getRegister token).toNat ≤ temporaryCount
  vector : token.MacStores →
    (Field.register.get token).toNat ≤ temporaryCount
  /-- With two results the scalar one goes to register one. -/
  scalar : token.IluStores → Field.mac.get token = Coded.code MacOp.nop →
    (Field.register.get token).toNat ≤ temporaryCount

/-- The constants that a token names by themselves are among those that exist. -/
def ConstantsExist (token : Token) : Prop :=
  ∀ slot, token.Takes slot →
    slot.muxField.get token = Coded.code RegisterFile.constant →
    Field.relative.get token = 0 →
    (Field.constant.get token).toNat < Transform.constantCount

end Token

/-! ## Instructions -/

theorem ofCode?_eq_some_iff {member : Type} [Coded member] {raw : UInt8}
    {chosen : member} :
    Coded.ofCode? raw = some chosen ↔ raw = Coded.code chosen := by
  constructor
  · exact fun found => (Coded.code_of_ofCode? found).symm
  · rintro rfl
    exact Coded.ofCode?_code chosen

/-- The result of a unit is written to an output. -/
def Instruction.Routes (instruction : Instruction) (unit : ExecutionUnit) :
    Prop :=
  ∃ write, instruction.output = some write ∧ write.unit = unit

theorem mem_outputStatements {instruction : Instruction}
    {unit : ExecutionUnit} {operation : Operation} {inputs : List Read}
    {part : Expr} :
    part ∈ (instruction.outputStatements unit operation inputs).flatMap
        Statement.registers ↔
      instruction.Routes unit ∧ part ∈ inputRegisters inputs := by
  unfold Instruction.outputStatements Instruction.Routes
  cases instruction.output with
  | none => simp
  | some write =>
      by_cases same : write.unit = unit <;>
        simp [same, Statement.registers, Destination.registers]

/-- A statement that is left out if it would reach no component. -/
theorem mem_unlessEmpty {statement : Statement} {mask : Mask} {part : Expr} :
    part ∈ (if mask = .empty then [] else [statement]).flatMap
        Statement.registers ↔
      mask ≠ .empty ∧ part ∈ statement.registers := by
  by_cases nothing : mask = .empty <;> simp [nothing]

namespace Instruction

variable {instruction : Instruction} {part : Expr}

/-- A staged result is named where it is copied to its register. -/
theorem mem_vectorRegisters (busy : instruction.mac ≠ .nop)
    (other : instruction.mac ≠ .arl) :
    part ∈ instruction.macStatements.flatMap Statement.registers ∨
        part ∈ instruction.commitStatements.flatMap Statement.registers ↔
      (instruction.Routes .mac ∨ instruction.macTarget ≠ .empty) ∧
          part ∈ inputRegisters instruction.macInputs ∨
        instruction.macTarget ≠ .empty ∧
          part = .name (temporaryName instruction.register) := by
  rw [macStatements_vector busy other, List.flatMap_append, List.mem_append,
    mem_outputStatements, mem_unlessEmpty, or_and_right]
  cases both : instruction.paired with
  | true =>
      rw [commitStatements_vector both other, mem_unlessEmpty]
      simp only [Statement.registers, Destination.registers, ↓reduceIte,
        List.nil_append, List.mem_singleton]
  | false =>
      have commits : instruction.commitStatements = [] := by
        simp [commitStatements, both]
      simp only [commits, Statement.registers, Destination.registers,
        Bool.false_eq_true, ↓reduceIte, List.mem_append, List.mem_singleton,
        List.flatMap_nil, List.not_mem_nil, or_false, and_or_left, or_assoc]
      exact or_congr_right or_comm

theorem mem_scalarRegisters (busy : instruction.ilu ≠ .nop) :
    part ∈ instruction.iluStatements.flatMap Statement.registers ↔
      (instruction.Routes .ilu ∨ instruction.iluMask ≠ .empty) ∧
          part ∈ inputRegisters instruction.iluInputs ∨
        instruction.iluMask ≠ .empty ∧
          part = .name (temporaryName instruction.iluRegister) := by
  rw [iluStatements_active busy, List.flatMap_append, List.mem_append,
    mem_outputStatements, mem_unlessEmpty, or_and_right, or_assoc]
  simp only [Statement.registers, Destination.registers, List.mem_append,
    List.mem_singleton, and_or_left]
  exact or_congr_right or_comm

end Instruction

namespace Instruction.Decodes

variable {token : Token} {instruction : Instruction}
  (decodes : instruction.Decodes token)

include decodes

theorem mac_iff (operation : MacOp) :
    instruction.mac = operation ↔
      Field.mac.get token = Coded.code operation := by
  rw [← ofCode?_eq_some_iff, decodes.mac, Option.some_inj]

theorem ilu_iff :
    instruction.ilu = .nop ↔ Field.ilu.get token = Coded.code IluOp.nop := by
  rw [← decodes.ilu]
  exact token.ofLowBits_eq_nop_iff

theorem paired_iff :
    instruction.paired = true ↔
      Field.mac.get token ≠ Coded.code MacOp.nop ∧
        Field.ilu.get token ≠ Coded.code IluOp.nop := by
  rw [Instruction.paired, Bool.and_eq_true, bne_iff_ne, bne_iff_ne, ne_eq,
    ne_eq, decodes.mac_iff, decodes.ilu_iff]

/-- The unit that the token selects has its result written to an output. -/
theorem routes_iff (unit : ExecutionUnit) :
    instruction.Routes unit ↔
      unit.active instruction.mac instruction.ilu = true ∧
        token.outputUnit = unit ∧ Field.outputMask.get token ≠ 0 := by
  have written := decodes.output
  have mask := token.ofNibble_eq_empty_iff
  unfold Token.outputWrite at written
  dsimp only at written
  split at written
  · rename_i routed
    rw [Bool.and_eq_true, bne_iff_ne, ne_eq, mask] at routed
    split at written
    · cases written
    · split at written
      · obtain ⟨active, reached⟩ := routed
        rw [Instruction.Routes, ← Except.ok.inj written]
        constructor
        · rintro ⟨write, same, rfl⟩
          cases same
          exact ⟨active, rfl, reached⟩
        · rintro ⟨-, rfl, -⟩
          exact ⟨_, rfl, rfl⟩
      · cases written
  · rename_i idle
    rw [Bool.and_eq_true, bne_iff_ne, ne_eq, mask] at idle
    rw [Instruction.Routes, ← Except.ok.inj written]
    constructor
    · rintro ⟨write, missing, -⟩
      cases missing
    · rintro ⟨active, rfl, reached⟩
      exact absurd ⟨active, reached⟩ idle

theorem routes_mac_iff :
    instruction.Routes .mac ↔
      Field.mac.get token ≠ Coded.code MacOp.nop ∧
        Field.outputUnit.get token = 0 ∧ Field.outputMask.get token ≠ 0 := by
  have unit : token.outputUnit = .mac ↔ Field.outputUnit.get token = 0 := by
    unfold Token.outputUnit
    split <;> simp_all
  rw [decodes.routes_iff, unit, ExecutionUnit.active, bne_iff_ne, ne_eq,
    decodes.mac_iff]

theorem routes_ilu_iff :
    instruction.Routes .ilu ↔
      Field.ilu.get token ≠ Coded.code IluOp.nop ∧
        Field.outputUnit.get token = 1 ∧ Field.outputMask.get token ≠ 0 := by
  have bit := Token.eq_one_iff_of_bit .outputUnit token rfl
  have unit : token.outputUnit = .ilu ↔ Field.outputUnit.get token = 1 := by
    rw [bit]
    unfold Token.outputUnit
    split <;> simp_all
  rw [decodes.routes_iff, unit, ExecutionUnit.active, bne_iff_ne, ne_eq,
    decodes.ilu_iff]

theorem macTarget_iff :
    instruction.mac ≠ .nop ∧ instruction.mac ≠ .arl ∧
        instruction.macTarget ≠ .empty ↔
      token.MacStores := by
  have mask := Field.macMask.ofNibble_eq_empty_iff rfl token
  have paired := decodes.paired_iff
  rw [Token.MacStores, ne_eq, ne_eq, decodes.mac_iff, decodes.mac_iff]
  refine and_congr_right fun busy => and_congr_right fun _ => ?_
  unfold Instruction.macTarget
  rw [← decodes.macMask, ← decodes.register]
  by_cases alone : Field.ilu.get token = Coded.code IluOp.nop
  · have single : instruction.paired = false :=
      Bool.eq_false_iff.mpr fun both => (paired.mp both).2 alone
    simp [single, alone, mask]
  · have both := paired.mpr ⟨busy, alone⟩
    by_cases one : Field.register.get token = 1
    · simp [both, one, alone]
    · simp [both, one, mask]

theorem iluMask_iff :
    instruction.ilu ≠ .nop ∧ instruction.iluMask ≠ .empty ↔
      token.IluStores := by
  have mask := Field.iluMask.ofNibble_eq_empty_iff rfl token
  rw [Token.IluStores, ne_eq, ne_eq, decodes.ilu_iff, ← decodes.iluMask, mask]

/-- The statements of the multiply-accumulate unit, with the copies after them. -/
theorem mem_macRegisters (part : Expr) :
    part ∈ instruction.macStatements.flatMap Statement.registers ∨
        part ∈ instruction.commitStatements.flatMap Statement.registers ↔
      token.MacDelivers ∧ part ∈ inputRegisters instruction.macInputs ∨
        token.MacStores ∧
          part = .name (temporaryName (Field.register.get token)) := by
  rw [Token.MacDelivers, ← decodes.routes_mac_iff, ← decodes.macTarget_iff,
    ← decodes.mac_iff, decodes.register]
  by_cases quiet : instruction.mac = .nop
  · have commits : instruction.commitStatements = [] := by
      simp [Instruction.commitStatements, Instruction.paired, quiet]
    have unrouted : ¬ instruction.Routes .mac := fun routed =>
      (decodes.routes_mac_iff.mp routed).1 ((decodes.mac_iff _).mp quiet)
    simp [Instruction.macStatements_nop quiet, commits, quiet, unrouted]
  · by_cases load : instruction.mac = .arl
    · have statements :
          instruction.macStatements =
            [.loadAddress instruction.paired instruction.macInputs] := by
        simp only [Instruction.macStatements, load]
      have commits :
          instruction.commitStatements.flatMap Statement.registers = [] := by
        rw [Instruction.commitStatements, if_pos load]
        split <;> rfl
      simp [statements, commits, load, Statement.registers]
    · rw [Instruction.mem_vectorRegisters quiet load]
      simp [quiet, load]

theorem mem_iluRegisters (part : Expr) :
    part ∈ instruction.iluStatements.flatMap Statement.registers ↔
      token.IluDelivers ∧ part ∈ inputRegisters instruction.iluInputs ∨
        token.IluStores ∧
          part = .name (temporaryName instruction.iluRegister) := by
  rw [Token.IluDelivers, ← decodes.routes_ilu_iff, ← decodes.iluMask_iff]
  by_cases quiet : instruction.ilu = .nop
  · have unrouted : ¬ instruction.Routes .ilu := fun routed =>
      (decodes.routes_ilu_iff.mp routed).1 (decodes.ilu_iff.mp quiet)
    simp [Instruction.iluStatements, quiet, unrouted]
  · rw [Instruction.mem_scalarRegisters quiet]
    simp [quiet]

omit decodes in
theorem mem_inputRegisters {slots : List InputSlot} {reads : List Read}
    (found : slots.mapM (Token.read? token) = some reads) {part : Expr} :
    part ∈ inputRegisters reads ↔
      ∃ slot ∈ slots, ∃ read,
        Token.read? token slot = some read ∧
          part ∈ read.source.registers := by
  induction slots generalizing reads with
  | nil =>
      cases found
      simp [inputRegisters]
  | cons slot rest ih =>
      rw [List.mapM_cons] at found
      obtain ⟨first, here, found⟩ := Option.bind_eq_some_iff.mp found
      obtain ⟨others, remaining, found⟩ := Option.bind_eq_some_iff.mp found
      cases found
      have tail := ih remaining
      rw [inputRegisters] at tail ⊢
      simp [here, tail]

theorem takes_iff (slot : InputSlot) :
    token.Takes slot ↔
      token.MacDelivers ∧ slot ∈ instruction.mac.inputs ∨
        token.IluDelivers ∧ slot ∈ instruction.ilu.inputs := by
  have known := (decodes.mac_iff instruction.mac).mp rfl
  have busy : token.MacDelivers → instruction.mac ≠ .nop := by
    rintro (load | ⟨active, -⟩ | ⟨active, -⟩) quiet
    · rw [(decodes.mac_iff _).mpr load] at quiet
      cases quiet
    · exact active ((decodes.mac_iff _).mp quiet)
    · exact active ((decodes.mac_iff _).mp quiet)
  have scalar : token.IluDelivers → instruction.ilu ≠ .nop := by
    rintro (⟨active, -⟩ | ⟨active, -⟩) quiet
    · exact active (decodes.ilu_iff.mp quiet)
    · exact active (decodes.ilu_iff.mp quiet)
  have inputs :
      (instruction.mac ≠ .nop → InputSlot.a ∈ instruction.mac.inputs) ∧
        (InputSlot.b ∈ instruction.mac.inputs ↔
          Field.mac.get token ∈ Token.binaryOps.map Coded.code) ∧
        (InputSlot.c ∈ instruction.mac.inputs ↔
          Field.mac.get token ∈ [MacOp.add, .mad].map Coded.code) := by
    rw [known]
    generalize instruction.mac = operation
    cases operation <;> decide
  have single (slot : InputSlot) :
      slot ∈ instruction.ilu.inputs ↔ instruction.ilu ≠ .nop ∧ slot = .c := by
    unfold IluOp.inputs
    split <;> simp_all
  rw [single]
  cases slot with
  | a =>
      simpa [Token.Takes] using fun delivers => inputs.1 (busy delivers)
  | b => simp [Token.Takes, inputs.2.1]
  | c =>
      rw [Token.Takes, inputs.2.2]
      exact or_congr_right
        ⟨fun delivers => ⟨delivers, scalar delivers, rfl⟩, And.left⟩

/-- What an instruction names is read off its token. -/
theorem mem_registers {part : Expr} :
    part ∈ instruction.registers ↔
      (∃ slot, token.Takes slot ∧ ∃ read,
        Token.read? token slot = some read ∧
          part ∈ read.source.registers) ∨
        token.MacStores ∧
          part = .name (temporaryName (Field.register.get token)) ∨
        token.IluStores ∧
          part = .name (temporaryName instruction.iluRegister) := by
  have statements :
      part ∈ instruction.registers ↔
        (part ∈ instruction.macStatements.flatMap Statement.registers ∨
          part ∈ instruction.commitStatements.flatMap Statement.registers) ∨
        part ∈ instruction.iluStatements.flatMap Statement.registers := by
    rw [Instruction.registers, Instruction.statements, List.flatMap_append,
      List.flatMap_append, List.mem_append, List.mem_append, or_right_comm]
  rw [statements, decodes.mem_macRegisters, decodes.mem_iluRegisters,
    or_or_or_comm, mem_inputRegisters decodes.macInputs,
    mem_inputRegisters decodes.iluInputs]
  apply or_congr_left
  constructor
  · rintro (⟨delivers, slot, listed, found⟩ | ⟨delivers, slot, listed, found⟩)
    · exact ⟨slot, (decodes.takes_iff slot).mpr (.inl ⟨delivers, listed⟩),
        found⟩
    · exact ⟨slot, (decodes.takes_iff slot).mpr (.inr ⟨delivers, listed⟩),
        found⟩
  · rintro ⟨slot, takes, found⟩
    rcases (decodes.takes_iff slot).mp takes with
      ⟨delivers, listed⟩ | ⟨delivers, listed⟩
    · exact .inl ⟨delivers, slot, listed, found⟩
    · exact .inr ⟨delivers, slot, listed, found⟩

end Instruction.Decodes

/-! ## Numbers in range -/

theorem Token.constantSource_registers (token : Token) :
    token.constantSource.registers = [token.constantSource.expr] := by
  unfold Token.constantSource
  dsimp only
  split <;> rfl

/-- An operand names a temporary register or a constant, or nothing. -/
theorem Token.mem_read_iff {token : Token} {slot : InputSlot} {part : Expr} :
    (∃ read, token.read? slot = some read ∧ part ∈ read.source.registers) ↔
      slot.muxField.get token = Coded.code RegisterFile.temporary ∧
          part = .name (temporaryName (slot.getRegister token)) ∨
        slot.muxField.get token = Coded.code RegisterFile.constant ∧
          part = token.constantSource.expr := by
  constructor
  · rintro ⟨read, found, member⟩
    obtain ⟨file, selected, rfl⟩ := Option.map_eq_some_iff.mp found
    have code := ofCode?_eq_some_iff.mp selected
    cases file with
    | temporary => exact .inl ⟨code, List.mem_singleton.mp member⟩
    | input => cases member
    | constant =>
        rw [Token.constantSource_registers] at member
        exact .inr ⟨code, List.mem_singleton.mp member⟩
  · rintro (⟨code, rfl⟩ | ⟨code, rfl⟩)
    · exact ⟨_, Option.map_eq_some_iff.mpr
        ⟨.temporary, ofCode?_eq_some_iff.mpr code, rfl⟩,
        List.mem_singleton_self _⟩
    · refine ⟨_, Option.map_eq_some_iff.mpr
        ⟨.constant, ofCode?_eq_some_iff.mpr code, rfl⟩, ?_⟩
      rw [Token.constantSource_registers]
      exact List.mem_singleton_self _

theorem temporaryName_defined_iff (number : UInt8) :
    temporaryName number ∈ definedNames declarations ↔
      number.toNat ≤ temporaryCount := by
  have listed :
      (definedNames declarations).filter (fun name => stemOf name == "R") =
        (List.range 13).map fun number =>
          temporaryName (UInt8.ofNat number) := by
    decide +kernel
  have member :
      temporaryName number ∈ definedNames declarations ↔
        temporaryName number ∈
          (definedNames declarations).filter
            fun name => stemOf name == "R" := by
    simp [stemOf_temporaryName]
  rw [member, listed, List.mem_map]
  constructor
  · rintro ⟨small, bound, same⟩
    rw [← temporaryName_injective same,
      UInt8.toNat_ofNat_of_lt'
        (Nat.lt_trans (List.mem_range.mp bound) (by decide))]
    exact Nat.le_of_lt_succ (List.mem_range.mp bound)
  · intro bound
    exact ⟨number.toNat, List.mem_range.mpr (Nat.lt_succ_of_le bound),
      by rw [UInt8.ofNat_toNat]⟩

namespace Instruction.Decodes

variable {token : Token} {instruction : Instruction}
  (decodes : instruction.Decodes token)

include decodes

theorem temporariesExist_iff :
    (∀ name, stemOf name = "R" → .name name ∈ instruction.registers →
        name ∈ definedNames declarations) ↔
      token.TemporariesExist := by
  constructor
  · intro defined
    have known {number : UInt8}
        (named : .name (temporaryName number) ∈ instruction.registers) :
        number.toNat ≤ temporaryCount :=
      (temporaryName_defined_iff number).mp
        (defined _ (stemOf_temporaryName number) named)
    refine ⟨fun slot takes code => ?_, fun stores => ?_,
      fun stores alone => ?_⟩
    · exact known (decodes.mem_registers.mpr
        (.inl ⟨slot, takes, Token.mem_read_iff.mpr (.inl ⟨code, rfl⟩)⟩))
    · exact known (decodes.mem_registers.mpr (.inr (.inl ⟨stores, rfl⟩)))
    · have quiet := (decodes.mac_iff .nop).mpr alone
      have single : instruction.iluRegister = Field.register.get token := by
        simp [Instruction.iluRegister, Instruction.paired, quiet,
          decodes.register]
      rw [← single]
      exact known (decodes.mem_registers.mpr (.inr (.inr ⟨stores, rfl⟩)))
  · intro exist name _ named
    rcases decodes.mem_registers.mp named with
      ⟨slot, takes, found⟩ | ⟨stores, same⟩ | ⟨stores, same⟩
    · rcases Token.mem_read_iff.mp found with ⟨code, same⟩ | ⟨-, same⟩
      · rw [Expr.name.inj same, temporaryName_defined_iff]
        exact exist.operands slot takes code
      · unfold Token.constantSource at same
        dsimp only at same
        split at same <;> cases same
    · rw [Expr.name.inj same, temporaryName_defined_iff]
      exact exist.vector stores
    · rw [Expr.name.inj same, temporaryName_defined_iff]
      unfold Instruction.iluRegister
      split
      · decide
      · rename_i alone
        rw [decodes.paired_iff] at alone
        rw [← decodes.register]
        exact exist.scalar stores
          (not_not.mp fun busy => alone ⟨busy, stores.1⟩)

/-- An index that does not count from the address register is a number. -/
theorem constantsExist_iff :
    (∀ array index, .element array index ∈ instruction.registers →
        index.mentions (· == "A0") = false →
        ∃ number < Transform.constantCount,
          array = .name "c" ∧ index = .int number) ↔
      token.ConstantsExist := by
  constructor
  · intro declared slot takes code absolute
    have source :
        token.constantSource.expr =
          .element "c" (.int (Field.constant.get token).toNat) := by
      simp [Token.constantSource, absolute, Source.expr, constantIndex]
    obtain ⟨number, bound, -, same⟩ :=
      declared "c" (.int (Field.constant.get token).toNat)
        (decodes.mem_registers.mpr (.inl ⟨slot, takes,
          Token.mem_read_iff.mpr (.inr ⟨code, source.symm⟩)⟩)) rfl
    rw [Expr.int_inj same]
    exact bound
  · intro exist array index named absolute
    rcases decodes.mem_registers.mp named with
      ⟨slot, takes, found⟩ | ⟨-, same⟩ | ⟨-, same⟩
    · rcases Token.mem_read_iff.mp found with ⟨-, same⟩ | ⟨code, same⟩
      · cases same
      · unfold Token.constantSource at same
        dsimp only at same
        split at same
        · cases same
          cases absolute
        · rename_i fixed
          cases same
          have zero : Field.relative.get token = 0 := by simpa using fixed
          exact ⟨_, exist slot takes code zero, rfl, rfl⟩
    · cases same
    · cases same

end Instruction.Decodes

/-! ## Programs -/

/-- A finished run has one slot for each token that is carried out. -/
theorem slots_of_final {index : Nat} {tokens : List Token}
    (final : (scan index tokens).ending = .final) :
    (scan index tokens).slots.map Slot.token = executed tokens ∧
      ∀ slot ∈ (scan index tokens).slots,
        slot.instruction.Decodes slot.token := by
  induction tokens generalizing index with
  | nil => cases final
  | cons token rest ih =>
      cases decoded : Instruction.decode token with
      | error fault =>
          simp only [scan, decoded] at final
          cases final
      | ok instruction =>
          have decodes := Instruction.decodes_of_decode decoded
          by_cases more : Field.final.get token = 0
          · have passed :
                scan index (token :: rest) =
                  ⟨⟨index, token, instruction⟩ :: (scan (index + 1) rest).slots,
                    (scan (index + 1) rest).ending⟩ := by
              simp [scan, decoded, more]
            rw [passed] at final ⊢
            obtain ⟨tokens, others⟩ := ih final
            rw [executed, if_pos more, List.map_cons, tokens]
            exact ⟨rfl, List.forall_mem_cons.mpr ⟨decodes, others⟩⟩
          · have stopped :
                scan index (token :: rest) =
                  ⟨[⟨index, token, instruction⟩], .final⟩ := by
              simp [scan, decoded, more]
            rw [stopped, executed, if_neg more]
            exact ⟨rfl, List.forall_mem_cons.mpr ⟨decodes, by simp⟩⟩

/-- What is read off one token at a time is read off those carried out. -/
theorem forall_slots_iff {tokens : List Token}
    (final : (scan 0 tokens).ending = .final)
    {property : Instruction → Prop} {rule : Token → Prop}
    (each : ∀ {token instruction}, Instruction.Decodes token instruction →
      (property instruction ↔ rule token)) :
    (∀ slot ∈ (scan 0 tokens).slots, property slot.instruction) ↔
      ∀ token ∈ executed tokens, rule token := by
  obtain ⟨same, decodes⟩ := slots_of_final final
  rw [← same, List.forall_mem_map]
  exact forall₂_congr fun slot member => each (decodes slot member)

theorem mem_parts_iff {slots : List Slot} {zPerspective : Bool} {part : Expr}
    (register : isRegister part = true) :
    part ∈ parts (slots.flatMap Slot.lines ++ epilogue zPerspective) ↔
      ∃ slot ∈ slots, part ∈ slot.instruction.registers := by
  have filtered :
      (parts (slots.flatMap Slot.lines ++ epilogue zPerspective)).filter
          isRegister =
        slots.flatMap fun slot => slot.instruction.registers := by
    have lines :
        parts (slots.flatMap Slot.lines ++ epilogue zPerspective) =
          slots.flatMap (fun slot => parts slot.lines)
            ++ parts (epilogue zPerspective) := by
      rw [parts, List.flatMap_append, List.flatMap_assoc]
      rfl
    rw [lines, List.filter_append, registers_epilogue, List.append_nil,
      List.filter_flatMap]
    simp only [registers_slot]
  rw [← List.mem_flatMap, ← filtered, List.mem_filter, register]
  simp

theorem Program.scan_of_lines {program : Program} {lines : List Line}
    (found : program.lines = .ok lines) :
    (Microcode.scan 0 program.tokens).ending = .final ∧
      lines =
        (Microcode.scan 0 program.tokens).slots.flatMap Slot.lines
          ++ epilogue program.zPerspective := by
  by_cases fits : program.tokens.length ≤ maxProgramLength
  · rw [lines_of_fits fits] at found
    split at found
    · rename_i final
      exact ⟨final, (Except.ok.inj found).symm⟩
    · cases found
    · cases found
  · have full : program.scan = none := if_neg fits
    simp only [Program.lines, full] at found
    cases found

theorem declared_size_iff (state : VertexState) (shading : Shading)
    (renamed : Bool) (count : Nat) :
    ("c", some count) ∈
        uniforms (Vertex.sharedItems state shading renamed) ↔
      count = Transform.constantCount := by
  rw [Vertex.uniforms_sharedItems]
  simp

/--
What an accepted program names exists exactly if the numbers in its tokens are
in range.  Every temporary register in its lines is declared before them if and
only if the tokens that are carried out name none above number twelve; and every
array element that does not count from the address register is a constant below
the declared size if and only if these tokens name no other constant.
-/
theorem Program.named_registers_exist_iff
    {program : Program} {draft : Draft}
    (accepted : (program.translate draft).1 = .ok ()) :
    ∃ lines,
      program.lines = .ok lines ∧
        program.translate draft =
          (.ok (),
            { header := draft.header ++ itemsText declarations
              body := draft.body ++ linesText lines }) ∧
        ((∀ name, stemOf name = "R" → Expr.name name ∈ parts lines →
            name ∈ definedNames declarations) ↔
          ∀ token ∈ executed program.tokens, token.TemporariesExist) ∧
        ∀ state shading renamed,
          (∀ array index, Expr.element array index ∈ parts lines →
              index.mentions (· == "A0") = false →
              ∃ number count,
                array = "c" ∧ index = .int number ∧
                  ("c", some count) ∈
                    uniforms (Vertex.sharedItems state shading renamed) ∧
                  number < count) ↔
            ∀ token ∈ executed program.tokens, token.ConstantsExist := by
  cases found : program.lines with
  | error error =>
      simp only [Program.translate, found] at accepted
      cases accepted
  | ok lines =>
      obtain ⟨final, rfl⟩ := scan_of_lines found
      refine ⟨_, rfl, translate_of_lines found draft, ?_,
        fun state shading renamed => ?_⟩
      · rw [← forall_slots_iff final
          Instruction.Decodes.temporariesExist_iff]
        constructor
        · intro defined slot member name stem named
          have register : isRegister (.name name) = true := by
            simpa [isRegister] using stem
          exact defined name stem
            ((mem_parts_iff register).mpr ⟨slot, member, named⟩)
        · intro defined name stem named
          have register : isRegister (.name name) = true := by
            simpa [isRegister] using stem
          obtain ⟨slot, member, named⟩ := (mem_parts_iff register).mp named
          exact defined slot member name stem named
      · simp only [declared_size_iff]
        rw [← forall_slots_iff final Instruction.Decodes.constantsExist_iff]
        constructor
        · intro declared slot member array index named absolute
          obtain ⟨number, _, constants, same, rfl, bound⟩ :=
            declared array index
              ((mem_parts_iff rfl).mpr ⟨slot, member, named⟩) absolute
          exact ⟨number, bound, constants, same⟩
        · intro declared array index named absolute
          obtain ⟨slot, member, named⟩ := (mem_parts_iff rfl).mp named
          obtain ⟨number, bound, constants, same⟩ :=
            declared slot member array index named absolute
          exact ⟨number, _, constants, same, rfl, bound⟩

/--
One instruction with two operations.  It multiplies register twelve by the last
constant into register eleven, and takes the reciprocal of register eleven.
-/
def limits : Program where
  tokens := [#v[0, 0x0457E01B, 0xC436186E, 0xDFB80001]]
  zPerspective := false

theorem Program.named_registers_exist_iff_limits :
    ∃ lines,
      limits.lines = .ok lines ∧
        Expr.name "R12" ∈ parts lines ∧
        Expr.element "c" (.int 191) ∈ parts lines ∧
        (∀ name, stemOf name = "R" → Expr.name name ∈ parts lines →
          name ∈ definedNames declarations) ∧
        ∀ array index, Expr.element array index ∈ parts lines →
          index.mentions (· == "A0") = false →
          ∃ number < 192, array = "c" ∧ index = .int number := by
  have accepted : (limits.translate ⟨"", ""⟩).1 = .ok () := by
    obtain ⟨lines, found⟩ : ∃ lines, limits.lines = .ok lines := ⟨_, rfl⟩
    rw [translate_of_lines found]
  obtain ⟨lines, found, -, temporaries, constants⟩ :=
    named_registers_exist_iff accepted
  have single : executed limits.tokens = limits.tokens := by decide
  rw [single, limits, List.forall_mem_singleton] at temporaries constants
  have named :
      Expr.name "R12" ∈ parts lines ∧
        Expr.element "c" (.int 191) ∈ parts lines := by
    cases found
    decide +kernel
  refine ⟨lines, found, named.1, named.2, temporaries.mpr ?_, ?_⟩
  · refine ⟨fun slot _ _ => ?_, fun _ => by decide, fun _ _ => by decide⟩
    cases slot <;> decide
  · intro array index member absolute
    obtain ⟨number, count, constant, same, declared, bound⟩ :=
      (constants default .smooth false).mpr (fun _ _ _ _ => by decide)
        array index member absolute
    obtain rfl := (declared_size_iff _ _ _ _).mp declared
    exact ⟨number, bound, constant, same⟩

/-- One instruction that moves a constant behind the last to register thirteen. -/
def beyond : Program where
  tokens := [#v[0, 0x0038001B, 0x0C000000, 0x0FD00001]]
  zPerspective := false

/-- Register thirteen and constant 192 are accepted, though neither is declared. -/
theorem beyond_accepted :
    ∃ lines,
      beyond.lines = .ok lines ∧
        (beyond.translate ⟨"H", "B"⟩).1 = .ok () ∧
        Expr.name "R13" ∈ parts lines ∧
        "R13" ∉ definedNames declarations ∧
        Expr.element "c" (.int 192) ∈ parts lines ∧
        ∀ state shading renamed count,
          ("c", some count) ∈
              uniforms (Vertex.sharedItems state shading renamed) →
            count ≤ 192 := by
  obtain ⟨lines, found⟩ : ∃ lines, beyond.lines = .ok lines := ⟨_, rfl⟩
  refine ⟨lines, found, by rw [Program.translate_of_lines found], ?_,
    by decide +kernel, ?_, ?_⟩
  · cases found
    decide +kernel
  · cases found
    decide +kernel
  · intro state shading renamed count member
    exact Nat.le_of_eq ((declared_size_iff _ _ _ _).mp member)

end ShaderSynth.Microcode
