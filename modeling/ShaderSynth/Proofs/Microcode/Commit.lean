import ShaderSynth.Microcode.Program
import ShaderSynth.Proofs.Microcode.Decoding

/-!
# Statements commit as the machine does

The statements of an instruction run one after the other, and yet they leave
the registers as an instruction of the machine does, which reads everything
before it writes anything.  So a translated program does what the machine does
with its tokens.
-/

namespace ShaderSynth.Microcode

open Glsl

variable {scalar : Type}

/-! ## Output writes -/

namespace Registers

@[simp]
theorem writeOutput_empty
    (registers : Registers scalar) (register : OutputRegister)
    (result : Vec4 scalar) :
    registers.writeOutput register .empty result = registers := by
  simp [writeOutput]

@[simp]
theorem writeTemporary_empty
    (registers : Registers scalar) (number : UInt8) (result : Vec4 scalar) :
    registers.writeTemporary number .empty result = registers := by
  simp [writeTemporary]

/-- Staged components are written as the result itself would be. -/
theorem writeTemporary_blend
    (registers : Registers scalar) (number : UInt8) (mask : Mask)
    (result old : Vec4 scalar) :
    registers.writeTemporary number mask (result.blend mask old) =
      registers.writeTemporary number mask result := by
  simp only [writeTemporary, writeOutput, Vec4.blend_blend]

end Registers

/-- Routes the result of a unit to the outputs, if the instruction does. -/
def Instruction.route
    (instruction : Instruction) (unit : ExecutionUnit)
    (result : Result scalar) (registers : Registers scalar) :
    Registers scalar :=
  match instruction.output, result with
  | some write, .vector value =>
      if write.unit = unit then
        registers.writeOutput write.register
          (write.register.writtenMask write.mask) value
      else registers
  | _, _ => registers

theorem Instruction.route_nothing
    (instruction : Instruction) (unit : ExecutionUnit)
    (registers : Registers scalar) :
    instruction.route unit .nothing registers = registers := by
  cases output : instruction.output <;> simp [route, output]

theorem Instruction.route_address
    (instruction : Instruction) (unit : ExecutionUnit) (value : Int)
    (registers : Registers scalar) :
    instruction.route unit (.address value) registers = registers := by
  cases output : instruction.output <;> simp [route, output]

theorem ofAddress?_low (address : UInt8) :
    OutputRegister.ofAddress? (address &&& 15) =
      OutputRegister.ofAddress? address := by
  have low : address &&& 15 &&& 15 = address &&& 15 := by
    rw [UInt8.and_assoc, UInt8.and_self]
  unfold OutputRegister.ofAddress?
  rw [low]

theorem writtenMask_eq (register : OutputRegister) (mask : Mask) :
    register.writtenMask mask =
      if register = .fog then mask.packed else mask := by
  cases register <;> rfl

/-- The result that goes to the outputs. -/
def selectedResult (token : Token) (mac ilu : Result scalar) :
    Result scalar :=
  match Token.outputUnit token with
  | .mac => mac
  | .ilu => ilu

/-- The outputs receive the result of the selected unit, or nothing. -/
theorem Instruction.Decodes.commitOutput_cases
    {token : Token} {instruction : Instruction} {mac ilu : Result scalar}
    (decodes : instruction.Decodes token)
    (macActive : mac.active = (instruction.mac != .nop))
    (iluActive : ilu.active = (instruction.ilu != .nop))
    (registers : Registers scalar) :
    instruction.output = none ∧
        registers.commitOutput token mac ilu = registers ∨
      ∃ register mask,
        instruction.output = some ⟨Token.outputUnit token, register, mask⟩ ∧
          registers.commitOutput token mac ilu =
            match selectedResult token mac ilu with
            | .vector value =>
                registers.writeOutput register (register.writtenMask mask)
                  value
            | _ => registers := by
  have selected :
      (if Field.outputUnit.get token = 0 then mac else ilu) =
        selectedResult token mac ilu := by
    unfold selectedResult Token.outputUnit
    split <;> rfl
  have active :
      (selectedResult token mac ilu).active =
        (Token.outputUnit token).active instruction.mac instruction.ilu := by
    unfold selectedResult
    cases Token.outputUnit token with
    | mac => exact macActive
    | ilu => exact iluActive
  have routed := decodes.output
  unfold Token.outputWrite at routed
  unfold Registers.commitOutput
  dsimp only at routed ⊢
  rw [selected]
  rw [← active, ofAddress?_low] at routed
  generalize selectedResult token mac ilu = result at routed ⊢
  generalize Mask.ofNibble (Field.outputMask.get token) = mask at routed ⊢
  split at routed
  · split at routed
    · cases routed
    · split at routed
      · rename_i register known
        refine Or.inr ⟨register, mask, (Except.ok.inj routed).symm, ?_⟩
        rw [known, writtenMask_eq]
        cases result <;> rfl
      · cases routed
  · rename_i idle
    -- A result that is there all the same has a mask that reaches nothing.
    refine Or.inl ⟨(Except.ok.inj routed).symm, ?_⟩
    split
    · have nothing : mask = .empty := by simpa [Result.active] using idle
      subst nothing
      split <;> exact registers.writeOutput_empty _ _
    · rfl

theorem Instruction.Decodes.commitOutput_eq
    {token : Token} {instruction : Instruction} {mac ilu : Result scalar}
    (decodes : instruction.Decodes token)
    (macActive : mac.active = (instruction.mac != .nop))
    (iluActive : ilu.active = (instruction.ilu != .nop))
    (registers : Registers scalar) :
    registers.commitOutput token mac ilu =
      instruction.route .ilu ilu (instruction.route .mac mac registers) := by
  rcases decodes.commitOutput_cases macActive iluActive registers with
    ⟨unrouted, same⟩ | ⟨register, mask, routed, same⟩
  · rw [same]
    simp [Instruction.route, unrouted]
  · rw [same]
    unfold selectedResult Instruction.route
    rw [routed]
    cases Token.outputUnit token <;> cases mac <;> cases ilu <;> rfl

namespace Leads

variable {meaning : Interpretation scalar}

theorem write_empty
    (staged : Staged scalar) (result : Vec4 scalar)
    (destination : Destination) :
    staged.write .empty result destination = staged := by
  cases destination <;> simp [Staged.write]

/-- A write that reaches nothing is left out. -/
theorem computeUnlessEmpty
    {operation : Operation} {inputs : List Read}
    (destination : Destination) (mask : Mask) (before : Staged scalar)
    (other : operation.mnemonic ≠ MacOp.arl.mnemonic) :
    Leads meaning
      (emitted
        (if mask = .empty then []
        else [.compute operation destination mask inputs]))
      before
      (before.write mask
        (meaning.compute operation.mnemonic
          (inputs.map (before.registers.readable.value meaning)))
        destination) := by
  split
  · rename_i nothing
    subst nothing
    rw [write_empty]
    exact nil before
  · exact compute destination mask before other

theorem outputStatements
    {operation : Operation} {inputs : List Read}
    (instruction : Instruction) (unit : ExecutionUnit)
    (before : Staged scalar)
    (other : operation.mnemonic ≠ MacOp.arl.mnemonic) :
    Leads meaning
      (emitted (instruction.outputStatements unit operation inputs)) before
      { before with
        registers :=
          instruction.route unit
            (.vector (meaning.compute operation.mnemonic
              (inputs.map (before.registers.readable.value meaning))))
            before.registers } := by
  unfold Instruction.outputStatements Instruction.route
  cases instruction.output with
  | none => exact nil before
  | some write =>
      dsimp only
      split
      · exact compute (.output write.register) _ before other
      · exact nil before

/--
A unit writes its result to the outputs first, and reads its operands once
more for the other destination.
-/
theorem unitStatements
    {operation : Operation} {inputs : List Read}
    (instruction : Instruction) (unit : ExecutionUnit)
    (destination : Destination) (mask : Mask) (before : Staged scalar)
    (other : operation.mnemonic ≠ MacOp.arl.mnemonic) :
    let result (registers : Registers scalar) :=
      meaning.compute operation.mnemonic
        (inputs.map (registers.readable.value meaning))
    let routed :=
      instruction.route unit (.vector (result before.registers))
        before.registers
    Leads meaning
      (emitted
        (instruction.outputStatements unit operation inputs ++
          if mask = .empty then []
          else [.compute operation destination mask inputs]))
      before
      (Staged.write { before with registers := routed } mask (result routed)
        destination) := by
  intro result routed
  have first : Leads meaning _ before { before with registers := routed } :=
    outputStatements instruction unit before other
  rw [emitted_append]
  exact first.append (computeUnlessEmpty destination mask _ other)

end Leads

theorem ofMac_vector
    (meaning : Interpretation scalar) {mac : MacOp}
    (inputs : List (Vec4 scalar)) (busy : mac ≠ .nop) (other : mac ≠ .arl) :
    Result.ofMac meaning mac inputs =
      .vector (meaning.compute mac.mnemonic inputs) := by
  cases mac <;> first | rfl | contradiction

theorem ofIlu_vector
    (meaning : Interpretation scalar) {ilu : IluOp}
    (inputs : List (Vec4 scalar)) (busy : ilu ≠ .nop) :
    Result.ofIlu meaning ilu inputs =
      .vector (meaning.compute ilu.mnemonic inputs) := by
  cases ilu <;> first | rfl | contradiction

theorem mnemonic_mac_ne {mac : MacOp} (other : mac ≠ .arl) :
    (Operation.mac mac).mnemonic ≠ MacOp.arl.mnemonic := by
  cases mac <;> first | decide | contradiction

theorem mnemonic_ilu_ne (ilu : IluOp) :
    (Operation.ilu ilu).mnemonic ≠ MacOp.arl.mnemonic := by
  cases ilu <;> decide

namespace Instruction

theorem macStatements_nop
    {instruction : Instruction} (quiet : instruction.mac = .nop) :
    instruction.macStatements = [] := by
  simp only [macStatements, quiet]

theorem macStatements_arl
    {instruction : Instruction} {read : Read}
    (load : instruction.mac = .arl)
    (only : instruction.macInputs = [read]) :
    instruction.macStatements =
      [.loadAddress instruction.paired [read]] := by
  simp only [macStatements, load, only]

theorem macStatements_vector
    {instruction : Instruction}
    (busy : instruction.mac ≠ .nop) (other : instruction.mac ≠ .arl) :
    instruction.macStatements =
      instruction.outputStatements .mac (.mac instruction.mac)
          instruction.macInputs ++
        if instruction.macTarget = .empty then []
        else
          [.compute (.mac instruction.mac)
            (if instruction.paired then .staging
            else .temporary instruction.register)
            instruction.macTarget instruction.macInputs] := by
  unfold macStatements
  split
  · contradiction
  · contradiction
  · rfl

theorem commitStatements_vector
    {instruction : Instruction}
    (paired : instruction.paired = true) (other : instruction.mac ≠ .arl) :
    instruction.commitStatements =
      if instruction.macTarget = .empty then []
      else [.commit instruction.register instruction.macTarget] := by
  simp only [commitStatements, paired, if_true, if_neg other]

theorem iluStatements_active
    {instruction : Instruction} (busy : instruction.ilu ≠ .nop) :
    instruction.iluStatements =
      instruction.outputStatements .ilu (.ilu instruction.ilu)
          instruction.iluInputs ++
        if instruction.iluMask = .empty then []
        else
          [.compute (.ilu instruction.ilu)
            (.temporary instruction.iluRegister)
            instruction.iluMask instruction.iluInputs] := by
  unfold iluStatements
  split
  · contradiction
  · rfl

/-- The result of the multiply-accumulate unit of an instruction. -/
def macResult
    (meaning : Interpretation scalar) (instruction : Instruction)
    (registers : Registers scalar) :
    Result scalar :=
  .ofMac meaning instruction.mac
    (instruction.macInputs.map (registers.value meaning))

theorem active_macResult
    (meaning : Interpretation scalar) (instruction : Instruction)
    (registers : Registers scalar) :
    (instruction.macResult meaning registers).active =
      (instruction.mac != .nop) := by
  unfold macResult Result.ofMac
  split
  · rename_i quiet
    rw [quiet]
    rfl
  · rename_i load _
    rw [load]
    rfl
  · rename_i busy _
    exact (bne_iff_ne.mpr busy).symm

theorem macResult_nop
    {meaning : Interpretation scalar} {instruction : Instruction}
    (quiet : instruction.mac = .nop) (registers : Registers scalar) :
    instruction.macResult meaning registers = .nothing := by
  unfold macResult
  rw [quiet]
  rfl

theorem macResult_arl
    {meaning : Interpretation scalar} {instruction : Instruction}
    {read : Read}
    (load : instruction.mac = .arl) (only : instruction.macInputs = [read])
    (registers : Registers scalar) :
    instruction.macResult meaning registers =
      .address (meaning.address (registers.value meaning read)) := by
  unfold macResult
  rw [load, only]
  rfl

/-- The result of the scalar unit of an instruction. -/
def iluResult
    (meaning : Interpretation scalar) (instruction : Instruction)
    (registers : Registers scalar) :
    Result scalar :=
  .ofIlu meaning instruction.ilu
    (instruction.iluInputs.map (registers.value meaning))

theorem active_iluResult
    (meaning : Interpretation scalar) (instruction : Instruction)
    (registers : Registers scalar) :
    (instruction.iluResult meaning registers).active =
      (instruction.ilu != .nop) := by
  unfold iluResult
  cases instruction.ilu <;> rfl

theorem iluResult_nop
    {meaning : Interpretation scalar} {instruction : Instruction}
    (idle : instruction.ilu = .nop) (registers : Registers scalar) :
    instruction.iluResult meaning registers = .nothing := by
  unfold iluResult
  rw [idle]
  rfl

/--
The registers that the statements of an instruction leave.  Each of them reads
its operands when it runs, behind the output writes of the ones before.
-/
def sequential
    (meaning : Interpretation scalar) (token : Token)
    (instruction : Instruction) (registers : Registers scalar) :
    Registers scalar :=
  let routed :=
    instruction.route .mac
      (instruction.macResult meaning registers.readable) registers
  let mac := instruction.macResult meaning routed.readable
  let both :=
    instruction.route .ilu
      (instruction.iluResult meaning routed.readable) routed
  let ilu := instruction.iluResult meaning both.readable
  (both.commitIlu token mac ilu).commitMac token mac ilu

namespace Decodes

variable {meaning : Interpretation scalar} {token : Token}
  {instruction : Instruction}

theorem leads_iluStatements
    (decodes : instruction.Decodes token) (before : Staged scalar)
    (busy : instruction.ilu ≠ .nop)
    (mac : Result scalar) (active : mac.active = (instruction.mac != .nop)) :
    let routed :=
      instruction.route .ilu
        (instruction.iluResult meaning before.registers.readable)
        before.registers
    Leads meaning (emitted instruction.iluStatements) before
      { before with
        registers :=
          routed.commitIlu token mac
            (instruction.iluResult meaning routed.readable) } := by
  intro routed
  have number :
      (if mac.active then 1 else Field.register.get token) =
        instruction.iluRegister := by
    simp [Instruction.iluRegister, Instruction.paired, active, busy,
      decodes.register]
  have result (registers : Registers scalar) :
      instruction.iluResult meaning registers = .vector _ :=
    ofIlu_vector meaning _ busy
  rw [iluStatements_active busy, result]
  unfold Registers.commitIlu
  dsimp only
  rw [number, decodes.iluMask]
  simp only [routed, result]
  exact .unitStatements instruction .ilu
    (.temporary instruction.iluRegister) instruction.iluMask before
    (mnemonic_ilu_ne instruction.ilu)

theorem macInputs_arl
    (decodes : instruction.Decodes token) (load : instruction.mac = .arl) :
    ∃ read, instruction.macInputs = [read] := by
  have found := decodes.macInputs
  rw [load] at found
  have one : MacOp.arl.inputs = [.a] := rfl
  rw [one, List.mapM_cons] at found
  obtain ⟨read, -, found⟩ := Option.bind_eq_some_iff.mp found
  exact ⟨read, (Option.some.inj found).symm⟩

/-- Of two results, the one for register one is the scalar one. -/
theorem commitMac_paired
    {ilu : Result scalar}
    (decodes : instruction.Decodes token)
    (paired : instruction.paired = true) (active : ilu.active = true)
    (registers : Registers scalar) (value : Vec4 scalar) :
    registers.commitMac token (.vector value) ilu =
      registers.writeTemporary instruction.register instruction.macTarget
        value := by
  unfold Registers.commitMac Instruction.macTarget
  dsimp only
  rw [decodes.register, decodes.macMask, active, paired]
  split
  · exact (Registers.writeTemporary_empty _ _ _).symm
  · rfl

/-- Alone, the multiply-accumulate unit writes its result at once. -/
theorem leads_macStatements_alone
    (decodes : instruction.Decodes token) (before : Staged scalar)
    (idle : instruction.ilu = .nop) :
    let routed :=
      instruction.route .mac
        (instruction.macResult meaning before.registers.readable)
        before.registers
    Leads meaning (emitted instruction.macStatements) before
      { before with
        registers :=
          routed.commitMac token
            (instruction.macResult meaning routed.readable) .nothing } := by
  intro routed
  have single : instruction.paired = false := by
    simp [Instruction.paired, idle]
  by_cases quiet : instruction.mac = .nop
  · simp only [routed, macStatements_nop quiet, macResult_nop quiet,
      route_nothing]
    exact .nil before
  by_cases load : instruction.mac = .arl
  · obtain ⟨read, only⟩ := decodes.macInputs_arl load
    simp only [routed, macStatements_arl load only, single,
      macResult_arl load only, route_address]
    exact .loadAddress read false before
  · have result (registers : Registers scalar) :
        instruction.macResult meaning registers = .vector _ :=
      ofMac_vector meaning _ quiet load
    have target : instruction.macTarget = instruction.macMask := by
      simp [Instruction.macTarget, single]
    rw [macStatements_vector quiet load, single, target, result]
    unfold Registers.commitMac
    dsimp only
    rw [decodes.register, decodes.macMask]
    simp only [routed, result]
    exact .unitStatements instruction .mac (.temporary instruction.register)
      instruction.macMask before (mnemonic_mac_ne load)

/--
With the scalar unit active, the multiply-accumulate result is staged, and
written when the copies run.
-/
theorem leads_macStatements_staged
    (decodes : instruction.Decodes token) (before : Staged scalar)
    (busy : instruction.ilu ≠ .nop)
    (ilu : Result scalar) (active : ilu.active = true) :
    let routed :=
      instruction.route .mac
        (instruction.macResult meaning before.registers.readable)
        before.registers
    ∃ staged,
      Leads meaning (emitted instruction.macStatements) before staged ∧
        staged.registers = routed ∧
        ∀ registers,
          Leads meaning (emitted instruction.commitStatements)
            { staged with registers }
            { staged with
              registers :=
                registers.commitMac token
                  (instruction.macResult meaning routed.readable) ilu } := by
  intro routed
  by_cases quiet : instruction.mac = .nop
  · have nothing : instruction.commitStatements = [] := by
      simp [Instruction.commitStatements, Instruction.paired, quiet]
    simp only [routed, macStatements_nop quiet, nothing, macResult_nop quiet,
      route_nothing]
    exact ⟨before, .nil before, rfl, fun registers => .nil _⟩
  have paired : instruction.paired = true := by
    simp [Instruction.paired, quiet, busy]
  by_cases load : instruction.mac = .arl
  · obtain ⟨read, only⟩ := decodes.macInputs_arl load
    have copies : instruction.commitStatements = [.commitAddress] := by
      simp [Instruction.commitStatements, paired, load]
    simp only [routed, macStatements_arl load only, paired, copies,
      macResult_arl load only, route_address]
    exact ⟨_, .loadAddress read true before, rfl,
      fun registers => .commitAddress _⟩
  · have result (registers : Registers scalar) :
        instruction.macResult meaning registers = .vector _ :=
      ofMac_vector meaning _ quiet load
    rw [macStatements_vector quiet load, paired, result]
    simp only [routed, result]
    refine ⟨_, .unitStatements instruction .mac .staging
      instruction.macTarget before (mnemonic_mac_ne load), rfl,
      fun registers => ?_⟩
    rw [decodes.commitMac_paired paired active,
      commitStatements_vector paired load]
    split
    · rename_i nothing
      rw [nothing, Registers.writeTemporary_empty]
      exact .nil _
    · rw [← Registers.writeTemporary_blend]
      exact .commit instruction.register instruction.macTarget _

/-- The statements of an instruction read their operands in their order. -/
theorem leads_sequential
    (meaning : Interpretation scalar)
    (decodes : instruction.Decodes token) (before : Staged scalar) :
    ∃ after,
      Leads meaning (emitted instruction.statements) before after ∧
        after.registers =
          instruction.sequential meaning token before.registers := by
  let routed :=
    instruction.route .mac
      (instruction.macResult meaning before.registers.readable)
      before.registers
  let both :=
    instruction.route .ilu
      (instruction.iluResult meaning routed.readable) routed
  have macActive := instruction.active_macResult meaning routed.readable
  have iluActive := instruction.active_iluResult meaning both.readable
  unfold Instruction.statements
  rw [emitted_append, emitted_append]
  by_cases idle : instruction.ilu = .nop
  · have alone : Leads meaning _ before _ :=
      decodes.leads_macStatements_alone before idle
    have nothing : instruction.iluStatements = [] := by
      simp only [Instruction.iluStatements, idle]
    have copies : instruction.commitStatements = [] := by
      simp [Instruction.commitStatements, Instruction.paired, idle]
    rw [nothing, copies]
    refine ⟨_, (alone.append (.nil _)).append (.nil _), ?_⟩
    simp only [Instruction.sequential, iluResult_nop idle, route_nothing]
    rfl
  · obtain ⟨staged, first, same, last⟩ :=
      decodes.leads_macStatements_staged before idle _
        (iluActive.trans (bne_iff_ne.mpr idle))
    have second : Leads meaning _ _ _ :=
      decodes.leads_iluStatements staged idle _ macActive
    rw [same] at second
    exact ⟨_, (first.append second).append (last _), rfl⟩

end Decodes

end Instruction

/-! ## Slots and programs -/

variable {meaning : Interpretation scalar}

/--
Two instructions that issue two operations each.  The first one loads the
address register and a constant that is counted from it.  The second one adds
register one to register two, and moves register two to register one.
-/
def exchange : Program where
  tokens :=
    [#v[0, 0x03A0A000, 0x0800006C, 0x300F0002],
      #v[0, 0x0260001B, 0x1400006C, 0x9F2F0001]]
  zPerspective := false

/-- Whole numbers, with sums as the only operation of two operands. -/
def wholeNumbers : Interpretation Int where
  negate value := -value
  compute
    | _, [first, second] =>
        ⟨first.x + second.x, first.y + second.y, first.z + second.z,
          first.w + second.w⟩
    | _, [only] => only
    | _, _ => ⟨0, 0, 0, 0⟩
  address vector := vector.x

/-- Registers and constants with different values. -/
def numbered : Environment Int where
  vectors name := if name = "R2" then ⟨10, 20, 30, 40⟩ else ⟨100, 0, 0, 0⟩
  integers _ := 2
  arrays _ place := ⟨place, place, place, place⟩

end ShaderSynth.Microcode
