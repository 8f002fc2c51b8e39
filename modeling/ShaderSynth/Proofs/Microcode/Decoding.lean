import ShaderSynth.Proofs.Fallible
import ShaderSynth.Proofs.Microcode.Emission

/-!
# Decoded instructions

An instruction holds what the machine reads off its token: the operations, the
operands they take, the masks and the register.  `Instruction.Decodes` says so
field by field, and the operands of the machine are the values of the reads.
-/

namespace ShaderSynth.Microcode

variable {scalar : Type}

/-- An instruction holds what the machine reads off its token. -/
structure Instruction.Decodes (token : Token) (instruction : Instruction) :
    Prop where
  mac : Coded.ofCode? (Field.mac.get token) = some instruction.mac
  ilu : IluOp.ofLowBits (Field.ilu.get token) = instruction.ilu
  macInputs :
    instruction.mac.inputs.mapM (Token.read? token) =
      some instruction.macInputs
  iluInputs :
    instruction.ilu.inputs.mapM (Token.read? token) =
      some instruction.iluInputs
  macMask : Mask.ofNibble (Field.macMask.get token) = instruction.macMask
  iluMask : Mask.ofNibble (Field.iluMask.get token) = instruction.iluMask
  register : Field.register.get token = instruction.register
  output :
    Token.outputWrite token instruction.mac instruction.ilu =
      .ok instruction.output

theorem mapM_of_readWhen
    {needed : Bool} {token : Token} {slot : InputSlot} {reads : List Read}
    (done : Token.readWhen needed token slot = .ok reads) :
    (if needed then [slot] else []).mapM (Token.read? token) =
      some reads := by
  unfold Token.readWhen at done
  cases needed with
  | false => cases done; rfl
  | true =>
      cases found : Token.read? token slot with
      | none => simp [found] at done
      | some read =>
          obtain rfl : [read] = reads := by simpa [found] using done
          simp [found]

theorem Instruction.decodes_of_decode
    {token : Token} {instruction : Instruction}
    (decoded : Instruction.decode token = .ok instruction) :
    instruction.Decodes token := by
  unfold Instruction.decode at decoded
  dsimp only at decoded
  split at decoded
  · cases decoded
  · rename_i mac known
    obtain ⟨c, readC, decoded⟩ := bind_eq_ok_iff.mp decoded
    obtain ⟨a, readA, decoded⟩ := bind_eq_ok_iff.mp decoded
    obtain ⟨b, readB, decoded⟩ := bind_eq_ok_iff.mp decoded
    obtain ⟨output, routed, decoded⟩ := bind_eq_ok_iff.mp decoded
    cases decoded
    refine ⟨known, rfl, ?_, ?_, rfl, rfl, rfl, routed⟩
    · have shared :
          (if mac.readsC then [InputSlot.c] else []).mapM
              (Token.read? token) =
            some (if mac.readsC then c else []) := by
        cases reads : mac.readsC with
        | false => rfl
        | true =>
            rw [reads, Bool.true_or] at readC
            exact mapM_of_readWhen readC
      dsimp only
      unfold MacOp.inputs
      rw [List.mapM_append, List.mapM_append, mapM_of_readWhen readA,
        mapM_of_readWhen readB, shared]
      rfl
    · dsimp only
      unfold IluOp.inputs
      by_cases idle : IluOp.ofLowBits (Field.ilu.get token) = .nop
      · simp [idle]
      · have needed : (IluOp.ofLowBits (Field.ilu.get token) != .nop) = true :=
          bne_iff_ne.mpr idle
        rw [needed, Bool.or_true] at readC
        rw [if_neg idle, if_pos needed]
        exact mapM_of_readWhen readC

/-! ## Operands -/

/-- A read stands for an operand of the token. -/
theorem operand_eq
    (meaning : Interpretation scalar) (registers : Registers scalar)
    (token : Token) :
    registers.operand meaning token =
      fun slot => (Token.read? token slot).map (registers.value meaning) := by
  funext slot
  unfold Registers.operand Token.read?
  simp only [Option.map_map]
  refine congrArg (Option.map · _) (funext fun file => ?_)
  cases file with
  | temporary => rfl
  | input => rfl
  | constant =>
      by_cases fixed : Field.relative.get token = 0
      · simp [Registers.value, Registers.source, Token.constantSource,
          Registers.base, fixed]
      · simp [Registers.value, Registers.source, Token.constantSource,
          Registers.base, fixed]

theorem mapM_operand
    {token : Token} {slots : List InputSlot} {reads : List Read}
    (meaning : Interpretation scalar) (registers : Registers scalar)
    (found : slots.mapM (Token.read? token) = some reads) :
    slots.mapM (registers.operand meaning token) =
      some (reads.map (registers.value meaning)) := by
  rw [operand_eq]
  induction slots generalizing reads with
  | nil =>
      cases found
      rfl
  | cons slot rest ih =>
      rw [List.mapM_cons] at found
      obtain ⟨read, first, found⟩ := Option.bind_eq_some_iff.mp found
      obtain ⟨others, remaining, found⟩ := Option.bind_eq_some_iff.mp found
      cases found
      rw [List.mapM_cons, ih remaining, first]
      rfl

theorem exists_slot_of_mem
    {token : Token} {slots : List InputSlot} {reads : List Read} {read : Read}
    (found : slots.mapM (Token.read? token) = some reads)
    (member : read ∈ reads) :
    ∃ slot ∈ slots, Token.read? token slot = some read := by
  induction slots generalizing reads with
  | nil =>
      cases found
      cases member
  | cons slot rest ih =>
      rw [List.mapM_cons] at found
      obtain ⟨first, here, found⟩ := Option.bind_eq_some_iff.mp found
      obtain ⟨others, remaining, found⟩ := Option.bind_eq_some_iff.mp found
      cases found
      rcases List.mem_cons.mp member with rfl | member
      · exact ⟨slot, by simp, here⟩
      · obtain ⟨other, listed, there⟩ := ih remaining member
        exact ⟨other, by simp [listed], there⟩

theorem readsTemporary_of_read
    {token : Token} {slot : InputSlot} {read : Read} {number : UInt8}
    (listed : slot ∈ Token.inputs token)
    (found : Token.read? token slot = some read)
    (source : read.source = .temporary number) :
    Token.ReadsTemporary token number := by
  unfold Token.read? at found
  obtain ⟨file, selected, rfl⟩ := Option.map_eq_some_iff.mp found
  refine ⟨slot, listed, ?_⟩
  cases file with
  | temporary => exact ⟨selected, Source.temporary.inj source⟩
  | input => cases source
  | constant =>
      simp only [Token.constantSource] at source
      split at source <;> cases source

namespace Instruction.Decodes

/-- Operands that are not register twelve are plain reads. -/
theorem plain
    {token : Token} {instruction : Instruction}
    (decodes : instruction.Decodes token)
    (unread : ¬ Token.ReadsTemporary token 12) :
    ∀ read ∈ instruction.macInputs ++ instruction.iluInputs, read.Plain := by
  intro read member twelve
  refine unread ?_
  rcases List.mem_append.mp member with member | member
  · obtain ⟨slot, listed, found⟩ :=
      exists_slot_of_mem decodes.macInputs member
    refine readsTemporary_of_read ?_ found twelve
    simp [Token.inputs, decodes.mac, listed]
  · obtain ⟨slot, listed, found⟩ :=
      exists_slot_of_mem decodes.iluInputs member
    refine readsTemporary_of_read ?_ found twelve
    simp [Token.inputs, decodes.ilu, listed]

end Instruction.Decodes

end ShaderSynth.Microcode
