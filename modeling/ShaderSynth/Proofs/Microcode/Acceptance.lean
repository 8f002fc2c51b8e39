import ShaderSynth.Proofs.Microcode.Fields
import ShaderSynth.Proofs.Microcode.Machine
import ShaderSynth.Stage.Vertex

/-!
# Which programs are accepted

A program is accepted exactly if it fits, is finished, and every instruction
it carries out is well formed.  The rules are stated on the bit fields of the
tokens.  A token that breaks several rules is refused for the first of its
`defects`, and a program for the first token that has any.
-/

namespace ShaderSynth.Microcode

/-! ## Well-formed tokens -/

namespace Token

/-- The multiply-accumulate operations that read input B. -/
def binaryOps : List MacOp :=
  [.mul, .mad, .dp3, .dph, .dp4, .dst, .min, .max, .slt, .sge]

/-- An instruction reads an operand. -/
def Reads (token : Token) : InputSlot → Prop
  | .a => Field.mac.get token ≠ Coded.code MacOp.nop
  | .b => Field.mac.get token ∈ binaryOps.map Coded.code
  | .c =>
      Field.mac.get token ∈ [MacOp.add, .mad].map Coded.code ∨
        Field.ilu.get token ≠ Coded.code IluOp.nop

instance (token : Token) (slot : InputSlot) : Decidable (token.Reads slot) :=
  match slot with
  | .a => inferInstanceAs (Decidable (_ ≠ _))
  | .b => inferInstanceAs (Decidable (_ ∈ _))
  | .c => inferInstanceAs (Decidable (_ ∨ _))

/-- The unit that an instruction routes to the outputs has an operation. -/
def Routes (token : Token) : Prop :=
  Field.outputUnit.get token = 0 ∧
      Field.mac.get token ≠ Coded.code MacOp.nop ∨
    Field.outputUnit.get token = 1 ∧
      Field.ilu.get token ≠ Coded.code IluOp.nop

instance (token : Token) : Decidable token.Routes :=
  inferInstanceAs (Decidable (_ ∨ _))

/-- An instruction writes an output register. -/
def WritesOutput (token : Token) : Prop :=
  Field.outputMask.get token ≠ 0 ∧ token.Routes

instance (token : Token) : Decidable token.WritesOutput :=
  inferInstanceAs (Decidable (_ ∧ _))

/-- The low four bits of the output address. -/
def outputNibble (token : Token) : Nat :=
  (Field.outputAddress.get token).toNat % 16

/-- The output address names a register that the hardware has. -/
def OutputImplemented (token : Token) : Prop :=
  token.outputNibble = 0 ∨ 3 ≤ token.outputNibble ∧ token.outputNibble ≤ 12

instance (token : Token) : Decidable token.OutputImplemented :=
  inferInstanceAs (Decidable (_ ∨ _))

/-- The rules for an instruction. -/
structure WellFormed (token : Token) : Prop where
  opcode : Field.mac.get token ≤ 13
  operands : ∀ slot, token.Reads slot → slot.muxField.get token ≠ 0
  bank : token.WritesOutput → Field.outputBank.get token = 1
  output : token.WritesOutput → token.OutputImplemented

/-- The rule about an operand, if it is broken. -/
def operandDefects (token : Token) (slot : InputSlot) : List Fault :=
  if token.Reads slot ∧ slot.muxField.get token = 0 then [.operand slot]
  else []

/-- The rules about outputs that are broken. -/
def outputDefects (token : Token) : List Fault :=
  if token.WritesOutput then
    (if Field.outputBank.get token ≠ 1 then [.constantOutput] else [])
      ++ if token.OutputImplemented then []
        else [.reservedOutput (UInt8.ofNat token.outputNibble)]
  else []

/-- The rules that a token breaks, in the order in which they count. -/
def defects (token : Token) : List Fault :=
  (if Field.mac.get token ≤ 13 then []
    else [.macOpcode (Field.mac.get token)])
    ++ [InputSlot.c, .a, .b].flatMap token.operandDefects
    ++ token.outputDefects

theorem wellFormed_iff (token : Token) :
    token.WellFormed ↔ token.defects = [] := by
  constructor
  · rintro ⟨opcode, operands, bank, output⟩
    have sound (slot : InputSlot) : token.operandDefects slot = [] :=
      if_neg fun broken => operands slot broken.1 broken.2
    have routed : token.outputDefects = [] := by
      unfold outputDefects
      split
      · rename_i writes
        simp [bank writes, output writes]
      · rfl
    simp [defects, opcode, sound, routed]
  · intro clean
    obtain ⟨opcode, operands, routed⟩ :
        Field.mac.get token ≤ 13 ∧
          (∀ slot ∈ [InputSlot.c, .a, .b], token.operandDefects slot = []) ∧
          token.outputDefects = [] := by
      simpa [defects, and_assoc] using clean
    refine ⟨opcode, fun slot reads missing => ?_, fun writes => ?_,
      fun writes => ?_⟩
    · have sound := operands slot (by cases slot <;> simp)
      simp [operandDefects, reads, missing] at sound
    · by_contra other
      simp [outputDefects, writes, other] at routed
    · by_contra other
      simp [outputDefects, writes, other] at routed

end Token

/-! ## Faults of a token -/

/-- An outcome is the first of the faults there are, or a success without any. -/
def Reports {result : Type} (outcome : Except Fault result)
    (faults : List Fault) : Prop :=
  match outcome with
  | .ok _ => faults = []
  | .error fault => faults.head? = some fault

namespace Reports

theorem bind
    {first second : Type} {outcome : Except Fault first}
    {next : first → Except Fault second} {faults others : List Fault}
    (reports : Reports outcome faults)
    (after : ∀ value, Reports (next value) others) :
    Reports (outcome >>= next) (faults ++ others) := by
  cases outcome with
  | ok value =>
      obtain rfl : faults = [] := reports
      exact after value
  | error fault =>
      have here : faults.head? = some fault := reports
      change (faults ++ others).head? = some fault
      rw [List.head?_append, here]
      rfl

theorem ok {result : Type} (value : result) :
    Reports (.ok value) [] :=
  rfl

end Reports

/-- What holds of all small bytes is checked one by one. -/
theorem small_byte
    (property : UInt8 → Prop) {limit : Nat}
    (each : ∀ number < limit, property (UInt8.ofNat number))
    {raw : UInt8} (bound : raw.toNat < limit) :
    property raw := by
  simpa using each raw.toNat bound

theorem Field.ofNibble_eq_empty_iff (field : Field)
    (wide : field.location.width = 4) (token : Token) :
    Mask.ofNibble (field.get token) = .empty ↔ field.get token = 0 := by
  have bound := field.get_lt token
  rw [wide] at bound
  exact small_byte (fun raw => Mask.ofNibble raw = .empty ↔ raw = 0)
    (by decide) bound

namespace Token

theorem ofCode?_eq_none_iff (token : Token) :
    (Coded.ofCode? (Field.mac.get token) : Option MacOp) = none ↔
      ¬ Field.mac.get token ≤ 13 :=
  small_byte
    (fun raw =>
      (Coded.ofCode? raw : Option MacOp) = none ↔ ¬ raw ≤ 13)
    (by decide) (Field.mac.get_lt token)

theorem ofLowBits_eq_nop_iff (token : Token) :
    IluOp.ofLowBits (Field.ilu.get token) = .nop ↔
      Field.ilu.get token = Coded.code IluOp.nop :=
  small_byte
    (fun raw =>
      IluOp.ofLowBits raw = .nop ↔ raw = Coded.code IluOp.nop)
    (by decide) (Field.ilu.get_lt token)

theorem ofNibble_eq_empty_iff (token : Token) :
    Mask.ofNibble (Field.outputMask.get token) = .empty ↔
      Field.outputMask.get token = 0 :=
  Field.outputMask.ofNibble_eq_empty_iff rfl token

theorem muxField_eq_zero_iff (token : Token) (slot : InputSlot) :
    token.read? slot = none ↔ slot.muxField.get token = 0 := by
  have bound := slot.muxField.get_lt token
  have width : slot.muxField.location.width = 2 := by cases slot <;> rfl
  rw [width] at bound
  have unused :
      (Coded.ofCode? (slot.muxField.get token) : Option RegisterFile) =
          none ↔
        slot.muxField.get token = 0 :=
    small_byte
      (fun raw =>
        (Coded.ofCode? raw : Option RegisterFile) = none ↔ raw = 0)
      (by decide) bound
  rw [← unused]
  exact Option.map_eq_none_iff

theorem outputAddress_low (token : Token) :
    Field.outputAddress.get token &&& 15 = UInt8.ofNat token.outputNibble := by
  refine UInt8.toNat_inj.mp ?_
  have low : token.outputNibble < 256 :=
    Nat.lt_trans (Nat.mod_lt _ (by decide)) (by decide)
  rw [UInt8.toNat_and, UInt8.toNat_ofNat_of_lt' low]
  exact Nat.and_two_pow_sub_one_eq_mod _ 4

theorem ofAddress?_eq_none_iff (token : Token) :
    OutputRegister.ofAddress? (UInt8.ofNat token.outputNibble) = none ↔
      ¬ token.OutputImplemented := by
  have each : ∀ nibble < 16,
      (OutputRegister.ofAddress? (UInt8.ofNat nibble) = none ↔
        ¬ (nibble = 0 ∨ 3 ≤ nibble ∧ nibble ≤ 12)) := by
    decide
  exact each token.outputNibble (Nat.mod_lt _ (by decide))

/-- A needed operand is refused for its selector alone. -/
theorem reports_readWhen
    (token : Token) (slot : InputSlot) {needed : Bool}
    (same : needed = true ↔ token.Reads slot) :
    Reports (token.readWhen needed slot) (token.operandDefects slot) := by
  unfold readWhen operandDefects
  simp only [← same]
  cases needed with
  | false => exact .ok _
  | true =>
      have unused := token.muxField_eq_zero_iff slot
      cases found : token.read? slot with
      | none => simp [Reports, unused.mp found]
      | some read =>
          have used : slot.muxField.get token ≠ 0 :=
            fun zero => by simp [unused.mpr zero] at found
          simp [Reports, used]

/-- A field of a single bit that is not zero is one. -/
theorem eq_one_iff_of_bit (field : Field) (token : Token)
    (bit : field.location.width = 1) :
    field.get token = 1 ↔ field.get token ≠ 0 := by
  have bound := field.get_lt token
  rw [bit] at bound
  exact small_byte (fun raw => raw = 1 ↔ raw ≠ 0) (by decide) bound

theorem active_outputUnit_iff
    {token : Token} {mac : MacOp}
    (known : Coded.code mac = Field.mac.get token) :
    token.outputUnit.active mac (.ofLowBits (Field.ilu.get token)) = true ↔
      token.Routes := by
  have idle := token.ofLowBits_eq_nop_iff
  have quiet :
      mac = .nop ↔ Field.mac.get token = Coded.code MacOp.nop := by
    rw [← known]
    cases mac <;> decide
  have unit := eq_one_iff_of_bit .outputUnit token rfl
  unfold outputUnit Routes
  split
  · rename_i zero
    simp [ExecutionUnit.active, zero, quiet]
  · rename_i one
    simp [ExecutionUnit.active, one, unit, idle]

/-- An output write is refused for its bank first, then for its register. -/
theorem reports_outputWrite
    {token : Token} {mac : MacOp}
    (known : Coded.code mac = Field.mac.get token) :
    Reports
      (token.outputWrite mac (.ofLowBits (Field.ilu.get token)))
      token.outputDefects := by
  have bank := eq_one_iff_of_bit .outputBank token rfl
  have implemented := token.ofAddress?_eq_none_iff
  have writes :
      (token.outputUnit.active mac (.ofLowBits (Field.ilu.get token)) &&
          Mask.ofNibble (Field.outputMask.get token) != .empty) = true ↔
        token.WritesOutput := by
    rw [Bool.and_eq_true, bne_iff_ne, active_outputUnit_iff known, ne_eq,
      token.ofNibble_eq_empty_iff, and_comm]
    rfl
  unfold outputWrite outputDefects
  simp only [writes, token.outputAddress_low]
  split
  · by_cases zero : Field.outputBank.get token = 0
    · simp [Reports, zero]
    · have one := bank.mpr zero
      cases found :
          OutputRegister.ofAddress? (UInt8.ofNat token.outputNibble) with
      | none => simp [Reports, one, implemented.mp found]
      | some register =>
          have here : token.OutputImplemented := by
            by_contra missing
            simp [implemented.mpr missing] at found
          simp [Reports, one, here]
  · exact .ok _

/-- The operations name the operands that are read. -/
theorem reads_iff
    {token : Token} {mac : MacOp}
    (known : Coded.code mac = Field.mac.get token) :
    (mac.readsA = true ↔ token.Reads .a) ∧
      (mac.readsB = true ↔ token.Reads .b) ∧
      ((mac.readsC || IluOp.ofLowBits (Field.ilu.get token) != .nop) = true ↔
        token.Reads .c) := by
  have idle := token.ofLowBits_eq_nop_iff
  rw [Bool.or_eq_true, bne_iff_ne, ne_eq, idle]
  unfold Reads
  simp only [← known]
  refine ⟨?_, ?_, or_congr ?_ Iff.rfl⟩
  all_goals cases mac <;> decide

/-- A token is refused for the first of its defects. -/
theorem reports_decode (token : Token) :
    Reports (Instruction.decode token) token.defects := by
  unfold Instruction.decode defects
  dsimp only
  cases found : (Coded.ofCode? (Field.mac.get token) : Option MacOp) with
  | none =>
      have outside := token.ofCode?_eq_none_iff.mp found
      simp [Reports, outside]
  | some mac =>
      have inside : Field.mac.get token ≤ 13 := by
        by_contra outside
        simp [token.ofCode?_eq_none_iff.mpr outside] at found
      have known := Coded.code_of_ofCode? found
      obtain ⟨readsA, readsB, readsC⟩ := reads_iff known
      have output := reports_outputWrite known
      rw [if_pos inside, List.nil_append]
      simp only [List.flatMap_cons, List.flatMap_nil, List.append_nil,
        List.append_assoc]
      refine (token.reports_readWhen .c readsC).bind fun c => ?_
      refine (token.reports_readWhen .a readsA).bind fun a => ?_
      refine (token.reports_readWhen .b readsB).bind fun b => ?_
      rw [← List.append_nil token.outputDefects]
      exact output.bind fun written => .ok _

theorem WellFormed.exists_decode {token : Token} (sound : token.WellFormed) :
    ∃ instruction, Instruction.decode token = .ok instruction := by
  have reports := token.reports_decode
  rw [token.wellFormed_iff.mp sound] at reports
  cases decoded : Instruction.decode token with
  | ok instruction => exact ⟨instruction, rfl⟩
  | error fault => simp [Reports, decoded] at reports

theorem decode_of_defect
    {token : Token} {fault : Fault}
    (first : token.defects.head? = some fault) :
    Instruction.decode token = .error fault := by
  have reports := token.reports_decode
  cases decoded : Instruction.decode token with
  | ok instruction => simp_all [Reports]
  | error other => simp_all [Reports]

end Token

/-! ## Programs -/

/-- The rules for a program. -/
structure Program.WellFormed (program : Program) : Prop where
  fits : program.tokens.length ≤ 136
  finished : ∃ token ∈ program.tokens, Field.final.get token = 1
  sound : ∀ token ∈ executed program.tokens, token.WellFormed

/-- An instruction that does not end a program. -/
def Token.Passes (token : Token) : Prop :=
  token.WellFormed ∧ Field.final.get token = 0

/-- The reason for which a program is refused. -/
inductive Program.Refused (program : Program) : ProgramError → Prop
  | tooLong (large : 136 < program.tokens.length) :
      Refused program (.tooLong program.tokens.length)
  | slot {before after : List Token} {token : Token} {fault : Fault}
      (fits : program.tokens.length ≤ 136)
      (parts : program.tokens = before ++ token :: after)
      (earlier : ∀ passed ∈ before, passed.Passes)
      (first : token.defects.head? = some fault) :
      Refused program (.slot before.length fault)
  | missingFinal
      (fits : program.tokens.length ≤ 136)
      (all : ∀ token ∈ program.tokens, token.Passes) :
      Refused program (.missingFinal program.tokens.length)

theorem ending_append
    {before : List Token} (passes : ∀ token ∈ before, token.Passes)
    (index : Nat) (rest : List Token) :
    (scan index (before ++ rest)).ending =
      (scan (index + before.length) rest).ending := by
  induction before generalizing index with
  | nil => rfl
  | cons token before ih =>
      obtain ⟨sound, more⟩ := passes token (by simp)
      obtain ⟨instruction, decoded⟩ := sound.exists_decode
      rw [List.cons_append, scan]
      simp only [decoded, more]
      rw [List.length_cons, Nat.add_comm before.length, ← Nat.add_assoc]
      exact ih (fun other member => passes other (by simp [member])) _

theorem executed_append
    {before : List Token} (passes : ∀ token ∈ before, token.Passes)
    (rest : List Token) :
    executed (before ++ rest) = before ++ executed rest := by
  induction before with
  | nil => rfl
  | cons token before ih =>
      obtain ⟨-, more⟩ := passes token (by simp)
      rw [List.cons_append, executed, if_pos more,
        ih fun other member => passes other (by simp [member])]
      rfl

/-- Tokens that are not carried out make no difference. -/
theorem scan_executed (index : Nat) (tokens : List Token) :
    scan index (executed tokens) = scan index tokens := by
  induction tokens generalizing index with
  | nil => rfl
  | cons token rest ih =>
      unfold executed
      split
      · unfold scan
        rw [ih]
      · rename_i last
        unfold scan
        simp [last]

/-- What stops a run: nothing, a token with a defect, or a final one. -/
theorem exists_passed (tokens : List Token) :
    ∃ before rest,
      tokens = before ++ rest ∧ (∀ token ∈ before, token.Passes) ∧
        (rest = [] ∨
          ∃ token after,
            rest = token :: after ∧
              (token.WellFormed → Field.final.get token = 1)) := by
  induction tokens with
  | nil => exact ⟨[], [], rfl, by simp, .inl rfl⟩
  | cons token rest ih =>
      by_cases passes : token.Passes
      · obtain ⟨before, others, parts, clean, stop⟩ := ih
        refine ⟨token :: before, others, by simp [parts], ?_, stop⟩
        intro other member
        rcases List.mem_cons.mp member with rfl | member
        · exact passes
        · exact clean other member
      · refine ⟨[], token :: rest, rfl, by simp, .inr ⟨token, rest, rfl, ?_⟩⟩
        intro sound
        exact (Token.eq_one_iff_of_bit .final token rfl).mpr
          fun zero => passes ⟨sound, zero⟩

namespace Program

theorem lines_of_fits
    {program : Program} (fits : program.tokens.length ≤ 136) :
    program.lines =
      match (Microcode.scan 0 program.tokens).ending with
      | .final =>
          .ok ((Microcode.scan 0 program.tokens).slots.flatMap Slot.lines ++
            epilogue program.zPerspective)
      | .exhausted => .error (.missingFinal program.tokens.length)
      | .fault index fault => .error (.slot index fault) := by
  have room : program.scan = some (Microcode.scan 0 program.tokens) :=
    if_pos fits
  cases ending : (Microcode.scan 0 program.tokens).ending <;>
    simp only [lines, room, ending]

theorem lines_of_refused
    {program : Program} {error : ProgramError}
    (refused : program.Refused error) :
    program.lines = .error error := by
  cases refused with
  | tooLong large =>
      have full : program.scan = none := if_neg (Nat.not_le.mpr large)
      simp only [lines, full]
  | slot fits parts earlier first =>
      rw [lines_of_fits fits, parts, ending_append earlier,
        Nat.zero_add]
      simp only [Microcode.scan, Token.decode_of_defect first]
  | missingFinal fits all =>
      have ending := ending_append all 0 []
      rw [List.append_nil] at ending
      rw [lines_of_fits fits, ending]
      rfl

theorem exists_lines_of_wellFormed
    {program : Program} (wellFormed : program.WellFormed) :
    ∃ lines, program.lines = .ok lines := by
  obtain ⟨before, rest, parts, passes, stop⟩ :=
    exists_passed program.tokens
  have sound := wellFormed.sound
  rw [parts, executed_append passes] at sound
  rcases stop with rfl | ⟨token, after, rfl, ends⟩
  · -- All tokens would have been passed over, the final one included.
    obtain ⟨token, member, final⟩ := wellFormed.finished
    rw [parts, List.append_nil] at member
    simp [(passes token member).2] at final
  · have here : token.WellFormed :=
      sound token (by unfold executed; split <;> simp)
    obtain ⟨instruction, decoded⟩ := here.exists_decode
    rw [lines_of_fits wellFormed.fits, parts, ending_append passes]
    simp [Microcode.scan, decoded, ends here]

theorem wellFormed_or_refused (program : Program) :
    program.WellFormed ∨ ∃ error, program.Refused error := by
  by_cases fits : program.tokens.length ≤ 136
  · obtain ⟨before, rest, parts, passes, stop⟩ :=
      exists_passed program.tokens
    rcases stop with rfl | ⟨token, after, rfl, ends⟩
    · rw [List.append_nil] at parts
      exact .inr ⟨_, .missingFinal fits (parts ▸ passes)⟩
    · by_cases sound : token.WellFormed
      · refine .inl ⟨fits, ⟨token, by simp [parts], ends sound⟩, ?_⟩
        rw [parts, executed_append passes, executed,
          if_neg (by simp [ends sound])]
        intro other member
        rcases List.mem_append.mp member with member | member
        · exact (passes other member).1
        · rw [List.mem_singleton.mp member]
          exact sound
      · obtain ⟨fault, first⟩ :
            ∃ fault, token.defects.head? = some fault := by
          cases faults : token.defects with
          | nil => exact absurd (token.wellFormed_iff.mpr faults) sound
          | cons fault others => exact ⟨fault, rfl⟩
        exact .inr ⟨_, .slot fits parts passes first⟩
  · exact .inr ⟨_, .tooLong (Nat.not_le.mp fits)⟩

theorem lines_of_executed
    {program other : Program} {lines : List Glsl.Line}
    (accepted : program.lines = .ok lines)
    (fits : program.tokens.length ≤ 136)
    (room : other.tokens.length ≤ 136)
    (perspective : other.zPerspective = program.zPerspective)
    (same : executed other.tokens = executed program.tokens) :
    other.lines = .ok lines := by
  have scanned :
      Microcode.scan 0 other.tokens = Microcode.scan 0 program.tokens := by
    rw [← scan_executed, same, scan_executed]
  rw [lines_of_fits fits] at accepted
  rw [lines_of_fits room, scanned, perspective]
  cases ending : (Microcode.scan 0 program.tokens).ending with
  | final => simpa [ending] using accepted
  | exhausted => simp [ending] at accepted
  | fault index fault => simp [ending] at accepted

theorem translate_of_lines
    {program : Program} {lines : List Glsl.Line}
    (accepted : program.lines = .ok lines) (draft : Draft) :
    program.translate draft =
      (.ok (),
        { header := draft.header ++ Glsl.itemsText declarations
          body := draft.body ++ Glsl.linesText lines }) := by
  simp only [translate, accepted]

theorem translate_of_refused
    {program : Program} {error : ProgramError}
    (refused : program.Refused error) (draft : Draft) :
    program.translate draft = (.error error, draft) := by
  simp only [translate, lines_of_refused refused]

/--
Translation succeeds for the well-formed programs and for no others.  It fails
with the reason for which the program is refused, and then the texts are as
they were.  Tokens behind the first final one have no influence on a success.
-/
theorem translate_exact (program : Program) (draft : Draft) :
    ((program.translate draft).1 = .ok () ↔ program.WellFormed) ∧
      (∀ error,
        (program.translate draft).1 = .error error ↔
          program.Refused error) ∧
      (∀ error,
        (program.translate draft).1 = .error error →
          (program.translate draft).2 = draft) ∧
      ((program.translate draft).1 = .ok () →
        ∀ other : Program,
          other.zPerspective = program.zPerspective →
          executed other.tokens = executed program.tokens →
          other.tokens.length ≤ 136 →
          other.translate draft = program.translate draft) := by
  rcases program.wellFormed_or_refused with wellFormed | ⟨error, refused⟩
  · obtain ⟨lines, accepted⟩ := exists_lines_of_wellFormed wellFormed
    have answer := translate_of_lines accepted draft
    refine ⟨by simp [answer, wellFormed], fun error => ?_, fun error => ?_,
      fun _ other perspective same room => ?_⟩
    · refine ⟨by simp [answer], fun refused => ?_⟩
      cases accepted.symm.trans (lines_of_refused refused)
    · simp [answer]
    · rw [answer]
      exact translate_of_lines
        (lines_of_executed accepted wellFormed.fits room perspective same)
        draft
  · have answer := translate_of_refused refused draft
    refine ⟨⟨by simp [answer], fun wellFormed => ?_⟩, fun other => ?_,
      by simp [answer], by simp [answer]⟩
    · obtain ⟨lines, accepted⟩ := exists_lines_of_wellFormed wellFormed
      cases accepted.symm.trans (lines_of_refused refused)
    · constructor
      · intro failed
        obtain rfl : error = other := by simpa [answer] using failed
        exact refused
      · intro refusedToo
        rw [translate_of_refused refusedToo]

/--
Three instructions.  The first one writes no output, as the unit it routes is
idle; the second one is final, and its unused operands have no register file;
the third one has no operation that the hardware knows.
-/
def lenient : Program where
  tokens :=
    [#v[0, 0, 0, 0x0000F000], #v[0, 0x00200000, 0x08000000, 0x0F000001],
      #v[0, 0x01E00000, 0, 0]]
  zPerspective := true

/--
The second instruction issues two operations that both lack the operand they
read, and routes a result to the constants.
-/
def strict : Program where
  tokens := [#v[0, 0, 0, 0x0000F000], #v[0, 0x02200000, 0, 0x0000F001]]
  zPerspective := true

/-- Only what takes effect is looked at, and operand C before the others. -/
theorem translate_exact_lenient :
    lenient.WellFormed ∧
      strict.Refused (.slot 1 (.operand .c)) ∧
      (strict.translate ⟨"H", "B"⟩).2 = ⟨"H", "B"⟩ := by
  have accepted : (lenient.translate ⟨"H", "B"⟩).1 = .ok () := by
    obtain ⟨lines, found⟩ : ∃ lines, lenient.lines = .ok lines := ⟨_, rfl⟩
    rw [translate_of_lines found]
  have refused :
      strict.translate ⟨"H", "B"⟩ =
        (.error (.slot 1 (.operand .c)), ⟨"H", "B"⟩) :=
    rfl
  have exact := translate_exact strict ⟨"H", "B"⟩
  exact ⟨(translate_exact lenient ⟨"H", "B"⟩).1.mp accepted,
    (exact.2.1 _).mp (by rw [refused]), exact.2.2.1 _ (by rw [refused])⟩

end Program

end ShaderSynth.Microcode

/-! ## Stages -/

namespace ShaderSynth.Glsl

theorem itemsText_append (first second : List Item) :
    itemsText (first ++ second) = itemsText first ++ itemsText second := by
  simp [itemsText]

theorem linesText_append (first second : List Line) :
    linesText (first ++ second) = linesText first ++ linesText second := by
  simp [linesText]

theorem itemsText_mainFunction (body : List Line) :
    itemsText [mainFunction body] =
      "void main()" ++ " \x7b\n" ++ linesText body ++ "\x7d\n" := by
  have signature :
      Function.signature ⟨.void, "main", [], .sameLine, body⟩ =
        "void main()" := by
    simp only [Function.signature, List.map_nil, String.intercalate_nil]
    rfl
  have single (item : Item) : itemsText [item] = item.text := by
    simp [itemsText]
  rw [single, ← signature]
  rfl

end ShaderSynth.Glsl

namespace ShaderSynth.Vertex

open Glsl

/--
A vertex stage that a program drives is made by translating the program into
the declarations and the unpacked attributes, and closing the main function.
-/
theorem text_source
    {state : VertexState} {program : Microcode.Program}
    (driven : state.program = .microcode program)
    (shading : Shading) (renamed : Bool) :
    (source state shading renamed).map itemsText =
      match program.translate
        { header := itemsText (sharedItems state shading renamed)
          body :=
            "void main()" ++ " \x7b\n" ++ linesText (unpackLines state) } with
      | (.ok (), draft) =>
          .ok (draft.header ++ draft.body ++
            linesText (fogLines state ++ outputLines shading) ++ "\x7d\n")
      | (.error error, _) => .error error := by
  simp only [source, programCode, driven]
  cases found : program.lines with
  | error error =>
      simp only [Microcode.Program.translate, found]
      rfl
  | ok lines =>
      simp only [Microcode.Program.translate, found, Except.map,
        itemsText_append, linesText_append, itemsText_mainFunction,
        String.append_assoc]

end ShaderSynth.Vertex
