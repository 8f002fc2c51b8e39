import ShaderSynth.Proofs.Microcode.Commit

/-!
# Operands that are the position

Register twelve is another name of the position, so an operand may read what
its own instruction writes to the outputs.  The machine reads all operands
before it writes anything.  The statements of an instruction read them once for
each destination, and the output write comes first.  The two agree, whatever
the operations compute, exactly if no operand that is read behind the output
write takes a component that the write has changed.
-/

namespace ShaderSynth.Microcode

variable {scalar : Type}

/-! ## Cycles of the machine -/

/--
Carries out an instruction in one cycle: both units read their operands, with
the position for register twelve, and then both results are committed.
-/
def Registers.cycle
    (meaning : Interpretation scalar) (token : Token)
    (registers : Registers scalar) :
    Option (Registers scalar) := do
  let mac : MacOp ← Coded.ofCode? (Field.mac.get token)
  let ilu := IluOp.ofLowBits (Field.ilu.get token)
  let macInputs ← mac.inputs.mapM (registers.readable.operand meaning token)
  let iluInputs ← ilu.inputs.mapM (registers.readable.operand meaning token)
  return registers.commit token (.ofMac meaning mac macInputs)
    (.ofIlu meaning ilu iluInputs)

/-! ## Operands behind the output write -/

/-- Whether a mask reaches the component of a selector. -/
def Mask.reaches (mask : Mask) (selector : UInt8) : Bool :=
  match (selector &&& 3).toNat with
  | 0 => mask.x
  | 1 => mask.y
  | 2 => mask.z
  | _ => mask.w

/-- A selection takes a component that a mask reaches. -/
def Swizzle.Takes (selection : Swizzle) (mask : Mask) : Prop :=
  ∃ selector ∈ selection.toList, mask.reaches selector = true

instance (selection : Swizzle) (mask : Mask) :
    Decidable (selection.Takes mask) :=
  inferInstanceAs (Decidable (∃ selector ∈ selection.toList, _))

namespace Instruction

/--
The operands that statements read behind the output write of a unit: those of
its other destination, and those of the scalar unit.
-/
def readsBehind (instruction : Instruction) : ExecutionUnit → List Read
  | .mac =>
      if instruction.mac = .arl then []
      else
        (if instruction.macTarget = .empty then []
          else instruction.macInputs)
          ++ if instruction.iluMask = .empty then []
            else instruction.iluInputs
  | .ilu => if instruction.iluMask = .empty then [] else instruction.iluInputs

/--
An operand behind the output write is register twelve, and takes a component of
the position that the write has changed.
-/
def RereadsPosition (instruction : Instruction) : Prop :=
  ∃ write ∈ instruction.output,
    write.register = .position ∧
      ∃ read ∈ instruction.readsBehind write.unit,
        read.source = .temporary 12 ∧ read.swizzle.Takes write.mask

instance (instruction : Instruction) :
    Decidable instruction.RereadsPosition :=
  inferInstanceAs (Decidable (∃ write ∈ instruction.output, _))

end Instruction

/-! ## Values that a write leaves -/

theorem Vec4.component_blend
    (result old : Vec4 scalar) (mask : Mask) (selector : UInt8) :
    (result.blend mask old).component selector =
      if mask.reaches selector then result.component selector
      else old.component selector := by
  unfold component Mask.reaches
  generalize (selector &&& 3).toNat = place
  match place with
  | 0 => rfl
  | 1 => rfl
  | 2 => rfl
  | _ + 3 => rfl

theorem Vec4.swizzle_blend
    (result old : Vec4 scalar) {mask : Mask} {selection : Swizzle}
    (apart : ¬ selection.Takes mask) :
    (result.blend mask old).swizzle selection = old.swizzle selection := by
  have outside (selector : UInt8) (member : selector ∈ selection.toList) :
      (result.blend mask old).component selector =
        old.component selector := by
    rw [component_blend, if_neg]
    intro reached
    exact apart ⟨selector, member, reached⟩
  simp only [swizzle, outside selection.x (by simp [Swizzle.toList]),
    outside selection.y (by simp [Swizzle.toList]),
    outside selection.z (by simp [Swizzle.toList]),
    outside selection.w (by simp [Swizzle.toList])]

/-- A write of the position is seen by the operands that take what it changed. -/
theorem Registers.value_readable_writeOutput
    (meaning : Interpretation scalar) (registers : Registers scalar)
    {register : OutputRegister} {mask : Mask} {read : Read}
    (result : Vec4 scalar)
    (unseen :
      register = .position → read.source = .temporary 12 →
        ¬ read.swizzle.Takes mask) :
    (registers.writeOutput register mask result).readable.value meaning read =
      registers.readable.value meaning read := by
  by_cases plain : read.Plain
  · rw [value_readable meaning _ plain, value_readable meaning _ plain,
      value_writeOutput]
  · have twelve : read.source = .temporary 12 := not_not.mp plain
    have read12 (found : Registers scalar) :
        found.readable.source (.temporary 12) = found.outputs .position :=
      Function.update_self (12 : UInt8) _ found.temporaries
    simp only [value, twelve, read12]
    by_cases position : register = .position
    · subst position
      have same := Vec4.swizzle_blend result (registers.outputs .position)
        (unseen rfl twelve)
      simp only [writeOutput, Function.update_self, same]
    · simp only [writeOutput, Function.update_of_ne (Ne.symm position)]

theorem Instruction.value_readable_route
    (meaning : Interpretation scalar) (registers : Registers scalar)
    {instruction : Instruction} {unit : ExecutionUnit} {read : Read}
    (result : Result scalar)
    (unseen :
      ∀ write ∈ instruction.output,
        write.unit = unit → write.register = .position →
          read.source = .temporary 12 → ¬ read.swizzle.Takes write.mask) :
    (instruction.route unit result registers).readable.value meaning read =
      registers.readable.value meaning read := by
  unfold route
  split
  · rename_i write value routed
    split
    · rename_i same
      refine registers.value_readable_writeOutput meaning _ ?_
      intro position twelve
      rw [position]
      exact unseen write routed same position twelve
    · rfl
  · rfl

/-! ## Operands read in time -/

namespace Instruction

theorem macResult_congr
    {meaning : Interpretation scalar} {instruction : Instruction}
    {first second : Registers scalar}
    (same :
      ∀ read ∈ instruction.macInputs,
        first.value meaning read = second.value meaning read) :
    instruction.macResult meaning first =
      instruction.macResult meaning second := by
  unfold macResult
  rw [List.map_congr_left same]

theorem iluResult_congr
    {meaning : Interpretation scalar} {instruction : Instruction}
    {first second : Registers scalar}
    (same :
      ∀ read ∈ instruction.iluInputs,
        first.value meaning read = second.value meaning read) :
    instruction.iluResult meaning first =
      instruction.iluResult meaning second := by
  unfold iluResult
  rw [List.map_congr_left same]

namespace Decodes

variable {meaning : Interpretation scalar} {token : Token}
  {instruction : Instruction}

theorem cycle_eq
    (decodes : instruction.Decodes token) (registers : Registers scalar) :
    registers.cycle meaning token =
      some (registers.commit token
        (instruction.macResult meaning registers.readable)
        (instruction.iluResult meaning registers.readable)) := by
  unfold Registers.cycle
  simp only [decodes.mac, decodes.ilu, Option.bind_eq_bind,
    Option.bind_some,
    mapM_operand meaning registers.readable decodes.macInputs,
    mapM_operand meaning registers.readable decodes.iluInputs]
  rfl

/-- The vector that the multiply-accumulate unit leaves in its register. -/
theorem commitMac_vector
    {ilu : Result scalar}
    (decodes : instruction.Decodes token)
    (busy : instruction.mac ≠ .nop)
    (active : ilu.active = (instruction.ilu != .nop))
    (registers : Registers scalar) (value : Vec4 scalar) :
    registers.commitMac token (.vector value) ilu =
      registers.writeTemporary instruction.register instruction.macTarget
        value := by
  by_cases idle : instruction.ilu = .nop
  · have single : instruction.paired = false := by
      simp [Instruction.paired, idle]
    simp [Registers.commitMac, active, idle, Instruction.macTarget, single,
      decodes.register, decodes.macMask]
  · refine decodes.commitMac_paired ?_ ?_ registers value
    · simp [Instruction.paired, busy, idle]
    · simp [active, idle]

/-- The vector that the scalar unit leaves in its register. -/
theorem commitIlu_vector
    {mac : Result scalar}
    (decodes : instruction.Decodes token)
    (busy : instruction.ilu ≠ .nop)
    (active : mac.active = (instruction.mac != .nop))
    (registers : Registers scalar) (value : Vec4 scalar) :
    registers.commitIlu token mac (.vector value) =
      registers.writeTemporary instruction.iluRegister instruction.iluMask
        value := by
  simp [Registers.commitIlu, Instruction.iluRegister, Instruction.paired,
    active, busy, decodes.register, decodes.iluMask]

theorem commitMac_congr
    {ilu other : Result scalar} {first second : Registers scalar}
    (decodes : instruction.Decodes token)
    (active : ilu.active = (instruction.ilu != .nop))
    (otherActive : other.active = (instruction.ilu != .nop))
    (same :
      instruction.mac = .arl ∨ instruction.macTarget ≠ .empty →
        instruction.macResult meaning first =
          instruction.macResult meaning second)
    (registers : Registers scalar) :
    registers.commitMac token (instruction.macResult meaning first) ilu =
      registers.commitMac token (instruction.macResult meaning second)
        other := by
  by_cases quiet : instruction.mac = .nop
  · simp only [macResult_nop quiet, Registers.commitMac]
  by_cases load : instruction.mac = .arl
  · obtain ⟨read, only⟩ := decodes.macInputs_arl load
    rw [same (.inl load), macResult_arl load only]
    rfl
  · have result (found : Registers scalar) :
        instruction.macResult meaning found = .vector _ :=
      ofMac_vector meaning _ quiet load
    by_cases nothing : instruction.macTarget = .empty
    · rw [result, result, decodes.commitMac_vector quiet active,
        decodes.commitMac_vector quiet otherActive, nothing,
        Registers.writeTemporary_empty, Registers.writeTemporary_empty]
    · rw [same (.inr nothing), result,
        decodes.commitMac_vector quiet active,
        decodes.commitMac_vector quiet otherActive]

theorem commitIlu_congr
    {mac other : Result scalar} {first second : Registers scalar}
    (decodes : instruction.Decodes token)
    (active : mac.active = (instruction.mac != .nop))
    (otherActive : other.active = (instruction.mac != .nop))
    (same :
      instruction.iluMask ≠ .empty →
        instruction.iluResult meaning first =
          instruction.iluResult meaning second)
    (registers : Registers scalar) :
    registers.commitIlu token mac (instruction.iluResult meaning first) =
      registers.commitIlu token other
        (instruction.iluResult meaning second) := by
  by_cases idle : instruction.ilu = .nop
  · simp only [iluResult_nop idle, Registers.commitIlu]
  · have result (found : Registers scalar) :
        instruction.iluResult meaning found = .vector _ :=
      ofIlu_vector meaning _ idle
    by_cases nothing : instruction.iluMask = .empty
    · rw [result, result, decodes.commitIlu_vector idle active,
        decodes.commitIlu_vector idle otherActive, nothing,
        Registers.writeTemporary_empty, Registers.writeTemporary_empty]
    · rw [same nothing, result, decodes.commitIlu_vector idle active,
        decodes.commitIlu_vector idle otherActive]

end Decodes

theorem route_of_output_ne
    {instruction : Instruction} {write : OutputWrite} {unit : ExecutionUnit}
    (routed : instruction.output = some write) (apart : write.unit ≠ unit)
    (result : Result scalar) (registers : Registers scalar) :
    instruction.route unit result registers = registers := by
  unfold route
  rw [routed]
  cases result <;> simp [apart]

/-- Only one of the units writes an output. -/
theorem route_ilu_of_route_mac
    (instruction : Instruction) (mac : Result scalar)
    (result : Registers scalar → Result scalar)
    (registers : Registers scalar) :
    instruction.route .ilu (result (instruction.route .mac mac registers))
        (instruction.route .mac mac registers) =
      instruction.route .ilu (result registers)
        (instruction.route .mac mac registers) := by
  cases routed : instruction.output with
  | none => simp only [route, routed]
  | some write =>
      cases unit : write.unit with
      | mac =>
          have apart : write.unit ≠ .ilu := by simp [unit]
          rw [route_of_output_ne routed apart,
            route_of_output_ne routed apart]
      | ilu =>
          have apart : write.unit ≠ .mac := by simp [unit]
          rw [route_of_output_ne routed apart]

/-- Operands that nothing has changed give the results of a single cycle. -/
theorem Decodes.sequential_eq_commit
    {token : Token} {instruction : Instruction}
    (meaning : Interpretation scalar)
    (decodes : instruction.Decodes token)
    (intime : ¬ instruction.RereadsPosition)
    (registers : Registers scalar) :
    instruction.sequential meaning token registers =
      registers.commit token
        (instruction.macResult meaning registers.readable)
        (instruction.iluResult meaning registers.readable) := by
  have steady {unit : ExecutionUnit} {read : Read}
      (behind : read ∈ instruction.readsBehind unit)
      (result : Result scalar) (found : Registers scalar) :
      (instruction.route unit result found).readable.value meaning read =
        found.readable.value meaning read := by
    refine value_readable_route meaning found result ?_
    intro write member same position twelve takes
    subst same
    exact intime ⟨write, member, position, read, behind, twelve, takes⟩
  let mac := instruction.macResult meaning registers.readable
  let ilu := instruction.iluResult meaning registers.readable
  let routed := instruction.route .mac mac registers
  let both := instruction.route .ilu ilu routed
  have unrouted (load : instruction.mac = .arl) : routed = registers := by
    obtain ⟨read, only⟩ := decodes.macInputs_arl load
    have address : mac = .address _ := macResult_arl load only _
    simp only [routed, address, route_address]
  have macSame :
      instruction.mac = .arl ∨ instruction.macTarget ≠ .empty →
        instruction.macResult meaning routed.readable = mac := by
    intro needed
    by_cases load : instruction.mac = .arl
    · rw [unrouted load]
    · refine macResult_congr fun read member => steady ?_ mac registers
      simp [readsBehind, load, needed.resolve_left load, member]
  have iluSame :
      instruction.iluMask ≠ .empty →
        instruction.iluResult meaning both.readable = ilu := by
    intro needed
    refine iluResult_congr fun read member => ?_
    have second : both.readable.value meaning read =
        routed.readable.value meaning read :=
      steady (by simp [readsBehind, needed, member]) ilu routed
    rw [second]
    by_cases load : instruction.mac = .arl
    · rw [unrouted load]
    · refine steady ?_ mac registers
      simp [readsBehind, load, needed, member]
  have active := instruction.active_macResult meaning
  have iluActive := instruction.active_iluResult meaning
  calc
    instruction.sequential meaning token registers
        = (both.commitIlu token
            (instruction.macResult meaning routed.readable)
            (instruction.iluResult meaning both.readable)).commitMac token
              (instruction.macResult meaning routed.readable)
              (instruction.iluResult meaning both.readable) := by
      unfold sequential
      dsimp only
      rw [instruction.route_ilu_of_route_mac mac
        (fun found => instruction.iluResult meaning found.readable)]
    _ = (both.commitIlu token mac ilu).commitMac token mac ilu := by
      rw [decodes.commitIlu_congr (active _) (active _) iluSame,
        decodes.commitMac_congr (iluActive _) (iluActive _) macSame]
    _ = registers.commit token mac ilu := by
      unfold Registers.commit
      rw [decodes.commitOutput_eq (active _) (iluActive _)]

end Instruction

/-!
## Operands read too late

Counting tells a late operand from one that was read in time.  From registers
that are all zero, the results of a single cycle are ones.  An operand that is
read again behind the output write contributes a one of its own.
-/

/-- A vector with the same number in all places. -/
def Vec4.all (value : scalar) : Vec4 scalar :=
  ⟨value, value, value, value⟩

/-- The sum of the components. -/
def Vec4.total (vector : Vec4 Nat) : Nat :=
  vector.x + vector.y + vector.z + vector.w

/-- The sum of the components of several vectors. -/
def Vec4.totalOf : List (Vec4 Nat) → Nat
  | [] => 0
  | vector :: rest => vector.total + totalOf rest

/-- The operations count: one more than all components of their operands. -/
def tally : Interpretation Nat where
  negate value := value
  compute _ inputs := .all (1 + Vec4.totalOf inputs)
  address _ := 0

/-- Variables that nothing has been assigned to. -/
def untouched : Environment Nat where
  vectors _ := .all 0
  integers _ := 0
  arrays _ _ := .all 0

@[simp]
theorem Vec4.component_all (value : scalar) (selector : UInt8) :
    (Vec4.all value).component selector = value := by
  unfold component
  split <;> rfl

theorem Mask.exists_reaches :
    ∀ {mask : Mask}, mask ≠ .empty →
      ∃ selector, mask.reaches selector = true
  | ⟨true, _, _, _⟩, _ => ⟨0, rfl⟩
  | ⟨_, true, _, _⟩, _ => ⟨1, rfl⟩
  | ⟨_, _, true, _⟩, _ => ⟨2, rfl⟩
  | ⟨_, _, _, true⟩, _ => ⟨3, rfl⟩
  | ⟨false, false, false, false⟩, reached => absurd rfl reached

/-- No component is more than one. -/
def Vec4.AtMostOne (vector : Vec4 Nat) : Prop :=
  ∀ selector, vector.component selector ≤ 1

theorem Vec4.AtMostOne.blend
    {result old : Vec4 Nat} (small : result.AtMostOne)
    (before : old.AtMostOne) (mask : Mask) :
    (result.blend mask old).AtMostOne := by
  intro selector
  rw [component_blend]
  split
  · exact small selector
  · exact before selector

theorem Vec4.not_atMostOne_blend
    {value : Nat} {mask : Mask} (large : 2 ≤ value) (reached : mask ≠ .empty)
    (old : Vec4 Nat) :
    ¬ ((Vec4.all value).blend mask old).AtMostOne := by
  intro small
  obtain ⟨selector, here⟩ := Mask.exists_reaches reached
  have bound := small selector
  rw [component_blend, if_pos here, component_all] at bound
  omega

namespace Registers

/-- No temporary register and no output holds more than one. -/
structure AtMostOne (registers : Registers Nat) : Prop where
  temporaries : ∀ number, (registers.temporaries number).AtMostOne
  outputs : ∀ register, (registers.outputs register).AtMostOne

theorem AtMostOne.writeOutput
    {registers : Registers Nat} {result : Vec4 Nat}
    (small : registers.AtMostOne) (bound : result.AtMostOne)
    (register : OutputRegister) (mask : Mask) :
    (registers.writeOutput register mask result).AtMostOne := by
  refine ⟨small.temporaries, fun other => ?_⟩
  by_cases same : other = register
  · subst same
    simp only [Registers.writeOutput, Function.update_self]
    exact bound.blend (small.outputs other) mask
  · simp only [Registers.writeOutput, Function.update_of_ne same]
    exact small.outputs other

theorem AtMostOne.writeTemporary
    {registers : Registers Nat} {result : Vec4 Nat}
    (small : registers.AtMostOne) (bound : result.AtMostOne)
    (number : UInt8) (mask : Mask) :
    (registers.writeTemporary number mask result).AtMostOne := by
  unfold Registers.writeTemporary
  split
  · exact small.writeOutput bound .position mask
  · refine ⟨fun other => ?_, small.outputs⟩
    by_cases same : other = number
    · subst same
      simp only [Function.update_self]
      exact bound.blend (small.temporaries other) mask
    · simp only [Function.update_of_ne same]
      exact small.temporaries other

theorem not_atMostOne_writeTemporary
    {value : Nat} {mask : Mask} (large : 2 ≤ value) (reached : mask ≠ .empty)
    (registers : Registers Nat) (number : UInt8) :
    ¬ (registers.writeTemporary number mask (.all value)).AtMostOne := by
  intro small
  unfold writeTemporary at small
  split at small
  · have held := small.outputs .position
    simp only [writeOutput, Function.update_self] at held
    exact Vec4.not_atMostOne_blend large reached _ held
  · have held := small.temporaries number
    simp only [Function.update_self] at held
    exact Vec4.not_atMostOne_blend large reached _ held

end Registers

/-- A result is no vector with more than ones. -/
def Result.AtMostOne (result : Result Nat) : Prop :=
  ∀ value, result = .vector value → value.AtMostOne

namespace Instruction

variable {token : Token} {instruction : Instruction}

theorem route_atMostOne
    (instruction : Instruction)
    {registers : Registers Nat} {result : Result Nat}
    (small : registers.AtMostOne) (bound : result.AtMostOne)
    (unit : ExecutionUnit) :
    (instruction.route unit result registers).AtMostOne := by
  unfold route
  split
  · split
    · exact small.writeOutput (bound _ rfl) _ _
    · exact small
  · exact small

theorem Decodes.commit_atMostOne
    {registers : Registers Nat} {mac ilu : Result Nat}
    (decodes : instruction.Decodes token)
    (macActive : mac.active = (instruction.mac != .nop))
    (iluActive : ilu.active = (instruction.ilu != .nop))
    (small : registers.AtMostOne)
    (macBound : mac.AtMostOne) (iluBound : ilu.AtMostOne) :
    (registers.commit token mac ilu).AtMostOne := by
  unfold Registers.commit
  rw [decodes.commitOutput_eq macActive iluActive]
  have routed :=
    instruction.route_atMostOne
      (instruction.route_atMostOne small macBound .mac) iluBound .ilu
  have scalarDone :
      (Registers.commitIlu token mac ilu
        (instruction.route .ilu ilu
          (instruction.route .mac mac registers))).AtMostOne := by
    unfold Registers.commitIlu
    dsimp only
    split
    · exact routed.writeTemporary (iluBound _ rfl) _ _
    · exact routed
  unfold Registers.commitMac
  dsimp only
  split
  · exact scalarDone
  · exact ⟨scalarDone.temporaries, scalarDone.outputs⟩
  · split
    · exact scalarDone
    · exact scalarDone.writeTemporary (macBound _ rfl) _ _

end Instruction

theorem value_untouched (read : Read) :
    untouched.view.readable.value tally read = .all 0 := by
  have held : untouched.view.readable.source read.source = .all 0 := by
    by_cases twelve : read.source = .temporary 12
    · rw [twelve]
      rfl
    · rw [untouched.view.source_readable twelve]
      cases read.source <;> rfl
  unfold Registers.value
  dsimp only
  rw [held]
  simp only [Vec4.swizzle, Vec4.component_all]
  split <;> rfl

namespace Instruction

theorem macResult_tally
    {instruction : Instruction} (busy : instruction.mac ≠ .nop)
    (other : instruction.mac ≠ .arl) (found : Registers Nat) :
    instruction.macResult tally found =
      .vector (.all (1 +
        Vec4.totalOf (instruction.macInputs.map (found.value tally)))) := by
  unfold macResult
  rw [ofMac_vector tally _ busy other]
  rfl

theorem iluResult_tally
    {instruction : Instruction} (busy : instruction.ilu ≠ .nop)
    (found : Registers Nat) :
    instruction.iluResult tally found =
      .vector (.all (1 +
        Vec4.totalOf (instruction.iluInputs.map (found.value tally)))) := by
  unfold iluResult
  rw [ofIlu_vector tally _ busy]
  rfl

theorem totalOf_untouched (inputs : List Read) :
    Vec4.totalOf (inputs.map (untouched.view.readable.value tally)) = 0 := by
  induction inputs with
  | nil => rfl
  | cons read rest ih =>
      rw [List.map_cons, Vec4.totalOf, ih, value_untouched]
      rfl

theorem Decodes.macResult_untouched
    {token : Token} {instruction : Instruction}
    (decodes : instruction.Decodes token) :
    (instruction.macResult tally untouched.view.readable).AtMostOne := by
  intro value result
  by_cases quiet : instruction.mac = .nop
  · simp [macResult_nop quiet] at result
  by_cases load : instruction.mac = .arl
  · obtain ⟨read, only⟩ := decodes.macInputs_arl load
    simp [macResult_arl load only] at result
  · rw [macResult_tally quiet load, totalOf_untouched] at result
    cases result
    intro selector
    simp

theorem iluResult_untouched (instruction : Instruction) :
    (instruction.iluResult tally untouched.view.readable).AtMostOne := by
  intro value result
  by_cases idle : instruction.ilu = .nop
  · simp [iluResult_nop idle] at result
  · rw [iluResult_tally idle, totalOf_untouched] at result
    cases result
    intro selector
    simp

/-- An operand that takes a changed component of the position counts. -/
theorem one_le_total
    {registers : Registers Nat} {mask : Mask} {read : Read}
    {old : Vec4 Nat}
    (written : registers.outputs .position = (Vec4.all 1).blend mask old)
    (twelve : read.source = .temporary 12)
    (takes : read.swizzle.Takes mask) :
    1 ≤ (registers.readable.value tally read).total := by
  obtain ⟨selector, member, reached⟩ := takes
  have held :
      registers.readable.source read.source =
        (Vec4.all 1).blend mask old := by
    rw [twelve, ← written]
    exact Function.update_self (12 : UInt8) _ registers.temporaries
  have one :
      (registers.readable.source read.source).component selector = 1 := by
    rw [held, Vec4.component_blend, if_pos reached, Vec4.component_all]
  have selected :
      1 ≤ ((registers.readable.source read.source).swizzle
        read.swizzle).total := by
    simp only [Swizzle.toList, List.mem_cons, List.not_mem_nil,
      or_false] at member
    unfold Vec4.total Vec4.swizzle
    rcases member with rfl | rfl | rfl | rfl <;> dsimp only <;> omega
  unfold Registers.value
  dsimp only
  split <;> exact selected

theorem two_le_count
    {inputs : List Read} {registers : Registers Nat} {read : Read}
    (member : read ∈ inputs)
    (counts : 1 ≤ (registers.value tally read).total) :
    2 ≤ 1 + Vec4.totalOf (inputs.map (registers.value tally)) := by
  induction inputs with
  | nil => cases member
  | cons first rest ih =>
      rw [List.map_cons, Vec4.totalOf]
      rcases List.mem_cons.mp member with rfl | later
      · omega
      · have counted := ih later
        omega

namespace Decodes

variable {token : Token} {instruction : Instruction}

theorem active_of_output
    {write : OutputWrite}
    (decodes : instruction.Decodes token)
    (routed : instruction.output = some write) :
    write.unit.active instruction.mac instruction.ilu = true := by
  have found := decodes.output
  rw [routed, Token.outputWrite] at found
  split at found
  · rename_i active
    split at found
    · cases found
    · split at found
      · cases found
        exact (Bool.and_eq_true_iff.mp active).1
      · cases found
  · cases found

theorem ilu_of_mem
    {read : Read}
    (decodes : instruction.Decodes token)
    (member : read ∈ instruction.iluInputs) :
    instruction.ilu ≠ .nop := by
  intro idle
  have found := decodes.iluInputs
  rw [idle] at found
  have none : instruction.iluInputs = [] := (Option.some.inj found).symm
  simp [none] at member

/-- The copy of a staged result leaves the scalar result alone. -/
theorem temporaries_commitMac
    (decodes : instruction.Decodes token)
    (paired : instruction.paired = true)
    {ilu : Result scalar} (active : ilu.active = (instruction.ilu != .nop))
    {meaning : Interpretation scalar} (found registers : Registers scalar) :
    (registers.commitMac token (instruction.macResult meaning found)
        ilu).temporaries 1 =
      registers.temporaries 1 := by
  have busy : instruction.mac ≠ .nop := by
    rintro quiet
    simp [Instruction.paired, quiet] at paired
  by_cases load : instruction.mac = .arl
  · obtain ⟨read, only⟩ := decodes.macInputs_arl load
    rw [macResult_arl load only]
    rfl
  · have result : instruction.macResult meaning found = .vector _ :=
      ofMac_vector meaning _ busy load
    rw [result, decodes.commitMac_vector busy active]
    by_cases one : instruction.register = 1
    · have nothing : instruction.macTarget = .empty := by
        simp [macTarget, paired, one]
      rw [nothing, Registers.writeTemporary_empty]
    · unfold Registers.writeTemporary
      split
      · rfl
      · exact Function.update_of_ne (Ne.symm one) _ _

/-- A scalar result of a late operand stays. -/
theorem not_atMostOne_commitIlu
    {registers : Registers Nat} {mask : Mask} {old : Vec4 Nat} {read : Read}
    (decodes : instruction.Decodes token)
    (written : registers.outputs .position = (Vec4.all 1).blend mask old)
    (reached : instruction.iluMask ≠ .empty)
    (member : read ∈ instruction.iluInputs)
    (twelve : read.source = .temporary 12)
    (takes : read.swizzle.Takes mask) (found : Registers Nat) :
    let mac := instruction.macResult tally found
    let ilu := instruction.iluResult tally registers.readable
    ¬ ((registers.commitIlu token mac ilu).commitMac token mac
        ilu).AtMostOne := by
  intro mac ilu small
  have busy := decodes.ilu_of_mem member
  have macActive := instruction.active_macResult tally found
  have iluActive := instruction.active_iluResult tally registers.readable
  have large := two_le_count member (one_le_total written twelve takes)
  have result : ilu = .vector (.all _) := iluResult_tally busy _
  by_cases quiet : instruction.mac = .nop
  · have nothing : mac = .nothing := macResult_nop quiet _
    rw [result, decodes.commitIlu_vector busy macActive, nothing] at small
    exact Registers.not_atMostOne_writeTemporary large reached _ _ small
  · have paired : instruction.paired = true := by
      simp [Instruction.paired, quiet, busy]
    have one : instruction.iluRegister = 1 := by
      simp [iluRegister, paired]
    have held := small.temporaries 1
    rw [decodes.temporaries_commitMac paired iluActive, result,
      decodes.commitIlu_vector busy macActive, one] at held
    rw [Registers.writeTemporary, if_neg (by decide)] at held
    simp only [Function.update_self] at held
    exact Vec4.not_atMostOne_blend large reached _ held

/-- An operand that is read too late shows in the registers. -/
theorem not_atMostOne_sequential
    (decodes : instruction.Decodes token)
    (late : instruction.RereadsPosition) :
    ¬ (instruction.sequential tally token untouched.view).AtMostOne := by
  obtain ⟨⟨unit, register, mask⟩, routed, position, read, behind, twelve,
    takes⟩ := late
  obtain rfl : register = .position := position
  have routed : instruction.output = some ⟨unit, .position, mask⟩ := routed
  have written (result : Vec4 Nat) (found : Registers Nat) :
      (instruction.route unit (.vector result) found).outputs .position =
        result.blend mask (found.outputs .position) := by
    unfold route
    rw [routed]
    simp [Registers.writeOutput, OutputRegister.writtenMask]
  unfold sequential
  dsimp only
  cases unit with
  | ilu =>
      obtain ⟨reached, member⟩ :
          instruction.iluMask ≠ .empty ∧ read ∈ instruction.iluInputs := by
        simpa [readsBehind] using behind
      rw [route_of_output_ne routed (by simp),
        iluResult_tally (decodes.ilu_of_mem member) untouched.view.readable,
        totalOf_untouched]
      exact decodes.not_atMostOne_commitIlu (written _ _) reached member
        twelve takes _
  | mac =>
      have busy : instruction.mac ≠ .nop :=
        bne_iff_ne.mp (decodes.active_of_output routed)
      have other : instruction.mac ≠ .arl := by
        intro load
        simp [readsBehind, load] at behind
      have alone (result : Result Nat) (found : Registers Nat) :
          instruction.route .ilu result found = found :=
        route_of_output_ne routed (by simp) result found
      rw [macResult_tally busy other untouched.view.readable, totalOf_untouched,
        alone]
      have behind :
          (instruction.macTarget ≠ .empty ∧
              read ∈ instruction.macInputs) ∨
            instruction.iluMask ≠ .empty ∧
              read ∈ instruction.iluInputs := by
        simpa [readsBehind, other] using behind
      rcases behind with ⟨reached, member⟩ | ⟨reached, member⟩
      · have large :=
          two_le_count member
            (one_le_total (written (.all 1) untouched.view) twelve takes)
        rw [macResult_tally busy other,
          decodes.commitMac_vector busy
            (instruction.active_iluResult tally _)]
        exact Registers.not_atMostOne_writeTemporary large reached _ _
      · exact decodes.not_atMostOne_commitIlu (written _ _) reached member
          twelve takes _

end Decodes

/--
The statements of an instruction leave the registers that a cycle of the
machine leaves, whatever the operations compute and the registers hold, exactly
if they do not read components of the position that they have changed.
-/
theorem statements_run_as_cycle_iff
    {token : Token} {instruction : Instruction}
    (decoded : Instruction.decode token = .ok instruction) :
    (∀ (scalar : Type) (meaning : Interpretation scalar)
        (environment : Environment scalar),
      ∃ later,
        environment.runLines meaning (emitted instruction.statements) =
            some later ∧
          environment.view.cycle meaning token = some later.view) ↔
      ¬ instruction.RereadsPosition := by
  have decodes := decodes_of_decode decoded
  constructor
  · -- Counting from zeros, a cycle leaves at most ones, a late read does not.
    intro agrees late
    obtain ⟨later, ran, same⟩ := agrees Nat tally untouched
    obtain ⟨after, leads, reached⟩ :=
      decodes.leads_sequential tally untouched.observe
    obtain ⟨found, runs, rfl⟩ := leads untouched rfl
    obtain rfl : later = found := Option.some.inj (ran.symm.trans runs)
    have zero : (Vec4.all 0).AtMostOne := by
      intro selector
      simp
    have small : untouched.view.AtMostOne :=
      ⟨fun number => zero, fun register => zero⟩
    have committed :=
      decodes.commit_atMostOne
        (instruction.active_macResult tally untouched.view.readable)
        (instruction.active_iluResult tally untouched.view.readable)
        small decodes.macResult_untouched instruction.iluResult_untouched
    rw [decodes.cycle_eq] at same
    rw [Option.some.inj same] at committed
    exact decodes.not_atMostOne_sequential late (reached ▸ committed)
  · intro intime scalar meaning environment
    obtain ⟨after, leads, reached⟩ :=
      decodes.leads_sequential meaning environment.observe
    obtain ⟨later, runs, rfl⟩ := leads environment rfl
    refine ⟨later, runs, ?_⟩
    rw [decodes.cycle_eq,
      ← decodes.sequential_eq_commit meaning intime environment.view]
    exact congrArg some reached.symm

/-- A move from the position to itself and to a register. -/
def moves (selection : Swizzle) (mask : Mask) : Instruction where
  mac := .mov
  macInputs := [⟨false, .temporary 12, selection⟩]
  macMask := ⟨true, true, true, true⟩
  ilu := .nop
  iluInputs := []
  iluMask := .empty
  register := 0
  output := some ⟨.mac, .position, mask⟩

/-- Moves the last component of the position to the others and to a register. -/
def spread : Token :=
  #v[0, 0x002000FF, 0xC4000000, 0x0F00E801]

/-- Moves the position backwards to itself and to a register. -/
def mirrored : Token :=
  #v[0, 0x002000E4, 0xC4000000, 0x0F00F801]

/-- A position with four different components. -/
def positioned : Environment Int where
  vectors name := if name = "oPos" then ⟨1, 2, 3, 4⟩ else ⟨0, 0, 0, 0⟩
  integers _ := 0
  arrays _ _ := ⟨0, 0, 0, 0⟩

/-- A component that is not written can be read twice. -/
theorem statements_run_as_cycle_iff_spread :
    ∃ instruction later,
      Instruction.decode spread = .ok instruction ∧
        positioned.runLines wholeNumbers (emitted instruction.statements) =
          some later ∧
        later.view.temporaries 0 = ⟨4, 4, 4, 4⟩ ∧
        later.view.outputs .position = ⟨4, 4, 4, 4⟩ := by
  have decoded :
      Instruction.decode spread =
        .ok (moves ⟨3, 3, 3, 3⟩ ⟨true, true, true, false⟩) :=
    rfl
  obtain ⟨later, ran, same⟩ :=
    (statements_run_as_cycle_iff decoded).mpr (by decide) Int wholeNumbers
      positioned
  have left :
      (positioned.view.cycle wholeNumbers spread).map
          (fun after => (after.temporaries 0, after.outputs .position)) =
        some (⟨4, 4, 4, 4⟩, ⟨4, 4, 4, 4⟩) := by
    decide +kernel
  rw [same] at left
  obtain ⟨register, position⟩ :
      later.view.temporaries 0 = ⟨4, 4, 4, 4⟩ ∧
        later.view.outputs .position = ⟨4, 4, 4, 4⟩ := by
    simpa using left
  exact ⟨_, later, decoded, ran, register, position⟩

/--
The register receives the position as it was, because its statement mirrors
what the output write has mirrored already.  The machine leaves it mirrored.
-/
theorem mirrored_read_late :
    ∃ instruction later machine,
      Instruction.decode mirrored = .ok instruction ∧
        positioned.runLines wholeNumbers (emitted instruction.statements) =
          some later ∧
        positioned.view.cycle wholeNumbers mirrored = some machine ∧
        later.view.temporaries 0 = ⟨1, 2, 3, 4⟩ ∧
        machine.temporaries 0 = ⟨4, 3, 2, 1⟩ := by
  have decoded :
      Instruction.decode mirrored =
        .ok (moves ⟨3, 2, 1, 0⟩ ⟨true, true, true, true⟩) :=
    rfl
  have decodes := decodes_of_decode decoded
  obtain ⟨after, leads, reached⟩ :=
    decodes.leads_sequential wholeNumbers positioned.observe
  obtain ⟨later, runs, rfl⟩ := leads positioned rfl
  refine ⟨_, later, _, decoded, runs, decodes.cycle_eq _, ?_, ?_⟩
  · have same : later.view = _ := reached
    rw [same]
    decide +kernel
  · decide +kernel

end Instruction

end ShaderSynth.Microcode
