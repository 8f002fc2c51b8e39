import Mathlib.Algebra.Group.Nat.Defs
import Mathlib.Data.List.Pairwise
import ShaderSynth.Microcode.Operand

/-!
# Independent bit fields

The fields of a token lie one after the other, so writing one of them is not
seen in any other.  A write is described by the bits it leaves in a token, and
what reading and writing do to each other follows from that description and
from the order of the fields.

An operand is written as a list of writes to different fields.  It is read
back up to the bits that its fields have no room for, and writing what was
read changes nothing.
-/

namespace ShaderSynth.Microcode

/-! ## Bits of tokens -/

/-- A bit of a word of a token. -/
def Token.bit (token : Token) (word : Fin 4) (index : Nat) : Bool :=
  (token.get word).toBitVec.getLsbD index

theorem Token.eq_of_bit {first second : Token}
    (same : ∀ word index, first.bit word index = second.bit word index) :
    first = second := by
  refine Vector.ext fun word inside => ?_
  exact UInt32.eq_of_toBitVec_eq
    (BitVec.eq_of_getLsbD_eq fun index _ => same ⟨word, inside⟩ index)

namespace Field

/-- A field lies in a word that is used, and in the used part of it. -/
structure Location.Fits (location : Location) : Prop where
  used : location.word ≠ 0
  narrow : location.width ≤ 8
  inside : location.shift + location.width ≤ 32
  low : location.word = 1 → location.shift + location.width ≤ 28

theorem location_fits (field : Field) : field.location.Fits := by
  cases field <;> exact ⟨by decide, by decide, by decide, by decide⟩

/-- A field is made of certain bits of a token. -/
def Holds (field : Field) (word : Fin 4) (index : Nat) : Prop :=
  word = field.location.word ∧ field.location.shift ≤ index ∧
    index < field.location.shift + field.location.width

instance (field : Field) (word : Fin 4) (index : Nat) :
    Decidable (field.Holds word index) :=
  inferInstanceAs (Decidable (_ ∧ _))

theorem holds_of_lt {field : Field} {index : Nat}
    (inside : index < field.location.width) :
    field.Holds field.location.word (field.location.shift + index) :=
  ⟨rfl, Nat.le_add_right _ _, Nat.add_lt_add_left inside _⟩

/-! ## Reading and writing, bit by bit -/

theorem toNat_shift (field : Field) :
    (field.shift.toBitVec % 32).toNat = field.location.shift := by
  cases field <;> rfl

theorem getLsbD_mask (field : Field) (index : Nat) :
    field.mask.toBitVec.getLsbD index =
      decide (index < field.location.width) := by
  have narrow := field.location_fits.narrow
  rw [mask, Nat.one_shiftLeft, UInt32.toBitVec_ofNat', BitVec.getLsbD_ofNat,
    Nat.testBit_two_pow_sub_one]
  by_cases inside : index < field.location.width
  · have short : index < 32 := by omega
    simp [inside, short]
  · simp [inside]

theorem getLsbD_get (field : Field) (token : Token) (index : Nat) :
    (field.get token).toBitVec.getLsbD index =
      (decide (index < field.location.width) &&
        token.bit field.location.word (field.location.shift + index)) := by
  have narrow := field.location_fits.narrow
  rw [get, UInt32.toBitVec_toUInt8, BitVec.getLsbD_setWidth,
    UInt32.toBitVec_and, BitVec.getLsbD_and, getLsbD_mask,
    UInt32.toBitVec_shiftRight, BitVec.ushiftRight_eq', toNat_shift,
    BitVec.getLsbD_ushiftRight]
  by_cases inside : index < field.location.width
  · have short : index < 8 := by omega
    simp only [inside, short, decide_true, Bool.and_true, Bool.true_and]
    rfl
  · simp [inside]

/-- A bit of the window that a field is cut out with. -/
theorem getLsbD_window (field : Field) (index : Nat) :
    (field.mask <<< field.shift).toBitVec.getLsbD index =
      decide (field.Holds field.location.word index) := by
  have inside := field.location_fits.inside
  rw [UInt32.toBitVec_shiftLeft, BitVec.shiftLeft_eq', toNat_shift,
    BitVec.getLsbD_shiftLeft, getLsbD_mask, Bool.eq_iff_iff]
  simp only [Holds, Bool.and_eq_true, Bool.not_eq_true', decide_eq_true_eq,
    decide_eq_false_iff_not, true_and]
  omega

theorem word_set
    (field : Field) (value : UInt8) (token : Token) (word : Fin 4) :
    (field.set value token).get word =
      if word = field.location.word then
        (token.get word &&& ~~~(field.mask <<< field.shift)) |||
          ((value.toUInt32 <<< field.shift) &&& (field.mask <<< field.shift))
      else token.get word := by
  have places : field.location.word.val = word.val ↔
      word = field.location.word := by
    rw [eq_comm, Fin.ext_iff]
  show (field.set value token)[word.val] = _
  rw [set, Vector.getElem_set]
  by_cases here : word = field.location.word
  · rw [if_pos (places.mpr here), if_pos here, here]
    rfl
  · rw [if_neg (mt places.mp here), if_neg here]
    rfl

/-- A write leaves the bits of its value in the field and all others alone. -/
theorem bit_set
    (field : Field) (value : UInt8) (token : Token) (word : Fin 4)
    (index : Nat) :
    (field.set value token).bit word index =
      if field.Holds word index then
        value.toBitVec.getLsbD (index - field.location.shift)
      else token.bit word index := by
  have inside := field.location_fits.inside
  unfold Token.bit
  rw [word_set]
  by_cases here : word = field.location.word
  · subst here
    rw [if_pos rfl, UInt32.toBitVec_or, BitVec.getLsbD_or,
      UInt32.toBitVec_and, BitVec.getLsbD_and, UInt32.toBitVec_not,
      BitVec.getLsbD_not, UInt32.toBitVec_and, BitVec.getLsbD_and,
      getLsbD_window, UInt32.toBitVec_shiftLeft, BitVec.shiftLeft_eq',
      toNat_shift, BitVec.getLsbD_shiftLeft, UInt8.toBitVec_toUInt32,
      BitVec.getLsbD_setWidth]
    -- In the window only the value shows, and beside it only the old word.
    by_cases held : field.Holds field.location.word index
    · obtain ⟨-, above, below⟩ := held
      have short : index < 32 := by omega
      have low : index - field.location.shift < 32 := by omega
      have high : ¬ index < field.location.shift := by omega
      simp [Holds, above, below, short, low, high]
    · simp only [held, decide_false, Bool.not_false, Bool.and_true,
        Bool.and_false, Bool.or_false, if_false]
      by_cases short : index < 32
      · simp [short]
      · simp [short, BitVec.getLsbD_of_ge _ _ (Nat.le_of_not_lt short)]
  · have away : ¬ field.Holds word index := fun held => here held.1
    rw [if_neg here, if_neg away]

/-! ## The order of the fields -/

/-- A location lies before another one, counted from the high bits. -/
def Location.Before (first second : Location) : Prop :=
  first.word < second.word ∨
    first.word = second.word ∧ second.shift + second.width ≤ first.shift

instance (first second : Location) : Decidable (first.Before second) :=
  inferInstanceAs (Decidable (_ ∨ _))

theorem Location.Before.trans {first second third : Location}
    (left : first.Before second) (right : second.Before third) :
    first.Before third := by
  unfold Location.Before at *
  omega

instance : Trans Location.Before Location.Before Location.Before :=
  ⟨Location.Before.trans⟩

/-- Each field begins where the one before it ends, or later. -/
theorem all_ordered : (all.map location).Pairwise Location.Before := by
  -- The order is transitive, so it is enough to compare neighbours.
  refine List.isChain_iff_pairwise.mp ?_
  decide

theorem mem_all (field : Field) : field ∈ all := by
  cases field <;> decide

/-- Two fields have no bit in common. -/
def Apart (field other : Field) : Prop :=
  ∀ word index, field.Holds word index → ¬ other.Holds word index

instance : Std.Symm Apart :=
  ⟨fun _ _ apart word index held other => apart word index other held⟩

theorem apart_of_before {field other : Field}
    (before : field.location.Before other.location) : field.Apart other := by
  rintro word index ⟨rfl, above, -⟩ ⟨same, -, below⟩
  rcases before with earlier | ⟨-, lower⟩
  · exact Fin.ne_of_lt earlier same
  · omega

theorem apart_of_ne {field other : Field} (distinct : field ≠ other) :
    field.Apart other :=
  ((List.pairwise_map.mp all_ordered).imp apart_of_before).forall
    (mem_all field) (mem_all other) distinct

/-! ## Reading what was written -/

/-- A field is read back up to the bits that it has no room for. -/
theorem toNat_get_set (field : Field) (value : UInt8) (token : Token) :
    (field.get (field.set value token)).toNat =
      value.toNat % 2 ^ field.location.width := by
  refine Nat.eq_of_testBit_eq fun index => ?_
  rw [Nat.testBit_mod_two_pow]
  show (field.get _).toBitVec.getLsbD index =
    (_ && value.toBitVec.getLsbD index)
  rw [getLsbD_get, bit_set]
  by_cases inside : index < field.location.width
  · rw [if_pos (holds_of_lt inside), Nat.add_sub_cancel_left]
  · simp [inside]

/-- Writing a field is not seen in another one. -/
theorem get_set_of_ne {field other : Field} (distinct : field ≠ other)
    (value : UInt8) (token : Token) :
    other.get (field.set value token) = other.get token := by
  refine UInt8.eq_of_toBitVec_eq (BitVec.eq_of_getLsbD_eq fun index _ => ?_)
  rw [getLsbD_get, getLsbD_get, bit_set]
  by_cases inside : index < other.location.width
  · rw [if_neg (apart_of_ne distinct.symm _ _ (holds_of_lt inside))]
  · simp [inside]

/-- Writing the bits that a field has changes nothing. -/
theorem set_of_get {field : Field} {value : UInt8} {token : Token}
    (same : field.get token = value) : field.set value token = token := by
  subst same
  refine Token.eq_of_bit fun word index => ?_
  rw [bit_set]
  split
  · rename_i held
    obtain ⟨rfl, above, below⟩ := held
    have inside :
        index - field.location.shift < field.location.width := by omega
    rw [getLsbD_get, Nat.add_sub_cancel' above]
    simp [inside]
  · rfl

/-- A field holds no more than its bits. -/
theorem get_lt (field : Field) (token : Token) :
    (field.get token).toNat < 1 <<< field.location.width := by
  have same := field.toNat_get_set (field.get token) token
  rw [set_of_get rfl] at same
  rw [same, Nat.one_shiftLeft]
  exact Nat.mod_lt _ (Nat.two_pow_pos _)

/-- No write reaches the first word. -/
theorem set_word_zero (field : Field) (value : UInt8) (token : Token) :
    (field.set value token).get 0 = token.get 0 := by
  rw [word_set, if_neg field.location_fits.used.symm]

/-- No write reaches the four high bits of the second word. -/
theorem set_word_one_high (field : Field) (value : UInt8) (token : Token) :
    (field.set value token).get 1 >>> 28 = token.get 1 >>> 28 := by
  refine UInt32.eq_of_toBitVec_eq (BitVec.eq_of_getLsbD_eq fun index _ => ?_)
  have shifted (word : UInt32) :
      (word >>> 28).toBitVec.getLsbD index =
        word.toBitVec.getLsbD (28 + index) :=
    BitVec.getLsbD_ushiftRight _ _ _
  have free : ¬ field.Holds 1 (28 + index) := by
    rintro ⟨here, -, below⟩
    have low := field.location_fits.low here.symm
    omega
  rw [shifted, shifted]
  exact (bit_set field value token 1 (28 + index)).trans (if_neg free)

end Field

/-! ## Several writes -/

namespace Token

/-- Writes fields one after the other. -/
def setAll : List (Field × UInt8) → Token → Token
  | [], token => token
  | (field, value) :: rest, token => setAll rest (field.set value token)

theorem get_setAll_of_not_mem {field : Field} {writes : List (Field × UInt8)}
    (unwritten : field ∉ writes.map Prod.fst) (token : Token) :
    field.get (setAll writes token) = field.get token := by
  induction writes generalizing token with
  | nil => rfl
  | cons write rest ih =>
      rw [List.map_cons, List.mem_cons, not_or] at unwritten
      rw [setAll, ih unwritten.2,
        Field.get_set_of_ne (Ne.symm unwritten.1)]

/-- Among writes to different fields, each one is read back. -/
theorem toNat_get_setAll {field : Field} {value : UInt8}
    {writes : List (Field × UInt8)} (distinct : (writes.map Prod.fst).Nodup)
    (listed : (field, value) ∈ writes) (token : Token) :
    (field.get (setAll writes token)).toNat =
      value.toNat % 2 ^ field.location.width := by
  induction writes generalizing token with
  | nil => cases listed
  | cons write rest ih =>
      rw [List.map_cons, List.nodup_cons] at distinct
      rcases List.mem_cons.mp listed with rfl | listed
      · rw [setAll, get_setAll_of_not_mem distinct.1, Field.toNat_get_set]
      · exact ih distinct.2 listed _

/-- Writing what the fields hold changes nothing. -/
theorem setAll_of_get {writes : List (Field × UInt8)} {token : Token}
    (same : ∀ write ∈ writes, write.1.get token = write.2) :
    setAll writes token = token := by
  induction writes with
  | nil => rfl
  | cons write rest ih =>
      rw [List.forall_mem_cons] at same
      rw [setAll, Field.set_of_get same.1]
      exact ih same.2

end Token

/-! ## Operands -/

/--
The operand that a field is part of.  The opcodes, the constant and the input
that the operands share, and the routing of results are part of none.
-/
def Field.slot? : Field → Option InputSlot
  | aNegate | aSelectX | aSelectY | aSelectZ | aSelectW | aRegister | aMux =>
      some .a
  | bNegate | bSelectX | bSelectY | bSelectZ | bSelectW | bRegister | bMux =>
      some .b
  | cNegate | cSelectX | cSelectY | cSelectZ | cSelectW | cRegisterHigh
  | cRegisterLow | cMux =>
      some .c
  | ilu | mac | constant | input | macMask | register | iluMask | outputMask
  | outputBank | outputAddress | outputUnit | relative | final =>
      none

namespace InputSlot

/-- The fields that an operand is written to, in this order. -/
def fields : InputSlot → List Field
  | a =>
      [.aRegister, .aMux, .aNegate,
        .aSelectX, .aSelectY, .aSelectZ, .aSelectW]
  | b =>
      [.bRegister, .bMux, .bNegate,
        .bSelectX, .bSelectY, .bSelectZ, .bSelectW]
  | c =>
      [.cRegisterHigh, .cRegisterLow, .cMux, .cNegate,
        .cSelectX, .cSelectY, .cSelectZ, .cSelectW]

theorem nodup_fields (slot : InputSlot) : slot.fields.Nodup := by
  cases slot <;> decide

theorem mem_fields_iff (slot : InputSlot) (field : Field) :
    field ∈ slot.fields ↔ field.slot? = some slot := by
  cases slot <;> cases field <;> decide

/-- The writes of a register number. -/
def registerWrites (number : UInt8) : InputSlot → List (Field × UInt8)
  | a => [(.aRegister, number)]
  | b => [(.bRegister, number)]
  | c => [(.cRegisterHigh, number >>> 2), (.cRegisterLow, number &&& 3)]

/-- A number in two parts of two bits. -/
theorem toNat_join {high low : UInt8} (highBound : high.toNat < 4)
    (lowBound : low.toNat < 4) :
    ((high <<< 2) ||| low).toNat = 4 * high.toNat + low.toNat := by
  have shifted : (high <<< 2).toNat = high.toNat <<< 2 := by
    rw [UInt8.toNat_shiftLeft]
    show high.toNat <<< 2 % 256 = _
    rw [Nat.shiftLeft_eq]
    omega
  rw [UInt8.toNat_or, shifted, ← Nat.shiftLeft_add_eq_or_of_lt lowBound,
    Nat.shiftLeft_eq]
  omega

theorem toNat_high (number : UInt8) :
    (number >>> 2).toNat = number.toNat / 4 := by
  rw [UInt8.toNat_shiftRight]
  exact Nat.shiftRight_eq_div_pow _ 2

theorem toNat_low (number : UInt8) :
    (number &&& 3).toNat = number.toNat % 4 := by
  rw [UInt8.toNat_and]
  exact Nat.and_two_pow_sub_one_eq_mod _ 2

/-- The fields of a register number hold what is written for it. -/
theorem get_of_mem_registerWrites (slot : InputSlot) (token : Token) :
    ∀ write ∈ slot.registerWrites (slot.getRegister token),
      write.1.get token = write.2 := by
  cases slot with
  | a => exact List.forall_mem_singleton.mpr rfl
  | b => exact List.forall_mem_singleton.mpr rfl
  | c =>
      have lowBound : (Field.cRegisterLow.get token).toNat < 4 :=
        Field.cRegisterLow.get_lt token
      have joined : (getRegister token .c).toNat =
          4 * (Field.cRegisterHigh.get token).toNat +
            (Field.cRegisterLow.get token).toNat :=
        toNat_join (Field.cRegisterHigh.get_lt token) lowBound
      have high : Field.cRegisterHigh.get token =
          getRegister token .c >>> 2 := by
        refine UInt8.toNat_inj.mp ?_
        rw [toNat_high, joined]
        omega
      have low : Field.cRegisterLow.get token = getRegister token .c &&& 3 := by
        refine UInt8.toNat_inj.mp ?_
        rw [toNat_low, joined]
        omega
      exact List.forall_mem_cons.mpr
        ⟨high, List.forall_mem_singleton.mpr low⟩

end InputSlot

namespace Operand

/-- The part of an operand that its fields have room for. -/
def fitted (operand : Operand) : Operand :=
  { mux := operand.mux % 4
    register := operand.register % 16
    negate := operand.negate
    swizzle :=
      ⟨operand.swizzle.x % 4, operand.swizzle.y % 4,
        operand.swizzle.z % 4, operand.swizzle.w % 4⟩ }

/-- The writes of an operand. -/
def writes (operand : Operand) (slot : InputSlot) : List (Field × UInt8) :=
  let (x, y, z, w) := slot.selectFields
  slot.registerWrites operand.register ++
    [(slot.muxField, operand.mux),
      (slot.negateField, operand.negate.toUInt8),
      (x, operand.swizzle.x), (y, operand.swizzle.y),
      (z, operand.swizzle.z), (w, operand.swizzle.w)]

theorem encode_eq_setAll
    (operand : Operand) (token : Token) (slot : InputSlot) :
    operand.encode token slot = token.setAll (operand.writes slot) := by
  cases slot <;> rfl

theorem map_fst_writes (operand : Operand) (slot : InputSlot) :
    (operand.writes slot).map Prod.fst = slot.fields := by
  cases slot <;> rfl

/-- Fields that are not of the operand keep their values. -/
theorem get_encode_of_ne {slot : InputSlot} {field : Field}
    (foreign : field.slot? ≠ some slot) (operand : Operand) (token : Token) :
    field.get (operand.encode token slot) = field.get token := by
  rw [encode_eq_setAll]
  refine Token.get_setAll_of_not_mem ?_ token
  rw [map_fst_writes, slot.mem_fields_iff]
  exact foreign

/-- Fields of the operand hold what was written, up to their size. -/
theorem get_encode {operand : Operand} {slot : InputSlot} {field : Field}
    {value : UInt8} (listed : (field, value) ∈ operand.writes slot)
    (token : Token) {size : UInt8}
    (room : size.toNat = 2 ^ field.location.width) :
    field.get (operand.encode token slot) = value % size := by
  have distinct : ((operand.writes slot).map Prod.fst).Nodup := by
    rw [map_fst_writes]
    exact slot.nodup_fields
  refine UInt8.toNat_inj.mp ?_
  rw [encode_eq_setAll, Token.toNat_get_setAll distinct listed,
    UInt8.toNat_mod, room]

/-- An operand is read off its own fields. -/
theorem decode_congr {slot : InputSlot} {first second : Token}
    (same : ∀ field ∈ slot.fields, field.get first = field.get second) :
    decode first slot = decode second slot := by
  cases slot with
  | a | b =>
      simp only [InputSlot.fields, List.forall_mem_cons] at same
      obtain ⟨register, mux, negate, x, y, z, w, -⟩ := same
      simp only [decode, InputSlot.getRegister, InputSlot.muxField,
        InputSlot.negateField, InputSlot.selectFields, register, mux, negate,
        x, y, z, w]
  | c =>
      simp only [InputSlot.fields, List.forall_mem_cons] at same
      obtain ⟨high, low, mux, negate, x, y, z, w, -⟩ := same
      simp only [decode, InputSlot.getRegister, InputSlot.muxField,
        InputSlot.negateField, InputSlot.selectFields, high, low, mux, negate,
        x, y, z, w]

theorem getRegister_encode
    (operand : Operand) (token : Token) (slot : InputSlot) :
    slot.getRegister (operand.encode token slot) =
      operand.register % 16 := by
  cases slot with
  | a => exact get_encode (List.mem_cons_self ..) token rfl
  | b => exact get_encode (List.mem_cons_self ..) token rfl
  | c =>
      -- Each half is cut to its two bits, so the number is cut to four.
      have high : Field.cRegisterHigh.get (operand.encode token .c) =
          (operand.register >>> 2) % 4 :=
        get_encode (List.mem_cons_self ..) token rfl
      have low : Field.cRegisterLow.get (operand.encode token .c) =
          (operand.register &&& 3) % 4 :=
        get_encode (List.mem_cons_of_mem _ (List.mem_cons_self ..)) token rfl
      have joined := InputSlot.toNat_join
        (Field.cRegisterHigh.get_lt (operand.encode token .c))
        (Field.cRegisterLow.get_lt (operand.encode token .c))
      refine UInt8.toNat_inj.mp ?_
      rw [InputSlot.getRegister, joined, high, low, UInt8.toNat_mod,
        UInt8.toNat_mod, UInt8.toNat_mod, InputSlot.toNat_high,
        InputSlot.toNat_low]
      show 4 * (operand.register.toNat / 4 % 4) +
        operand.register.toNat % 4 % 4 = operand.register.toNat % 16
      omega

/-- An operand is read back up to the bits that its fields have no room for. -/
theorem decode_encode (operand : Operand) (token : Token) (slot : InputSlot) :
    decode (operand.encode token slot) slot = operand.fitted := by
  have pair {field : Field} {value : UInt8}
      (listed : (field, value) ∈ operand.writes slot)
      (width : field.location.width = 2) :
      field.get (operand.encode token slot) = value % 4 :=
    get_encode listed token (by rw [width]; rfl)
  have mux : slot.muxField.get (operand.encode token slot) =
      operand.mux % 4 :=
    pair (by simp [writes]) (by cases slot <;> rfl)
  have negate : (slot.negateField.get (operand.encode token slot) != 0) =
      operand.negate := by
    have written : slot.negateField.get (operand.encode token slot) =
        operand.negate.toUInt8 % 2 :=
      get_encode (by simp [writes]) token (by cases slot <;> rfl)
    rw [written]
    cases operand.negate <;> rfl
  have x : slot.selectFields.1.get (operand.encode token slot) =
      operand.swizzle.x % 4 :=
    pair (by simp [writes]) (by cases slot <;> rfl)
  have y : slot.selectFields.2.1.get (operand.encode token slot) =
      operand.swizzle.y % 4 :=
    pair (by simp [writes]) (by cases slot <;> rfl)
  have z : slot.selectFields.2.2.1.get (operand.encode token slot) =
      operand.swizzle.z % 4 :=
    pair (by simp [writes]) (by cases slot <;> rfl)
  have w : slot.selectFields.2.2.2.get (operand.encode token slot) =
      operand.swizzle.w % 4 :=
    pair (by simp [writes]) (by cases slot <;> rfl)
  simp only [decode, getRegister_encode, mux, negate, x, y, z, w]
  rfl

/-- Writing an operand back changes nothing. -/
theorem encode_decode (token : Token) (slot : InputSlot) :
    (decode token slot).encode token slot = token := by
  have sign : slot.negateField.get token =
      (slot.negateField.get token != 0).toUInt8 := by
    have bound : (slot.negateField.get token).toNat < 2 := by
      cases slot <;> exact Field.get_lt _ token
    generalize slot.negateField.get token = value at bound
    have cases : value = 0 ∨ value = 1 := by
      rw [← UInt8.toNat_inj, ← UInt8.toNat_inj]
      show value.toNat = 0 ∨ value.toNat = 1
      omega
    rcases cases with rfl | rfl <;> rfl
  rw [encode_eq_setAll]
  refine Token.setAll_of_get ?_
  refine List.forall_mem_append.mpr
    ⟨slot.get_of_mem_registerWrites token, ?_⟩
  simp only [List.forall_mem_cons]
  exact ⟨rfl, sign, rfl, rfl, rfl, rfl, List.forall_mem_nil _⟩

/-- Writing one operand is not seen in another. -/
theorem decode_encode_of_ne {slot other : InputSlot} (distinct : slot ≠ other)
    (operand : Operand) (token : Token) :
    decode (operand.encode token slot) other = decode token other := by
  refine decode_congr fun field listed => ?_
  have owned := (other.mem_fields_iff field).mp listed
  refine get_encode_of_ne (fun same => distinct ?_) operand token
  exact Option.some.inj (same.symm.trans owned)

end Operand

/--
Fields do not touch each other, and no write touches the unused bits.  Hence an
operand is read back up to the bits that its fields have no room for, writing
what was read changes nothing, and an operand is written without changing
another operand or a field that belongs to none.
-/
theorem Token.fields_independent (token : Token) :
    (∀ (field : Field) (value : UInt8),
      (field.get (field.set value token)).toNat =
          value.toNat % 2 ^ field.location.width ∧
        (∀ other : Field, other ≠ field →
          other.get (field.set value token) = other.get token) ∧
        field.set (field.get token) token = token ∧
        (field.set value token).get 0 = token.get 0 ∧
        (field.set value token).get 1 >>> 28 = token.get 1 >>> 28) ∧
      ∀ (slot : InputSlot) (operand : Operand),
        Operand.decode (operand.encode token slot) slot = operand.fitted ∧
          (Operand.decode token slot).encode token slot = token ∧
          (∀ other : InputSlot, other ≠ slot →
            Operand.decode (operand.encode token slot) other =
              Operand.decode token other) ∧
          ∀ field : Field, field.slot? ≠ some slot →
            field.get (operand.encode token slot) = field.get token := by
  refine ⟨fun field value => ⟨?_, ?_, ?_, ?_, ?_⟩,
    fun slot operand => ⟨?_, ?_, ?_, ?_⟩⟩
  · exact field.toNat_get_set value token
  · exact fun other distinct =>
      Field.get_set_of_ne distinct.symm value token
  · exact Field.set_of_get rfl
  · exact field.set_word_zero value token
  · exact field.set_word_one_high value token
  · exact operand.decode_encode token slot
  · exact Operand.encode_decode token slot
  · exact fun other distinct =>
      Operand.decode_encode_of_ne distinct.symm operand token
  · exact fun field foreign => Operand.get_encode_of_ne foreign operand token

theorem Token.fields_independent_filled :
    let token : Token := Vector.replicate 4 0xFFFFFFFF
    let operand : Operand := ⟨5, 22, false, ⟨4, 1, 6, 3⟩⟩
    (Field.cRegisterLow ≠ .cRegisterHigh ∧
        Field.cRegisterLow.get (Field.cRegisterHigh.set 4 token) =
          Field.cRegisterLow.get token) ∧
      Operand.decode (operand.encode token .c) .c =
        ⟨1, 6, false, ⟨0, 1, 2, 3⟩⟩ ∧
      (InputSlot.b ≠ .c ∧
        Operand.decode (operand.encode token .c) .b =
          Operand.decode token .b) ∧
      (Field.final.slot? ≠ some .c ∧
        Field.final.get (operand.encode token .c) =
          Field.final.get token) := by
  intro token operand
  have independent := Token.fields_independent token
  obtain ⟨written, -, others, shared⟩ := independent.2 .c operand
  refine ⟨⟨by decide, ?_⟩, written.trans (by decide), ⟨by decide, ?_⟩,
    by decide, ?_⟩
  · exact (independent.1 .cRegisterHigh 4).2.1 .cRegisterLow (by decide)
  · exact others .b (by decide)
  · exact shared .final (by decide)

end ShaderSynth.Microcode
