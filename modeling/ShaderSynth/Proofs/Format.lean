import ShaderSynth.Format
import ShaderSynth.Proofs.Fallible

/-!
# Exact formats

A format is exact for the values that satisfy a condition if reading takes
what was written for such a value off the front, and if nothing else is ever
read: whatever is read satisfies the condition, and its written form is what
was taken off.  Each way of building formats keeps exactness.

Formats of a fixed width write the same number of bytes for every value.  For
them it is enough to know that a whole byte string is the same to know that
all of its parts are.
-/

namespace ShaderSynth.Format

variable {error value first second source target : Type}

/-- Reading accepts just the written forms of the valid values. -/
structure Exact
    (format : Format error value) (valid : value → Prop) : Prop where
  /-- The written form of a valid value is read, and nothing behind it. -/
  read_write :
    ∀ (item : value), valid item → ∀ (offset : Nat) (rest : List UInt8),
      format.read ⟨offset, format.write item ++ rest⟩ =
        .ok (item, ⟨offset + (format.write item).length, rest⟩)
  /-- What is read is valid, and was there in its written form. -/
  write_of_read :
    ∀ {offset : Nat} {bytes : List UInt8} {item : value} {next : Cursor},
      format.read ⟨offset, bytes⟩ = .ok (item, next) →
        valid item ∧ bytes = format.write item ++ next.rest ∧
          next.offset = offset + (format.write item).length

/-- Every value is written with the same number of bytes. -/
def Width (format : Format error value) (width : Nat) : Prop :=
  ∀ item, (format.write item).length = width

theorem Exact.congr
    {format : Format error value} {valid accepted : value → Prop}
    (exact : format.Exact valid)
    (same : ∀ item, valid item ↔ accepted item) :
    format.Exact accepted where
  read_write := fun item acceptable =>
    exact.read_write item ((same item).mpr acceptable)
  write_of_read := fun done =>
    let ⟨valid, written, moved⟩ := exact.write_of_read done
    ⟨(same _).mp valid, written, moved⟩

/--
No written form of a valid value is the beginning of another one: whatever
comes behind them, both values and what is behind them are the same.
-/
theorem Exact.eq_of_append_eq
    {format : Format error value} {valid : value → Prop}
    (exact : format.Exact valid)
    {left right : value} {leftRest rightRest : List UInt8}
    (leftValid : valid left) (rightValid : valid right)
    (equal :
      format.write left ++ leftRest = format.write right ++ rightRest) :
    left = right ∧ leftRest = rightRest := by
  have leftRead := exact.read_write left leftValid 0 leftRest
  have rightRead := exact.read_write right rightValid 0 rightRest
  rw [equal, rightRead] at leftRead
  injection leftRead with pairs
  obtain ⟨same, cursors⟩ := Prod.mk.inj pairs
  exact ⟨same.symm, (Cursor.mk.inj cursors).2.symm⟩

/-- Values with the same written form are the same, if they are valid. -/
theorem Exact.eq_of_write_eq
    {format : Format error value} {valid : value → Prop}
    (exact : format.Exact valid)
    {left right : value}
    (leftValid : valid left) (rightValid : valid right)
    (equal : format.write left = format.write right) :
    left = right :=
  (exact.eq_of_append_eq leftValid rightValid
    (congrArg (· ++ []) equal)).1

theorem Exact.write_injective
    {format : Format error value}
    (exact : format.Exact fun _ => True) :
    Function.Injective format.write := by
  intro left right equal
  exact exact.eq_of_write_eq trivial trivial equal

/-- Reading a whole byte string accepts just the written forms. -/
theorem Exact.readAll_eq_ok_iff
    {format : Format error value} {valid : value → Prop}
    (exact : format.Exact valid)
    {leftOver : Nat → error} {bytes : List UInt8} {item : value} :
    format.readAll leftOver bytes = .ok item ↔
      bytes = format.write item ∧ valid item := by
  constructor
  · intro done
    obtain ⟨⟨found, next⟩, read, ended⟩ := bind_eq_ok_iff.mp done
    obtain ⟨valid, written, -⟩ := exact.write_of_read read
    by_cases empty : next.rest.isEmpty
    · simp only [empty, if_true, pure, Except.pure, Except.ok.injEq] at ended
      subst ended
      have nothing : next.rest = [] := List.isEmpty_iff.mp empty
      rw [nothing, List.append_nil] at written
      exact ⟨written, valid⟩
    · simp [empty] at ended
  · rintro ⟨rfl, valid⟩
    have read := exact.read_write item valid 0 []
    rw [List.append_nil] at read
    simp [readAll, read, bind, Except.bind, pure, Except.pure]

/-! ## Numbers -/

theorem uint8_exact (ended : Nat → error) :
    (uint8 ended).Exact fun _ => True where
  read_write := fun _ _ _ _ => rfl
  write_of_read := by
    intro offset bytes item next done
    cases bytes with
    | nil => simp [uint8] at done
    | cons b0 rest =>
        simp only [uint8, Except.ok.injEq, Prod.mk.injEq] at done
        obtain ⟨rfl, rfl⟩ := done
        simp [uint8]

theorem uint8_width (ended : Nat → error) : (uint8 ended).Width 1 :=
  fun _ => rfl

theorem uint16_exact (ended : Nat → error) :
    (uint16 ended).Exact fun _ => True where
  read_write := by
    intro item _ offset rest
    have same :
        UInt16.ofNat
            ((UInt8.ofNat item.toNat).toNat +
              (UInt8.ofNat (item.toNat / 0x100)).toNat * 0x100) =
          item := by
      apply UInt16.toNat_inj.mp
      have bound := item.toNat_lt
      simp only [UInt16.toNat_ofNat', UInt8.toNat_ofNat']
      omega
    simp only [uint16, List.cons_append, List.nil_append, same]
    rfl
  write_of_read := by
    intro offset bytes item next done
    match bytes with
    | [] => simp [uint16] at done
    | [_] => simp [uint16] at done
    | b0 :: b1 :: rest =>
        simp only [uint16, Except.ok.injEq, Prod.mk.injEq] at done
        obtain ⟨rfl, rfl⟩ := done
        have bound0 := b0.toNat_lt
        have bound1 := b1.toNat_lt
        refine ⟨trivial, ?_, rfl⟩
        simp only [uint16, List.cons_append, List.nil_append,
          List.cons.injEq, and_true, ← UInt8.toNat_inj,
          UInt8.toNat_ofNat', UInt16.toNat_ofNat']
        omega

theorem uint16_width (ended : Nat → error) : (uint16 ended).Width 2 :=
  fun _ => rfl

theorem uint32_exact (ended : Nat → error) :
    (uint32 ended).Exact fun _ => True where
  read_write := by
    intro item _ offset rest
    have same :
        UInt32.ofNat
            ((UInt8.ofNat item.toNat).toNat +
              (UInt8.ofNat (item.toNat / 0x100)).toNat * 0x100 +
              (UInt8.ofNat (item.toNat / 0x10000)).toNat * 0x10000 +
              (UInt8.ofNat (item.toNat / 0x1000000)).toNat * 0x1000000) =
          item := by
      apply UInt32.toNat_inj.mp
      have bound := item.toNat_lt
      simp only [UInt32.toNat_ofNat', UInt8.toNat_ofNat']
      omega
    simp only [uint32, List.cons_append, List.nil_append, same]
    rfl
  write_of_read := by
    intro offset bytes item next done
    match bytes with
    | [] => simp [uint32] at done
    | [_] => simp [uint32] at done
    | [_, _] => simp [uint32] at done
    | [_, _, _] => simp [uint32] at done
    | b0 :: b1 :: b2 :: b3 :: rest =>
        simp only [uint32, Except.ok.injEq, Prod.mk.injEq] at done
        obtain ⟨rfl, rfl⟩ := done
        have bound0 := b0.toNat_lt
        have bound1 := b1.toNat_lt
        have bound2 := b2.toNat_lt
        have bound3 := b3.toNat_lt
        refine ⟨trivial, ?_, rfl⟩
        simp only [uint32, List.cons_append, List.nil_append,
          List.cons.injEq, and_true, ← UInt8.toNat_inj,
          UInt8.toNat_ofNat', UInt32.toNat_ofNat']
        omega

theorem uint32_width (ended : Nat → error) : (uint32 ended).Width 4 :=
  fun _ => rfl

/-- The bytes of a word stand for it. -/
theorem wordOfBytes_wordBytes (item : UInt64) :
    wordOfBytes (UInt8.ofNat item.toNat)
        (UInt8.ofNat (item.toNat / 0x100))
        (UInt8.ofNat (item.toNat / 0x10000))
        (UInt8.ofNat (item.toNat / 0x1000000))
        (UInt8.ofNat (item.toNat / 0x100000000))
        (UInt8.ofNat (item.toNat / 0x10000000000))
        (UInt8.ofNat (item.toNat / 0x1000000000000))
        (UInt8.ofNat (item.toNat / 0x100000000000000)) =
      item := by
  apply UInt64.toNat_inj.mp
  have bound := item.toNat_lt
  simp only [wordOfBytes, UInt64.toNat_ofNat', UInt8.toNat_ofNat']
  omega

/-- Bytes are those of the word that they stand for. -/
theorem wordBytes_wordOfBytes (b0 b1 b2 b3 b4 b5 b6 b7 : UInt8) :
    wordBytes (wordOfBytes b0 b1 b2 b3 b4 b5 b6 b7) =
      [b0, b1, b2, b3, b4, b5, b6, b7] := by
  have bound0 := b0.toNat_lt
  have bound1 := b1.toNat_lt
  have bound2 := b2.toNat_lt
  have bound3 := b3.toNat_lt
  have bound4 := b4.toNat_lt
  have bound5 := b5.toNat_lt
  have bound6 := b6.toNat_lt
  have bound7 := b7.toNat_lt
  have small :
      (wordOfBytes b0 b1 b2 b3 b4 b5 b6 b7).toNat =
        b0.toNat + b1.toNat * 0x100 + b2.toNat * 0x10000 +
          b3.toNat * 0x1000000 + b4.toNat * 0x100000000 +
          b5.toNat * 0x10000000000 + b6.toNat * 0x1000000000000 +
          b7.toNat * 0x100000000000000 := by
    simp only [wordOfBytes, UInt64.toNat_ofNat']
    omega
  simp only [wordBytes, small, List.cons.injEq, and_true,
    ← UInt8.toNat_inj, UInt8.toNat_ofNat']
  omega

theorem uint64_exact (ended : Nat → error) :
    (uint64 ended).Exact fun _ => True where
  read_write := by
    intro item _ offset rest
    simp only [uint64, wordBytes, List.cons_append, List.nil_append,
      wordOfBytes_wordBytes]
    rfl
  write_of_read := by
    intro offset bytes item next done
    match bytes with
    | [] => simp [uint64] at done
    | [_] => simp [uint64] at done
    | [_, _] => simp [uint64] at done
    | [_, _, _] => simp [uint64] at done
    | [_, _, _, _] => simp [uint64] at done
    | [_, _, _, _, _] => simp [uint64] at done
    | [_, _, _, _, _, _] => simp [uint64] at done
    | [_, _, _, _, _, _, _] => simp [uint64] at done
    | b0 :: b1 :: b2 :: b3 :: b4 :: b5 :: b6 :: b7 :: rest =>
        simp only [uint64, Except.ok.injEq, Prod.mk.injEq] at done
        obtain ⟨rfl, rfl⟩ := done
        refine ⟨trivial, ?_, rfl⟩
        simp only [uint64, wordBytes_wordOfBytes]
        rfl

/-! ## Byte strings -/

theorem readBytes_append
    (ended : Nat → error) (offset : Nat) (bytes rest : List UInt8) :
    readBytes ended bytes.length ⟨offset, bytes ++ rest⟩ =
      .ok (bytes, ⟨offset + bytes.length, rest⟩) := by
  simp [readBytes]

theorem readBytes_eq_ok
    {ended : Nat → error} {count offset : Nat} {bytes found : List UInt8}
    {next : Cursor}
    (done : readBytes ended count ⟨offset, bytes⟩ = .ok (found, next)) :
    found.length = count ∧ bytes = found ++ next.rest ∧
      next.offset = offset + count := by
  unfold readBytes at done
  split at done
  · rename_i enough
    simp only [Except.ok.injEq, Prod.mk.injEq] at done
    obtain ⟨rfl, rfl⟩ := done
    exact ⟨enough, (List.take_append_drop count bytes).symm, rfl⟩
  · simp at done

theorem sized_write
    (ended : Nat → error) (limit : Nat) (overlong : Nat → error)
    (bytes : List UInt8) :
    (sized ended limit overlong).write bytes =
      (uint64 ended).write (UInt64.ofNat bytes.length) ++ bytes :=
  rfl

theorem sized_length
    (ended overlong : Nat → error) (limit : Nat) (bytes : List UInt8) :
    ((sized ended limit overlong).write bytes).length = 8 + bytes.length := by
  rw [sized_write, List.length_append]
  rfl

theorem sized_read
    {ended : Nat → error} {limit : Nat} {overlong : Nat → error}
    {cursor next : Cursor} {count : UInt64}
    (counted : (uint64 ended).read cursor = .ok (count, next))
    (fits : count.toNat ≤ limit) :
    (sized ended limit overlong).read cursor =
      readBytes ended count.toNat next := by
  simp [sized, counted, fits, bind, Except.bind]

theorem sized_exact
    (ended : Nat → error) {limit : Nat} (overlong : Nat → error)
    (small : limit < 0x10000000000000000) :
    (sized ended limit overlong).Exact
      fun bytes => bytes.length ≤ limit where
  read_write := by
    intro bytes fits offset rest
    have count : (UInt64.ofNat bytes.length).toNat = bytes.length :=
      UInt64.toNat_ofNat_of_lt' (Nat.lt_of_le_of_lt fits small)
    have counted :=
      (uint64_exact ended).read_write
        (UInt64.ofNat bytes.length) trivial offset (bytes ++ rest)
    rw [sized_write, List.append_assoc,
      sized_read counted (by rw [count]; exact fits), count,
      readBytes_append, List.length_append, Nat.add_assoc]
  write_of_read := by
    intro offset bytes found next done
    obtain ⟨⟨count, inner⟩, counted, body⟩ := bind_eq_ok_iff.mp done
    obtain ⟨-, written, moved⟩ := (uint64_exact ended).write_of_read counted
    by_cases fits : count.toNat ≤ limit
    · simp only [fits, if_true] at body
      obtain ⟨length, split, ended⟩ := readBytes_eq_ok body
      have word : UInt64.ofNat found.length = count := by
        rw [length, UInt64.ofNat_toNat]
      refine ⟨length ▸ fits, ?_, ?_⟩
      · rw [sized_write, word, List.append_assoc, ← split]
        exact written
      · rw [sized_write, word, List.length_append, ended, moved, length,
          Nat.add_assoc]
    · simp [fits] at body

/-! ## Formats built from formats -/

theorem Exact.map
    {format : Format error source} {valid : source → Prop}
    {forward : source → target} {backward : target → source}
    (exact : format.Exact valid)
    (forwardBackward : ∀ item, forward (backward item) = item)
    (backwardForward : ∀ item, backward (forward item) = item) :
    (format.map forward backward).Exact
      fun item => valid (backward item) where
  read_write := by
    intro item acceptable offset rest
    have read := exact.read_write (backward item) acceptable offset rest
    simp [Format.map, read, bind, Except.bind, pure, Except.pure,
      forwardBackward]
  write_of_read := by
    intro offset bytes item next done
    obtain ⟨⟨found, inner⟩, read, rest⟩ := bind_eq_ok_iff.mp done
    simp only [pure, Except.pure, Except.ok.injEq, Prod.mk.injEq] at rest
    obtain ⟨rfl, rfl⟩ := rest
    simpa [Format.map, backwardForward] using exact.write_of_read read

/-- Exactness of a refinement whose check accepts what is written. -/
theorem Exact.refine
    {format : Format error source} {valid : source → Prop}
    {forward : source → Except error target} {backward : target → source}
    (exact : format.Exact valid)
    (accepted : target → Prop)
    (forwardAccepts :
      ∀ form item,
        forward form = .ok item ↔ form = backward item ∧ accepted item) :
    (format.refine forward backward).Exact
      fun item => valid (backward item) ∧ accepted item where
  read_write := by
    rintro item ⟨acceptable, accepts⟩ offset rest
    have read := exact.read_write (backward item) acceptable offset rest
    have checked := (forwardAccepts _ item).mpr ⟨rfl, accepts⟩
    simp [Format.refine, read, checked, bind, Except.bind, pure, Except.pure]
  write_of_read := by
    intro offset bytes item next done
    obtain ⟨⟨found, inner⟩, read, rest⟩ := bind_eq_ok_iff.mp done
    obtain ⟨checked, passed, last⟩ := bind_eq_ok_iff.mp rest
    simp only [pure, Except.pure, Except.ok.injEq, Prod.mk.injEq] at last
    obtain ⟨rfl, rfl⟩ := last
    obtain ⟨rfl, accepts⟩ := (forwardAccepts _ _).mp passed
    obtain ⟨acceptable, written, moved⟩ := exact.write_of_read read
    exact ⟨⟨acceptable, accepts⟩, written, moved⟩

theorem Exact.pair
    {left : Format error first} {right : Format error second}
    {leftValid : first → Prop} {rightValid : second → Prop}
    (leftExact : left.Exact leftValid)
    (rightExact : right.Exact rightValid) :
    (left.pair right).Exact
      fun item => leftValid item.1 ∧ rightValid item.2 where
  read_write := by
    rintro ⟨head, tail⟩ ⟨headValid, tailValid⟩ offset rest
    have headRead :=
      leftExact.read_write head headValid offset (right.write tail ++ rest)
    have tailRead :=
      rightExact.read_write tail tailValid
        (offset + (left.write head).length) rest
    simp [Format.pair, headRead, tailRead, bind, Except.bind, pure,
      Except.pure, Nat.add_assoc]
  write_of_read := by
    rintro offset bytes ⟨head, tail⟩ next done
    obtain ⟨⟨found, middle⟩, headRead, rest⟩ := bind_eq_ok_iff.mp done
    obtain ⟨⟨others, last⟩, tailRead, same⟩ := bind_eq_ok_iff.mp rest
    simp only [pure, Except.pure, Except.ok.injEq, Prod.mk.injEq] at same
    obtain ⟨⟨rfl, rfl⟩, rfl⟩ := same
    obtain ⟨headValid, headWritten, headMoved⟩ :=
      leftExact.write_of_read headRead
    obtain ⟨tailValid, tailWritten, tailMoved⟩ :=
      rightExact.write_of_read tailRead
    refine ⟨⟨headValid, tailValid⟩, ?_, ?_⟩
    · rw [headWritten, tailWritten]
      simp [Format.pair]
    · rw [tailMoved, headMoved]
      simp [Format.pair, Nat.add_assoc]

/-! ## Errors on the way -/

theorem map_read_error
    {format : Format error source} {cursor : Cursor} {cause : error}
    (forward : source → target) (backward : target → source)
    (failed : format.read cursor = .error cause) :
    (format.map forward backward).read cursor = .error cause := by
  simp [Format.map, failed, bind, Except.bind]

theorem pair_read_left_error
    {left : Format error first} {cursor : Cursor} {cause : error}
    (right : Format error second)
    (failed : left.read cursor = .error cause) :
    (left.pair right).read cursor = .error cause := by
  simp [Format.pair, failed, bind, Except.bind]

theorem pair_read_right_error
    {left : Format error first} {right : Format error second}
    {cursor next : Cursor} {item : first} {cause : error}
    (done : left.read cursor = .ok (item, next))
    (failed : right.read next = .error cause) :
    (left.pair right).read cursor = .error cause := by
  simp [Format.pair, done, failed, bind, Except.bind]

theorem readAll_error
    {format : Format error value} {bytes : List UInt8} {cause : error}
    (leftOver : Nat → error)
    (failed : format.read ⟨0, bytes⟩ = .error cause) :
    format.readAll leftOver bytes = .error cause := by
  simp [readAll, failed, bind, Except.bind]

/-! ## Repetition -/

theorem Exact.readMany_write
    {format : Format error value} {valid : value → Prop}
    (exact : format.Exact valid)
    (items : List value) (allValid : ∀ item ∈ items, valid item)
    (offset : Nat) (rest : List UInt8) :
    format.readMany items.length
        ⟨offset, items.flatMap format.write ++ rest⟩ =
      .ok (items,
        ⟨offset + (items.flatMap format.write).length, rest⟩) := by
  induction items generalizing offset with
  | nil => rfl
  | cons item others ih =>
      have headRead :=
        exact.read_write item (allValid item (by simp)) offset
          (others.flatMap format.write ++ rest)
      have tailRead :=
        ih (fun other member => allValid other (by simp [member]))
          (offset + (format.write item).length)
      simp only [readMany, List.length_cons, List.flatMap_cons,
        List.append_assoc, headRead, tailRead, bind, Except.bind, pure,
        Except.pure, List.length_append, Nat.add_assoc]

theorem Exact.readMany_eq_ok
    {format : Format error value} {valid : value → Prop}
    (exact : format.Exact valid)
    {count offset : Nat} {bytes : List UInt8}
    {items : List value} {next : Cursor}
    (done : format.readMany count ⟨offset, bytes⟩ = .ok (items, next)) :
    items.length = count ∧ (∀ item ∈ items, valid item) ∧
      bytes = items.flatMap format.write ++ next.rest ∧
      next.offset = offset + (items.flatMap format.write).length := by
  induction count generalizing offset bytes items next with
  | zero =>
      simp only [readMany, Except.ok.injEq, Prod.mk.injEq] at done
      obtain ⟨rfl, rfl⟩ := done
      simp
  | succ count ih =>
      obtain ⟨⟨item, middle⟩, headRead, rest⟩ := bind_eq_ok_iff.mp done
      obtain ⟨⟨others, last⟩, tailRead, same⟩ := bind_eq_ok_iff.mp rest
      simp only [pure, Except.pure, Except.ok.injEq, Prod.mk.injEq] at same
      obtain ⟨rfl, rfl⟩ := same
      obtain ⟨headValid, headWritten, headMoved⟩ :=
        exact.write_of_read headRead
      obtain ⟨length, tailValid, tailWritten, tailMoved⟩ := ih tailRead
      refine ⟨by simp [length], ?_, ?_, ?_⟩
      · simpa [headValid] using tailValid
      · rw [headWritten, tailWritten]
        simp
      · rw [tailMoved, headMoved]
        simp [Nat.add_assoc]

theorem vector_write_push
    (format : Format error value) {size : Nat}
    (items : Vector value size) (last : value) :
    (format.vector (size + 1)).write (items.push last) =
      (format.vector size).write items ++ format.write last := by
  simp [vector, Vector.toList_push]

theorem vector_read_succ
    (format : Format error value) (size : Nat) (cursor : Cursor) :
    (format.vector (size + 1)).read cursor = (do
      let (items, cursor) ← (format.vector size).read cursor
      let (last, cursor) ← format.read cursor
      return (items.push last, cursor)) :=
  rfl

theorem Exact.vector
    {format : Format error value} {valid : value → Prop}
    (exact : format.Exact valid) (size : Nat) :
    (format.vector size).Exact fun items => ∀ item ∈ items, valid item := by
  induction size with
  | zero =>
      refine ⟨?_, ?_⟩
      · intro items _ offset rest
        have none : items = #v[] := Vector.eq_empty
        subst none
        rfl
      · intro offset bytes items next done
        simp only [Format.vector, readVector, Except.ok.injEq,
          Prod.mk.injEq] at done
        obtain ⟨rfl, rfl⟩ := done
        simp [Format.vector]
  | succ size ih =>
      refine ⟨?_, ?_⟩
      · intro items allValid offset rest
        -- The reader takes the last item off after all the others.
        obtain ⟨others, last, rfl⟩ :
            ∃ others last, items = Vector.push others last :=
          ⟨items.pop, items.back, (Vector.push_pop_back items).symm⟩
        have othersRead :=
          ih.read_write others
            (fun item member => allValid item (by simp [member]))
            offset (format.write last ++ rest)
        have lastRead :=
          exact.read_write last (allValid last (by simp))
            (offset + ((format.vector size).write others).length) rest
        rw [vector_write_push, List.append_assoc, vector_read_succ,
          othersRead]
        simp only [bind, Except.bind, lastRead, pure, Except.pure,
          List.length_append, Nat.add_assoc]
      · intro offset bytes items next done
        obtain ⟨⟨others, middle⟩, othersRead, rest⟩ := bind_eq_ok_iff.mp done
        obtain ⟨⟨last, ended⟩, lastRead, same⟩ := bind_eq_ok_iff.mp rest
        simp only [pure, Except.pure, Except.ok.injEq, Prod.mk.injEq] at same
        obtain ⟨rfl, rfl⟩ := same
        obtain ⟨othersValid, othersWritten, othersMoved⟩ :=
          ih.write_of_read othersRead
        obtain ⟨lastValid, lastWritten, lastMoved⟩ :=
          exact.write_of_read lastRead
        refine ⟨?_, ?_, ?_⟩
        · intro item member
          rcases Vector.mem_push.mp member with among | rfl
          · exact othersValid item among
          · exact lastValid
        · rw [vector_write_push, othersWritten, lastWritten,
            List.append_assoc]
        · rw [vector_write_push, lastMoved, othersMoved,
            List.length_append, Nat.add_assoc]

/-! ## Widths -/

theorem Width.map
    {format : Format error source} {width : Nat}
    (fixed : format.Width width)
    (forward : source → target) (backward : target → source) :
    (format.map forward backward).Width width :=
  fun item => fixed (backward item)

theorem Width.refine
    {format : Format error source} {width : Nat}
    (fixed : format.Width width)
    (forward : source → Except error target) (backward : target → source) :
    (format.refine forward backward).Width width :=
  fun item => fixed (backward item)

theorem Width.pair
    {left : Format error first} {right : Format error second}
    {leftWidth rightWidth : Nat}
    (leftFixed : left.Width leftWidth)
    (rightFixed : right.Width rightWidth) :
    (left.pair right).Width (leftWidth + rightWidth) := by
  intro item
  simp [Format.pair, leftFixed item.1, rightFixed item.2]

theorem Width.flatMap
    {format : Format error value} {width : Nat}
    (fixed : format.Width width) (items : List value) :
    (items.flatMap format.write).length = items.length * width := by
  induction items with
  | nil => simp
  | cons item others ih =>
      rw [List.flatMap_cons, List.length_append, fixed item, ih,
        List.length_cons, Nat.succ_mul, Nat.add_comm]

theorem Width.vector
    {format : Format error value} {width : Nat}
    (fixed : format.Width width) (size : Nat) :
    (format.vector size).Width (size * width) := by
  intro items
  have length := fixed.flatMap items.toList
  rw [Vector.length_toList] at length
  exact length

/-! ## Written forms that tell values apart -/

/-- Lists of items of a fixed width are told apart, however many there are. -/
theorem flatMap_write_injective
    {format : Format error value} {width : Nat}
    (injective : Function.Injective format.write)
    (fixed : format.Width width) (positive : 0 < width) :
    Function.Injective
      fun items : List value => items.flatMap format.write := by
  intro left
  induction left with
  | nil =>
      intro right equal
      have length := congrArg List.length equal
      simp only [fixed.flatMap, List.length_nil, Nat.zero_mul] at length
      have none : right.length = 0 := by
        rcases Nat.mul_eq_zero.mp length.symm with none | zero
        · exact none
        · omega
      exact (List.length_eq_zero_iff.mp none).symm
  | cons item others ih =>
      intro right equal
      cases right with
      | nil =>
          have length := congrArg List.length equal
          simp only [fixed.flatMap, List.length_cons, List.length_nil,
            Nat.zero_mul, Nat.succ_mul] at length
          omega
      | cons rightItem rightOthers =>
          have parts :=
            List.append_inj
              (equal : format.write item ++ others.flatMap format.write =
                format.write rightItem ++ rightOthers.flatMap format.write)
              ((fixed item).trans (fixed rightItem).symm)
          rw [injective parts.1, ih parts.2]

end ShaderSynth.Format
