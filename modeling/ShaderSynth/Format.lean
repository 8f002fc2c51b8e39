/-!
# Byte formats

A `Format` describes how values of a type are laid out as bytes: how a value
is written, and how one is read from the front of a byte string.  Formats are
built from each other, so that both directions follow one description.

Reading keeps count of the bytes behind it, so that an error can tell the
offset of the field at which the bytes ran out.
-/

namespace ShaderSynth

/-- What is left of a byte string, and how much has been read. -/
structure Cursor where
  offset : Nat
  rest : List UInt8
deriving DecidableEq, Repr

/-- A layout of values as bytes, with the errors that reading may end in. -/
structure Format (error value : Type) where
  write : value → List UInt8
  read : Cursor → Except error (value × Cursor)

namespace Format

variable {error value first second source target : Type}

/-- One byte. -/
def uint8 (ended : Nat → error) : Format error UInt8 where
  write value := [value]
  read
    | ⟨offset, b0 :: rest⟩ => .ok (b0, ⟨offset + 1, rest⟩)
    | ⟨offset, _⟩ => .error (ended offset)

/-- Two bytes, the low one first. -/
def uint16 (ended : Nat → error) : Format error UInt16 where
  write value := [UInt8.ofNat value.toNat, UInt8.ofNat (value.toNat / 0x100)]
  read
    | ⟨offset, b0 :: b1 :: rest⟩ =>
        .ok (UInt16.ofNat (b0.toNat + b1.toNat * 0x100),
          ⟨offset + 2, rest⟩)
    | ⟨offset, _⟩ => .error (ended offset)

/-- Four bytes, the low one first. -/
def uint32 (ended : Nat → error) : Format error UInt32 where
  write value :=
    [UInt8.ofNat value.toNat, UInt8.ofNat (value.toNat / 0x100),
      UInt8.ofNat (value.toNat / 0x10000),
      UInt8.ofNat (value.toNat / 0x1000000)]
  read
    | ⟨offset, b0 :: b1 :: b2 :: b3 :: rest⟩ =>
        .ok
          (UInt32.ofNat
            (b0.toNat + b1.toNat * 0x100 + b2.toNat * 0x10000 +
              b3.toNat * 0x1000000), ⟨offset + 4, rest⟩)
    | ⟨offset, _⟩ => .error (ended offset)

/-- The eight bytes of a word, the low one first. -/
def wordBytes (value : UInt64) : List UInt8 :=
  [UInt8.ofNat value.toNat, UInt8.ofNat (value.toNat / 0x100),
    UInt8.ofNat (value.toNat / 0x10000),
    UInt8.ofNat (value.toNat / 0x1000000),
    UInt8.ofNat (value.toNat / 0x100000000),
    UInt8.ofNat (value.toNat / 0x10000000000),
    UInt8.ofNat (value.toNat / 0x1000000000000),
    UInt8.ofNat (value.toNat / 0x100000000000000)]

/-- The word of eight bytes, the low one first. -/
def wordOfBytes (b0 b1 b2 b3 b4 b5 b6 b7 : UInt8) : UInt64 :=
  UInt64.ofNat
    (b0.toNat + b1.toNat * 0x100 + b2.toNat * 0x10000 +
      b3.toNat * 0x1000000 + b4.toNat * 0x100000000 +
      b5.toNat * 0x10000000000 + b6.toNat * 0x1000000000000 +
      b7.toNat * 0x100000000000000)

/-- Eight bytes, the low one first. -/
def uint64 (ended : Nat → error) : Format error UInt64 where
  write := wordBytes
  read
    | ⟨offset, b0 :: b1 :: b2 :: b3 :: b4 :: b5 :: b6 :: b7 :: rest⟩ =>
        .ok (wordOfBytes b0 b1 b2 b3 b4 b5 b6 b7, ⟨offset + 8, rest⟩)
    | ⟨offset, _⟩ => .error (ended offset)

/-- So many bytes, whatever they are. -/
def readBytes
    (ended : Nat → error) (count : Nat) (cursor : Cursor) :
    Except error (List UInt8 × Cursor) :=
  if (cursor.rest.take count).length = count then
    .ok (cursor.rest.take count,
      ⟨cursor.offset + count, cursor.rest.drop count⟩)
  else .error (ended cursor.offset)

/-- A byte string after its length, which has a limit. -/
def sized
    (ended : Nat → error) (limit : Nat) (overlong : Nat → error) :
    Format error (List UInt8) where
  write bytes := (uint64 ended).write (UInt64.ofNat bytes.length) ++ bytes
  read cursor := do
    let (count, cursor) ← (uint64 ended).read cursor
    if count.toNat ≤ limit then readBytes ended count.toNat cursor
    else .error (overlong count.toNat)

/-- A value kept in another form. -/
def map
    (format : Format error source)
    (forward : source → target) (backward : target → source) :
    Format error target where
  write value := format.write (backward value)
  read cursor := do
    let (value, cursor) ← format.read cursor
    return (forward value, cursor)

/-- A value that only some forms stand for. -/
def refine
    (format : Format error source)
    (forward : source → Except error target)
    (backward : target → source) :
    Format error target where
  write value := format.write (backward value)
  read cursor := do
    let (value, cursor) ← format.read cursor
    let value ← forward value
    return (value, cursor)

/-- Two values, one after the other. -/
def pair
    (left : Format error first) (right : Format error second) :
    Format error (first × second) where
  write value := left.write value.1 ++ right.write value.2
  read cursor := do
    let (first, cursor) ← left.read cursor
    let (second, cursor) ← right.read cursor
    return ((first, second), cursor)

/-- Reads so many values. -/
def readMany (format : Format error value) :
    Nat → Cursor → Except error (List value × Cursor)
  | 0, cursor => .ok ([], cursor)
  | count + 1, cursor => do
      let (value, cursor) ← format.read cursor
      let (values, cursor) ← format.readMany count cursor
      return (value :: values, cursor)

/-- Reads a vector. -/
def readVector (format : Format error value) :
    (size : Nat) → Cursor → Except error (Vector value size × Cursor)
  | 0, cursor => .ok (#v[], cursor)
  | size + 1, cursor => do
      let (values, cursor) ← format.readVector size cursor
      let (value, cursor) ← format.read cursor
      return (values.push value, cursor)

/-- A vector of values. -/
def vector (size : Nat) (format : Format error value) :
    Format error (Vector value size) where
  write values := values.toList.flatMap format.write
  read := format.readVector size

/-- Reads a byte string whole; what is left over is an error. -/
def readAll
    (format : Format error value)
    (leftOver : Nat → error)
    (bytes : List UInt8) :
    Except error value := do
  let (value, cursor) ← format.read ⟨0, bytes⟩
  if cursor.rest.isEmpty then return value
  else .error (leftOver cursor.rest.length)

end Format

end ShaderSynth
