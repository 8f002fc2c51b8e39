/-!
# Reading text that may be damaged

`Utf8.lossy` reads bytes as UTF-8.  Where the bytes are no text, the longest
piece that could have started a character becomes one replacement character,
and reading goes on behind it.
-/

namespace ShaderSynth.Utf8

/-- Stands for bytes that are no text. -/
def replacement : Char := Char.ofNat 0xFFFD

/-- A character that has begun and is not complete. -/
structure Partial where
  /-- The bits of the character so far. -/
  bits : Nat
  /-- The least next byte that goes on with the character. -/
  low : UInt8
  /-- The greatest next byte that goes on with the character. -/
  high : UInt8
  /-- How many bytes follow the next one. -/
  more : Nat
deriving DecidableEq, Repr

/-- The character that a first byte begins, if it takes several bytes. -/
def Partial.ofByte? (byte : UInt8) : Option Partial :=
  let value := byte.toNat
  if value < 0xC2 then none
  else if value < 0xE0 then some ⟨value - 0xC0, 0x80, 0xBF, 0⟩
  else if value = 0xE0 then some ⟨0, 0xA0, 0xBF, 1⟩
  else if value = 0xED then some ⟨0xD, 0x80, 0x9F, 1⟩
  else if value < 0xF0 then some ⟨value - 0xE0, 0x80, 0xBF, 1⟩
  else if value = 0xF0 then some ⟨0, 0x90, 0xBF, 2⟩
  else if value < 0xF4 then some ⟨value - 0xF0, 0x80, 0xBF, 2⟩
  else if value = 0xF4 then some ⟨4, 0x80, 0x8F, 2⟩
  else none

/-- Reads the first byte of a character. -/
def first (byte : UInt8) : List Char × Option Partial :=
  if byte < 0x80 then ([Char.ofNat byte.toNat], none)
  else
    match Partial.ofByte? byte with
    | some begun => ([], some begun)
    | none => ([replacement], none)

/-- Reads the next byte. -/
def next : Option Partial → UInt8 → List Char × Option Partial
  | none, byte => first byte
  | some begun, byte =>
      if begun.low ≤ byte && byte ≤ begun.high then
        let bits := begun.bits * 64 + byte.toNat % 64
        match begun.more with
        | 0 => ([Char.ofNat bits], none)
        | more + 1 => ([], some ⟨bits, 0x80, 0xBF, more⟩)
      else
        let (characters, pending) := first byte
        (replacement :: characters, pending)

/-- Reads the rest of the bytes. -/
def lossyFrom : Option Partial → List UInt8 → List Char
  | none, [] => []
  | some _, [] => [replacement]
  | pending, byte :: rest =>
      let (characters, pending) := next pending byte
      characters ++ lossyFrom pending rest

/-- The text that bytes stand for, with replacements. -/
def lossy (bytes : List UInt8) : String :=
  String.ofList (lossyFrom none bytes)

/-- The bytes of a text. -/
def encode (text : String) : List UInt8 :=
  text.toUTF8.data.toList

/-- The text that bytes stand for, if they are one. -/
def decode? (bytes : List UInt8) : Option String :=
  String.fromUTF8? ⟨bytes.toArray⟩

end ShaderSynth.Utf8
