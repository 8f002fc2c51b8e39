/-!
# Single-precision numbers by bit pattern

Register values are single-precision numbers.  They are kept as bit patterns,
so that equality tells zeros of both signs apart and keeps every payload of a
not-a-number.  `Single.fixed` writes a number with six decimal places.
-/

namespace ShaderSynth

/-- A single-precision number, given by its bits. -/
structure Single where
  bits : UInt32
deriving DecidableEq, Inhabited, Repr

namespace Single

/-- Whether the sign bit is set. -/
def isNegative (value : Single) : Bool :=
  value.bits &&& 0x80000000 != 0

/-- The biased exponent. -/
def exponent (value : Single) : Nat :=
  ((value.bits >>> 23) &&& 0xFF).toNat

/-- The fraction bits. -/
def fraction (value : Single) : Nat :=
  (value.bits &&& 0x7FFFFF).toNat

/-- Whether the value is no number. -/
def isNaN (value : Single) : Bool :=
  value.exponent == 255 && value.fraction != 0

/-- Whether the value is zero, of either sign. -/
def isZero (value : Single) : Bool :=
  value.exponent == 0 && value.fraction == 0

/-- The significand, in units of the last place. -/
def significand (value : Single) : Nat :=
  if value.exponent = 0 then value.fraction
  else value.fraction + 0x800000

/-- The last place of a finite value is two to this power, less 149. -/
def scale (value : Single) : Nat :=
  value.exponent - 1

end Single

/-- A quotient rounded to the nearest whole number; a half goes to the even one. -/
def roundHalfEven (numerator denominator : Nat) : Nat :=
  let quotient := numerator / denominator
  let twice := 2 * (numerator % denominator)
  if twice < denominator then quotient
  else if denominator < twice then quotient + 1
  else if quotient % 2 = 0 then quotient
  else quotient + 1

/-- A whole number of millionths with six decimal places. -/
def millionthsText (millionths : Nat) : String :=
  let places := toString (millionths % 1000000)
  let zeros := String.ofList (List.replicate (6 - places.length) '0')
  toString (millionths / 1000000) ++ "." ++ zeros ++ places

/-- A number with six decimal places; the exact value is rounded to them. -/
def Single.fixed (value : Single) : String :=
  let sign := if value.isNegative then "-" else ""
  if value.isNaN then "NaN"
  else if value.exponent = 255 then sign ++ "inf"
  else
    sign ++ millionthsText
      (roundHalfEven ((value.significand <<< value.scale) * 1000000)
        (1 <<< 149))

end ShaderSynth
