/-!
# Hexadecimal numbers of a fixed width
-/

namespace ShaderSynth.Hex

/-- Lower-case digits, filled up with zeros on the left to a width. -/
def lower (width value : Nat) : String :=
  let digits := Nat.toDigits 16 value
  String.ofList (List.replicate (width - digits.length) '0' ++ digits)

/-- Upper-case digits, filled up with zeros on the left to a width. -/
def upper (width value : Nat) : String :=
  String.ofList ((lower width value).toList.map Char.toUpper)

end ShaderSynth.Hex
