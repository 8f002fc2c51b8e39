import ShaderSynth.Hex
import ShaderSynth.Text.Shown

/-!
# Quoted text

Messages quote the stamps of stored entries.  Quotes and backslashes are
escaped, common controls have short escapes, and other characters that do not
show are written by their number.
-/

namespace ShaderSynth.Text

/-- A character as it stands between quotes. -/
def quotedChar (character : Char) : String :=
  if character = '\t' then "\\t"
  else if character = '\r' then "\\r"
  else if character = '\n' then "\\n"
  else if character = '\\' then "\\\\"
  else if character = '"' then "\\\""
  else if character.toNat = 0 then "\\0"
  else if isShown character then String.singleton character
  else "\\u\x7b" ++ Hex.lower 1 character.toNat ++ "\x7d"

/-- A text between quotes. -/
def quoted (text : String) : String :=
  "\"" ++ String.join (text.toList.map quotedChar) ++ "\""

end ShaderSynth.Text
