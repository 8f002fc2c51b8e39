import Mathlib.Logic.Function.Basic
import ShaderSynth.Hex

/-!
# Hexadecimal numbers can be told apart

`Hex.value` reads digits back, whatever the width they were filled up to.
-/

namespace ShaderSynth.Hex

/-- The value of a lower-case digit. -/
def digitValue (digit : Char) : Nat :=
  if digit.isDigit then digit.toNat - 48 else digit.toNat - 87

/-- The number that digits stand for. -/
def value (digits : List Char) : Nat :=
  digits.foldl (fun total digit => 16 * total + digitValue digit) 0

theorem digitValue_digitChar {digit : Nat} (small : digit < 16) :
    digitValue digit.digitChar = digit := by
  decide +revert

theorem value_append_singleton (digits : List Char) (digit : Char) :
    value (digits ++ [digit]) = 16 * value digits + digitValue digit := by
  simp [value]

theorem value_toDigits (number : Nat) :
    value (Nat.toDigits 16 number) = number := by
  induction number using Nat.strongRecOn with
  | ind number ih =>
      rw [Nat.toDigits_eq_if (by decide)]
      split
      · rename_i small
        simp [value, digitValue_digitChar small]
      · rename_i large
        have lower : number % 16 < 16 := Nat.mod_lt _ (by decide)
        rw [value_append_singleton, ih (number / 16) (by omega),
          digitValue_digitChar lower]
        omega

theorem value_replicate_append (count : Nat) (digits : List Char) :
    value (List.replicate count '0' ++ digits) = value digits := by
  induction count with
  | zero => rfl
  | succ count ih =>
      rw [List.replicate_succ, List.cons_append, ← ih]
      rfl

theorem lower_injective (width : Nat) :
    Function.Injective (lower width) := by
  intro first second same
  have read := congrArg (fun text => value text.toList) same
  simpa [lower, value_replicate_append, value_toDigits] using read

theorem dot_not_mem_toDigits (number : Nat) :
    '.' ∉ Nat.toDigits 16 number := by
  induction number using Nat.strongRecOn with
  | ind number ih =>
      rw [Nat.toDigits_eq_if (by decide)]
      split
      · simp
      · have absent := ih (number / 16) (by omega)
        simp [absent]

theorem dot_not_mem_lower (width number : Nat) :
    '.' ∉ (lower width number).toList := by
  have absent := dot_not_mem_toDigits number
  simp [lower, absent]

end ShaderSynth.Hex
