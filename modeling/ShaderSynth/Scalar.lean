/-!
# Scalar arithmetic

The combiners compute with scalars.  Their rules are stated once over an
arithmetic `Scalar`, which is exact for rational numbers and rounded for
single-precision numbers.
-/

namespace ShaderSynth

/-- The arithmetic the combiners use. -/
class Scalar (value : Type) where
  ofRat : Rat → value
  add : value → value → value
  sub : value → value → value
  mul : value → value → value
  div : value → value → value
  neg : value → value
  max : value → value → value
  /-- The nearest value between two bounds, the lower one first. -/
  clamp : value → value → value → value

/-- Exact arithmetic. -/
instance : Scalar Rat where
  ofRat value := value
  add left right := left + right
  sub left right := left - right
  mul left right := left * right
  div left right := left / right
  neg operand := -operand
  max left right := if right < left then left else right
  clamp operand lower upper :=
    if operand < lower then lower
    else if upper < operand then upper
    else operand

/--
Rounded arithmetic.  The larger of a number and a not-a-number is the number,
and clamping leaves a not-a-number as it is.
-/
instance : Scalar Float32 where
  ofRat value :=
    (Float.ofInt value.num / Float.ofNat value.den).toFloat32
  add left right := left + right
  sub left right := left - right
  mul left right := left * right
  div left right := left / right
  neg operand := -operand
  max left right := if right < left then left else right
  clamp operand lower upper :=
    if operand < lower then lower
    else if upper < operand then upper
    else operand

end ShaderSynth
