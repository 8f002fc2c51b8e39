/-!
# Shader expressions

Expressions of the shading language as data, together with the way they are
written.  Spacing and parentheses are part of an expression: `group` writes
parentheses and nothing else does, so the text of an expression is read off
its structure alone.
-/

namespace ShaderSynth.Glsl

/-- Operators between two operands. -/
inductive Operator where
  | add
  | sub
  | mul
  | div
  | less
  | lessEqual
  | greater
  | greaterEqual
  | equal
  | notEqual
  | bitAnd
  | or
deriving DecidableEq, Repr

/-- The sign of an operator. -/
def Operator.symbol : Operator → String
  | add => "+"
  | sub => "-"
  | mul => "*"
  | div => "/"
  | less => "<"
  | lessEqual => "<="
  | greater => ">"
  | greaterEqual => ">="
  | equal => "=="
  | notEqual => "!="
  | bitAnd => "&"
  | or => "||"

/-- How an operator or a comma is set off from its operands. -/
inductive Spacing where
  | loose
  | tight
  /-- The operator starts a new line, after so many blanks. -/
  | folded (indent : Nat)
deriving DecidableEq, Repr

/-- So many blanks. -/
def blanks (count : Nat) : String :=
  String.ofList (List.replicate count ' ')

/-- An operator sign with the space around it. -/
def Spacing.around (sign : String) : Spacing → String
  | loose => " " ++ sign ++ " "
  | tight => sign
  | folded indent => "\n" ++ blanks indent ++ sign ++ " "

/-- A comma with the space after it. -/
def Spacing.comma : Spacing → String
  | loose => ", "
  | tight => ","
  | folded indent => ",\n" ++ blanks indent

/-- Expressions. -/
inductive Expr where
  | name (identifier : String)
  /-- A number, written with one decimal place. -/
  | number (value : Rat)
  /-- A number in a form of its own: integers, hexadecimals, longer fractions. -/
  | literal (text : String)
  | select (vector : Expr) (components : String)
  | element (array index : Expr)
  | call (function : String) (arguments : Expr)
  /-- Arguments, one after the other. -/
  | comma (spacing : Spacing) (first rest : Expr)
  | binary (operator : Operator) (spacing : Spacing) (left right : Expr)
  | negate (operand : Expr)
  | not (operand : Expr)
  | group (inner : Expr)
  | choose (condition whenTrue whenFalse : Expr)
  /-- An expression that starts on a new line, after so many blanks. -/
  | broken (indent : Nat) (inner : Expr)
deriving DecidableEq, Repr

/-- The text of a number with one decimal place, rounded toward zero. -/
def decimalText (value : Rat) : String :=
  let sign := if value < 0 then "-" else ""
  let tenths := (value.num.natAbs * 10) / value.den
  sign ++ toString (tenths / 10) ++ "." ++ toString (tenths % 10)

namespace Expr

/-- The text of an expression. -/
def text : Expr → String
  | name identifier => identifier
  | number value => decimalText value
  | literal text => text
  | select vector components => vector.text ++ "." ++ components
  | element array index => array.text ++ "[" ++ index.text ++ "]"
  | call function arguments => function ++ "(" ++ arguments.text ++ ")"
  | comma spacing first rest => first.text ++ spacing.comma ++ rest.text
  | binary operator spacing left right =>
      left.text ++ spacing.around operator.symbol ++ right.text
  | negate operand => "-" ++ operand.text
  | not operand => "!" ++ operand.text
  | group inner => "(" ++ inner.text ++ ")"
  | choose condition whenTrue whenFalse =>
      condition.text ++ " ? " ++ whenTrue.text ++ " : " ++ whenFalse.text
  | broken indent inner => "\n" ++ blanks indent ++ inner.text

instance : Coe String Expr := ⟨name⟩

instance : OfScientific Expr where
  ofScientific mantissa negative exponent :=
    number (OfScientific.ofScientific mantissa negative exponent)

instance : Add Expr := ⟨binary .add .loose⟩

instance : Sub Expr := ⟨binary .sub .loose⟩

instance : Mul Expr := ⟨binary .mul .loose⟩

instance : Div Expr := ⟨binary .div .loose⟩

instance : Neg Expr := ⟨negate⟩

/-- Components of a named vector. -/
def of (vector components : String) : Expr :=
  select (name vector) components

/-- A whole number. -/
def int (value : Nat) : Expr :=
  literal (toString value)

/-- A call with two arguments. -/
def call2 (function : String) (first second : Expr) : Expr :=
  call function (comma .loose first second)

/-- A call with three arguments. -/
def call3 (function : String) (first second third : Expr) : Expr :=
  call function (comma .loose (comma .loose first second) third)

/-- A call with four arguments. -/
def call4 (function : String) (first second third fourth : Expr) : Expr :=
  call function
    (comma .loose (comma .loose (comma .loose first second) third) fourth)

/-- A comparison. -/
def compare (operator : Operator) (left right : Expr) : Expr :=
  binary operator .loose left right

end Expr

end ShaderSynth.Glsl
