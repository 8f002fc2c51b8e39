import ShaderSynth.Proofs.Combiner.Machine
import ShaderSynth.Proofs.Glsl.Names

/-!
# Running combiner statements

What the statements of the combiners do when a shader runs them one after the
other.  Variables hold colors and are known by their names.  An expression is
a vector of components, a whole number or a truth value.  Arithmetic takes
vectors component by component, and a single component stands for as many as
the other side has.

`Yields` says that an expression is a certain vector, with one rule for each
form of expression.
-/

namespace ShaderSynth.Combiner

open Glsl (Expr Operator Statement pick)

variable {value : Type}

/-! ## Data -/

/-- What an expression stands for. -/
inductive Datum (value : Type) where
  | vector (components : List value)
  | word (number : UInt32)
  | truth (holds : Bool)

/-- The components of a color in order. -/
def Color.toList (color : Color value) : List value :=
  [color.r, color.g, color.b, color.a]

/-- Replaces the component of a letter. -/
def Color.set (color : Color value) (component : value) :
    Char → Option (Color value)
  | 'r' => some { color with r := component }
  | 'g' => some { color with g := component }
  | 'b' => some { color with b := component }
  | 'a' => some { color with a := component }
  | _ => none

/-- Replaces the components of letters, as many as there are values. -/
def Color.setAll (color : Color value) :
    List Char → List value → Option (Color value)
  | [], [] => some color
  | letter :: letters, component :: components => do
      let changed ← color.set component letter
      changed.setAll letters components
  | _, _ => none

/-- The letters of the components, in order. -/
def channels : List Char := ['r', 'g', 'b', 'a']

/-- A whole number in the text of an unsigned literal. -/
def unsignedLiteral? (text : String) : Option UInt32 :=
  let digits := text.toList.dropLast
  if text.toList.getLast? = some 'u' ∧ digits.all Char.isDigit then
    some (.ofNat (Nat.ofDigitChars 10 digits 0))
  else none

/-- Takes two vectors component by component. -/
def lift (operation : value → value → value) :
    List value → List value → Option (List value)
  | [left], rights => some (rights.map (operation left))
  | lefts, [right] => some (lefts.map (operation · right))
  | lefts, rights =>
      if lefts.length = rights.length then
        some (List.zipWith operation lefts rights)
      else none

theorem lift_single_left
    (operation : value → value → value) (left : value)
    (rights : List value) :
    lift operation [left] rights = some (rights.map (operation left)) :=
  rfl

theorem lift_single_right
    (operation : value → value → value) (lefts : List value)
    (right : value) :
    lift operation lefts [right] = some (lefts.map (operation · right)) := by
  match lefts with
  | [] => rfl
  | [_] => rfl
  | _ :: _ :: _ => rfl

/-! ## Variables -/

/-- The values of variables. -/
structure Environment (value : Type) where
  colors : String → Color value

namespace Environment

/-- Gives a variable another color. -/
def set (environment : Environment value) (target : String)
    (color : Color value) :
    Environment value :=
  ⟨Function.update environment.colors target color⟩

theorem colors_set_self
    (environment : Environment value) (target : String)
    (color : Color value) :
    (environment.set target color).colors target = color :=
  Function.update_self ..

theorem colors_set_of_ne
    (environment : Environment value) {target other : String}
    (color : Color value) (different : other ≠ target) :
    (environment.set target color).colors other =
      environment.colors other :=
  Function.update_of_ne different ..

end Environment

section Arithmetic

variable [Arithmetic value]

/-! ## Operators and functions -/

/-- The result of an operator. -/
def Datum.operate :
    Operator → Datum value → Datum value → Option (Datum value)
  | .add, .vector left, .vector right =>
      (lift Scalar.add left right).map .vector
  | .sub, .vector left, .vector right =>
      (lift Scalar.sub left right).map .vector
  | .mul, .vector left, .vector right =>
      (lift Scalar.mul left right).map .vector
  | .div, .vector left, .vector right =>
      (lift Scalar.div left right).map .vector
  | .greaterEqual, .vector [left], .vector [right] =>
      some (.truth (Arithmetic.atLeast left right))
  | .bitAnd, .word left, .word right => some (.word (left &&& right))
  | .equal, .word left, .word right => some (.truth (left == right))
  | _, _, _ => none

/-- The way from vectors to others, as far as weights say in each component. -/
def blend (starts ends weights : List value) : List value :=
  List.zipWith Scalar.add
    (List.zipWith
      (fun start weight =>
        Scalar.mul start (Scalar.sub (Scalar.ofRat 1) weight))
      starts weights)
    (List.zipWith Scalar.mul ends weights)

/-- The result of a function of the shading language. -/
def Datum.apply :
    String → List (Datum value) → Option (Datum value)
  | "max", [.vector left, .vector right] =>
      (lift Scalar.max left right).map .vector
  | "clamp", [.vector components, .vector [lower], .vector [upper]] =>
      some (.vector (components.map (Scalar.clamp · lower upper)))
  | "dot", [.vector left, .vector right] =>
      if left.length = right.length then
        some (.vector
          [Registers.total (List.zipWith Scalar.mul left right)])
      else none
  | "mix", [.vector starts, .vector ends, .vector weights] =>
      if starts.length = weights.length ∧ ends.length = weights.length then
        some (.vector (blend starts ends weights))
      else none
  | "vec3", [.vector [each]] => some (.vector [each, each, each])
  | "vec3", [.vector [r, g, b]] => some (.vector [r, g, b])
  | "vec4", [.vector [r, g, b], .vector [a]] => some (.vector [r, g, b, a])
  | "uint", [.vector [component]] =>
      some (.word (Arithmetic.toWord component))
  | _, _ => none

/-! ## Expressions and statements -/

namespace Environment

/-- What an expression stands for; arguments stand for several things. -/
def eval (environment : Environment value) :
    Expr → Option (List (Datum value))
  | .name identifier => some [.vector (environment.colors identifier).toList]
  | .number number => some [.vector [Scalar.ofRat number]]
  | .literal text => do
      let number ← unsignedLiteral? text
      return [.word number]
  | .select inner letters => do
      let found ← environment.eval inner
      match found with
      | [.vector components] =>
          let picked ← pick channels letters.toList components
          return [.vector picked]
      | _ => none
  | .call function arguments => do
      let given ← environment.eval arguments
      let result ← Datum.apply function given
      return [result]
  | .comma _ first rest => do
      let before ← environment.eval first
      let after ← environment.eval rest
      return before ++ after
  | .binary operator _ left right => do
      let first ← environment.eval left
      let second ← environment.eval right
      match first, second with
      | [first], [second] =>
          let result ← Datum.operate operator first second
          return [result]
      | _, _ => none
  | .negate operand => do
      let found ← environment.eval operand
      match found with
      | [.vector components] => return [.vector (components.map Scalar.neg)]
      | _ => none
  | .group inner => environment.eval inner
  | .choose condition whenTrue whenFalse => do
      let test ← environment.eval condition
      match test with
      | [.truth true] => environment.eval whenTrue
      | [.truth false] => environment.eval whenFalse
      | _ => none
  | .element _ _ | .not _ | .broken _ _ => none

/--
Runs a statement.  Statements that general stages do not use have no meaning
here.
-/
def run (environment : Environment value) :
    Statement → Option (Environment value)
  | .remark _ => some environment
  | .assign (.select (.name target) letters) .set expression => do
      let found ← environment.eval expression
      match found with
      | [.vector components] =>
          let color ←
            (environment.colors target).setAll letters.toList components
          return environment.set target color
      | _ => none
  | _ => none

/-- Runs statements in their order. -/
def runAll (environment : Environment value) :
    List Statement → Option (Environment value)
  | [] => some environment
  | statement :: rest => do
      let after ← environment.run statement
      after.runAll rest

theorem runAll_append
    (environment : Environment value) (first rest : List Statement) :
    environment.runAll (first ++ rest) =
      (environment.runAll first).bind (·.runAll rest) := by
  induction first generalizing environment with
  | nil => rfl
  | cons statement others ih =>
      simp only [List.cons_append, runAll, bind, Option.bind_assoc]
      congr 1
      funext after
      exact ih after

theorem runAll_singleton
    (environment : Environment value) (statement : Statement) :
    environment.runAll [statement] = environment.run statement :=
  Option.bind_fun_some _

/-! ## Rules for vectors -/

/-- An expression is a vector. -/
def Yields (environment : Environment value) (expression : Expr)
    (components : List value) : Prop :=
  environment.eval expression = some [.vector components]

variable {environment : Environment value} {expression left right : Expr}
variable {components lefts rights : List value}

theorem yields_name (identifier : String) :
    environment.Yields (.name identifier)
      (environment.colors identifier).toList :=
  rfl

theorem yields_number (number : Rat) :
    environment.Yields (.number number) [Scalar.ofRat number] :=
  rfl

/-- A number that is written with one decimal place. -/
theorem yields_decimal {tenths : Nat} {number : Rat}
    (same : mkRat tenths 10 = number) :
    environment.Yields (OfScientific.ofScientific tenths true 1)
      [Scalar.ofRat number] := by
  change environment.eval (.number (Rat.ofScientific tenths true 1)) = _
  rw [Rat.ofScientific_true_def, ← same]
  rfl

theorem Yields.congr (inner : environment.Yields expression components)
    (same : components = lefts) :
    environment.Yields expression lefts :=
  same ▸ inner

theorem Yields.group (inner : environment.Yields expression components) :
    environment.Yields (.group expression) components :=
  inner

theorem Yields.negate (inner : environment.Yields expression components) :
    environment.Yields (-expression) (components.map Scalar.neg) := by
  change environment.eval (.negate expression) = _
  simp only [eval, show environment.eval expression = _ from inner]
  rfl

theorem Yields.select {letters : String} {picked : List value}
    (inner : environment.Yields expression components)
    (found : pick channels letters.toList components = some picked) :
    environment.Yields (expression.select letters) picked := by
  simp only [Yields, eval, show environment.eval expression = _ from inner,
    bind, Option.bind, found]
  rfl

/-- Operators that take vectors component by component. -/
theorem Yields.binary
    {operator : Operator} {operation : value → value → value}
    {results : List value}
    (lifted : ∀ first second : List value,
      Datum.operate operator (.vector first) (.vector second) =
        (lift operation first second).map .vector)
    (first : environment.Yields left lefts)
    (second : environment.Yields right rights)
    (result : lift operation lefts rights = some results) :
    environment.Yields (.binary operator .loose left right) results := by
  simp only [Yields, eval, show environment.eval left = _ from first,
    show environment.eval right = _ from second, bind, Option.bind, lifted,
    result]
  rfl

theorem Yields.add {results : List value}
    (first : environment.Yields left lefts)
    (second : environment.Yields right rights)
    (result : lift Scalar.add lefts rights = some results) :
    environment.Yields (left + right) results :=
  Yields.binary (fun _ _ => rfl) first second result

theorem Yields.sub {results : List value}
    (first : environment.Yields left lefts)
    (second : environment.Yields right rights)
    (result : lift Scalar.sub lefts rights = some results) :
    environment.Yields (left - right) results :=
  Yields.binary (fun _ _ => rfl) first second result

theorem Yields.mul {results : List value}
    (first : environment.Yields left lefts)
    (second : environment.Yields right rights)
    (result : lift Scalar.mul lefts rights = some results) :
    environment.Yields (left * right) results :=
  Yields.binary (fun _ _ => rfl) first second result

theorem Yields.div {results : List value}
    (first : environment.Yields left lefts)
    (second : environment.Yields right rights)
    (result : lift Scalar.div lefts rights = some results) :
    environment.Yields (left / right) results :=
  Yields.binary (fun _ _ => rfl) first second result

theorem Yields.call {function : String} {results : List value}
    (inner : environment.Yields expression components)
    (result : Datum.apply function [.vector components] =
      some (.vector results)) :
    environment.Yields (.call function expression) results := by
  simp only [Yields, eval, show environment.eval expression = _ from inner,
    bind, Option.bind, result]
  rfl

theorem Yields.call2 {function : String} {results : List value}
    (first : environment.Yields left lefts)
    (second : environment.Yields right rights)
    (result : Datum.apply function [.vector lefts, .vector rights] =
      some (.vector results)) :
    environment.Yields (.call2 function left right) results := by
  simp only [Yields, Expr.call2, eval,
    show environment.eval left = _ from first,
    show environment.eval right = _ from second, bind, Option.bind, pure,
    List.cons_append, List.nil_append, result]

/-- The larger of each component and a bound. -/
theorem Yields.max {bound : value}
    (first : environment.Yields left lefts)
    (second : environment.Yields right [bound]) :
    environment.Yields (.call2 "max" left right)
      (lefts.map (Scalar.max · bound)) := by
  refine Yields.call2 first second ?_
  change (lift Scalar.max lefts [bound]).map Datum.vector = _
  rw [lift_single_right]
  rfl

/-- Each component between two bounds. -/
theorem Yields.clamp
    {lower upper : Expr} {least greatest : value}
    (inner : environment.Yields expression components)
    (first : environment.Yields lower [least])
    (second : environment.Yields upper [greatest]) :
    environment.Yields (.call3 "clamp" expression lower upper)
      (components.map (Scalar.clamp · least greatest)) := by
  simp only [Yields, Expr.call3, eval,
    show environment.eval expression = _ from inner,
    show environment.eval lower = _ from first,
    show environment.eval upper = _ from second, bind, Option.bind, pure,
    List.cons_append, List.nil_append]
  rfl

/-- Vectors that are mixed are as long as their weights. -/
theorem Yields.mix
    {weight : Expr} {starts ends weights : List value}
    (first : environment.Yields left starts)
    (second : environment.Yields right ends)
    (third : environment.Yields weight weights)
    (startsLength : starts.length = weights.length)
    (endsLength : ends.length = weights.length) :
    environment.Yields (.call3 "mix" left right weight)
      (blend starts ends weights) := by
  have mixed :
      Datum.apply "mix" [.vector starts, .vector ends, .vector weights] =
        some (.vector (blend starts ends weights)) :=
    if_pos ⟨startsLength, endsLength⟩
  simp only [Yields, Expr.call3, eval,
    show environment.eval left = _ from first,
    show environment.eval right = _ from second,
    show environment.eval weight = _ from third, bind, Option.bind, pure,
    List.cons_append, List.nil_append, mixed]

theorem Yields.run_assign {target letters : String} {color : Color value}
    (inner : environment.Yields expression components)
    (changed : (environment.colors target).setAll letters.toList components =
      some color) :
    environment.run (.set (.of target letters) expression) =
      some (environment.set target color) := by
  simp only [Statement.set, Expr.of, Environment.run,
    show environment.eval expression = _ from inner, bind, Option.bind,
    changed]
  rfl

end Environment

end Arithmetic

end ShaderSynth.Combiner
