import ShaderSynth.Microcode.Statement
import ShaderSynth.Proofs.Glsl.Names
import ShaderSynth.Proofs.Microcode.Machine

/-!
# Running shader statements

What the statements emitted for a vertex program do when they run one after
the other.  Variables are known by their names.  The definition of an opcode
widens its inputs to four components, computes, and assigns the components of
the result that its mask names; `R12` is defined as another name of `oPos`.
-/

namespace ShaderSynth.Microcode

open Glsl

variable {scalar : Type}

/-! ## Components by their letters -/

namespace Vec4

/-- The components in order. -/
def toList (vector : Vec4 scalar) : List scalar :=
  [vector.x, vector.y, vector.z, vector.w]

/-- One to four components, filled up with the last one. -/
def widen : List scalar → Option (Vec4 scalar)
  | [x] => some ⟨x, x, x, x⟩
  | [x, y] => some ⟨x, y, y, y⟩
  | [x, y, z] => some ⟨x, y, z, z⟩
  | [x, y, z, w] => some ⟨x, y, z, w⟩
  | _ => none

/-- Replaces the component of a letter. -/
def put (vector : Vec4 scalar) (value : scalar) : Char → Option (Vec4 scalar)
  | 'x' => some { vector with x := value }
  | 'y' => some { vector with y := value }
  | 'z' => some { vector with z := value }
  | 'w' => some { vector with w := value }
  | _ => none

/-- Replaces the components of letters, as many as there are values. -/
def putAll (vector : Vec4 scalar) :
    List Char → List scalar → Option (Vec4 scalar)
  | [], [] => some vector
  | letter :: letters, value :: values => do
      let changed ← vector.put value letter
      changed.putAll letters values
  | _, _ => none

end Vec4

/-- The letters of the components, in order. -/
def coordinates : List Char := ['x', 'y', 'z', 'w']

theorem place_letter (vector : Vec4 scalar) (selector : UInt8) :
    (do
      let place ← coordinates.idxOf? (Swizzle.letter selector)
      vector.toList[place]?) =
      some (vector.component selector) := by
  unfold Swizzle.letter Vec4.component
  generalize (selector &&& 3).toNat = place
  match place with
  | 0 => rfl
  | 1 => rfl
  | 2 => rfl
  | _ + 3 => rfl

theorem pick_letters (vector : Vec4 scalar) (selectors : List UInt8) :
    pick coordinates (selectors.map Swizzle.letter) vector.toList =
      some (selectors.map vector.component) := by
  unfold pick
  induction selectors with
  | nil => rfl
  | cons selector rest ih =>
      rw [List.map_cons, List.mapM_cons, place_letter, ih]
      rfl

/-- A short selection is widened to the whole of it. -/
theorem widen_selected (vector : Vec4 scalar) {selection : Swizzle}
    (written : selection ≠ .identity) :
    Vec4.widen ((selection.toList.take selection.letterCount).map
        vector.component) =
      some (vector.swizzle selection) := by
  unfold Swizzle.letterCount
  rw [if_neg written]
  simp only [Swizzle.toList, Vec4.swizzle]
  split
  · rename_i equal
    simp [Vec4.widen, equal]
  · split
    · rename_i equal
      simp [Vec4.widen, equal]
    · split
      · rename_i equal
        simp [Vec4.widen, equal]
      · rfl

theorem widen_map (change : scalar → scalar) (values : List scalar) :
    Vec4.widen (values.map change) =
      (Vec4.widen values).map (Vec4.map change) := by
  match values with
  | [] | [_] | [_, _] | [_, _, _] | [_, _, _, _] => rfl
  | _ :: _ :: _ :: _ :: _ :: _ => rfl

theorem toList_letters (mask : Mask) :
    mask.letters.toList =
      (if mask.x then ['x'] else []) ++ (if mask.y then ['y'] else []) ++
        (if mask.z then ['z'] else []) ++ (if mask.w then ['w'] else []) := by
  have letter (reached : Bool) (text : String) :
      (if reached then text else "").toList =
        if reached then text.toList else [] := by
    cases reached <;> rfl
  simp only [Mask.letters, String.toList_append, letter]
  rfl

/-- A masked assignment replaces the components that the mask reaches. -/
theorem putAll_pick_letters (mask : Mask) (result old : Vec4 scalar) :
    (do
      let values ← pick coordinates mask.letters.toList result.toList
      old.putAll mask.letters.toList values) =
      some (result.blend mask old) := by
  rw [toList_letters]
  rcases mask with ⟨_ | _, _ | _, _ | _, _ | _⟩ <;> rfl

/-! ## Expressions -/

/-- The values of variables. -/
structure Environment (scalar : Type) where
  vectors : String → Vec4 scalar
  integers : String → Int
  arrays : String → Int → Vec4 scalar

/-- The variable that a name stands for. -/
def variableOf (name : String) : String :=
  if name = "R12" then "oPos" else name

namespace Environment

/-- The value of an expression for a whole number. -/
def integer (environment : Environment scalar) : Expr → Option Int
  | .name identifier => some (environment.integers identifier)
  | .literal text =>
      if text.toList.all Char.isDigit then
        some (Nat.ofDigitChars 10 text.toList 0)
      else none
  | .binary .add _ left right => do
      let first ← environment.integer left
      let second ← environment.integer right
      return first + second
  | _ => none

/-- The components of an expression. -/
def components
    (meaning : Interpretation scalar) (environment : Environment scalar) :
    Expr → Option (List scalar)
  | .name identifier =>
      some (environment.vectors (variableOf identifier)).toList
  | .element (.name array) index => do
      let place ← environment.integer index
      return (environment.arrays array place).toList
  | .select vector letters => do
      let values ← environment.components meaning vector
      pick coordinates letters.toList values
  | .negate operand => do
      let values ← environment.components meaning operand
      return values.map meaning.negate
  | _ => none

/-- An expression as an input of an opcode. -/
def input
    (meaning : Interpretation scalar) (environment : Environment scalar)
    (expression : Expr) :
    Option (Vec4 scalar) := do
  let values ← environment.components meaning expression
  Vec4.widen values

/-! ## Statements -/

/-- Assigns components of a variable. -/
def assign
    (environment : Environment scalar) (target : String)
    (letters : List Char) (values : List scalar) :
    Option (Environment scalar) := do
  let changed := variableOf target
  let vector ← (environment.vectors changed).putAll letters values
  return { environment with
    vectors := Function.update environment.vectors changed vector }

/-- Assigns a whole number. -/
def assignInteger
    (environment : Environment scalar) (target : String) (value : Int) :
    Environment scalar :=
  { environment with
    integers := Function.update environment.integers target value }

/-- The arguments that commas separate. -/
def arguments : Expr → List Expr
  | .comma _ first rest => arguments first ++ [rest]
  | expression => [expression]

/-- Runs an address load. -/
def runAddress
    (meaning : Interpretation scalar) (environment : Environment scalar) :
    List Expr → Option (Environment scalar)
  | [.name target, source] => do
      let value ← environment.input meaning source
      return environment.assignInteger target (meaning.address value)
  | _ => none

/-- Runs any other opcode. -/
def runOpcode
    (meaning : Interpretation scalar) (environment : Environment scalar)
    (mnemonic : String) :
    List Expr → Option (Environment scalar)
  | .name target :: .name mask :: sources => do
      let inputs ← sources.mapM (environment.input meaning)
      let result := meaning.compute mnemonic inputs
      let values ← pick coordinates mask.toList result.toList
      environment.assign target mask.toList values
  | _ => none

/--
Runs a statement.  A variable that is assigned as a whole is a whole number;
statements that vertex programs do not use have no meaning here.
-/
def run
    (meaning : Interpretation scalar) (environment : Environment scalar) :
    Glsl.Statement → Option (Environment scalar)
  | .blank | .comment _ => some environment
  | .invoke mnemonic (some given) =>
      if mnemonic = MacOp.arl.mnemonic then
        environment.runAddress meaning (arguments given)
      else environment.runOpcode meaning mnemonic (arguments given)
  | .assign (.name target) .set value => do
      let number ← environment.integer value
      return environment.assignInteger target number
  | .assign (.select (.name target) letters) .set value => do
      let values ← environment.components meaning value
      environment.assign target letters.toList values
  | _ => none

/-- Runs lines in their order. -/
def runLines (meaning : Interpretation scalar) :
    List Line → Environment scalar → Option (Environment scalar)
  | [], environment => some environment
  | line :: rest, environment => do
      let after ← environment.run meaning line.statement
      runLines meaning rest after

end Environment

end ShaderSynth.Microcode
