import ShaderSynth.Glsl.Source

/-!
# Names in shader sources

The uniforms that items declare at file level, and the names that the lines of
a function mention.  Verbatim text has no structure to read names from, so it
counts as what it could be: a declaration, or a mention of any name.
-/

namespace ShaderSynth.Glsl

/-! ## Numbers -/

theorem isDigit_of_mem_toDigits {number : Nat} {letter : Char}
    (member : letter ∈ Nat.toDigits 10 number) : letter.isDigit = true :=
  Nat.isDigit_of_mem_toDigits (by decide) (by decide) member

theorem toDigits_inj {first second : Nat}
    (same : Nat.toDigits 10 first = Nat.toDigits 10 second) :
    first = second := by
  simpa using congrArg (Nat.ofDigitChars 10 · 0) same

/-- Names with one stem are told apart by their numbers. -/
theorem number_inj {stem : String} {first second : Nat}
    (same : stem ++ toString first = stem ++ toString second) :
    first = second := by
  apply toDigits_inj
  simpa [Nat.toString_eq_ofList_toDigits] using congrArg String.toList same

/-- The text of a number has digits only, which are read as that number. -/
theorem digits_toString (number : Nat) :
    (toString number).toList.all Char.isDigit = true ∧
      Nat.ofDigitChars 10 (toString number).toList 0 = number := by
  rw [Nat.toString_eq_repr, Nat.toList_repr]
  constructor
  · exact List.all_eq_true.mpr fun letter => isDigit_of_mem_toDigits
  · exact Nat.ofDigitChars_ten_toDigits

/-! ## Declarations -/

/-- What an item declares as a uniform: a name, and the length of an array. -/
def Item.uniforms : Item → List (String × Option Nat)
  | .uniform _ name count => [(name, count)]
  | .verbatim lines =>
      (lines.filter fun line => line.startsWith "uniform").map
        fun line => (line, none)
  | _ => []

/-- The uniforms that items declare. -/
def uniforms (items : List Item) : List (String × Option Nat) :=
  items.flatMap Item.uniforms

/-- The names of the uniforms that items declare. -/
def uniformNames (items : List Item) : List String :=
  (uniforms items).map fun entry => entry.1

@[simp]
theorem uniforms_append (first second : List Item) :
    uniforms (first ++ second) = uniforms first ++ uniforms second :=
  List.flatMap_append

theorem uniforms_flatMap {index : Type} (list : List index)
    (items : index → List Item) :
    uniforms (list.flatMap items) =
      list.flatMap fun number => uniforms (items number) :=
  List.flatMap_assoc

theorem uniforms_eq_nil {items : List Item}
    (nothing : ∀ item ∈ items, item.uniforms = []) :
    uniforms items = [] :=
  List.flatMap_eq_nil_iff.mpr nothing

theorem uniforms_constants (type : Ty) (names : List String) :
    uniforms (names.map fun name => .uniform type name none) =
      names.map fun name => (name, none) := by
  induction names with
  | nil => rfl
  | cons name rest ih => exact congrArg _ ih

@[simp]
theorem uniformNames_append (first second : List Item) :
    uniformNames (first ++ second) =
      uniformNames first ++ uniformNames second := by
  rw [uniformNames, uniforms_append, List.map_append]
  rfl

theorem mem_uniformNames_flatMap {index : Type} {list : List index}
    {items : index → List Item} {name : String} :
    name ∈ uniformNames (list.flatMap items) ↔
      ∃ number ∈ list, name ∈ uniformNames (items number) := by
  rw [uniformNames, uniforms_flatMap, List.map_flatMap, List.mem_flatMap]
  rfl

/-- The names under which a renderer finds a uniform. -/
def slotNames : String × Option Nat → List String
  | (name, none) => [name]
  | (name, some count) => (List.range count).map (elementText name)

/-! ## Mentions -/

/-- Whether an expression mentions a name that passes a test. -/
@[simp]
def Expr.mentions (test : String → Bool) : Expr → Bool
  | .name identifier => test identifier
  | .number _ | .literal _ => false
  | .select vector _ => vector.mentions test
  | .element array index => array.mentions test || index.mentions test
  | .call function arguments => test function || arguments.mentions test
  | .comma _ first rest => first.mentions test || rest.mentions test
  | .binary _ _ left right => left.mentions test || right.mentions test
  | .negate operand | .not operand => operand.mentions test
  | .group inner | .broken _ inner => inner.mentions test
  | .choose condition whenTrue whenFalse =>
      condition.mentions test || whenTrue.mentions test
        || whenFalse.mentions test

/-- Whether the head of a block mentions a name that passes a test. -/
def Opening.mentions (test : String → Bool) : Opening → Bool
  | .when condition | .otherwiseWhen condition => condition.mentions test
  | .otherwise | .scope _ => false
  | .count counter _ => test counter

/-- Whether a statement mentions a name that passes a test. -/
def Statement.mentions (test : String → Bool) : Statement → Bool
  | .declare _ name value _ => test name || value.any (Expr.mentions test)
  | .assign target _ value => target.mentions test || value.mentions test
  | .invoke function arguments =>
      test function || arguments.any (Expr.mentions test)
  | .guard _ condition _ => condition.mentions test
  | .enter opening => opening.mentions test
  | .blank | .comment _ | .remark _ | .jump _ | .leave => false
  | .verbatim _ => true

/-- Whether one of the lines mentions a name that passes a test. -/
def mentions (test : String → Bool) (lines : List Line) : Bool :=
  lines.any fun line => line.statement.mentions test

@[simp]
theorem mentions_nil (test : String → Bool) : mentions test [] = false :=
  rfl

@[simp]
theorem mentions_cons (test : String → Bool) (line : Line)
    (rest : List Line) :
    mentions test (line :: rest) =
      (line.statement.mentions test || mentions test rest) :=
  rfl

@[simp]
theorem mentions_append (test : String → Bool) (first second : List Line) :
    mentions test (first ++ second) =
      (mentions test first || mentions test second) :=
  List.any_append

theorem mentions_flatMap {index : Type} (test : String → Bool)
    (list : List index) (lines : index → List Line) :
    mentions test (list.flatMap lines) =
      list.any fun number => mentions test (lines number) :=
  List.any_flatMap

/-! Mentions in the derived forms of expressions and statements. -/

section Forms

variable (test : String → Bool) (left right first second third : Expr)

@[simp]
theorem Expr.mentions_add :
    (left + right).mentions test =
      (left.mentions test || right.mentions test) :=
  rfl

@[simp]
theorem Expr.mentions_sub :
    (left - right).mentions test =
      (left.mentions test || right.mentions test) :=
  rfl

@[simp]
theorem Expr.mentions_mul :
    (left * right).mentions test =
      (left.mentions test || right.mentions test) :=
  rfl

@[simp]
theorem Expr.mentions_div :
    (left / right).mentions test =
      (left.mentions test || right.mentions test) :=
  rfl

@[simp]
theorem Expr.mentions_neg :
    (-left).mentions test = left.mentions test :=
  rfl

@[simp]
theorem Expr.mentions_compare (operator : Operator) :
    (Expr.compare operator left right).mentions test =
      (left.mentions test || right.mentions test) :=
  rfl

@[simp]
theorem Expr.mentions_scientific
    (mantissa : Nat) (negative : Bool) (exponent : Nat) :
    (OfScientific.ofScientific mantissa negative exponent : Expr).mentions
      test = false :=
  rfl

@[simp]
theorem Expr.mentions_int (value : Nat) :
    (Expr.int value).mentions test = false :=
  rfl

@[simp]
theorem Expr.mentions_of (vector components : String) :
    (Expr.of vector components).mentions test = test vector :=
  rfl

@[simp]
theorem Expr.mentions_call2 (function : String) :
    (Expr.call2 function first second).mentions test =
      (test function || (first.mentions test || second.mentions test)) :=
  rfl

@[simp]
theorem Expr.mentions_call3 (function : String) :
    (Expr.call3 function first second third).mentions test =
      (test function ||
        (first.mentions test || second.mentions test
          || third.mentions test)) :=
  rfl

@[simp]
theorem Statement.mentions_assign (operator : Assignment) :
    (Statement.assign left operator right).mentions test =
      (left.mentions test || right.mentions test) :=
  rfl

@[simp]
theorem Statement.mentions_set :
    (Statement.set left right).mentions test =
      (left.mentions test || right.mentions test) :=
  rfl

@[simp]
theorem Statement.mentions_define (type : Ty) (name : String) :
    (Statement.define type name right).mentions test =
      (test name || right.mentions test) :=
  rfl

@[simp]
theorem Statement.mentions_declareEmpty (type : Ty) (name : String) :
    (Statement.declareEmpty type name).mentions test = test name :=
  Bool.or_false _

@[simp]
theorem Statement.mentions_scope (note : Option String) :
    (Statement.enter (.scope note)).mentions test = false :=
  rfl

@[simp]
theorem Statement.mentions_when :
    (Statement.enter (.when left)).mentions test = left.mentions test :=
  rfl

@[simp]
theorem Statement.mentions_otherwiseWhen :
    (Statement.enter (.otherwiseWhen left)).mentions test =
      left.mentions test :=
  rfl

@[simp]
theorem Statement.mentions_otherwise :
    (Statement.enter .otherwise).mentions test = false :=
  rfl

@[simp]
theorem Statement.mentions_blank :
    Statement.blank.mentions test = false :=
  rfl

@[simp]
theorem Statement.mentions_declare (type : Ty) (name : String)
    (note : Option String) :
    (Statement.declare type name (some right) note).mentions test =
      (test name || right.mentions test) :=
  rfl

@[simp]
theorem Statement.mentions_guard (style : GuardStyle) (kind : Jump) :
    (Statement.guard style left kind).mentions test = left.mentions test :=
  rfl

@[simp]
theorem Statement.mentions_remark (text : String) :
    (Statement.remark text).mentions test = false :=
  rfl

@[simp]
theorem Statement.mentions_leave :
    Statement.leave.mentions test = false :=
  rfl

end Forms

/-- Names that pass one test pass a weaker one. -/
theorem Expr.mentions_mono {test weaker : String → Bool}
    (implied : ∀ name, test name = true → weaker name = true)
    {expression : Expr} (mentioned : expression.mentions test = true) :
    expression.mentions weaker = true := by
  induction expression with
  | name identifier => exact implied identifier mentioned
  | number _ => cases mentioned
  | literal _ => cases mentioned
  | select vector _ ih => exact ih mentioned
  | negate operand ih => exact ih mentioned
  | not operand ih => exact ih mentioned
  | group inner ih => exact ih mentioned
  | broken _ inner ih => exact ih mentioned
  | element array index first second =>
      exact Bool.or_eq_true_iff.mpr
        ((Bool.or_eq_true_iff.mp mentioned).imp first second)
  | comma _ left right first second =>
      exact Bool.or_eq_true_iff.mpr
        ((Bool.or_eq_true_iff.mp mentioned).imp first second)
  | binary _ _ left right first second =>
      exact Bool.or_eq_true_iff.mpr
        ((Bool.or_eq_true_iff.mp mentioned).imp first second)
  | call function arguments ih =>
      exact Bool.or_eq_true_iff.mpr
        ((Bool.or_eq_true_iff.mp mentioned).imp (implied function) ih)
  | choose condition whenTrue whenFalse first second third =>
      refine Bool.or_eq_true_iff.mpr
        ((Bool.or_eq_true_iff.mp mentioned).imp (fun either => ?_) third)
      exact Bool.or_eq_true_iff.mpr
        ((Bool.or_eq_true_iff.mp either).imp first second)

theorem Statement.mentions_mono {test weaker : String → Bool}
    (implied : ∀ name, test name = true → weaker name = true)
    {statement : Statement} (mentioned : statement.mentions test = true) :
    statement.mentions weaker = true := by
  have inside (value : Option Expr)
      (found : value.any (Expr.mentions test) = true) :
      value.any (Expr.mentions weaker) = true := by
    cases value with
    | none => cases found
    | some value => exact Expr.mentions_mono implied found
  cases statement with
  | declare _ name value _ =>
      exact Bool.or_eq_true_iff.mpr
        ((Bool.or_eq_true_iff.mp mentioned).imp (implied name)
          (inside value))
  | assign target _ value =>
      exact Bool.or_eq_true_iff.mpr
        ((Bool.or_eq_true_iff.mp mentioned).imp
          (Expr.mentions_mono implied) (Expr.mentions_mono implied))
  | invoke function arguments =>
      exact Bool.or_eq_true_iff.mpr
        ((Bool.or_eq_true_iff.mp mentioned).imp (implied function)
          (inside arguments))
  | guard _ condition _ => exact Expr.mentions_mono implied mentioned
  | enter opening =>
      cases opening with
      | when condition => exact Expr.mentions_mono implied mentioned
      | otherwiseWhen condition => exact Expr.mentions_mono implied mentioned
      | count counter _ => exact implied counter mentioned
      | otherwise => cases mentioned
      | scope _ => cases mentioned
  | verbatim _ => rfl
  | _ => cases mentioned

theorem mentions_mono {test weaker : String → Bool}
    (implied : ∀ name, test name = true → weaker name = true)
    {lines : List Line} (mentioned : mentions test lines = true) :
    mentions weaker lines = true := by
  obtain ⟨line, member, found⟩ := List.any_eq_true.mp mentioned
  exact List.any_eq_true.mpr
    ⟨line, member, Statement.mentions_mono implied found⟩

/-! ## Components by their letters -/

/-- The components that letters name, each by its place in an alphabet. -/
def pick {value : Type} (alphabet letters : List Char)
    (components : List value) : Option (List value) :=
  letters.mapM fun letter => do
    let place ← alphabet.idxOf? letter
    components[place]?

theorem picked_of_pick {value : Type} {alphabet letters : List Char}
    {components picked : List value}
    (found : pick alphabet letters components = some picked) :
    picked.length = letters.length ∧
      ∀ component ∈ picked, component ∈ components := by
  unfold pick at found
  induction letters generalizing picked with
  | nil =>
      cases found
      exact ⟨rfl, List.forall_mem_nil _⟩
  | cons letter rest ih =>
      rw [List.mapM_cons] at found
      obtain ⟨first, here, found⟩ := Option.bind_eq_some_iff.mp found
      obtain ⟨others, remaining, found⟩ := Option.bind_eq_some_iff.mp found
      cases found
      obtain ⟨place, -, there⟩ := Option.bind_eq_some_iff.mp here
      obtain ⟨length, members⟩ := ih remaining
      exact ⟨congrArg (· + 1) length,
        List.forall_mem_cons.mpr ⟨List.mem_of_getElem? there, members⟩⟩

end ShaderSynth.Glsl
