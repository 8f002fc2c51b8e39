import Mathlib.Data.List.Basic
import ShaderSynth.Proofs.Glsl.Names

/-!
# Local variables, calls and types

The local variables that the lines of a function declare, and the functions
that they call.  Many variables have a number in their names; names are told
apart by the stems before it.

Of the types of expressions only so much is defined as it takes to say which
coordinates a sampler is looked up at.
-/

namespace ShaderSynth.Glsl

/-! ## Stems of names -/

/-- The letters of a name before its first digit. -/
def stemOf (name : String) : String :=
  String.ofList (name.toList.takeWhile fun letter => !letter.isDigit)

/-- Whether a part of a name has no digits. -/
def unnumbered (part : String) : Bool :=
  part.toList.all fun letter => !letter.isDigit

theorem stemOf_numbered {stem : String} (plain : unnumbered stem = true)
    (number : Nat) (suffix : String) :
    stemOf (stem ++ toString number ++ suffix) = stem := by
  have letters :
      (stem ++ toString number ++ suffix).toList =
        stem.toList ++ (Nat.toDigits 10 number ++ suffix.toList) := by
    simp
  rcases List.exists_cons_of_ne_nil
    (Nat.toDigits_ne_nil (n := number) (b := 10)) with ⟨first, rest, split⟩
  have digit : first.isDigit = true :=
    isDigit_of_mem_toDigits (split ▸ List.mem_cons_self)
  rw [stemOf, letters,
    List.takeWhile_append_of_pos (List.all_eq_true.mp plain), split,
    List.cons_append, List.takeWhile_cons_of_neg (by simp [digit]),
    List.append_nil, String.ofList_toList]

/-! ## Declarations -/

/--
The local variables that a statement declares.  A verbatim line counts as the
declaration of its own text.
-/
def Statement.locals : Statement → List (String × Ty)
  | .declare type name _ _ => [(name, type)]
  | .enter (.count counter _) => [(counter, .int)]
  | .verbatim text => [(text, .void)]
  | _ => []

/-- The local variables that lines declare, in order. -/
def locals (lines : List Line) : List (String × Ty) :=
  lines.flatMap fun line => line.statement.locals

@[simp]
theorem locals_nil : locals [] = [] := rfl

@[simp]
theorem locals_cons (line : Line) (lines : List Line) :
    locals (line :: lines) = line.statement.locals ++ locals lines := rfl

@[simp]
theorem locals_append (lines rest : List Line) :
    locals (lines ++ rest) = locals lines ++ locals rest :=
  List.flatMap_append

theorem locals_flatMap {index : Type} (list : List index)
    (lines : index → List Line) :
    locals (list.flatMap lines) =
      list.flatMap fun number => locals (lines number) :=
  List.flatMap_assoc

/-- The words of a text, with an empty one where two separators meet. -/
def wordsOf (text : String) : List String :=
  (text.toList.splitOnP fun letter =>
    !(letter.isAlphanum || letter == '_')).map String.ofList

/--
The names that an item declares at file level.  A verbatim line counts as the
declaration of every word in it.
-/
def Item.declares : Item → List String
  | .uniform _ name _ | .varying _ _ _ name _ | .vertexInput _ _ name
  | .target _ name | .global _ name _ => [name]
  | .define head _ _ => [head]
  | .function definition => [definition.name]
  | .verbatim lines => lines.flatMap wordsOf
  | .version | .blank | .comment _ | .primitiveIn _ | .primitiveOut _ _ => []

/-- The names that items declare at file level, in order. -/
def globals (items : List Item) : List String :=
  items.flatMap Item.declares

theorem globals_append (items rest : List Item) :
    globals (items ++ rest) = globals items ++ globals rest :=
  List.flatMap_append

theorem globals_constants (type : Ty) (names : List String) :
    globals (names.map fun name => .uniform type name none) = names := by
  rw [globals, List.flatMap_map]
  exact List.flatMap_singleton' names

/-! ## Calls -/

/-- The functions that an expression calls. -/
def Expr.calls : Expr → List String
  | .call function arguments => function :: arguments.calls
  | .name _ | .number _ | .literal _ => []
  | .select vector _ => vector.calls
  | .element first second | .comma _ first second
  | .binary _ _ first second => first.calls ++ second.calls
  | .negate operand | .not operand => operand.calls
  | .group inner | .broken _ inner => inner.calls
  | .choose condition whenTrue whenFalse =>
      condition.calls ++ whenTrue.calls ++ whenFalse.calls

/-- The functions that the head of a block calls. -/
def Opening.calls : Opening → List String
  | .when condition | .otherwiseWhen condition => condition.calls
  | .otherwise | .scope _ | .count _ _ => []

/-- The functions that a statement calls; a verbatim line counts as one. -/
def Statement.calls : Statement → List String
  | .declare _ _ value _ => value.toList.flatMap Expr.calls
  | .assign target _ value => target.calls ++ value.calls
  | .invoke function arguments =>
      function :: arguments.toList.flatMap Expr.calls
  | .guard _ condition _ => condition.calls
  | .enter opening => opening.calls
  | .blank | .comment _ | .remark _ | .jump _ | .leave => []
  | .verbatim text => [text]

/-- The functions that lines call. -/
def calls (lines : List Line) : List String :=
  lines.flatMap fun line => line.statement.calls

@[simp]
theorem calls_append (lines rest : List Line) :
    calls (lines ++ rest) = calls lines ++ calls rest :=
  List.flatMap_append

/-- The functions that items define. -/
def functionNames (items : List Item) : List String :=
  items.filterMap fun
    | .function definition => some definition.name
    | _ => none

/-! ## Types of expressions -/

namespace Ty

/-- The number of components of a scalar or a vector. -/
def width? : Ty → Option Nat
  | float => some 1
  | vec2 => some 2
  | vec3 => some 3
  | vec4 => some 4
  | _ => none

/-- The scalar or the vector with so many components. -/
def ofWidth? : Nat → Option Ty
  | 1 => some float
  | 2 => some vec2
  | 3 => some vec3
  | 4 => some vec4
  | _ => none

/-- The place of a component in a vector. -/
def place? : Char → Option Nat
  | 'x' | 'r' | 's' => some 0
  | 'y' | 'g' | 't' => some 1
  | 'z' | 'b' | 'p' => some 2
  | 'w' | 'a' | 'q' => some 3
  | _ => none

/-- The type of components of a vector, if it has all of them. -/
def select? (type : Ty) (components : String) : Option Ty := do
  let width ← type.width?
  if 2 ≤ width ∧ components.toList.all fun letter =>
      (place? letter).any fun place => place < width then
    ofWidth? components.length
  else none

/-- The type of a sum or a product: a scalar acts on each component. -/
def operate? (left right : Ty) : Option Ty := do
  let first ← left.width?
  let second ← right.width?
  if first = second ∨ second = 1 then some left
  else if first = 1 then some right
  else none

end Ty

/-- The type of an expression, where it is that of a coordinate. -/
def Expr.type? (types : String → Option Ty) : Expr → Option Ty
  | .name identifier => types identifier
  | .number _ => some .float
  | .select vector components => do
      let type ← vector.type? types
      type.select? components
  | .group inner => inner.type? types
  | .binary .add _ left right | .binary .sub _ left right
  | .binary .mul _ left right | .binary .div _ left right => do
      let first ← left.type? types
      let second ← right.type? types
      first.operate? second
  | _ => none

namespace Expr

variable {types : String → Option Ty}

theorem type?_of {vector components : String} {type chosen : Ty}
    (found : types vector = some type)
    (selected : type.select? components = some chosen) :
    (of vector components).type? types = some chosen := by
  show ((types vector).bind fun type => type.select? components) = some chosen
  rw [found]
  exact selected

section Operators

variable {left right : Expr} {first second result : Ty}
  (typed : left.type? types = some first)
  (other : right.type? types = some second)
  (operated : first.operate? second = some result)

include typed other operated

theorem type?_add : (left + right).type? types = some result := by
  show ((left.type? types).bind fun first =>
    (right.type? types).bind first.operate?) = some result
  rw [typed, other]
  exact operated

theorem type?_mul : (left * right).type? types = some result :=
  type?_add typed other operated

theorem type?_div : (left / right).type? types = some result :=
  type?_add typed other operated

end Operators

end Expr

/-- The type of a single uniform that items declare. -/
def uniformType? (items : List Item) (name : String) : Option Ty :=
  items.findSome? fun
    | .uniform type other none => if other = name then some type else none
    | _ => none

/-- The type of a name after lines: that of a local variable, or of a uniform. -/
def typeAt? (items : List Item) (lines : List Line) (name : String) :
    Option Ty :=
  ((locals lines).lookup name).or (uniformType? items name)

theorem mem_uniformNames_of_mem {items : List Item} {type : Ty} {name : String}
    {count : Option Nat} (member : .uniform type name count ∈ items) :
    name ∈ uniformNames items :=
  List.mem_map.mpr
    ⟨(name, count), List.mem_flatMap.mpr ⟨_, member, List.mem_cons_self⟩, rfl⟩

theorem typeAt?_of_local {items : List Item} {lines : List Line}
    {name : String} {type : Ty}
    (distinct : ((locals lines).map Prod.fst).Nodup)
    (member : (name, type) ∈ locals lines) :
    typeAt? items lines name = some type := by
  have found : (locals lines).lookup name = some type := by
    rcases List.append_of_mem member with ⟨before, after, split⟩
    apply List.lookup_eq_some_iff.mpr
    refine ⟨before, after, split, fun entry listed => ?_⟩
    rw [split, List.map_append, List.nodup_append] at distinct
    rw [bne_iff_ne]
    exact (distinct.2.2 entry.1 (List.mem_map_of_mem listed) name
      List.mem_cons_self).symm
  rw [typeAt?, found]
  rfl

theorem typeAt?_of_uniform {items : List Item} {lines : List Line}
    {name : String} {type : Ty} (distinct : (uniformNames items).Nodup)
    (member : .uniform type name none ∈ items)
    (absent : name ∉ (locals lines).map Prod.fst) :
    typeAt? items lines name = some type := by
  have missing : (locals lines).lookup name = none := by
    rw [List.lookup_eq_none_iff]
    intro entry listed
    rw [bne_iff_ne]
    rintro rfl
    exact absent (List.mem_map_of_mem listed)
  have found : uniformType? items name = some type := by
    rcases List.append_of_mem member with ⟨before, after, rfl⟩
    rw [uniformNames_append, List.nodup_append] at distinct
    have earlier : ∀ item ∈ before,
        (match item with
          | .uniform type other none =>
              if other = name then some type else none
          | _ => none) = none := by
      intro item listed
      split
      · rename_i other
        apply if_neg
        rintro rfl
        exact distinct.2.2 other (mem_uniformNames_of_mem listed) other
          List.mem_cons_self rfl
      · rfl
    rw [uniformType?, List.findSome?_append,
      List.findSome?_eq_none_iff.mpr earlier, Option.none_or]
    simp
  rw [typeAt?, missing, found]
  rfl

/-- The lookups that a sampler fits, with the type of the coordinates. -/
def Sampler.lookups : Sampler → List (String × Ty)
  | flat => [("textureProj", .vec3), ("texture", .vec2)]
  | rectangle =>
      [("textureProj", .vec3), ("gaussianFilter2DRectProj", .vec3),
        ("texture", .vec2)]
  | volume => [("textureProj", .vec4), ("texture", .vec3)]
  | cube => [("texture", .vec3)]

end ShaderSynth.Glsl
