import ShaderSynth.Proofs.Glsl.Scope
import ShaderSynth.Proofs.Texture.Units

/-!
# What texture units pass on

Units leave their results and their dot products to later units.  For the code
of each mode it is said which of these variables it takes from outside, and
which ones it gives; parts of the code are joined by `Exchange.append`.

The names of these variables are a stem out of the letters of `dot`, and a
number.  Every other name in the code of a unit has another letter.
-/

namespace ShaderSynth.Texture

open Glsl

/-! ## Shared variables -/

/-- What a unit leaves to later ones: its result, and its dot product. -/
inductive Shared where
  | vector (unit : Nat)
  | product (unit : Nat)
deriving DecidableEq

namespace Shared

/-- The name of a shared variable. -/
def name : Shared → String
  | vector unit => numbered "t" unit
  | product unit => numbered "dot" unit

/-- Whether a letter is in the stem of a shared variable. -/
def isLetter : Char → Bool
  | 'd' | 'o' | 't' => true
  | _ => false

/-- Whether a name has a letter that names of shared variables have not. -/
def isOther (name : String) : Bool :=
  name.toList.any fun letter => !letter.isDigit && !isLetter letter

theorem isOther_append (first second : String) :
    isOther (first ++ second) = (isOther first || isOther second) := by
  simp [isOther]

theorem isOther_numbered {stem : String} (other : isOther stem = true)
    (number : Nat) : isOther (numbered stem number) = true := by
  rw [numbered, isOther_append, other]
  rfl

theorem isOther_suffixed {suffix : String} (other : isOther suffix = true)
    (first : String) : isOther (first ++ suffix) = true := by
  rw [isOther_append, other, Bool.or_true]

theorem isOther_name (shared : Shared) : isOther shared.name = false := by
  have digits (number : Nat) : isOther (toString number) = false := by
    rw [isOther, List.any_eq_false]
    intro letter member
    have listed : letter ∈ Nat.toDigits 10 number := by simpa using member
    simp [isDigit_of_mem_toDigits listed]
  cases shared with
  | vector unit =>
      rw [name, numbered, isOther_append, digits]
      rfl
  | product unit =>
      rw [name, numbered, isOther_append, digits]
      rfl

theorem name_ne {shared : Shared} {other : String}
    (distinct : isOther other = true) : shared.name ≠ other := by
  rintro rfl
  rw [isOther_name] at distinct
  cases distinct

theorem name_injective {first second : Shared}
    (same : first.name = second.name) : first = second := by
  have stems (one two : Nat) : numbered "t" one ≠ numbered "dot" two := by
    intro equal
    have stem := congrArg stemOf equal
    rw [stem_numbered (by decide), stem_numbered (by decide)] at stem
    exact absurd stem (by decide)
  cases first with
  | vector one =>
      cases second with
      | vector two => rw [number_inj same]
      | product two => exact absurd same (stems one two)
  | product one =>
      cases second with
      | vector two => exact absurd same.symm (stems two one)
      | product two => rw [number_inj same]

end Shared

/-- The shared variables that are among names. -/
def Among (chosen : List Shared) (names : List String) : Prop :=
  ∀ shared : Shared, shared.name ∈ names ↔ shared ∈ chosen

namespace Among

theorem nil : Among [] [] :=
  fun shared => by simp

theorem other {chosen : List Shared} {name : String} {names : List String}
    (distinct : Shared.isOther name = true) (rest : Among chosen names) :
    Among chosen (name :: names) := by
  intro shared
  rw [List.mem_cons, rest shared, or_iff_right (Shared.name_ne distinct)]

theorem cons (first : Shared) {chosen : List Shared} {names : List String}
    (rest : Among chosen names) :
    Among (first :: chosen) (first.name :: names) := by
  intro shared
  rw [List.mem_cons, List.mem_cons, rest shared]
  exact or_congr_left ⟨Shared.name_injective, congrArg _⟩

theorem again {first : Shared} {chosen : List Shared} {names : List String}
    (rest : Among (first :: chosen) names) :
    Among (first :: chosen) (first.name :: names) := by
  intro shared
  rw [Among.cons first rest shared, List.mem_cons, List.mem_cons, or_self_left]

theorem append {chosen others : List Shared} {names more : List String}
    (first : Among chosen names) (second : Among others more) :
    Among (chosen ++ others) (names ++ more) := by
  intro shared
  rw [List.mem_append, List.mem_append, first shared, second shared]

end Among

/-! ## Parts of the code -/

/-- The shared variables that lines take from outside, and those they declare. -/
structure Exchange (taken given : List Shared) (lines : List Line) : Prop where
  awaited : Among taken (awaits lines)
  declared : Among given (declared lines)

namespace Exchange

variable {taken given : List Shared}

theorem nil : Exchange [] [] [] :=
  ⟨.nil, .nil⟩

/-- Lines take what those before them have not given. -/
theorem append {others more : List Shared} {lines rest : List Line}
    (left : Exchange taken given lines) (right : Exchange others more rest) :
    Exchange (taken ++ others.filter (· ∉ given)) (given ++ more)
      (lines ++ rest) where
  awaited := by
    intro shared
    rw [mem_awaits_append, left.awaited shared, right.awaited shared,
      left.declared shared, List.mem_append, List.mem_filter,
      decide_eq_true_iff]
  declared := by
    rw [declared_append]
    exact left.declared.append right.declared

theorem congr {lines : List Line} {others more : List Shared}
    (exchange : Exchange others more lines)
    (taking : ∀ shared, shared ∈ others ↔ shared ∈ taken)
    (giving : ∀ shared, shared ∈ more ↔ shared ∈ given) :
    Exchange taken given lines :=
  ⟨fun shared => (exchange.awaited shared).trans (taking shared),
    fun shared => (exchange.declared shared).trans (giving shared)⟩

theorem line {line : Line} (used : Among taken line.statement.uses)
    (declared : Among given (Glsl.declared [line])) :
    Exchange taken given [line] where
  awaited := by
    rw [awaits, awaits, List.filter_nil, List.append_nil]
    exact used
  declared := declared

theorem define {type : Ty} {name : String} {value : Expr}
    (used : Among taken value.names) (declared : Among given [name]) :
    Exchange taken given [⟨0, .define type name value⟩] :=
  line (by rwa [Statement.uses_define]) declared

/-- A variable of the unit alone. -/
theorem defineOther {type : Ty} {name : String} {value : Expr}
    (distinct : Shared.isOther name = true)
    (used : Among taken value.names) :
    Exchange taken [] [⟨0, .define type name value⟩] :=
  define used (.other distinct .nil)

theorem comment (text : String) : Exchange [] [] [⟨0, .comment text⟩] :=
  ⟨.nil, .nil⟩

/-- Lines without shared variables. -/
theorem others {lines : List Line}
    (distinct : ∀ name ∈ lines.flatMap fun line =>
      line.statement.uses ++ Glsl.declared [line],
        Shared.isOther name = true) :
    Exchange [] [] lines := by
  have among {names : List String}
      (each : ∀ name ∈ names, Shared.isOther name = true) :
      Among [] names := by
    intro shared
    refine iff_of_false (fun member => ?_) List.not_mem_nil
    exact Shared.name_ne (each _ member) rfl
  induction lines with
  | nil => exact .nil
  | cons first rest ih =>
      simp only [List.flatMap_cons, List.forall_mem_append] at distinct
      exact (line (among distinct.1.1) (among distinct.1.2)).append
        (ih distinct.2)

end Exchange

/-! ## Modes -/

namespace Units

variable (units : Units) (unit : Fin 4)

theorem other_incoming (number : Nat) :
    Shared.isOther (numbered "pT" number) = true :=
  Shared.isOther_numbered rfl number

theorem other_scale : Shared.isOther (numbered "texScale" unit) = true :=
  Shared.isOther_numbered rfl unit

theorem exchange_border {coordinates : String}
    (distinct : Shared.isOther coordinates = true) (components : String) :
    Exchange [] [] (units.borderLines unit coordinates components) := by
  have logical : Shared.isOther (numbered "t" unit ++ "LogicalSize") = true :=
    Shared.isOther_suffixed rfl _
  have inverse : Shared.isOther (numbered "t" unit ++ "InvRealSize") = true :=
    Shared.isOther_suffixed rfl _
  rw [borderLines]
  split
  · apply Exchange.others
    -- the names in these lines, one after the other
    show ∀ name ∈ [_, _, _, _, _, _], _
    simp [distinct, logical, inverse]
  · exact .nil

theorem among_dotExpr :
    Among [.vector (units.settings.inputUnit unit)]
      (units.dotExpr unit).names :=
  .other (other_incoming unit)
    (.cons (.vector (units.settings.inputUnit unit)) .nil)

theorem exchange_dot (mode : Mode) :
    Exchange [.vector (units.settings.inputUnit unit)] [.product unit]
      (units.dotLines unit mode) :=
  (Exchange.comment _).append
    (Exchange.define (units.among_dotExpr unit)
      (Among.cons (.product unit) .nil))

theorem exchange_lookup {function : String} {coordinates : Expr}
    (plain : Among [] coordinates.names) :
    Exchange [] [.vector unit] [lookupLine unit function coordinates] :=
  Exchange.define (Among.other (Shared.isOther_numbered rfl unit) plain)
    (Among.cons (.vector unit) .nil)

theorem exchange_comparison (operator : Operator) (compareZ : Bool) :
    Exchange [] [.vector unit] (comparisonLines unit operator compareZ) := by
  have incoming := other_incoming unit
  have depth : Shared.isOther (numbered "t" unit ++ "_depth") = true :=
    Shared.isOther_suffixed rfl _
  have maxDepth : Shared.isOther (numbered "t" unit ++ "_max_depth") = true :=
    Shared.isOther_suffixed rfl _
  have result {limit : Expr} (plain : Among [] limit.names) :
      Exchange [] [.vector unit] [depthLine unit operator limit] := by
    refine Exchange.define ?_ (Among.cons (.vector unit) .nil)
    show Among [] ((numbered "t" unit ++ "_depth") :: limit.names ++ [] ++ [])
    rw [List.append_nil, List.append_nil]
    exact .other depth plain
  cases compareZ with
  | false => exact result .nil
  | true =>
      have limit : Among [] (Expr.of (numbered "pT" unit) "z").names :=
        .other incoming .nil
      refine Exchange.append (Exchange.others ?_) (result limit)
      show ∀ name ∈ [_, _, _, _, _, _, _, _, _, _, _], _
      simp [incoming, depth, maxDepth]

/-- A comparison that is always the same needs no lookup. -/
theorem exchange_shadow (compareZ : Bool) :
    Exchange [] [.vector unit] (units.shadowLines unit compareZ) := by
  cases compared : units.state.shadowFunction.operator? with
  | none =>
      simp only [shadowLines, compared]
      refine Exchange.define ?_ (Among.cons (.vector unit) .nil)
      split <;> exact .nil
  | some operator =>
      have same :
          units.shadowLines unit compareZ =
            [⟨0, .assign (.of (numbered "pT" unit) "xy") .mul (scale unit)⟩,
              samplingLine unit (numbered "t" unit ++ "_depth")
                "textureProj" (.of (numbered "pT" unit) "xyw")]
              ++ comparisonLines unit operator compareZ := by
        simp only [shadowLines, compared]
        rfl
      have depth : Shared.isOther (numbered "t" unit ++ "_depth") = true :=
        Shared.isOther_suffixed rfl _
      have sampled : Shared.isOther (numbered "texSamp" unit) = true :=
        Shared.isOther_numbered rfl _
      rw [same]
      refine Exchange.append (Exchange.others ?_)
        (exchange_comparison unit operator compareZ)
      show ∀ name ∈ [_, _, _, _, _], _
      simp [other_incoming, other_scale, depth, sampled]

theorem exchange_project :
    Exchange [] [.vector unit] (units.projectFetch unit).lines := by
  have incoming := other_incoming unit
  have scaled :
      Exchange [] []
        [⟨0, .set (.of (numbered "pT" unit) "xy")
          (scale unit * .of (numbered "pT" unit) "xy")⟩] :=
    .line (.other incoming (.other (other_scale unit) (.other incoming .nil)))
      .nil
  rw [projectFetch]
  dsimp only [Fetch.lookup]
  split
  · exact units.exchange_shadow unit false
  · refine (units.exchange_border unit incoming _).append
      (scaled.append (exchange_lookup unit ?_))
    exact .other incoming .nil

theorem exchange_volume :
    Exchange [] [.vector unit] (units.volumeFetch unit).lines := by
  rw [volumeFetch]
  split
  · exact units.exchange_shadow unit true
  · refine (units.exchange_border unit (other_incoming unit) _).append
      (exchange_lookup unit ?_)
    exact .other (other_incoming unit) .nil

section Displaced

variable {offset : String} (distinct : Shared.isOther offset = true)

include distinct

theorem exchange_displacement :
    Exchange [.vector (units.settings.inputUnit unit)] []
      [⟨0, .define .vec2 offset
        (if (units.texture (units.settings.inputUnit unit)).signed then
          .of (numbered "t" (units.settings.inputUnit unit)) "bg"
        else
          .call2 "vec2"
            (signedComponent (numbered "t" (units.settings.inputUnit unit)) "b")
            (signedComponent (numbered "t" (units.settings.inputUnit unit))
              "g"))⟩] := by
  let source := Shared.vector (units.settings.inputUnit unit)
  apply Exchange.defineOther distinct
  split
  · exact .cons source .nil
  · exact .again (.cons source .nil)

theorem exchange_luminance :
    Exchange [.vector (units.settings.inputUnit unit)] []
      [⟨0, .define .vec3 offset
        (if (units.texture (units.settings.inputUnit unit)).signed then
          .call2 "vec3"
            (.of (numbered "t" (units.settings.inputUnit unit)) "bg")
            (.call "sign3_to_0_to_1"
              (.of (numbered "t" (units.settings.inputUnit unit)) "r"))
        else
          .call3 "vec3"
            (signedComponent (numbered "t" (units.settings.inputUnit unit)) "b")
            (signedComponent (numbered "t" (units.settings.inputUnit unit)) "g")
            (.of (numbered "t" (units.settings.inputUnit unit)) "r"))⟩] := by
  let source := Shared.vector (units.settings.inputUnit unit)
  apply Exchange.defineOther distinct
  split
  · exact .again (.cons source .nil)
  · exact .again (.again (.cons source .nil))

end Displaced

theorem exchange_bump :
    Exchange [.vector (units.settings.inputUnit unit)] [.vector unit]
      (units.bumpFetch unit).lines := by
  have incoming := other_incoming unit
  have matrix : Shared.isOther (numbered "bumpMat" unit) = true :=
    Shared.isOther_numbered rfl unit
  have offset : Shared.isOther (numbered "dsdt" unit) = true :=
    Shared.isOther_numbered rfl unit
  have turned :
      Exchange [] []
        [⟨0, .set (numbered "dsdt" unit)
          (numbered "bumpMat" unit * .name (numbered "dsdt" unit))⟩] :=
    .line (.other offset (.other matrix (.other offset .nil))) .nil
  refine Exchange.append (units.exchange_displacement unit offset)
    (turned.append (exchange_lookup unit ?_))
  exact .other (other_scale unit) (.other incoming (.other offset .nil))

theorem exchange_bumpLuminance :
    Exchange [.vector (units.settings.inputUnit unit)] [.vector unit]
      (units.bumpLuminanceFetch unit).lines := by
  have incoming := other_incoming unit
  have matrix : Shared.isOther (numbered "bumpMat" unit) = true :=
    Shared.isOther_numbered rfl unit
  have gain : Shared.isOther (numbered "bumpScale" unit) = true :=
    Shared.isOther_numbered rfl unit
  have bias : Shared.isOther (numbered "bumpOffset" unit) = true :=
    Shared.isOther_numbered rfl unit
  have offset : Shared.isOther (numbered "dsdtl" unit) = true :=
    Shared.isOther_numbered rfl unit
  have turned :
      Exchange [] []
        [⟨0, .set (.of (numbered "dsdtl" unit) "st")
          (numbered "bumpMat" unit * .of (numbered "dsdtl" unit) "st")⟩] :=
    .line (.other offset (.other matrix (.other offset .nil))) .nil
  have brightened :
      Exchange [.vector unit] []
        [⟨0, .set (numbered "t" unit)
          (numbered "t" unit
            * .group (numbered "bumpScale" unit
              * .of (numbered "dsdtl" unit) "p"
              + .name (numbered "bumpOffset" unit)))⟩] :=
    .line
      (.again (.cons (.vector unit)
        (.other gain (.other offset (.other bias .nil)))))
      .nil
  have looked :
      Exchange [] [.vector unit]
        [lookupLine unit "texture"
          (scale unit
            * .group (.of (numbered "pT" unit) "xy"
              + .of (numbered "dsdtl" unit) "st"))] :=
    exchange_lookup unit
      (.other (other_scale unit) (.other incoming (.other offset .nil)))
  refine ((units.exchange_luminance unit offset).append
    (turned.append (looked.append brightened))).congr ?_ ?_
  · simp
  · simp

theorem exchange_dotPlane (third : 2 ≤ unit.val) :
    Exchange
      [.vector (units.settings.inputUnit unit), .product (unit - 1)]
      [.product unit, .vector unit] (units.dotPlaneFetch unit).lines := by
  have coordinates : Shared.isOther (numbered "dotST" unit) = true :=
    Shared.isOther_numbered rfl unit
  have pair :
      Exchange [.product (unit - 1), .product unit] []
        [⟨0, .define .vec2 (numbered "dotST" unit)
          (.call2 "vec2" (numbered "dot" (unit - 1)) (numbered "dot" unit))⟩] :=
    .defineOther coordinates
      (.cons (.product (unit - 1)) (.cons (.product unit) .nil))
  have looked :
      Exchange [] [.vector unit]
        [lookupLine unit "texture"
          (scale unit * .name (numbered "dotST" unit))] :=
    exchange_lookup unit (.other (other_scale unit) (.other coordinates .nil))
  have before : unit.val - 1 ≠ unit.val := by omega
  refine ((((units.exchange_dot unit .dotSt).append pair).append
    (units.exchange_border unit coordinates "xy")).append looked).congr ?_ ?_
  · simp [before]
  · simp

theorem exchange_reflectDiffuse (third : 2 ≤ unit.val) :
    Exchange
      [.vector (units.settings.inputUnit unit),
        .vector (units.settings.inputUnit lastUnit), .product (unit - 1)]
      [.product unit, .vector unit]
      (units.reflectDiffuseFetch unit).lines := by
  have normal : Shared.isOther (numbered "n_" unit) = true :=
    Shared.isOther_numbered rfl unit
  have completed : Shared.isOther (numbered "dot" unit ++ "_n") = true :=
    Shared.isOther_suffixed rfl _
  have last :
      Exchange [.vector (units.settings.inputUnit lastUnit)] []
        [⟨0, .define .float (numbered "dot" unit ++ "_n")
          (units.dotExpr lastUnit)⟩] :=
    .defineOther completed (units.among_dotExpr lastUnit)
  have triple :
      Exchange [.product (unit - 1), .product unit] []
        [⟨0, .define .vec3 (numbered "n_" unit)
          (.call3 "vec3" (numbered "dot" (unit - 1)) (numbered "dot" unit)
            (numbered "dot" unit ++ "_n"))⟩] :=
    .defineOther normal
      (.cons (.product (unit - 1))
        (.cons (.product unit) (.other completed .nil)))
  have looked :
      Exchange [] [.vector unit]
        [lookupLine unit "texture" (numbered "n_" unit)] :=
    exchange_lookup unit (.other normal .nil)
  have before : unit.val - 1 ≠ unit.val := by omega
  refine ((((units.exchange_dot unit .dotReflectDiffuse).append
    (last.append triple)).append
    (units.exchange_border unit normal "xyz")).append looked).congr ?_ ?_
  · simp [before]
  · simp

theorem exchange_dotVector {name : String}
    (distinct : Shared.isOther name = true) :
    Exchange [.product (unit - 2), .product (unit - 1), .product unit] []
      [⟨0, .define .vec3 name (dotVector unit)⟩] :=
  .defineOther distinct
    (.cons (.product (unit - 2))
      (.cons (.product (unit - 1)) (.cons (.product unit) .nil)))

theorem exchange_reflectSpecular (third : 2 ≤ unit.val) :
    Exchange
      [.vector (units.settings.inputUnit unit), .product (unit - 1),
        .product (unit - 2)]
      [.product unit, .vector unit]
      (units.reflectSpecularFetch unit).lines := by
  have normal : Shared.isOther (numbered "n_" unit) = true :=
    Shared.isOther_numbered rfl unit
  have eye : Shared.isOther (numbered "e_" unit) = true :=
    Shared.isOther_numbered rfl unit
  have ray : Shared.isOther (numbered "rv_" unit) = true :=
    Shared.isOther_numbered rfl unit
  have looked :
      Exchange [] [.vector unit]
        [lookupLine unit "texture" (numbered "rv_" unit)] :=
    exchange_lookup unit (.other ray .nil)
  have before : unit.val - 1 ≠ unit.val ∧ unit.val - 2 ≠ unit.val := by omega
  refine ((((units.exchange_dot unit .dotReflectSpecular).append
    ((exchange_dotVector unit normal).append (.others ?_))).append
    (units.exchange_border unit ray "xyz")).append looked).congr ?_ ?_
  · -- the coordinates, the eye, and what the ray is made of
    show ∀ name ∈ [_, _, _, _, _, _, _, _, _, _, _], _
    simp [other_incoming, normal, eye, ray]
  · simp [before, or_comm]
  · simp

theorem exchange_dotSpace (mode : Mode) {coordinates : String}
    (distinct : Shared.isOther coordinates = true) (sampler : Sampler)
    (third : 2 ≤ unit.val) :
    Exchange
      [.vector (units.settings.inputUnit unit), .product (unit - 1),
        .product (unit - 2)]
      [.product unit, .vector unit]
      (units.dotSpaceFetch unit mode coordinates sampler).lines := by
  have looked :
      Exchange [] [.vector unit] [lookupLine unit "texture" coordinates] :=
    exchange_lookup unit (.other distinct .nil)
  have before : unit.val - 1 ≠ unit.val ∧ unit.val - 2 ≠ unit.val := by omega
  refine ((((units.exchange_dot unit mode).append
    (exchange_dotVector unit distinct)).append
    (units.exchange_border unit distinct "xyz")).append looked).congr ?_ ?_
  · simp [before, or_comm]
  · simp

theorem exchange_dependent {channels : String}
    (distinct : Shared.isOther channels = true) (components : String) :
    Exchange [.vector (units.settings.inputUnit unit)] [.vector unit]
      (units.dependentFetch unit channels components).lines := by
  have coordinates :=
    Shared.isOther_suffixed distinct (numbered "t" unit)
  have chosen :
      Exchange [.vector (units.settings.inputUnit unit)] []
        [⟨0, .define .vec2 (numbered "t" unit ++ channels)
          (.of (numbered "t" (units.settings.inputUnit unit)) components)⟩] :=
    .defineOther coordinates
      (.cons (.vector (units.settings.inputUnit unit)) .nil)
  have looked :
      Exchange [] [.vector unit]
        [lookupLine unit "texture" (numbered "t" unit ++ channels)] :=
    exchange_lookup unit (.other coordinates .nil)
  exact (chosen.append
    (units.exchange_border unit coordinates "xy")).append looked

theorem exchange_product (mode : Mode) :
    Exchange [.vector (units.settings.inputUnit unit)]
      [.product unit, .vector unit] (units.dotFetch unit mode).lines := by
  have zero :
      Exchange [] [.vector unit]
        [⟨0, .define .vec4 (numbered "t" unit) zeroVector⟩] :=
    .define .nil (.cons (.vector unit) .nil)
  exact (units.exchange_dot unit mode).append zero

theorem exchange_placeholder (mode : String) :
    Exchange [] [.vector unit] [placeholder unit mode] :=
  .line .nil (.cons (.vector unit) .nil)

theorem exchange_clip : Exchange [] [] (units.clipLines unit) := by
  apply Exchange.others
  intro name member
  rcases List.mem_flatMap.mp member with ⟨line, listed, found⟩
  rcases List.mem_map.mp listed with ⟨⟨component, fromZero⟩, -, rfl⟩
  rw [List.mem_singleton.mp found]
  exact other_incoming unit

end Units

/-! ## Chains of units -/

namespace Mode

/-- Whether a mode builds on the result of the unit that is chosen as input. -/
def hasInput : Mode → Bool
  | none | project2D | project3D | cubeMap | passThrough | clipPlane | brdf
  | dotReflectSpecularConst => false
  | bumpEnvMap | bumpEnvMapLuminance | dependentAr | dependentGb | dotSt
  | dotZw | dotReflectDiffuse | dotReflectSpecular | dotStr3D | dotStrCube
  | dotProduct => true

/-- Whether a mode computes a dot product. -/
def hasProduct : Mode → Bool
  | dotSt | dotZw | dotReflectDiffuse | dotReflectSpecular | dotStr3D
  | dotStrCube | dotProduct => true
  | _ => false

/-- How many units before it a mode takes the dot products of. -/
def productCount : Mode → Nat
  | dotSt | dotReflectDiffuse => 1
  | dotReflectSpecular | dotStr3D | dotStrCube => 2
  | _ => 0

end Mode

namespace Settings

/-- The mode that a unit runs; one that is unknown or misplaced counts as none. -/
def running (settings : Settings) (unit : Fin 4) : Mode :=
  match settings.mode? unit with
  | some mode => if mode.validOn unit then mode else .none
  | none => .none

/--
What a unit takes of the dot products is computed by the units right before it,
and a reflection that completes the last unit's product finds the input of that
unit among earlier ones.
-/
structure Supplied (settings : Settings) (unit : Fin 4) : Prop where
  products : ∀ earlier < unit,
    unit.val ≤ earlier.val + (settings.running unit).productCount →
      (settings.running earlier).hasProduct = true
  completed : settings.running unit = .dotReflectDiffuse →
    settings.inputUnit lastUnit < unit

instance (settings : Settings) (unit : Fin 4) :
    Decidable (settings.Supplied unit) :=
  decidable_of_iff
    ((∀ earlier < unit,
        unit.val ≤ earlier.val + (settings.running unit).productCount →
          (settings.running earlier).hasProduct = true) ∧
      (settings.running unit = .dotReflectDiffuse →
        settings.inputUnit lastUnit < unit))
    ⟨fun both => ⟨both.1, both.2⟩,
      fun supplied => ⟨supplied.products, supplied.completed⟩⟩

end Settings

namespace Units

variable (units : Units) (unit : Fin 4)

/-- The shared variables that a mode takes from outside its unit. -/
def taken (mode : Mode) : List Shared :=
  (if mode.hasInput then [Shared.vector (units.settings.inputUnit unit)]
      else [])
    ++ (if mode = .dotReflectDiffuse then
        [Shared.vector (units.settings.inputUnit lastUnit)]
      else [])
    ++ (List.range mode.productCount).map fun distance =>
      Shared.product (unit - (distance + 1))

/-- The shared variables that a mode declares. -/
def given (mode : Mode) : List Shared :=
  (if mode.hasProduct then [Shared.product unit] else [])
    ++ [Shared.vector unit]

theorem exchange_modeFetch {mode : Mode} (valid : mode.validOn unit = true) :
    Exchange (units.taken unit mode) (given unit mode)
      (units.modeFetch unit mode).lines := by
  cases mode with
  | project2D => exact units.exchange_project unit
  | project3D => exact units.exchange_volume unit
  | cubeMap =>
      have incoming := other_incoming unit
      exact exchange_lookup unit (.other incoming (.other incoming .nil))
  | passThrough =>
      exact .define (.other (other_incoming unit) .nil)
        (.cons (.vector unit) .nil)
  | clipPlane =>
      exact (exchange_placeholder unit _).append (units.exchange_clip unit)
  | bumpEnvMap => exact units.exchange_bump unit
  | bumpEnvMapLuminance => exact units.exchange_bumpLuminance unit
  | dotSt => exact units.exchange_dotPlane unit (of_decide_eq_true valid)
  | dotReflectDiffuse =>
      have third : unit.val = 2 := of_decide_eq_true valid
      exact units.exchange_reflectDiffuse unit (by omega)
  | dotReflectSpecular =>
      have last : unit.val = 3 := of_decide_eq_true valid
      exact units.exchange_reflectSpecular unit (by omega)
  | dotStr3D =>
      have last : unit.val = 3 := of_decide_eq_true valid
      exact units.exchange_dotSpace unit _
        (Shared.isOther_numbered rfl unit) _ (by omega)
  | dotStrCube =>
      have last : unit.val = 3 := of_decide_eq_true valid
      exact units.exchange_dotSpace unit _
        (Shared.isOther_suffixed rfl _) _ (by omega)
  | dependentAr => exact units.exchange_dependent unit rfl "ar"
  | dependentGb => exact units.exchange_dependent unit rfl "gb"
  | dotZw | dotProduct => exact units.exchange_product unit _
  | none | brdf | dotReflectSpecularConst =>
      exact exchange_placeholder unit _

theorem exchange_fetch :
    Exchange (units.taken unit (units.settings.running unit))
      (given unit (units.settings.running unit)) (units.fetch unit).lines := by
  cases found : units.settings.mode? unit with
  | none =>
      simp only [fetch, Settings.running, found]
      exact exchange_placeholder unit _
  | some mode =>
      by_cases valid : mode.validOn unit = true
      · simp only [fetch, Settings.running, found, valid, if_true]
        exact units.exchange_modeFetch unit valid
      · simp only [fetch, Settings.running, found, valid]
        exact exchange_placeholder unit _

/-- A unit that discards transparent texels uses a result of its own. -/
theorem exchange_lines :
    Exchange (units.taken unit (units.settings.running unit))
      (given unit (units.settings.running unit)) (units.lines unit) := by
  have kill (killing : Bool) :
      Exchange (if killing then [.vector unit] else []) []
        (if killing then [killLine unit] else []) := by
    cases killing with
    | true => exact .line (.cons (.vector unit) .nil) .nil
    | false => exact .nil
  rw [lines_eq]
  refine ((units.exchange_fetch unit).append (kill _)).congr ?_ ?_
  · intro shared
    have own : Shared.vector unit ∈ given unit (units.settings.running unit) :=
      List.mem_append_right _ (List.mem_singleton_self _)
    split <;> simp [own]
  · simp

/-! ## All units -/

theorem vector_mem_given {number : Nat} {mode : Mode} :
    .vector number ∈ given unit mode ↔ number = unit := by
  cases product : mode.hasProduct <;> simp [given, product]

theorem product_mem_given {number : Nat} {mode : Mode} :
    .product number ∈ given unit mode ↔
      mode.hasProduct = true ∧ number = unit := by
  cases product : mode.hasProduct <;> simp [given, product]

/-- A mode has a place where the units that it builds on are before it. -/
theorem running_place :
    ((units.settings.running unit).hasInput = true → 1 ≤ unit.val) ∧
      (units.settings.running unit).productCount ≤ unit.val := by
  have valid : (units.settings.running unit).validOn unit = true := by
    rw [Settings.running]
    split
    · split
      · assumption
      · rfl
    · rfl
  revert valid
  generalize units.settings.running unit = mode
  revert unit
  cases mode <;> decide

theorem inputUnit_lt (later : 1 ≤ unit.val) :
    units.settings.inputUnit unit < unit := by
  unfold Settings.inputUnit
  dsimp only
  split
  · rename_i earlier
    exact earlier
  · exact Nat.sub_lt later Nat.one_pos

/-- A unit gets what it takes from earlier ones exactly if it is supplied. -/
theorem supplied_iff :
    units.settings.Supplied unit ↔
      ∀ shared ∈ units.taken unit (units.settings.running unit),
        ∃ earlier < unit,
          shared ∈ given earlier (units.settings.running earlier) := by
  obtain ⟨later, room⟩ := units.running_place unit
  constructor
  · rintro ⟨products, completed⟩ shared member
    rw [taken, List.mem_append, List.mem_append] at member
    rcases member with (input | last) | product
    · split at input
      · rename_i built
        rw [List.mem_singleton.mp input]
        exact ⟨units.settings.inputUnit unit,
          units.inputUnit_lt unit (later built),
          (vector_mem_given _).mpr rfl⟩
      · cases input
    · split at last
      · rename_i diffuse
        rw [List.mem_singleton.mp last]
        exact ⟨_, completed diffuse, (vector_mem_given _).mpr rfl⟩
      · cases last
    · rcases List.mem_map.mp product with ⟨distance, near, rfl⟩
      have bound := List.mem_range.mp near
      let earlier : Fin 4 := ⟨unit - (distance + 1), by omega⟩
      have less : earlier < unit := by
        show unit.val - (distance + 1) < unit.val
        omega
      have close :
          unit.val ≤
            earlier.val + (units.settings.running unit).productCount := by
        show unit.val ≤ unit.val - (distance + 1) + _
        omega
      exact ⟨earlier, less,
        (product_mem_given _).mpr ⟨products earlier less close, rfl⟩⟩
  · intro covered
    refine ⟨fun earlier less close => ?_, fun diffuse => ?_⟩
    · have named :
          Shared.product earlier ∈
            units.taken unit (units.settings.running unit) := by
        apply List.mem_append_right
        refine List.mem_map.mpr
          ⟨unit - earlier - 1, List.mem_range.mpr ?_, ?_⟩
        · omega
        · exact congrArg _ (by omega)
      obtain ⟨other, -, found⟩ := covered _ named
      obtain ⟨computed, same⟩ := (product_mem_given _).mp found
      rwa [Fin.ext same]
    · have named :
          Shared.vector (units.settings.inputUnit lastUnit) ∈
            units.taken unit (units.settings.running unit) := by
        apply List.mem_append_left
        apply List.mem_append_right
        rw [if_pos diffuse]
        exact List.mem_singleton_self _
      obtain ⟨earlier, less, found⟩ := covered _ named
      rw [Fin.ext ((vector_mem_given _).mp found)]
      exact less

theorem mem_before_iff {before after : List (Fin 4)}
    (split : List.finRange 4 = before ++ unit :: after) (earlier : Fin 4) :
    earlier ∈ before ↔ earlier < unit := by
  have sorted := List.pairwise_lt_finRange 4
  rw [split, List.pairwise_append, List.pairwise_cons] at sorted
  constructor
  · intro member
    exact sorted.2.2 earlier member unit List.mem_cons_self
  · intro less
    have listed := List.mem_finRange earlier
    rw [split, List.mem_append, List.mem_cons] at listed
    rcases listed with member | rfl | member
    · exact member
    · exact absurd less (Nat.lt_irrefl _)
    · exact absurd less (Nat.lt_asymm (sorted.2.1.1 earlier member))

theorem mem_awaits_units {shared : Shared} :
    shared.name ∈ awaits ((List.finRange 4).flatMap units.lines) ↔
      ∃ unit,
        shared ∈ units.taken unit (units.settings.running unit) ∧
          ∀ earlier < unit,
            shared ∉ given earlier (units.settings.running earlier) := by
  rw [mem_awaits_flatMap]
  constructor
  · rintro ⟨before, unit, after, split, here, apart⟩
    refine ⟨unit, ((units.exchange_lines unit).awaited shared).mp here,
      fun earlier less found => ?_⟩
    exact apart earlier ((mem_before_iff unit split earlier).mpr less)
      (((units.exchange_lines earlier).declared shared).mpr found)
  · rintro ⟨unit, here, apart⟩
    obtain ⟨before, after, split⟩ :=
      List.append_of_mem (List.mem_finRange unit)
    refine ⟨before, unit, after, split,
      ((units.exchange_lines unit).awaited shared).mpr here,
      fun earlier member found => ?_⟩
    exact apart earlier ((mem_before_iff unit split earlier).mp member)
      (((units.exchange_lines earlier).declared shared).mp found)

/-- The units take nothing from outside exactly if each of them is supplied. -/
theorem awaits_nothing_iff :
    (∀ shared : Shared,
        shared.name ∉ awaits ((List.finRange 4).flatMap units.lines)) ↔
      ∀ unit, units.settings.Supplied unit := by
  simp only [mem_awaits_units, supplied_iff, not_exists, not_and, not_forall,
    not_not, exists_prop]
  exact forall_comm

end Units

end ShaderSynth.Texture
