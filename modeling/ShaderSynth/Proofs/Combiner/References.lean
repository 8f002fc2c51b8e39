import ShaderSynth.Combiner.Final
import ShaderSynth.Proofs.Glsl.Locals

/-!
# References of the combiners

The combiners work on variables that are declared only where they are used: the
spare registers and the constants.  What has to be declared is collected from
the input and output words, while the statements are put together from the same
words in another way.  Every spare register and every constant that a statement
mentions is among those that were collected for its combiner.

Which names are looked for is left open.  A test only has to fail for the
functions and the fixed variables of the combiners.
-/

namespace ShaderSynth.Combiner

open Glsl

/-! ## Names of references -/

/-- The functions and the fixed variables that combiners mention. -/
def fixedNames : List String :=
  ["max", "clamp", "vec3", "vec4", "dot", "uint", "mix", "pFog", "v0", "v1",
    "t0", "t1", "t2", "t3", "ab", "cd", "mux_sum", "fragColor"]

theorem stemOf_constantName (slot stage : Nat) :
    stemOf (constantName slot stage) = "c" := by
  rw [constantName, String.append_assoc]
  exact stemOf_numbered rfl slot _

theorem constantName_not_fixed (slot stage : Nat) :
    constantName slot stage ∉ fixedNames := by
  have apart : ∀ name ∈ fixedNames, stemOf name ≠ "c" := by decide
  exact fun fixed => apart _ fixed (stemOf_constantName slot stage)

/-- The numbers of a constant can be read off its name. -/
theorem constantName_inj {slot stage slot' stage' : Nat}
    (same : constantName slot stage = constantName slot' stage') :
    slot = slot' ∧ stage = stage' := by
  have letters (slot stage : Nat) :
      (constantName slot stage).toList =
        'c' :: (Nat.toDigits 10 slot ++ '_' :: Nat.toDigits 10 stage) := by
    simp [constantName]
  have apart (number : Nat) : '_' ∉ Nat.toDigits 10 number := by
    intro member
    exact absurd (isDigit_of_mem_toDigits member) (by decide)
  have parts := congrArg String.toList same
  rw [letters, letters, List.cons.injEq] at parts
  rcases (List.append_cons_inj_of_notMem (apart _) (apart _)).mp parts.2 with
    ⟨slots, -, stages⟩
  exact ⟨toDigits_inj slots, toDigits_inj stages⟩

/-! ## What has to be declared -/

/-- The references of an operand, besides those of the final product. -/
def Context.references (context : Context) (input : Input) : List String :=
  context.constants input ++ Context.spares input

/-- The references of a portion. -/
def Half.references (half : Half) (context : Context) : List String :=
  half.constants context ++ half.spares

/-- The references of a general stage. -/
def Stage.references (stage : Stage) (context : Context) : List String :=
  stage.constants context ++ stage.spares

/-- The references of the final combiner. -/
def Final.references (final : Final) (control : Control) : List String :=
  (final.factors ++ final.operands).flatMap
    (final.context control).references

/-! ## Expressions -/

/-- Whether an operand mentions a name that passes a test. -/
def Operand.mentions (test : String → Bool) : Operand → Bool
  | constant _ => false
  | expr expression => expression.mentions test

section Mentions

variable {test : String → Bool}
  (fails : ∀ name ∈ fixedNames, test name = false)

include fails

theorem InputMapping.mentions_apply (operand : Expr)
    (mapping : InputMapping) :
    (mapping.apply operand).mentions test = operand.mentions test := by
  have max : test "max" = false := fails _ (by decide)
  have clamp : test "clamp" = false := fails _ (by decide)
  cases mapping <;> simp [InputMapping.apply, max, clamp]

omit fails in
theorem OutputMapping.mentions_apply (result : Expr)
    (mapping : OutputMapping) :
    (mapping.apply result).mentions test = result.mentions test := by
  cases mapping <;> simp [OutputMapping.apply]

theorem Portion.mentions_cast (result : Expr) (portion : Portion) :
    (portion.cast result).mentions test = result.mentions test := by
  have vector : test "vec3" = false := fails _ (by decide)
  cases portion <;> simp [Portion.cast, vector]

theorem Operand.mentions_render (operand : Operand) (portion : Portion) :
    (operand.render portion).mentions test = operand.mentions test := by
  have vector : test "vec3" = false := fails _ (by decide)
  cases operand <;> cases portion <;>
    simp [Operand.render, Operand.mentions, vector]

theorem Operand.mentions_vec3 (operand : Operand) :
    operand.vec3.mentions test = operand.mentions test := by
  have vector : test "vec3" = false := fails _ (by decide)
  cases operand <;> simp [Operand.vec3, Operand.mentions, vector]

omit fails in
theorem Context.mentions_complemented (complement : Bool) (name : String) :
    (Context.complemented complement name).mentions test = test name := by
  cases complement <;> simp [Context.complemented]

theorem Context.mentions_sumExpr (context : Context) :
    context.sumExpr.mentions test = test "r0" := by
  have clamp : test "clamp" = false := fails _ (by decide)
  have vector : test "vec4" = false := fails _ (by decide)
  have second : test "v1" = false := fails _ (by decide)
  rw [Context.sumExpr]
  split <;>
    simp [Context.mentions_complemented, clamp, vector, second]

/-- Reading a register mentions its references, or the final product. -/
theorem Context.mentions_read (context : Context) {input : Input}
    {register : Register} {found : Expr}
    (named : input.register? = some register)
    (read : context.read? register = some found)
    (mentioned : found.mentions test = true) :
    (context.references input).any test = true ∨
      ∃ left right, context.product = some (left, right) ∧
        (left.mentions test || right.mentions test) = true := by
  rw [Context.references, Context.constants, Context.spares, named]
  cases register with
  | zero => cases read
  | c0 | c1 =>
      cases read
      exact .inl (by simpa using mentioned)
  | r0 | r1 =>
      cases read
      exact .inl (by simpa using mentioned)
  | v1r0Sum =>
      cases read
      rw [Context.mentions_sumExpr fails] at mentioned
      exact .inl (by simpa using mentioned)
  | efProduct =>
      rcases Option.map_eq_some_iff.mp read with ⟨⟨left, right⟩, present, rfl⟩
      have vector : test "vec4" = false := fails _ (by decide)
      exact .inr ⟨left, right, present, by simpa [vector] using mentioned⟩
  | fog | v0 | v1 | t0 | t1 | t2 | t3 =>
      cases read
      exact absurd mentioned (Bool.eq_false_iff.mp (fails _ (by decide)))

/-- An operand mentions its references, or the final product. -/
theorem Context.mentions_operand (context : Context) (input : Input)
    (portion : Portion)
    (mentioned : (context.operand input portion).mentions test = true) :
    (context.references input).any test = true ∨
      ∃ left right, context.product = some (left, right) ∧
        (left.mentions test || right.mentions test) = true := by
  rw [Context.operand] at mentioned
  cases bound : input.register?.bind context.read? with
  | none =>
      rw [bound] at mentioned
      cases mentioned
  | some found =>
      rcases Option.bind_eq_some_iff.mp bound with ⟨register, named, read⟩
      rw [bound] at mentioned
      have inner :
          (found.select (portion.components input.alpha)).mentions test =
            true :=
        (InputMapping.mentions_apply fails _ input.mapping).symm.trans mentioned
      exact context.mentions_read fails named read inner

/-! ## General stages -/

namespace Half

variable {half : Half} {context : Context}

omit fails in
theorem any_references_of_input {input : Input}
    (member : input ∈ half.inputs.toList)
    (found : (context.references input).any test = true) :
    (half.references context).any test = true := by
  rw [List.any_eq_true] at found ⊢
  rcases found with ⟨name, listed, passes⟩
  refine ⟨name, ?_, passes⟩
  rcases List.mem_append.mp listed with constant | spare
  · apply List.mem_append_left
    exact List.mem_flatMap.mpr ⟨input, member, constant⟩
  · apply List.mem_append_right
    simp only [spares, List.append_assoc]
    apply List.mem_append_left
    exact List.mem_flatMap.mpr ⟨input, member, spare⟩

theorem mentions_operand (general : context.product = none) {input : Input}
    (member : input ∈ half.inputs.toList)
    (mentioned : (half.operand context input).mentions test = true) :
    (half.references context).any test = true := by
  rw [operand, Operand.mentions_render fails] at mentioned
  rcases context.mentions_operand fails input half.portion mentioned with
    found | ⟨left, right, present, -⟩
  · exact any_references_of_input member found
  · rw [general] at present
    cases present

theorem mentions_product (dot : Bool) (left right : Expr) :
    (product dot left right).mentions test =
      (left.mentions test || right.mentions test) := by
  have function : test "dot" = false := fails _ (by decide)
  cases dot <;> simp [product, function]

theorem mentions_ab (general : context.product = none)
    (mentioned : (half.ab context).mentions test = true) :
    (half.references context).any test = true := by
  rw [ab, mentions_product fails, Bool.or_eq_true_iff] at mentioned
  rcases mentioned with left | right
  · exact mentions_operand fails general (by simp [Inputs.toList]) left
  · exact mentions_operand fails general (by simp [Inputs.toList]) right

theorem mentions_cd (general : context.product = none)
    (mentioned : (half.cd context).mentions test = true) :
    (half.references context).any test = true := by
  rw [cd, mentions_product fails, Bool.or_eq_true_iff] at mentioned
  rcases mentioned with left | right
  · exact mentions_operand fails general (by simp [Inputs.toList]) left
  · exact mentions_operand fails general (by simp [Inputs.toList]) right

theorem mentions_muxTest (context : Context) :
    (muxTest context).mentions test = test "r0" := by
  have conversion : test "uint" = false := fails _ (by decide)
  rw [muxTest]
  split <;> simp [conversion]

theorem mentions_muxSum (general : context.product = none)
    (written : (destination? half.output.muxSum).isSome)
    (mentioned : (half.muxSum context).mentions test = true) :
    (half.references context).any test = true := by
  rw [muxSum] at mentioned
  split at mentioned
  · rename_i chooses
    simp only [Expr.mentions, Portion.mentions_cast fails,
      mentions_muxTest fails, Bool.or_eq_true_iff] at mentioned
    rcases mentioned with (spare | second) | first
    · rw [List.any_eq_true]
      refine ⟨"r0", ?_, spare⟩
      simp [references, spares, written, chooses]
    · exact mentions_cd fails general second
    · exact mentions_ab fails general first
  · rw [Expr.mentions, Expr.mentions_add, Bool.or_eq_true_iff] at mentioned
    rcases mentioned with first | second
    · exact mentions_ab fails general first
    · exact mentions_cd fails general second

theorem mentions_compute {name : String} (result : Expr)
    (fixed : name ∈ fixedNames) :
    (half.compute name result).mentions test = result.mentions test := by
  have clamp : test "clamp" = false := fails _ (by decide)
  have target : test name = false := fails name fixed
  simp [compute, masked, clamp, target, Portion.mentions_cast fails,
    OutputMapping.mentions_apply]

theorem mentions_computations (general : context.product = none)
    (mentioned : (half.computations context).any (Statement.mentions test) =
      true) :
    (half.references context).any test = true := by
  rw [List.any_eq_true] at mentioned
  rcases mentioned with ⟨statement, listed, found⟩
  simp only [computations, List.mem_append, List.mem_ite_nil_right,
    List.mem_singleton] at listed
  rcases listed with (⟨-, rfl⟩ | ⟨-, rfl⟩) | ⟨written, rfl⟩
  · rw [mentions_compute fails _ (by decide)] at found
    exact mentions_ab fails general found
  · rw [mentions_compute fails _ (by decide)] at found
    exact mentions_cd fails general found
  · rw [mentions_compute fails _ (by decide)] at found
    exact mentions_muxSum fails general written found

end Half

/-- A destination that passes is a spare register. -/
theorem any_destinationSpares {raw : UInt8} {name : String}
    (written : destination? raw = some name) (passes : test name = true) :
    name ∈ destinationSpares raw := by
  rcases Option.bind_eq_some_iff.mp written with ⟨register, named, writable⟩
  rw [destinationSpares, named]
  cases register with
  | r0 | r1 =>
      cases writable
      exact List.mem_cons_self
  | v0 | v1 | t0 | t1 | t2 | t3 =>
      cases writable
      exact absurd passes (Bool.eq_false_iff.mp (fails _ (by decide)))
  | _ => cases writable

theorem Half.mentions_write {half : Half} {raw : UInt8} {name : String}
    {blueToAlpha : Bool} (fixed : name ∈ fixedNames)
    (mentioned : (half.write raw name blueToAlpha).any
      (Statement.mentions test) = true) :
    (destinationSpares raw).any test = true := by
  have source : test name = false := fails name fixed
  rw [Half.write] at mentioned
  split at mentioned
  · cases mentioned
  · rename_i destination written
    have passes : test destination = true := by
      rw [List.any_cons, Bool.or_eq_true_iff] at mentioned
      rcases mentioned with whole | copied
      · simpa [Half.masked, source] using whole
      · split at copied
        · simpa [source] using copied
        · cases copied
    exact List.any_eq_true.mpr
      ⟨destination, any_destinationSpares fails written passes, passes⟩

theorem Half.mentions_writes {half : Half}
    (mentioned : half.writes.any (Statement.mentions test) = true) :
    half.spares.any test = true := by
  simp only [Half.writes, List.any_append, Bool.or_eq_true_iff] at mentioned
  simp only [Half.spares, List.any_append, Bool.or_eq_true_iff]
  rcases mentioned with (first | second) | sum
  · have found := Half.mentions_write fails (by decide) first
    exact .inl (.inl (.inl (.inr found)))
  · have found := Half.mentions_write fails (by decide) second
    exact .inl (.inl (.inr found))
  · have found := Half.mentions_write fails (by decide) sum
    exact .inl (.inr found)

/-- A general stage mentions only its references. -/
theorem Stage.mentions_statements {stage : Stage} {context : Context}
    (general : context.product = none)
    (mentioned : (stage.statements context).any (Statement.mentions test) =
      true) :
    (stage.references context).any test = true := by
  simp only [Stage.statements, List.any_append, List.any_cons,
    Statement.mentions_remark, Bool.false_or, Bool.or_eq_true_iff] at mentioned
  simp only [Stage.references, Stage.constants, Stage.spares, List.any_append,
    Bool.or_eq_true_iff]
  rcases mentioned with ((color | alpha) | color) | alpha
  · have found := Half.mentions_computations fails general color
    rw [Half.references, List.any_append, Bool.or_eq_true_iff] at found
    exact found.imp .inl .inl
  · have found := Half.mentions_computations fails general alpha
    rw [Half.references, List.any_append, Bool.or_eq_true_iff] at found
    exact found.imp .inr .inr
  · exact .inr (.inl (Half.mentions_writes fails color))
  · exact .inr (.inr (Half.mentions_writes fails alpha))

/-! ## The final combiner -/

theorem mentions_mixed {a b c : Operand}
    (mentioned : (mixed a b c).mentions test = true) :
    a.mentions test = true ∨ b.mentions test = true ∨
      c.mentions test = true := by
  have whole
      (found : (Expr.call3 "mix" c.vec3 b.vec3 a.vec3).mentions test = true) :
      a.mentions test = true ∨ b.mentions test = true ∨
        c.mentions test = true := by
    have function : test "mix" = false := fails _ (by decide)
    simp only [Expr.mentions_call3, function, Bool.false_or,
      Operand.mentions_vec3 fails, Bool.or_eq_true_iff] at found
    rcases found with (third | second) | first
    · exact .inr (.inr third)
    · exact .inr (.inl second)
    · exact .inl first
  revert mentioned
  fun_cases mixed a b c with
  | case1 => exact fun third => .inr (.inr third)
  | case2 => exact fun second => .inr (.inl second)
  | case3 => exact fun first => .inl first
  | case4 => exact fun third => .inr (.inr third)
  | case5 => exact whole
  | case6 => exact whole

theorem mentions_finalColor {a b c d : Operand}
    (mentioned : (finalColor a b c d).mentions test = true) :
    a.mentions test = true ∨ b.mentions test = true ∨
      c.mentions test = true ∨ d.mentions test = true := by
  have either
      (found : d.mentions test = true ∨ (mixed a b c).mentions test = true) :
      a.mentions test = true ∨ b.mentions test = true ∨
        c.mentions test = true ∨ d.mentions test = true := by
    rcases found with last | mix
    · exact .inr (.inr (.inr last))
    · rcases mentions_mixed fails mix with first | second | third
      · exact .inl first
      · exact .inr (.inl second)
      · exact .inr (.inr (.inl third))
  apply either
  simp only [finalColor] at mentioned
  split at mentioned
  · exact .inr (by rwa [Operand.mentions_render fails] at mentioned)
  split at mentioned
  · exact .inl (by rwa [Operand.mentions_render fails] at mentioned)
  · rwa [Expr.mentions_add, Operand.mentions_render fails,
      Operand.mentions_render fails, Bool.or_eq_true_iff] at mentioned

namespace Final

variable {final : Final} {control : Control}

omit fails in
theorem any_references_of_input {input : Input}
    (member : input ∈ final.factors ++ final.operands)
    (found : ((final.context control).references input).any test = true) :
    (final.references control).any test = true := by
  rw [List.any_eq_true] at found ⊢
  rcases found with ⟨name, listed, passes⟩
  exact ⟨name, List.mem_flatMap.mpr ⟨input, member, listed⟩, passes⟩

/-- A factor of the product mentions its own references. -/
theorem mentions_factor {input : Input} (member : input ∈ final.factors)
    (mentioned :
      (((final.factorContext control).operand input .rgb).render
        .rgb).mentions test = true) :
    (final.references control).any test = true := by
  rw [Operand.mentions_render fails] at mentioned
  rcases Context.mentions_operand fails _ _ _ mentioned with
    found | ⟨left, right, present, -⟩
  · exact any_references_of_input (List.mem_append_left _ member) found
  · cases present

theorem mentions_operand {input : Input} {portion : Portion}
    (member : input ∈ final.operands)
    (mentioned : ((final.context control).operand input portion).mentions
      test = true) :
    (final.references control).any test = true := by
  rcases Context.mentions_operand fails _ _ _ mentioned with
    found | ⟨left, right, present, factor⟩
  · exact any_references_of_input (List.mem_append_right _ member) found
  · cases present
    rcases Bool.or_eq_true_iff.mp factor with first | second
    · exact mentions_factor fails List.mem_cons_self first
    · exact mentions_factor fails (List.mem_cons_of_mem _ List.mem_cons_self)
        second

/-- The final combiner mentions only its references. -/
theorem mentions_statements
    (mentioned : (final.statements control).any (Statement.mentions test) =
      true) :
    (final.references control).any test = true := by
  have target : test "fragColor" = false := fails _ (by decide)
  simp only [statements, List.any_cons, List.any_nil,
    Statement.mentions_remark, Statement.mentions_set, Expr.mentions_of,
    target, Bool.false_or, Bool.or_false, Bool.or_eq_true_iff] at mentioned
  rcases mentioned with color | alpha
  · rcases mentions_finalColor fails color with found | found | found | found
    · exact mentions_operand fails (.head _) found
    · exact mentions_operand fails (.tail _ (.head _)) found
    · exact mentions_operand fails (.tail _ (.tail _ (.head _))) found
    · exact mentions_operand fails (.tail _ (.tail _ (.tail _ (.head _)))) found
  · rw [Final.alpha, Operand.mentions_render fails] at alpha
    exact mentions_operand fails
      (.tail _ (.tail _ (.tail _ (.tail _ (.head _))))) alpha

end Final

end Mentions

/-! ## Statements of the combiners -/

/-- Whether a statement is an assignment or a remark. -/
def isStep : Statement → Bool
  | .assign _ _ _ | .remark _ => true
  | _ => false

theorem Half.steps_computations (half : Half) (context : Context) :
    (half.computations context).all isStep = true := by
  have each (written : Bool) (name : String) (result : Expr) :
      (if written then [half.compute name result] else []).all isStep =
        true := by
    cases written <;> rfl
  rw [computations, List.all_append, List.all_append, each, each, each]
  rfl

theorem Half.steps_writes (half : Half) : half.writes.all isStep = true := by
  have each (raw : UInt8) (name : String) (blueToAlpha : Bool) :
      (half.write raw name blueToAlpha).all isStep = true := by
    rw [write]
    split
    · rfl
    · split <;> rfl
  rw [writes, List.all_append, List.all_append, each, each, each]
  rfl

/-- The combiners only assign. -/
theorem Settings.steps_statements (settings : Settings) :
    settings.statements.all isStep = true := by
  have general (stage : Stage) (context : Context) :
      (stage.statements context).all isStep = true := by
    rw [Stage.statements, List.all_append, List.all_append, List.all_append,
      List.all_cons, Half.steps_computations, Half.steps_computations,
      Half.steps_writes, Half.steps_writes]
    rfl
  rw [statements, List.all_append, Bool.and_eq_true_iff]
  constructor
  · rw [List.all_flatMap, List.all_eq_true]
    exact fun numbered _ => general numbered.1 numbered.2
  · split <;> rfl

/-! ## Names that are collected -/

/-- Whether each stage has a constant of its own in a slot. -/
def Control.unique (control : Control) (slot : Nat) : Bool :=
  if slot = 0 then control.uniqueC0 else control.uniqueC1

/-- The number in a constant's name: of a general stage, or of the final one. -/
def Control.constantStage (control : Control) (slot : Nat) :
    Option Nat → Nat
  | some stage => if control.unique slot then stage else 0
  | none => finalStage

/-- The combiner that a context belongs to. -/
def Context.reader (context : Context) : Option Nat :=
  if context.stage = finalStage then none else some context.stage

theorem Context.constantName_eq (context : Context) (slot : Nat) :
    context.constantName slot (context.control.unique slot) =
      Combiner.constantName slot
        (context.control.constantStage slot context.reader) := by
  rw [Context.reader]
  split
  · rename_i final
    simp [Context.constantName, Control.constantStage, final]
  · rename_i general
    simp [Context.constantName, Control.constantStage, general]

theorem Context.exists_slot {context : Context} {input : Input}
    {name : String} (member : name ∈ context.constants input) :
    ∃ slot < 2,
      name = Combiner.constantName slot
        (context.control.constantStage slot context.reader) := by
  rw [Context.constants] at member
  split at member
  · rw [List.mem_singleton] at member
    exact ⟨0, by decide, member.trans (context.constantName_eq 0)⟩
  · rw [List.mem_singleton] at member
    exact ⟨1, by decide, member.trans (context.constantName_eq 1)⟩
  · cases member

theorem Context.spares_subset (input : Input) :
    Context.spares input ⊆ ["r0", "r1"] := by
  rw [Context.spares]
  split <;> simp

theorem destinationSpares_subset (raw : UInt8) :
    destinationSpares raw ⊆ ["r0", "r1"] := by
  rw [destinationSpares]
  split <;> simp

theorem Half.spares_subset (half : Half) : half.spares ⊆ ["r0", "r1"] := by
  have inputs :
      half.inputs.toList.flatMap Context.spares ⊆ ["r0", "r1"] := by
    intro name member
    rcases List.mem_flatMap.mp member with ⟨input, _, listed⟩
    exact Context.spares_subset input listed
  simp only [Half.spares, List.append_subset]
  refine ⟨⟨⟨⟨inputs, ?_⟩, ?_⟩, ?_⟩, ?_⟩
  · exact destinationSpares_subset _
  · exact destinationSpares_subset _
  · exact destinationSpares_subset _
  · split <;> simp

theorem Stage.spares_subset (stage : Stage) :
    stage.spares ⊆ ["r0", "r1"] :=
  List.append_subset.mpr ⟨stage.rgb.spares_subset, stage.alpha.spares_subset⟩

namespace Settings

variable {settings : Settings}

theorem spares_subset (settings : Settings) :
    settings.spares ⊆ ["r0", "r1"] := by
  intro name member
  rw [spares, List.mem_eraseDups, List.mem_append] at member
  rcases member with general | final
  · rcases List.mem_flatMap.mp general with ⟨stage, _, listed⟩
    exact stage.spares_subset listed
  · split at final
    · rcases List.mem_flatMap.mp final with ⟨input, _, listed⟩
      exact Context.spares_subset input listed
    · rw [List.mem_singleton] at final
      simp [final]

/-- The combiners in order, general ones with their numbers. -/
def readers (settings : Settings) : List (Option Nat × List Statement) :=
  settings.stages.zipIdx.map (fun (stage, index) =>
      (some index, stage.statements (settings.context index)))
    ++ [(none,
      match settings.final with
      | some final => final.statements settings.control
      | none => [.set "fragColor" "r0"])]

theorem statements_eq (settings : Settings) :
    settings.statements = settings.readers.flatMap Prod.snd := by
  rw [readers, List.flatMap_append, List.flatMap_singleton, List.flatMap_map]
  exact congrArg (· ++ _) (List.flatMap_map ..)

/-- What a general stage refers to is collected. -/
theorem mem_of_general (few : settings.stages.length ≤ 8) {stage : Stage}
    {index : Nat} (numbered : (stage, index) ∈ settings.stages.zipIdx)
    {name : String}
    (member : name ∈ stage.references (settings.context index)) :
    name ∈ settings.spares ∨
      name ∈ settings.constants ∧
        ∃ slot < 2,
          name = Combiner.constantName slot
            (settings.control.constantStage slot (some index)) := by
  rcases List.mem_append.mp member with constant | spare
  · right
    constructor
    · rw [constants, List.mem_eraseDups]
      apply List.mem_append_left
      exact List.mem_flatMap.mpr
        ⟨(stage, settings.context index),
          List.mem_map.mpr ⟨(stage, index), numbered, rfl⟩, constant⟩
    · have below : index < settings.stages.length :=
        List.snd_lt_of_mem_zipIdx numbered
      have reader : (settings.context index).reader = some index :=
        if_neg (Nat.ne_of_lt (Nat.lt_of_lt_of_le below few))
      rw [← reader]
      rcases List.mem_append.mp constant with color | alpha
      · rcases List.mem_flatMap.mp color with ⟨input, _, listed⟩
        exact Context.exists_slot listed
      · rcases List.mem_flatMap.mp alpha with ⟨input, _, listed⟩
        exact Context.exists_slot listed
  · left
    rw [spares, List.mem_eraseDups]
    apply List.mem_append_left
    exact List.mem_flatMap.mpr
      ⟨stage, List.fst_mem_of_mem_zipIdx numbered, spare⟩

/-- What the final combiner refers to is collected. -/
theorem mem_of_final {final : Final} (present : settings.final = some final)
    {name : String} (member : name ∈ final.references settings.control) :
    name ∈ settings.spares ∨
      name ∈ settings.constants ∧
        ∃ slot < 2,
          name = Combiner.constantName slot
            (settings.control.constantStage slot none) := by
  rcases List.mem_flatMap.mp member with ⟨input, listed, named⟩
  rcases List.mem_append.mp named with constant | spare
  · right
    constructor
    · rw [constants, List.mem_eraseDups, present]
      apply List.mem_append_right
      exact List.mem_flatMap.mpr ⟨input, listed, constant⟩
    · have reader : (final.context settings.control).reader = none :=
        if_pos rfl
      have found := Context.exists_slot constant
      rw [reader] at found
      exact found
  · left
    rw [spares, List.mem_eraseDups, present]
    apply List.mem_append_right
    exact List.mem_flatMap.mpr ⟨input, listed, spare⟩

section Readers

variable {test : String → Bool}
  (fails : ∀ name ∈ fixedNames, test name = false)

include fails

/-- What a combiner mentions is declared, and a constant is its own. -/
theorem mentions_reader (few : settings.stages.length ≤ 8)
    {reader : Option Nat × List Statement}
    (member : reader ∈ settings.readers)
    (mentioned : reader.2.any (Statement.mentions test) = true) :
    ∃ name, test name = true ∧
      (name ∈ settings.spares ∨
        name ∈ settings.constants ∧
          ∃ slot < 2,
            name = Combiner.constantName slot
              (settings.control.constantStage slot reader.1)) := by
  rcases List.mem_append.mp member with general | final
  · rcases List.mem_map.mp general with ⟨⟨stage, index⟩, numbered, rfl⟩
    have found := Stage.mentions_statements fails rfl mentioned
    rcases List.any_eq_true.mp found with ⟨name, listed, passes⟩
    exact ⟨name, passes, mem_of_general few numbered listed⟩
  · rw [List.mem_singleton] at final
    subst final
    cases present : settings.final with
    | some final =>
        rw [present] at mentioned
        have found := Final.mentions_statements fails mentioned
        rcases List.any_eq_true.mp found with ⟨name, listed, passes⟩
        exact ⟨name, passes, mem_of_final present listed⟩
    | none =>
        have target : test "fragColor" = false := fails _ (by decide)
        rw [present] at mentioned
        refine ⟨"r0", by simpa [target] using mentioned, .inl ?_⟩
        rw [spares, List.mem_eraseDups, present]
        exact List.mem_append_right _ List.mem_cons_self

end Readers

theorem stages_length (state : PixelState) :
    (ofPixel state).stages.length ≤ 8 := by
  rw [ofPixel, List.length_map, List.length_take]
  exact Nat.min_le_right _ _

/-- A name that is not fixed is one that is collected for its combiner. -/
theorem mem_of_mentions (few : settings.stages.length ≤ 8) {name : String}
    (strange : name ∉ fixedNames) {reader : Option Nat × List Statement}
    (member : reader ∈ settings.readers)
    (mentioned : reader.2.any (Statement.mentions (· == name)) = true) :
    name ∈ settings.spares ∨
      name ∈ settings.constants ∧
        ∃ slot < 2,
          name = Combiner.constantName slot
            (settings.control.constantStage slot reader.1) := by
  have fails : ∀ other ∈ fixedNames, (other == name) = false := by
    intro other listed
    apply beq_false_of_ne
    rintro rfl
    exact strange listed
  rcases settings.mentions_reader fails few member mentioned with
    ⟨other, same, found⟩
  rwa [beq_iff_eq.mp same] at found

end Settings

end ShaderSynth.Combiner
