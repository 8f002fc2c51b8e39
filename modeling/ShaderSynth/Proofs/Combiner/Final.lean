import Mathlib.Algebra.Order.Ring.Rat
import Mathlib.Tactic.Ring
import ShaderSynth.Proofs.Combiner.Commit

/-!
# What the final combiner computes

The final combiner of the machine gives the color `D + C * (1 - A) + B * A`
and the alpha `G`, where `E * F` can be read like a register.  The shader
leaves out of this what it knows to be constant.  With exact arithmetic this
makes no difference.

`Operand.Means` says what an operand stands for, be it a constant or an
expression.  Each simplification keeps to it.
-/

namespace ShaderSynth.Combiner

open Glsl (Expr Statement)

/-- Exact arithmetic. -/
instance : Arithmetic Rat where
  atLeast left right := decide (right ≤ left)
  toWord number := .ofNat number.floor.toNat

/-! ## The final combiner of the machine -/

/-- No color, and no alpha. -/
def Color.zero : Color Rat := ⟨0, 0, 0, 0⟩

namespace Registers

/--
The color that a register gives to the final combiner.  The constants are its
own ones, and the product is what it is taken to be.
-/
def readFinal
    (registers : Registers Rat) (settings : SumSettings)
    (product : Color Rat) :
    Register → Color Rat
  | .zero => .zero
  | .c0 => registers.constants 0 finalStage
  | .c1 => registers.constants 1 finalStage
  | .fog => registers.fog
  | .v1r0Sum => registers.sum settings
  | .efProduct => product
  | .v0 => registers.cells .v0
  | .v1 => registers.cells .v1
  | .t0 => registers.cells .t0
  | .t1 => registers.cells .t1
  | .t2 => registers.cells .t2
  | .t3 => registers.cells .t3
  | .r0 => registers.cells .r0
  | .r1 => registers.cells .r1

/-- An operand of the final combiner; reserved registers read as zero. -/
def finalOperand
    (registers : Registers Rat) (settings : SumSettings)
    (product : Color Rat) (portion : Portion) (input : Input)
    (component : Component) :
    Rat :=
  let color :=
    (input.register?.map (registers.readFinal settings product)).getD .zero
  input.mapping.meaning (color.get (portion.source input.alpha component))

/-- A product of two colors, without alpha. -/
def colorProduct (left right : Component → Rat) : Color Rat :=
  ⟨left .r * right .r, left .g * right .g, left .b * right .b, 0⟩

/-- The product `E * F`; in its own factors it reads as zero. -/
def finalProduct (registers : Registers Rat) (final : Final) : Color Rat :=
  let factor := registers.finalOperand final.sum .zero .rgb
  colorProduct (factor final.e) (factor final.f)

/-- The color of a fragment. -/
def combine (registers : Registers Rat) (final : Final) : Color Rat :=
  let operand :=
    registers.finalOperand final.sum (registers.finalProduct final)
  let a := operand .rgb final.a
  let b := operand .rgb final.b
  let c := operand .rgb final.c
  let d := operand .rgb final.d
  let mixed (component : Component) : Rat :=
    d component + c component * (1 - a component) + b component * a component
  ⟨mixed .r, mixed .g, mixed .b, operand .alpha final.g .a⟩

end Registers

/-! ## Operands -/

/-- Constants are mapped as the shader would map them. -/
theorem InputMapping.fold_eq_meaning (mapping : InputMapping) (number : Rat) :
    mapping.fold number = mapping.meaning number := by
  cases mapping with
  | signedNegate => exact zero_sub number
  | _ => rfl

/-- An operand stands for a result of a portion. -/
def Operand.Means
    (environment : Environment Rat) (portion : Portion)
    (result : Component → Rat) :
    Operand → Prop
  | constant number => ∀ component, result component = number
  | expr expression => environment.Yields expression (portion.spread result)

namespace Operand.Means

variable {environment : Environment Rat} {portion : Portion}
  {result : Component → Rat} {operand : Operand}

theorem congr {other : Component → Rat}
    (means : operand.Means environment portion result)
    (same : ∀ component, result component = other component) :
    operand.Means environment portion other :=
  funext same ▸ means

theorem yields_render (means : operand.Means environment portion result) :
    environment.Yields (operand.render portion) (portion.spread result) := by
  cases operand with
  | expr expression => exact means
  | constant number =>
      obtain rfl : result = fun _ => number := funext means
      cases portion with
      | rgb => exact (Environment.yields_number number).call rfl
      | alpha => exact Environment.yields_number number

theorem yields_vec3 (means : operand.Means environment .rgb result) :
    environment.Yields operand.vec3 (Portion.rgb.spread result) := by
  cases operand with
  | expr expression =>
      have inner : environment.Yields expression (Portion.rgb.spread result) :=
        means
      exact inner.call rfl
  | constant number => exact means.yields_render

end Operand.Means

/--
How a context of the final combiner sees the product: it reads as zero, or is
the product of two expressions.
-/
def Context.Sees
    (context : Context) (environment : Environment Rat)
    (product : Color Rat) : Prop :=
  match context.product with
  | none => product = .zero
  | some (left, right) =>
      ∃ first second : Component → Rat,
        environment.Yields left (Portion.rgb.spread first) ∧
          environment.Yields right (Portion.rgb.spread second) ∧
          product = Registers.colorProduct first second

namespace Environment

variable {environment : Environment Rat} {context : Context}
  {product : Color Rat}

/-- Registers of the final combiner read as zero, or as what they hold. -/
theorem readFinal_cases
    (last : context.stage = finalStage)
    (sees : context.Sees environment product) (register : Register) :
    context.read? register = none ∧
        environment.registers.readFinal context.sum product register =
          .zero ∨
      ∃ expression,
        context.read? register = some expression ∧
          environment.Yields expression
            (environment.registers.readFinal context.sum product
              register).toList := by
  have plain (name : String) :
      environment.Yields name (environment.colors name).toList :=
    yields_name name
  have constant (slot : Nat) (unique : Bool) :
      context.constantName slot unique = constantName slot finalStage := by
    simp [Context.constantName, constantName, last]
  cases register with
  | zero => exact .inl ⟨rfl, rfl⟩
  | efProduct =>
      unfold Context.Sees at sees
      unfold Context.read?
      cases factors : context.product with
      | none =>
          rw [factors] at sees
          exact .inl ⟨rfl, sees⟩
      | some pair =>
          rw [factors] at sees
          obtain ⟨first, second, left, right, rfl⟩ := sees
          have zero : environment.Yields 0.0 [0] := yields_decimal (by decide)
          exact .inr ⟨_, rfl, (left.mul right rfl).call2 zero rfl⟩
  | c0 =>
      refine .inr ⟨_, rfl, ?_⟩
      rw [constant]
      exact plain _
  | c1 =>
      refine .inr ⟨_, rfl, ?_⟩
      rw [constant]
      exact plain _
  | v1r0Sum => exact .inr ⟨_, rfl, yields_sumExpr⟩
  | fog => exact .inr ⟨_, rfl, plain _⟩
  | v0 => exact .inr ⟨_, rfl, plain _⟩
  | v1 => exact .inr ⟨_, rfl, plain _⟩
  | t0 => exact .inr ⟨_, rfl, plain _⟩
  | t1 => exact .inr ⟨_, rfl, plain _⟩
  | t2 => exact .inr ⟨_, rfl, plain _⟩
  | t3 => exact .inr ⟨_, rfl, plain _⟩
  | r0 => exact .inr ⟨_, rfl, plain _⟩
  | r1 => exact .inr ⟨_, rfl, plain _⟩

/-- An operand of the shader stands for the operand of the machine. -/
theorem means_operand
    (last : context.stage = finalStage)
    (sees : context.Sees environment product)
    (input : Input) (portion : Portion) :
    (context.operand input portion).Means environment portion
      (environment.registers.finalOperand context.sum product portion
        input) := by
  unfold Context.operand Registers.finalOperand
  have zero (component : Component) :
      input.mapping.meaning (Color.zero.get component) =
        input.mapping.fold 0 := by
    rw [InputMapping.fold_eq_meaning]
    cases component <;> rfl
  cases input.register? with
  | none => exact fun _ => zero _
  | some register =>
      rcases readFinal_cases last sees register with
        ⟨unread, black⟩ | ⟨expression, read, yields⟩
      · simp only [Option.bind_some, unread, Option.map_some,
          Option.getD_some, black]
        exact fun _ => zero _
      · simp only [Option.bind_some, read, Option.map_some, Option.getD_some]
        have selected := yields.select (pick_components portion input.alpha _)
        exact (selected.inputMapping input.mapping).congr List.map_map

end Environment

/-! ## Simplification -/

section Simplification

variable {environment : Environment Rat} {a b c d : Operand}
  {first second third fourth : Component → Rat}

/-- `mix(C, B, A)` before it is simplified. -/
theorem means_mix
    (meansA : a.Means environment .rgb first)
    (meansB : b.Means environment .rgb second)
    (meansC : c.Means environment .rgb third) :
    (Operand.expr (.call3 "mix" c.vec3 b.vec3 a.vec3)).Means environment .rgb
      fun component =>
        third component * (1 - first component) +
          second component * first component :=
  meansC.yields_vec3.mix meansB.yields_vec3 meansA.yields_vec3 rfl rfl

/-- Leaving `mix(C, B, A)` out keeps its meaning. -/
theorem means_mixed
    (meansA : a.Means environment .rgb first)
    (meansB : b.Means environment .rgb second)
    (meansC : c.Means environment .rgb third) :
    (mixed a b c).Means environment .rgb fun component =>
      third component * (1 - first component) +
        second component * first component := by
  unfold mixed
  split_ifs with unused whole weight
  · subst unused
    refine meansC.congr fun component => ?_
    rw [meansA component]
    ring
  · subst whole
    refine meansB.congr fun component => ?_
    rw [meansA component]
    ring
  · obtain ⟨rfl, rfl⟩ := weight
    refine meansA.congr fun component => ?_
    rw [meansB component, meansC component]
    ring
  · split
    · rename_i left right
      split_ifs with same
      · subst same
        refine meansC.congr fun component => ?_
        rw [meansB component, meansC component]
        ring
      · exact means_mix meansA meansB meansC
    · exact means_mix meansA meansB meansC

/-- So does leaving out what is added. -/
theorem yields_finalColor
    (meansA : a.Means environment .rgb first)
    (meansB : b.Means environment .rgb second)
    (meansC : c.Means environment .rgb third)
    (meansD : d.Means environment .rgb fourth) :
    environment.Yields (finalColor a b c d)
      (Portion.rgb.spread fun component =>
        fourth component + third component * (1 - first component) +
          second component * first component) := by
  have mix := means_mixed meansA meansB meansC
  unfold finalColor
  dsimp only
  split_ifs with nothing unmixed
  · subst nothing
    refine (mix.congr fun component => ?_).yields_render
    rw [meansD component]
    ring
  · rw [unmixed] at mix
    refine (meansD.congr fun component => ?_).yields_render
    have vanishes :
        third component * (1 - first component) +
            second component * first component =
          0 :=
      mix component
    rw [add_assoc, vanishes, add_zero]
  · have sum := meansD.yields_render.add mix.yields_render rfl
    refine sum.congr ?_
    simp only [Portion.spread, Portion.written, List.map_cons, List.map_nil,
      add_assoc]
    rfl

end Simplification

/-! ## The color of a fragment -/

namespace Final

variable (environment : Environment Rat) (final : Final) (control : Control)

theorem sees_factorContext :
    (final.factorContext control).Sees environment .zero :=
  rfl

theorem sees_context :
    (final.context control).Sees environment
      (environment.registers.finalProduct final) := by
  have factor (input : Input) :=
    Environment.means_operand rfl
      (final.sees_factorContext environment control) input .rgb
  exact ⟨_, _, (factor final.e).yields_render, (factor final.f).yields_render,
    rfl⟩

theorem yields_color :
    environment.Yields (final.color control)
      (Portion.rgb.spread (environment.registers.combine final).get) := by
  have operand (input : Input) :=
    Environment.means_operand rfl (final.sees_context environment control)
      input .rgb
  exact yields_finalColor (operand final.a) (operand final.b)
    (operand final.c) (operand final.d)

theorem yields_alpha :
    environment.Yields (final.alpha control)
      (Portion.alpha.spread (environment.registers.combine final).get) :=
  (Environment.means_operand rfl (final.sees_context environment control)
    final.g .alpha).yields_render

/-- The color of the fragment is no register. -/
theorem registers_set_fragColor (color : Color Rat) :
    (environment.set "fragColor" color).registers =
      environment.registers := by
  apply environment.registers_set_other
  · intro cell
    cases cell <;> decide
  · decide
  · exact fun slot stage => ne_constantName slot stage (.inl (by decide))

/-- The statements give the fragment its color, and leave the registers. -/
theorem exists_runAll_statements :
    ∃ after,
      environment.runAll (final.statements control) = some after ∧
        after.colors "fragColor" = environment.registers.combine final ∧
        after.registers = environment.registers := by
  let color := environment.registers.combine final
  let colored :=
    environment.set "fragColor"
      { color with a := (environment.colors "fragColor").a }
  have first :
      environment.run
          (.set (.of "fragColor" "rgb") (final.color control)) =
        some colored :=
    (final.yields_color environment control).run_assign rfl
  have same : colored.registers = environment.registers :=
    registers_set_fragColor environment _
  have second :
      colored.run (.set (.of "fragColor" "a") (final.alpha control)) =
        some (colored.set "fragColor" color) := by
    have alpha := final.yields_alpha colored control
    rw [same] at alpha
    refine alpha.run_assign ?_
    rw [Environment.colors_set_self]
    rfl
  refine ⟨colored.set "fragColor" color, ?_, Environment.colors_set_self ..,
    (registers_set_fragColor colored color).trans same⟩
  have remarked :
      environment.run (.remark "Final Combiner") = some environment :=
    rfl
  simp only [statements, Environment.runAll, remarked, first, second, bind,
    Option.bind]

end Final

/-- A final combiner that is used ends the combiner statements. -/
theorem statements_of_final {settings : Settings} {final : Final}
    (used : settings.final = some final) :
    settings.statements =
      settings.numbered.flatMap
          (fun (stage, context) => stage.statements context)
        ++ final.statements settings.control := by
  rw [Settings.statements, used]

/--
Unless both of its words are zero, the final combiner is carried out by the
statements that stand last of all combiner statements.  Whatever exact values
the registers and constants hold, the expression of the fragment color is
`D + C * (1 - A) + B * A` in each component and that of its alpha is `G`, and
the fragment gets this color.
-/
theorem final_combiner_exact
    (state : PixelState) (shading : Shading)
    (used : ¬ (state.finalInputs0 = 0 ∧ state.finalInputs1 = 0)) :
    let control := Control.ofWord state.combinerControl
    ∃ final,
      Final.ofWords? state.finalInputs0 state.finalInputs1 = some final ∧
        (∃ before after,
          Fragment.mainLines state shading =
            before ++ Glsl.indented 0 (final.statements control) ++ after) ∧
        ∀ environment : Environment Rat,
          let color := environment.registers.combine final
          environment.Yields (final.color control)
              [color.r, color.g, color.b] ∧
            environment.Yields (final.alpha control) [color.a] ∧
            ∃ after,
              environment.runAll (final.statements control) = some after ∧
                after.colors "fragColor" = color ∧
                after.registers = environment.registers := by
  intro control
  obtain ⟨final, found⟩ :
      ∃ final,
        Final.ofWords? state.finalInputs0 state.finalInputs1 = some final :=
    ⟨_, if_neg used⟩
  refine ⟨final, found, ?_, fun environment => ?_⟩
  · have split :=
      statements_of_final (show (Settings.ofPixel state).final = _ from found)
    rw [Fragment.mainLines, split, Glsl.indented, List.map_append,
      ← List.append_assoc]
    exact ⟨_, _, rfl⟩
  · exact ⟨final.yields_color environment control,
      final.yields_alpha environment control,
      final.exists_runAll_statements environment control⟩

/--
A final combiner that mixes the product and a constant one by the primary
color, and adds the sum.
-/
def blended : PixelState :=
  { (default : PixelState) with
    finalInputs0 := 0x040F200E
    finalInputs1 := 0x154CFDE0 }

/-- The same color in all registers. -/
theorem final_combiner_exact_blended :
    let environment : Environment Rat := ⟨fun _ => ⟨1 / 2, 1 / 4, -1, 3⟩⟩
    let control := Control.ofWord blended.combinerControl
    ¬ (blended.finalInputs0 = 0 ∧ blended.finalInputs1 = 0) ∧
      ∃ final after,
        Final.ofWords? blended.finalInputs0 blended.finalInputs1 =
            some final ∧
          environment.runAll (final.statements control) = some after ∧
          after.colors "fragColor" = ⟨3 / 2, 7 / 4, 2, -3⟩ := by
  intro environment control
  have used : ¬ (blended.finalInputs0 = 0 ∧ blended.finalInputs1 = 0) := by
    decide
  obtain ⟨final, found, -, runs⟩ := final_combiner_exact blended .flat used
  obtain ⟨-, -, after, ran, colored, -⟩ := runs environment
  refine ⟨used, final, after, found, ran, colored.trans ?_⟩
  obtain rfl := Option.some.inj found
  decide +kernel

end ShaderSynth.Combiner
