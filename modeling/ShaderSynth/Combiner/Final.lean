import ShaderSynth.Combiner.Stage

/-!
# The final combiner

The final combiner computes the fragment color `D + mix(C, B, A)` and the
fragment alpha `G`.  Its product register holds `E * F`.  Operands known to
be constant simplify the expression away.
-/

namespace ShaderSynth.Combiner

open Glsl (Expr Statement)

/-- `mix(C, B, A)`, simplified where operands are constant. -/
def mixed (a b c : Operand) : Operand :=
  if a = .constant 0 then c
  else if a = .constant 1 then b
  else if b = .constant 1 ∧ c = .constant 0 then a
  else
    match b, c with
    | .constant left, .constant right =>
        if left = right then c
        else .expr (.call3 "mix" c.vec3 b.vec3 a.vec3)
    | _, _ => .expr (.call3 "mix" c.vec3 b.vec3 a.vec3)

/-- `D + mix(C, B, A)`, simplified where operands are constant. -/
def finalColor (a b c d : Operand) : Expr :=
  let mix := mixed a b c
  if d = .constant 0 then mix.render .rgb
  else if mix = .constant 0 then d.render .rgb
  else d.render .rgb + mix.render .rgb

namespace Final

/-- The context in which the product's own factors are read. -/
def factorContext (final : Final) (control : Control) : Context :=
  ⟨control, final.sum, finalStage, none⟩

/-- The context in which the other operands are read. -/
def context (final : Final) (control : Control) : Context :=
  let factors := final.factorContext control
  let factor (input : Input) := (factors.operand input .rgb).render .rgb
  ⟨control, final.sum, finalStage, some (factor final.e, factor final.f)⟩

/-- The expression of the fragment color. -/
def color (final : Final) (control : Control) : Expr :=
  let operand (input : Input) := (final.context control).operand input .rgb
  finalColor (operand final.a) (operand final.b) (operand final.c)
    (operand final.d)

/-- The expression of the fragment alpha. -/
def alpha (final : Final) (control : Control) : Expr :=
  ((final.context control).operand final.g .alpha).render .alpha

/-- The operands besides the factors, in order. -/
def operands (final : Final) : List Input :=
  [final.a, final.b, final.c, final.d, final.g]

/-- The factors of the product. -/
def factors (final : Final) : List Input :=
  [final.e, final.f]

/-- The statements of the final combiner. -/
def statements (final : Final) (control : Control) : List Statement :=
  [.remark "Final Combiner",
    .set (.of "fragColor" "rgb") (final.color control),
    .set (.of "fragColor" "a") (final.alpha control)]

end Final

namespace Settings

/-- The context of a general stage. -/
def context (settings : Settings) (stage : Nat) : Context :=
  let sum :=
    match settings.final with
    | some final => final.sum
    | none => default
  ⟨settings.control, sum, stage, none⟩

/-- The stages with their contexts. -/
def numbered (settings : Settings) : List (Stage × Context) :=
  settings.stages.zipIdx.map fun (stage, index) =>
    (stage, settings.context index)

/-- The statements of all combiners; without a final one a spare is the color. -/
def statements (settings : Settings) : List Statement :=
  settings.numbered.flatMap (fun (stage, context) =>
      stage.statements context)
    ++ match settings.final with
      | some final => final.statements settings.control
      | none => [.set "fragColor" "r0"]

/-- The constants the combiners read, in the order of their first use. -/
def constants (settings : Settings) : List String :=
  let stages :=
    settings.numbered.flatMap fun (stage, context) => stage.constants context
  let final :=
    match settings.final with
    | some final =>
        (final.factors ++ final.operands).flatMap
          (final.context settings.control).constants
    | none => []
  (stages ++ final).eraseDups

/-- The spare registers the combiners touch, in the order of their first use. -/
def spares (settings : Settings) : List String :=
  let final :=
    match settings.final with
    | some final =>
        (final.factors ++ final.operands).flatMap Context.spares
    | none => ["r0"]
  (settings.stages.flatMap Stage.spares ++ final).eraseDups

/-- What the combiners warn about. -/
def warnings (settings : Settings) : List Warning :=
  let count :=
    if maxStages < settings.control.stages then
      [Warning.tooManyStages settings.control.stages]
    else []
  let stages :=
    settings.numbered.flatMap fun (stage, context) => stage.warnings context
  let final :=
    match settings.final with
    | some final =>
        final.factors.flatMap
            (final.factorContext settings.control).inputWarnings
          ++ final.operands.flatMap
            (final.context settings.control).inputWarnings
    | none => []
  count ++ stages ++ final

end Settings

end ShaderSynth.Combiner
