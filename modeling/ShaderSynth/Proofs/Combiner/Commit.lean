import ShaderSynth.Proofs.Combiner.Execution
import ShaderSynth.Stage.Fragment

/-!
# General stages as the machine carries them out

The statements of a general stage compute every result before they write any.
The computations only assign the result variables, which are no registers, so
each of them still sees the registers as the stage found them.  The writes only
assign registers, so each of them still sees the results.

`Environment.runAll_statements` puts the two together for one stage, and
`general_stages_run_as_machine` for all stages of a pixel configuration.
-/

namespace ShaderSynth.Combiner

open Glsl (Expr Statement pick)

variable {value : Type} [Arithmetic value]

/-! ## Variables of the registers -/

/-- The variable of a register. -/
def Cell.name : Cell → String
  | v0 => "v0"
  | v1 => "v1"
  | t0 => "t0"
  | t1 => "t1"
  | t2 => "t2"
  | t3 => "t3"
  | r0 => "r0"
  | r1 => "r1"

/-- The variable of a result. -/
def Result.name : Result → String
  | ab => "ab"
  | cd => "cd"
  | muxSum => "mux_sum"

theorem Cell.name_injective : Function.Injective Cell.name := by
  intro first second same
  cases first <;> cases second <;> first | rfl | exact absurd same (by decide)

theorem Result.name_injective : Function.Injective Result.name := by
  intro first second same
  cases first <;> cases second <;> first | rfl | exact absurd same (by decide)

theorem Cell.name_ne_result (cell : Cell) (result : Result) :
    cell.name ≠ result.name := by
  cases cell <;> cases result <;> decide

/-- Variables that statements assign are no constants. -/
theorem ne_constantName {name : String} (slot stage : Nat)
    (other : '_' ∉ name.toList ∨ name.toList.head? ≠ some 'c') :
    constantName slot stage ≠ name := by
  rintro rfl
  rcases other with unmarked | headed
  · apply unmarked
    simp [constantName]
  · apply headed
    simp [constantName]

theorem Cell.constantName_ne (cell : Cell) (slot stage : Nat) :
    constantName slot stage ≠ cell.name := by
  apply ne_constantName
  left
  cases cell <;> decide

theorem Result.constantName_ne (result : Result) (slot stage : Nat) :
    constantName slot stage ≠ result.name := by
  apply ne_constantName
  cases result with
  | ab => exact .inl (by decide)
  | cd => exact .inl (by decide)
  | muxSum => exact .inr (by decide)

theorem Register.writable?_eq (register : Register) :
    register.writable? = register.cell?.map Cell.name := by
  cases register <;> rfl

theorem destination?_eq (raw : UInt8) :
    destination? raw =
      ((Register.ofNibble? raw).bind Register.cell?).map Cell.name := by
  rw [destination?, Option.map_bind]
  congr 1
  funext register
  exact register.writable?_eq

namespace Environment

/-- What the variables of the registers hold. -/
def registers (environment : Environment value) : Registers value where
  cells cell := environment.colors cell.name
  fog := environment.colors "pFog"
  constants slot stage := environment.colors (constantName slot stage)

omit [Arithmetic value] in
/-- Variables of another name are no registers. -/
theorem registers_set_other
    (environment : Environment value) {name : String} (color : Color value)
    (cells : ∀ cell : Cell, cell.name ≠ name) (fog : "pFog" ≠ name)
    (constants : ∀ slot stage, constantName slot stage ≠ name) :
    (environment.set name color).registers = environment.registers := by
  ext1
  · funext cell
    exact colors_set_of_ne _ _ (cells cell)
  · exact colors_set_of_ne _ _ fog
  · funext slot stage
    exact colors_set_of_ne _ _ (constants slot stage)

omit [Arithmetic value] in
/-- A result is no register. -/
theorem registers_set_result
    (environment : Environment value) (result : Result)
    (color : Color value) :
    (environment.set result.name color).registers =
      environment.registers := by
  apply environment.registers_set_other
  · exact fun cell => cell.name_ne_result result
  · cases result <;> decide
  · exact result.constantName_ne

omit [Arithmetic value] in
theorem registers_set_cell
    (environment : Environment value) (cell : Cell) (color : Color value) :
    (environment.set cell.name color).registers =
      environment.registers.set cell color := by
  ext1
  · funext other
    by_cases same : other = cell
    · subst same
      simp only [Registers.set, Function.update_self]
      exact colors_set_self ..
    · simp only [Registers.set, Function.update_of_ne same]
      exact colors_set_of_ne _ _ (Cell.name_injective.ne same)
  · apply colors_set_of_ne
    cases cell <;> decide
  · funext slot stage
    exact colors_set_of_ne _ _ (cell.constantName_ne slot stage)

end Environment

/-! ## Operands -/

namespace Context

/-- The context of a general stage: there is no product to read. -/
structure General (context : Context) : Prop where
  stage_ne : context.stage ≠ finalStage
  product_none : context.product = none

theorem General.constantName_eq {context : Context}
    (general : context.General) (slot : Nat) (unique : Bool) :
    context.constantName slot unique =
      Combiner.constantName slot (if unique then context.stage else 0) := by
  simp [Context.constantName, general.stage_ne]

end Context

/-- The components of a portion, in their order. -/
def Portion.spread (portion : Portion) (result : Component → value) :
    List value :=
  portion.written.map result

namespace Environment

variable {environment : Environment value} {context : Context}

theorem yields_complemented (complement : Bool) (name : String) :
    environment.Yields (Context.complemented complement name)
      ([.r, .g, .b, .a].map
        (Registers.addend complement (environment.colors name))) := by
  cases complement with
  | false => exact yields_name name
  | true =>
      have one : environment.Yields 1.0 [Scalar.ofRat 1] :=
        yields_decimal (by decide)
      exact (one.sub (yields_name name) (lift_single_left ..)).group

theorem yields_sumExpr :
    environment.Yields context.sumExpr
      (environment.registers.sum context.sum).toList := by
  have zero : environment.Yields 0.0 [Scalar.ofRat 0] :=
    yields_decimal (by decide)
  have one : environment.Yields 1.0 [Scalar.ofRat 1] :=
    yields_decimal (by decide)
  have color (complement : Bool) (name : String) :
      environment.Yields
        ((Context.complemented complement name).select "rgb")
        (Portion.rgb.spread
          (Registers.addend complement (environment.colors name))) :=
    (yields_complemented complement name).select rfl
  have sum :
      environment.Yields
        (.call2 "vec4"
          ((Context.complemented context.sum.complementV1 "v1").select "rgb"
            + (Context.complemented context.sum.complementR0 "r0").select
              "rgb")
          0.0)
        _ :=
    ((color context.sum.complementV1 "v1").add
      (color context.sum.complementR0 "r0") rfl).call2 zero rfl
  rw [Context.sumExpr, Registers.sum]
  cases context.sum.clamp with
  | false => exact sum
  | true => exact sum.clamp zero one

/-- Registers read as zero for the shader and for the machine alike. -/
theorem read?_cases
    (environment : Environment value) (general : context.General)
    (register : Register) :
    context.read? register = none ∧
        environment.registers.read? context register = none ∨
      ∃ expression color,
        context.read? register = some expression ∧
          environment.registers.read? context register = some color ∧
          environment.Yields expression color.toList := by
  have plain (name : String) :
      environment.Yields name (environment.colors name).toList :=
    yields_name name
  cases register with
  | zero => exact .inl ⟨rfl, rfl⟩
  | efProduct =>
      left
      constructor
      · simp [Context.read?, general.product_none]
      · rfl
  | c0 =>
      right
      refine ⟨_, _, rfl, rfl, ?_⟩
      rw [general.constantName_eq]
      exact plain _
  | c1 =>
      right
      refine ⟨_, _, rfl, rfl, ?_⟩
      rw [general.constantName_eq]
      exact plain _
  | v1r0Sum => exact .inr ⟨_, _, rfl, rfl, yields_sumExpr⟩
  | fog => exact .inr ⟨_, _, rfl, rfl, plain _⟩
  | v0 => exact .inr ⟨_, _, rfl, rfl, plain _⟩
  | v1 => exact .inr ⟨_, _, rfl, rfl, plain _⟩
  | t0 => exact .inr ⟨_, _, rfl, rfl, plain _⟩
  | t1 => exact .inr ⟨_, _, rfl, rfl, plain _⟩
  | t2 => exact .inr ⟨_, _, rfl, rfl, plain _⟩
  | t3 => exact .inr ⟨_, _, rfl, rfl, plain _⟩
  | r0 => exact .inr ⟨_, _, rfl, rfl, plain _⟩
  | r1 => exact .inr ⟨_, _, rfl, rfl, plain _⟩

omit [Arithmetic value] in
theorem pick_components
    (portion : Portion) (alphaSelected : Bool) (color : Color value) :
    pick channels (portion.components alphaSelected).toList color.toList =
      some (portion.spread fun component =>
        color.get (portion.source alphaSelected component)) := by
  cases portion <;> cases alphaSelected <;> rfl

theorem Yields.inputMapping {expression : Expr} {components : List value}
    (inner : environment.Yields expression components)
    (mapping : InputMapping) :
    environment.Yields (mapping.apply expression)
      (components.map mapping.meaning) := by
  have zero : environment.Yields 0.0 [Scalar.ofRat 0] :=
    yields_decimal (by decide)
  have half : environment.Yields 0.5 [Scalar.ofRat (1 / 2)] :=
    yields_decimal (by decide +kernel)
  have one : environment.Yields 1.0 [Scalar.ofRat 1] :=
    yields_decimal (by decide)
  have two : environment.Yields 2.0 [Scalar.ofRat 2] :=
    yields_decimal (by decide)
  have positive := inner.max zero
  cases mapping with
  | unsignedIdentity => exact positive
  | unsignedInvert =>
      have limited := inner.clamp zero one
      apply (one.sub limited (lift_single_left ..)).group.congr
      exact List.map_map
  | expandNormal =>
      have doubled := two.mul positive (lift_single_left ..)
      apply (doubled.sub one (lift_single_right ..)).group.congr
      simp only [List.map_map]
      rfl
  | expandNegate =>
      have doubled := two.negate.mul positive (lift_single_left ..)
      apply (doubled.add one (lift_single_right ..)).group.congr
      simp only [List.map_map]
      rfl
  | halfBiasNormal =>
      apply (positive.sub half (lift_single_right ..)).group.congr
      exact List.map_map
  | halfBiasNegate =>
      apply (positive.negate.add half (lift_single_right ..)).group.congr
      simp only [List.map_map]
      rfl
  | signedIdentity => exact inner.congr (List.map_id components).symm
  | signedNegate => exact inner.negate

theorem fold_zero (mapping : InputMapping) :
    mapping.fold (0 : Rat) = mapping.ofZero := by
  cases mapping <;> decide +kernel

/-- An operand of the shader is the operand of the machine. -/
theorem yields_operand
    (environment : Environment value) (general : context.General)
    (half : Half) (input : Input) :
    environment.Yields (half.operand context input)
      (half.portion.spread
        (environment.registers.operand context half.portion input)) := by
  have folded :
      environment.Yields
        ((Operand.constant (input.mapping.fold 0)).render half.portion)
        (half.portion.spread fun _ =>
          Scalar.ofRat input.mapping.ofZero) := by
    rw [fold_zero]
    cases half.portion with
    | rgb => exact (yields_number _).call rfl
    | alpha => exact yields_number _
  rw [Half.operand, Context.operand]
  unfold Registers.operand
  cases input.register? with
  | none => exact folded
  | some register =>
      rcases read?_cases environment general register with
        ⟨unread, zero⟩ | ⟨expression, color, read, found, yields⟩
      · simp only [Option.bind_some, unread, zero]
        exact folded
      · simp only [Option.bind_some, read, found, Operand.render]
        have selected :=
          yields.select (pick_components half.portion input.alpha color)
        exact (selected.inputMapping input.mapping).congr List.map_map

/-! ## Results -/

/--
A vector that stands for a result of a portion: its components, or a single
component that all of them equal.
-/
def Stands (portion : Portion) (components : List value)
    (result : Component → value) : Prop :=
  components = portion.spread result ∨
    ∃ each, components = [each] ∧ result = fun _ => each

omit [Arithmetic value] in
theorem Stands.map {portion : Portion} {components : List value}
    {result : Component → value} (stands : Stands portion components result)
    (change : value → value) :
    Stands portion (components.map change)
      (fun component => change (result component)) := by
  rcases stands with rfl | ⟨each, rfl, rfl⟩
  · exact .inl List.map_map
  · exact .inr ⟨change each, rfl, rfl⟩

/-- A vector is made as wide as the portion. -/
theorem Yields.cast {portion : Portion} {expression : Expr}
    {components : List value} {result : Component → value}
    (inner : environment.Yields expression components)
    (stands : Stands portion components result) :
    environment.Yields (portion.cast expression)
      (portion.spread result) := by
  rcases stands with rfl | ⟨each, rfl, rfl⟩
  · cases portion with
    | rgb => exact inner.call rfl
    | alpha => exact inner.group
  · cases portion with
    | rgb => exact inner.call rfl
    | alpha => exact inner.group

omit [Arithmetic value] in
/-- Operators on vectors that stand for results. -/
theorem exists_lift {portion : Portion} {lefts rights : List value}
    {first second : Component → value}
    (left : Stands portion lefts first)
    (right : Stands portion rights second)
    (operation : value → value → value) :
    ∃ components,
      lift operation lefts rights = some components ∧
        Stands portion components
          (fun component =>
            operation (first component) (second component)) := by
  rcases left with rfl | ⟨one, rfl, rfl⟩
  · rcases right with rfl | ⟨other, rfl, rfl⟩
    · cases portion <;> exact ⟨_, rfl, .inl rfl⟩
    · exact ⟨_, lift_single_right .., .inl List.map_map⟩
  · exact ⟨_, lift_single_left .., right.map (operation one)⟩

theorem exists_yields_product
    {portion : Portion} {left right : Expr}
    {first second : Component → value}
    (leftYields : environment.Yields left (portion.spread first))
    (rightYields : environment.Yields right (portion.spread second))
    (dot : Bool) :
    ∃ components,
      environment.Yields (Half.product dot left right) components ∧
        Stands portion components
          (Registers.product portion dot first second) := by
  cases dot with
  | false =>
      have whole (result : Component → value) :
          Stands portion (portion.spread result) result :=
        .inl rfl
      obtain ⟨components, lifted, stands⟩ :=
        exists_lift (whole first) (whole second) Scalar.mul
      exact ⟨components, (leftYields.mul rightYields lifted).group, stands⟩
  | true =>
      refine ⟨_, leftYields.call2 rightYields ?_, .inr ⟨_, rfl, rfl⟩⟩
      cases portion <;> rfl

/-- The test looks at the spare alpha that the machine looks at. -/
theorem eval_muxTest :
    environment.eval (Half.muxTest context) =
      some [.truth (environment.registers.choosesSecond context)] := by
  have alpha :
      environment.Yields (.of "r0" "a") [(environment.colors "r0").a] :=
    (yields_name "r0").select rfl
  rw [Half.muxTest, Registers.choosesSecond]
  cases context.control.muxMsb with
  | true =>
      have half : environment.Yields 0.5 [Scalar.ofRat (1 / 2)] :=
        yields_decimal (by decide +kernel)
      simp only [if_true, Expr.compare, eval,
        show environment.eval (.of "r0" "a") = _ from alpha,
        show environment.eval 0.5 = _ from half]
      rfl
  | false =>
      have largest : environment.Yields 255.0 [Scalar.ofRat 255] :=
        yields_decimal (by decide)
      have scaled := alpha.mul largest (lift_single_right ..)
      generalize (Expr.of "r0" "a" * 255.0 : Expr) = product at scaled ⊢
      simp only [Bool.false_eq_true, if_false, Expr.compare, eval,
        show environment.eval product = _ from scaled]
      rfl

end Environment

/-- The expression of a result before it is scaled. -/
def Half.expression (half : Half) (context : Context) : Result → Expr
  | .ab => half.ab context
  | .cd => half.cd context
  | .muxSum => half.muxSum context

namespace Environment

variable {environment : Environment value} {context : Context}

theorem exists_yields_expression
    (environment : Environment value) (general : context.General)
    (half : Half) (result : Result) :
    ∃ components,
      environment.Yields (half.expression context result) components ∧
        Stands half.portion components
          (fun component =>
            environment.registers.raw context half component result) := by
  have operand (input : Input) :=
    yields_operand environment general half input
  obtain ⟨abs, abYields, abStands⟩ :=
    exists_yields_product (operand half.inputs.a) (operand half.inputs.b)
      half.output.abDot
  obtain ⟨cds, cdYields, cdStands⟩ :=
    exists_yields_product (operand half.inputs.c) (operand half.inputs.d)
      half.output.cdDot
  cases result with
  | ab => exact ⟨abs, abYields, abStands⟩
  | cd => exact ⟨cds, cdYields, cdStands⟩
  | muxSum =>
      simp only [Half.expression, Half.muxSum, Registers.raw]
      cases half.output.mux with
      | false =>
          obtain ⟨components, lifted, stands⟩ :=
            exists_lift abStands cdStands Scalar.add
          exact ⟨components, (abYields.add cdYields lifted).group, stands⟩
      | true =>
          have abCast := abYields.cast abStands
          have cdCast := cdYields.cast cdStands
          refine ⟨_, ?_, .inl rfl⟩
          simp only [if_true, Yields, eval, eval_muxTest, bind, Option.bind]
          cases environment.registers.choosesSecond context with
          | false => exact abCast
          | true => exact cdCast

theorem Yields.outputMapping {expression : Expr} {components : List value}
    (inner : environment.Yields expression components)
    (mapping : OutputMapping) :
    environment.Yields (mapping.apply expression)
      (components.map mapping.meaning) := by
  have half : environment.Yields 0.5 [Scalar.ofRat (1 / 2)] :=
    yields_decimal (by decide +kernel)
  have two : environment.Yields 2.0 [Scalar.ofRat 2] :=
    yields_decimal (by decide)
  have four : environment.Yields 4.0 [Scalar.ofRat 4] :=
    yields_decimal (by decide)
  have lowered := (inner.sub half (lift_single_right ..)).group
  cases mapping with
  | identity => exact inner.congr (List.map_id components).symm
  | bias => exact lowered
  | shiftLeft1 => exact (inner.mul two (lift_single_right ..)).group
  | shiftLeft1Bias =>
      apply (lowered.mul two (lift_single_right ..)).group.congr
      exact List.map_map
  | shiftLeft2 => exact (inner.mul four (lift_single_right ..)).group
  | shiftRight1 => exact (inner.div two (lift_single_right ..)).group

/-! ## Computations -/

omit [Arithmetic value] in
theorem setAll_spread
    (portion : Portion) (result : Component → value) (old : Color value) :
    old.setAll portion.mask.toList (portion.spread result) =
      some (portion.put result false old) := by
  cases portion <;> rfl

/-- A computation assigns a result of the machine to the result variable. -/
theorem run_compute
    (environment : Environment value) (general : context.General)
    (half : Half) (result : Result) :
    environment.run
        (half.compute result.name (half.expression context result)) =
      some (environment.set result.name
        (half.portion.put
          (environment.registers.results context half result) false
          (environment.colors result.name))) := by
  obtain ⟨components, yields, stands⟩ :=
    exists_yields_expression environment general half result
  have one : environment.Yields 1.0 [Scalar.ofRat 1] :=
    yields_decimal (by decide)
  have scaled := (yields.outputMapping half.mapping).cast (stands.map _)
  have limited := scaled.clamp one.negate one
  apply limited.run_assign
  rw [← setAll_spread]
  congr 1
  exact List.map_map

end Environment

namespace Portion

omit [Arithmetic value] in
theorem get_put {portion : Portion} {component : Component}
    (own : component ∈ portion.written) (result : Component → value)
    (blueToAlpha : Bool) (old : Color value) :
    (portion.put result blueToAlpha old).get component =
      result component := by
  cases portion <;> cases component <;> first | rfl | simp [written] at own

omit [Arithmetic value] in
theorem get_put_of_not_mem {portion : Portion} {component : Component}
    (other : component ∉ portion.written) (result : Component → value)
    (old : Color value) :
    (portion.put result false old).get component =
      old.get component := by
  cases portion <;> cases component <;> first | rfl | simp [written] at other

omit [Arithmetic value] in
theorem put_congr {portion : Portion} {first second : Component → value}
    (same : ∀ component ∈ portion.written,
      first component = second component)
    (blueToAlpha : Bool) (old : Color value) :
    portion.put first blueToAlpha old =
      portion.put second blueToAlpha old := by
  cases portion with
  | rgb =>
      simp only [put, same .r (by simp [written]),
        same .g (by simp [written]), same .b (by simp [written])]
  | alpha => simp only [put, same .a (by simp [written])]

end Portion

namespace Half

/-- The computation of a result, if it has a destination. -/
def computation (half : Half) (context : Context) (result : Result) :
    List Statement :=
  if (destination? (half.output.target result)).isSome then
    [half.compute result.name (half.expression context result)]
  else []

theorem computations_eq (half : Half) (context : Context) :
    half.computations context =
      Result.inOrder.flatMap (half.computation context) := by
  simp only [Result.inOrder, List.flatMap_cons, List.flatMap_nil,
    List.append_nil, computations, List.append_assoc]
  rfl

/-- The writes of a result. -/
def writing (half : Half) (result : Result) : List Statement :=
  half.write (half.output.target result) result.name
    (half.output.copiesBlue result)

theorem writes_eq (half : Half) :
    half.writes = Result.inOrder.flatMap half.writing := by
  simp only [Result.inOrder, List.flatMap_cons, List.flatMap_nil,
    List.append_nil, writes, List.append_assoc]
  rfl

end Half

namespace Environment

variable {context : Context}

/-- The result variables hold results of a portion, where they are wanted. -/
def Holds (environment : Environment value) (half : Half)
    (results : Result → Component → value) (result : Result) : Prop :=
  (destination? (half.output.target result)).isSome →
    ∀ component ∈ half.portion.written,
      (environment.colors result.name).get component =
        results result component

/-- What the computations of results change, and what they keep. -/
structure Computed
    (before after : Environment value) (half : Half) (context : Context)
    (wanted : List Result) : Prop where
  registers : after.registers = before.registers
  holds : ∀ result ∈ wanted,
    after.Holds half (before.registers.results context half) result
  unwanted : ∀ result ∉ wanted,
    after.colors result.name = before.colors result.name
  others : ∀ result : Result, ∀ component ∉ half.portion.written,
    (after.colors result.name).get component =
      (before.colors result.name).get component

theorem Computed.append
    {before middle after : Environment value} {half : Half}
    {first rest : List Result}
    (earlier : before.Computed middle half context first)
    (later : middle.Computed after half context rest) :
    before.Computed after half context (first ++ rest) where
  registers := later.registers.trans earlier.registers
  holds result member := by
    by_cases again : result ∈ rest
    · rw [← earlier.registers]
      exact later.holds result again
    · have member : result ∈ first := by simpa [again] using member
      intro reached
      rw [later.unwanted result again]
      exact earlier.holds result member reached
  unwanted result absent := by
    rw [List.mem_append, not_or] at absent
    rw [later.unwanted result absent.2, earlier.unwanted result absent.1]
  others result component other := by
    rw [later.others result component other,
      earlier.others result component other]

theorem exists_runAll_computation
    (environment : Environment value) (general : context.General)
    (half : Half) (result : Result) :
    ∃ after,
      environment.runAll (half.computation context result) = some after ∧
        environment.Computed after half context [result] := by
  by_cases reached : (destination? (half.output.target result)).isSome
  · rw [Half.computation, if_pos reached, runAll_singleton,
      run_compute environment general half result]
    refine ⟨_, rfl, registers_set_result environment result _, ?_, ?_, ?_⟩
    · intro wanted member _ component own
      rw [List.mem_singleton] at member
      subst member
      rw [colors_set_self]
      exact Portion.get_put own ..
    · intro other absent
      apply colors_set_of_ne
      exact Result.name_injective.ne (List.ne_of_not_mem_cons absent)
    · intro other component foreign
      by_cases same : other = result
      · subst same
        rw [colors_set_self]
        exact Portion.get_put_of_not_mem foreign ..
      · rw [colors_set_of_ne _ _ (Result.name_injective.ne same)]
  · rw [Half.computation, if_neg reached]
    refine ⟨_, rfl, rfl, ?_, fun _ _ => rfl, fun _ _ _ => rfl⟩
    intro wanted member alsoReached
    rw [List.mem_singleton] at member
    subst member
    exact absurd alsoReached reached

/-- Computations give results of the registers as they were, and keep those. -/
theorem exists_runAll_computations
    (environment : Environment value) (general : context.General)
    (half : Half) :
    ∃ after,
      environment.runAll (half.computations context) = some after ∧
        environment.Computed after half context Result.inOrder := by
  rw [half.computations_eq context]
  generalize Result.inOrder = wanted
  induction wanted generalizing environment with
  | nil =>
      refine ⟨environment, rfl, rfl, ?_, fun _ _ => rfl, fun _ _ _ => rfl⟩
      simp
  | cons result rest ih =>
      obtain ⟨middle, ran, earlier⟩ :=
        exists_runAll_computation environment general half result
      obtain ⟨after, ranRest, later⟩ := ih middle
      refine ⟨after, ?_, earlier.append later⟩
      rw [List.flatMap_cons, runAll_append, ran]
      exact ranRest

/-! ## Writes -/

omit [Arithmetic value] in
theorem pick_mask (portion : Portion) (color : Color value) :
    pick channels portion.mask.toList color.toList =
      some (portion.spread color.get) := by
  cases portion <;> rfl

omit [Arithmetic value] in
theorem set_set
    (environment : Environment value) (target : String)
    (first second : Color value) :
    (environment.set target first).set target second =
      environment.set target second := by
  rw [set, set, Function.update_idem]
  rfl

/-- A result is written to a register, with its copy of blue. -/
theorem runAll_write_cell
    (environment : Environment value) (half : Half) (result : Result)
    (cell : Cell) (blueToAlpha : Bool) {nibble : UInt8}
    (named : destination? nibble = some cell.name) :
    environment.runAll (half.write nibble result.name blueToAlpha) =
      some (environment.set cell.name
        (half.portion.put (environment.colors result.name).get blueToAlpha
          (environment.colors cell.name))) := by
  have masked :
      environment.Yields (half.masked result.name)
        (half.portion.spread (environment.colors result.name).get) :=
    (yields_name result.name).select (pick_mask ..)
  have written :
      environment.run
          (.set (half.masked cell.name) (half.masked result.name)) =
        some _ :=
    masked.run_assign (setAll_spread ..)
  simp only [Half.write, named, runAll, written, bind, Option.bind]
  rcases half with ⟨inputs, output, portion⟩
  cases portion with
  | alpha => rfl
  | rgb =>
      cases blueToAlpha with
      | false => rfl
      | true =>
          -- The copy reads the result, which the first write left alone.
          have kept (color : Color value) :
              (environment.set cell.name color).colors result.name =
                environment.colors result.name :=
            colors_set_of_ne _ _ (cell.name_ne_result result).symm
          have blue (current : Environment value) :
              current.run (.set (.of cell.name "a") (.of result.name "b")) =
                some (current.set cell.name
                  { current.colors cell.name with
                    a := (current.colors result.name).b }) :=
            Yields.run_assign ((yields_name result.name).select rfl) rfl
          rw [if_pos ⟨rfl, rfl⟩, runAll_singleton, blue, kept,
            colors_set_self, set_set]
          rfl

/-- Results are written to the registers as the machine writes them. -/
theorem exists_runAll_write
    (environment : Environment value) (half : Half)
    {results : Result → Component → value} {result : Result}
    (held : environment.Holds half results result) :
    ∃ after,
      environment.runAll (half.writing result) = some after ∧
        after.registers =
          environment.registers.write half.portion
            (half.output.target result) (half.output.copiesBlue result)
            (results result) ∧
        ∀ other : Result,
          after.colors other.name = environment.colors other.name := by
  have named := destination?_eq (half.output.target result)
  unfold Registers.write
  cases found : (Register.ofNibble? (half.output.target result)).bind
      Register.cell? with
  | none =>
      rw [found] at named
      refine ⟨environment, ?_, rfl, fun _ => rfl⟩
      rw [Half.writing, Half.write, named]
      rfl
  | some cell =>
      rw [found] at named
      have reached :
          (destination? (half.output.target result)).isSome := by
        rw [named]
        rfl
      refine ⟨_, runAll_write_cell environment half result cell _ named,
        ?_, ?_⟩
      · rw [registers_set_cell]
        congr 1
        apply Portion.put_congr
        exact held reached
      · intro other
        exact colors_set_of_ne _ _ (cell.name_ne_result other).symm

/-- All results of a portion are written in their order. -/
theorem exists_runAll_writes
    (environment : Environment value) (half : Half)
    {results : Result → Component → value}
    (held : ∀ result ∈ Result.inOrder,
      environment.Holds half results result) :
    ∃ after,
      environment.runAll half.writes = some after ∧
        after.registers = environment.registers.commit half results ∧
        ∀ other : Result,
          after.colors other.name = environment.colors other.name := by
  rw [half.writes_eq, Registers.commit]
  generalize Result.inOrder = pending at held
  induction pending generalizing environment with
  | nil => exact ⟨environment, rfl, rfl, fun _ => rfl⟩
  | cons result rest ih =>
      obtain ⟨middle, ran, written, kept⟩ :=
        exists_runAll_write environment half (held result (.head _))
      have heldRest (other : Result) (member : other ∈ rest) :
          middle.Holds half results other := by
        intro reached
        rw [kept other]
        exact held other (.tail _ member) reached
      obtain ⟨after, ranRest, writtenRest, keptRest⟩ :=
        ih middle heldRest
      refine ⟨after, ?_, ?_, fun other => ?_⟩
      · rw [List.flatMap_cons, runAll_append, ran]
        exact ranRest
      · rw [writtenRest, written]
        rfl
      · rw [keptRest other, kept other]

/-! ## Stages -/

theorem runAll_append_of
    {before middle after : Environment value} {first rest : List Statement}
    (ran : before.runAll first = some middle)
    (ranRest : middle.runAll rest = some after) :
    before.runAll (first ++ rest) = some after := by
  rw [runAll_append, ran]
  exact ranRest

/-- A stage's statements do what the machine does. -/
theorem exists_runAll_statements
    (environment : Environment value) (general : context.General)
    (stage : Stage) :
    ∃ after,
      environment.runAll (stage.statements context) = some after ∧
        after.registers = environment.registers.step stage context := by
  obtain ⟨colored, ranColor, color⟩ :=
    exists_runAll_computations environment general stage.rgb
  obtain ⟨computed, ranAlpha, alpha⟩ :=
    exists_runAll_computations colored general stage.alpha
  have colorHeld (result : Result) (member : result ∈ Result.inOrder) :
      computed.Holds stage.rgb
        (environment.registers.results context stage.rgb) result := by
    intro reached component own
    -- Alpha is computed after color, in the component that color leaves out.
    have foreign : component ∉ stage.alpha.portion.written := by
      intro shared
      cases component <;>
        simp [Stage.rgb, Stage.alpha, Portion.written] at own shared
    rw [alpha.others result component foreign]
    exact color.holds result member reached component own
  obtain ⟨written, ranWrites, committed, kept⟩ :=
    exists_runAll_writes computed stage.rgb colorHeld
  have alphaHeld (result : Result) (member : result ∈ Result.inOrder) :
      written.Holds stage.alpha
        (environment.registers.results context stage.alpha) result := by
    intro reached
    rw [kept result, ← color.registers]
    exact alpha.holds result member reached
  obtain ⟨after, ranLast, committedLast, _⟩ :=
    exists_runAll_writes written stage.alpha alphaHeld
  refine ⟨after, ?_, ?_⟩
  · have ranRemark :
        environment.runAll
            (.remark ("Stage " ++ toString context.stage) ::
              stage.rgb.computations context) =
          some colored :=
      ranColor
    exact runAll_append_of
      (runAll_append_of (runAll_append_of ranRemark ranAlpha) ranWrites)
      ranLast
  · rw [committedLast, committed, alpha.registers, color.registers]
    rfl

/-- Stages compose in their order. -/
theorem exists_runAll_stages
    (environment : Environment value) {stages : List (Stage × Context)}
    (general : ∀ entry ∈ stages, entry.2.General) :
    ∃ after,
      environment.runAll
          (stages.flatMap fun (stage, context) => stage.statements context) =
        some after ∧
        after.registers = environment.registers.run stages := by
  induction stages generalizing environment with
  | nil => exact ⟨environment, rfl, rfl⟩
  | cons entry rest ih =>
      obtain ⟨middle, ran, stepped⟩ :=
        exists_runAll_statements environment (general entry (.head _))
          entry.1
      obtain ⟨after, ranRest, runRest⟩ :=
        ih middle (fun other member => general other (.tail _ member))
      refine ⟨after, runAll_append_of ran ranRest, ?_⟩
      rw [runRest, stepped]
      rfl

end Environment

/-- A general stage of a pixel configuration. -/
def Stage.ofPixel (state : PixelState) (index : Fin 8) : Stage where
  rgbInputs := .ofWord (state.rgbInputs.get index)
  rgbOutput := .ofWord (state.rgbOutputs.get index)
  alphaInputs := .ofWord (state.alphaInputs.get index)
  alphaOutput := .ofWord (state.alphaOutputs.get index)

/-- The stages of a pixel configuration, as many as are asked for and exist. -/
def stagesOf (state : PixelState) : List (Stage × Context) :=
  let settings := Settings.ofPixel state
  (List.finRange 8).take settings.control.stages |>.map fun index =>
    (Stage.ofPixel state index, settings.context index)

/-- The general stages come before the final combiner. -/
theorem statements_eq (settings : Settings) :
    ∃ final,
      settings.statements =
        settings.numbered.flatMap
            (fun (stage, context) => stage.statements context)
          ++ final :=
  ⟨_, rfl⟩

theorem numbered_ofPixel (state : PixelState) :
    (Settings.ofPixel state).numbered = stagesOf state := by
  apply List.ext_getElem
  · simp [Settings.numbered, stagesOf, Settings.ofPixel]
  · intro index _ _
    simp [Settings.numbered, stagesOf, Settings.ofPixel, Stage.ofPixel]

theorem general_of_mem_stagesOf {state : PixelState}
    {entry : Stage × Context} (member : entry ∈ stagesOf state) :
    entry.2.General := by
  obtain ⟨index, _, rfl⟩ := List.mem_map.mp member
  constructor
  · exact Nat.ne_of_lt index.isLt
  · rfl

/--
The statements of the general stages stand together in the main function of
the fragment stage.  For any arithmetic and any values of the variables, each
stage gives the registers that the machine gives, and so do all stages one
after the other.
-/
theorem general_stages_run_as_machine
    (state : PixelState) (shading : Shading) :
    (stagesOf state).length =
        min (state.combinerControl &&& 0xFF).toNat 8 ∧
      (∃ before after,
        Fragment.mainLines state shading =
          before
            ++ Glsl.indented 0
              ((stagesOf state).flatMap fun (stage, context) =>
                stage.statements context)
            ++ after) ∧
      ∀ (value : Type) [Arithmetic value] (environment : Environment value),
        (∀ index : Fin (stagesOf state).length,
          let entry := (stagesOf state).get index
          ∃ after,
            environment.runAll (entry.1.statements entry.2) = some after ∧
              after.registers =
                environment.registers.step entry.1 entry.2) ∧
          ∃ after,
            environment.runAll
                ((stagesOf state).flatMap fun (stage, context) =>
                  stage.statements context) =
              some after ∧
              after.registers =
                environment.registers.run (stagesOf state) := by
  refine ⟨?_, ?_, ?_⟩
  · simp [stagesOf, Settings.ofPixel, Control.ofWord]
  · obtain ⟨final, split⟩ := statements_eq (Settings.ofPixel state)
    rw [← numbered_ofPixel, Fragment.mainLines, split, Glsl.indented,
      List.map_append, ← List.append_assoc, List.append_assoc _ _
        (Fragment.alphaTestLines state)]
    exact ⟨_, _, rfl⟩
  · intro value _ environment
    constructor
    · intro index
      exact environment.exists_runAll_statements
        (general_of_mem_stagesOf (List.get_mem ..)) _
    · exact environment.exists_runAll_stages
        (fun _ member => general_of_mem_stagesOf member)

end ShaderSynth.Combiner
