import ShaderSynth.Proofs.Glsl.Names
import ShaderSynth.Proofs.Microcode.Execution

/-!
# What emitted statements do

The registers of the vertex machine are shader variables.  `view` reads them
off the values of all variables, and the lemmas below say what each kind of
emitted statement does to what can be seen: the registers and the two staging
variables.  An operand that is register twelve reads the position.
-/

namespace ShaderSynth.Microcode

open Glsl

variable {scalar : Type}

/-! ## Names of variables -/

/-- The shader variable of an input. -/
def inputName (number : UInt8) : String :=
  "v" ++ toString number.toNat

/-- The first letter of a name tells what kind of variable it is. -/
@[simp]
theorem head_temporaryName (number : UInt8) :
    (temporaryName number).toList.head? = some 'R' := by
  simp [temporaryName]

@[simp]
theorem head_inputName (number : UInt8) :
    (inputName number).toList.head? = some 'v' := by
  simp [inputName]

@[simp]
theorem head_variableName (register : OutputRegister) :
    register.variableName.toList.head? = some 'o' := by
  cases register <;> rfl

theorem ne_of_head
    {first second : String}
    (different : first.toList.head? ≠ second.toList.head?) :
    first ≠ second := by
  rintro rfl
  exact different rfl

theorem temporaryName_ne_variableName
    (number : UInt8) (register : OutputRegister) :
    temporaryName number ≠ register.variableName :=
  ne_of_head (by simp)

theorem inputName_ne_temporaryName (number other : UInt8) :
    inputName number ≠ temporaryName other :=
  ne_of_head (by simp)

theorem inputName_ne_variableName
    (number : UInt8) (register : OutputRegister) :
    inputName number ≠ register.variableName :=
  ne_of_head (by simp)

theorem temporaryName_ne_staging (number : UInt8) :
    temporaryName number ≠ "_temp_vec" :=
  ne_of_head (by simp)

theorem variableName_ne_staging (register : OutputRegister) :
    register.variableName ≠ "_temp_vec" :=
  ne_of_head (by simp)

theorem inputName_ne_staging (number : UInt8) :
    inputName number ≠ "_temp_vec" :=
  ne_of_head (by simp)

theorem temporaryName_injective : Function.Injective temporaryName := by
  intro first second same
  exact UInt8.toNat_inj.mp (number_inj same)

theorem variableName_injective :
    Function.Injective OutputRegister.variableName := by
  intro first second same
  cases first <;> cases second <;>
    first
    | rfl
    | simp [OutputRegister.variableName] at same

theorem variableOf_of_ne {name : String} (other : name ≠ "R12") :
    variableOf name = name :=
  if_neg other

theorem variableOf_temporaryName {number : UInt8} (other : number ≠ 12) :
    variableOf (temporaryName number) = temporaryName number := by
  have twelve : temporaryName 12 = "R12" := by decide
  refine variableOf_of_ne ?_
  rw [← twelve]
  exact fun same => other (temporaryName_injective same)

theorem variableOf_inputName (number : UInt8) :
    variableOf (inputName number) = inputName number :=
  variableOf_of_ne (ne_of_head (by simp))

theorem variableOf_variableName (register : OutputRegister) :
    variableOf register.variableName = register.variableName :=
  variableOf_of_ne (ne_of_head (by simp))

/-! ## Registers as variables -/

/-- The registers of the machine among the variables. -/
def Environment.view (environment : Environment scalar) :
    Registers scalar where
  temporaries number := environment.vectors (temporaryName number)
  outputs register := environment.vectors register.variableName
  address := environment.integers "A0"
  inputs number := environment.vectors (inputName number)
  constants := environment.arrays "c"

namespace Registers

/-- The register that is read. -/
def source (registers : Registers scalar) : Source → Vec4 scalar
  | .temporary number => registers.temporaries number
  | .input number => registers.inputs number
  | .constant index => registers.constants index
  | .relativeConstant index =>
      registers.constants (registers.address + index)

/-- The value of an operand. -/
def value
    (meaning : Interpretation scalar) (registers : Registers scalar)
    (read : Read) :
    Vec4 scalar :=
  let selected := (registers.source read.source).swizzle read.swizzle
  if read.negate then selected.map meaning.negate else selected

/-- Outputs cannot be read. -/
@[simp]
theorem value_writeOutput
    (meaning : Interpretation scalar) (registers : Registers scalar)
    (register : OutputRegister) (mask : Mask) (result : Vec4 scalar) :
    (registers.writeOutput register mask result).value meaning =
      registers.value meaning := by
  funext read
  unfold value source
  cases read.source <;> rfl

end Registers

/-! ## Operands -/

/-- An operand is not register twelve. -/
def Read.Plain (read : Read) : Prop :=
  read.source ≠ .temporary 12

namespace Registers

theorem source_readable
    (registers : Registers scalar) {source : Source}
    (plain : source ≠ .temporary 12) :
    registers.readable.source source = registers.source source := by
  cases source with
  | temporary number =>
      have other : number ≠ 12 := by
        rintro rfl
        exact plain rfl
      exact Function.update_of_ne other _ _
  | input number => rfl
  | constant index => rfl
  | relativeConstant index => rfl

theorem value_readable
    (meaning : Interpretation scalar) (registers : Registers scalar)
    {read : Read} (plain : read.Plain) :
    registers.readable.value meaning read =
      registers.value meaning read := by
  simp only [value, registers.source_readable plain]

end Registers

namespace Environment

variable {meaning : Interpretation scalar}

theorem integer_int (environment : Environment scalar) (value : Nat) :
    environment.integer (.int value) = some (value : Int) := by
  obtain ⟨digits, read⟩ := digits_toString value
  unfold Expr.int integer
  rw [if_pos digits, read]

theorem components_source
    (meaning : Interpretation scalar) (environment : Environment scalar)
    (source : Source) :
    environment.components meaning source.expr =
      some (environment.view.readable.source source).toList := by
  cases source with
  | temporary number =>
      by_cases twelve : number = 12
      · subst twelve
        rfl
      · rw [environment.view.source_readable
          fun same => twelve (Source.temporary.inj same)]
        simp only [Source.expr, components, Registers.source, view,
          variableOf_temporaryName twelve]
  | input number =>
      have same := variableOf_inputName number
      unfold inputName at same
      simp only [Source.expr, components, Registers.source,
        Registers.readable, view, inputName, same]
  | constant index =>
      simp [Source.expr, components, Registers.source, Registers.readable,
        view, integer_int]
  | relativeConstant index =>
      simp [Source.expr, components, integer, Registers.source,
        Registers.readable, view, integer_int]

/-- A selection without letters is the whole vector. -/
theorem widen_selection
    {environment : Environment scalar} {vector : Expr} {found : Vec4 scalar}
    (selection : Swizzle)
    (known : environment.components meaning vector = some found.toList) :
    environment.input meaning
        (match selection.letters with
        | [] => vector
        | letters => vector.select (String.ofList letters)) =
      some (found.swizzle selection) := by
  by_cases whole : selection = .identity
  · subst whole
    simp [input, Swizzle.letters, Swizzle.letterCount, known, Vec4.toList,
      Vec4.widen]
  · have picked :=
      pick_letters found (selection.toList.take selection.letterCount)
    have wide := widen_selected found whole
    change pick coordinates selection.letters _ = _ at picked
    generalize List.map found.component _ = chosen at picked wide
    cases letters : selection.letters with
    | nil =>
        rw [letters] at picked
        cases (Option.some.inj picked) ▸ wide
    | cons letter rest =>
        rw [letters] at picked
        simp [input, components, known, picked, wide]

theorem input_negate (environment : Environment scalar) (operand : Expr) :
    environment.input meaning (.negate operand) =
      (environment.input meaning operand).map (Vec4.map meaning.negate) := by
  unfold input
  simp only [components]
  cases environment.components meaning operand with
  | none => rfl
  | some values => exact widen_map meaning.negate values

/-- An operand is read with its sign and its selection. -/
theorem input_read (environment : Environment scalar) (read : Read) :
    environment.input meaning read.expr =
      some (environment.view.readable.value meaning read) := by
  have selected :=
    widen_selection read.swizzle
      (components_source meaning environment read.source)
  unfold Read.expr Registers.value
  dsimp only
  split
  · rw [input_negate]
    exact congrArg (Option.map _) selected
  · exact selected

end Environment

/-! ## What can be seen of the variables -/

/-- The registers together with the staging variables. -/
@[ext]
structure Staged (scalar : Type) where
  registers : Registers scalar
  vector : Vec4 scalar
  address : Int

namespace Staged

/-- Writes components of a destination. -/
def write (staged : Staged scalar) (mask : Mask) (result : Vec4 scalar) :
    Destination → Staged scalar
  | .temporary number =>
      { staged with
        registers := staged.registers.writeTemporary number mask result }
  | .output register =>
      { staged with
        registers := staged.registers.writeOutput register mask result }
  | .staging => { staged with vector := result.blend mask staged.vector }

/-- Writes the address register, or the staged value of it. -/
def writeAddress (staged : Staged scalar) (value : Int) : Bool → Staged scalar
  | true => { staged with address := value }
  | false =>
      { staged with registers := { staged.registers with address := value } }

end Staged

namespace Environment

variable {meaning : Interpretation scalar}

/-- What can be seen of the variables. -/
def observe (environment : Environment scalar) : Staged scalar :=
  ⟨environment.view, environment.vectors "_temp_vec",
    environment.integers "_temp_addr"⟩

/-- The variables after an assignment to one of the vectors. -/
def setVector
    (environment : Environment scalar) (name : String)
    (vector : Vec4 scalar) :
    Environment scalar :=
  { environment with
    vectors := Function.update environment.vectors name vector }

theorem vectors_setVector_of_ne
    (environment : Environment scalar) {name other : String}
    (vector : Vec4 scalar) (different : other ≠ name) :
    (environment.setVector name vector).vectors other =
      environment.vectors other :=
  Function.update_of_ne different _ _

theorem observe_setVector_temporary
    (environment : Environment scalar) (number : UInt8)
    (vector : Vec4 scalar) :
    (environment.setVector (temporaryName number) vector).observe =
      { environment.observe with
        registers :=
          { environment.view with
            temporaries :=
              Function.update environment.view.temporaries number
                vector } } := by
  refine Staged.ext (Registers.ext ?_ (funext ?_) rfl (funext ?_) rfl) ?_ rfl
  · exact Function.update_comp_eq_of_injective _ temporaryName_injective _ _
  · intro register
    exact environment.vectors_setVector_of_ne vector
      (temporaryName_ne_variableName number register).symm
  · intro other
    exact environment.vectors_setVector_of_ne vector
      (inputName_ne_temporaryName other number)
  · exact environment.vectors_setVector_of_ne vector
      (temporaryName_ne_staging number).symm

theorem observe_setVector_output
    (environment : Environment scalar) (register : OutputRegister)
    (vector : Vec4 scalar) :
    (environment.setVector register.variableName vector).observe =
      { environment.observe with
        registers :=
          { environment.view with
            outputs :=
              Function.update environment.view.outputs register vector } } := by
  refine Staged.ext (Registers.ext (funext ?_) ?_ rfl (funext ?_) rfl) ?_ rfl
  · intro number
    exact environment.vectors_setVector_of_ne vector
      (temporaryName_ne_variableName number register)
  · exact Function.update_comp_eq_of_injective _ variableName_injective _ _
  · intro number
    exact environment.vectors_setVector_of_ne vector
      (inputName_ne_variableName number register)
  · exact environment.vectors_setVector_of_ne vector
      (variableName_ne_staging register).symm

theorem observe_setVector_staging
    (environment : Environment scalar) (vector : Vec4 scalar) :
    (environment.setVector "_temp_vec" vector).observe =
      { environment.observe with vector := vector } := by
  refine Staged.ext
    (Registers.ext (funext ?_) (funext ?_) rfl (funext ?_) rfl) ?_ rfl
  · intro number
    exact environment.vectors_setVector_of_ne vector
      (temporaryName_ne_staging number)
  · intro register
    exact environment.vectors_setVector_of_ne vector
      (variableName_ne_staging register)
  · intro number
    exact environment.vectors_setVector_of_ne vector
      (inputName_ne_staging number)
  · exact Function.update_self "_temp_vec" vector environment.vectors

/-- A masked assignment writes components of its destination. -/
theorem assign_destination
    (environment : Environment scalar) (destination : Destination)
    (mask : Mask) (result : Vec4 scalar) :
    ∃ after,
      (do
        let values ← pick coordinates mask.letters.toList result.toList
        environment.assign destination.variableName mask.letters.toList
          values) = some after ∧
        after.observe = environment.observe.write mask result destination := by
  have assigned :
      (do
        let values ← pick coordinates mask.letters.toList result.toList
        environment.assign destination.variableName mask.letters.toList
          values) =
        some (environment.setVector (variableOf destination.variableName)
          (result.blend mask
            (environment.vectors (variableOf destination.variableName)))) := by
    obtain ⟨values, picked, put⟩ := Option.bind_eq_some_iff.mp
      (putAll_pick_letters mask result
        (environment.vectors (variableOf destination.variableName)))
    simp [picked, assign, put, setVector]
  refine ⟨_, assigned, ?_⟩
  cases destination with
  | temporary number =>
      -- Register twelve has no variable of its own.
      by_cases twelve : number = 12
      · subst twelve
        exact observe_setVector_output environment .position _
      · have other := variableOf_temporaryName twelve
        simp only [Destination.variableName, other, Staged.write]
        rw [observe_setVector_temporary]
        simp [Registers.writeTemporary, twelve, observe, view]
  | output register =>
      simp only [Destination.variableName, variableOf_variableName]
      exact observe_setVector_output environment register _
  | staging => exact observe_setVector_staging environment _

theorem observe_assignInteger
    (environment : Environment scalar) (staged : Bool) (value : Int) :
    (environment.assignInteger (if staged then "_temp_addr" else "A0")
        value).observe =
      environment.observe.writeAddress value staged := by
  cases staged <;>
    simp [observe, view, assignInteger, Staged.writeAddress]

theorem mapM_input
    (meaning : Interpretation scalar) (environment : Environment scalar)
    (inputs : List Read) :
    (inputs.map Read.expr).mapM (environment.input meaning) =
      some (inputs.map (environment.view.readable.value meaning)) := by
  induction inputs with
  | nil => rfl
  | cons read rest ih =>
      rw [List.map_cons, List.mapM_cons, environment.input_read, ih]
      rfl

theorem arguments_withInputs (first : Expr) (inputs : List Read) :
    arguments (withInputs first inputs) =
      arguments first ++ inputs.map Read.expr := by
  unfold withInputs
  induction inputs generalizing first with
  | nil => simp
  | cons read rest ih =>
      rw [List.foldl_cons, ih]
      simp [arguments]

theorem runLines_append
    (first second : List Line) (environment : Environment scalar) :
    environment.runLines meaning (first ++ second) =
      (environment.runLines meaning first).bind
        (runLines meaning second) := by
  induction first generalizing environment with
  | nil => rfl
  | cons line rest ih =>
      simp only [List.cons_append, runLines]
      cases environment.run meaning line.statement with
      | none => rfl
      | some after => exact ih after

end Environment

/-! ## Statements -/

/-- Lines take what can be seen of the variables from one state to another. -/
def Leads
    (meaning : Interpretation scalar) (lines : List Line)
    (before after : Staged scalar) :
    Prop :=
  ∀ environment : Environment scalar, environment.observe = before →
    ∃ later,
      environment.runLines meaning lines = some later ∧
        later.observe = after

/-- The lines of statements. -/
def emitted (statements : List Statement) : List Line :=
  indented 2 (statements.map Statement.shader)

theorem emitted_append (first second : List Statement) :
    emitted (first ++ second) = emitted first ++ emitted second := by
  simp [emitted, indented]

namespace Leads

variable {meaning : Interpretation scalar}

theorem nil (staged : Staged scalar) : Leads meaning [] staged staged :=
  fun environment seen => ⟨environment, rfl, seen⟩

theorem append
    {first second : List Line} {before middle after : Staged scalar}
    (one : Leads meaning first before middle)
    (two : Leads meaning second middle after) :
    Leads meaning (first ++ second) before after := by
  intro environment seen
  obtain ⟨between, ran, observed⟩ := one environment seen
  obtain ⟨later, ranOn, reached⟩ := two between observed
  refine ⟨later, ?_, reached⟩
  rw [Environment.runLines_append, ran]
  exact ranOn

/-- A line of a single statement. -/
theorem single
    {statement : Statement} {before after : Staged scalar}
    (runs :
      ∀ environment : Environment scalar, environment.observe = before →
        ∃ later,
          environment.run meaning statement.shader = some later ∧
            later.observe = after) :
    Leads meaning (emitted [statement]) before after := by
  intro environment seen
  obtain ⟨later, ran, reached⟩ := runs environment seen
  refine ⟨later, ?_, reached⟩
  simp [emitted, indented, Environment.runLines, ran]

theorem compute
    {operation : Operation} {inputs : List Read}
    (destination : Destination) (mask : Mask) (before : Staged scalar)
    (other : operation.mnemonic ≠ MacOp.arl.mnemonic) :
    Leads meaning (emitted [.compute operation destination mask inputs])
      before
      (before.write mask
        (meaning.compute operation.mnemonic
          (inputs.map (before.registers.readable.value meaning)))
        destination) := by
  refine single fun environment seen => ?_
  subst seen
  have read := environment.mapM_input meaning inputs
  obtain ⟨later, assigned, reached⟩ :=
    environment.assign_destination destination mask
      (meaning.compute operation.mnemonic
        (inputs.map (environment.view.readable.value meaning)))
  refine ⟨later, ?_, reached⟩
  simp only [Statement.shader, Environment.run, if_neg other,
    Environment.arguments_withInputs, Environment.arguments, List.cons_append,
    List.nil_append, Environment.runOpcode, read]
  exact assigned

theorem loadAddress
    (read : Read) (staged : Bool) (before : Staged scalar) :
    Leads meaning (emitted [.loadAddress staged [read]]) before
      (before.writeAddress
        (meaning.address (before.registers.readable.value meaning read))
        staged) := by
  refine single fun environment seen => ?_
  subst seen
  refine ⟨_, ?_, environment.observe_assignInteger staged _⟩
  simp only [Statement.shader, Environment.run, if_true,
    Environment.arguments_withInputs, Environment.arguments, List.map_cons,
    List.map_nil, List.cons_append, List.nil_append, Environment.runAddress,
    environment.input_read]
  rfl

theorem commit (register : UInt8) (mask : Mask) (before : Staged scalar) :
    Leads meaning (emitted [.commit register mask]) before
      (before.write mask before.vector (.temporary register)) := by
  refine single fun environment seen => ?_
  subst seen
  obtain ⟨later, assigned, reached⟩ :=
    environment.assign_destination (.temporary register) mask
      (environment.vectors "_temp_vec")
  exact ⟨later, assigned, reached⟩

theorem commitAddress (before : Staged scalar) :
    Leads meaning (emitted [.commitAddress]) before
      (before.writeAddress before.address false) := by
  refine single fun environment seen => ?_
  subst seen
  exact ⟨_, rfl, environment.observe_assignInteger false _⟩

end Leads

end ShaderSynth.Microcode
