import Mathlib.Logic.Function.Basic
import ShaderSynth.Proofs.Glsl.Names
import ShaderSynth.Stage.Geometry

/-!
# Runs of a geometry stage

What a geometry stage emits for one primitive of a draw.  The source is carried
out statement by statement: conditions are about the number of the primitive,
and functions are called with whole numbers.  An emitted vertex is told by the
vertex of the draw that its position is copied from; its other values are left
out.

A run has a result only where the language defines one.  It has none if a
vertex is read that the primitive does not have, if a vertex is emitted before
its position is set, or if more vertices are emitted than the stage declares.

`strips_source` gives the result for every stage that follows an `Emission`.
-/

namespace ShaderSynth.Geometry

open Glsl

/-- A primitive that the host passes to a geometry stage. -/
structure Primitive where
  /-- Its number in the draw. -/
  number : Nat
  /-- The vertices of the draw that it consists of. -/
  corners : List Nat
deriving DecidableEq, Repr

/-- Where a run of a stage stands. -/
@[ext]
structure Run where
  /-- Whether each open block is carried out, the innermost one first. -/
  blocks : List Bool
  /-- Whether the current function has been left. -/
  left : Bool
  /-- The vertex that the next one is copied from, once that is known. -/
  position : Option Nat
  /-- The strips that have ended. -/
  ended : List (List Nat)
  /-- The strip that vertices are added to. -/
  strip : List Nat
deriving DecidableEq, Repr

namespace Run

/-- Nothing has been emitted. -/
def start : Run := ⟨[], false, none, [], []⟩

/-- Whether the next statement is carried out. -/
def live (run : Run) : Bool :=
  !run.left && run.blocks.all id

/-- The number of vertices emitted so far. -/
def count (run : Run) : Nat :=
  (run.ended.flatten ++ run.strip).length

/-- Emits a vertex, if the stage may; its values are undefined afterwards. -/
def emit (limit : Nat) (run : Run) : Option Run :=
  if run.count < limit then
    run.position.map fun vertex =>
      { run with
        position := none
        strip := run.strip ++ [vertex] }
  else none

/-- Ends a strip and begins another. -/
def endStrip (run : Run) : Run :=
  { run with
    ended := run.ended ++ [run.strip]
    strip := [] }

/-- The run with vertices added to its strip. -/
def add (run : Run) (vertices : List Nat) : Run :=
  { run with strip := run.strip ++ vertices }

/-- The run inside one more block. -/
def enter (run : Run) (chosen : Bool) : Run :=
  { run with blocks := chosen :: run.blocks }

@[simp]
theorem live_add (run : Run) (vertices : List Nat) :
    (run.add vertices).live = run.live := rfl

@[simp]
theorem position_add (run : Run) (vertices : List Nat) :
    (run.add vertices).position = run.position := rfl

@[simp]
theorem count_add (run : Run) (vertices : List Nat) :
    (run.add vertices).count = run.count + vertices.length := by
  show (run.ended.flatten ++ (run.strip ++ vertices)).length = _
  rw [← List.append_assoc, List.length_append]
  rfl

theorem add_nil (run : Run) : run.add [] = run :=
  congrArg (fun strip => { run with strip }) (List.append_nil run.strip)

theorem add_add (run : Run) (vertices others : List Nat) :
    (run.add vertices).add others = run.add (vertices ++ others) :=
  congrArg (fun strip => { run with strip })
    (List.append_assoc run.strip vertices others)

theorem live_enter (run : Run) (chosen : Bool) :
    (run.enter chosen).live = (chosen && run.live) :=
  Bool.and_left_comm ..

end Run

/-! ## Expressions -/

/-- The whole number that an expression stands for. -/
def number? (values : String → Option Nat) : Expr → Option Nat
  | .name identifier => values identifier
  | .literal text =>
      if text.toList.all Char.isDigit then
        some (Nat.ofDigitChars 10 text.toList 0)
      else none
  | .group inner => number? values inner
  | .binary .bitAnd _ left right => do
      let first ← number? values left
      let second ← number? values right
      return first &&& second
  | _ => none

/-- Whether a comparison of whole numbers holds. -/
def condition? (values : String → Option Nat) : Expr → Option Bool
  | .binary .equal _ left right => do
      let first ← number? values left
      let second ← number? values right
      return first == second
  | .binary .notEqual _ left right => do
      let first ← number? values left
      let second ← number? values right
      return first != second
  | _ => none

/-- The vertex of the draw that a position is read from. -/
def corner? (values : String → Option Nat) (corners : List Nat) :
    Expr → Option Nat
  | .select (.element (.name array) index) field =>
      if array = "gl_in" ∧ field = "gl_Position" then do
        let place ← number? values index
        corners[place]?
      else none
  | _ => none

/-- The whole numbers that a function is called with. -/
def arguments? (values : String → Option Nat) : Expr → Option (List Nat)
  | .comma _ first rest => do
      let earlier ← arguments? values first
      let later ← arguments? values rest
      return earlier ++ later
  | single => (number? values single).map fun value => [value]

/-! ## Statements -/

/-- What the functions of a source do. -/
abbrev Calls := String → List Nat → Run → Option Run

/-- The functions of the language. -/
def builtin (limit : Nat) : Calls := fun function given run =>
  if given ≠ [] then none
  else if function = "EmitVertex" then run.emit limit
  else if function = "EndPrimitive" then some run.endStrip
  else none

section Statements

variable (calls : Calls) (corners : List Nat)
  (values : String → Option Nat)

/-- Carries out a statement. -/
def step (run : Run) : Statement → Option Run
  | .enter (.when condition) =>
      if run.live then (condition? values condition).map run.enter
      else some (run.enter false)
  | .enter .otherwise =>
      match run.blocks with
      | [] => none
      | chosen :: outer => some { run with blocks := (!chosen) :: outer }
  | .leave => some { run with blocks := run.blocks.tail }
  | .assign target .set value =>
      if run.live ∧ target = .name "gl_Position" then
        (corner? values corners value).map fun vertex =>
          { run with position := some vertex }
      else some run
  | .invoke function none =>
      if run.live then calls function [] run else some run
  | .invoke function (some arguments) =>
      if run.live then do
        let given ← arguments? values arguments
        calls function given run
      else some run
  | .guard _ condition .return =>
      if run.live then
        (condition? values condition).map fun leaves =>
          { run with left := leaves }
      else some run
  | .blank | .comment _ | .remark _ => some run
  | _ => none

/-- Carries out lines. -/
def runLines (lines : List Line) (run : Run) : Option Run :=
  lines.foldlM
    (fun current line => step calls corners values current line.statement) run

end Statements

/-- The values that names have in a function. -/
def valuesIn (primitive : Primitive) (parameters : List String)
    (given : List Nat) (name : String) : Option Nat :=
  (parameters.zip given ++ [("gl_PrimitiveIDIn", primitive.number)]).lookup
    name

/-- Carries out a function, with blocks of its own. -/
def perform (primitive : Primitive) (calls : Calls) (function : Function)
    (given : List Nat) (run : Run) : Option Run :=
  if given.length = function.parameters.length then do
    let values :=
      valuesIn primitive (function.parameters.map Prod.snd) given
    let inside := { run with blocks := [], left := false }
    let after ← runLines calls primitive.corners values function.body inside
    return { after with
      blocks := run.blocks
      left := run.left }
  else none

/-! ## Sources -/

/-- The functions after an item.  Textual definitions are not understood. -/
def declare (primitive : Primitive) (calls : Calls) : Item → Option Calls
  | .function definition =>
      some (Function.update calls definition.name
        (perform primitive calls definition))
  | .define _ _ _ | .verbatim _ => none
  | _ => some calls

/-- The primitives that a stage receives. -/
def input? (items : List Item) : Option String :=
  items.findSome? fun
    | .primitiveIn primitive => some primitive
    | _ => none

/-- The strips that a stage emits, and how many vertices it may emit. -/
def output? (items : List Item) : Option (String × Nat) :=
  items.findSome? fun
    | .primitiveOut primitive limit => some (primitive, limit)
    | _ => none

/-- The strips that a stage emits for a primitive.  The last one ends itself. -/
def strips? (items : List Item) (primitive : Primitive) :
    Option (List (List Nat)) := do
  let (_, limit) ← output? items
  let calls ← items.foldlM (declare primitive) (builtin limit)
  let run ← calls "main" [] .start
  return run.ended ++ [run.strip]

/-! ## What an emission tells a stage to emit -/

/-- The places of the vertices that are emitted. -/
def Vertex.indices (number : Nat) : Vertex → List Nat
  | always index => [index]
  | first index => if number = 0 then [index] else []

/-- The places of the vertices of a part. -/
def Part.indices (number : Nat) : Part → List Nat
  | one vertex => vertex.indices number
  | parity even odd =>
      (if number % 2 = 0 then even else odd).flatMap (Vertex.indices number)

/-- The places of the vertices of a strip, where there is one. -/
def Emission.indices (emission : Emission) (number : Nat) : List Nat :=
  emission.parts.flatMap (Part.indices number)

section Lines

variable {calls : Calls} {corners : List Nat}
  {values : String → Option Nat} {number limit : Nat}

@[simp]
theorem runLines_nil (run : Run) :
    runLines calls corners values [] run = some run := rfl

@[simp]
theorem runLines_cons (line : Line) (lines : List Line) (run : Run) :
    runLines calls corners values (line :: lines) run =
      (step calls corners values run line.statement).bind
        (runLines calls corners values lines) :=
  List.foldlM_cons

@[simp]
theorem runLines_append (lines rest : List Line) (run : Run) :
    runLines calls corners values (lines ++ rest) run =
      (runLines calls corners values lines run).bind
        (runLines calls corners values rest) :=
  List.foldlM_append

@[simp]
theorem number?_int (value : Nat) :
    number? values (.int value) = some value := by
  obtain ⟨digits, read⟩ := digits_toString value
  show (if _ then _ else _) = _
  rw [if_pos digits, read]

theorem number?_parityBit
    (numbered : values "gl_PrimitiveIDIn" = some number) :
    number? values parityBit = some (number % 2) := by
  show ((values "gl_PrimitiveIDIn").bind fun first =>
    (number? values (.int 1)).bind fun second => some (first &&& second)) = _
  rw [numbered, number?_int, Option.bind_some, Option.bind_some,
    Nat.and_one_is_mod]

/-- Comparisons of an expression with zero. -/
theorem condition?_zero {expression : Expr}
    (found : number? values expression = some number) :
    condition? values (.compare .equal expression (.int 0)) =
        some (number == 0) ∧
      condition? values (.compare .notEqual expression (.int 0)) =
        some (number != 0) := by
  constructor
  · show ((number? values expression).bind fun first =>
      (number? values (.int 0)).bind fun second => some (first == second)) = _
    rw [found, number?_int]
    rfl
  · show ((number? values expression).bind fun first =>
      (number? values (.int 0)).bind fun second => some (first != second)) = _
    rw [found, number?_int]
    rfl

/-! A statement does nothing unless it is carried out. -/

theorem step_when {run : Run} {condition : Expr} {chosen : Bool}
    (live : run.live) (decided : condition? values condition = some chosen) :
    step calls corners values run (.enter (.when condition)) =
      some (run.enter chosen) := by
  show (if run.live then (condition? values condition).map run.enter
    else some (run.enter false)) = _
  rw [if_pos live, decided]
  rfl

theorem step_when_dead {run : Run} (dead : run.live = false)
    (condition : Expr) :
    step calls corners values run (.enter (.when condition)) =
      some (run.enter false) :=
  if_neg (Bool.eq_false_iff.mp dead)

theorem step_invoke_dead {run : Run} (dead : run.live = false)
    (function : String) (arguments : Option Expr) :
    step calls corners values run (.invoke function arguments) =
      some run := by
  cases arguments <;> exact if_neg (Bool.eq_false_iff.mp dead)

/-- Whether a statement sets a value other than the position. -/
def setsOther : Statement → Bool
  | .assign target .set _ => target ≠ .name "gl_Position"
  | _ => false

theorem runLines_setsOther {lines : List Line}
    (others : ∀ line ∈ lines, setsOther line.statement) (run : Run) :
    runLines calls corners values lines run = some run := by
  induction lines with
  | nil => rfl
  | cons line rest ih =>
      have kept : step calls corners values run line.statement = some run := by
        have other := others line (.head _)
        revert other
        fun_cases setsOther line.statement with
        | case1 target value =>
            intro other
            have different : target ≠ .name "gl_Position" := by
              simpa using other
            exact if_neg fun both => different both.2
        | case2 => exact fun impossible => absurd impossible (by simp)
      rw [runLines_cons, kept]
      exact ih fun other member => others other (.tail _ member)

end Lines

/-! ## Lines that emit vertices -/

section Emits

variable (calls : Calls) (corners : List Nat)
  (values : String → Option Nat) (limit : Nat)

/-- Lines that emit the vertices at places of the primitive, and no others. -/
def Emits (lines : List Line) (indices : List Nat) : Prop :=
  ∀ (run : Run) (vertices : List Nat),
    run.live → run.position = none →
      indices.mapM (corners[·]?) = some vertices →
        run.count + vertices.length ≤ limit →
          runLines calls corners values lines run = some (run.add vertices)

/-- Lines that do nothing where they are not carried out. -/
def Skips (lines : List Line) : Prop :=
  ∀ run : Run, run.live = false →
    runLines calls corners values lines run = some run

/-- A function that emits the vertex at its first argument. -/
def EmitsFirst (function : String) : Prop :=
  ∀ (run : Run) (index other vertex : Nat),
    run.position = none → corners[index]? = some vertex → run.count < limit →
      calls function [index, other] run = some (run.add [vertex])

end Emits

section Emitting

variable {calls : Calls} {corners : List Nat}
  {values : String → Option Nat} {limit number : Nat}

theorem emits_nil : Emits calls corners values limit [] [] := by
  intro run vertices _ _ found _
  have none : vertices = [] := by simpa using found.symm
  rw [none, run.add_nil]
  rfl

theorem Emits.append {lines rest : List Line} {indices others : List Nat}
    (first : Emits calls corners values limit lines indices)
    (second : Emits calls corners values limit rest others) :
    Emits calls corners values limit (lines ++ rest) (indices ++ others) := by
  intro run vertices live ready found few
  rw [List.mapM_append] at found
  simp only [Option.bind_eq_bind, Option.bind_eq_some_iff, Option.pure_def,
    Option.some.injEq] at found
  rcases found with ⟨earlier, foundEarlier, later, foundLater, rfl⟩
  rw [List.length_append] at few
  rw [runLines_append, first run earlier live ready foundEarlier (by omega),
    Option.bind_some, ← run.add_add]
  apply second (run.add earlier) later live ready foundLater
  rw [run.count_add]
  omega

theorem emits_flatMap {α : Type} {lines : α → List Line}
    {indices : α → List Nat} {parts : List α}
    (each : ∀ part ∈ parts,
      Emits calls corners values limit (lines part) (indices part)) :
    Emits calls corners values limit (parts.flatMap lines)
      (parts.flatMap indices) := by
  induction parts with
  | nil => exact emits_nil
  | cons part rest ih =>
      rw [List.flatMap_cons, List.flatMap_cons]
      apply (each part (.head _)).append
      exact ih fun other member => each other (.tail _ member)

theorem skips_flatMap {α : Type} {lines : α → List Line} {parts : List α}
    (each : ∀ part ∈ parts, Skips calls corners values (lines part)) :
    Skips calls corners values (parts.flatMap lines) := by
  intro run dead
  induction parts with
  | nil => rfl
  | cons part rest ih =>
      rw [List.flatMap_cons, runLines_append, each part (.head _) run dead]
      exact ih fun other member => each other (.tail _ member)

/-- A vertex of the first primitive is emitted in a block of its own. -/
theorem lines_first (index provoking indent : Nat) :
    (Vertex.first index).lines provoking indent =
      [⟨indent, .enter (.when (.compare .equal primitiveNumber (.int 0)))⟩]
        ++ (Vertex.always index).lines provoking (indent + 2)
        ++ [⟨indent, .leave⟩] := rfl

theorem skips_always (index provoking indent : Nat) :
    Skips calls corners values
      ((Vertex.always index).lines provoking indent) := by
  intro run dead
  show (step calls corners values run (.invoke "emit_vertex" _)).bind _ = _
  rw [step_invoke_dead dead]
  rfl

theorem skips_vertex (vertex : Vertex) (provoking indent : Nat) :
    Skips calls corners values (vertex.lines provoking indent) := by
  cases vertex with
  | always index => exact skips_always index provoking indent
  | first index =>
      intro run dead
      rw [lines_first, runLines_append, runLines_append, runLines_cons,
        step_when_dead dead, Option.bind_some, runLines_nil,
        Option.bind_some,
        skips_always index provoking _ _ (run.live_enter false)]
      rfl

theorem emits_always
    (emitting : EmitsFirst calls corners limit "emit_vertex")
    (index provoking indent : Nat) :
    Emits calls corners values limit
      ((Vertex.always index).lines provoking indent) [index] := by
  intro run vertices live ready found few
  simp only [List.mapM_cons, List.mapM_nil, Option.pure_def,
    Option.bind_eq_bind, Option.bind_some, Option.bind_eq_some_iff,
    Option.some.injEq] at found
  rcases found with ⟨vertex, read, rfl⟩
  have given :
      arguments? values (.comma .loose (.int index) (.int provoking)) =
        some [index, provoking] := by
    have single (value : Nat) :
        arguments? values (.int value) = some [value] := by
      show (number? values (.int value)).map _ = _
      rw [number?_int]
      rfl
    show ((arguments? values (.int index)).bind fun earlier =>
      (arguments? values (.int provoking)).bind fun later =>
        some (earlier ++ later)) = _
    rw [single, single]
    rfl
  have called := emitting run index provoking vertex ready read few
  show (if run.live then _ else _ : Option Run).bind _ = _
  rw [if_pos live, given]
  exact congrArg (Option.bind · _) called

/-- A block emits what its lines do, if its condition holds. -/
theorem Emits.guarded {condition : Expr} {chosen : Bool}
    {lines : List Line} {indices : List Nat}
    (decided : condition? values condition = some chosen)
    (inner : Emits calls corners values limit lines indices)
    (skipped : Skips calls corners values lines) (indent : Nat) :
    Emits calls corners values limit
      ([⟨indent, .enter (.when condition)⟩] ++ lines ++ [⟨indent, .leave⟩])
      (if chosen then indices else []) := by
  intro run vertices live ready found few
  simp only [runLines_append, runLines_cons, runLines_nil,
    step_when live decided, Option.bind_some]
  cases chosen with
  | true =>
      have inside : (run.enter true).live = true :=
        (run.live_enter true).trans live
      rw [inner (run.enter true) vertices inside ready found few]
      rfl
  | false =>
      have none : vertices = [] := by simpa using found.symm
      rw [skipped (run.enter false) (run.live_enter false), none,
        run.add_nil]
      rfl

/-- Two branches emit what the one does that the condition chooses. -/
theorem Emits.either {condition : Expr} {chosen : Bool}
    {lines others : List Line} {indices places : List Nat}
    (decided : condition? values condition = some chosen)
    (first : Emits calls corners values limit lines indices)
    (skipsFirst : Skips calls corners values lines)
    (second : Emits calls corners values limit others places)
    (skipsSecond : Skips calls corners values others) (indent : Nat) :
    Emits calls corners values limit
      ([⟨indent, .enter (.when condition)⟩] ++ lines
        ++ [⟨indent, .enter .otherwise⟩] ++ others ++ [⟨indent, .leave⟩])
      (if chosen then indices else places) := by
  intro run vertices live ready found few
  have inside : (run.enter true).live = true :=
    (run.live_enter true).trans live
  simp only [runLines_append, runLines_cons, runLines_nil,
    step_when live decided, Option.bind_some]
  cases chosen with
  | true =>
      rw [first (run.enter true) vertices inside ready found few]
      have dead : ((run.add vertices).enter false).live = false :=
        Run.live_enter _ false
      exact congrArg (Option.bind · _)
        (skipsSecond ((run.add vertices).enter false) dead)
  | false =>
      rw [skipsFirst (run.enter false) (run.live_enter false)]
      exact congrArg (Option.bind · _)
        (second (run.enter true) vertices inside ready found few)

theorem emits_vertex
    (numbered : values "gl_PrimitiveIDIn" = some number)
    (emitting : EmitsFirst calls corners limit "emit_vertex")
    (vertex : Vertex) (provoking indent : Nat) :
    Emits calls corners values limit (vertex.lines provoking indent)
      (vertex.indices number) := by
  cases vertex with
  | always index => exact emits_always emitting index provoking indent
  | first index =>
      have counted : number? values primitiveNumber = some number := numbered
      have guarded :=
        (emits_always emitting index provoking (indent + 2)).guarded
          (condition?_zero counted).1
          (skips_always index provoking (indent + 2)) indent
      simp only [beq_iff_eq] at guarded
      exact guarded

theorem emits_part
    (numbered : values "gl_PrimitiveIDIn" = some number)
    (emitting : EmitsFirst calls corners limit "emit_vertex")
    (part : Part) (provoking : Nat) :
    Emits calls corners values limit (part.lines provoking)
      (part.indices number) := by
  cases part with
  | one vertex => exact emits_vertex numbered emitting vertex provoking 2
  | parity even odd =>
      have branch (vertices : List Vertex) :
          Emits calls corners values limit
            (vertices.flatMap (Vertex.lines provoking 4))
            (vertices.flatMap (Vertex.indices number)) :=
        emits_flatMap fun vertex _ =>
          emits_vertex numbered emitting vertex provoking 4
      have skipped (vertices : List Vertex) :
          Skips calls corners values
            (vertices.flatMap (Vertex.lines provoking 4)) :=
        skips_flatMap fun vertex _ => skips_vertex vertex provoking 4
      have chosen :=
        (branch even).either (condition?_zero (number?_parityBit numbered)).1
          (skipped even) (branch odd) (skipped odd) 2
      simp only [beq_iff_eq] at chosen
      rw [Part.indices, apply_ite (List.flatMap (Vertex.indices number))]
      exact chosen

theorem skips_part (part : Part) (provoking : Nat) :
    Skips calls corners values (part.lines provoking) := by
  cases part with
  | one vertex => exact skips_vertex vertex provoking 2
  | parity even odd =>
      intro run dead
      have skipped (vertices : List Vertex) :
          Skips calls corners values
            (vertices.flatMap (Vertex.lines provoking 4)) :=
        skips_flatMap fun vertex _ => skips_vertex vertex provoking 4
      have turned : (run.enter true).live = false :=
        (run.live_enter true).trans dead
      rw [Part.lines]
      simp only [runLines_append, runLines_cons, runLines_nil,
        step_when_dead dead, Option.bind_some]
      rw [skipped even (run.enter false) (run.live_enter false)]
      exact congrArg (Option.bind · _)
        (skipped odd (run.enter true) turned)

/-- The body of the main function emits one strip, or nothing. -/
theorem runLines_emission
    (numbered : values "gl_PrimitiveIDIn" = some number)
    (emitting : EmitsFirst calls corners limit "emit_vertex")
    (ending : ∀ run, calls "EndPrimitive" [] run = some run.endStrip)
    (emission : Emission) {vertices : List Nat}
    (found : (emission.indices number).mapM (corners[·]?) = some vertices)
    (few : vertices.length ≤ limit) :
    runLines calls corners values emission.lines .start =
      some (if emission.evenOnly ∧ number % 2 = 1 then
          { Run.start with left := true }
        else (Run.start.add vertices).endStrip) := by
  have parts :
      Emits calls corners values limit
        (emission.parts.flatMap (Part.lines emission.provoking))
        (emission.indices number) :=
    emits_flatMap fun part _ =>
      emits_part numbered emitting part emission.provoking
  have emitted :=
    parts .start vertices rfl rfl found (by simpa [Run.count, Run.start])
  have skipped :
      Skips calls corners values
        (emission.parts.flatMap (Part.lines emission.provoking)) :=
    skips_flatMap fun part _ => skips_part part emission.provoking
  have closing (run : Run) (live : run.live) :
      runLines calls corners values [⟨2, .invoke "EndPrimitive" none⟩] run =
        some run.endStrip := by
    show (if run.live then _ else _ : Option Run).bind _ = _
    rw [if_pos live, ending]
    rfl
  rw [Emission.lines, runLines_append, runLines_append]
  cases even : emission.evenOnly with
  | false =>
      simp only [Bool.false_eq_true, if_false, false_and, runLines_nil,
        Option.bind_some]
      rw [emitted]
      exact closing (Run.start.add vertices) rfl
  | true =>
      have guarded :
          runLines calls corners values
              [⟨2, .guard .braced (.compare .notEqual parityBit (.int 0))
                .return⟩] .start =
            some { Run.start with left := number % 2 != 0 } := by
        show ((condition? values _).map _).bind _ = _
        rw [(condition?_zero (number?_parityBit numbered)).2]
        rfl
      simp only [if_true, true_and, guarded, Option.bind_some]
      rcases Nat.mod_two_eq_zero_or_one number with parity | parity
      · simp only [parity]
        show ((runLines _ _ _ _ Run.start).bind _) = some (Run.endStrip _)
        rw [emitted]
        exact closing (Run.start.add vertices) rfl
      · simp only [parity]
        show ((runLines _ _ _ _ { Run.start with left := true }).bind _) =
          some { Run.start with left := true }
        rw [skipped { Run.start with left := true } rfl]
        rfl

end Emitting

/-! ## Stages -/

/-- The emitting function sets the position first and emits the vertex last. -/
theorem exists_others (shading : Shading) :
    ∃ others : List Line,
      (emitFunction shading).body =
          ⟨2, copyBuiltin "gl_Position"⟩ :: others
            ++ [⟨2, .invoke "EmitVertex" none⟩] ∧
        ∀ line ∈ others, setsOther line.statement := by
  refine ⟨(emitFunction shading).body.tail.dropLast, ?_⟩
  cases shading <;> exact ⟨rfl, by decide⟩

theorem perform_of_runLines
    {primitive : Primitive} {calls : Calls} {function : Function}
    {given : List Nat} {run after : Run}
    (arity : given.length = function.parameters.length)
    (ran : runLines calls primitive.corners
      (valuesIn primitive (function.parameters.map Prod.snd) given)
      function.body { run with blocks := [], left := false } = some after) :
    perform primitive calls function given run =
      some { after with
        blocks := run.blocks
        left := run.left } := by
  rw [perform, if_pos arity]
  exact congrArg (Option.bind · _) ran

theorem perform_emitFunction
    (primitive : Primitive) (limit : Nat) (shading : Shading)
    {run : Run} {index other vertex : Nat}
    (ready : run.position = none)
    (read : primitive.corners[index]? = some vertex)
    (room : run.count < limit) :
    perform primitive (builtin limit) (emitFunction shading) [index, other]
        run =
      some (run.add [vertex]) := by
  rcases exists_others shading with ⟨others, body, kept⟩
  let values :=
    valuesIn primitive ((emitFunction shading).parameters.map Prod.snd)
      [index, other]
  have named : values "index" = some index := by
    cases shading <;> rfl
  have copied :
      corner? values primitive.corners (incoming.select "gl_Position") =
        some vertex := by
    show (values "index").bind (primitive.corners[·]?) = _
    rw [named]
    exact read
  let inside : Run := { run with blocks := [], left := false }
  have ran :
      runLines (builtin limit) primitive.corners values
          (emitFunction shading).body inside =
        some (inside.add [vertex]) := by
    have placed :
        step (builtin limit) primitive.corners values inside
            (copyBuiltin "gl_Position") =
          some { inside with position := some vertex } := by
      show (corner? values primitive.corners _).map _ = _
      rw [copied]
      rfl
    have emitted :
        Run.emit limit { inside with position := some vertex } =
          some { inside.add [vertex] with position := none } :=
      if_pos room
    rw [body, runLines_append, runLines_cons, placed, Option.bind_some,
      runLines_setsOther kept]
    show Option.bind (Run.emit limit _) _ = _
    rw [emitted, ← ready]
    rfl
  have arity :
      [index, other].length = (emitFunction shading).parameters.length := by
    cases shading <;> rfl
  exact perform_of_runLines arity ran

/-- Before the main function, a stage only defines how a vertex is emitted. -/
theorem exists_heading (layout : Layout) (shading : Shading) :
    ∃ items,
      layout.source shading =
          items ++ [mainFunction layout.emission.lines] ∧
        ∀ primitive calls,
          items.foldlM (declare primitive) calls =
            some (Function.update calls "emit_vertex"
              (perform primitive calls (emitFunction shading))) := by
  refine ⟨(layout.source shading).dropLast, ?_⟩
  cases shading <;> exact ⟨rfl, fun _ _ => rfl⟩

theorem strips_source
    (layout : Layout) (shading : Shading) (primitive : Primitive)
    {vertices : List Nat}
    (found : (layout.emission.indices primitive.number).mapM
      (primitive.corners[·]?) = some vertices)
    (few : vertices.length ≤ layout.maxVertices) :
    strips? (layout.source shading) primitive =
      some (if layout.emission.evenOnly ∧ primitive.number % 2 = 1 then [[]]
        else [vertices, []]) := by
  let calls :=
    Function.update (builtin layout.maxVertices) "emit_vertex"
      (perform primitive (builtin layout.maxVertices) (emitFunction shading))
  let body := perform primitive calls
    ⟨.void, "main", [], .sameLine, layout.emission.lines⟩
  have declared :
      (layout.source shading).foldlM (declare primitive)
          (builtin layout.maxVertices) =
        some (Function.update calls "main" body) := by
    rcases exists_heading layout shading with ⟨items, split, heading⟩
    rw [split, List.foldlM_append, heading]
    rfl
  have emitting :
      EmitsFirst calls primitive.corners layout.maxVertices "emit_vertex" := by
    intro run index other vertex ready read room
    exact perform_emitFunction primitive _ shading ready read room
  have numbered :
      valuesIn primitive [] [] "gl_PrimitiveIDIn" = some primitive.number := rfl
  have performed : body [] .start = some _ :=
    perform_of_runLines rfl
      (runLines_emission numbered emitting (fun _ => rfl) layout.emission
        found few)
  have announced :
      output? (layout.source shading) =
        some (layout.output, layout.maxVertices) := rfl
  simp only [strips?, announced, declared, Option.bind_eq_bind,
    Option.bind_some, Function.update_self, performed]
  by_cases idle : layout.emission.evenOnly ∧ primitive.number % 2 = 1
  · simp [idle, Run.start]
  · simp [idle, Run.start, Run.endStrip, Run.add]

end ShaderSynth.Geometry
