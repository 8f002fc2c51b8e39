import Mathlib.Logic.Function.Basic
import ShaderSynth.Glsl.Source

/-!
# Flow of control through a shader

What a stage has assigned by the time it hands its values on.  Conditions are
not computed: a `Flow` follows one of the ways through the main function, and
`choices` says how each condition on the way turns out.  An assignment counts
if it is reached, gives a value to a whole variable, and is not to a local
variable of the same name.  Textual definitions rename the variables that the
functions after them mention.

A vertex stage hands its values on at the end of the main function, a geometry
stage each time it emits a vertex.

`closes` recognises lines that leave the flow as it was, whatever the
conditions are.
-/

namespace ShaderSynth.Glsl

/-! ## Flows -/

/-- An open block. -/
structure Frame where
  /-- Whether the statements of the current branch run. -/
  live : Bool
  /-- Whether one of the branches has been chosen. -/
  settled : Bool

/-- Where a run of a stage stands. -/
structure Flow where
  /-- The open blocks of the current function, the innermost one first. -/
  frames : List Frame
  /-- Whether the current function has been left. -/
  left : Bool
  /-- The local variables of the current function. -/
  locals : List String
  /-- How many conditions have been decided. -/
  decided : Nat
  /-- The variables assigned since the last vertex was emitted. -/
  assigned : List String
  /-- The variables assigned before each vertex, the last vertex first. -/
  emitted : List (List String)

namespace Flow

/-- Nothing has run. -/
def start : Flow := ⟨[], false, [], 0, [], []⟩

/-- Whether the next statement runs. -/
def live (flow : Flow) : Bool :=
  !flow.left && flow.frames.all Frame.live

/-- Emits a vertex; the values are undefined afterwards. -/
def emit (flow : Flow) : Flow :=
  { flow with
    assigned := []
    emitted := flow.assigned :: flow.emitted }

/-- Changes the innermost block. -/
def turn (flow : Flow) (change : Frame → Frame) : Flow :=
  match flow.frames with
  | [] => flow
  | frame :: rest => { flow with frames := change frame :: rest }

/-- Counts an assignment, if it is reached and not to a local variable. -/
def record (flow : Flow) (target : String) : Flow :=
  if flow.live ∧ target ∉ flow.locals then
    { flow with assigned := target :: flow.assigned }
  else flow

end Flow

/-- The variable that a statement gives a whole value to. -/
def Statement.whole? : Statement → Option String
  | .assign (.name target) .set _ => some target
  | _ => none

namespace Item

/-- The name that an item defines another text for. -/
def head? : Item → Option String
  | .define head _ _ => some head
  | _ => none

/-- What names stand for after an item. -/
def rename (names : String → String) : Item → String → String
  | .define head _ replacement => Function.update names head replacement
  | _ => names

end Item

/-- What names stand for after items. -/
def namesAfter (names : String → String) (items : List Item) :
    String → String :=
  items.foldl Item.rename names

theorem namesAfter_append (names : String → String)
    (first rest : List Item) :
    namesAfter names (first ++ rest) =
      namesAfter (namesAfter names first) rest :=
  List.foldl_append

/-- A name keeps its meaning where it is not defined anew. -/
theorem namesAfter_of_absent {names : String → String} {items : List Item}
    {name : String} (absent : ∀ item ∈ items, item.head? ≠ some name) :
    namesAfter names items name = names name := by
  induction items generalizing names with
  | nil => rfl
  | cons item rest ih =>
      have kept : item.rename names name = names name := by
        cases item with
        | define head width replacement =>
            have other : head ≠ name :=
              fun same => absent _ (.head _) (congrArg some same)
            exact Function.update_of_ne other.symm ..
        | _ => rfl
      rw [← kept]
      exact ih fun other member => absent other (.tail _ member)

/-- What names mean at a place of a source. -/
structure Scope where
  /-- The variable that a name stands for. -/
  rename : String → String
  /-- What a call of a function does. -/
  call : String → Flow → Flow

namespace Scope

/-- Before the first item there are only the functions of the language. -/
def initial : Scope where
  rename := id
  call := Function.update (fun _ => id) "EmitVertex" Flow.emit

variable (choices : Nat → Bool)

/-- Follows a statement.  A loop is walked through once or not at all. -/
def step (scope : Scope) (flow : Flow) : Statement → Flow
  | .enter (.when _) | .enter (.count _ _) =>
      let chosen := choices flow.decided
      { flow with
        frames := ⟨chosen, chosen⟩ :: flow.frames
        decided := flow.decided + 1 }
  | .enter (.scope _) =>
      { flow with frames := ⟨true, true⟩ :: flow.frames }
  | .enter .otherwise =>
      flow.turn fun frame => ⟨!frame.settled, true⟩
  | .enter (.otherwiseWhen _) =>
      let chosen := choices flow.decided
      { flow with decided := flow.decided + 1 }.turn fun frame =>
        ⟨!frame.settled && chosen, frame.settled || chosen⟩
  | .leave => { flow with frames := flow.frames.tail }
  | .declare _ name _ _ =>
      if flow.live then
        { flow with locals := scope.rename name :: flow.locals }
      else flow
  | .assign target operator value =>
      match (Statement.assign target operator value).whole? with
      | some name => flow.record (scope.rename name)
      | none => flow
  | .invoke function _ =>
      if flow.live then scope.call function flow else flow
  | .jump _ => { flow with left := flow.left || flow.live }
  | .guard _ _ _ =>
      { flow with
        left := flow.left || (flow.live && choices flow.decided)
        decided := flow.decided + 1 }
  | .blank | .comment _ | .remark _ | .verbatim _ => flow

/-- Follows lines. -/
def run (scope : Scope) (lines : List Line) (flow : Flow) : Flow :=
  lines.foldl (fun current line => scope.step choices current line.statement)
    flow

/-- Follows the body of a function, with blocks and variables of its own. -/
def body (scope : Scope) (function : Function) (flow : Flow) : Flow :=
  let inside :=
    { flow with
      frames := []
      left := false
      locals := function.parameters.map fun (_, name) => scope.rename name }
  { scope.run choices function.body inside with
    frames := flow.frames
    left := flow.left
    locals := flow.locals }

/-- The scope after an item. -/
def add (scope : Scope) (item : Item) : Scope where
  rename := item.rename scope.rename
  call :=
    match item with
    | .function definition =>
        Function.update scope.call definition.name
          (scope.body choices definition)
    | _ => scope.call

/-- The scope after items. -/
def addAll (scope : Scope) (items : List Item) : Scope :=
  items.foldl (add choices) scope

end Scope

/-- How a stage ends. -/
def flowOf (choices : Nat → Bool) (items : List Item) : Flow :=
  (Scope.initial.addAll choices items).call "main" .start

/-! ## Lines that leave the flow as it was -/

/-- What a statement does to the open blocks. -/
inductive Shape where
  | opens
  | turns
  | shuts
  | stays
  | exits
deriving DecidableEq, Repr

/-- The shape of a statement. -/
def Statement.shape : Statement → Shape
  | .enter (.when _) | .enter (.scope _) | .enter (.count _ _) => .opens
  | .enter .otherwise | .enter (.otherwiseWhen _) => .turns
  | .leave => .shuts
  | .jump _ | .guard _ _ _ => .exits
  | _ => .stays

/-- Whether a statement hides no reserved name and emits no vertex. -/
def Statement.harmless (reserved : List String) : Statement → Bool
  | .declare _ name _ _ => name ∉ reserved
  | .invoke function _ => function ≠ "EmitVertex"
  | _ => true

/-- Whether lines close a number of blocks besides those that they open. -/
def closes (reserved : List String) : Nat → List Line → Bool
  | depth, [] => depth == 0
  | depth, line :: rest =>
      match line.statement.shape, depth with
      | .opens, depth => closes reserved (depth + 1) rest
      | .turns, depth + 1 => closes reserved (depth + 1) rest
      | .shuts, depth + 1 => closes reserved depth rest
      | .stays, depth =>
          line.statement.harmless reserved && closes reserved depth rest
      | _, _ => false

section Closes

variable {reserved : List String}

theorem closes_append {first second : Nat} {lines rest : List Line}
    (before : closes reserved first lines)
    (after : closes reserved second rest) :
    closes reserved (first + second) (lines ++ rest) := by
  induction lines generalizing first with
  | nil =>
      have none : first = 0 := by simpa [closes] using before
      simpa [none] using after
  | cons line others ih =>
      rw [List.cons_append]
      cases shape : line.statement.shape with
      | opens =>
          simp only [closes, shape] at before ⊢
          rw [Nat.add_right_comm]
          exact ih before
      | turns =>
          cases first with
          | zero => simp [closes, shape] at before
          | succ depth =>
              simp only [closes, shape] at before
              have closed := ih before
              rw [Nat.add_right_comm] at closed ⊢
              simpa only [closes, shape] using closed
      | shuts =>
          cases first with
          | zero => simp [closes, shape] at before
          | succ depth =>
              simp only [closes, shape] at before
              rw [Nat.add_right_comm]
              simpa only [closes, shape] using ih before
      | stays =>
          simp only [closes, shape, Bool.and_eq_true] at before ⊢
          exact ⟨before.1, ih before.2⟩
      | exits => simp [closes, shape] at before

theorem closes_flat {lines : List Line}
    (flat : ∀ line ∈ lines,
      line.statement.shape = .stays ∧ line.statement.harmless reserved) :
    closes reserved 0 lines := by
  induction lines with
  | nil => rfl
  | cons line rest ih =>
      simp only [closes, flat line (.head _), Bool.true_and]
      exact ih fun other member => flat other (.tail _ member)

theorem closes_flatMap {α : Type} {lines : α → List Line} {parts : List α}
    (each : ∀ part ∈ parts, closes reserved 0 (lines part)) :
    closes reserved 0 (parts.flatMap lines) := by
  induction parts with
  | nil => rfl
  | cons part rest ih =>
      rw [List.flatMap_cons, ← Nat.zero_add 0]
      apply closes_append (each part (.head _))
      exact ih fun other member => each other (.tail _ member)

end Closes

/-! ## What such lines keep -/

namespace Flow

/-- Only assignments are added, and no output is hidden. -/
structure Passes (outputs : List String) (depth : Nat)
    (before after : Flow) : Prop where
  frames : after.frames = before.frames.drop depth
  left : after.left = before.left
  locals : ∀ output ∈ outputs,
    output ∈ after.locals → output ∈ before.locals
  assigned : before.assigned ⊆ after.assigned
  emitted : after.emitted = before.emitted

variable {outputs : List String}

theorem Passes.refl (flow : Flow) : flow.Passes outputs 0 flow :=
  ⟨rfl, rfl, fun _ _ => id, fun _ => id, rfl⟩

theorem Passes.trans {first second : Nat} {before middle after : Flow}
    (earlier : before.Passes outputs first middle)
    (later : middle.Passes outputs second after) :
    before.Passes outputs (first + second) after where
  frames := by
    rw [later.frames, earlier.frames, List.drop_drop]
  left := later.left.trans earlier.left
  locals output member hidden :=
    earlier.locals output member (later.locals output member hidden)
  assigned := List.Subset.trans earlier.assigned later.assigned
  emitted := later.emitted.trans earlier.emitted

theorem Passes.record (flow : Flow) (target : String) :
    flow.Passes outputs 0 (flow.record target) := by
  unfold Flow.record
  split
  · exact ⟨rfl, rfl, fun _ _ => id, List.subset_cons_self .., rfl⟩
  · exact .refl flow

/-- The flow with other open blocks. -/
def within (flow : Flow) (frames : List Frame) (decided : Nat) : Flow :=
  { flow with frames := frames, decided := decided }

theorem Passes.of_within {flow after : Flow} {frames : List Frame}
    {decided first second : Nat}
    (later : (flow.within frames decided).Passes outputs second after)
    (same : frames.drop second = flow.frames.drop first) :
    flow.Passes outputs first after :=
  ⟨later.frames.trans same, later.left, later.locals, later.assigned,
    later.emitted⟩

end Flow

namespace Scope

variable {reserved outputs : List String}

/-- Only reserved names stand for outputs, and functions change nothing else. -/
structure Calm (scope : Scope) (reserved outputs : List String) :
    Prop where
  rename : ∀ name, scope.rename name ∈ outputs → name ∈ reserved
  call : ∀ function, function ≠ "EmitVertex" →
    ∀ flow : Flow, flow.Passes outputs 0 (scope.call function flow)

theorem Calm.step_stays {scope : Scope}
    (calm : scope.Calm reserved outputs) (choices : Nat → Bool)
    {statement : Statement}
    (stays : statement.shape = .stays)
    (harmless : statement.harmless reserved) (flow : Flow) :
    flow.Passes outputs 0 (scope.step choices flow statement) := by
  cases statement with
  | blank => exact .refl flow
  | comment text => exact .refl flow
  | remark text => exact .refl flow
  | verbatim text => exact .refl flow
  | declare type name value note =>
      simp only [step]
      split
      · refine ⟨rfl, rfl, ?_, fun _ => id, rfl⟩
        intro output member hidden
        rcases List.mem_cons.mp hidden with rfl | hidden
        · simp only [Statement.harmless, decide_eq_true_eq] at harmless
          exact absurd (calm.rename name member) harmless
        · exact hidden
      · exact .refl flow
  | assign target operator value =>
      simp only [step]
      cases (Statement.assign target operator value).whole? with
      | none => exact .refl flow
      | some name => exact .record flow _
  | invoke function arguments =>
      simp only [step]
      split
      · simp only [Statement.harmless, decide_eq_true_eq] at harmless
        exact calm.call function harmless flow
      · exact .refl flow
  | jump kind => cases stays
  | guard style condition kind => cases stays
  | enter opening => cases opening <;> cases stays
  | leave => cases stays

theorem step_opens (scope : Scope) (choices : Nat → Bool)
    {statement : Statement}
    (opens : statement.shape = .opens) (flow : Flow) :
    ∃ frame decided,
      scope.step choices flow statement =
        flow.within (frame :: flow.frames) decided := by
  cases statement with
  | enter opening =>
      cases opening with
      | when condition => exact ⟨_, _, rfl⟩
      | scope note => exact ⟨_, _, rfl⟩
      | count counter bound => exact ⟨_, _, rfl⟩
      | otherwise => cases opens
      | otherwiseWhen condition => cases opens
  | _ => cases opens

theorem step_turns (scope : Scope) (choices : Nat → Bool)
    {statement : Statement} (turns : statement.shape = .turns) {flow : Flow}
    {frame : Frame} {frames : List Frame}
    (inside : flow.frames = frame :: frames) :
    ∃ turned decided,
      scope.step choices flow statement =
        flow.within (turned :: frames) decided := by
  cases statement with
  | enter opening =>
      cases opening with
      | otherwise =>
          simp only [step, Flow.turn, inside]
          exact ⟨_, _, rfl⟩
      | otherwiseWhen condition =>
          simp only [step, Flow.turn, inside]
          exact ⟨_, _, rfl⟩
      | when condition => cases turns
      | scope note => cases turns
      | count counter bound => cases turns
  | _ => cases turns

theorem step_shuts (scope : Scope) (choices : Nat → Bool)
    {statement : Statement}
    (shuts : statement.shape = .shuts) (flow : Flow) :
    scope.step choices flow statement =
      flow.within flow.frames.tail flow.decided := by
  cases statement with
  | leave => rfl
  | enter opening => cases opening <;> cases shuts
  | _ => cases shuts

/-- Lines that close blocks leave the rest of the flow as it was. -/
theorem Calm.run_closes {scope : Scope}
    (calm : scope.Calm reserved outputs) (choices : Nat → Bool)
    {lines : List Line} {depth : Nat}
    (closed : closes reserved depth lines) (flow : Flow)
    (deep : depth ≤ flow.frames.length) :
    flow.Passes outputs depth (scope.run choices lines flow) := by
  induction lines generalizing depth flow with
  | nil =>
      have none : depth = 0 := by simpa [closes] using closed
      rw [none]
      exact .refl flow
  | cons line rest ih =>
      rw [run, List.foldl_cons]
      cases shape : line.statement.shape with
      | opens =>
          simp only [closes, shape] at closed
          obtain ⟨frame, decided, stepped⟩ :=
            scope.step_opens choices shape flow
          have later :=
            ih closed (flow.within (frame :: flow.frames) decided)
              (Nat.succ_le_succ deep)
          rw [stepped]
          exact later.of_within rfl
      | turns =>
          cases depth with
          | zero => simp [closes, shape] at closed
          | succ depth =>
              simp only [closes, shape] at closed
              cases inside : flow.frames with
              | nil => simp [inside] at deep
              | cons frame frames =>
                  obtain ⟨turned, decided, stepped⟩ :=
                    scope.step_turns choices shape inside
                  rw [inside] at deep
                  have later :=
                    ih closed (flow.within (turned :: frames) decided) deep
                  rw [stepped]
                  apply later.of_within
                  rw [inside]
                  rfl
      | shuts =>
          cases depth with
          | zero => simp [closes, shape] at closed
          | succ depth =>
              simp only [closes, shape] at closed
              rw [scope.step_shuts choices shape flow]
              have below : depth ≤ flow.frames.tail.length := by
                rw [List.length_tail]
                exact Nat.le_sub_one_of_lt deep
              have later :=
                ih closed (flow.within flow.frames.tail flow.decided) below
              exact later.of_within List.drop_tail
      | stays =>
          simp only [closes, shape, Bool.and_eq_true] at closed
          have stepped := calm.step_stays choices shape closed.1 flow
          rw [← Nat.zero_add depth]
          apply stepped.trans
          apply ih closed.2
          rw [stepped.frames]
          exact deep
      | exits => simp [closes, shape] at closed

theorem step_whole (scope : Scope) (choices : Nat → Bool) (flow : Flow)
    {statement : Statement} {name : String}
    (whole : statement.whole? = some name) :
    scope.step choices flow statement =
      flow.record (scope.rename name) := by
  cases statement with
  | assign target operator value => simp only [step, whole]
  | _ => cases whole

theorem run_append (scope : Scope) (choices : Nat → Bool)
    (first rest : List Line) (flow : Flow) :
    scope.run choices (first ++ rest) flow =
      scope.run choices rest (scope.run choices first flow) :=
  List.foldl_append

theorem run_invoke (scope : Scope) (choices : Nat → Bool) {flow : Flow}
    (live : flow.live) (indent : Nat) (function : String)
    (arguments : Option Expr) :
    scope.run choices [⟨indent, .invoke function arguments⟩] flow =
      scope.call function flow :=
  if_pos live

/-! ## Scopes of items -/

theorem Calm.body {scope : Scope} (calm : scope.Calm reserved outputs)
    (choices : Nat → Bool) {function : Function}
    (closed : closes reserved 0 function.body) (flow : Flow) :
    flow.Passes outputs 0 (scope.body choices function flow) := by
  have inside := calm.run_closes choices closed
    { flow with
      frames := []
      left := false
      locals := function.parameters.map fun (_, name) => scope.rename name }
    (Nat.zero_le _)
  exact ⟨rfl, rfl, fun _ _ => id, inside.assigned, inside.emitted⟩

end Scope

namespace Item

/-- Whether an item keeps a scope calm. -/
def calm (reserved outputs : List String) : Item → Bool
  | .define head _ replacement => replacement ∉ outputs ∨ head ∈ reserved
  | .function definition => closes reserved 0 definition.body
  | _ => true

end Item

namespace Scope

theorem calm_initial (within : outputs ⊆ reserved) :
    initial.Calm reserved outputs where
  rename _ member := within member
  call function other flow := by
    simp only [initial, Function.update_of_ne other]
    exact .refl flow

theorem Calm.add {scope : Scope} (calm : scope.Calm reserved outputs)
    (choices : Nat → Bool) {item : Item}
    (kept : item.calm reserved outputs) :
    (scope.add choices item).Calm reserved outputs := by
  cases item with
  | define head width replacement =>
      simp only [Item.calm, decide_eq_true_eq] at kept
      refine ⟨?_, calm.call⟩
      intro name member
      by_cases same : name = head
      · subst same
        simp only [Scope.add, Item.rename, Function.update_self] at member
        exact kept.resolve_left (not_not_intro member)
      · simp only [Scope.add, Item.rename, Function.update_of_ne same]
          at member
        exact calm.rename name member
  | function definition =>
      refine ⟨calm.rename, ?_⟩
      intro name other flow
      by_cases same : name = definition.name
      · subst same
        simp only [Scope.add, Function.update_self]
        exact calm.body choices kept flow
      · simp only [Scope.add, Function.update_of_ne same]
        exact calm.call name other flow
  | _ => exact calm

theorem Calm.addAll {scope : Scope} (calm : scope.Calm reserved outputs)
    (choices : Nat → Bool) {items : List Item}
    (kept : ∀ item ∈ items, item.calm reserved outputs) :
    (scope.addAll choices items).Calm reserved outputs := by
  induction items generalizing scope with
  | nil => exact calm
  | cons item rest ih =>
      apply ih (calm.add choices (kept item (.head _)))
      exact fun other member => kept other (.tail _ member)

theorem addAll_append (scope : Scope) (choices : Nat → Bool)
    (first rest : List Item) :
    scope.addAll choices (first ++ rest) =
      (scope.addAll choices first).addAll choices rest :=
  List.foldl_append

theorem rename_addAll (scope : Scope) (choices : Nat → Bool)
    (items : List Item) :
    (scope.addAll choices items).rename = namesAfter scope.rename items := by
  induction items generalizing scope with
  | nil => rfl
  | cons item rest ih => exact ih (scope.add choices item)

end Scope

/-- A stage ends as its main function ends. -/
theorem flowOf_main (choices : Nat → Bool) (items : List Item)
    (lines : List Line) :
    let after :=
      (Scope.initial.addAll choices items).run choices lines .start
    (flowOf choices (items ++ [mainFunction lines])).assigned =
        after.assigned ∧
      (flowOf choices (items ++ [mainFunction lines])).emitted =
        after.emitted := by
  rw [flowOf, Scope.addAll_append]
  exact ⟨rfl, rfl⟩

/-! ## Assignments that every flow reaches -/

namespace Flow

/-- Outside of all blocks, with no output hidden. -/
structure Ready (outputs : List String) (flow : Flow) : Prop where
  frames : flow.frames = []
  left : flow.left = false
  locals : ∀ output ∈ outputs, output ∉ flow.locals

variable {reserved outputs : List String}

theorem ready_start : start.Ready outputs :=
  ⟨rfl, rfl, fun _ _ => List.not_mem_nil⟩

theorem Ready.passes {before after : Flow} (ready : before.Ready outputs)
    (passes : before.Passes outputs 0 after) : after.Ready outputs where
  frames := by
    rw [passes.frames, ready.frames]
    rfl
  left := passes.left.trans ready.left
  locals output member hidden :=
    ready.locals output member (passes.locals output member hidden)

theorem Ready.record {flow : Flow} (ready : flow.Ready outputs)
    {output : String} (member : output ∈ outputs) :
    output ∈ (flow.record output).assigned := by
  have reached : flow.live = true ∧ output ∉ flow.locals := by
    constructor
    · simp [live, ready.frames, ready.left]
    · exact ready.locals output member
  simp [Flow.record, reached]

/-- Among statements that stay outside of blocks, each assignment counts. -/
theorem Ready.assigned_of_mem {scope : Scope}
    (calm : scope.Calm reserved outputs) (choices : Nat → Bool)
    {flow : Flow} (ready : flow.Ready outputs) {lines : List Line}
    (flat : ∀ line ∈ lines,
      line.statement.shape = .stays ∧ line.statement.harmless reserved)
    {name : String}
    (assigned : ∃ line ∈ lines, line.statement.whole? = some name)
    (output : scope.rename name ∈ outputs) :
    scope.rename name ∈ (scope.run choices lines flow).assigned := by
  obtain ⟨line, member, whole⟩ := assigned
  induction lines generalizing flow with
  | nil => cases member
  | cons first rest ih =>
      have stepped :=
        calm.step_stays choices (flat first (.head _)).1
          (flat first (.head _)).2 flow
      have flatRest (other : Line) (later : other ∈ rest) :=
        flat other (.tail _ later)
      rcases List.mem_cons.mp member with rfl | later
      · have passes :=
          calm.run_closes choices (closes_flat flatRest)
            (scope.step choices flow line.statement) (Nat.zero_le _)
        apply passes.assigned
        rw [scope.step_whole choices flow whole]
        exact ready.record output
      · exact ih (ready.passes stepped) flatRest later

end Flow

/-! ## Vertices that are emitted -/

/-- Every vertex was emitted with all outputs assigned. -/
def Flow.Delivers (outputs : List String) (flow : Flow) : Prop :=
  ∀ values ∈ flow.emitted, outputs ⊆ values

namespace Scope

variable {outputs : List String}

/-- Only calls emit vertices. -/
theorem step_emitted (scope : Scope) (choices : Nat → Bool) (flow : Flow)
    {statement : Statement}
    (silent : ∀ function arguments,
      statement ≠ .invoke function arguments) :
    (scope.step choices flow statement).emitted = flow.emitted := by
  cases statement with
  | enter opening =>
      cases opening with
      | otherwise =>
          simp only [step, Flow.turn]
          split <;> rfl
      | otherwiseWhen condition =>
          simp only [step, Flow.turn]
          split <;> rfl
      | _ => rfl
  | declare type name value note =>
      simp only [step]
      split <;> rfl
  | assign target operator value =>
      simp only [step, Flow.record]
      split
      · split <;> rfl
      · rfl
  | invoke function arguments => exact absurd rfl (silent function arguments)
  | _ => rfl

/-- Lines deliver all outputs if the functions that they call do. -/
theorem run_delivers (scope : Scope) (choices : Nat → Bool)
    {lines : List Line}
    (calls : ∀ line ∈ lines, ∀ function arguments,
      line.statement = .invoke function arguments →
        ∀ flow : Flow, flow.Delivers outputs →
          (scope.call function flow).Delivers outputs)
    {flow : Flow} (delivers : flow.Delivers outputs) :
    (scope.run choices lines flow).Delivers outputs := by
  induction lines generalizing flow with
  | nil => exact delivers
  | cons line rest ih =>
      apply ih fun other member => calls other (.tail _ member)
      by_cases invoked : ∃ function arguments,
          line.statement = .invoke function arguments
      · obtain ⟨function, arguments, same⟩ := invoked
        simp only [same, step]
        split
        · exact calls line (.head _) function arguments same flow delivers
        · exact delivers
      · rw [Flow.Delivers, step_emitted scope choices flow
          fun function arguments same => invoked ⟨function, arguments, same⟩]
        exact delivers

end Scope

end ShaderSynth.Glsl
