import ShaderSynth.Proofs.Glsl.Locals
import ShaderSynth.Texture.Fetch

/-!
# Parts of a texture unit's code

The code of a unit is put together from parts: the dot product, the border, the
lines of a mode.  Of each part it is said which local variables it declares,
that it calls known functions, and that it mentions no uniforms but some; parts
are joined by `Part.append`.

A lookup is one line between two such parts.  The line alone mentions the
sampler, and its coordinates have a type there that the sampler fits.
-/

namespace ShaderSynth.Texture

open Glsl

/-! ## Names -/

/-- The functions of the language that units call. -/
def builtins : List String :=
  ["vec2", "vec3", "vec4", "dot", "clamp", "texture", "textureProj"]

/-- The helper functions that units call. -/
def helpers : List String :=
  ["sign3", "sign3_to_0_to_1", "dotmap_zero_to_one", "dotmap_minus1_to_1_d3d",
    "dotmap_minus1_to_1_gl", "dotmap_minus1_to_1", "dotmap_hilo_1",
    "dotmap_hilo_hemisphere_d3d", "dotmap_hilo_hemisphere_gl",
    "dotmap_hilo_hemisphere", "gaussianFilter2DRectProj"]

/-- Whether a function is one that units call. -/
def isKnown (function : String) : Bool :=
  (builtins ++ helpers).contains function

theorem stem_numbered {stem : String} (plain : unnumbered stem = true)
    (number : Nat) : stemOf (numbered stem number) = stem := by
  have whole := stemOf_numbered plain number ""
  rwa [String.append_empty] at whole

/-- A local variable: its name around the number of a unit, and its type. -/
structure Local where
  stem : String
  suffix : Option String
  type : Ty
deriving DecidableEq

namespace Local

/-- The name that a unit gives to a variable. -/
def name (temporary : Local) (unit : Nat) : String :=
  match temporary.suffix with
  | none => numbered temporary.stem unit
  | some suffix => numbered temporary.stem unit ++ suffix

/-- The declaration of a variable. -/
def entry (unit : Nat) (temporary : Local) : String × Ty :=
  (temporary.name unit, temporary.type)

/-- The result of a unit. -/
def vector : Local := ⟨"t", none, .vec4⟩

/-- The variables of a texture's border. -/
def border : List Local :=
  [⟨"t", some "LogicalSize", .vec3⟩, ⟨"t", some "InvRealSize", .vec3⟩]

/-- The variables that modes declare before those of a border. -/
def own : List Local :=
  [⟨"dot", none, .float⟩, ⟨"dot", some "_n", .float⟩, ⟨"dotST", none, .vec2⟩,
    ⟨"n_", none, .vec3⟩, ⟨"e_", none, .vec3⟩, ⟨"rv_", none, .vec3⟩,
    ⟨"dotSTR", none, .vec3⟩, ⟨"dotSTR", some "Cube", .vec3⟩,
    ⟨"t", some "AR", .vec2⟩, ⟨"t", some "GB", .vec2⟩, ⟨"dsdt", none, .vec2⟩,
    ⟨"dsdtl", none, .vec3⟩, ⟨"t", some "_depth", .vec4⟩,
    ⟨"t", some "_max_depth", .float⟩]

/-- The variables of a unit, in the order in which modes declare some of them. -/
def all : List Local :=
  own ++ border ++ [vector]

theorem stemOf_name {temporary : Local} (listed : temporary ∈ all)
    (unit : Nat) : stemOf (temporary.name unit) = temporary.stem := by
  have stems : ∀ temporary ∈ all, unnumbered temporary.stem = true := by
    decide
  have plain := stems temporary listed
  rw [name]
  split
  · exact stem_numbered plain unit
  · exact stemOf_numbered plain unit _

end Local

/-- The stems of the functions and of the variables that units mention. -/
def unitStems : List String :=
  "pT" :: Local.all.map Local.stem ++ (builtins ++ helpers).map stemOf

/-- A test that the names of a unit fail, and some uniforms with them. -/
structure Foreign (uniforms : List String) (test : String → Bool) : Prop where
  own : ∀ name, stemOf name ∈ unitStems → test name = false
  declared : ∀ name ∈ uniforms, test name = false

namespace Foreign

variable {uniforms : List String} {test : String → Bool}
  (foreign : Foreign uniforms test)

include foreign

theorem function {name : String} (known : isKnown name = true) :
    test name = false := by
  have member : name ∈ builtins ++ helpers := by
    simpa [isKnown] using known
  apply foreign.own
  exact List.mem_append_right _ (List.mem_map_of_mem member)

theorem numbered (stem : String) (listed : stem ∈ unitStems)
    (plain : unnumbered stem = true) (number : Nat) :
    test (numbered stem number) = false := by
  apply foreign.own
  rw [stem_numbered plain]
  exact listed

theorem suffixed (stem : String) (listed : stem ∈ unitStems)
    (plain : unnumbered stem = true) (number : Nat) (suffix : String) :
    test (Texture.numbered stem number ++ suffix) = false := by
  apply foreign.own
  rw [Texture.numbered, stemOf_numbered plain]
  exact listed

theorem incoming (number : Nat) :
    test (Texture.numbered "pT" number) = false :=
  foreign.numbered "pT" (by decide) (by decide) number

theorem vector (number : Nat) : test (Texture.numbered "t" number) = false :=
  foreign.numbered "t" (by decide) (by decide) number

theorem product (number : Nat) :
    test (Texture.numbered "dot" number) = false :=
  foreign.numbered "dot" (by decide) (by decide) number

theorem temporary {temporary : Local} (listed : temporary ∈ Local.all)
    (unit : Nat) : test (temporary.name unit) = false := by
  apply foreign.own
  rw [Local.stemOf_name listed]
  exact List.mem_append_left _
    (List.mem_cons_of_mem _ (List.mem_map_of_mem listed))

end Foreign

/-! ## Parts of the code -/

/-- An expression that calls known functions and mentions some uniforms only. -/
structure Plain (uniforms : List String) (expression : Expr) : Prop where
  calls : expression.calls.all isKnown = true
  mentions : ∀ {test}, Foreign uniforms test → expression.mentions test = false

/-- The line that discards transparent texels. -/
def killLine (unit : Fin 4) : Line :=
  ⟨0, .guard .terminated
    (.compare .equal (.of (numbered "t" unit) "a") 0.0) .discard⟩

/-- Whether a line discards as `killLine` does. -/
def isKill (line : Line) : Bool :=
  match line.statement with
  | .guard .terminated _ _ => true
  | _ => false

/--
Lines that declare given variables, call known functions and mention some
uniforms only.
-/
structure Part (unit : Fin 4) (uniforms : List String)
    (declared : List Local) (lines : List Line) : Prop where
  locals : Glsl.locals lines = declared.map (Local.entry unit)
  calls : (Glsl.calls lines).all isKnown = true
  kills : lines.any isKill = false
  mentions : ∀ {test}, Foreign uniforms test → Glsl.mentions test lines = false

namespace Part

variable {unit : Fin 4} {uniforms : List String}

theorem nil : Part unit uniforms [] [] :=
  ⟨rfl, rfl, rfl, fun _ => rfl⟩

theorem append {first second : List Local} {lines rest : List Line}
    (left : Part unit uniforms first lines)
    (right : Part unit uniforms second rest) :
    Part unit uniforms (first ++ second) (lines ++ rest) where
  locals := by
    rw [locals_append, left.locals, right.locals, List.map_append]
  calls := by
    rw [calls_append, List.all_append, left.calls, right.calls]
    rfl
  kills := by
    rw [List.any_append, left.kills, right.kills]
    rfl
  mentions := by
    intro test foreign
    rw [mentions_append, left.mentions foreign, right.mentions foreign]
    rfl

/-- The declaration of a variable. -/
theorem define {temporary : Local} (listed : temporary ∈ Local.all)
    {value : Expr} (plain : Plain uniforms value) :
    Part unit uniforms [temporary]
      [⟨0, .define temporary.type (temporary.name unit) value⟩] where
  locals := rfl
  calls := by
    have alone :
        Glsl.calls [⟨0, .define temporary.type (temporary.name unit) value⟩] =
          value.calls := by
      simp [Glsl.calls, Statement.define, Statement.calls]
    rw [alone]
    exact plain.calls
  kills := rfl
  mentions := by
    intro test foreign
    simp [foreign.temporary listed, plain.mentions foreign]

/-- A change of a variable. -/
theorem assign {target value : Expr} (operator : Assignment)
    (changed : Plain uniforms target) (plain : Plain uniforms value) :
    Part unit uniforms [] [⟨0, .assign target operator value⟩] where
  locals := rfl
  calls := by
    have alone :
        Glsl.calls [⟨0, .assign target operator value⟩] =
          target.calls ++ value.calls := by
      simp [Glsl.calls, Statement.calls]
    rw [alone, List.all_append, changed.calls, plain.calls]
    rfl
  kills := rfl
  mentions := by
    intro test foreign
    simp [changed.mentions foreign, plain.mentions foreign]

theorem comment (text : String) :
    Part unit uniforms [] [⟨0, .comment text⟩] :=
  ⟨rfl, rfl, rfl, fun _ => rfl⟩

end Part

/-- A line that looks up the texture of a unit. -/
def samplingLine (unit : Fin 4) (target function : String)
    (coordinates : Expr) : Line :=
  ⟨0, .define .vec4 target
    (.call2 function (numbered "texSamp" unit) coordinates)⟩

/-- Variables, the incoming coordinates and their scale have their types. -/
structure Assigns (unit : Fin 4) (declared : List Local)
    (types : String → Option Ty) : Prop where
  incoming : types (numbered "pT" unit) = some .vec4
  scale : types (numbered "texScale" unit) = some .float
  temporary : ∀ temporary ∈ declared,
    types (temporary.name unit) = some temporary.type

/-- Lines that look up a texture once, at coordinates that fit its sampler. -/
structure Lookup (unit : Fin 4) (uniforms : List String) (kind : Sampler)
    (lines : List Line) where
  before : List Line
  after : List Line
  earlier : List Local
  later : List Local
  target : Local
  function : String
  coordinates : Expr
  type : Ty
  split : lines =
    before ++ samplingLine unit (target.name unit) function coordinates :: after
  first : Part unit uniforms earlier before
  last : Part unit uniforms later after
  whole : target.type = .vec4
  ordered : (earlier ++ target :: later).Sublist Local.all
  result : Local.vector ∈ earlier ++ target :: later
  known : isKnown function = true
  plain : Plain uniforms coordinates
  typed : ∀ {types}, Assigns unit earlier types →
    coordinates.type? types = some type
  fits : (function, type) ∈ kind.lookups

namespace Lookup

variable {unit : Fin 4} {uniforms : List String} {kind : Sampler}
  {lines : List Line} (lookup : Lookup unit uniforms kind lines)

/-- The variables of the lines, in order. -/
def declared : List Local :=
  lookup.earlier ++ lookup.target :: lookup.later

/-- The line that looks up the texture. -/
def line : Line :=
  samplingLine unit (lookup.target.name unit) lookup.function
    lookup.coordinates

include lookup

theorem locals_eq : locals lines = lookup.declared.map (Local.entry unit) := by
  have target :
      lookup.line.statement.locals = [Local.entry unit lookup.target] := by
    rw [Local.entry, lookup.whole]
    rfl
  calc
    locals lines = locals (lookup.before ++ lookup.line :: lookup.after) :=
      congrArg locals lookup.split
    _ = lookup.declared.map (Local.entry unit) := by
      rw [locals_append, locals_cons, lookup.first.locals, lookup.last.locals,
        target, declared, List.map_append, List.map_cons]
      rfl

theorem all_calls : (calls lines).all isKnown = true := by
  have line :
      calls [lookup.line] = lookup.function :: lookup.coordinates.calls := by
    simp [calls, Lookup.line, samplingLine, Statement.define, Statement.calls,
      Expr.call2, Expr.calls]
  have split : lines = lookup.before ++ ([lookup.line] ++ lookup.after) :=
    lookup.split
  rw [congrArg calls split, calls_append, calls_append, line,
    List.all_append, List.all_append, List.all_cons, lookup.known,
    lookup.plain.calls, lookup.first.calls, lookup.last.calls]
  rfl

theorem any_kills : lines.any isKill = false := by
  rw [congrArg (List.any · isKill) lookup.split, List.any_append,
    lookup.first.kills, List.any_cons, lookup.last.kills]
  rfl

theorem mentions_eq {test : String → Bool} (foreign : Foreign uniforms test) :
    mentions test lines = test (numbered "texSamp" unit) := by
  have target : test (lookup.target.name unit) = false := by
    apply foreign.temporary
    apply lookup.ordered.subset
    exact List.mem_append_right _ List.mem_cons_self
  rw [congrArg (mentions test) lookup.split]
  simp [samplingLine, target, foreign.function lookup.known,
    lookup.plain.mentions foreign, lookup.first.mentions foreign,
    lookup.last.mentions foreign]

end Lookup

/-- The uniforms of a fetch besides its sampler. -/
def ownUniforms (unit : Fin 4) (fetch : Fetch) : List String :=
  uniformNames fetch.uniforms ++ [numbered "texScale" unit]

/-- The code of a unit: it looks up its texture once, or not at all. -/
inductive Fits (unit : Fin 4) (fetch : Fetch) : Prop
  | computed (declared : List Local)
      (code : Part unit (ownUniforms unit fetch) declared fetch.lines)
      (ordered : declared.Sublist Local.all)
      (result : Local.vector ∈ declared)
  | looked (kind : Sampler) (sampler : fetch.sampler = some kind)
      (lookup : Lookup unit (ownUniforms unit fetch) kind fetch.lines)

end ShaderSynth.Texture
