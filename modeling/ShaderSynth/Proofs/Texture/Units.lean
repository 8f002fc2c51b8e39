import ShaderSynth.Proofs.Texture.Parts

/-!
# Code of the texture units

Every mode has code that fits together: its variables are declared in one order,
its texture is looked up once or not at all, and its sampler fits the lookup.
`fits_fetch` says so for each unit, whatever the unit can run.  What follows for
the lines of a unit is all that the stage has to know of them.
-/

namespace ShaderSynth.Texture

open Glsl

namespace Units

variable (units : Units) (unit : Fin 4)

/-! ## Shared parts -/

section Parts

variable {uniforms : List String}

theorem plain_incoming (number : Nat) (components : String) :
    Plain uniforms (.of (numbered "pT" number) components) :=
  ⟨rfl, fun foreign => foreign.incoming number⟩

/-- The variables of a border, if the texture has one. -/
def borderLocals : List Local :=
  if units.hasBorder unit then Local.border else []

theorem borderLocals_sublist :
    (units.borderLocals unit).Sublist Local.border := by
  rw [borderLocals]
  split
  · exact .refl _
  · exact List.nil_sublist _

theorem part_border {coordinates : String}
    (own : ∀ {test}, Foreign uniforms test → test coordinates = false)
    (components : String) :
    Part unit uniforms (units.borderLocals unit)
      (units.borderLines unit coordinates components) := by
  rw [borderLocals, borderLines]
  split
  · constructor
    · rfl
    · rfl
    · rfl
    · intro test foreign
      have vector : test "vec3" = false := foreign.function rfl
      have size := foreign.suffixed "t" (by decide) (by decide)
      simp [sizeVector, vector, size, own foreign]
  · exact .nil

theorem isKnown_dotMapping (mapping : DotMapping) :
    isKnown mapping.function = true := by
  cases mapping <;> rfl

theorem plain_dotExpr : Plain uniforms (units.dotExpr unit) where
  calls := by
    have mapping := isKnown_dotMapping (units.settings.dotMapping unit)
    show (isKnown "dot" && (isKnown _ && true)) = true
    rw [mapping]
    rfl
  mentions := by
    intro test foreign
    have function : test "dot" = false := foreign.function rfl
    have mapping := foreign.function
      (isKnown_dotMapping (units.settings.dotMapping unit))
    simp [dotExpr, function, mapping, foreign.vector, foreign.incoming]

theorem part_dot (mode : Mode) :
    Part unit uniforms [⟨"dot", none, .float⟩] (units.dotLines unit mode) :=
  (Part.comment _).append (Part.define (by decide) (units.plain_dotExpr unit))

theorem plain_dotVector : Plain uniforms (dotVector unit) where
  calls := rfl
  mentions := by
    intro test foreign
    have triple : test "vec3" = false := foreign.function rfl
    simp [dotVector, triple, foreign.product]

theorem plain_scale (scaled : numbered "texScale" unit ∈ uniforms) :
    Plain uniforms (scale unit) :=
  ⟨rfl, fun foreign => foreign.declared _ scaled⟩

theorem part_depth (operator : Operator) {limit : Expr}
    (plain : Plain uniforms limit) :
    Part unit uniforms [.vector] [depthLine unit operator limit] := by
  apply Part.define (by decide)
  constructor
  · show ("vec4" :: (limit.calls ++ [] ++ [])).all isKnown = true
    rw [List.append_nil, List.append_nil]
    exact plain.calls
  · intro test foreign
    have function : test "vec4" = false := foreign.function rfl
    have depth := foreign.suffixed "t" (by decide) (by decide)
    simp [function, depth, plain.mentions foreign]

theorem part_depthRange :
    Part unit uniforms [⟨"t", some "_max_depth", .float⟩]
      (depthRangeLines (numbered "pT" unit) (numbered "t" unit ++ "_depth")
        (numbered "t" unit ++ "_max_depth")) where
  locals := rfl
  calls := rfl
  kills := rfl
  mentions := by
    intro test foreign
    have function : test "clamp" = false := foreign.function rfl
    have depth := foreign.suffixed "t" (by decide) (by decide)
    simp [depthRangeLines, function, depth, foreign.incoming]

end Parts

/-! ## Modes -/

theorem scale_mem (fetch : Fetch) :
    numbered "texScale" unit ∈ ownUniforms unit fetch :=
  List.mem_append_right _ List.mem_cons_self

theorem fits_plainSampler {function : String} {type : Ty}
    (flat : (function, type) ∈ Sampler.flat.lookups)
    (rectangle : (function, type) ∈ Sampler.rectangle.lookups) :
    (function, type) ∈ (units.plainSampler unit).lookups := by
  rw [plainSampler]
  split
  · exact rectangle
  · exact flat

theorem fits_planar :
    ("texture", .vec2) ∈ (units.plainSampler unit).lookups :=
  units.fits_plainSampler unit (by decide) (by decide)

/-- The lines after the lookup of a depth. -/
def comparisonLines (operator : Operator) (compareZ : Bool) : List Line :=
  if compareZ then
    depthRangeLines (numbered "pT" unit) (numbered "t" unit ++ "_depth")
        (numbered "t" unit ++ "_max_depth")
      ++ [depthLine unit operator (.of (numbered "pT" unit) "z")]
  else [depthLine unit operator 0.0]

theorem part_comparison {uniforms : List String} (operator : Operator)
    (compareZ : Bool) :
    Part unit uniforms
      (if compareZ then [⟨"t", some "_max_depth", .float⟩, .vector]
        else [.vector])
      (comparisonLines unit operator compareZ) := by
  cases compareZ with
  | true =>
      exact (part_depthRange unit).append
        (part_depth unit operator (plain_incoming unit "z"))
  | false => exact part_depth unit operator ⟨rfl, fun _ => rfl⟩

/-- Shadow lookups; a comparison that is always the same needs none. -/
theorem fits_shadow (compareZ : Bool) {kind : Sampler}
    (fitting : ("textureProj", .vec3) ∈ kind.lookups) :
    Fits unit (.lookup kind (units.shadowLines unit compareZ)) := by
  cases compared : units.state.shadowFunction.operator? with
  | none =>
      have same :
          units.shadowLines unit compareZ =
            [⟨0, .define .vec4 (numbered "t" unit)
              (.call "vec4"
                (if units.state.shadowFunction = .never then 0.0
                  else 1.0))⟩] := by
        simp only [shadowLines, compared]
      apply Fits.computed [.vector]
      · rw [Fetch.lookup, same]
        apply Part.define (by decide)
        constructor
        · split <;> rfl
        · intro test foreign
          have function : test "vec4" = false := foreign.function rfl
          split <;> simp [function]
      · decide
      · decide
  | some operator =>
      have same :
          units.shadowLines unit compareZ =
            [⟨0, .assign (.of (numbered "pT" unit) "xy") .mul (scale unit)⟩]
              ++ samplingLine unit (numbered "t" unit ++ "_depth")
                "textureProj" (.of (numbered "pT" unit) "xyw")
              :: comparisonLines unit operator compareZ := by
        simp only [shadowLines, compared]
        rfl
      apply Fits.looked kind rfl
      exact
        { before := _
          after := _
          earlier := []
          later := _
          target := ⟨"t", some "_depth", .vec4⟩
          function := _
          coordinates := _
          type := .vec3
          split := same
          first := Part.assign .mul (plain_incoming unit "xy")
            (plain_scale unit (scale_mem unit _))
          last := part_comparison unit operator compareZ
          whole := rfl
          ordered := by cases compareZ <;> decide
          result := by cases compareZ <;> decide
          known := rfl
          plain := plain_incoming unit "xyw"
          typed := fun assigns => Expr.type?_of assigns.incoming rfl
          fits := fitting }

section Direct

variable {unit} {uniforms : List String} {before after : List Line}
  {earlier : List Local} {function : String} {coordinates : Expr} {type : Ty}
  {kind : Sampler}

/-- A lookup that declares the result of its unit. -/
def lookupVector (first : Part unit uniforms earlier before)
    (last : Part unit uniforms [] after)
    (ordered : earlier.Sublist (Local.own ++ Local.border))
    (known : isKnown function = true) (plain : Plain uniforms coordinates)
    (typed : ∀ {types}, Assigns unit earlier types →
      coordinates.type? types = some type)
    (fits : (function, type) ∈ kind.lookups) :
    Lookup unit uniforms kind
      (before ++ lookupLine unit function coordinates :: after) where
  before := before
  after := after
  earlier := earlier
  later := []
  target := .vector
  function := function
  coordinates := coordinates
  type := type
  split := rfl
  first := first
  last := last
  whole := rfl
  ordered := ordered.append (.refl _)
  result := List.mem_append_right _ List.mem_cons_self
  known := known
  plain := plain
  typed := typed
  fits := fits

end Direct

/-- Variables of a mode, followed by those of the border. -/
theorem ordered_border {declared : List Local}
    (own : declared.Sublist Local.own) :
    (declared ++ units.borderLocals unit).Sublist
      (Local.own ++ Local.border) :=
  own.append (units.borderLocals_sublist unit)

/-- The function of a projective lookup; the filter is for rectangles. -/
def projectFunction : String :=
  if (units.texture unit).convolution != .disabled &&
      (units.texture unit).rect then
    "gaussianFilter2DRectProj"
  else "textureProj"

theorem fits_projectFunction :
    (units.projectFunction unit, .vec3) ∈ (units.plainSampler unit).lookups := by
  rw [projectFunction, plainSampler]
  -- the filter needs a rectangle, and a rectangle has a sampler of its own
  cases (units.texture unit).rect with
  | true =>
      show (if _ then _ else _, _) ∈ Sampler.rectangle.lookups
      split <;> decide
  | false =>
      rw [Bool.and_false]
      decide

theorem fits_project : Fits unit (units.projectFetch unit) := by
  by_cases shadow : (units.texture unit).shadowMap
  · have same :
        units.projectFetch unit =
          .lookup (units.plainSampler unit) (units.shadowLines unit false) := by
      simp only [projectFetch, shadow, ↓reduceIte]
    rw [same]
    exact units.fits_shadow unit false
      (units.fits_plainSampler unit (by decide) (by decide))
  · have same :
        units.projectFetch unit =
          .lookup (units.plainSampler unit)
            (units.borderLines unit (numbered "pT" unit) "xyz"
              ++ [⟨0, .set (.of (numbered "pT" unit) "xy")
                (scale unit * .of (numbered "pT" unit) "xy")⟩]
              ++ [lookupLine unit (units.projectFunction unit)
                (.of (numbered "pT" unit) "xyw")]) := by
      simp only [projectFetch, shadow, List.append_assoc]
      rfl
    have scaled {uniforms : List String}
        (scaled : numbered "texScale" unit ∈ uniforms) :
        Plain uniforms (scale unit * .of (numbered "pT" unit) "xy") :=
      ⟨rfl, fun foreign => by
        simp [scale, foreign.declared _ scaled, foreign.incoming]⟩
    rw [same]
    refine .looked _ rfl (lookupVector
      ((units.part_border unit (fun foreign => foreign.incoming unit)
        "xyz").append
        (Part.assign .set (plain_incoming unit "xy")
          (scaled (scale_mem unit _))))
      .nil ?_ ?_ (plain_incoming unit "xyw")
      (fun assigns => Expr.type?_of assigns.incoming rfl)
      (units.fits_projectFunction unit))
    · rw [List.append_nil]
      exact units.ordered_border unit (List.nil_sublist _)
    · rw [projectFunction]
      split <;> rfl

theorem fits_volume : Fits unit (units.volumeFetch unit) := by
  rw [volumeFetch]
  split
  · exact units.fits_shadow unit true
      (units.fits_plainSampler unit (by decide) (by decide))
  · refine .looked .volume rfl (lookupVector
      (units.part_border unit (fun foreign => foreign.incoming unit) "xyz")
      .nil ?_ rfl (plain_incoming unit "xyzw")
      (fun assigns => Expr.type?_of assigns.incoming rfl) (by decide))
    exact units.ordered_border unit (List.nil_sublist _)

theorem fits_cube :
    Fits unit (.lookup .cube
      [lookupLine unit "texture"
        (.of (numbered "pT" unit) "xyz" / .of (numbered "pT" unit) "w")]) := by
  have nothing : Part unit [numbered "texScale" unit] [] [] := .nil
  refine .looked .cube rfl (lookupVector nothing .nil (List.nil_sublist _) rfl
    ?_ (fun assigns => ?_) (.head _))
  · exact ⟨rfl, fun foreign => by simp [foreign.incoming]⟩
  · exact Expr.type?_div (Expr.type?_of assigns.incoming rfl)
      (Expr.type?_of assigns.incoming rfl) rfl

section Displaced

variable {uniforms : List String}

theorem plain_displacement :
    Plain uniforms
      (if (units.texture (units.settings.inputUnit unit)).signed then
        .of (numbered "t" (units.settings.inputUnit unit)) "bg"
      else
        .call2 "vec2"
          (signedComponent (numbered "t" (units.settings.inputUnit unit)) "b")
          (signedComponent (numbered "t" (units.settings.inputUnit unit))
            "g")) := by
  split
  · exact ⟨rfl, fun foreign => foreign.vector _⟩
  · refine ⟨rfl, fun {test} foreign => ?_⟩
    have pair : test "vec2" = false := foreign.function rfl
    have sign : test "sign3" = false := foreign.function rfl
    simp [signedComponent, pair, sign, foreign.vector]

theorem plain_luminance :
    Plain uniforms
      (if (units.texture (units.settings.inputUnit unit)).signed then
        .call2 "vec3"
          (.of (numbered "t" (units.settings.inputUnit unit)) "bg")
          (.call "sign3_to_0_to_1"
            (.of (numbered "t" (units.settings.inputUnit unit)) "r"))
      else
        .call3 "vec3"
          (signedComponent (numbered "t" (units.settings.inputUnit unit)) "b")
          (signedComponent (numbered "t" (units.settings.inputUnit unit)) "g")
          (.of (numbered "t" (units.settings.inputUnit unit)) "r")) := by
  have names {test : String → Bool} (foreign : Foreign uniforms test) :
      test "vec3" = false ∧ test "sign3" = false ∧
        test "sign3_to_0_to_1" = false :=
    ⟨foreign.function rfl, foreign.function rfl, foreign.function rfl⟩
  split
  · refine ⟨rfl, fun foreign => ?_⟩
    simp [names foreign, foreign.vector]
  · refine ⟨rfl, fun foreign => ?_⟩
    simp [signedComponent, names foreign, foreign.vector]

end Displaced

theorem fits_bump : Fits unit (units.bumpFetch unit) := by
  have listed : ⟨"dsdt", none, .vec2⟩ ∈ Local.all := by decide
  have own {uniforms : List String} {test : String → Bool}
      (foreign : Foreign uniforms test) :
      test (numbered "dsdt" unit) = false :=
    foreign.temporary listed unit
  refine .looked (units.plainSampler unit) rfl (lookupVector
    ((Part.define listed (units.plain_displacement unit)).append
      (Part.assign .set ⟨rfl, own⟩ ⟨rfl, fun foreign => ?_⟩))
    .nil (by decide) rfl ⟨rfl, fun foreign => ?_⟩ (fun assigns => ?_)
    (units.fits_planar unit))
  · have matrix := foreign.declared (numbered "bumpMat" unit) (.head _)
    simp [matrix, own foreign]
  · have scaled := foreign.declared _ (scale_mem unit _)
    simp [scale, scaled, foreign.incoming, own foreign]
  · have offset : Expr.type? _ (numbered "dsdt" unit) = some .vec2 :=
      assigns.temporary _ (.head _)
    have pair : Ty.vec4.select? "xy" = some .vec2 := rfl
    have moved :=
      Expr.type?_add (Expr.type?_of assigns.incoming pair) offset rfl
    exact Expr.type?_mul assigns.scale moved rfl

theorem fits_bumpLuminance : Fits unit (units.bumpLuminanceFetch unit) := by
  have listed : ⟨"dsdtl", none, .vec3⟩ ∈ Local.all := by decide
  have own {uniforms : List String} {test : String → Bool}
      (foreign : Foreign uniforms test) :
      test (numbered "dsdtl" unit) = false :=
    foreign.temporary listed unit
  refine .looked (units.plainSampler unit) rfl (lookupVector
    ((Part.define listed (units.plain_luminance unit)).append
      (Part.assign .set ⟨rfl, own⟩ ⟨rfl, fun foreign => ?_⟩))
    (Part.assign .set ⟨rfl, fun foreign => foreign.vector unit⟩
      ⟨rfl, fun foreign => ?_⟩)
    (by decide) rfl ⟨rfl, fun foreign => ?_⟩ (fun assigns => ?_)
    (units.fits_planar unit))
  · have matrix :=
      foreign.declared (numbered "bumpMat" unit) (.tail _ (.tail _ (.head _)))
    simp [matrix, own foreign]
  · have gain := foreign.declared (numbered "bumpScale" unit) (.head _)
    have bias :=
      foreign.declared (numbered "bumpOffset" unit) (.tail _ (.head _))
    simp [gain, bias, foreign.vector, own foreign]
  · have scaled := foreign.declared _ (scale_mem unit _)
    simp [scale, scaled, foreign.incoming, own foreign]
  · have first : Ty.vec4.select? "xy" = some .vec2 := rfl
    have second : Ty.vec3.select? "st" = some .vec2 := rfl
    have moved :=
      Expr.type?_add (Expr.type?_of assigns.incoming first)
        (Expr.type?_of (assigns.temporary _ (.head _)) second) rfl
    exact Expr.type?_mul assigns.scale moved rfl

theorem fits_dotPlane : Fits unit (units.dotPlaneFetch unit) := by
  have listed : ⟨"dotST", none, .vec2⟩ ∈ Local.all := by decide
  have own {uniforms : List String} {test : String → Bool}
      (foreign : Foreign uniforms test) :
      test (numbered "dotST" unit) = false :=
    foreign.temporary listed unit
  refine .looked (units.plainSampler unit) rfl (lookupVector
    (((units.part_dot unit .dotSt).append
      (Part.define listed ⟨rfl, fun {test} foreign => ?_⟩)).append
      (units.part_border unit own "xy"))
    .nil (units.ordered_border unit (by decide)) rfl
    ⟨rfl, fun foreign => ?_⟩ (fun assigns => ?_)
    (units.fits_planar unit))
  · have pair : test "vec2" = false := foreign.function rfl
    simp [pair, foreign.product]
  · have scaled := foreign.declared _ (scale_mem unit _)
    simp [scale, scaled, own foreign]
  · exact Expr.type?_mul assigns.scale
      (assigns.temporary _ (.tail _ (.head _))) rfl

theorem fits_reflectDiffuse : Fits unit (units.reflectDiffuseFetch unit) := by
  have completed : ⟨"dot", some "_n", .float⟩ ∈ Local.all := by decide
  have listed : ⟨"n_", none, .vec3⟩ ∈ Local.all := by decide
  have own {uniforms : List String} {test : String → Bool}
      (foreign : Foreign uniforms test) :
      test (numbered "n_" unit) = false :=
    foreign.temporary listed unit
  refine .looked .cube rfl (lookupVector
    (((units.part_dot unit .dotReflectDiffuse).append
      ((Part.define completed (units.plain_dotExpr lastUnit)).append
        (Part.define listed ⟨rfl, fun {test} foreign => ?_⟩))).append
      (units.part_border unit own "xyz"))
    .nil (units.ordered_border unit (by decide)) rfl
    ⟨rfl, own⟩ (fun assigns => ?_) (.head _))
  · have triple : test "vec3" = false := foreign.function rfl
    have last : test (numbered "dot" unit ++ "_n") = false :=
      foreign.temporary completed unit
    simp [triple, foreign.product, last]
  · exact assigns.temporary _ (.tail _ (.tail _ (.head _)))

theorem fits_reflectSpecular :
    Fits unit (units.reflectSpecularFetch unit) := by
  have normalListed : ⟨"n_", none, .vec3⟩ ∈ Local.all := by decide
  have eyeListed : ⟨"e_", none, .vec3⟩ ∈ Local.all := by decide
  have listed : ⟨"rv_", none, .vec3⟩ ∈ Local.all := by decide
  have own {uniforms : List String} {test : String → Bool}
      (foreign : Foreign uniforms test) :
      test (numbered "rv_" unit) = false :=
    foreign.temporary listed unit
  refine .looked .cube rfl (lookupVector
    (((units.part_dot unit .dotReflectSpecular).append
      ((Part.define normalListed (plain_dotVector unit)).append
        ((Part.define eyeListed ⟨rfl, fun {test} foreign => ?_⟩).append
          (Part.define listed ⟨rfl, fun {test} foreign => ?_⟩)))).append
      (units.part_border unit own "xyz"))
    .nil (units.ordered_border unit (by decide)) rfl
    ⟨rfl, own⟩ (fun assigns => ?_) (.head _))
  · have triple : test "vec3" = false := foreign.function rfl
    simp [triple, foreign.incoming]
  · have function : test "dot" = false := foreign.function rfl
    have normal : test (numbered "n_" unit) = false :=
      foreign.temporary normalListed unit
    have eye : test (numbered "e_" unit) = false :=
      foreign.temporary eyeListed unit
    simp [function, normal, eye]
  · exact assigns.temporary _ (.tail _ (.tail _ (.tail _ (.head _))))

/-- Lookups at three dot products, at coordinates of any name. -/
theorem fits_dotSpace (mode : Mode) {coordinates : Local}
    (listed : coordinates ∈ Local.all) (triple : coordinates.type = .vec3)
    (ordered : [⟨"dot", none, .float⟩, coordinates].Sublist Local.own)
    {kind : Sampler} (fitting : ("texture", .vec3) ∈ kind.lookups) :
    Fits unit
      (units.dotSpaceFetch unit mode (coordinates.name unit) kind) := by
  have own {uniforms : List String} {test : String → Bool}
      (foreign : Foreign uniforms test) :
      test (coordinates.name unit) = false :=
    foreign.temporary listed unit
  have declared {uniforms : List String} :
      Part unit uniforms [coordinates]
        [⟨0, .define .vec3 (coordinates.name unit) (dotVector unit)⟩] := by
    rw [← triple]
    exact Part.define listed (plain_dotVector unit)
  refine .looked kind rfl (lookupVector
    (((units.part_dot unit mode).append declared).append
      (units.part_border unit own "xyz"))
    .nil (units.ordered_border unit ordered) rfl ⟨rfl, own⟩
    (fun assigns => ?_) fitting)
  rw [← triple]
  exact assigns.temporary _ (.tail _ (.head _))

/-- Lookups at two components of an earlier result. -/
theorem fits_dependent {channels : String} (components : String)
    (listed : ⟨"t", some channels, .vec2⟩ ∈ Local.own) :
    Fits unit (units.dependentFetch unit channels components) := by
  have own {uniforms : List String} {test : String → Bool}
      (foreign : Foreign uniforms test) :
      test (numbered "t" unit ++ channels) = false :=
    foreign.suffixed "t" (by decide) (by decide) unit channels
  have value {uniforms : List String} :
      Plain uniforms
        (.of (numbered "t" (units.settings.inputUnit unit)) components) :=
    ⟨rfl, fun foreign => foreign.vector _⟩
  have all : ⟨"t", some channels, .vec2⟩ ∈ Local.all :=
    List.mem_append_left _ (List.mem_append_left _ listed)
  refine .looked .flat rfl (lookupVector
    ((Part.define all value).append (units.part_border unit own "xy"))
    .nil (units.ordered_border unit (List.singleton_sublist.mpr listed)) rfl
    ⟨rfl, own⟩ (fun assigns => ?_) (.tail _ (.head _)))
  exact assigns.temporary _ (.head _)

theorem fits_dot (mode : Mode) : Fits unit (units.dotFetch unit mode) := by
  have zero {uniforms : List String} : Plain uniforms zeroVector :=
    ⟨rfl, fun {test} foreign => by
      have function : test "vec4" = false := foreign.function rfl
      simp [zeroVector, function]⟩
  have listed : Local.vector ∈ Local.all := by decide
  exact .computed _
    ((units.part_dot unit mode).append (Part.define listed zero))
    (by decide) (by decide)

/-- Zero, whatever the comment says. -/
theorem part_placeholder {uniforms : List String} (mode : String) :
    Part unit uniforms [.vector] [placeholder unit mode] where
  locals := rfl
  calls := rfl
  kills := rfl
  mentions := by
    intro test foreign
    have function : test "vec4" = false := foreign.function rfl
    simp [placeholder, zeroVector, function, foreign.vector]

theorem fits_placeholder (mode : String) :
    Fits unit (.computed [placeholder unit mode]) :=
  .computed _ (part_placeholder unit mode) (by decide) (by decide)

theorem part_clip {uniforms : List String} :
    Part unit uniforms [] (units.clipLines unit) := by
  have each : ∀ line ∈ units.clipLines unit,
      ∃ operator component, line = ⟨2, .guard .tight
        (.compare operator (.of (numbered "pT" unit) component) 0.0)
        .discard⟩ := by
    intro line member
    rcases List.mem_map.mp member with ⟨⟨component, fromZero⟩, _, rfl⟩
    exact ⟨_, component, rfl⟩
  constructor
  · apply List.flatMap_eq_nil_iff.mpr
    intro line member
    rcases each line member with ⟨operator, component, rfl⟩
    rfl
  · have nothing : calls (units.clipLines unit) = [] := by
      apply List.flatMap_eq_nil_iff.mpr
      intro line member
      rcases each line member with ⟨operator, component, rfl⟩
      rfl
    rw [nothing]
    rfl
  · rw [List.any_eq_false]
    intro line member
    rcases each line member with ⟨operator, component, rfl⟩
    exact Bool.false_ne_true
  · intro test foreign
    rw [mentions, List.any_eq_false]
    intro line member
    rcases each line member with ⟨operator, component, rfl⟩
    simp [foreign.incoming]

theorem fits_mode (mode : Mode) : Fits unit (units.modeFetch unit mode) := by
  -- every mode, also those that the unit could not run
  cases mode with
  | project2D => exact units.fits_project unit
  | project3D => exact units.fits_volume unit
  | cubeMap => exact fits_cube unit
  | passThrough =>
      have listed : Local.vector ∈ Local.all := by decide
      exact .computed _
        (Part.define listed ⟨rfl, fun foreign => foreign.incoming unit⟩)
        (by decide) (by decide)
  | clipPlane =>
      exact .computed _
        ((part_placeholder unit _).append (units.part_clip unit))
        (by decide) (by decide)
  | bumpEnvMap => exact units.fits_bump unit
  | bumpEnvMapLuminance => exact units.fits_bumpLuminance unit
  | dotSt => exact units.fits_dotPlane unit
  | dotReflectDiffuse => exact units.fits_reflectDiffuse unit
  | dotReflectSpecular => exact units.fits_reflectSpecular unit
  | dotStr3D =>
      have listed : ⟨"dotSTR", none, .vec3⟩ ∈ Local.all := by decide
      exact units.fits_dotSpace unit _ listed rfl (by decide) (by decide)
  | dotStrCube =>
      have listed : ⟨"dotSTR", some "Cube", .vec3⟩ ∈ Local.all := by decide
      exact units.fits_dotSpace unit _ listed rfl (by decide) (by decide)
  | dependentAr => exact units.fits_dependent unit "ar" (by decide)
  | dependentGb => exact units.fits_dependent unit "gb" (by decide)
  | dotZw | dotProduct => exact units.fits_dot unit _
  | none | brdf | dotReflectSpecularConst => exact fits_placeholder unit _

/-- Whatever a unit is to do, its code fits together. -/
theorem fits_fetch : Fits unit (units.fetch unit) := by
  rw [fetch]
  split
  · split
    · exact units.fits_mode unit _
    · exact fits_placeholder unit _
  · exact fits_placeholder unit _

/-! ## All lines of a unit -/

theorem lines_eq :
    units.lines unit =
      (units.fetch unit).lines
        ++ if (units.fetch unit).sampler.isSome &&
            (units.texture unit).alphaKill then
          [killLine unit]
        else [] :=
  rfl

/-- A unit declares some of its variables, and its result among them. -/
theorem locals_lines :
    ∃ declared : List Local,
      locals (units.fetch unit).lines = declared.map (Local.entry unit) ∧
        locals (units.lines unit) = declared.map (Local.entry unit) ∧
        declared.Sublist Local.all ∧ Local.vector ∈ declared := by
  have kill :
      locals (units.lines unit) = locals (units.fetch unit).lines := by
    rw [lines_eq, locals_append]
    split
    · exact List.append_nil _
    · exact List.append_nil _
  rw [kill]
  cases units.fits_fetch unit with
  | computed declared code ordered result =>
      exact ⟨declared, code.locals, code.locals, ordered, result⟩
  | looked kind sampler lookup =>
      exact ⟨lookup.declared, lookup.locals_eq, lookup.locals_eq,
        lookup.ordered, lookup.result⟩

theorem calls_lines :
    ∀ function ∈ calls (units.lines unit), isKnown function = true := by
  rw [← List.all_eq_true, lines_eq, calls_append, List.all_append]
  have kill (killing : Bool) :
      (calls (if killing then [killLine unit] else [])).all isKnown = true := by
    cases killing <;> rfl
  rw [kill, Bool.and_true]
  cases units.fits_fetch unit with
  | computed declared code ordered result => exact code.calls
  | looked kind sampler lookup => exact lookup.all_calls

theorem kills_fetch : (units.fetch unit).lines.any isKill = false := by
  cases units.fits_fetch unit with
  | computed declared code ordered result => exact code.kills
  | looked kind sampler lookup => exact lookup.any_kills

theorem uniformNames_items :
    uniformNames (units.items unit) =
      ownUniforms unit (units.fetch unit)
        ++ if (units.fetch unit).sampler.isSome then
            [numbered "texSamp" unit]
          else [] := by
  rw [items, uniformNames_append, uniformNames_append]
  cases (units.fetch unit).sampler <;> rfl

/-- A unit mentions only uniforms that it declares. -/
theorem mentions_lines {test : String → Bool}
    (foreign : Foreign (uniformNames (units.items unit)) test) :
    mentions test (units.lines unit) = false := by
  have own : Foreign (ownUniforms unit (units.fetch unit)) test := by
    refine ⟨foreign.own, fun name member => ?_⟩
    apply foreign.declared
    rw [uniformNames_items]
    exact List.mem_append_left _ member
  have kill (killing : Bool) :
      mentions test (if killing then [killLine unit] else []) = false := by
    cases killing <;> simp [killLine, foreign.vector]
  rw [lines_eq, mentions_append, kill, Bool.or_false]
  cases units.fits_fetch unit with
  | computed declared code ordered result => exact code.mentions own
  | looked kind sampler lookup =>
      rw [lookup.mentions_eq own]
      apply foreign.declared
      rw [uniformNames_items, sampler]
      exact List.mem_append_right _ List.mem_cons_self

/-- A name that is not for a unit's own use is a uniform that it declares. -/
theorem mem_uniformNames_of_mentions {name : String}
    (strange : stemOf name ∉ unitStems)
    (mentioned : mentions (· == name) (units.lines unit) = true) :
    name ∈ uniformNames (units.items unit) := by
  by_contra absent
  have foreign :
      Foreign (uniformNames (units.items unit)) (· == name) := by
    constructor
    · intro other listed
      apply beq_false_of_ne
      rintro rfl
      exact strange listed
    · intro other listed
      apply beq_false_of_ne
      rintro rfl
      exact absent listed
  rw [units.mentions_lines unit foreign] at mentioned
  cases mentioned

end Units

end ShaderSynth.Texture
