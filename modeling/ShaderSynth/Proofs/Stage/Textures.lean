import ShaderSynth.Proofs.Stage.Registers

/-!
# Texture units in the fragment stage

The main function runs the texture units one after the other.  The sampler of a
unit is mentioned in the unit's own lookup only, and the lookup finds all it
needs declared before it: the sampler and the scale as uniforms, the coordinates
as local variables.
-/

namespace ShaderSynth.Fragment

open Glsl Texture

variable (state : PixelState) (shading : Shading) (unit : Fin 4)

/-! ## Declarations -/

theorem items_subset_header :
    (Units.ofPixel state).items unit ⊆ header state shading := by
  intro item member
  simp only [header, declarations, List.mem_append, List.mem_flatMap]
  exact .inr (.inl (.inl (.inr ⟨unit, List.mem_finRange unit, member⟩)))

theorem uniformNames_subset_header :
    uniformNames ((Units.ofPixel state).items unit) ⊆
      uniformNames (header state shading) := by
  intro name member
  rcases List.mem_map.mp member with ⟨entry, listed, rfl⟩
  rcases List.mem_flatMap.mp listed with ⟨item, found, declared⟩
  apply List.mem_map.mpr
  exact ⟨entry, List.mem_flatMap.mpr
    ⟨item, items_subset_header state shading unit found, declared⟩, rfl⟩

/-- The helper functions that units call are defined. -/
theorem helper_mem_header {function : String} (listed : function ∈ helpers) :
    function ∈ functionNames (header state shading) := by
  have defined :
      ∀ function ∈ helpers,
        function ∈
          functionNames (signHelpers ++ dotHelpers ++ convolutionHelpers) := by
    decide
  rcases List.mem_filterMap.mp (defined function listed) with
    ⟨item, member, named⟩
  apply List.mem_filterMap.mpr
  refine ⟨item, ?_, named⟩
  simp only [List.mem_append] at member
  simp only [header, declarations, List.mem_append]
  rcases member with (sign | dot) | convolution
  · exact .inr (.inl (.inl (.inl (.inl (.inl (.inl (.inr sign)))))))
  · exact .inr (.inl (.inl (.inl (.inl (.inl (.inr dot))))))
  · exact .inr (.inl (.inl (.inl (.inl (.inr convolution)))))

/-- Whether an item declares a sampler. -/
def isSampler : Item → Bool
  | .uniform (.sampler _) _ _ => true
  | _ => false

/-- Only the units declare samplers. -/
theorem unit_of_sampler {item : Item} (sampler : isSampler item = true)
    (member : item ∈ header state shading) :
    ∃ unit, item ∈ (Units.ofPixel state).items unit := by
  let fixed := [Item.version, .blank] ++ (varyingItems shading .input "" false
    ++ [Item.blank, .target .vec4 "fragColor", .blank,
      .uniform .vec4 "fogColor" none]
    ++ signHelpers ++ dotHelpers ++ convolutionHelpers
    ++ [Item.uniform .ivec4 "clipRegion" (some clipRegionCount)])
  have others : fixed.any isSampler = false := by
    cases shading <;> rfl
  have tests :
      (if testsAlpha state then [Item.uniform .float "alphaRef" none]
        else []).any isSampler = false := by
    split <;> rfl
  have split :
      header state shading =
        fixed ++ (List.finRange 4).flatMap (Units.ofPixel state).items
          ++ (if testsAlpha state then [Item.uniform .float "alphaRef" none]
            else [])
          ++ (Combiner.Settings.ofPixel state).constants.map
            (fun name => Item.uniform .vec4 name none) := by
    simp only [header, declarations, fixed, List.append_assoc]
  rw [split, List.mem_append, List.mem_append, List.mem_append] at member
  rcases member with ((first | items) | test) | constant
  · exact absurd sampler (List.any_eq_false.mp others item first)
  · rcases List.mem_flatMap.mp items with ⟨unit, -, found⟩
    exact ⟨unit, found⟩
  · exact absurd sampler (List.any_eq_false.mp tests item test)
  · rcases List.mem_map.mp constant with ⟨name, -, rfl⟩
    cases sampler

/-- A unit's uniforms are its own. -/
theorem apart_of_ne {units : Units} {other : Fin 4} (different : other ≠ unit) :
    numbered "texSamp" unit ∉ uniformNames (units.items other) := by
  have apart :
      ∀ unit other : Fin 4, other ≠ unit →
        ∀ declared ∈ unitTable other,
          declared.entry.1 ≠ numbered "texSamp" unit := by
    decide
  intro member
  rcases List.mem_map.mp member with ⟨entry, listed, same⟩
  rcases List.mem_map.mp ((units.uniforms_items other).subset listed) with
    ⟨declared, found, rfl⟩
  exact apart unit other different declared found same

theorem sampler_not_own (units : Units) :
    numbered "texSamp" unit ∉ ownUniforms unit (units.fetch unit) := by
  have apart :
      ∀ unit : Fin 4,
        (∀ declared ∈ (unitTable unit).take 3,
          declared.entry.1 ≠ numbered "texSamp" unit) ∧
          numbered "texSamp" unit ≠ numbered "texScale" unit := by
    decide
  intro member
  rcases List.mem_append.mp member with fetched | scale
  · rcases List.mem_map.mp fetched with ⟨entry, listed, same⟩
    rcases List.mem_map.mp ((units.uniforms_fetch unit).subset listed) with
      ⟨declared, found, rfl⟩
    exact (apart unit).1 declared found same
  · exact (apart unit).2 (List.mem_singleton.mp scale)

/-- A unit declares its sampler exactly if its fetch has one. -/
theorem sampler_declared_iff :
    (∃ kind,
      .uniform (.sampler kind) (numbered "texSamp" unit) none ∈
        header state shading) ↔
      ((Units.ofPixel state).fetch unit).sampler.isSome = true := by
  constructor
  · rintro ⟨kind, member⟩
    rcases unit_of_sampler state shading rfl member with ⟨other, item⟩
    have name := mem_uniformNames_of_mem item
    have same : other = unit := by
      by_contra different
      exact apart_of_ne unit different name
    subst same
    rw [Units.uniformNames_items, List.mem_append] at name
    rcases name with own | sampler
    · exact absurd own (sampler_not_own other _)
    · by_contra missing
      rw [if_neg missing] at sampler
      cases sampler
  · intro present
    rcases Option.isSome_iff_exists.mp present with ⟨kind, sampler⟩
    refine ⟨kind, items_subset_header state shading unit ?_⟩
    rw [Units.items, sampler]
    exact List.mem_append_right _ List.mem_cons_self

/-! ## A unit among the others -/

theorem isLate_sampler : isLate (numbered "texSamp" unit) = true := by
  have all : ∀ unit : Fin 4, isLate (numbered "texSamp" unit) = true := by
    decide
  exact all unit

theorem stemOf_sampler : stemOf (numbered "texSamp" unit) = "texSamp" := by
  have all :
      ∀ unit : Fin 4, stemOf (numbered "texSamp" unit) = "texSamp" := by
    decide
  exact all unit

/-- Other units do not mention the sampler of a unit. -/
theorem not_mentions_others {units : Units} {others : List (Fin 4)}
    (different : ∀ other ∈ others, other ≠ unit) :
    mentions (· == numbered "texSamp" unit) (others.flatMap units.lines) =
      false := by
  rw [mentions_flatMap, List.any_eq_false]
  intro other member mentioned
  exact apart_of_ne unit (different other member)
    (mem_of_mentions_unit (isLate_sampler unit) mentioned)

/-- The lines after the units do not mention the sampler of a unit. -/
theorem not_mentions_rest :
    mentions (· == numbered "texSamp" unit)
        (spareRegisters state
          ++ indented 0 (Combiner.Settings.ofPixel state).statements
          ++ alphaTestLines state) = false := by
  have late := isLate_sampler unit
  have stem := stemOf_sampler unit
  have spare
      (member : numbered "texSamp" unit ∈
        (Combiner.Settings.ofPixel state).spares) : False := by
    rw [stem_of_spare member] at stem
    exact absurd stem (by decide)
  rw [mentions_append, mentions_append, not_mentions_alphaTest late,
    Bool.or_false, Bool.or_eq_false_iff, Bool.eq_false_iff, Bool.eq_false_iff]
  constructor
  · intro mentioned
    exact spare (mem_of_mentions_spares late mentioned)
  · intro mentioned
    rcases mem_of_mentions_combiners late mentioned with
      member | ⟨constant, -⟩
    · exact spare member
    · rw [stem_of_constant constant] at stem
      exact absurd stem (by decide)

theorem not_mem_of_kills {lines : List Line}
    (calm : lines.any isKill = false) : killLine unit ∉ lines :=
  fun member => List.any_eq_false.mp calm _ member rfl

/-- Other units discard by results of their own. -/
theorem killLine_not_mem_others {units : Units} {others : List (Fin 4)}
    (different : ∀ other ∈ others, other ≠ unit) :
    killLine unit ∉ others.flatMap units.lines := by
  have apart :
      ∀ unit other : Fin 4, other ≠ unit → killLine unit ≠ killLine other := by
    decide
  intro member
  rcases List.mem_flatMap.mp member with ⟨other, listed, found⟩
  rw [Units.lines_eq, List.mem_append] at found
  rcases found with fetched | kill
  · exact not_mem_of_kills unit (units.kills_fetch other) fetched
  · split at kill
    · exact apart unit other (different other listed)
        (List.mem_singleton.mp kill)
    · cases kill

theorem killLine_not_mem_opening :
    killLine unit ∉ openingLines state shading := by
  apply not_mem_of_kills
  have clip (exclusive : Bool) :
      (windowClipLines exclusive).any isKill = false := by
    cases exclusive <;> rfl
  have input : (inputLines state shading).any isKill = false := by
    rw [inputLines]
    cases state.pointSprite <;> rfl
  rw [openingLines, List.any_append, List.any_append, clip, input]
  rfl

theorem killLine_not_mem_rest :
    killLine unit ∉
      spareRegisters state
        ++ indented 0 (Combiner.Settings.ofPixel state).statements
        ++ alphaTestLines state := by
  apply not_mem_of_kills
  have spare (units : Units) (name : String) :
      (spareLines units name).any isKill = false := by
    rw [spareLines]
    split <;> rfl
  have spares : (spareRegisters state).any isKill = false := by
    rw [spareRegisters, List.any_flatMap, List.any_eq_false]
    exact fun name _ => Bool.eq_false_iff.mp (spare _ name)
  have combiners :
      (indented 0 (Combiner.Settings.ofPixel state).statements).any isKill =
        false := by
    rw [indented, List.any_map, List.any_eq_false]
    intro statement listed
    have step := List.all_eq_true.mp
      (Combiner.Settings.ofPixel state).steps_statements statement listed
    cases statement with
    | assign => exact Bool.false_ne_true
    | remark => exact Bool.false_ne_true
    | _ => cases step
  have tests : (alphaTestLines state).any isKill = false := by
    rw [alphaTestLines]
    split
    · split <;> rfl
    · rfl
  rw [List.any_append, List.any_append, spares, combiners, tests]
  rfl

/-- What stands around the lines of a unit has nothing to do with its texture. -/
theorem exists_around :
    ∃ before after,
      mainLines state shading =
          before ++ (Units.ofPixel state).lines unit ++ after ∧
        locals (openingLines state shading) ⊆ locals before ∧
        mentions (· == numbered "texSamp" unit) before = false ∧
        mentions (· == numbered "texSamp" unit) after = false ∧
        killLine unit ∉ before ∧ killLine unit ∉ after := by
  rcases List.append_of_mem (List.mem_finRange unit) with
    ⟨earlier, later, split⟩
  have distinct := List.nodup_finRange 4
  rw [split, List.nodup_middle, List.nodup_cons, List.mem_append,
    not_or] at distinct
  have first : ∀ other ∈ earlier, other ≠ unit := by
    rintro other member rfl
    exact distinct.1.1 member
  have last : ∀ other ∈ later, other ≠ unit := by
    rintro other member rfl
    exact distinct.1.2 member
  refine ⟨openingLines state shading
      ++ earlier.flatMap (Units.ofPixel state).lines,
    later.flatMap (Units.ofPixel state).lines
      ++ (spareRegisters state
        ++ indented 0 (Combiner.Settings.ofPixel state).statements
        ++ alphaTestLines state), ?_, ?_, ?_, ?_, ?_, ?_⟩
  · rw [mainLines_eq, split, List.flatMap_append, List.flatMap_cons]
    simp only [List.append_assoc]
  · rw [locals_append]
    exact List.subset_append_left _ _
  · rw [mentions_append, not_mentions_opening (isLate_sampler unit),
      not_mentions_others unit first]
    rfl
  · rw [mentions_append, not_mentions_others unit last, not_mentions_rest]
    rfl
  · rw [List.mem_append, not_or]
    exact ⟨killLine_not_mem_opening state shading unit,
      killLine_not_mem_others unit first⟩
  · rw [List.mem_append, not_or]
    exact ⟨killLine_not_mem_others unit last,
      killLine_not_mem_rest state unit⟩

/-! ## Lookups -/

theorem incoming_mem :
    (numbered "pT" unit, .vec4) ∈ locals (openingLines state shading) := by
  have all : ∀ unit : Fin 4, (numbered "pT" unit, Ty.vec4) ∈ inputTable := by
    decide
  rw [openingLines, locals_append, locals_append, locals_input]
  exact List.mem_append_left _ (List.mem_append_right _ (all unit))

/-- The types of what a lookup reads, after the lines before it. -/
theorem assigns_typeAt {first last : List Line}
    (split : mainLines state shading = first ++ last)
    (opening : locals (openingLines state shading) ⊆ locals first)
    {declared : List Local}
    (known : ∀ temporary ∈ declared,
      Local.entry unit temporary ∈ locals first) :
    Assigns unit declared (typeAt? (header state shading) first) := by
  have distinct := nodup_locals state shading
  rw [split, locals_append, List.map_append] at distinct
  have earlier := (List.nodup_append.mp distinct).1
  constructor
  · exact typeAt?_of_local earlier (opening (incoming_mem state shading unit))
  · apply typeAt?_of_uniform (nodup_header state shading)
    · apply items_subset_header state shading unit
      exact List.mem_append_left _
        (List.mem_append_right _ List.mem_cons_self)
    · intro member
      have whole :
          numbered "texScale" unit ∈
            (locals (mainLines state shading)).map Prod.fst := by
        rw [split, locals_append, List.map_append]
        exact List.mem_append_left _ member
      have stem :
          ∀ unit : Fin 4,
            stemOf (numbered "texScale" unit) ∈ ["c", "texScale"] := by
        decide
      exact stem_of_local whole (stem unit)
  · intro temporary member
    exact typeAt?_of_local earlier (known temporary member)

theorem foreign_sampler (units : Units) :
    Foreign (ownUniforms unit (units.fetch unit))
      (· == numbered "texSamp" unit) := by
  constructor
  · intro name listed
    apply beq_false_of_ne
    rintro rfl
    rw [stemOf_sampler] at listed
    exact absurd listed (by decide)
  · intro name listed
    apply beq_false_of_ne
    rintro rfl
    exact sampler_not_own unit units listed

/-- The sampler of a unit is mentioned in one line, a lookup that it fits. -/
theorem lookup_of_mentions
    (mentioned :
      mentions (· == numbered "texSamp" unit) (mainLines state shading) =
        true) :
    ∃ kind first last target function coordinates type,
      .uniform (.sampler kind) (numbered "texSamp" unit) none ∈
          header state shading ∧
        mainLines state shading =
          first ++ samplingLine unit target function coordinates :: last ∧
        mentions (· == numbered "texSamp" unit) (first ++ last) = false ∧
        coordinates.mentions (· == numbered "texSamp" unit) = false ∧
        coordinates.type? (typeAt? (header state shading) first) =
          some type ∧
        (function, type) ∈ kind.lookups := by
  rcases exists_around state shading unit with
    ⟨before, after, around, opening, ahead, behind, -⟩
  have foreign := foreign_sampler unit (Units.ofPixel state)
  have kill (killing : Bool) :
      mentions (· == numbered "texSamp" unit)
        (if killing then [killLine unit] else []) = false := by
    cases killing <;> simp [killLine, foreign.vector]
  rw [Units.lines_eq] at around
  rw [around, mentions_append, mentions_append, mentions_append, ahead, behind,
    kill, Bool.false_or, Bool.or_false, Bool.or_false] at mentioned
  -- what is left is the code of the unit itself
  cases (Units.ofPixel state).fits_fetch unit with
  | computed declared code ordered result =>
      rw [code.mentions foreign] at mentioned
      cases mentioned
  | looked kind sampler lookup =>
      have split :
          mainLines state shading =
            (before ++ lookup.before) ++ lookup.line :: (lookup.after ++
              (if ((Units.ofPixel state).fetch unit).sampler.isSome &&
                  ((Units.ofPixel state).texture unit).alphaKill then
                [killLine unit] else []) ++ after) := by
        rw [around, congrArg (fun lines => before ++ (lines ++ _) ++ after)
          lookup.split]
        simp [Lookup.line]
      refine ⟨kind, _, _, _, _, _, lookup.type, ?_, split, ?_,
        lookup.plain.mentions foreign, ?_, lookup.fits⟩
      · apply items_subset_header state shading unit
        rw [Units.items, sampler]
        exact List.mem_append_right _ List.mem_cons_self
      · simp only [mentions_append, ahead, behind, kill,
          lookup.first.mentions foreign, lookup.last.mentions foreign,
          Bool.or_false]
      · apply lookup.typed
        apply assigns_typeAt state shading unit split
        · rw [locals_append]
          exact fun entry member => List.mem_append_left _ (opening member)
        · intro temporary member
          rw [locals_append, lookup.first.locals]
          exact List.mem_append_right _ (List.mem_map_of_mem member)

/-! ## Discarded texels -/

/-- Where a unit discards transparent texels, its result has been declared. -/
theorem kill_after_result {first last : List Line}
    (split : mainLines state shading = first ++ killLine unit :: last) :
    (numbered "t" unit, .vec4) ∈ locals first := by
  rcases exists_around state shading unit with
    ⟨before, after, around, -, -, -, ahead, behind⟩
  have fetched :=
    not_mem_of_kills unit ((Units.ofPixel state).kills_fetch unit)
  have earlier :
      killLine unit ∉ before ++ ((Units.ofPixel state).fetch unit).lines := by
    rw [List.mem_append, not_or]
    exact ⟨ahead, fetched⟩
  rw [Units.lines_eq, ← List.append_assoc, List.append_assoc _ _ after,
    split] at around
  -- there is one such line in the main function, so it is the unit's own
  split at around
  · rcases (List.append_cons_inj_of_notMem earlier behind).mp around.symm with
      ⟨same, -⟩
    rcases (Units.ofPixel state).locals_lines unit with
      ⟨declared, entries, -, -, result⟩
    rw [← same, locals_append, entries]
    exact List.mem_append_right _
      (List.mem_map.mpr ⟨.vector, result, rfl⟩)
  · have member : killLine unit ∈ first ++ killLine unit :: last :=
      List.mem_append_right _ List.mem_cons_self
    rw [around, List.nil_append, List.mem_append] at member
    exact absurd member (not_or.mpr ⟨earlier, behind⟩)

theorem kill_mem_iff :
    killLine unit ∈ mainLines state shading ↔
      (∃ kind,
        .uniform (.sampler kind) (numbered "texSamp" unit) none ∈
          header state shading) ∧
        (state.textures.get unit).alphaKill = true := by
  rcases exists_around state shading unit with
    ⟨before, after, around, -, -, -, ahead, behind⟩
  have fetched :=
    not_mem_of_kills unit ((Units.ofPixel state).kills_fetch unit)
  rw [sampler_declared_iff, around, Units.lines_eq]
  simp only [List.mem_append, ahead, behind, fetched, false_or, or_false,
    List.mem_ite_nil_right, List.mem_singleton, and_true, Bool.and_eq_true]
  rfl

/-! ## Self-consistent units -/

/--
The code of each texture unit is consistent, whatever the unit is to do.

The unit declares its result once and the variables of a border at most once.
If its sampler is mentioned, then it is declared once, with a type that fits the
one call in which it is used, at coordinates whose type is known there.  Uniforms
of displaced lookups are mentioned only if they are declared, and functions that
the unit calls belong to the language or are defined.  Transparent texels are
discarded exactly if the unit declares a sampler and is told so, after its result
is declared.
-/
theorem units_consistent (state : PixelState) (shading : Shading)
    (unit : Fin 4) :
    ∃ header before after,
      let lines := (Units.ofPixel state).lines unit
      let body := mainLines state shading
      let names := (locals body).map Prod.fst
      let sampler := numbered "texSamp" unit
      source state shading = header ++ [mainFunction body] ∧
        body = before ++ lines ++ after ∧
        (numbered "t" unit, .vec4) ∈ locals lines ∧
        names.count (numbered "t" unit) = 1 ∧
        (∀ suffix ∈ ["LogicalSize", "InvRealSize"],
          names.count (numbered "t" unit ++ suffix) ≤ 1) ∧
        (mentions (· == sampler) body = true →
          (uniformNames header).count sampler = 1 ∧
            ∃ kind first last target function coordinates type,
              .uniform (.sampler kind) sampler none ∈ header ∧
                body =
                  first
                    ++ samplingLine unit target function coordinates
                    :: last ∧
                mentions (· == sampler) (first ++ last) = false ∧
                coordinates.mentions (· == sampler) = false ∧
                coordinates.type? (typeAt? header first) = some type ∧
                (function, type) ∈ kind.lookups) ∧
        (∀ stem ∈ ["bumpMat", "bumpScale", "bumpOffset"],
          mentions (· == numbered stem unit) body = true →
            (uniformNames header).count (numbered stem unit) = 1) ∧
        (∀ function ∈ calls lines,
          function ∈ builtins ∨ function ∈ functionNames header) ∧
        (killLine unit ∈ body ↔
          (∃ kind, .uniform (.sampler kind) sampler none ∈ header) ∧
            (state.textures.get unit).alphaKill = true) ∧
        ∀ first last,
          body = first ++ killLine unit :: last →
            (numbered "t" unit, .vec4) ∈ locals first := by
  rcases exists_around state shading unit with ⟨before, after, around, -⟩
  rcases (Units.ofPixel state).locals_lines unit with
    ⟨declared, -, entries, -, result⟩
  have once := nodup_locals state shading
  have uniforms := nodup_header state shading
  have vector :
      (numbered "t" unit, .vec4) ∈ locals ((Units.ofPixel state).lines unit) := by
    rw [entries]
    exact List.mem_map.mpr ⟨.vector, result, rfl⟩
  refine ⟨header state shading, before, after, rfl, around, vector, ?_, ?_, ?_,
    ?_, ?_, kill_mem_iff state shading unit, ?_⟩
  · apply List.count_eq_one_of_mem once
    apply List.mem_map.mpr
    refine ⟨(numbered "t" unit, .vec4), ?_, rfl⟩
    rw [around, locals_append, locals_append]
    exact List.mem_append_left _ (List.mem_append_right _ vector)
  · exact fun suffix _ => List.nodup_iff_count_le_one.mp once _
  · intro mentioned
    rcases lookup_of_mentions state shading unit mentioned with
      ⟨kind, first, last, target, function, coordinates, type, member, rest⟩
    constructor
    · exact List.count_eq_one_of_mem uniforms (mem_uniformNames_of_mem member)
    · exact ⟨kind, first, last, target, function, coordinates, type, member,
        rest⟩
  · intro stem listed mentioned
    have known :
        ∀ unit : Fin 4, ∀ stem ∈ ["bumpMat", "bumpScale", "bumpOffset"],
          isLate (numbered stem unit) = true ∧
            stemOf (numbered stem unit) ≠ "r" ∧
            stemOf (numbered stem unit) ≠ "c" := by
      decide
    rcases known unit stem listed with ⟨late, general, constant⟩
    rcases declared_of_mentions late mentioned with
      ⟨other, uniform⟩ | spare | ⟨read, -⟩
    · exact List.count_eq_one_of_mem uniforms
        (uniformNames_subset_header state shading other uniform)
    · exact absurd (stem_of_spare spare) general
    · exact absurd (stem_of_constant read) constant
  · intro function called
    have known := (Units.ofPixel state).calls_lines unit function called
    rw [isKnown, List.contains_iff_mem, List.mem_append] at known
    exact known.imp_right (helper_mem_header state shading)
  · exact fun first last => kill_after_result state shading unit

/-- The second unit looks up at an offset by the first, and discards. -/
def embossed : PixelState :=
  { (default : PixelState) with
    shaderStageProgram := 0xE1
    textures := #v[default, { (default : TextureState) with alphaKill := true },
      default, default] }

theorem units_consistent_embossed :
    ∃ header,
      source embossed .smooth =
          header ++ [mainFunction (mainLines embossed .smooth)] ∧
        mentions (· == "texSamp1") (mainLines embossed .smooth) = true ∧
        (uniformNames header).count "texSamp1" = 1 ∧
        mentions (· == "bumpOffset1") (mainLines embossed .smooth) = true ∧
        (uniformNames header).count "bumpOffset1" = 1 ∧
        ∃ first last,
          mainLines embossed .smooth = first ++ killLine 1 :: last ∧
            ("t1", .vec4) ∈ locals first := by
  rcases units_consistent embossed .smooth 1 with
    ⟨header, before, after, whole, -, -, -, -, sampler, displaced, -, -, kill⟩
  have looked :
      mentions (· == "texSamp1") (mainLines embossed .smooth) = true := by
    decide +kernel
  have shifted :
      mentions (· == "bumpOffset1") (mainLines embossed .smooth) = true := by
    decide +kernel
  have discards : killLine 1 ∈ mainLines embossed .smooth := by
    decide +kernel
  rcases List.append_of_mem discards with ⟨first, last, split⟩
  exact ⟨header, whole, looked, (sampler looked).1, shifted,
    displaced "bumpOffset" (.tail _ (.tail _ (.head _))) shifted, first, last,
    split, kill first last split⟩

end ShaderSynth.Fragment
