import ShaderSynth.Proofs.Combiner.References
import ShaderSynth.Proofs.Stage.Uniforms
import ShaderSynth.Proofs.Texture.Units

/-!
# Registers of the fragment stage

The main function of a fragment stage declares its local variables as its parts
need them.  No two parts declare the same one.  What the texture units and the
combiners mention besides their fixed variables is declared: uniforms of the
units, spare registers and constants of the combiners.
-/

namespace ShaderSynth.Fragment

open Glsl

/-! ## Local variables -/

/-- The lines before the texture units. -/
def openingLines (state : PixelState) (shading : Shading) : List Line :=
  windowClipLines state.windowClipExclusive ++ inputLines state shading
    ++ registerLines

/-- The spare registers, as they are declared. -/
def spareRegisters (state : PixelState) : List Line :=
  (Combiner.Settings.ofPixel state).spares.flatMap
    (spareLines (Texture.Units.ofPixel state))

theorem mainLines_eq (state : PixelState) (shading : Shading) :
    mainLines state shading =
      openingLines state shading
        ++ (List.finRange 4).flatMap (Texture.Units.ofPixel state).lines
        ++ spareRegisters state
        ++ indented 0 (Combiner.Settings.ofPixel state).statements
        ++ alphaTestLines state :=
  rfl

/-- The variables of the clip regions. -/
def clipTable : List (String × Ty) :=
  [("clipContained", .bool), ("coord", .vec2), ("i", .int), ("outside", .bool)]

/-- The variables of the incoming values. -/
def inputTable : List (String × Ty) :=
  [("pD0", .vec4), ("pD1", .vec4), ("pB0", .vec4), ("pB1", .vec4),
    ("pFog", .vec4), ("pT0", .vec4), ("pT1", .vec4), ("pT2", .vec4),
    ("pT3", .vec4)]

/-- The variables that may be declared before the texture units. -/
def openingTable : List (String × Ty) :=
  clipTable ++ inputTable
    ++ [("v0", Ty.vec4), ("v1", .vec4), ("ab", .vec4), ("cd", .vec4),
      ("mux_sum", .vec4)]

/-- The variables that may be declared before the spare registers. -/
def localTable : List (String × Ty) :=
  openingTable ++ (List.finRange 4).flatMap fun (unit : Fin 4) =>
    Texture.Local.all.map (Texture.Local.entry unit)

theorem nodup_localTable :
    (localTable.map Prod.fst ++ ["r0", "r1"]).Nodup := by
  decide +kernel

theorem locals_clip (exclusive : Bool) :
    (locals (windowClipLines exclusive)).Sublist clipTable := by
  cases exclusive with
  | true => exact .cons _ (.refl _)
  | false => exact .refl _

theorem locals_input (state : PixelState) (shading : Shading) :
    locals (inputLines state shading) = inputTable := by
  rw [inputLines]
  cases state.pointSprite <;> rfl

theorem locals_spares (units : Texture.Units) (spares : List String) :
    locals (spares.flatMap (spareLines units)) =
      spares.map fun name => (name, .vec4) := by
  have each (name : String) :
      locals (spareLines units name) = [(name, .vec4)] := by
    rw [spareLines]
    split <;> rfl
  rw [locals_flatMap]
  simp only [each]
  exact List.map_eq_flatMap.symm

theorem locals_steps {statements : List Statement}
    (steps : statements.all Combiner.isStep = true) :
    locals (indented 0 statements) = [] := by
  apply List.flatMap_eq_nil_iff.mpr
  intro line member
  rcases List.mem_map.mp member with ⟨statement, listed, rfl⟩
  have step := List.all_eq_true.mp steps statement listed
  cases statement with
  | assign => rfl
  | remark => rfl
  | _ => cases step

theorem locals_mainLines (state : PixelState) (shading : Shading) :
    ∃ first : List (String × Ty),
      locals (mainLines state shading) =
          first
            ++ (Combiner.Settings.ofPixel state).spares.map
              (fun name => (name, Ty.vec4)) ∧
        first.Sublist localTable := by
  let units := Texture.Units.ofPixel state
  refine ⟨locals (openingLines state shading)
    ++ (List.finRange 4).flatMap (fun unit => locals (units.lines unit)),
    ?_, ?_⟩
  · have tests : locals (alphaTestLines state) = [] := by
      rw [alphaTestLines]
      split
      · split <;> rfl
      · rfl
    have steps := (Combiner.Settings.ofPixel state).steps_statements
    rw [mainLines_eq, locals_append, locals_append, locals_append,
      locals_append, locals_flatMap, spareRegisters, locals_spares,
      locals_steps steps, tests, List.append_nil, List.append_nil]
  · rw [openingLines, locals_append, locals_append, locals_input]
    refine ((List.Sublist.append (locals_clip _) (.refl _)).append
      (.refl _)).append ?_
    apply sublist_flatMap
    intro unit
    rcases units.locals_lines unit with ⟨declared, -, same, ordered, -⟩
    rw [same]
    exact ordered.map _

/-- No local variable is declared twice. -/
theorem nodup_locals (state : PixelState) (shading : Shading) :
    ((locals (mainLines state shading)).map Prod.fst).Nodup := by
  rcases locals_mainLines state shading with ⟨first, same, part⟩
  have spares :
      ((Combiner.Settings.ofPixel state).spares.map
        fun name => ((name, .vec4) : String × Ty)).map Prod.fst =
        (Combiner.Settings.ofPixel state).spares := by
    rw [List.map_map]
    exact List.map_id _
  rcases List.nodup_append.mp nodup_localTable with ⟨fixed, -, apart⟩
  have names := part.map Prod.fst
  -- spare registers come in the order of their first use, so that they are no
  -- sublist of a table
  rw [same, List.map_append, spares]
  apply List.nodup_append.mpr
  refine ⟨names.nodup fixed, nodup_eraseDups _, ?_⟩
  intro name member other listed
  exact apart name (names.subset member) other
    (Combiner.Settings.spares_subset _ listed)

/-! ## Mentions -/

/-- The stems of what is declared only where it is used. -/
def lateStems : List String :=
  ["r", "c", "texSamp", "bumpMat", "bumpScale", "bumpOffset"]

/-- Whether a name is declared only where it is used. -/
def isLate (name : String) : Bool :=
  lateStems.contains (stemOf name)

section Late

variable {name : String} (late : isLate name = true)

include late

theorem not_mentions_of_late {lines : List Line}
    (unused : mentions isLate lines = false) :
    mentions (· == name) lines = false := by
  rw [Bool.eq_false_iff] at unused ⊢
  intro mentioned
  apply unused
  apply mentions_mono _ mentioned
  intro other same
  rwa [beq_iff_eq.mp same]

theorem stem_of_late : stemOf name ∈ lateStems := by
  simpa [isLate] using late

theorem not_mentions_opening (state : PixelState) (shading : Shading) :
    mentions (· == name) (openingLines state shading) = false := by
  apply not_mentions_of_late late
  have clip (exclusive : Bool) :
      mentions isLate (windowClipLines exclusive) = false := by
    cases exclusive <;> rfl
  have input : mentions isLate (inputLines state shading) = false := by
    rw [inputLines]
    cases state.pointSprite <;> cases shading <;> rfl
  rw [openingLines, mentions_append, mentions_append, clip, input]
  rfl

theorem not_mentions_alphaTest (state : PixelState) :
    mentions (· == name) (alphaTestLines state) = false := by
  apply not_mentions_of_late late
  rw [alphaTestLines]
  split
  · split <;> rfl
  · rfl

theorem mem_of_mentions_spares {units : Texture.Units} {spares : List String}
    (mentioned : mentions (· == name) (spares.flatMap (spareLines units)) =
      true) :
    name ∈ spares := by
  have texture : ("t0" == name) = false := by
    apply beq_false_of_ne
    rintro rfl
    cases late
  rw [mentions_flatMap, List.any_eq_true] at mentioned
  rcases mentioned with ⟨spare, listed, found⟩
  have same : (spare == name) = true := by
    rw [spareLines] at found
    split at found
    · rename_i first
      subst first
      split at found
      · simpa using found
      · simpa [texture] using found
    · simpa using found
  rwa [← beq_iff_eq.mp same]

/-- A combiner that mentions such a name reads what was collected for it. -/
theorem mem_of_mentions_combiners {state : PixelState}
    (mentioned :
      mentions (· == name)
        (indented 0 (Combiner.Settings.ofPixel state).statements) = true) :
    name ∈ (Combiner.Settings.ofPixel state).spares ∨
      name ∈ (Combiner.Settings.ofPixel state).constants ∧
        ∃ reader ∈ (Combiner.Settings.ofPixel state).readers,
          reader.2.any (Statement.mentions (· == name)) = true := by
  have strange : name ∉ Combiner.fixedNames := by
    have apart : ∀ other ∈ Combiner.fixedNames, isLate other = false := by
      decide
    intro listed
    rw [apart name listed] at late
    cases late
  rw [Combiner.Settings.statements_eq, mentions, indented, List.any_map,
    List.any_flatMap, List.any_eq_true] at mentioned
  rcases mentioned with ⟨reader, member, found⟩
  rcases Combiner.Settings.mem_of_mentions (Combiner.Settings.stages_length state)
    strange member found with spare | ⟨constant, -⟩
  · exact .inl spare
  · exact .inr ⟨constant, reader, member, found⟩

/-- A unit that mentions such a name declares it as a uniform. -/
theorem mem_of_mentions_unit {units : Texture.Units} {unit : Fin 4}
    (mentioned : mentions (· == name) (units.lines unit) = true) :
    name ∈ uniformNames (units.items unit) := by
  have apart : ∀ stem ∈ lateStems, stem ∉ Texture.unitStems := by decide
  exact units.mem_uniformNames_of_mentions unit
    (apart _ (stem_of_late late)) mentioned

/-- What is declared only where it is used is declared where it is mentioned. -/
theorem declared_of_mentions {state : PixelState} {shading : Shading}
    (mentioned : mentions (· == name) (mainLines state shading) = true) :
    (∃ unit, name ∈ uniformNames ((Texture.Units.ofPixel state).items unit)) ∨
      name ∈ (Combiner.Settings.ofPixel state).spares ∨
      name ∈ (Combiner.Settings.ofPixel state).constants ∧
        ∃ reader ∈ (Combiner.Settings.ofPixel state).readers,
          reader.2.any (Statement.mentions (· == name)) = true := by
  rw [mainLines_eq, mentions_append, mentions_append, mentions_append,
    mentions_append, not_mentions_opening late, not_mentions_alphaTest late,
    Bool.false_or, Bool.or_false, Bool.or_eq_true_iff,
    Bool.or_eq_true_iff] at mentioned
  rcases mentioned with (unit | spare) | combiner
  · rw [mentions_flatMap, List.any_eq_true] at unit
    rcases unit with ⟨unit, -, found⟩
    exact .inl ⟨unit, mem_of_mentions_unit late found⟩
  · exact .inr (.inl (mem_of_mentions_spares late spare))
  · exact .inr (mem_of_mentions_combiners late combiner)

end Late

/-! ## Spare registers and constants -/

/-- Everything before the main function. -/
def header (state : PixelState) (shading : Shading) : List Item :=
  [Item.version, .blank] ++ declarations state shading

theorem nodup_header (state : PixelState) (shading : Shading) :
    (uniformNames (header state shading)).Nodup := by
  have whole := (located state shading).1
  have main : uniformNames [mainFunction (mainLines state shading)] = [] := rfl
  rw [source, uniformNames_append, main, List.append_nil] at whole
  exact whole

theorem constant_mem_header (shading : Shading) {state : PixelState}
    {name : String}
    (member : name ∈ (Combiner.Settings.ofPixel state).constants) :
    .uniform .vec4 name none ∈ header state shading :=
  List.mem_append_right _
    (List.mem_append_right _ (List.mem_map.mpr ⟨name, member, rfl⟩))

/-- The uniforms of a unit have stems of their own. -/
theorem stem_of_unit (state : PixelState) {unit : Fin 4} {name : String}
    (member : name ∈ uniformNames ((Texture.Units.ofPixel state).items unit)) :
    stemOf name ∉ ["r", "c"] := by
  have stems :
      ∀ unit, ∀ declared ∈ Texture.unitTable unit,
        stemOf declared.entry.1 ∉ ["r", "c"] := by
    decide
  rcases List.mem_map.mp member with ⟨entry, listed, rfl⟩
  have part := (Texture.Units.uniforms_items _ unit).subset listed
  rcases List.mem_map.mp part with ⟨declared, found, rfl⟩
  exact stems unit declared found

theorem stem_of_global_unit (state : PixelState) {name : String}
    (member :
      name ∈
        globals
          ((List.finRange 4).flatMap (Texture.Units.ofPixel state).items)) :
    stemOf name ∉ ["r", "c"] := by
  rcases List.mem_flatMap.mp member with ⟨item, listed, declared⟩
  rcases List.mem_flatMap.mp listed with ⟨unit, -, found⟩
  rcases exists_uniform_of_mem_items _ unit found with ⟨type, other, count, rfl⟩
  cases List.mem_singleton.mp declared
  exact stem_of_unit state (mem_uniformNames_of_mem found)

/--
What the header declares: the constants of the combiners, after names with other
stems than those of constants and spare registers.
-/
theorem globals_header (state : PixelState) (shading : Shading) :
    ∃ others : List String,
      globals (header state shading) =
          others ++ (Combiner.Settings.ofPixel state).constants ∧
        ∀ name ∈ others, stemOf name ∉ ["r", "c"] := by
  let units := Texture.Units.ofPixel state
  let first := [Item.version, .blank] ++ varyingItems shading .input "" false
  let second :=
    [Item.blank, .target .vec4 "fragColor", .blank,
        .uniform .vec4 "fogColor" none]
      ++ signHelpers ++ dotHelpers ++ convolutionHelpers
      ++ [.uniform .ivec4 "clipRegion" (some clipRegionCount)]
  let test : List Item :=
    if testsAlpha state then [.uniform .float "alphaRef" none] else []
  have passed : ∀ name ∈ globals first, stemOf name ∉ ["r", "c"] := by
    cases shading <;> decide +kernel
  have fixed : ∀ name ∈ globals second, stemOf name ∉ ["r", "c"] := by
    decide +kernel
  have tested : ∀ name ∈ globals test, stemOf name ∉ ["r", "c"] := by
    simp only [test]
    split <;> decide
  refine ⟨globals first ++ globals second
    ++ globals ((List.finRange 4).flatMap units.items) ++ globals test, ?_, ?_⟩
  · have split :
        header state shading =
          first ++ second ++ (List.finRange 4).flatMap units.items ++ test
            ++ (Combiner.Settings.ofPixel state).constants.map
              fun name => .uniform .vec4 name none := by
      simp only [header, declarations, first, second, test, units,
        List.append_assoc]
    rw [split, globals_append, globals_append, globals_append, globals_append,
      globals_constants]
  · intro name member
    simp only [List.mem_append] at member
    rcases member with ((early | helper) | unit) | late
    · exact passed name early
    · exact fixed name helper
    · exact stem_of_global_unit state unit
    · exact tested name late

theorem stem_of_spare {settings : Combiner.Settings} {name : String}
    (member : name ∈ settings.spares) : stemOf name = "r" := by
  have stems : ∀ name ∈ ["r0", "r1"], stemOf name = "r" := by decide
  exact stems name (settings.spares_subset member)

theorem stem_of_constant {state : PixelState} {name : String}
    (member : name ∈ (Combiner.Settings.ofPixel state).constants) :
    stemOf name = "c" := by
  have stems : ∀ name ∈ Combiner.constantNames, stemOf name = "c" := by
    decide
  exact stems name (Combiner.constants_subset state member)

theorem stem_of_local {state : PixelState} {shading : Shading} {name : String}
    (member : name ∈ (locals (mainLines state shading)).map Prod.fst) :
    stemOf name ∉ ["c", "texScale"] := by
  have opening :
      ∀ entry ∈ openingTable, stemOf entry.1 ∉ ["c", "texScale"] := by
    decide
  have stems :
      ∀ temporary ∈ Texture.Local.all,
        temporary.stem ∉ ["c", "texScale"] := by
    decide
  rcases locals_mainLines state shading with ⟨first, same, part⟩
  rw [same, List.map_append, List.map_map, List.mem_append] at member
  rcases member with fixed | spare
  · rcases List.mem_map.mp ((part.map Prod.fst).subset fixed) with
      ⟨entry, listed, rfl⟩
    rcases List.mem_append.mp listed with early | unit
    · exact opening entry early
    · rcases List.mem_flatMap.mp unit with ⟨unit, -, found⟩
      rcases List.mem_map.mp found with ⟨temporary, known, rfl⟩
      rw [Texture.Local.entry, Texture.Local.stemOf_name known]
      exact stems temporary known
  · rcases List.mem_map.mp spare with ⟨other, listed, rfl⟩
    rw [Function.comp_apply, stem_of_spare listed]
    decide

/-- The place of a spare register among the declarations of spare registers. -/
theorem spare_declared {units : Texture.Units} {spares : List String}
    {name : String} (member : name ∈ spares) :
    ∃ before after,
      spares.flatMap (spareLines units) =
          before ++ ⟨0, .declareEmpty .vec4 name⟩ :: after ∧
        (name = "r0" →
          ∃ alpha rest, after = ⟨0, .set (.of "r0" "a") alpha⟩ :: rest) := by
  rcases List.append_of_mem member with ⟨first, last, rfl⟩
  rw [List.flatMap_append, List.flatMap_cons, spareLines]
  refine ⟨_, _, rfl, ?_⟩
  rintro rfl
  exact ⟨_, _, rfl⟩

open Combiner in
/--
Spare registers and constants that occur in the main function are declared once.
A spare register is a vector that is declared between the texture units and the
combiners, and by no item before the main function; the first one gets its alpha
at once.  A constant is a uniform, and no other item declares its name.  That
name has the number of the general stage that reads it, or zero if all stages
share the slot; constants of the final combiner have number eight.
-/
theorem references_declared (state : PixelState) (shading : Shading) :
    ∃ header opening spares,
      let units := Texture.Units.ofPixel state
      let combiner := Settings.ofPixel state
      let body := mainLines state shading
      source state shading = header ++ [mainFunction body] ∧
        body =
          opening ++ (List.finRange 4).flatMap units.lines ++ spares
            ++ indented 0 (combiner.readers.flatMap Prod.snd)
            ++ alphaTestLines state ∧
        (∀ name ∈ ["r0", "r1"], mentions (· == name) body = true →
          name ∉ globals header ∧
            ((locals body).map Prod.fst).count name = 1 ∧
            ∃ before after,
              spares = before ++ ⟨0, .declareEmpty .vec4 name⟩ :: after ∧
                (name = "r0" →
                  ∃ alpha rest,
                    after = ⟨0, .set (.of "r0" "a") alpha⟩ :: rest)) ∧
        (∀ slot stage,
          mentions (· == constantName slot stage) body = true →
            .uniform .vec4 (constantName slot stage) none ∈ header ∧
              (globals header).count (constantName slot stage) = 1 ∧
              constantName slot stage ∉ (locals body).map Prod.fst ∧
              ∃ reader ∈ combiner.readers,
                reader.2.any
                  (Statement.mentions (· == constantName slot stage)) =
                    true) ∧
        ∀ reader ∈ combiner.readers, ∀ slot stage,
          reader.2.any (Statement.mentions (· == constantName slot stage)) =
              true →
            slot < 2 ∧
              stage = combiner.control.constantStage slot reader.1 := by
  rcases globals_header state shading with ⟨others, declared, apart⟩
  refine ⟨header state shading, openingLines state shading,
    spareRegisters state, rfl, ?_, ?_, ?_, ?_⟩
  · rw [← Settings.statements_eq]
    exact mainLines_eq state shading
  · intro name listed mentioned
    have known :
        ∀ name ∈ ["r0", "r1"], isLate name = true ∧ stemOf name = "r" := by
      decide
    rcases known name listed with ⟨late, stem⟩
    -- uniforms of units and constants have other stems
    have spare : name ∈ (Settings.ofPixel state).spares := by
      rcases declared_of_mentions late mentioned with
        ⟨unit, uniform⟩ | spare | ⟨constant, -⟩
      · exact absurd (stem ▸ List.mem_cons_self) (stem_of_unit state uniform)
      · exact spare
      · rw [stem_of_constant constant] at stem
        exact absurd stem (by decide)
    refine ⟨?_, ?_, spare_declared spare⟩
    · rw [declared, List.mem_append]
      rintro (other | constant)
      · exact apart name other (stem ▸ List.mem_cons_self)
      · rw [stem_of_constant constant] at stem
        exact absurd stem (by decide)
    · apply List.count_eq_one_of_mem (nodup_locals state shading)
      rcases locals_mainLines state shading with ⟨first, same, -⟩
      rw [same, List.map_append, List.mem_append, List.map_map]
      exact .inr (List.mem_map.mpr ⟨name, spare, rfl⟩)
  · intro slot stage mentioned
    have stem := stemOf_constantName slot stage
    have late : isLate (constantName slot stage) = true := by
      rw [isLate, stem]
      rfl
    rcases declared_of_mentions late mentioned with
      ⟨unit, uniform⟩ | spare | ⟨constant, read⟩
    · exact absurd (stem ▸ List.mem_cons_of_mem _ List.mem_cons_self)
        (stem_of_unit state uniform)
    · rw [stem_of_spare spare] at stem
      exact absurd stem (by decide)
    · refine ⟨constant_mem_header shading constant, ?_, ?_, read⟩
      · have absent : constantName slot stage ∉ others := fun other =>
          apart _ other (stem ▸ List.mem_cons_of_mem _ List.mem_cons_self)
        rw [declared, List.count_append, List.count_eq_zero_of_not_mem absent,
          Nat.zero_add]
        exact List.count_eq_one_of_mem (nodup_eraseDups _) constant
      · exact fun found =>
          stem_of_local found (stem ▸ List.mem_cons_self)
  · intro reader member slot stage mentioned
    rcases Settings.mem_of_mentions (Settings.stages_length state)
      (constantName_not_fixed slot stage) member mentioned with
      spare | ⟨-, other, small, same⟩
    · have stem := stemOf_constantName slot stage
      rw [stem_of_spare spare] at stem
      exact absurd stem (by decide)
    · rcases constantName_inj same with ⟨rfl, rfl⟩
      exact ⟨small, rfl⟩

/-- The second stage scales a spare register by a constant of its own. -/
def tinted : PixelState :=
  { (default : PixelState) with
    combinerControl := 0x1002
    rgbInputs := #v[0, 0x010C0000, 0, 0, 0, 0, 0, 0]
    rgbOutputs := #v[0, 0xC0, 0, 0, 0, 0, 0, 0]
    finalInputs0 := 0x0C }

theorem references_declared_tinted :
    let body := mainLines tinted .smooth
    mentions (· == "r0") body = true ∧
      ((locals body).map Prod.fst).count "r0" = 1 ∧
      mentions (· == "c0_1") body = true ∧
      ∃ header,
        source tinted .smooth = header ++ [mainFunction body] ∧
          "r0" ∉ globals header ∧
          .uniform .vec4 "c0_1" none ∈ header ∧
          (globals header).count "c0_1" = 1 := by
  rcases references_declared tinted .smooth with
    ⟨header, opening, spares, split, -, registers, constants, -⟩
  have spare : mentions (· == "r0") (mainLines tinted .smooth) = true := by
    decide +kernel
  have constant : mentions (· == "c0_1") (mainLines tinted .smooth) = true := by
    decide +kernel
  rcases registers "r0" (.head _) spare with ⟨absent, single, -⟩
  rcases constants 0 1 constant with ⟨uniform, once, -⟩
  exact ⟨spare, single, constant, header, split, absent, uniform, once⟩

end ShaderSynth.Fragment
