import ShaderSynth.Proofs.Stage.Registers
import ShaderSynth.Proofs.Texture.Chains

/-!
# Order of the texture units

What the code of a texture unit takes over from other units has to be declared
before it in the main function.  The mode of a unit is looked at alone, so a
unit can take a dot product that no unit has computed, and a reflection can take
the result that it is about to compute.  Apart from these two, nothing is used
before it is declared.
-/

namespace ShaderSynth.Fragment

open Glsl Texture

theorem not_mem_opening (state : PixelState) (shading : Shading)
    (shared : Shared) :
    shared.name ∉ declared (openingLines state shading) := by
  have others : ∀ entry ∈ openingTable, Shared.isOther entry.1 = true := by
    decide
  have part :
      (locals (openingLines state shading)).Sublist openingTable := by
    rw [openingLines, locals_append, locals_append, locals_input]
    exact ((locals_clip _).append (.refl _)).append (.refl _)
  intro member
  obtain ⟨entry, listed, same⟩ := List.mem_map.mp member
  exact Shared.name_ne (others entry (part.subset listed)) same.symm

/--
The results and the dot products that the code of some texture unit uses are
declared on earlier lines of the main function if and only if every unit is
supplied: the dot products it takes are computed by the units right before it,
and a reflection that completes the product of the last unit comes after the
input of that unit.
-/
theorem units_declare_before_use_iff (state : PixelState)
    (shading : Shading) :
    ∃ opening rest,
      let units := Units.ofPixel state
      mainLines state shading =
          opening ++ (List.finRange 4).flatMap units.lines ++ rest ∧
        ((∀ before line after,
            (List.finRange 4).flatMap units.lines = before ++ line :: after →
              ∀ shared : Shared, shared.name ∈ line.statement.uses →
                shared.name ∈ declared (opening ++ before)) ↔
          ∀ unit, (Settings.ofPixel state).Supplied unit) := by
  refine ⟨openingLines state shading,
    spareRegisters state
      ++ indented 0 (Combiner.Settings.ofPixel state).statements
      ++ alphaTestLines state, ?_, ?_⟩
  · rw [mainLines_eq]
    simp only [List.append_assoc]
  · have settled := (Units.ofPixel state).awaits_nothing_iff
    constructor
    · intro before
      refine settled.mp fun shared awaited => ?_
      obtain ⟨earlier, line, later, split, used, fresh⟩ :=
        mem_awaits_iff.mp awaited
      have found := before earlier line later split shared used
      rw [declared_append, List.mem_append] at found
      rcases found with early | late
      · exact not_mem_opening state shading shared early
      · exact fresh late
    · intro supplied earlier line later split shared used
      by_contra missing
      rw [declared_append, List.mem_append, not_or] at missing
      exact settled.mpr supplied shared
        (mem_awaits_iff.mpr ⟨earlier, line, later, split, used, missing.2⟩)

/-- Three units in a row whose dot products make up a direction. -/
def chain : PixelState :=
  { (default : PixelState) with
    shaderStageProgram := 0x64621
    otherStageInput := 0x210000 }

theorem units_declare_before_use_iff_chain :
    ∃ opening rest,
      mainLines chain .smooth =
          opening ++ (List.finRange 4).flatMap (Units.ofPixel chain).lines
            ++ rest ∧
        ∀ before line after,
          (List.finRange 4).flatMap (Units.ofPixel chain).lines =
              before ++ line :: after →
            ∀ shared : Shared, shared.name ∈ line.statement.uses →
              shared.name ∈ declared (opening ++ before) := by
  obtain ⟨opening, rest, split, iff⟩ :=
    units_declare_before_use_iff chain .smooth
  exact ⟨opening, rest, split, iff.mpr (by decide +kernel)⟩

/-- A plane of dot products after a plain texture, which computes none. -/
def gap : PixelState :=
  { (default : PixelState) with shaderStageProgram := 0x2420 }

/-- A reflection whose last product has the reflection itself as its input. -/
def circular : PixelState :=
  { (default : PixelState) with
    shaderStageProgram := 0x2E20
    otherStageInput := 0x200000 }

/-- Lines use a dot product and a result that no line before them declares. -/
theorem used_before_declared :
    (∃ before line after,
        mainLines gap .smooth = before ++ line :: after ∧
          (Shared.product 1).name ∈ line.statement.uses ∧
          (Shared.product 1).name ∉ declared before) ∧
      ∃ before line after,
        mainLines circular .smooth = before ++ line :: after ∧
          (Shared.vector 2).name ∈ line.statement.uses ∧
          (Shared.vector 2).name ∉ declared before :=
  ⟨mem_awaits_iff.mp (by decide +kernel), mem_awaits_iff.mp (by decide +kernel)⟩

end ShaderSynth.Fragment
