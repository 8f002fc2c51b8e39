import ShaderSynth.Glsl.Source

/-!
# Values passed between stages

Every stage boundary carries the same block of values.  Perspective is applied
by hand: the vertex stage multiplies each value by the reciprocal of the depth
coordinate and the fragment stage divides by it, so that the values themselves
are interpolated without perspective.
-/

namespace ShaderSynth

open Glsl

/-- Interpolation of the colors. -/
inductive Shading where
  | smooth
  | flat
deriving DecidableEq, Repr

namespace Shading

/-- The shading a flag asks for. -/
def ofSmooth (smooth : Bool) : Shading :=
  if smooth then .smooth else .flat

/-- How the colors are interpolated. -/
def interpolation : Shading → Interpolation
  | smooth => .noperspective
  | flat => .flat

/-- The factor the colors are multiplied with. -/
def inverseW : Shading → String
  | smooth => "vtx_inv_w"
  | flat => "vtx_inv_w_flat"

end Shading

/-- A value passed to the next stage. -/
structure Varying where
  interpolation : Interpolation
  type : Ty
  name : String
deriving DecidableEq, Repr

/-- The four colors: front and back, diffuse and specular. -/
def colorNames : List String := ["D0", "D1", "B0", "B1"]

/-- The block of values at a stage boundary. -/
def varyings (shading : Shading) : List Varying :=
  [⟨.noperspective, .float, "vtx_inv_w"⟩, ⟨.flat, .float, "vtx_inv_w_flat"⟩]
    ++ colorNames.map (fun color =>
      ⟨shading.interpolation, .vec4, "vtx" ++ color⟩)
    ++ [⟨.noperspective, .float, "vtxFog"⟩]
    ++ (List.range 4).map (fun unit =>
      ⟨.noperspective, .vec4, "vtxT" ++ toString unit⟩)

/-- What the names of the values start with between vertex and geometry stage. -/
def vertexLead : String := "v_"

/-- The declarations of the block on one side of a boundary. -/
def varyingItems
    (shading : Shading) (direction : Direction)
    (lead : String) (array : Bool) :
    List Item :=
  (varyings shading).map fun varying =>
    .varying varying.interpolation direction varying.type
      (lead ++ varying.name) array

/-- Computes the reciprocal depth; a depth without a reciprocal counts as one. -/
def inverseWLines : List Line :=
  [⟨2, .enter (.when (.binary .or .loose
      (.compare .equal (.of "oPos" "w") 0.0)
      (.call "isinf" (.of "oPos" "w"))))⟩,
    ⟨4, .set "vtx_inv_w" 1.0⟩,
    ⟨2, .enter .otherwise⟩,
    ⟨4, .set "vtx_inv_w" (1.0 / .of "oPos" "w")⟩,
    ⟨2, .leave⟩,
    ⟨2, .set "vtx_inv_w_flat" "vtx_inv_w"⟩]

end ShaderSynth
