import ShaderSynth.Glsl.Source

/-!
# Layout of the transform and lighting context

The fixed pipeline reads its matrices and planes from fixed places of the
vertex constant file, and its lights from three further arrays.  This module
gives the places, and the names under which generated code refers to them.
-/

namespace ShaderSynth.Transform

open Glsl

/-- How many vertex constants there are. -/
def constantCount : Nat := 192

/-- How many vertex attributes there are. -/
def attributeCount : Nat := 16

/-! ## Places in the constant file -/

/-- The composite matrix. -/
def compositeMatrix : Nat := 0x00

/-- The projection matrix. -/
def projectionMatrix : Nat := 0x04

/-- The model-view matrices of the blended bones. -/
def modelView : List Nat := [0x08, 0x10, 0x18, 0x20]

/-- The inverse model-view matrices of the blended bones. -/
def inverseModelView : List Nat := [0x0C, 0x14, 0x1C, 0x24]

/-- The eye position. -/
def eyePosition : Nat := 0x38

/-- The fog plane. -/
def fogPlane : Nat := 0x39

/-- The planes of generated texture coordinates. -/
def texgenPlanes : List Nat := [0x40, 0x44, 0x48, 0x4C]

/-- The texture matrices. -/
def textureMatrices : List Nat := [0x50, 0x54, 0x58, 0x5C]

/-! ## Sizes of the lighting arrays and places in them -/

/-- The size of the first lighting array. -/
def lightContextACount : Nat := 26

/-- The size of the second lighting array. -/
def lightContextBCount : Nat := 52

/-- The size of the third lighting array. -/
def lightContext1Count : Nat := 20

/-- How many lights there are. -/
def lightCount : Nat := 8

/-! ## Definitions -/

/-- A place in an array, as text. -/
def place (array : String) (index : Nat) : String :=
  array ++ "[" ++ toString index ++ "]"

/-- A matrix in four consecutive constants, as text. -/
def matrixText (base : Nat) : String :=
  "mat4(" ++ ", ".intercalate
    [place "c" base, place "c" (base + 1), place "c" (base + 2),
      place "c" (base + 3)] ++ ")"

/-- A definition without filling. -/
def define (head replacement : String) : Item :=
  .define head 0 replacement

/-- Definitions of numbered matrices. -/
def defineMatrices (name : String) (bases : List Nat) : List Item :=
  bases.zipIdx.map fun (base, index) =>
    define (name ++ toString index) (matrixText base)

/-- Names of the attributes, in order. -/
def attributeItems : List Item :=
  let names := ["position", "weight", "normal", "diffuse", "specular",
    "fogCoord", "pointSize", "backDiffuse", "backSpecular", "texture0",
    "texture1", "texture2", "texture3", "reserved1", "reserved2",
    "reserved3"]
  names.zipIdx.map fun (name, index) =>
    let components :=
      if name = "normal" then ".xyz"
      else if name = "fogCoord" then ".x"
      else ""
    .define name 13 ("v" ++ toString index ++ components)

/-- The planes of a texture unit's generated coordinates. -/
def planeItems (unit base : Nat) : List Item :=
  ["S", "T", "R", "Q"].zipIdx.map (fun (coordinate, index) =>
      define ("texPlane" ++ coordinate ++ toString unit)
        (place "c" (base + index)))
    ++ [.blank]

/-- A parameter of each light: so many places apart, from a first one. -/
def lightItem (name array : String) (first : Nat) (tail : String) : Item :=
  define (name ++ "(i)") (array ++ "[" ++ toString first ++ " + " ++ tail)

/-- The declarations of the fixed pipeline. -/
def declarations : List Item :=
  attributeItems
    ++ [.blank,
      .uniform .vec4 "ltctxa" (some lightContextACount),
      .uniform .vec4 "ltctxb" (some lightContextBCount),
      .uniform .vec4 "ltc1" (some lightContext1Count), .blank,
      define "projectionMat" (matrixText projectionMatrix),
      define "compositeMat" (matrixText compositeMatrix), .blank]
    ++ texgenPlanes.zipIdx.flatMap (fun (base, unit) => planeItems unit base)
    ++ defineMatrices "modelViewMat" modelView
    ++ [.blank]
    ++ defineMatrices "invModelViewMat" inverseModelView
    ++ [.blank, define "eyePosition" (place "c" eyePosition), .blank,
      lightItem "lightAmbientColor" "ltctxb" 0x03 "(i)*6].xyz",
      lightItem "lightDiffuseColor" "ltctxb" 0x04 "(i)*6].xyz",
      lightItem "lightSpecularColor" "ltctxb" 0x05 "(i)*6].xyz", .blank,
      lightItem "lightSpotFalloff" "ltctxa" 0x0E "(i)*2].xyz",
      lightItem "lightSpotDirection" "ltctxa" 0x0F "(i)*2]", .blank,
      lightItem "lightLocalRange" "ltc1" 0x0C "(i)].x", .blank,
      define "sceneAmbientColor" (place "ltctxa" 0x0C ++ ".xyz"),
      define "materialEmissionColor" (place "ltctxa" 0x0D ++ ".xyz"), .blank,
      .uniform .mat4 "invViewport" none, .blank]

end ShaderSynth.Transform
