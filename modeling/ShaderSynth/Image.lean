import ShaderSynth.Format
import ShaderSynth.State.Pipeline

/-!
# The image of a configuration

A pipeline configuration has one image: a version byte, and then its fields
in a fixed order.  `PipelineState.ofBytes` accepts an image only whole, and a
program only up to the length the hardware holds.
-/

namespace ShaderSynth.Image

/-- Why bytes are no image. -/
inductive ImageError where
  | unexpectedEnd (offset : Nat)
  | version (found : UInt8)
  | invalidValue (field : String) (value : Nat)
  | trailingBytes (remaining : Nat)
deriving DecidableEq, Repr

/-- The message of an error. -/
def ImageError.message : ImageError → String
  | unexpectedEnd offset =>
      s!"unexpected end of state image at offset {offset}"
  | version found => s!"unsupported state image version {found.toNat}"
  | invalidValue field value => s!"invalid {field} value {value}"
  | trailingBytes remaining =>
      s!"{remaining} trailing bytes after state image"

/-- One byte. -/
def uint8 : Format ImageError UInt8 := .uint8 .unexpectedEnd

/-- Two bytes. -/
def uint16 : Format ImageError UInt16 := .uint16 .unexpectedEnd

/-- Four bytes. -/
def uint32 : Format ImageError UInt32 := .uint32 .unexpectedEnd

/-- A truth value: one byte, zero or one. -/
def bool : Format ImageError Bool :=
  uint8.refine
    (fun
      | 0 => .ok false
      | 1 => .ok true
      | other => .error (.invalidValue "bool" other.toNat))
    Bool.toUInt8

/-- A member of an enumeration, by its code. -/
def coded {member : Type} [Coded member] (field : String) :
    Format ImageError member :=
  uint8.refine
    (fun raw =>
      match Coded.ofCode? raw with
      | some chosen => .ok chosen
      | none => .error (.invalidValue field raw.toNat))
    Coded.code

/-- A single-precision number, by its bits. -/
def single : Format ImageError Single :=
  uint32.map Single.mk Single.bits

/-- The version of the layout, which is the first byte of every image. -/
def layoutVersion : UInt8 := 2

/-- A token. -/
def token : Format ImageError Microcode.Token := uint32.vector 4

/-- The tokens of a program after their number. -/
def tokens : Format ImageError (List Microcode.Token) where
  write values :=
    uint32.write (UInt32.ofNat values.length) ++ values.flatMap token.write
  read cursor := do
    let (count, cursor) ← uint32.read cursor
    if count.toNat ≤ Microcode.maxProgramLength then
      token.readMany count.toNat cursor
    else .error (.invalidValue "program length" count.toNat)

/-- A vertex program. -/
def microcode : Format ImageError Microcode.Program :=
  (bool.pair tokens).map
    (fun (zPerspective, tokens) => ⟨tokens, zPerspective⟩)
    (fun program => (program.zPerspective, program.tokens))

/-- Settings of the fixed pipeline. -/
def fixedFunction : Format ImageError FixedFunction :=
  ((coded "skinning").pair
    (bool.pair
    ((bool.vector 4).pair
    ((((coded "texgen").vector 4).vector 4).pair
    (bool.pair
    (((coded "light type").vector 8).pair
    ((coded "emission source").pair
    ((coded "ambient source").pair
    ((coded "diffuse source").pair
    (coded "specular source")))))))))).map
    (fun (skinning, normalization, textureMatrix, texgen, lighting, lights,
        emissionSource, ambientSource, diffuseSource, specularSource) =>
      ⟨skinning, normalization, textureMatrix, texgen, lighting, lights,
        emissionSource, ambientSource, diffuseSource, specularSource⟩)
    (fun settings =>
      (settings.skinning, settings.normalization, settings.textureMatrix,
        settings.texgen, settings.lighting, settings.lights,
        settings.emissionSource, settings.ambientSource,
        settings.diffuseSource, settings.specularSource))

/-- What drives the vertex stage, after a byte that says which. -/
def vertexProgram : Format ImageError VertexProgram where
  write
    | .microcode program => uint8.write 0 ++ microcode.write program
    | .fixedFunction settings => uint8.write 1 ++ fixedFunction.write settings
  read cursor := do
    let (tag, cursor) ← uint8.read cursor
    match tag with
    | 0 =>
        let (program, cursor) ← microcode.read cursor
        return (.microcode program, cursor)
    | 1 =>
        let (settings, cursor) ← fixedFunction.read cursor
        return (.fixedFunction settings, cursor)
    | other => .error (.invalidValue "program kind" other.toNat)

/-- Fog settings. -/
def fog : Format ImageError FogState :=
  (bool.pair ((coded "fog mode").pair (coded "fog gen"))).map
    (fun (enable, mode, source) => ⟨enable, mode, source⟩)
    (fun fog => (fog.enable, fog.mode, fog.source))

/-- Point size settings. -/
def point : Format ImageError PointState :=
  (bool.pair (single.pair (single.vector 8))).map
    (fun (paramsEnable, size, params) => ⟨paramsEnable, size, params⟩)
    (fun point => (point.paramsEnable, point.size, point.params))

/-- Vertex configuration. -/
def vertex : Format ImageError VertexState :=
  (vertexProgram.pair (uint16.pair (uint32.pair (fog.pair point)))).map
    (fun (program, compressed, scale, fog, point) =>
      ⟨program, compressed, scale, fog, point⟩)
    (fun state =>
      (state.program, state.compressedAttributes, state.surfaceScale,
        state.fog, state.point))

/-- Geometry configuration. -/
def geometry : Format ImageError GeometryState :=
  ((coded "primitive mode").pair
    ((coded "polygon mode").pair (coded "polygon mode"))).map
    (fun (mode, front, back) => ⟨mode, front, back⟩)
    (fun state => (state.primitiveMode, state.frontMode, state.backMode))

/-- Settings of a texture unit. -/
def texture : Format ImageError TextureState :=
  (bool.pair
    (bool.pair
    (bool.pair
    (bool.pair
    ((bool.vector 4).pair
    ((coded "convolution filter").pair
    ((single.vector 3).pair
    (single.vector 3)))))))).map
    (fun (rect, signed, shadowMap, alphaKill, compareMode, convolution,
        logical, inverse) =>
      ⟨rect, signed, shadowMap, alphaKill, compareMode, convolution,
        logical, inverse⟩)
    (fun texture =>
      (texture.rect, texture.signed, texture.shadowMap, texture.alphaKill,
        texture.compareMode, texture.convolution,
        texture.borderLogicalSize, texture.borderInverseSize))

/-- The words of the combiners. -/
def stageWords : Format ImageError (Vector UInt32 8) := uint32.vector 8

/-- Pixel configuration. -/
def pixel : Format ImageError PixelState :=
  (uint32.pair
    (uint32.pair
    (uint32.pair
    (uint32.pair
    (uint32.pair
    (stageWords.pair
    (stageWords.pair
    (stageWords.pair
    (stageWords.pair
    ((texture.vector 4).pair
    ((coded "shadow depth func").pair
    (bool.pair
    ((coded "alpha func").pair
    (bool.pair
    bool)))))))))))))).map
    (fun (control, program, other, final0, final1, rgbInputs, rgbOutputs,
        alphaInputs, alphaOutputs, textures, shadow, alphaTest, alpha,
        pointSprite, windowClip) =>
      ⟨control, program, other, final0, final1, rgbInputs, rgbOutputs,
        alphaInputs, alphaOutputs, textures, shadow, alphaTest, alpha,
        pointSprite, windowClip⟩)
    (fun state =>
      (state.combinerControl, state.shaderStageProgram,
        state.otherStageInput, state.finalInputs0, state.finalInputs1,
        state.rgbInputs, state.rgbOutputs, state.alphaInputs,
        state.alphaOutputs, state.textures, state.shadowFunction,
        state.alphaTest, state.alphaFunction, state.pointSprite,
        state.windowClipExclusive))

/-- The fields of a configuration, after the version byte. -/
def fields : Format ImageError PipelineState :=
  (vertex.pair (geometry.pair (pixel.pair bool))).map
    (fun (vertex, geometry, pixel, smooth) =>
      ⟨vertex, geometry, pixel, smooth⟩)
    (fun state =>
      (state.vertex, state.geometry, state.pixel, state.smoothShading))

/-- The byte that starts every image. -/
def version : Format ImageError Unit :=
  uint8.refine
    (fun found =>
      if found = layoutVersion then .ok () else .error (.version found))
    (fun _ => layoutVersion)

/-- A configuration with its version byte. -/
def state : Format ImageError PipelineState :=
  (version.pair fields).map Prod.snd (fun state => ((), state))

end ShaderSynth.Image

namespace ShaderSynth.PipelineState

/-- The image of a configuration. -/
def toBytes (state : PipelineState) : List UInt8 :=
  Image.state.write state

/-- The configuration whose image these bytes are. -/
def ofBytes (bytes : List UInt8) : Except Image.ImageError PipelineState :=
  Image.state.readAll .trailingBytes bytes

end ShaderSynth.PipelineState
