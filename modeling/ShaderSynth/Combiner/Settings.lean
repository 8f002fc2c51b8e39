import ShaderSynth.Combiner.Register
import ShaderSynth.State.Pixel

/-!
# Combiner settings

The combiner words of a pixel configuration, taken apart.  Reserved values
are kept, so that the shader generator can report them.
-/

namespace ShaderSynth.Combiner

/-- Destinations and operations of a combiner. -/
structure Output where
  /-- The destination nibbles of the two products and of their sum. -/
  ab : UInt8
  cd : UInt8
  muxSum : UInt8
  /-- Whether a product is a dot product. -/
  abDot : Bool
  cdDot : Bool
  /-- Whether one product is chosen in place of the sum. -/
  mux : Bool
  mappingBits : UInt32
  /-- Whether the blue of a product is copied to alpha. -/
  abBlueToAlpha : Bool
  cdBlueToAlpha : Bool
deriving DecidableEq, Repr

namespace Output

/-- The settings in an output word. -/
def ofWord (word : UInt32) : Output :=
  let flags := word >>> 12
  { cd := (word &&& 15).toUInt8
    ab := ((word >>> 4) &&& 15).toUInt8
    muxSum := ((word >>> 8) &&& 15).toUInt8
    cdDot := flags &&& 0x01 != 0
    abDot := flags &&& 0x02 != 0
    mux := flags &&& 0x04 != 0
    mappingBits := flags &&& 0x38
    cdBlueToAlpha := flags &&& 0x40 != 0
    abBlueToAlpha := flags &&& 0x80 != 0 }

/-- The output mapping, unless it is reserved. -/
def mapping? (output : Output) : Option OutputMapping :=
  OutputMapping.ofFlags? output.mappingBits

end Output

/-- One general combiner stage. -/
structure Stage where
  rgbInputs : Inputs
  rgbOutput : Output
  alphaInputs : Inputs
  alphaOutput : Output
deriving DecidableEq, Repr

/-- Settings that hold for all stages. -/
structure Control where
  /-- How many stages are asked for. -/
  stages : Nat
  /-- Whether the choice between products looks at the highest bit. -/
  muxMsb : Bool
  /-- Whether each stage has a constant of its own. -/
  uniqueC0 : Bool
  uniqueC1 : Bool
deriving DecidableEq, Repr

/-- The settings in the control word. -/
def Control.ofWord (word : UInt32) : Control :=
  let flags := word >>> 8
  { stages := (word &&& 0xFF).toNat
    muxMsb := flags &&& 0x001 != 0
    uniqueC0 := flags &&& 0x010 != 0
    uniqueC1 := flags &&& 0x100 != 0 }

/-- What the final combiner's sum register adds up. -/
structure SumSettings where
  complementR0 : Bool
  complementV1 : Bool
  clamp : Bool
deriving DecidableEq, Inhabited, Repr

namespace SumSettings

/-- The settings in the low byte of the second final word. -/
def ofWord (word : UInt32) : SumSettings :=
  ⟨word &&& 0x20 != 0, word &&& 0x40 != 0, word &&& 0x80 != 0⟩

/-- The bits of the settings. -/
def bits (settings : SumSettings) : Nat :=
  32 * settings.complementR0.toNat + 64 * settings.complementV1.toNat +
    128 * settings.clamp.toNat

end SumSettings

/-- The final combiner. -/
structure Final where
  a : Input
  b : Input
  c : Input
  d : Input
  e : Input
  f : Input
  g : Input
  sum : SumSettings
deriving DecidableEq, Repr

/-- The final combiner in its two words; it is off if both are zero. -/
def Final.ofWords? (word0 word1 : UInt32) : Option Final :=
  if word0 = 0 ∧ word1 = 0 then none
  else
    let abcd := Inputs.ofWord word0
    let efg := Inputs.ofWord word1
    some
      { a := abcd.a
        b := abcd.b
        c := abcd.c
        d := abcd.d
        e := efg.a
        f := efg.b
        g := efg.c
        sum := .ofWord word1 }

/-- How many general stages the hardware has. -/
def maxStages : Nat := 8

/-- The settings of a pixel configuration. -/
structure Settings where
  control : Control
  /-- The stages that run: as many as asked for, up to the hardware's number. -/
  stages : List Stage
  final : Option Final
deriving DecidableEq, Repr

/-- Takes the combiner words of a pixel configuration apart. -/
def Settings.ofPixel (state : PixelState) : Settings :=
  let control := Control.ofWord state.combinerControl
  { control := control
    stages :=
      (List.finRange 8).take control.stages |>.map fun index =>
        { rgbInputs := .ofWord (state.rgbInputs.get index)
          rgbOutput := .ofWord (state.rgbOutputs.get index)
          alphaInputs := .ofWord (state.alphaInputs.get index)
          alphaOutput := .ofWord (state.alphaOutputs.get index) }
    final := Final.ofWords? state.finalInputs0 state.finalInputs1 }

end ShaderSynth.Combiner
