import ShaderSynth.State.Vertex
import ShaderSynth.Texture.Settings

/-!
# Warnings of the shader generators

Configurations may hold values that the hardware reserves or that the
generators approximate.  The generators never refuse those; they substitute
something harmless and warn about it.
-/

namespace ShaderSynth

/-- What a shader generator warns about. -/
inductive Warning where
  | addressRouted (slot : Nat)
  | texgenUnsupported (stage : Nat) (component : String) (mode : Texgen)
  | pointSpriteOnRectangle
  | laterTextureInput (unit input : Nat)
  | reservedDotMapping (unit raw : Nat)
  | approximateDotMapping (unit : Nat) (mapping : Texture.DotMapping)
  | misplacedTextureMode (unit : Nat) (mode : Texture.Mode)
  | unknownTextureMode (unit raw : Nat)
  | shadowIgnored (unit : Nat) (mode : Texture.Mode)
  | convolutionIgnored (unit : Nat) (filter : Convolution)
  | borderIgnored (unit : Nat)
  | unimplementedTextureMode (unit : Nat) (mode : Texture.Mode)
  | tooManyStages (stages : Nat)
  | reservedRegister (stage raw : Nat)
  | productOutsideFinal (stage : Nat)
  | reservedOutputMapping (stage bits : Nat)
  | readOnlyDestination (stage raw : Nat)
deriving DecidableEq, Repr

/-- The log line of a warning. -/
def Warning.text : Warning → String
  | addressRouted slot =>
      s!"WARN ARL routed to an output register; ignoring output write slot={slot}"
  | texgenUnsupported stage component mode =>
      "WARN texgen mode not valid for component; passing coordinate through" ++
        s!" stage={stage} component={component} mode=" ++ Coded.label mode
  | pointSpriteOnRectangle =>
      "WARN point sprite coordinates replace a rectangle texture on unit 3"
  | laterTextureInput unit input =>
      "WARN texture stage reads a later stage; using the previous one" ++
        s!" unit={unit} input={input}"
  | reservedDotMapping unit raw =>
      s!"WARN reserved dot mapping; using zero_to_one unit={unit} raw={raw}"
  | approximateDotMapping unit mapping =>
      s!"WARN unimplemented dot mapping unit={unit} mapping=" ++
        mapping.function
  | misplacedTextureMode unit mode =>
      s!"WARN texture mode not supported on this unit unit={unit} mode=" ++
        mode.text
  | unknownTextureMode unit raw =>
      s!"WARN unknown texture mode unit={unit} raw={raw}"
  | shadowIgnored unit mode =>
      "WARN shadow compare not supported for mode; sampling without compare" ++
        s!" unit={unit} mode=" ++ mode.text
  | convolutionIgnored unit filter =>
      "WARN convolution filter for non-rect 2D texture unimplemented" ++
        s!" unit={unit} filter=" ++ Coded.label filter
  | borderIgnored unit =>
      s!"WARN border size ignored for passthrough texture stage unit={unit}"
  | unimplementedTextureMode unit mode =>
      s!"WARN unimplemented texture mode; result is zero unit={unit} mode=" ++
        mode.text
  | tooManyStages stages =>
      "WARN combiner stage count above hardware maximum; truncating" ++
        s!" stages={stages}"
  | reservedRegister stage raw =>
      s!"WARN reserved combiner register; reading zero stage={stage} raw={raw}"
  | productOutsideFinal stage =>
      "WARN EF_PROD read outside the final combiner; reading zero" ++
        s!" stage={stage}"
  | reservedOutputMapping stage bits =>
      s!"WARN reserved output mapping; using identity stage={stage} bits={bits}"
  | readOnlyDestination stage raw =>
      "WARN combiner output to a read-only register; discarding" ++
        s!" stage={stage} raw={raw}"

end ShaderSynth
