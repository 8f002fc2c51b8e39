import ShaderSynth.Hex
import ShaderSynth.Lru
import ShaderSynth.Digest
import ShaderSynth.Program.Linked
import ShaderSynth.Warning

/-!
# Building programs

A linker turns configurations into linked programs.  It keeps the shader
objects of recently used stages, so that programs that share a stage compile
it once.

A linker may be told to answer failures with a program that paints everything
in one glaring color.
-/

namespace ShaderSynth

/-- Why a program could not be built. -/
inductive BuildError where
  | source (error : SourceError)
  | compile (stage : StageKind) (source log : String)
  | link (log : String)
deriving DecidableEq, Repr

/-- The message of an error. -/
def BuildError.message : BuildError → String
  | source error => error.message
  | compile stage _ log => stage.text ++ " shader failed to compile: " ++ log
  | link log => "shader program failed to link: " ++ log

/-- What building a program reports. -/
inductive BuildReport where
  | warning (warning : Warning)
  | fallback (digest : UInt64) (error : BuildError)
deriving DecidableEq, Repr

/-- The log line of a report. -/
def BuildReport.text : BuildReport → String
  | .warning raised => raised.text
  | .fallback digest error =>
      "WARN shader build failed; using fallback program hash=" ++
        Hex.lower 16 digest.toNat ++ " error=" ++ error.message

/-- The vertex stage of the fallback program. -/
def fallbackVertexSource : String :=
  "#version 400\n\nlayout(location = 0) in vec4 v0;\n\n" ++
    "void main() \x7b\n  gl_Position = v0;\n\x7d\n"

/-- The fragment stage of the fallback program. -/
def fallbackFragmentSource : String :=
  "#version 400\n\nout vec4 fragColor;\n\n" ++
    "void main() \x7b\n  fragColor = vec4(1.0, 0.0, 1.0, 1.0);\n\x7d\n"

/-- Turns configurations into programs. -/
structure Linker where
  /-- The shader objects of recently used stages. -/
  objects : Lru StageKey ShaderId
  /-- Whether failures are answered with the fallback program. -/
  fallback : Bool
deriving Repr

/-- What a step of building leaves. -/
structure Building (device result : Type) where
  result : Except BuildError result
  linker : Linker
  host : device
  reports : List BuildReport

namespace Linker

variable {device : Type} [Device device]

/-- A linker without shader objects. -/
def new (capacity : Capacity) (fallback : Bool) : Linker :=
  ⟨.empty capacity, fallback⟩

/-- Compiles a stage. -/
def compile (host : device) (stage : StageKind) (source : String) :
    Except BuildError ShaderId × device :=
  let (compiled, host) := Device.compile host stage source
  (compiled.mapError (.compile stage source), host)

/-- Links shader objects. -/
def link (host : device) (shaders : List ShaderId) :
    Except BuildError ProgramId × device :=
  let (linked, host) := Device.link host shaders
  (linked.mapError .link, host)

/-- Keeps a new shader object; one that had to make room is deleted. -/
def keep
    (linker : Linker) (host : device) (key : StageKey) (shader : ShaderId) :
    Linker × device :=
  let (evicted, objects) := linker.objects.insert key shader
  ({ linker with objects },
    match evicted with
    | some evicted => Device.deleteShader host evicted
    | none => host)

/-- The shader object of a stage. -/
def object (linker : Linker) (host : device) (key : StageKey) :
    Building device ShaderId :=
  match linker.objects.get? key with
  | some shader =>
      ⟨.ok shader, { linker with objects := linker.objects.touch key },
        host, []⟩
  | none =>
      let reports := key.warnings.map BuildReport.warning
      match key.source with
      | .error error => ⟨.error (.source error), linker, host, reports⟩
      | .ok source =>
          match compile host key.kind source with
          | (.error error, host) => ⟨.error error, linker, host, reports⟩
          | (.ok shader, host) =>
              let (linker, host) := linker.keep host key shader
              ⟨.ok shader, linker, host, reports⟩

/-- The shader objects of stages, up to the first failure. -/
def objectsOf (linker : Linker) (host : device) :
    List StageKey → Building device (List ShaderId)
  | [] => ⟨.ok [], linker, host, []⟩
  | key :: rest =>
      let first := linker.object host key
      match first.result with
      | .error error =>
          ⟨.error error, first.linker, first.host, first.reports⟩
      | .ok shader =>
          let others := first.linker.objectsOf first.host rest
          ⟨others.result.map (shader :: ·), others.linker, others.host,
            first.reports ++ others.reports⟩

/-- Compiles and links the stages of a program. -/
def build (linker : Linker) (host : device) (stages : Stages) :
    Building device LinkedProgram :=
  let compiled := linker.objectsOf host stages.toList
  match compiled.result with
  | .error error =>
      ⟨.error error, compiled.linker, compiled.host, compiled.reports⟩
  | .ok shaders =>
      match link compiled.host shaders with
      | (.error error, host) =>
          ⟨.error error, compiled.linker, host, compiled.reports⟩
      | (.ok program, host) =>
          let (linked, host) :=
            LinkedProgram.prepare host program stages.assembly
          ⟨.ok linked, compiled.linker, host, compiled.reports⟩

/-- Builds the fallback program, whose shader objects are not kept. -/
def buildFallback (host : device) (assembly : Assembly) :
    Except BuildError LinkedProgram × device :=
  match compile host .vertex fallbackVertexSource with
  | (.error error, host) => (.error error, host)
  | (.ok vertex, host) =>
      match compile host .fragment fallbackFragmentSource with
      | (.error error, host) =>
          (.error error, Device.deleteShader host vertex)
      | (.ok fragment, host) =>
          let (linked, host) := link host [vertex, fragment]
          let host := Device.deleteShader host vertex
          let host := Device.deleteShader host fragment
          match linked with
          | .error error => (.error error, host)
          | .ok program =>
              let (linked, host) :=
                LinkedProgram.prepare host program assembly
              (.ok linked, host)

/-- Builds the program of a configuration. -/
def assemble (linker : Linker) (host : device) (state : PipelineState) :
    Building device LinkedProgram :=
  match state.stages with
  | .error error => ⟨.error (.source error), linker, host, []⟩
  | .ok stages =>
      let built := linker.build host stages
      match built.result with
      | .ok _ => built
      | .error error =>
          if linker.fallback then
            let (replaced, host) := buildFallback built.host stages.assembly
            ⟨replaced.mapError fun _ => error, built.linker, host,
              built.reports ++ [.fallback state.digest error]⟩
          else built

/-- Recreates the program of a configuration from its binary. -/
def restore
    (host : device) (state : PipelineState) (binary : ProgramBinary) :
    Option LinkedProgram × device :=
  match state.stages with
  | .error _ => (none, host)
  | .ok stages =>
      match Device.ofBinary host binary with
      | (none, host) => (none, host)
      | (some program, host) =>
          let (linked, host) :=
            LinkedProgram.prepare host program stages.assembly
          (some linked, host)

/-- Deletes all shader objects. -/
def clear (linker : Linker) (host : device) : Linker × device :=
  ({ linker with objects := linker.objects.clear },
    linker.objects.values.foldl Device.deleteShader host)

end Linker

end ShaderSynth
