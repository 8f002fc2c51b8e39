import ShaderSynth.Device.Interface
import ShaderSynth.Text.Utf8

/-!
# A simulated device

A device that compiles nothing: it remembers sources, hands out objects by
counting, and can be told to fail.  The uniforms of a program are those its
sources declare.  Every operation that a driver would notice is recorded.
-/

namespace ShaderSynth

/-- What a device was asked to do, and what came of it. -/
inductive DeviceEvent where
  | compile (stage : StageKind) (bytes : Nat) (made : Option ShaderId)
  | link (shaders : List ShaderId) (made : Option ProgramId)
  | deleteShader (shader : ShaderId)
  | deleteProgram (program : ProgramId)
  | setSampler (program : ProgramId) (location : Location) (unit : Nat)
  | upload (location : Location) (value : Constant)
  | binary (program : ProgramId) (bytes : Option Nat)
  | ofBinary (format : UInt32) (bytes : Nat) (made : Option ProgramId)
deriving DecidableEq, Repr

/-- How a simulated device fails. -/
structure Switches where
  /-- Sources in which this text occurs do not compile. -/
  failCompileOn : Option String := none
  /-- So many of the next programs do not link. -/
  failLinks : Nat := 0
  /-- No program has a binary. -/
  noBinaries : Bool := false
  /-- No binary makes a program. -/
  rejectBinaries : Bool := false
deriving DecidableEq, Repr

/-- A program of a simulated device. -/
structure SimulatedProgram where
  /-- The sources of its stages, in order. -/
  sources : List String
  /-- The uniforms that the sources declare. -/
  uniforms : List String
deriving DecidableEq, Repr

/-- A simulated device. -/
structure SimulatedDevice where
  vendor : String
  switches : Switches := {}
  /-- How many objects have been handed out. -/
  made : Nat := 0
  /-- The shader objects and their sources. -/
  shaders : List (ShaderId × String) := []
  /-- The program objects. -/
  programs : List (ProgramId × SimulatedProgram) := []
  /-- The uniforms that have a location, by their locations. -/
  uniforms : List String := []
  /-- What the device was asked to do, the last first. -/
  events : List DeviceEvent := []
deriving Repr

namespace SimulatedDevice

/-- Whether a text occurs in another one. -/
def occursIn (needle : List Char) : List Char → Bool
  | [] => needle.isEmpty
  | first :: rest =>
      needle.isPrefixOf (first :: rest) || occursIn needle rest

/-- The name of a uniform without its index. -/
def baseName (name : String) : String :=
  String.ofList (name.toList.takeWhile (· ≠ '['))

/-- The uniform that a line of a source declares. -/
def declaredUniform? (line : String) : Option String :=
  if "uniform ".toList.isPrefixOf line.toList then
    let word := line.toList.reverse.takeWhile (· ≠ ' ')
    some (baseName (String.ofList (word.dropWhile (· = ';')).reverse))
  else none

/-- A line without the carriage return that belongs to its end. -/
def withoutReturn (line : String) : String :=
  match line.toList.reverse with
  | '\r' :: rest => String.ofList rest.reverse
  | _ => line

/-- The lines of a source.  Only a line that is ended can end in a return. -/
def linesOf : List String → List String
  | [] => []
  | [last] => [last]
  | line :: rest => withoutReturn line :: linesOf rest

/-- The uniforms that a source declares. -/
def declaredUniforms (source : String) : List String :=
  (linesOf (source.splitOn "\n")).filterMap declaredUniform?

/-- The form of the binaries. -/
def binaryFormat : UInt32 := 0x8741

/-- The binary of a program with these sources. -/
def encodeSources (sources : List String) : List UInt8 :=
  Utf8.encode (String.intercalate "\x00" sources)

/-- The sources that a binary holds. -/
def decodeSources? (bytes : List UInt8) : Option (List String) :=
  (Utf8.decode? bytes).map fun text => text.splitOn "\x00"

/-- Records an event. -/
def record (host : SimulatedDevice) (event : DeviceEvent) :
    SimulatedDevice :=
  { host with events := event :: host.events }

/-- The log of a source that fails to compile. -/
def compileFailure? (switches : Switches) (source : String) :
    Option String :=
  match switches.failCompileOn with
  | none => none
  | some needle =>
      if occursIn needle.toList source.toList then
        some ("0:1: error: rejected '" ++ needle ++ "'")
      else none

/-- Compiles a stage. -/
def compile
    (host : SimulatedDevice) (stage : StageKind) (source : String) :
    Except String ShaderId × SimulatedDevice :=
  let size := source.utf8ByteSize
  match compileFailure? host.switches source with
  | some log => (.error log, host.record (.compile stage size none))
  | none =>
      let shader : ShaderId := ⟨host.made + 1⟩
      (.ok shader,
        { host with
          made := host.made + 1
          shaders := host.shaders ++ [(shader, source)] }.record
            (.compile stage size (some shader)))

/-- Deletes a shader object. -/
def deleteShader (host : SimulatedDevice) (shader : ShaderId) :
    SimulatedDevice :=
  { host with
    shaders := host.shaders.filter fun entry => entry.1 ≠ shader }.record
      (.deleteShader shader)

/-- The sources of shader objects, or the log of the first unknown one. -/
def sourcesOf (host : SimulatedDevice) :
    List ShaderId → Except String (List String)
  | [] => .ok []
  | shader :: rest =>
      match host.shaders.lookup shader with
      | none => .error s!"unknown shader {shader.value}"
      | some source => (host.sourcesOf rest).map (source :: ·)

/-- Adds a program. -/
def addProgram (host : SimulatedDevice) (sources : List String) :
    ProgramId × SimulatedDevice :=
  let program : ProgramId := ⟨host.made + 1⟩
  (program,
    { host with
      made := host.made + 1
      programs := host.programs ++
        [(program, ⟨sources, sources.flatMap declaredUniforms⟩)] })

/-- Links shader objects. -/
def link (host : SimulatedDevice) (shaders : List ShaderId) :
    Except String ProgramId × SimulatedDevice :=
  if 0 < host.switches.failLinks then
    let switches :=
      { host.switches with failLinks := host.switches.failLinks - 1 }
    (.error "link failed",
      { host with switches }.record (.link shaders none))
  else
    match host.sourcesOf shaders with
    | .error log => (.error log, host.record (.link shaders none))
    | .ok sources =>
        let (program, host) := host.addProgram sources
        (.ok program, host.record (.link shaders (some program)))

/-- Deletes a program object. -/
def deleteProgram (host : SimulatedDevice) (program : ProgramId) :
    SimulatedDevice :=
  { host with
    programs := host.programs.filter fun entry => entry.1 ≠ program }.record
      (.deleteProgram program)

/-- Whether a program has a uniform. -/
def hasUniform
    (host : SimulatedDevice) (program : ProgramId) (name : String) : Bool :=
  match host.programs.lookup program with
  | some found => found.uniforms.contains (baseName name)
  | none => false

/-- The location of a uniform; each name gets one when first asked for. -/
def location
    (host : SimulatedDevice) (program : ProgramId) (name : String) :
    Option Location × SimulatedDevice :=
  if host.hasUniform program name then
    match host.uniforms.idxOf? name with
    | some index => (some ⟨index⟩, host)
    | none =>
        (some ⟨host.uniforms.length⟩,
          { host with uniforms := host.uniforms ++ [name] })
  else (none, host)

/-- The binary of a program. -/
def binary (host : SimulatedDevice) (program : ProgramId) :
    Option ProgramBinary × SimulatedDevice :=
  let found :=
    if host.switches.noBinaries then none
    else (host.programs.lookup program).map fun found =>
      encodeSources found.sources
  (found.map (⟨binaryFormat, ·⟩),
    host.record (.binary program (found.map List.length)))

/-- Recreates a program. -/
def ofBinary (host : SimulatedDevice) (binary : ProgramBinary) :
    Option ProgramId × SimulatedDevice :=
  let accepted :=
    if host.switches.rejectBinaries ∨ binary.format ≠ binaryFormat then none
    else decodeSources? binary.bytes
  let event := DeviceEvent.ofBinary binary.format binary.bytes.length
  match accepted with
  | none => (none, host.record (event none))
  | some sources =>
      let (program, host) := host.addProgram sources
      (some program, host.record (event (some program)))

instance : Device SimulatedDevice where
  vendor host := host.vendor
  compile := compile
  deleteShader := deleteShader
  link := link
  deleteProgram := deleteProgram
  location := location
  setSampler host program location unit :=
    host.record (.setSampler program location unit)
  upload host location value := host.record (.upload location value)
  binary := binary
  ofBinary := ofBinary

end SimulatedDevice

end ShaderSynth
