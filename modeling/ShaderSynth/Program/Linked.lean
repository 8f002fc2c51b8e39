import ShaderSynth.Uniform

/-!
# Linked programs

A linked program knows where its uniforms are, and which vertex constants the
device holds for it.  `LinkedProgram.upload` writes only the constants that
have changed since; whoever else writes them has to call `invalidate`.
-/

namespace ShaderSynth

open Transform

/-- The vertex constants of a draw. -/
abbrev Constants := Vector Constant constantCount

/-- A program of a device, ready to be drawn with. -/
structure LinkedProgram where
  program : ProgramId
  assembly : Assembly
  locations : Locations
  /-- The constants that the device holds, as far as this is known. -/
  held : Option Constants
deriving DecidableEq, Repr

namespace LinkedProgram

variable {device : Type} [Device device]

/-- Has the samplers of a program read from their texture units. -/
def bindSamplers
    (program : ProgramId) (locations : Locations) (host : device) : device :=
  (List.finRange 4).foldl
    (fun host unit =>
      match locations.get? (.sampler unit) with
      | some location => Device.setSampler host program location unit.val
      | none => host)
    host

/-- Gets a program that the device has just made ready. -/
def prepare (host : device) (program : ProgramId) (assembly : Assembly) :
    LinkedProgram × device :=
  let (locations, host) := Locations.resolve host program
  (⟨program, assembly, locations, none⟩,
    bindSamplers program locations host)

/-- Whether the device may hold another value than the wanted one. -/
def isStale
    (linked : LinkedProgram) (constants : Constants) (force : Bool)
    (index : Fin constantCount) :
    Bool :=
  force ||
    match linked.held with
    | none => true
    | some held => held[index] != constants[index]

/-- The constants to write, with their locations. -/
def pending
    (linked : LinkedProgram) (constants : Constants) (force : Bool) :
    List (Location × Constant) :=
  ((List.finRange constantCount).filter
      (linked.isStale constants force)).filterMap
    fun index =>
      (linked.locations.get? (.constant index)).map fun location =>
        (location, constants[index])

/-- Brings the constants of a program up to date, and counts the writes. -/
def upload
    (linked : LinkedProgram)
    (host : device) (constants : Constants) (force : Bool) :
    Nat × LinkedProgram × device :=
  let writes := linked.pending constants force
  (writes.length, { linked with held := some constants },
    writes.foldl
      (fun host (location, value) => Device.upload host location value)
      host)

/-- Forgets which constants the device holds. -/
def invalidate (linked : LinkedProgram) : LinkedProgram :=
  { linked with held := none }

end LinkedProgram

end ShaderSynth
