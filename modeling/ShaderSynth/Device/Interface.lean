import ShaderSynth.Program.Stages
import ShaderSynth.Single

/-!
# Graphics devices

A device compiles the source of a stage to a shader object, links shader
objects to a program object, and keeps the uniforms of programs.  `Device`
says which operations a device has; every operation may change the device.
-/

namespace ShaderSynth

/-- A shader object of a device. -/
structure ShaderId where
  value : Nat
deriving DecidableEq, Repr

/-- A program object of a device. -/
structure ProgramId where
  value : Nat
deriving DecidableEq, Repr

/-- Where a program keeps a uniform. -/
structure Location where
  value : Nat
deriving DecidableEq, Repr

/-- A program in the device's own form. -/
structure ProgramBinary where
  format : UInt32
  bytes : List UInt8
deriving DecidableEq, Repr

/-- A value of four components. -/
abbrev Constant := Vector Single 4

/-- The operations of a graphics device. -/
class Device (device : Type) where
  /-- Names the driver; stored programs are of use only to the same one. -/
  vendor : device → String
  /-- Compiles a stage, or gives the log of the failure. -/
  compile : device → StageKind → String → Except String ShaderId × device
  deleteShader : device → ShaderId → device
  /-- Links stages, or gives the log of the failure. -/
  link : device → List ShaderId → Except String ProgramId × device
  deleteProgram : device → ProgramId → device
  /-- The location of a uniform, if the program has it. -/
  location : device → ProgramId → String → Option Location × device
  /-- Has a sampler read from a texture unit. -/
  setSampler : device → ProgramId → Location → Nat → device
  /-- Sets a uniform. -/
  upload : device → Location → Constant → device
  /-- The binary of a program, if the device gives it away. -/
  binary : device → ProgramId → Option ProgramBinary × device
  /-- Recreates a program, unless the device rejects the binary. -/
  ofBinary : device → ProgramBinary → Option ProgramId × device

end ShaderSynth
