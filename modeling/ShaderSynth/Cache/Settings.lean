import ShaderSynth.Lru

/-!
# Settings of a program cache
-/

namespace ShaderSynth.Cache

/-- How many programs, or shader objects, are kept unless told otherwise. -/
def defaultCapacity : Capacity := ⟨50 * 1024, by decide⟩

/-- The version stamp of stored programs. -/
def defaultVersion : String := "aero-nv2a-0.1.0"

/-- Settings of a program cache. -/
structure Settings where
  /-- How many programs are kept. -/
  capacity : Capacity := defaultCapacity
  /-- Where programs are stored; without it, none are. -/
  directory : Option String := none
  version : String := defaultVersion
  /-- Whether programs that have to go are stored. -/
  persist : Bool := true
  /-- Whether failures are answered with the fallback program. -/
  fallback : Bool := false
  /-- How many shader objects are kept. -/
  objectCapacity : Capacity := defaultCapacity
deriving DecidableEq, Repr

/-- Whether programs are stored. -/
def Settings.persists (settings : Settings) : Bool :=
  settings.persist && settings.directory.isSome

end ShaderSynth.Cache
