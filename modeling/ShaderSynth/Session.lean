import ShaderSynth.Cache.Lookup
import ShaderSynth.Device.Simulated

/-!
# Sessions

A session drives a program cache, or a linker on its own, on a simulated
device and a file tree.  `Session.step` carries out one step and says what
came of it; all directories are below the root directory of the session.
-/

namespace ShaderSynth

open Transform

/-- What a session does next. -/
inductive Step where
  /-- Starts a cache on a new device. -/
  | start (vendor : String) (settings : Cache.Settings)
  /-- Ends the cache and the linker. -/
  | close
  | lookup (state : PipelineState)
  | flush
  /-- Changes constants, and uploads all of them to a program in the cache. -/
  | upload
      (digest : UInt64) (changes : List (Nat × Constant)) (force : Bool)
  | invalidate (digest : UInt64)
  | uniforms (digest : UInt64)
  | switches (change : Switches → Switches)
  | live
  /-- Starts a linker of its own on a new device. -/
  | startLinker (capacity : Capacity) (fallback : Bool)
  | assemble (state : PipelineState)
  | restore (state : PipelineState) (binary : ProgramBinary)
  | clear
  | writeEntry
      (directory : String) (digest : UInt64) (stamp : Store.Stamp)
      (entry : Store.Entry)
  | loadEntry (directory : String) (digest : UInt64) (stamp : Store.Stamp)
  | removeEntry (directory : String) (digest : UInt64)
  | readIndex (directory : String)
  | writeIndex (directory : String) (digests : List UInt64)
  | list
  | writeFile (path : String) (bytes : List UInt8)
  | makeDirectory (path : String)
  | removeFile (path : String)
  | copyFile (path target : String)
  /-- Replaces bytes of a file; a negative position counts from the end. -/
  | editFile (path : String) (position : Int) (cut : Nat) (bytes : List UInt8)

/-- What a step results in. -/
inductive StepResult where
  | done
  /-- What the step is about is not there. -/
  | absent
  | started (settings : Cache.Settings)
  | found (answer : Cache.Answer)
  | buildFailed (error : BuildError)
  | uploaded (count : Nat)
  | uniforms (locations : Locations)
  | live (shaders : List ShaderId) (programs : List ProgramId)
  | linked (program : LinkedProgram)
  | restored (program : LinkedProgram)
  | entry (entry : Store.Entry)
  | storeFailed (error : Store.StoreError)
  | fileFailed
  | digests (digests : List UInt64)
  | listing (nodes : List (Path × Node))

/-- A device, a cache, a linker and files. -/
structure Session where
  /-- The directory that all directories of the session are below. -/
  root : String
  device : SimulatedDevice
  cache : Option Cache
  linker : Option Linker
  constants : Constants
  tree : FileTree

/-- What a step leaves. -/
structure Stepped where
  session : Session
  result : StepResult
  logs : List String := []

namespace Session

/-- A session with an empty root directory. -/
def new (root : String) : Session where
  root
  device := { vendor := "" }
  cache := none
  linker := none
  constants := Vector.replicate constantCount (Vector.replicate 4 ⟨0⟩)
  tree := (FileTree.empty.makeDirectories (Path.ofText root)).2

/-- The text of a path below the root directory. -/
def pathText (session : Session) (relative : String) : String :=
  Path.join session.root [relative]

/-- The path of a file below the root directory. -/
def path (session : Session) (relative : String) : Path :=
  Path.ofFileText (session.pathText relative)

/-- Carries out what an operation on the cache asks for. -/
def perform (session : Session) (cache : Cache) (effects : List Cache.Effect) :
    Cache.Performed :=
  Cache.performAll (cache.settings.directory.getD "") cache.stamp effects
    session.tree

/-- The session after an operation on the cache. -/
def settle
    (session : Session) (outcome : Cache.Outcome SimulatedDevice)
    (performed : Cache.Performed) :
    Session :=
  { session with
    cache := some outcome.cache
    device := outcome.host
    tree := performed.tree }

/-- Starts a cache on a new device. -/
def start (session : Session) (vendor : String) (settings : Cache.Settings) :
    Stepped :=
  let settings :=
    { settings with directory := settings.directory.map session.pathText }
  let (cache, tree) := Cache.start settings vendor session.tree
  ⟨{ session with device := { vendor }, cache := some cache, tree },
    .started settings, []⟩

/-- Gets the program of a configuration. -/
def lookup (session : Session) (state : PipelineState) : Stepped :=
  match session.cache with
  | none => ⟨session, .absent, []⟩
  | some cache =>
      let looked := cache.lookup session.device state
      let performed := session.perform looked.cache looked.effects
      ⟨session.settle looked.toOutcome performed,
        match looked.answer with
        | .ok answer => .found answer
        | .error error => .buildFailed error,
        performed.reports.map Cache.Report.text⟩

/-- Evicts all programs and writes the index. -/
def flush (session : Session) : Stepped :=
  match session.cache with
  | none => ⟨session, .absent, []⟩
  | some cache =>
      let flushed := cache.flush session.device
      let performed := session.perform flushed.cache flushed.effects
      ⟨session.settle flushed performed,
        if performed.published then .done else .fileFailed,
        performed.reports.map Cache.Report.text⟩

/-- Sets constants. -/
def setConstants (constants : Constants) (changes : List (Nat × Constant)) :
    Constants :=
  changes.foldl
    (fun constants (index, value) => constants.setIfInBounds index value)
    constants

/-- Uploads the constants to a program in the cache. -/
def upload
    (session : Session) (digest : UInt64)
    (changes : List (Nat × Constant)) (force : Bool) :
    Stepped :=
  let constants := setConstants session.constants changes
  let session := { session with constants }
  match session.cache with
  | none => ⟨session, .absent, []⟩
  | some cache =>
      match cache.linked? digest with
      | none => ⟨session, .absent, []⟩
      | some linked =>
          let (count, linked, device) :=
            linked.upload session.device constants force
          let cache := cache.updateLinked digest fun _ => linked
          ⟨{ session with cache := some cache, device },
            .uploaded count, []⟩

/-- Has a program in the cache forget which constants the device holds. -/
def invalidate (session : Session) (digest : UInt64) : Stepped :=
  match session.cache with
  | none => ⟨session, .absent, []⟩
  | some cache =>
      match cache.linked? digest with
      | none => ⟨session, .absent, []⟩
      | some _ =>
          let cache := cache.updateLinked digest LinkedProgram.invalidate
          ⟨{ session with cache := some cache }, .done, []⟩

/-- The locations of the uniforms of a program in the cache. -/
def uniforms (session : Session) (digest : UInt64) : StepResult :=
  match session.cache.bind fun cache => cache.linked? digest with
  | none => .absent
  | some linked => .uniforms linked.locations

/-- Builds a program without a cache. -/
def assemble (session : Session) (state : PipelineState) : Stepped :=
  match session.linker with
  | none => ⟨session, .absent, []⟩
  | some linker =>
      let built := linker.assemble session.device state
      ⟨{ session with linker := some built.linker, device := built.host },
        match built.result with
        | .ok linked => .linked linked
        | .error error => .buildFailed error,
        built.reports.map BuildReport.text⟩

/-- Recreates a program without a cache. -/
def restore
    (session : Session) (state : PipelineState) (binary : ProgramBinary) :
    Stepped :=
  let (restored, device) := Linker.restore session.device state binary
  ⟨{ session with device },
    match restored with
    | some linked => .restored linked
    | none => .absent, []⟩

/-- Deletes the shader objects of the linker. -/
def clear (session : Session) : Stepped :=
  match session.linker with
  | none => ⟨session, .absent, []⟩
  | some linker =>
      let (linker, device) := linker.clear session.device
      ⟨{ session with linker := some linker, device }, .done, []⟩

/-! ## Files -/

/-- What changing a file leaves. -/
def changeFiles (session : Session) (changed : Except FileError FileTree) :
    Stepped :=
  match changed with
  | .ok tree => ⟨{ session with tree }, .done, []⟩
  | .error _ => ⟨session, .fileFailed, []⟩

/-- What an operation leaves that may change files and fail all the same. -/
def settleFiles
    (session : Session) (outcome : Except FileError Unit × FileTree) :
    Stepped :=
  ⟨{ session with tree := outcome.2 },
    match outcome.1 with
    | .ok () => .done
    | .error _ => .fileFailed, []⟩

/-- Writes a file and makes the directories above it. -/
def writeFile (session : Session) (path : Path) (bytes : List UInt8) :
    Stepped :=
  match session.tree.makeDirectories path.plain.dropLast with
  | (.error error, tree) => session.settleFiles (.error error, tree)
  | (.ok (), tree) => { session with tree }.changeFiles (tree.write path bytes)

/-- Replaces bytes. -/
def splice
    (content : List UInt8) (position : Int) (cut : Nat)
    (bytes : List UInt8) :
    List UInt8 :=
  let start := if position < 0 then content.length + position else position
  let start := start.toNat
  content.take start ++ bytes ++ content.drop (start + cut)

/-- Changes the content of a file. -/
def rewriteFile
    (session : Session) (path : Path)
    (change : List UInt8 → List UInt8) :
    Stepped :=
  session.changeFiles do
    let content ← session.tree.read path
    session.tree.write path (change content)

/-- Writes an entry. -/
def writeEntry
    (session : Session) (directory : String) (digest : UInt64)
    (stamp : Store.Stamp) (entry : Store.Entry) :
    Stepped :=
  let (written, tree) :=
    Store.write (session.pathText directory) digest stamp entry session.tree
  ⟨{ session with tree },
    match written with
    | .ok () => .done
    | .error error => .storeFailed error, []⟩

/-! ## Steps -/

/-- Carries out a step. -/
def step (session : Session) : Step → Stepped
  | .start vendor settings => session.start vendor settings
  | .close => ⟨{ session with cache := none, linker := none }, .done, []⟩
  | .lookup state => session.lookup state
  | .flush => session.flush
  | .upload digest changes force => session.upload digest changes force
  | .invalidate digest => session.invalidate digest
  | .uniforms digest => ⟨session, session.uniforms digest, []⟩
  | .switches change =>
      let switches := change session.device.switches
      ⟨{ session with device := { session.device with switches } }, .done, []⟩
  | .live =>
      ⟨session,
        .live (session.device.shaders.map Prod.fst)
          (session.device.programs.map Prod.fst), []⟩
  | .startLinker capacity fallback =>
      ⟨{ session with
          device := { vendor := "" }
          linker := some (.new capacity fallback) }, .done, []⟩
  | .assemble state => session.assemble state
  | .restore state binary => session.restore state binary
  | .clear => session.clear
  | .writeEntry directory digest stamp entry =>
      session.writeEntry directory digest stamp entry
  | .loadEntry directory digest stamp =>
      ⟨session,
        match Store.load (session.pathText directory) digest stamp
          session.tree with
        | .ok entry => .entry entry
        | .error error => .storeFailed error, []⟩
  | .removeEntry directory digest =>
      session.changeFiles
        (Store.remove (session.pathText directory) digest session.tree)
  | .readIndex directory =>
      ⟨session,
        match Store.readIndex (session.pathText directory) session.tree with
        | .ok digests => .digests digests
        | .error error => .storeFailed error, []⟩
  | .writeIndex directory digests =>
      session.settleFiles
        (Store.writeIndex (session.pathText directory) digests session.tree)
  | .list =>
      ⟨session, .listing (session.tree.below (Path.ofText session.root)), []⟩
  | .writeFile path bytes => session.writeFile (session.path path) bytes
  | .makeDirectory path =>
      session.settleFiles
        (session.tree.makeDirectories (Path.ofText (session.pathText path)))
  | .removeFile path =>
      session.changeFiles (session.tree.remove (session.path path))
  | .copyFile path target =>
      session.changeFiles
        (session.tree.copy (session.path path) (session.path target))
  | .editFile path position cut bytes =>
      session.rewriteFile (session.path path) fun content =>
        splice content position cut bytes

/-- The events of a step; of many uploads, only some at both ends are kept. -/
def abridged (events : List DeviceEvent) : List DeviceEvent :=
  if 24 < events.length then
    events.take 2 ++ events.drop (events.length - 2)
  else events

/-- Carries out a step, with what the device was asked to do meanwhile. -/
def run (session : Session) (step : Step) : Stepped × List DeviceEvent :=
  let device := { session.device with events := [] }
  let stepped := { session with device }.step step
  let events := stepped.session.device.events.reverse
  (stepped,
    match step with
    | .upload .. => abridged events
    | _ => events)

end Session

end ShaderSynth
