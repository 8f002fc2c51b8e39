import Mathlib.Logic.Function.Basic
import ShaderSynth.Device.Simulated
import ShaderSynth.Proofs.Device.Ledger

/-!
# Devices under observation

Whoever drives a device can be told by the calls that they make.  A `Watched`
device does what the device in it does, and keeps a journal of the calls that
concern shader objects and uniforms.  It gives the answers of that device, so
whoever uses it goes on as they would without the journal.

A `RetentiveDevice` keeps the values of uniforms as they were uploaded.
-/

namespace ShaderSynth

/-- What a device is asked to do about shader objects and uniforms. -/
inductive Call where
  /-- A stage is compiled, to an object unless that fails. -/
  | compile (stage : StageKind) (source : String) (made : Option ShaderId)
  | deleteShader (shader : ShaderId)
  | link (shaders : List ShaderId)
  | upload (location : Location) (value : Constant)
deriving DecidableEq, Repr

/-- A device with a journal of the calls, the last first. -/
structure Watched (device : Type) where
  host : device
  journal : List Call

namespace Watched

variable {device : Type}

/-- A device that is watched from now on. -/
def new (host : device) : Watched device :=
  ⟨host, []⟩

/-- The device has gone on, and a call is entered. -/
def enter (watched : Watched device) (call : Call) (after : device) :
    Watched device :=
  ⟨after, call :: watched.journal⟩

/-- The device has gone on. -/
def proceed (watched : Watched device) (after : device) : Watched device :=
  ⟨after, watched.journal⟩

instance [Device device] : Device (Watched device) where
  vendor watched := Device.vendor watched.host
  compile watched stage source :=
    let (compiled, after) := Device.compile watched.host stage source
    (compiled, watched.enter (.compile stage source compiled.toOption) after)
  deleteShader watched shader :=
    watched.enter (.deleteShader shader)
      (Device.deleteShader watched.host shader)
  link watched shaders :=
    let (linked, after) := Device.link watched.host shaders
    (linked, watched.enter (.link shaders) after)
  deleteProgram watched program :=
    watched.proceed (Device.deleteProgram watched.host program)
  location watched program name :=
    let (location, after) := Device.location watched.host program name
    (location, watched.proceed after)
  setSampler watched program location unit :=
    watched.proceed (Device.setSampler watched.host program location unit)
  upload watched location value :=
    watched.enter (.upload location value)
      (Device.upload watched.host location value)
  binary watched program :=
    let (binary, after) := Device.binary watched.host program
    (binary, watched.proceed after)
  ofBinary watched binary :=
    let (program, after) := Device.ofBinary watched.host binary
    (program, watched.proceed after)

end Watched

/-! ## Shader objects in the journal -/

/-- The entry that a call makes on a shader object. -/
def Call.posting? : Call → Option (Posting ShaderId)
  | compile _ _ (some shader) => some (.issue shader)
  | deleteShader shader => some (.delete shader)
  | _ => none

/-- The ledger of shader objects that calls give. -/
def ledgerOf (journal : List Call) : Ledger ShaderId :=
  journal.filterMap Call.posting?

/-- The object that a call makes. -/
def Call.made? : Call → Option ShaderId
  | compile _ _ made => made
  | _ => none

theorem issued_ledgerOf (journal : List Call) :
    (ledgerOf journal).issued = journal.filterMap Call.made? := by
  induction journal with
  | nil => rfl
  | cons call rest ih =>
      cases call with
      | compile stage source made =>
          cases made with
          | none => exact ih
          | some shader => exact congrArg (List.cons shader) ih
      | deleteShader item => exact ih
      | link shaders => exact ih
      | upload location value => exact ih

/-- Where objects are handed out once, an object is made by one call. -/
theorem eq_of_made
    {journal : List Call} {first second : Call} {shader : ShaderId}
    (fresh : (ledgerOf journal).issued.Nodup)
    (entered : first ∈ journal) (made : first.made? = some shader)
    (enteredToo : second ∈ journal) (again : second.made? = some shader) :
    first = second := by
  rw [issued_ledgerOf] at fresh
  induction journal with
  | nil => cases entered
  | cons call rest ih =>
      have latest {other : Call} (earlier : other ∈ rest)
          (once : call.made? = some shader) :
          other.made? ≠ some shader := by
        intro twice
        rw [List.filterMap_cons_some once, List.nodup_cons] at fresh
        exact fresh.1 (List.mem_filterMap.mpr ⟨other, earlier, twice⟩)
      rcases List.mem_cons.mp entered with rfl | before
      · rcases List.mem_cons.mp enteredToo with rfl | earlier
        · rfl
        · exact absurd again (latest earlier made)
      · rcases List.mem_cons.mp enteredToo with rfl | earlier
        · exact absurd made (latest before again)
        · have fewer := (List.sublist_cons_self call rest).filterMap Call.made?
          exact ih (fresh.sublist fewer) before earlier

theorem deleteShader_mem_iff {journal : List Call} {shader : ShaderId} :
    Call.deleteShader shader ∈ journal ↔
      shader ∈ (ledgerOf journal).deleted := by
  induction journal with
  | nil => simp [ledgerOf, Ledger.deleted]
  | cons call rest ih =>
      unfold ledgerOf at ih ⊢
      rw [List.mem_cons, List.filterMap_cons, ih]
      cases call with
      | compile stage source made =>
          cases made <;> simp [Call.posting?, Ledger.deleted]
      | deleteShader item => simp [Call.posting?, Ledger.deleted]
      | link shaders => simp [Call.posting?]
      | upload location value => simp [Call.posting?]

namespace Watched

open RecordedDevice (accounts Possible)

variable {device : Type} [Device device] [RecordedDevice device]

/-- The journal has seen everything that happened to shader objects. -/
structure Seen (watched : Watched device) : Prop where
  possible : Possible watched.host
  ledger : (accounts watched.host).shaders = ledgerOf watched.journal

variable {watched : Watched device} {after : device}

theorem Seen.new {host : device}
    (possible : Possible host) (unused : accounts host = ⟨[], []⟩) :
    (Watched.new host).Seen where
  possible := possible
  ledger := by
    rw [Watched.new, unused]
    rfl

/-- A call that is entered as the device enters it. -/
theorem Seen.enter {call : Call}
    (seen : watched.Seen) (possible : Possible after)
    (posted :
      (accounts after).shaders =
        call.posting?.toList ++ (accounts watched.host).shaders) :
    (watched.enter call after).Seen where
  possible := possible
  ledger := by
    rw [Watched.enter, posted, seen.ledger, ledgerOf, ledgerOf,
      List.filterMap_cons]
    cases call.posting? <;> rfl

theorem Seen.proceed
    (seen : watched.Seen) (possible : Possible after)
    (same : (accounts after).shaders = (accounts watched.host).shaders) :
    (watched.proceed after).Seen where
  possible := possible
  ledger := same.trans seen.ledger

/-- A device hands out fresh objects whether it is watched or not. -/
instance : RecordedDevice (Watched device) where
  accounts watched := accounts watched.host
  Possible := Seen
  compile_issues := by
    intro watched later stage source shader seen compiled
    cases called : Device.compile watched.host stage source with
    | mk result after =>
        obtain ⟨rfl, rfl⟩ : result = .ok shader ∧ _ = later := by
          simpa [Device.compile, called] using compiled
        obtain ⟨possible, fresh, posted⟩ :=
          RecordedDevice.compile_issues seen.possible called
        exact ⟨seen.enter possible (by rw [posted]; rfl), fresh, posted⟩
  compile_silent := by
    intro watched later stage source log seen failed
    cases called : Device.compile watched.host stage source with
    | mk result after =>
        obtain ⟨rfl, rfl⟩ : result = .error log ∧ _ = later := by
          simpa [Device.compile, called] using failed
        obtain ⟨possible, same⟩ :=
          RecordedDevice.compile_silent seen.possible called
        exact ⟨seen.enter possible (by rw [same]; rfl), same⟩
  deleteShader_posts := by
    intro watched shader seen
    obtain ⟨possible, posted⟩ :=
      RecordedDevice.deleteShader_posts shader seen.possible
    exact ⟨seen.enter possible (by rw [posted]; rfl), posted⟩
  link_issues := by
    intro watched later shaders program seen linked
    cases called : Device.link watched.host shaders with
    | mk result after =>
        obtain ⟨rfl, rfl⟩ : result = .ok program ∧ _ = later := by
          simpa [Device.link, called] using linked
        obtain ⟨possible, fresh, posted⟩ :=
          RecordedDevice.link_issues seen.possible called
        exact ⟨seen.enter possible (by rw [posted]; rfl), fresh, posted⟩
  link_silent := by
    intro watched later shaders log seen failed
    cases called : Device.link watched.host shaders with
    | mk result after =>
        obtain ⟨rfl, rfl⟩ : result = .error log ∧ _ = later := by
          simpa [Device.link, called] using failed
        obtain ⟨possible, same⟩ :=
          RecordedDevice.link_silent seen.possible called
        exact ⟨seen.enter possible (by rw [same]; rfl), same⟩
  deleteProgram_posts := by
    intro watched program seen
    obtain ⟨possible, posted⟩ :=
      RecordedDevice.deleteProgram_posts program seen.possible
    exact ⟨seen.proceed possible (by rw [posted]; rfl), posted⟩
  location_silent := by
    intro watched program name seen
    obtain ⟨possible, same⟩ :=
      RecordedDevice.location_silent program name seen.possible
    exact ⟨seen.proceed possible (by rw [same]), same⟩
  setSampler_silent := by
    intro watched program location unit seen
    obtain ⟨possible, same⟩ :=
      RecordedDevice.setSampler_silent program location unit seen.possible
    exact ⟨seen.proceed possible (by rw [same]), same⟩
  binary_silent := by
    intro watched program seen
    obtain ⟨possible, same⟩ :=
      RecordedDevice.binary_silent program seen.possible
    exact ⟨seen.proceed possible (by rw [same]), same⟩
  ofBinary_issues := by
    intro watched later binary program seen recreated
    cases called : Device.ofBinary watched.host binary with
    | mk result after =>
        obtain ⟨rfl, rfl⟩ : result = some program ∧ _ = later := by
          simpa [Device.ofBinary, called] using recreated
        obtain ⟨possible, fresh, posted⟩ :=
          RecordedDevice.ofBinary_issues seen.possible called
        exact ⟨seen.proceed possible (by rw [posted]; rfl), fresh, posted⟩
  ofBinary_silent := by
    intro watched later binary seen rejected
    cases called : Device.ofBinary watched.host binary with
    | mk result after =>
        obtain ⟨rfl, rfl⟩ : result = none ∧ _ = later := by
          simpa [Device.ofBinary, called] using rejected
        obtain ⟨possible, same⟩ :=
          RecordedDevice.ofBinary_silent seen.possible called
        exact ⟨seen.proceed possible (by rw [same]), same⟩

end Watched

/-! ## Values of uniforms -/

/-- A device that holds what was uploaded last to each location. -/
class RetentiveDevice (device : Type) extends Device device where
  /-- What the device holds at a location. -/
  value : device → Location → Constant
  value_upload :
    ∀ (host : device) (location : Location) (new : Constant),
      value (Device.upload host location new) =
        Function.update (value host) location new

instance {device : Type} [RetentiveDevice device] :
    RetentiveDevice (Watched device) where
  value watched := RetentiveDevice.value watched.host
  value_upload watched := RetentiveDevice.value_upload watched.host

/-- What a simulated device was given last for a location. -/
def SimulatedDevice.value (host : SimulatedDevice) (location : Location) :
    Constant :=
  (host.events.findSome? fun
    | .upload place value => if place = location then some value else none
    | _ => none).getD default

instance : RetentiveDevice SimulatedDevice where
  value := SimulatedDevice.value
  value_upload host location new := by
    funext place
    by_cases same : place = location
    · subst same
      simp [SimulatedDevice.value, Device.upload, SimulatedDevice.record]
    · rw [Function.update_of_ne same]
      simp [SimulatedDevice.value, Device.upload, SimulatedDevice.record,
        Ne.symm same]

end ShaderSynth
