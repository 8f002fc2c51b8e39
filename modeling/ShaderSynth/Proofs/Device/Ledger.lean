import Mathlib.Data.List.Nodup
import ShaderSynth.Linker

/-!
# Objects on record

What becomes of the objects of a device can be read off a ledger, in which it
is entered when an object is handed out and when it is deleted.  A ledger is
settled with somebody who holds objects if these are the ones that are left,
and no object has been handed out or deleted twice.

`RecordedDevice` says which entries the operations of a device make.  All that
is asked of such a device is that it hands out fresh objects; it may fail in
any way.
-/

namespace ShaderSynth

/-! ## Ledgers -/

/-- What happens to an object. -/
inductive Posting (object : Type) where
  | issue (item : object)
  | delete (item : object)

/-- What happened to the objects of a device, the last first. -/
abbrev Ledger (object : Type) := List (Posting object)

namespace Ledger

variable {object : Type} [DecidableEq object]

/-- The objects that were ever handed out. -/
def issued : Ledger object → List object
  | [] => []
  | .issue item :: rest => item :: issued rest
  | .delete _ :: rest => issued rest

/-- The objects that were deleted, each as often as it was. -/
def deleted : Ledger object → List object
  | [] => []
  | .issue _ :: rest => deleted rest
  | .delete item :: rest => item :: deleted rest

/-- The objects that are there. -/
def live : Ledger object → List object
  | [] => []
  | .issue item :: rest => item :: live rest
  | .delete item :: rest => (live rest).filter (· ≠ item)

/-- Just the objects that are held are there, and each had one life. -/
structure Settled (ledger : Ledger object) (held : List object) : Prop where
  fresh : ledger.issued.Nodup
  balanced : ledger.issued.Perm (held ++ ledger.deleted)
  live : ledger.live.Perm held

namespace Settled

variable {ledger : Ledger object} {held : List object} {item : object}

theorem empty : Settled ([] : Ledger object) [] where
  fresh := List.nodup_nil
  balanced := List.Perm.refl []
  live := List.Perm.refl []

/-- An object that is handed out is held from then on. -/
theorem issue (settled : Settled ledger held) (new : item ∉ ledger.issued) :
    Settled (.issue item :: ledger) (item :: held) where
  fresh := List.nodup_cons.mpr ⟨new, settled.fresh⟩
  balanced := settled.balanced.cons item
  live := settled.live.cons item

/-- The order in which objects are held does not matter. -/
theorem perm
    {others : List object}
    (settled : Settled ledger held) (same : held.Perm others) :
    Settled ledger others where
  fresh := settled.fresh
  balanced := settled.balanced.trans (same.append_right _)
  live := settled.live.trans same

theorem nodup_append (settled : Settled ledger held) :
    (held ++ ledger.deleted).Nodup :=
  settled.balanced.nodup_iff.mp settled.fresh

theorem nodup_held (settled : Settled ledger held) : held.Nodup :=
  settled.nodup_append.of_append_left

theorem nodup_deleted (settled : Settled ledger held) :
    ledger.deleted.Nodup :=
  settled.nodup_append.of_append_right

/-- An object that is held may be deleted. -/
theorem delete (settled : Settled ledger (item :: held)) :
    Settled (.delete item :: ledger) held where
  fresh := settled.fresh
  balanced := settled.balanced.trans List.perm_middle.symm
  live := by
    have single : item ∉ held :=
      (List.nodup_cons.mp settled.nodup_held).1
    have kept : (item :: held).filter (· ≠ item) = held := by
      rw [List.filter_cons_of_neg (by simp), List.filter_eq_self]
      intro other member
      exact decide_eq_true (ne_of_mem_of_not_mem member single)
    have left := settled.live.filter (· ≠ item)
    rwa [kept] at left

theorem live_eq_nil (settled : Settled ledger []) : ledger.live = [] :=
  settled.live.eq_nil

end Settled

end Ledger

/-! ## Devices -/

/-- The ledgers of a device. -/
structure Accounts where
  shaders : Ledger ShaderId
  programs : Ledger ProgramId

namespace Accounts

/-- An entry on a shader object. -/
def postShader (accounts : Accounts) (posting : Posting ShaderId) : Accounts :=
  { accounts with shaders := posting :: accounts.shaders }

/-- An entry on a program object. -/
def postProgram (accounts : Accounts) (posting : Posting ProgramId) :
    Accounts :=
  { accounts with programs := posting :: accounts.programs }

end Accounts

/-- A device whose objects are on record, and which hands out fresh ones. -/
class RecordedDevice (device : Type) [Device device] where
  accounts : device → Accounts
  /-- The states that the device can be in. -/
  Possible : device → Prop
  compile_issues :
    ∀ {host after : device} {stage : StageKind} {source : String}
      {shader : ShaderId},
      Possible host →
        Device.compile host stage source = (.ok shader, after) →
          Possible after ∧
            shader ∉ (accounts host).shaders.issued ∧
            accounts after = (accounts host).postShader (.issue shader)
  compile_silent :
    ∀ {host after : device} {stage : StageKind} {source log : String},
      Possible host →
        Device.compile host stage source = (.error log, after) →
          Possible after ∧ accounts after = accounts host
  deleteShader_posts :
    ∀ {host : device} (shader : ShaderId),
      Possible host →
        Possible (Device.deleteShader host shader) ∧
          accounts (Device.deleteShader host shader) =
            (accounts host).postShader (.delete shader)
  link_issues :
    ∀ {host after : device} {shaders : List ShaderId} {program : ProgramId},
      Possible host →
        Device.link host shaders = (.ok program, after) →
          Possible after ∧
            program ∉ (accounts host).programs.issued ∧
            accounts after = (accounts host).postProgram (.issue program)
  link_silent :
    ∀ {host after : device} {shaders : List ShaderId} {log : String},
      Possible host →
        Device.link host shaders = (.error log, after) →
          Possible after ∧ accounts after = accounts host
  deleteProgram_posts :
    ∀ {host : device} (program : ProgramId),
      Possible host →
        Possible (Device.deleteProgram host program) ∧
          accounts (Device.deleteProgram host program) =
            (accounts host).postProgram (.delete program)
  location_silent :
    ∀ {host : device} (program : ProgramId) (name : String),
      Possible host →
        Possible (Device.location host program name).2 ∧
          accounts (Device.location host program name).2 = accounts host
  setSampler_silent :
    ∀ {host : device} (program : ProgramId) (location : Location)
      (unit : Nat),
      Possible host →
        Possible (Device.setSampler host program location unit) ∧
          accounts (Device.setSampler host program location unit) =
            accounts host
  binary_silent :
    ∀ {host : device} (program : ProgramId),
      Possible host →
        Possible (Device.binary host program).2 ∧
          accounts (Device.binary host program).2 = accounts host
  ofBinary_issues :
    ∀ {host after : device} {binary : ProgramBinary} {program : ProgramId},
      Possible host →
        Device.ofBinary host binary = (some program, after) →
          Possible after ∧
            program ∉ (accounts host).programs.issued ∧
            accounts after = (accounts host).postProgram (.issue program)
  ofBinary_silent :
    ∀ {host after : device} {binary : ProgramBinary},
      Possible host →
        Device.ofBinary host binary = (none, after) →
          Possible after ∧ accounts after = accounts host

/-! ## What is held of a device -/

open RecordedDevice (accounts Possible)

variable {device : Type} [Device device] [RecordedDevice device]

/-- Just these objects of the device are there, and somebody holds them. -/
structure Holds
    (host : device) (shaders : List ShaderId) (programs : List ProgramId) :
    Prop where
  possible : Possible host
  shaders : (accounts host).shaders.Settled shaders
  programs : (accounts host).programs.Settled programs

namespace Holds

variable {host after : device} {shaders : List ShaderId}
  {programs : List ProgramId}

theorem unused
    (possible : Possible host) (empty : accounts host = ⟨[], []⟩) :
    Holds host [] [] where
  possible := possible
  shaders := empty ▸ Ledger.Settled.empty
  programs := empty ▸ Ledger.Settled.empty

theorem perm
    {otherShaders : List ShaderId} {otherPrograms : List ProgramId}
    (holds : Holds host shaders programs)
    (sameShaders : shaders.Perm otherShaders)
    (samePrograms : programs.Perm otherPrograms) :
    Holds host otherShaders otherPrograms where
  possible := holds.possible
  shaders := holds.shaders.perm sameShaders
  programs := holds.programs.perm samePrograms

/-- An operation that makes no entry. -/
theorem silent
    (holds : Holds host shaders programs)
    (done : Possible after ∧ accounts after = accounts host) :
    Holds after shaders programs where
  possible := done.1
  shaders := done.2 ▸ holds.shaders
  programs := done.2 ▸ holds.programs

theorem issueShader
    {shader : ShaderId}
    (holds : Holds host shaders programs)
    (done :
      Possible after ∧
        shader ∉ (accounts host).shaders.issued ∧
        accounts after = (accounts host).postShader (.issue shader)) :
    Holds after (shader :: shaders) programs := by
  obtain ⟨possible, fresh, posted⟩ := done
  refine ⟨possible, ?_, ?_⟩
  · rw [posted]
    exact holds.shaders.issue fresh
  · rw [posted]
    exact holds.programs

theorem issueProgram
    {program : ProgramId}
    (holds : Holds host shaders programs)
    (done :
      Possible after ∧
        program ∉ (accounts host).programs.issued ∧
        accounts after = (accounts host).postProgram (.issue program)) :
    Holds after shaders (program :: programs) := by
  obtain ⟨possible, fresh, posted⟩ := done
  refine ⟨possible, ?_, ?_⟩
  · rw [posted]
    exact holds.shaders
  · rw [posted]
    exact holds.programs.issue fresh

theorem deleteShader
    {shader : ShaderId} (holds : Holds host (shader :: shaders) programs) :
    Holds (Device.deleteShader host shader) shaders programs := by
  obtain ⟨possible, posted⟩ :=
    RecordedDevice.deleteShader_posts shader holds.possible
  refine ⟨possible, ?_, ?_⟩
  · rw [posted]
    exact holds.shaders.delete
  · rw [posted]
    exact holds.programs

theorem deleteProgram
    {program : ProgramId} (holds : Holds host shaders (program :: programs)) :
    Holds (Device.deleteProgram host program) shaders programs := by
  obtain ⟨possible, posted⟩ :=
    RecordedDevice.deleteProgram_posts program holds.possible
  refine ⟨possible, ?_, ?_⟩
  · rw [posted]
    exact holds.shaders
  · rw [posted]
    exact holds.programs.delete

theorem deleteShaders
    (unwanted : List ShaderId) (holds : Holds host unwanted programs) :
    Holds (unwanted.foldl Device.deleteShader host) [] programs := by
  induction unwanted generalizing host with
  | nil => exact holds
  | cons first rest ih => exact ih holds.deleteShader

theorem binary (program : ProgramId) (holds : Holds host shaders programs) :
    Holds (Device.binary host program).2 shaders programs :=
  holds.silent (RecordedDevice.binary_silent program holds.possible)

end Holds

end ShaderSynth
