import ShaderSynth.Device.Simulated
import ShaderSynth.Proofs.Device.Ledger

/-!
# The simulated device is on record

The events of a simulated device are its ledgers, and agree with the objects
in its tables.  It hands out objects by counting, so they are fresh.
-/

namespace ShaderSynth.SimulatedDevice

/-- The entry that an event makes on a shader object. -/
def shaderPosting? : DeviceEvent → Option (Posting ShaderId)
  | .compile _ _ (some shader) => some (.issue shader)
  | .deleteShader shader => some (.delete shader)
  | _ => none

/-- The entry that an event makes on a program object. -/
def programPosting? : DeviceEvent → Option (Posting ProgramId)
  | .link _ (some program) => some (.issue program)
  | .ofBinary _ _ (some program) => some (.issue program)
  | .deleteProgram program => some (.delete program)
  | _ => none

/-- The ledgers of a device. -/
def accounts (host : SimulatedDevice) : Accounts where
  shaders := host.events.filterMap shaderPosting?
  programs := host.events.filterMap programPosting?

/-- The ledgers agree with the counter and the tables of a device. -/
structure Coherent (host : SimulatedDevice) : Prop where
  shaderIds :
    ∀ shader ∈ host.accounts.shaders.issued, shader.value ≤ host.made
  programIds :
    ∀ program ∈ host.accounts.programs.issued, program.value ≤ host.made
  shaders : (host.shaders.map Prod.fst).Perm host.accounts.shaders.live
  programs : (host.programs.map Prod.fst).Perm host.accounts.programs.live

namespace Coherent

variable {host : SimulatedDevice}

theorem new (vendor : String) (switches : Switches) :
    Coherent { vendor, switches } where
  shaderIds := by simp [accounts, Ledger.issued]
  programIds := by simp [accounts, Ledger.issued]
  shaders := List.Perm.refl []
  programs := List.Perm.refl []

/-- A failure, or a question, is recorded. -/
theorem recordOther
    {event : DeviceEvent} (coherent : host.Coherent)
    (noShader : shaderPosting? event = none)
    (noProgram : programPosting? event = none) :
    (host.record event).Coherent ∧
      (host.record event).accounts = host.accounts := by
  have same : (host.record event).accounts = host.accounts := by
    simp [accounts, record, noShader, noProgram]
  refine ⟨⟨?_, ?_, ?_, ?_⟩, same⟩
  all_goals rw [same]
  · exact coherent.shaderIds
  · exact coherent.programIds
  · exact coherent.shaders
  · exact coherent.programs

/-- How the device fails and where uniforms are does not matter. -/
theorem adjust
    (switches : Switches) (uniforms : List String)
    (coherent : host.Coherent) :
    { host with switches, uniforms }.Coherent :=
  ⟨coherent.shaderIds, coherent.programIds, coherent.shaders,
    coherent.programs⟩

theorem addShader
    {event : DeviceEvent} (source : String) (coherent : host.Coherent)
    (issues : shaderPosting? event = some (.issue ⟨host.made + 1⟩))
    (noProgram : programPosting? event = none) :
    let after :=
      { host with
        made := host.made + 1
        shaders :=
          host.shaders ++ [(ShaderId.mk (host.made + 1), source)] }.record
            event
    after.Coherent ∧
      ⟨host.made + 1⟩ ∉ host.accounts.shaders.issued ∧
      after.accounts =
        host.accounts.postShader (.issue ⟨host.made + 1⟩) := by
  intro after
  have posted :
      after.accounts =
        host.accounts.postShader (.issue ⟨host.made + 1⟩) := by
    simp [after, accounts, record, issues, noProgram, Accounts.postShader]
  have fresh : ⟨host.made + 1⟩ ∉ host.accounts.shaders.issued := by
    intro issued
    exact absurd (coherent.shaderIds _ issued) (Nat.not_succ_le_self _)
  refine ⟨⟨?_, ?_, ?_, ?_⟩, fresh, posted⟩
  all_goals rw [posted]
  · intro shader member
    rcases List.mem_cons.mp member with rfl | known
    · exact Nat.le_refl _
    · exact Nat.le_succ_of_le (coherent.shaderIds shader known)
  · intro program known
    exact Nat.le_succ_of_le (coherent.programIds program known)
  · show ((host.shaders ++ [_]).map Prod.fst).Perm (_ :: _)
    rw [List.map_append]
    exact (List.perm_append_singleton _ _).trans (coherent.shaders.cons _)
  · exact coherent.programs

theorem addProgram
    {event : DeviceEvent} (sources : List String) (coherent : host.Coherent)
    (noShader : shaderPosting? event = none)
    (issues : programPosting? event = some (.issue ⟨host.made + 1⟩)) :
    let after := (host.addProgram sources).2.record event
    after.Coherent ∧
      ⟨host.made + 1⟩ ∉ host.accounts.programs.issued ∧
      after.accounts =
        host.accounts.postProgram (.issue ⟨host.made + 1⟩) := by
  intro after
  have posted :
      after.accounts =
        host.accounts.postProgram (.issue ⟨host.made + 1⟩) := by
    simp [after, accounts, record, SimulatedDevice.addProgram, issues,
      noShader, Accounts.postProgram]
  have fresh : ⟨host.made + 1⟩ ∉ host.accounts.programs.issued := by
    intro issued
    exact absurd (coherent.programIds _ issued) (Nat.not_succ_le_self _)
  refine ⟨⟨?_, ?_, ?_, ?_⟩, fresh, posted⟩
  all_goals rw [posted]
  · intro shader known
    exact Nat.le_succ_of_le (coherent.shaderIds shader known)
  · intro program member
    rcases List.mem_cons.mp member with rfl | known
    · exact Nat.le_refl _
    · exact Nat.le_succ_of_le (coherent.programIds program known)
  · exact coherent.shaders
  · show ((host.programs ++ [_]).map Prod.fst).Perm (_ :: _)
    rw [List.map_append]
    exact (List.perm_append_singleton _ _).trans (coherent.programs.cons _)

theorem deleteShader (shader : ShaderId) (coherent : host.Coherent) :
    (host.deleteShader shader).Coherent ∧
      (host.deleteShader shader).accounts =
        host.accounts.postShader (.delete shader) := by
  refine
    ⟨⟨coherent.shaderIds, coherent.programIds, ?_, coherent.programs⟩, rfl⟩
  have left := coherent.shaders.filter (· ≠ shader)
  rwa [List.filter_map] at left

theorem deleteProgram (program : ProgramId) (coherent : host.Coherent) :
    (host.deleteProgram program).Coherent ∧
      (host.deleteProgram program).accounts =
        host.accounts.postProgram (.delete program) := by
  refine
    ⟨⟨coherent.shaderIds, coherent.programIds, coherent.shaders, ?_⟩, rfl⟩
  have left := coherent.programs.filter (· ≠ program)
  rwa [List.filter_map] at left

end Coherent

instance : RecordedDevice SimulatedDevice where
  accounts := accounts
  Possible := Coherent
  compile_issues := by
    intro host after stage source shader coherent compiled
    simp only [Device.compile, compile] at compiled
    split at compiled
    · cases compiled
    · obtain ⟨rfl, rfl⟩ := by simpa using compiled
      exact coherent.addShader source rfl rfl
  compile_silent := by
    intro host after stage source log coherent failed
    simp only [Device.compile, compile] at failed
    split at failed
    · obtain ⟨-, rfl⟩ := by simpa using failed
      exact coherent.recordOther rfl rfl
    · cases failed
  deleteShader_posts := by
    intro host shader coherent
    exact coherent.deleteShader shader
  link_issues := by
    intro host after shaders program coherent linked
    simp only [Device.link, link] at linked
    split at linked
    · cases linked
    · split at linked
      · cases linked
      · obtain ⟨rfl, rfl⟩ := by simpa using linked
        exact coherent.addProgram _ rfl rfl
  link_silent := by
    intro host after shaders log coherent failed
    simp only [Device.link, link] at failed
    split at failed
    · obtain ⟨-, rfl⟩ := by simpa using failed
      exact (coherent.adjust _ host.uniforms).recordOther rfl rfl
    · split at failed
      · obtain ⟨-, rfl⟩ := by simpa using failed
        exact coherent.recordOther rfl rfl
      · cases failed
  deleteProgram_posts := by
    intro host program coherent
    exact coherent.deleteProgram program
  location_silent := by
    intro host program name coherent
    simp only [Device.location, location]
    split
    · split
      · exact ⟨coherent, rfl⟩
      · exact ⟨coherent.adjust host.switches _, rfl⟩
    · exact ⟨coherent, rfl⟩
  setSampler_silent := by
    intro host program location unit coherent
    exact coherent.recordOther rfl rfl
  binary_silent := by
    intro host program coherent
    exact coherent.recordOther rfl rfl
  ofBinary_issues := by
    intro host after binary program coherent recreated
    simp only [Device.ofBinary, ofBinary] at recreated
    split at recreated
    · cases recreated
    · obtain ⟨rfl, rfl⟩ := by simpa using recreated
      exact coherent.addProgram _ rfl rfl
  ofBinary_silent := by
    intro host after binary coherent rejected
    simp only [Device.ofBinary, ofBinary] at rejected
    split at rejected
    · obtain rfl := by simpa using rejected
      exact coherent.recordOther rfl rfl
    · cases rejected

/-- The tables of a device hold what is there. -/
theorem tables_perm
    {host : SimulatedDevice} (possible : RecordedDevice.Possible host) :
    (host.programs.map Prod.fst).Perm
        (RecordedDevice.accounts host).programs.live ∧
      (host.shaders.map Prod.fst).Perm
        (RecordedDevice.accounts host).shaders.live :=
  ⟨possible.programs, possible.shaders⟩

end ShaderSynth.SimulatedDevice
