import Mathlib.Data.List.Forall2
import ShaderSynth.Device.Interface

/-!
# Devices that keep their promises

`Holdings` is what a program cache may rely on in a device: which objects
there are, what they were made from, and which shader objects have ever been
handed out.  `LawfulDevice` says how each operation changes the holdings.  A
lawful device may fail to compile, to link or to recreate a program whenever
it likes, but it never hands out a shader object twice, never confuses
sources, and links no object that has been deleted.
-/

namespace ShaderSynth

/-- What a device holds. -/
@[ext]
structure Holdings where
  /-- The sources of the shader objects. -/
  shaders : ShaderId → Option String
  /-- The sources of the program objects, in the order of the stages. -/
  programs : ProgramId → Option (List String)
  /-- The shader objects that were ever handed out. -/
  issued : ShaderId → Prop
  /-- How often something was to be compiled or linked. -/
  builds : Nat

namespace Holdings

/-- A shader object is handed out. -/
def addShader (holdings : Holdings) (shader : ShaderId) (source : String) :
    Holdings :=
  { holdings with
    shaders := fun other =>
      if other = shader then some source else holdings.shaders other
    issued := fun other => other = shader ∨ holdings.issued other }

/-- A shader object is deleted. -/
def removeShader (holdings : Holdings) (shader : ShaderId) : Holdings :=
  { holdings with
    shaders := fun other =>
      if other = shader then none else holdings.shaders other }

/-- A program object is handed out. -/
def addProgram
    (holdings : Holdings) (program : ProgramId) (sources : List String) :
    Holdings :=
  { holdings with
    programs := fun other =>
      if other = program then some sources else holdings.programs other }

/-- A program object is deleted. -/
def removeProgram (holdings : Holdings) (program : ProgramId) : Holdings :=
  { holdings with
    programs := fun other =>
      if other = program then none else holdings.programs other }

/-- Something was to be compiled or linked. -/
def countBuild (holdings : Holdings) : Holdings :=
  { holdings with builds := holdings.builds + 1 }

end Holdings

/-- A device whose operations change what it holds as they should. -/
class LawfulDevice (device : Type) [Device device] where
  /-- What the device holds. -/
  holdings : device → Holdings
  /-- The sources of the program in a binary, where they are known. -/
  contents : ProgramBinary → Option (List String)
  compile_ok :
    ∀ {host after : device} {stage : StageKind} {source : String}
      {shader : ShaderId},
      Device.compile host stage source = (.ok shader, after) →
        ¬ (holdings host).issued shader ∧
          holdings after =
            ((holdings host).addShader shader source).countBuild
  compile_error :
    ∀ {host after : device} {stage : StageKind} {source log : String},
      Device.compile host stage source = (.error log, after) →
        holdings after = (holdings host).countBuild
  holdings_deleteShader :
    ∀ (host : device) (shader : ShaderId),
      holdings (Device.deleteShader host shader) =
        (holdings host).removeShader shader
  /-- Only objects that are there are linked, and in the order given. -/
  link_ok :
    ∀ {host after : device} {shaders : List ShaderId} {program : ProgramId},
      Device.link host shaders = (.ok program, after) →
        (holdings host).programs program = none ∧
          ∃ sources : List String,
            shaders.map (holdings host).shaders = sources.map some ∧
              holdings after =
                ((holdings host).addProgram program sources).countBuild
  link_error :
    ∀ {host after : device} {shaders : List ShaderId} {log : String},
      Device.link host shaders = (.error log, after) →
        holdings after = (holdings host).countBuild
  holdings_deleteProgram :
    ∀ (host : device) (program : ProgramId),
      holdings (Device.deleteProgram host program) =
        (holdings host).removeProgram program
  holdings_location :
    ∀ (host : device) (program : ProgramId) (name : String),
      holdings (Device.location host program name).2 = holdings host
  holdings_setSampler :
    ∀ (host : device) (program : ProgramId) (location : Location)
      (unit : Nat),
      holdings (Device.setSampler host program location unit) =
        holdings host
  holdings_binary :
    ∀ (host : device) (program : ProgramId),
      holdings (Device.binary host program).2 = holdings host
  ofBinary_some :
    ∀ {host after : device} {binary : ProgramBinary} {program : ProgramId},
      Device.ofBinary host binary = (some program, after) →
        (holdings host).programs program = none ∧
          ∃ sources : List String,
            (∀ known, contents binary = some known → sources = known) ∧
              holdings after = (holdings host).addProgram program sources
  ofBinary_none :
    ∀ {host after : device} {binary : ProgramBinary},
      Device.ofBinary host binary = (none, after) →
        holdings after = holdings host

namespace Holdings

/-- An object was made from this source and from no other. -/
def Denotes
    (holdings : Holdings) (shader : ShaderId) (source : String) : Prop :=
  holdings.issued shader ∧
    ∀ found, holdings.shaders shader = some found → found = source

/--
What building may do to the holdings.  Objects may come and shader objects may
go, but no object changes its meaning and no program object goes.
-/
structure Extends (before after : Holdings) : Prop where
  issued : ∀ {shader}, before.issued shader → after.issued shader
  shaders :
    ∀ {shader source}, before.issued shader →
      after.shaders shader = some source →
        before.shaders shader = some source
  programs :
    ∀ {program sources}, before.programs program = some sources →
      after.programs program = some sources

theorem Extends.refl (before : Holdings) : before.Extends before where
  issued := id
  shaders := fun _ found => found
  programs := id

theorem Extends.of_eq
    {before after : Holdings} (equal : after = before) :
    before.Extends after :=
  equal ▸ Extends.refl before

theorem Extends.trans
    {before middle after : Holdings}
    (first : before.Extends middle) (second : middle.Extends after) :
    before.Extends after where
  issued := fun known => second.issued (first.issued known)
  shaders := fun known found =>
    first.shaders known (second.shaders (first.issued known) found)
  programs := fun found => second.programs (first.programs found)

/-- A program that had been there would be there still. -/
theorem Extends.absent
    {before after : Holdings} {program : ProgramId}
    (extension : before.Extends after)
    (fresh : after.programs program = none) :
    before.programs program = none := by
  cases found : before.programs program with
  | none => rfl
  | some sources =>
      have remains := extension.programs found
      rw [fresh] at remains
      cases remains

theorem Denotes.mono
    {before after : Holdings} {shader : ShaderId} {source : String}
    (denotes : before.Denotes shader source)
    (extension : before.Extends after) :
    after.Denotes shader source := by
  obtain ⟨known, meaning⟩ := denotes
  refine ⟨extension.issued known, ?_⟩
  intro found live
  exact meaning found (extension.shaders known live)

theorem Extends.countBuild (before : Holdings) :
    before.Extends before.countBuild where
  issued := id
  shaders := fun _ found => found
  programs := id

theorem Extends.addShader
    {before : Holdings} {shader : ShaderId} (source : String)
    (fresh : ¬ before.issued shader) :
    before.Extends (before.addShader shader source) where
  issued := Or.inr
  shaders := by
    intro other found known live
    have different : other ≠ shader := by
      rintro rfl
      exact fresh known
    simpa [Holdings.addShader, different] using live
  programs := id

theorem Extends.removeShader (before : Holdings) (shader : ShaderId) :
    before.Extends (before.removeShader shader) where
  issued := id
  shaders := by
    intro other found _ live
    by_cases same : other = shader
    · simp [Holdings.removeShader, same] at live
    · simpa [Holdings.removeShader, same] using live
  programs := id

theorem Extends.addProgram
    {before : Holdings} {program : ProgramId} (sources : List String)
    (fresh : before.programs program = none) :
    before.Extends (before.addProgram program sources) where
  issued := id
  shaders := fun _ found => found
  programs := by
    intro other found live
    have different : other ≠ program := by
      rintro rfl
      simp [fresh] at live
    simpa [Holdings.addProgram, different] using live

theorem denotes_addShader
    (before : Holdings) (shader : ShaderId) (source : String) :
    (before.addShader shader source).Denotes shader source := by
  refine ⟨Or.inl rfl, ?_⟩
  intro found live
  simpa [Holdings.addShader] using live.symm

/-- Objects that are all there have the sources that they stand for. -/
theorem sources_of_denotes
    {before : Holdings} {shaders : List ShaderId}
    {sources found : List String}
    (denote : List.Forall₂ before.Denotes shaders sources)
    (live : shaders.map before.shaders = found.map some) :
    found = sources := by
  induction denote generalizing found with
  | nil =>
      cases found with
      | nil => rfl
      | cons head tail => simp at live
  | cons first others ih =>
      cases found with
      | nil => simp at live
      | cons head tail =>
          simp only [List.map_cons, List.cons.injEq] at live
          rw [first.2 head live.1, ih live.2]

end Holdings

end ShaderSynth
