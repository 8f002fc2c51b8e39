import Mathlib.Data.List.Basic
import ShaderSynth.Proofs.Linker

/-!
# Devices for one program

A dedicated device compiles everything, but links only the sources of one
program, so that all its programs are alike and one binary stands for them.
It is lawful, and so small that a cache can be followed on it.
-/

namespace ShaderSynth

/-- A device that links one program only. -/
structure Dedicated (known : List String) where
  /-- The sources of the shader objects, by number. -/
  shaders : List (Option String)
  /-- Whether the program objects are there, by number. -/
  programs : List Bool
  builds : Nat

namespace Dedicated

variable {known : List String}

/-- A device that has not been used. -/
def new (known : List String) : Dedicated known :=
  ⟨[], [], 0⟩

/-- A shader object is handed out. -/
def pushShader (host : Dedicated known) (source : String) : Dedicated known :=
  { host with shaders := host.shaders ++ [some source] }

/-- A program object is handed out. -/
def pushProgram (host : Dedicated known) : Dedicated known :=
  { host with programs := host.programs ++ [true] }

/-- The source of a shader object. -/
def source? (host : Dedicated known) (shader : ShaderId) : Option String :=
  host.shaders[shader.value]?.join

/-- Whether a program object is there. -/
def isLive (host : Dedicated known) (program : ProgramId) : Bool :=
  host.programs[program.value]?.getD false

/-- The binary of the program. -/
def image : ProgramBinary :=
  ⟨0, []⟩

instance : Device (Dedicated known) where
  vendor _ := ""
  compile host _ source :=
    (.ok ⟨host.shaders.length⟩,
      { host.pushShader source with builds := host.builds + 1 })
  deleteShader host shader :=
    { host with shaders := host.shaders.set shader.value none }
  link host shaders :=
    if shaders.map host.source? = known.map some then
      (.ok ⟨host.programs.length⟩,
        { host.pushProgram with builds := host.builds + 1 })
    else (.error "", { host with builds := host.builds + 1 })
  deleteProgram host program :=
    { host with programs := host.programs.set program.value false }
  location host _ _ := (none, host)
  setSampler host _ _ _ := host
  upload host _ _ := host
  binary host program :=
    (if host.isLive program then some image else none, host)
  ofBinary host binary :=
    if binary = image then
      (some ⟨host.programs.length⟩, host.pushProgram)
    else (none, host)

/-- What a dedicated device holds. -/
def holdings (host : Dedicated known) : Holdings where
  shaders := host.source?
  programs program := if host.isLive program then some known else none
  issued shader := shader.value < host.shaders.length
  builds := host.builds

/-! ## The laws -/

theorem holdings_pushShader (host : Dedicated known) (source : String) :
    (host.pushShader source).holdings =
      host.holdings.addShader ⟨host.shaders.length⟩ source := by
  refine Holdings.ext (funext ?_) rfl (funext ?_) rfl
  · rintro ⟨index⟩
    simp only [holdings, pushShader, source?, Holdings.addShader,
      ShaderId.mk.injEq]
    grind
  · rintro ⟨index⟩
    simp only [holdings, pushShader, Holdings.addShader, List.length_append,
      List.length_singleton, ShaderId.mk.injEq, eq_iff_iff]
    omega

theorem holdings_deleteShader (host : Dedicated known) (shader : ShaderId) :
    (Device.deleteShader host shader).holdings =
      host.holdings.removeShader shader := by
  obtain ⟨position⟩ := shader
  refine Holdings.ext (funext ?_) rfl (funext ?_) rfl
  · rintro ⟨index⟩
    simp only [holdings, Device.deleteShader, source?,
      Holdings.removeShader, ShaderId.mk.injEq]
    grind
  · rintro ⟨index⟩
    simp [holdings, Device.deleteShader, Holdings.removeShader]

theorem holdings_pushProgram (host : Dedicated known) :
    host.pushProgram.holdings =
      host.holdings.addProgram ⟨host.programs.length⟩ known := by
  refine Holdings.ext rfl (funext ?_) rfl rfl
  rintro ⟨index⟩
  simp only [holdings, pushProgram, isLive, Holdings.addProgram,
    ProgramId.mk.injEq]
  grind

theorem holdings_deleteProgram (host : Dedicated known) (program : ProgramId) :
    (Device.deleteProgram host program).holdings =
      host.holdings.removeProgram program := by
  obtain ⟨position⟩ := program
  refine Holdings.ext rfl (funext ?_) rfl rfl
  rintro ⟨index⟩
  simp only [holdings, Device.deleteProgram, isLive,
    Holdings.removeProgram, ProgramId.mk.injEq]
  grind

theorem programs_length (host : Dedicated known) :
    host.holdings.programs ⟨host.programs.length⟩ = none := by
  simp [holdings, isLive]

instance : LawfulDevice (Dedicated known) where
  holdings := holdings
  contents binary := if binary = image then some known else none
  compile_ok := by
    rintro host after stage source shader ⟨⟩
    refine ⟨Nat.lt_irrefl _, ?_⟩
    exact congrArg Holdings.countBuild (host.holdings_pushShader source)
  compile_error := by
    rintro host after stage source log ⟨⟩
  holdings_deleteShader := holdings_deleteShader
  link_ok := by
    intro host after shaders program linked
    by_cases live : shaders.map host.source? = known.map some
    · obtain ⟨rfl, rfl⟩ := by simpa [Device.link, live] using linked
      refine ⟨host.programs_length, known, live, ?_⟩
      exact congrArg Holdings.countBuild host.holdings_pushProgram
    · simp [Device.link, live] at linked
  link_error := by
    intro host after shaders log failed
    by_cases live : shaders.map host.source? = known.map some
    · simp [Device.link, live] at failed
    · obtain ⟨-, rfl⟩ := by simpa [Device.link, live] using failed
      rfl
  holdings_deleteProgram := holdings_deleteProgram
  holdings_location _ _ _ := rfl
  holdings_setSampler _ _ _ _ := rfl
  holdings_binary _ _ := rfl
  ofBinary_some := by
    intro host after binary program recreated
    by_cases same : binary = image
    · obtain ⟨rfl, rfl⟩ := by simpa [Device.ofBinary, same] using recreated
      refine ⟨host.programs_length, known, ?_, host.holdings_pushProgram⟩
      intro found given
      simpa [same] using given
    · simp [Device.ofBinary, same] at recreated
  ofBinary_none := by
    intro host after binary rejected
    by_cases same : binary = image
    · simp [Device.ofBinary, same] at rejected
    · obtain rfl := by simpa [Device.ofBinary, same] using rejected
      rfl

/-! ## The program is built -/

theorem object_new
    {key : StageKey} {text : String} {linker : Linker}
    (host : Dedicated known)
    (generated : key.source = .ok text)
    (unknown : key ∉ linker.objects.keys)
    (space : linker.objects.size < linker.objects.capacity.size) :
    linker.object host key =
      ⟨.ok ⟨host.shaders.length⟩,
        ⟨⟨linker.objects.capacity,
          (key, ⟨host.shaders.length⟩) :: linker.objects.entries⟩,
          linker.fallback⟩,
        ⟨host.shaders ++ [some text], host.programs, host.builds + 1⟩,
        key.warnings.map .warning⟩ := by
  have missing : linker.objects.get? key = none := by
    rw [← Lru.get?_isSome_iff] at unknown
    simpa using unknown
  have kept :=
    Lru.insert_of_room (ShaderId.mk host.shaders.length) unknown space
  unfold Linker.object
  rw [missing]
  dsimp only
  rw [generated]
  simp [Linker.compile, Device.compile, Linker.keep, kept, pushShader,
    mapError_ok]

/-- Stages that are new are compiled one after the other. -/
theorem objectsOf_new
    {keys : List StageKey} {texts : List String}
    (linker : Linker) (host : Dedicated known)
    (generated : keys.map StageKey.source = texts.map .ok)
    (distinct : keys.Nodup)
    (absent : ∀ key ∈ keys, key ∉ linker.objects.keys)
    (room :
      linker.objects.size + keys.length ≤ linker.objects.capacity.size) :
    (linker.objectsOf host keys).result =
        .ok ((List.range' host.shaders.length keys.length).map .mk) ∧
      (linker.objectsOf host keys).host =
        ⟨host.shaders ++ texts.map some, host.programs,
          host.builds + keys.length⟩ := by
  induction keys generalizing texts linker host with
  | nil =>
      obtain rfl : texts = [] := by simpa using generated.symm
      simp [Linker.objectsOf]
  | cons key rest ih =>
      cases texts with
      | nil => simp at generated
      | cons text others =>
          simp only [List.map_cons, List.cons.injEq] at generated
          simp only [List.length_cons] at room
          obtain ⟨unrepeated, distinctRest⟩ := List.nodup_cons.mp distinct
          have first :=
            object_new host generated.1 (absent key (by simp)) (by omega)
          have absentRest :
              ∀ other ∈ rest,
                other ∉ (linker.object host key).linker.objects.keys := by
            intro other member
            have different : other ≠ key := by
              rintro rfl
              exact unrepeated member
            have unknown := absent other (by simp [member])
            rw [first]
            exact List.not_mem_cons_of_ne_of_not_mem different unknown
          have roomRest :
              (linker.object host key).linker.objects.size + rest.length ≤
                (linker.object host key).linker.objects.capacity.size := by
            simp only [first, Lru.size, List.length_cons] at room ⊢
            omega
          obtain ⟨result, after⟩ :=
            ih (linker.object host key).linker (linker.object host key).host
              generated.2 distinctRest absentRest roomRest
          unfold Linker.objectsOf
          dsimp only
          rw [result, after, first]
          simp [Except.map, List.range'_succ]
          omega

theorem map_source?_range (texts : List String) (builds : Nat) :
    ((List.range' 0 texts.length).map ShaderId.mk).map
        (source? (⟨texts.map some, [], builds⟩ : Dedicated known)) =
      texts.map some := by
  refine List.ext_getElem (by simp) ?_
  intro index _ bound
  simp only [List.length_map] at bound
  simp [source?, bound]

theorem link_known
    {host : Dedicated known} {shaders : List ShaderId}
    (live : shaders.map host.source? = known.map some) :
    Linker.link host shaders =
      (.ok ⟨host.programs.length⟩,
        { host.pushProgram with builds := host.builds + 1 }) := by
  simp [Linker.link, Device.link, live, mapError_ok]

theorem nodup_stages
    {state : PipelineState} {stages : Stages}
    (staged : state.stages = .ok stages) :
    stages.toList.Nodup := by
  unfold PipelineState.stages at staged
  split at staged
  · cases staged
  · rename_i plan _
    cases staged
    cases plan.layout <;> simp [Stages.toList]

/-- A device builds the program it is made for. -/
theorem assemble_new
    {state : PipelineState} {sources : Sources} {capacity : Capacity}
    (translated : state.sources = .ok sources)
    (room : 3 ≤ capacity.size) :
    ∃ linked,
      ((Linker.new capacity false).assemble
        (Dedicated.new sources.toList) state).result = .ok linked := by
  obtain ⟨stages, staged, generated, -⟩ :=
    PipelineState.stages_of_sources translated
  have length : stages.toList.length = sources.toList.length := by
    simpa using congrArg List.length generated
  have few : stages.toList.length ≤ 3 := by
    cases shape : stages.geometry <;> simp [Stages.toList, shape]
  rw [Linker.assemble_eq_build _ rfl staged]
  obtain ⟨result, after⟩ :=
    objectsOf_new (Linker.new capacity false) (Dedicated.new sources.toList)
      generated (nodup_stages staged)
      (by simp [Linker.new, Lru.empty, Lru.keys])
      (by simp [Linker.new, Lru.empty, Lru.size]; omega)
  have linked :=
    link_known (map_source?_range sources.toList (0 + stages.toList.length))
  rw [← length] at linked
  unfold Linker.build
  dsimp only
  rw [result, after]
  dsimp only [Dedicated.new, List.length_nil, List.nil_append]
  rw [linked]
  exact ⟨_, rfl⟩

/-! ## Other programs are refused -/

/-- Every stage has an object, or there are none. -/
theorem length_of_objectsOf
    {linker : Linker} {host : Dedicated known} {keys : List StageKey}
    {shaders : List ShaderId}
    (collected : (linker.objectsOf host keys).result = .ok shaders) :
    shaders.length = keys.length := by
  induction keys generalizing linker host shaders with
  | nil =>
      cases collected
      rfl
  | cons key rest ih =>
      unfold Linker.objectsOf at collected
      dsimp only at collected
      split at collected
      · cases collected
      · obtain ⟨others, found, rfl⟩ := map_eq_ok_iff.mp collected
        exact congrArg (· + 1) (ih found)

theorem link_of_length_ne
    (host : Dedicated known) {shaders : List ShaderId}
    (different : shaders.length ≠ known.length) :
    ∃ error after, Linker.link host shaders = (.error error, after) := by
  have unknown : ¬ shaders.map host.source? = known.map some := by
    intro same
    exact different (by simpa using congrArg List.length same)
  exact ⟨.link "", { host with builds := host.builds + 1 },
    by simp [Linker.link, Device.link, unknown, Except.mapError]⟩

/-- A program with another number of stages is not built. -/
theorem build_of_length_ne
    (linker : Linker) (host : Dedicated known) {stages : Stages}
    (different : stages.toList.length ≠ known.length) :
    ∃ error, (linker.build host stages).result = .error error := by
  unfold Linker.build
  dsimp only
  split
  · exact ⟨_, rfl⟩
  · rename_i shaders collected
    rw [← length_of_objectsOf collected] at different
    obtain ⟨error, after, failed⟩ :=
      link_of_length_ne (linker.objectsOf host stages.toList).host different
    rw [failed]
    exact ⟨error, rfl⟩

theorem assemble_of_length_ne
    {linker : Linker} (host : Dedicated known) {state : PipelineState}
    {stages : Stages}
    (honest : linker.fallback = false)
    (staged : state.stages = .ok stages)
    (different : stages.toList.length ≠ known.length) :
    ∃ error, (linker.assemble host state).result = .error error := by
  rw [Linker.assemble_eq_build host honest staged]
  exact build_of_length_ne linker host different

/-! ## The program is the fallback program -/

theorem buildFallback_ok
    (host : Dedicated Linker.fallbackSources) (assembly : Assembly) :
    ∃ linked, (Linker.buildFallback host assembly).1 = .ok linked := by
  let ready : Dedicated Linker.fallbackSources :=
    ⟨host.shaders ++ [some fallbackVertexSource] ++
      [some fallbackFragmentSource], host.programs, host.builds + 1 + 1⟩
  have live :
      [ShaderId.mk host.shaders.length,
        ShaderId.mk (host.shaders.length + 1)].map ready.source? =
          Linker.fallbackSources.map some := by
    simp [ready, source?, Linker.fallbackSources]
  have linked := link_known live
  unfold Linker.buildFallback
  simp only [Linker.compile, Device.compile, mapError_ok, pushShader,
    List.length_append, List.length_singleton]
  rw [linked]
  exact ⟨_, rfl⟩

/-- A device for the fallback program links nothing else. -/
theorem assemble_fallback
    {linker : Linker} {state : PipelineState} {stages : Stages}
    (host : Dedicated Linker.fallbackSources)
    (fallback : linker.fallback = true)
    (staged : state.stages = .ok stages)
    (different : stages.toList.length ≠ 2) :
    ∃ linked,
      (linker.assemble host state).result = .ok linked ∧
        (LawfulDevice.holdings (linker.assemble host state).host).programs
          linked.program = some Linker.fallbackSources := by
  obtain ⟨error, failed⟩ := build_of_length_ne linker host different
  obtain ⟨linked, built⟩ :=
    buildFallback_ok (linker.build host stages).host stages.assembly
  have made := Linker.buildFallback_makes built
  refine ⟨linked, ?_⟩
  unfold Linker.assemble
  rw [staged]
  dsimp only
  rw [failed]
  dsimp only
  rw [if_pos fallback]
  refine ⟨?_, made.2⟩
  show (Linker.buildFallback _ _).1.mapError _ = _
  rw [built]
  rfl

end Dedicated

end ShaderSynth
