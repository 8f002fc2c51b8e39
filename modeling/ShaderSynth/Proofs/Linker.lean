import ShaderSynth.Linker
import ShaderSynth.Proofs.Device.Laws
import ShaderSynth.Proofs.Fallible
import ShaderSynth.Proofs.Lru

/-!
# Linked programs have the sources of their stages

The shader objects that a linker keeps may be deleted behind its back when
room is made for others.  What it keeps to is that an object it knows under a
key was made from the source of that key.  A device links no deleted objects,
so whatever it links was made from the sources of the stages, in their order.
-/

namespace ShaderSynth

open LawfulDevice (holdings)

/-! ## Getting a program ready -/

section Preparation

variable {device : Type} [Device device] {property : device → Prop}
  {program : ProgramId}

theorem Locations.query_invariant
    (asked :
      ∀ host name,
        property host → property (Device.location host program name).2)
    (uniforms : List Uniform) {host : device} (holds : property host) :
    property (Locations.query program uniforms host).2 := by
  induction uniforms generalizing host with
  | nil => exact holds
  | cons uniform rest ih =>
      have others := ih (asked host uniform.name holds)
      simp only [Locations.query]
      split <;> exact others

theorem LinkedProgram.bindSamplers_invariant
    (set :
      ∀ host location unit,
        property host →
          property (Device.setSampler host program location unit))
    (locations : Locations) {host : device} (holds : property host) :
    property (LinkedProgram.bindSamplers program locations host) := by
  unfold LinkedProgram.bindSamplers
  induction List.finRange 4 generalizing host with
  | nil => exact holds
  | cons unit rest ih =>
      apply ih
      dsimp only
      split
      · exact set _ _ _ holds
      · exact holds

/-- Getting a program ready asks for locations and sets samplers only. -/
theorem LinkedProgram.prepare_invariant
    (property : device → Prop)
    (asked :
      ∀ host name,
        property host → property (Device.location host program name).2)
    (set :
      ∀ host location unit,
        property host →
          property (Device.setSampler host program location unit))
    (assembly : Assembly) {host : device} (holds : property host) :
    property (LinkedProgram.prepare host program assembly).2 := by
  have queried := Locations.query_invariant asked Uniform.all holds
  unfold LinkedProgram.prepare Locations.resolve
  -- The uniforms are too many for the query to be evaluated.
  generalize Locations.query program Uniform.all host = answer at queried ⊢
  exact LinkedProgram.bindSamplers_invariant set ⟨answer.1⟩ queried

theorem LinkedProgram.prepare_program
    (host : device) (program : ProgramId) (assembly : Assembly) :
    (LinkedProgram.prepare host program assembly).1.program = program ∧
      (LinkedProgram.prepare host program assembly).1.assembly = assembly := by
  unfold LinkedProgram.prepare
  generalize Locations.resolve host program = answer
  exact ⟨rfl, rfl⟩

/-- What every call keeps is kept when the fallback program is built. -/
theorem Linker.buildFallback_invariant
    (property : device → Prop)
    (compiled :
      ∀ host stage source,
        property host → property (Linker.compile host stage source).2)
    (linked :
      ∀ host shaders, property host → property (Linker.link host shaders).2)
    (deleted :
      ∀ host shader,
        property host → property (Device.deleteShader host shader))
    (assembly : Assembly)
    (prepared :
      ∀ host program,
        property host →
          property (LinkedProgram.prepare host program assembly).2)
    {host : device} (holds : property host) :
    property (Linker.buildFallback host assembly).2 := by
  have first := compiled host .vertex fallbackVertexSource holds
  unfold Linker.buildFallback
  split
  · rename_i failed
    rwa [failed] at first
  · rename_i vertex afterVertex compiledVertex
    rw [compiledVertex] at first
    have second :=
      compiled afterVertex .fragment fallbackFragmentSource first
    split
    · rename_i failed
      rw [failed] at second
      exact deleted _ _ second
    · rename_i fragment afterFragment compiledFragment
      rw [compiledFragment] at second
      let last :=
        Device.deleteShader
          (Device.deleteShader
            (Linker.link afterFragment [vertex, fragment]).2 vertex) fragment
      have emptied : property last :=
        deleted _ _ (deleted _ _ (linked _ _ second))
      dsimp only
      split
      · exact emptied
      · rename_i program _
        have ready := prepared last program emptied
        generalize LinkedProgram.prepare last program assembly = answer
          at ready ⊢
        exact ready

end Preparation

variable {device : Type} [Device device] [LawfulDevice device]

/-- A program that is made ready is the one that was asked for. -/
theorem LinkedProgram.prepare_spec
    (host : device) (program : ProgramId) (assembly : Assembly) :
    (LinkedProgram.prepare host program assembly).1.program = program ∧
      (LinkedProgram.prepare host program assembly).1.assembly = assembly ∧
      holdings (LinkedProgram.prepare host program assembly).2 =
        holdings host := by
  obtain ⟨same, drawn⟩ :=
    LinkedProgram.prepare_program host program assembly
  refine ⟨same, drawn, ?_⟩
  refine
    LinkedProgram.prepare_invariant
      (fun current => holdings current = holdings host)
      (fun current name kept => ?_) (fun current location unit kept => ?_)
      assembly rfl
  · exact (LawfulDevice.holdings_location current program name).trans kept
  · exact
      (LawfulDevice.holdings_setSampler current program location unit).trans
        kept

/-! ## Shader objects -/

/-- An object was made from the source of a stage. -/
def Holdings.Implements
    (holdings : Holdings) (key : StageKey) (shader : ShaderId) : Prop :=
  ∃ source, key.source = .ok source ∧ holdings.Denotes shader source

theorem Holdings.Implements.mono
    {before after : Holdings} {key : StageKey} {shader : ShaderId}
    (implements : before.Implements key shader)
    (extension : before.Extends after) :
    after.Implements key shader := by
  obtain ⟨source, generated, denotes⟩ := implements
  exact ⟨source, generated, denotes.mono extension⟩

namespace Linker

/-- The objects of a linker were made from the sources of their keys. -/
def Sound (linker : Linker) (holdings : Holdings) : Prop :=
  ∀ entry ∈ linker.objects.entries, holdings.Implements entry.1 entry.2

theorem Sound.mono
    {linker : Linker} {before after : Holdings}
    (sound : linker.Sound before) (extension : before.Extends after) :
    linker.Sound after := by
  intro entry member
  exact (sound entry member).mono extension

theorem sound_new
    (capacity : Capacity) (fallback : Bool) (holdings : Holdings) :
    (Linker.new capacity fallback).Sound holdings := by
  intro entry member
  simp [Linker.new, Lru.empty] at member

/-- What building a part of a program keeps, and what it gives. -/
structure Builds
    {result : Type} (linker : Linker) (host : device)
    (building : Building device result)
    (made : Holdings → result → Prop) : Prop where
  grows : (holdings host).Extends (holdings building.host)
  sound : building.linker.Sound (holdings building.host)
  capacity : building.linker.objects.capacity = linker.objects.capacity
  fallback : building.linker.fallback = linker.fallback
  made :
    ∀ {item}, building.result = .ok item →
      made (holdings building.host) item

/-! ### Calls to the device -/

theorem compile_ok
    {host after : device} {stage : StageKind} {source : String}
    {shader : ShaderId}
    (done : compile host stage source = (.ok shader, after)) :
    ¬ (holdings host).issued shader ∧
      holdings after =
        ((holdings host).addShader shader source).countBuild := by
  obtain ⟨compiled, last⟩ := Prod.mk.inj done
  exact LawfulDevice.compile_ok
    (Prod.ext (mapError_eq_ok_iff.mp compiled) last)

theorem compile_denotes
    {host after : device} {stage : StageKind} {source : String}
    {shader : ShaderId}
    (done : compile host stage source = (.ok shader, after)) :
    (holdings after).Denotes shader source := by
  rw [(compile_ok done).2]
  exact Holdings.denotes_addShader _ _ _

theorem compile_grows
    (host : device) (stage : StageKind) (source : String) :
    (holdings host).Extends (holdings (compile host stage source).2) := by
  unfold compile
  dsimp only
  cases called : Device.compile host stage source with
  | mk compiled after =>
      cases compiled with
      | error log =>
          exact (Holdings.Extends.countBuild _).trans
            (.of_eq (LawfulDevice.compile_error called))
      | ok shader =>
          obtain ⟨fresh, added⟩ := LawfulDevice.compile_ok called
          exact ((Holdings.Extends.addShader source fresh).trans
            (.countBuild _)).trans (.of_eq added)

theorem link_ok
    {host after : device} {shaders : List ShaderId} {program : ProgramId}
    (done : link host shaders = (.ok program, after)) :
    (holdings host).programs program = none ∧
      ∃ sources : List String,
        shaders.map (holdings host).shaders = sources.map some ∧
          holdings after =
            ((holdings host).addProgram program sources).countBuild := by
  obtain ⟨linked, last⟩ := Prod.mk.inj done
  exact LawfulDevice.link_ok (Prod.ext (mapError_eq_ok_iff.mp linked) last)

theorem link_grows (host : device) (shaders : List ShaderId) :
    (holdings host).Extends (holdings (link host shaders).2) := by
  unfold link
  dsimp only
  cases called : Device.link host shaders with
  | mk linked after =>
      cases linked with
      | error log =>
          exact (Holdings.Extends.countBuild _).trans
            (.of_eq (LawfulDevice.link_error called))
      | ok program =>
          obtain ⟨fresh, sources, -, added⟩ := LawfulDevice.link_ok called
          exact ((Holdings.Extends.addProgram sources fresh).trans
            (.countBuild _)).trans (.of_eq added)

/-! ### Objects by their keys -/

theorem keep_grows
    (linker : Linker) (host : device) (key : StageKey) (shader : ShaderId) :
    (holdings host).Extends (holdings (linker.keep host key shader).2) := by
  unfold keep
  dsimp only
  split
  · rw [LawfulDevice.holdings_deleteShader]
    exact Holdings.Extends.removeShader _ _
  · exact Holdings.Extends.refl _

theorem keep_sound
    {linker : Linker} {host : device} {key : StageKey} {shader : ShaderId}
    (sound : linker.Sound (holdings host))
    (implements : (holdings host).Implements key shader) :
    (linker.keep host key shader).1.Sound
      (holdings (linker.keep host key shader).2) := by
  have grows := linker.keep_grows host key shader
  intro entry member
  rcases Lru.mem_of_mem_insert member with rfl | old
  · exact implements.mono grows
  · exact (sound entry old).mono grows

/-- A stage is found under its key, or compiled from its source. -/
theorem object_builds
    {linker : Linker} {host : device} (key : StageKey)
    (sound : linker.Sound (holdings host)) :
    linker.Builds host (linker.object host key)
      fun after shader => after.Implements key shader := by
  unfold object
  split
  · rename_i shader found
    have implements := sound _ (Lru.mem_entries_of_get? found)
    exact
      { grows := .refl _
        sound := fun entry member => sound entry (Lru.mem_of_mem_touch member)
        capacity := Lru.capacity_touch _ _
        fallback := rfl
        made := by
          rintro item ⟨⟩
          exact implements }
  · dsimp only
    split
    · exact ⟨.refl _, sound, rfl, rfl, by rintro _ ⟨⟩⟩
    · rename_i source generated
      have grows := compile_grows host key.kind source
      split
      · rename_i cause after compiled
        rw [compiled] at grows
        exact ⟨grows, sound.mono grows, rfl, rfl, by rintro _ ⟨⟩⟩
      · rename_i shader after compiled
        rw [compiled] at grows
        have implements : (holdings after).Implements key shader :=
          ⟨source, generated, compile_denotes compiled⟩
        have kept := keep_grows linker after key shader
        exact
          { grows := grows.trans kept
            sound := keep_sound (sound.mono grows) implements
            capacity := Lru.capacity_insert _ _ _
            fallback := rfl
            made := by
              rintro item ⟨⟩
              exact implements.mono kept }

theorem objectsOf_builds
    {linker : Linker} {host : device} (keys : List StageKey)
    (sound : linker.Sound (holdings host)) :
    linker.Builds host (linker.objectsOf host keys)
      fun after shaders => List.Forall₂ after.Implements keys shaders := by
  induction keys generalizing linker host with
  | nil =>
      refine ⟨.refl _, sound, rfl, rfl, ?_⟩
      rintro item ⟨⟩
      exact .nil
  | cons key rest ih =>
      have first := object_builds key sound
      have others := ih first.sound
      unfold objectsOf
      dsimp only
      split
      · exact ⟨first.grows, first.sound, first.capacity, first.fallback,
          by rintro _ ⟨⟩⟩
      · rename_i shader found
        refine
          { grows := first.grows.trans others.grows
            sound := others.sound
            capacity := others.capacity.trans first.capacity
            fallback := others.fallback.trans first.fallback
            made := ?_ }
        intro shaders done
        obtain ⟨tail, found, rfl⟩ := map_eq_ok_iff.mp done
        exact .cons ((first.made ‹_›).mono others.grows) (others.made found)

/-! ### Whole programs -/

theorem sources_of_implements
    {before : Holdings} {keys : List StageKey} {shaders : List ShaderId}
    (implement : List.Forall₂ before.Implements keys shaders) :
    ∃ sources : List String,
      keys.map StageKey.source = sources.map .ok ∧
        List.Forall₂ before.Denotes shaders sources := by
  induction implement with
  | nil => exact ⟨[], rfl, .nil⟩
  | cons first _ ih =>
      obtain ⟨source, generated, denotes⟩ := first
      obtain ⟨sources, others, denote⟩ := ih
      refine ⟨source :: sources, ?_, .cons denotes denote⟩
      simp [generated, others]

/-- A program that is linked from the sources of its stages is new. -/
theorem build_builds
    {linker : Linker} {host : device} (stages : Stages)
    (sound : linker.Sound (holdings host)) :
    linker.Builds host (linker.build host stages)
      fun after linked =>
        (holdings host).programs linked.program = none ∧
          linked.assembly = stages.assembly ∧
          ∃ sources : List String,
            stages.toList.map StageKey.source = sources.map .ok ∧
              after.programs linked.program = some sources := by
  have compiled := objectsOf_builds stages.toList sound
  unfold build
  dsimp only
  split
  · exact ⟨compiled.grows, compiled.sound, compiled.capacity,
      compiled.fallback, by rintro _ ⟨⟩⟩
  · rename_i shaders collected
    have linking :=
      link_grows (linker.objectsOf host stages.toList).host shaders
    split
    · rename_i cause after failed
      rw [failed] at linking
      exact ⟨compiled.grows.trans linking, compiled.sound.mono linking,
        compiled.capacity, compiled.fallback, by rintro _ ⟨⟩⟩
    · rename_i program after done
      rw [done] at linking
      obtain ⟨fresh, found, live, added⟩ := link_ok done
      obtain ⟨sources, generated, denote⟩ :=
        sources_of_implements (compiled.made collected)
      have same : found = sources :=
        Holdings.sources_of_denotes denote live
      obtain ⟨named, drawn, kept⟩ :=
        LinkedProgram.prepare_spec after program stages.assembly
      generalize LinkedProgram.prepare after program stages.assembly = prepared
        at named drawn kept ⊢
      have grows := linking.trans (.of_eq kept)
      refine
        { grows := compiled.grows.trans grows
          sound := compiled.sound.mono grows
          capacity := compiled.capacity
          fallback := compiled.fallback
          made := ?_ }
      rintro linked ⟨⟩
      dsimp only
      rw [named, kept]
      refine ⟨compiled.grows.absent fresh, drawn, sources, generated, ?_⟩
      rw [added, same]
      simp [Holdings.addProgram, Holdings.countBuild]

end Linker

/-- The sources of a configuration are those of its stages. -/
theorem PipelineState.sources_of_stages
    {state : PipelineState} {stages : Stages} {texts : List String}
    (staged : state.stages = .ok stages)
    (generated : stages.toList.map StageKey.source = texts.map .ok) :
    ∃ sources,
      state.sources = .ok sources ∧ sources.toList = texts ∧
        sources.assembly = stages.assembly := by
  obtain ⟨vertex, geometry, fragment, assembly⟩ := stages
  cases geometry with
  | none =>
      match texts with
      | [vertexText, fragmentText] =>
          simp only [Stages.toList, Option.toList_none, List.cons_append,
            List.nil_append, List.map_cons, List.map_nil,
            List.cons.injEq, and_true] at generated
          obtain ⟨vertexSource, fragmentSource⟩ := generated
          refine ⟨⟨vertexText, none, fragmentText, assembly⟩, ?_, rfl, rfl⟩
          simp [PipelineState.sources, staged, vertexSource, fragmentSource,
            bind, Except.bind, pure, Except.pure]
      | [] => simp [Stages.toList] at generated
      | [_] => simp [Stages.toList] at generated
      | _ :: _ :: _ :: _ => simp [Stages.toList] at generated
  | some geometry =>
      match texts with
      | [vertexText, geometryText, fragmentText] =>
          simp only [Stages.toList, Option.toList_some, List.cons_append,
            List.nil_append, List.map_cons, List.map_nil,
            List.cons.injEq, and_true] at generated
          obtain ⟨vertexSource, geometrySource, fragmentSource⟩ := generated
          refine ⟨⟨vertexText, some geometryText, fragmentText, assembly⟩,
            ?_, rfl, rfl⟩
          simp [PipelineState.sources, staged, vertexSource, geometrySource,
            fragmentSource, bind, Except.bind, pure, Except.pure,
            Functor.map, Except.map]
      | [] => simp [Stages.toList] at generated
      | [_] => simp [Stages.toList] at generated
      | [_, _] => simp [Stages.toList] at generated
      | _ :: _ :: _ :: _ :: _ => simp [Stages.toList] at generated

/-- The sources of a program are those of its stages. -/
theorem PipelineState.exists_stages
    {state : PipelineState} {sources : Sources}
    (translated : state.sources = .ok sources) :
    ∃ stages,
      state.stages = .ok stages ∧
        sources.assembly = stages.assembly ∧
        stages.vertex.source = .ok sources.vertex ∧
        stages.fragment.source = .ok sources.fragment ∧
        match stages.geometry with
        | none => sources.geometry = none
        | some key =>
            ∃ text,
              sources.geometry = some text ∧ key.source = .ok text := by
  unfold PipelineState.sources at translated
  obtain ⟨stages, staged, rest⟩ := bind_eq_ok_iff.mp translated
  obtain ⟨vertex, vertexSource, rest⟩ := bind_eq_ok_iff.mp rest
  refine ⟨stages, staged, ?_⟩
  dsimp only at rest
  cases present : stages.geometry with
  | none =>
      rw [present] at rest
      obtain ⟨geometry, ⟨⟩, rest⟩ := bind_eq_ok_iff.mp rest
      obtain ⟨fragment, fragmentSource, ⟨⟩⟩ := bind_eq_ok_iff.mp rest
      exact ⟨rfl, vertexSource, fragmentSource, rfl⟩
  | some key =>
      rw [present] at rest
      obtain ⟨geometry, mapped, rest⟩ := bind_eq_ok_iff.mp rest
      obtain ⟨fragment, fragmentSource, ⟨⟩⟩ := bind_eq_ok_iff.mp rest
      obtain ⟨text, geometrySource, rfl⟩ := map_eq_ok_iff.mp mapped
      exact ⟨rfl, vertexSource, fragmentSource, text, rfl, geometrySource⟩

theorem PipelineState.stages_of_sources
    {state : PipelineState} {sources : Sources}
    (translated : state.sources = .ok sources) :
    ∃ stages,
      state.stages = .ok stages ∧
        stages.toList.map StageKey.source = sources.toList.map .ok ∧
        sources.assembly = stages.assembly := by
  obtain ⟨stages, staged, assembly, vertex, fragment, geometry⟩ :=
    PipelineState.exists_stages translated
  refine ⟨stages, staged, ?_, assembly⟩
  cases present : stages.geometry with
  | none =>
      rw [present] at geometry
      simp [Stages.toList, Sources.toList, present, geometry, vertex, fragment]
  | some key =>
      rw [present] at geometry
      obtain ⟨text, given, source⟩ := geometry
      simp [Stages.toList, Sources.toList, present, given, source, vertex,
        fragment]

/-- A program is there, and is the one that a configuration asks for. -/
def Holdings.Serves
    (holdings : Holdings) (state : PipelineState) (program : ProgramId)
    (assembly : Assembly) :
    Prop :=
  ∃ sources,
    state.sources = .ok sources ∧
      holdings.programs program = some sources.toList ∧
      assembly = sources.assembly

namespace Linker

omit [LawfulDevice device] in
theorem assemble_eq_build
    {linker : Linker} (host : device) {state : PipelineState}
    {stages : Stages}
    (honest : linker.fallback = false)
    (staged : state.stages = .ok stages) :
    linker.assemble host state = linker.build host stages := by
  unfold assemble
  rw [staged]
  dsimp only
  split
  · rfl
  · simp [honest]

/-! ### The fallback program -/

/-- The sources of the fallback program. -/
def fallbackSources : List String :=
  [fallbackVertexSource, fallbackFragmentSource]

theorem holdings_deletePair (host : device) (first second : ShaderId) :
    holdings (Device.deleteShader (Device.deleteShader host first) second) =
      ((holdings host).removeShader first).removeShader second := by
  simp only [LawfulDevice.holdings_deleteShader]

theorem buildFallback_grows (host : device) (assembly : Assembly) :
    (holdings host).Extends (holdings (buildFallback host assembly).2) := by
  refine
    buildFallback_invariant
      (fun after => (holdings host).Extends (holdings after))
      ?_ ?_ ?_ assembly ?_ (.refl _)
  · exact fun after stage source grown =>
      grown.trans (compile_grows after stage source)
  · exact fun after shaders grown => grown.trans (link_grows after shaders)
  · intro after shader grown
    rw [LawfulDevice.holdings_deleteShader]
    exact grown.trans (.removeShader _ _)
  · intro after program grown
    obtain ⟨-, -, kept⟩ := LinkedProgram.prepare_spec after program assembly
    exact grown.trans (.of_eq kept)

/-- The steps by which a fallback program is built, if it is. -/
theorem buildFallback_of_ok
    {host : device} {assembly : Assembly} {linked : LinkedProgram}
    (done : (buildFallback host assembly).1 = .ok linked) :
    ∃ vertex afterVertex fragment afterFragment afterLink,
      compile host .vertex fallbackVertexSource = (.ok vertex, afterVertex) ∧
        compile afterVertex .fragment fallbackFragmentSource =
          (.ok fragment, afterFragment) ∧
        link afterFragment [vertex, fragment] =
          (.ok linked.program, afterLink) ∧
        holdings (buildFallback host assembly).2 =
          ((holdings afterLink).removeShader vertex).removeShader
            fragment := by
  revert done
  unfold buildFallback
  split
  · rintro ⟨⟩
  · rename_i vertex afterVertex compiledVertex
    split
    · rintro ⟨⟩
    · rename_i fragment afterFragment compiledFragment
      cases linking : link afterFragment [vertex, fragment] with
      | mk result afterLink =>
          cases result with
          | error error => rintro ⟨⟩
          | ok program =>
              let last :=
                Device.deleteShader (Device.deleteShader afterLink vertex)
                  fragment
              obtain ⟨named, -, kept⟩ :=
                LinkedProgram.prepare_spec last program assembly
              dsimp only
              generalize LinkedProgram.prepare last program assembly =
                prepared at named kept ⊢
              rintro ⟨⟩
              refine
                ⟨vertex, afterVertex, fragment, afterFragment, afterLink,
                  compiledVertex, compiledFragment, ?_, ?_⟩
              · rw [named]
                exact linking
              · exact kept.trans (holdings_deletePair afterLink _ _)

/-- The fallback program is new, and has the sources of that program. -/
theorem buildFallback_makes
    {host : device} {assembly : Assembly} {linked : LinkedProgram}
    (done : (buildFallback host assembly).1 = .ok linked) :
    (holdings host).programs linked.program = none ∧
      (holdings (buildFallback host assembly).2).programs linked.program =
        some fallbackSources := by
  obtain ⟨vertex, afterVertex, fragment, afterFragment, afterLink,
    compiledVertex, compiledFragment, linking, left⟩ :=
    buildFallback_of_ok done
  have first := compile_grows host .vertex fallbackVertexSource
  have second := compile_grows afterVertex .fragment fallbackFragmentSource
  rw [compiledVertex] at first
  rw [compiledFragment] at second
  have denote :
      List.Forall₂ (holdings afterFragment).Denotes
        [vertex, fragment] fallbackSources :=
    .cons ((compile_denotes compiledVertex).mono second)
      (.cons (compile_denotes compiledFragment) .nil)
  obtain ⟨fresh, found, live, added⟩ := link_ok linking
  rw [left, added, Holdings.sources_of_denotes denote live]
  refine ⟨(first.trans second).absent fresh, ?_⟩
  simp [Holdings.addProgram, Holdings.countBuild, Holdings.removeShader]

/-- What a linker makes: the program asked for, or the fallback program. -/
def Makes
    (fallback : Bool) (state : PipelineState) (linked : LinkedProgram)
    (texts : List String) : Prop :=
  (∃ sources,
    state.sources = .ok sources ∧
      texts = sources.toList ∧
      linked.assembly = sources.assembly) ∨
    fallback = true ∧ texts = fallbackSources

theorem assemble_builds
    {linker : Linker} {host : device} (state : PipelineState)
    (sound : linker.Sound (holdings host)) :
    linker.Builds host (linker.assemble host state)
      fun after linked =>
        (holdings host).programs linked.program = none ∧
          ∃ texts,
            after.programs linked.program = some texts ∧
              Makes linker.fallback state linked texts := by
  unfold assemble
  split
  · exact ⟨.refl _, sound, rfl, rfl, by rintro _ ⟨⟩⟩
  · rename_i stages staged
    have built := build_builds stages sound
    dsimp only
    split
    · rename_i linked done
      refine ⟨built.grows, built.sound, built.capacity, built.fallback, ?_⟩
      intro linked done
      obtain ⟨fresh, drawn, texts, generated, live⟩ := built.made done
      obtain ⟨sources, translated, rfl, same⟩ :=
        PipelineState.sources_of_stages staged generated
      exact ⟨fresh, _, live, Or.inl ⟨sources, translated, rfl,
        drawn.trans same.symm⟩⟩
    · rename_i error failed
      split
      · rename_i fallback
        have grows :=
          buildFallback_grows (linker.build host stages).host stages.assembly
        refine
          ⟨built.grows.trans grows, built.sound.mono grows, built.capacity,
            built.fallback, ?_⟩
        intro linked done
        obtain ⟨fresh, live⟩ :=
          buildFallback_makes (mapError_eq_ok_iff.mp done)
        exact ⟨built.grows.absent fresh, _, live, Or.inr ⟨fallback, rfl⟩⟩
      · refine ⟨built.grows, built.sound, built.capacity, built.fallback, ?_⟩
        intro linked done
        rw [failed] at done
        cases done

/-! ### Recreated programs -/

/-- A binary gives a new program, with the known sources if they are known. -/
theorem restore_some
    {host after : device} {state : PipelineState} {binary : ProgramBinary}
    {linked : LinkedProgram}
    (done : restore host state binary = (some linked, after)) :
    (holdings host).programs linked.program = none ∧
      (∀ sources, state.sources = .ok sources →
        linked.assembly = sources.assembly) ∧
      ∃ texts,
        (∀ known,
          LawfulDevice.contents device binary = some known →
            texts = known) ∧
          holdings after =
            (holdings host).addProgram linked.program texts := by
  unfold restore at done
  split at done
  · cases done
  · rename_i stages staged
    split at done
    · cases done
    · rename_i program recreated called
      obtain ⟨fresh, texts, certain, added⟩ :=
        LawfulDevice.ofBinary_some called
      obtain ⟨named, drawn, kept⟩ :=
        LinkedProgram.prepare_spec recreated program stages.assembly
      generalize
        LinkedProgram.prepare recreated program stages.assembly = prepared
        at named drawn kept done
      obtain ⟨rfl, rfl⟩ : prepared.1 = linked ∧ prepared.2 = after := by
        simpa using done
      rw [named, kept, added]
      refine ⟨fresh, ?_, texts, certain, rfl⟩
      intro sources translated
      obtain ⟨found, same, -, drawnFor⟩ :=
        PipelineState.stages_of_sources translated
      obtain rfl : stages = found := by
        rw [staged] at same
        exact Except.ok.inj same
      exact drawn.trans drawnFor.symm

theorem restore_none
    {host after : device} {state : PipelineState} {binary : ProgramBinary}
    (done : restore host state binary = (none, after)) :
    holdings after = holdings host := by
  unfold restore at done
  split at done
  · obtain ⟨-, rfl⟩ := Prod.mk.inj done
    rfl
  · rename_i stages _
    split at done
    · rename_i called
      obtain ⟨-, rfl⟩ := Prod.mk.inj done
      exact LawfulDevice.ofBinary_none called
    · rename_i program recreated _
      generalize
        LinkedProgram.prepare recreated program stages.assembly = prepared
        at done
      cases (Prod.mk.inj done).1

/-! ### Emptying a linker -/

theorem clear_grows (linker : Linker) (host : device) :
    (holdings host).Extends (holdings (linker.clear host).2) := by
  unfold clear
  dsimp only
  induction linker.objects.values generalizing host with
  | nil => exact .refl _
  | cons shader rest ih =>
      have deleted := LawfulDevice.holdings_deleteShader host shader
      have others := ih (Device.deleteShader host shader)
      rw [deleted] at others
      exact (Holdings.Extends.removeShader _ shader).trans others

end Linker

end ShaderSynth
