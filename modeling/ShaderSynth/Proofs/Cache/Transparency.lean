import Mathlib.Data.Set.Function
import ShaderSynth.Proofs.Cache.Faithful
import ShaderSynth.Proofs.Device.Dedicated

/-!
# A cache changes no answer

Whatever was asked before, however many programs and shader objects have been
evicted and however many builds have failed: an answer of a cache is a program
that is there and was linked from the sources of the configuration that was
asked for.  Answers from memory cost the device nothing.
-/

namespace ShaderSynth.Cache

open LawfulDevice (holdings)

variable {device : Type} [Device device] [LawfulDevice device]

/-! ## Asking twice -/

/-- What a cache has answered, it keeps. -/
theorem Faithful.lookup_again
    {cache : Cache} {host : device} {state : PipelineState}
    {answer : Answer}
    (faithful : cache.Faithful host)
    (answered : (cache.lookup host state).answer = .ok answer) :
    ((cache.lookup host state).cache.lookup
      (cache.lookup host state).host state).answer =
        .ok { answer with origin := .memory } := by
  have kept :
      ∃ slot,
        (cache.lookup host state).cache.slots.get? state.digest = some slot ∧
          slot.state = state ∧
          Slot.answer slot .memory state.digest =
            { answer with origin := .memory } := by
    rcases cache.lookup_cases host state with
      ⟨slot, statistics, found, same, hit⟩ | ⟨-, missed⟩
    · rw [hit] at answered ⊢
      cases answered
      exact ⟨slot, (Lru.get?_touch _ _).trans found, same, rfl⟩
    · rw [missed] at answered ⊢
      have fetched := (faithful.vacate state.digest).fetch state.digest state
      rcases cache.lookupMissing_cases host state.digest state with
        ⟨error, -, failed⟩ | ⟨slot, origin, done, got⟩
      · rw [failed] at answered
        cases answered
      · rw [got] at answered ⊢
        cases answered
        exact ⟨slot, Lru.get?_insert _ _ _, (fetched.delivered done).1, rfl⟩
  obtain ⟨slot, found, same, equal⟩ := kept
  rw [← equal]
  generalize (cache.lookup host state).cache = later at found ⊢
  simp [Cache.lookup, found, same]

/-- A fresh cache builds on a device made for the program. -/
theorem lookup_dedicated
    {settings : Settings} {vendor : String} {tree : FileTree}
    {state : PipelineState} {sources : Sources}
    (honest : settings.fallback = false)
    (unstaged : (start settings vendor tree).1.staged = [])
    (room : 3 ≤ settings.objectCapacity.size)
    (translated : state.sources = .ok sources) :
    ∃ answer,
      ((start settings vendor tree).1.lookup
        (Dedicated.new sources.toList) state).answer = .ok answer := by
  obtain ⟨linked, assembled⟩ := Dedicated.assemble_new translated room
  rw [← honest] at assembled
  obtain ⟨linker, statistics, reports, -, looked⟩ :=
    lookup_first rfl unstaged assembled
  rw [looked]
  exact ⟨_, rfl⟩

/-- Quadrilaterals in the fixed pipeline, which need a geometry stage. -/
def quadrilaterals : PipelineState :=
  { (default : PipelineState) with geometry := ⟨.quads, .fill, .fill⟩ }

theorem stages_quadrilaterals :
    ∃ stages,
      quadrilaterals.stages = .ok stages ∧ stages.toList.length = 3 :=
  ⟨_, rfl, rfl⟩

/-- Triangles in the fixed pipeline, which need none. -/
def triangles : PipelineState :=
  { (default : PipelineState) with geometry := ⟨.triangles, .fill, .fill⟩ }

theorem stages_triangles :
    ∃ stages, triangles.stages = .ok stages ∧ stages.toList.length = 2 :=
  ⟨_, rfl, rfl⟩

theorem digest_quadrilaterals_ne :
    quadrilaterals.digest ≠ triangles.digest := by
  decide +kernel

theorem digest_triangles_not_mem :
    triangles.digest ∉ [quadrilaterals.digest] := by
  simpa using digest_quadrilaterals_ne.symm

theorem separate_quadrilaterals :
    Set.InjOn PipelineState.digest {quadrilaterals, triangles} := by
  rintro left (rfl | rfl) right (rfl | rfl) same
  · rfl
  · exact absurd same digest_quadrilaterals_ne
  · exact absurd same.symm digest_quadrilaterals_ne
  · rfl

/-- A device for quadrilaterals has no program for triangles. -/
theorem refused_triangles
    {sources : Sources} {linker : Linker}
    (translated : quadrilaterals.sources = .ok sources)
    (honest : linker.fallback = false) (host : Dedicated sources.toList) :
    ∃ error, (linker.assemble host triangles).result = .error error := by
  obtain ⟨stages, staged, two⟩ := stages_triangles
  obtain ⟨others, same, three⟩ := stages_quadrilaterals
  obtain ⟨found, again, generated, -⟩ :=
    PipelineState.stages_of_sources translated
  obtain rfl : others = found := by
    rw [same] at again
    exact Except.ok.inj again
  have length : sources.toList.length = 3 := by
    simpa [three] using (congrArg List.length generated).symm
  exact Dedicated.assemble_of_length_ne host honest staged (by omega)

/-! ## Asking after anything -/

/--
On a fresh cache for which nothing was stored, and without the fallback
program, every answer is the program of the configuration.
-/
theorem lookup_transparent
    {settings : Settings} {vendor : String} {tree : FileTree}
    (host : device) (requests : List Request) (state : PipelineState)
    (honest : settings.fallback = false)
    (unstaged : (start settings vendor tree).1.staged = []) :
    let served := (start settings vendor tree).1.serveAll host requests
    let looked := served.cache.lookup served.host state
    ∀ {answer}, looked.answer = .ok answer →
      (∃ sources,
        state.sources = .ok sources ∧
          (holdings looked.host).programs answer.program =
            some sources.toList ∧
          answer.assembly = sources.assembly) ∧
        (answer.origin = .memory ∨ answer.origin = .built) ∧
        (answer.origin = .memory → looked.host = served.host) := by
  intro served looked answer answered
  have fresh : (start settings vendor tree).1.Faithful host :=
    .start host honest (by simp [unstaged])
  have faithful : served.cache.Faithful served.host := fresh.serveAll requests
  have empty : served.cache.staged = [] := by
    have fewer := serveAll_staged (start settings vendor tree).1 host requests
    rw [unstaged] at fewer
    exact List.sublist_nil.mp fewer
  refine ⟨(faithful.lookup state).answered answered, ?_⟩
  rcases lookup_origin answered with ⟨memory, same⟩ | built | ⟨-, waiting⟩
  · exact ⟨Or.inl memory, fun _ => same⟩
  · refine ⟨Or.inr built, ?_⟩
    rw [built]
    rintro ⟨⟩
  · exact absurd empty waiting

/-- The second answer for a configuration is from memory, and is right. -/
theorem lookup_transparent_quadrilaterals :
    ∃ sources,
      quadrilaterals.sources = .ok sources ∧
        let served :=
          (start {} "" .empty).1.serveAll (Dedicated.new sources.toList)
            [.lookup quadrilaterals]
        let looked := served.cache.lookup served.host quadrilaterals
        ∃ answer,
          looked.answer = .ok answer ∧
            answer.origin = .memory ∧
            looked.host = served.host ∧
            (holdings looked.host).programs answer.program =
              some sources.toList ∧
            answer.assembly = sources.assembly := by
  obtain ⟨sources, translated⟩ :
      ∃ sources, quadrilaterals.sources = .ok sources :=
    ⟨_, rfl⟩
  have unstaged : (start {} "" .empty).1.staged = [] := rfl
  obtain ⟨answer, first⟩ :=
    lookup_dedicated rfl unstaged (by decide) translated
  have again :=
    (Faithful.start _ rfl (by simp [unstaged])).lookup_again first
  rw [← serveAll_singleton] at again
  refine ⟨sources, translated, { answer with origin := .memory }, again, rfl,
    ?_⟩
  obtain ⟨⟨found, same, live, drawn⟩, -, untouched⟩ :=
    lookup_transparent (Dedicated.new sources.toList)
      [.lookup quadrilaterals] quadrilaterals rfl unstaged again
  obtain rfl : sources = found := by
    rw [translated] at same
    exact Except.ok.inj same
  exact ⟨untouched rfl, live, drawn⟩

end ShaderSynth.Cache
