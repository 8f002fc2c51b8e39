import ShaderSynth.Proofs.Cache.Recency

/-!
# Configurations without sources

A configuration that has no sources has no program either, and a cache says
why.  The geometry of a draw is planned before anything is built, but the
vertex program is only looked at when its stage is to be compiled.  A linker
that replaces what it cannot build does not tell such a program from one that
the device rejects, so a faulty vertex program is answered with the fallback
program.  In all other cases the error of the sources is the answer, the device
is not asked to build anything, and nothing is kept.
-/

namespace ShaderSynth

/-! ## Where sources are missing -/

/-- A stage that a plan asks for has a source. -/
theorem StageKey.source_geometry
    {state : GeometryState} {shading : Shading} {plan : Geometry.Plan}
    {layout : Geometry.Layout}
    (planned : Geometry.plan state shading = .ok plan)
    (needed : plan.layout = some layout) :
    (StageKey.geometry state shading).source =
      .ok (Glsl.itemsText (layout.source shading)) := by
  simp [StageKey.source, StageKey.items, planned, needed, Except.map]

theorem StageKey.source_fragment (state : PixelState) (shading : Shading) :
    (StageKey.fragment state shading).source =
      .ok (Glsl.itemsText (Fragment.source state shading)) :=
  rfl

theorem StageKey.source_vertex_error
    {state : VertexState} {shading : Shading} {renamed : Bool}
    {error : SourceError}
    (failed : (StageKey.vertex state shading renamed).source = .error error) :
    ∃ fault, error = .vertex fault := by
  simp only [StageKey.source, StageKey.items] at failed
  cases generated : Vertex.source state shading renamed with
  | error fault =>
      rw [generated] at failed
      exact ⟨fault, (Except.error.inj failed).symm⟩
  | ok items =>
      rw [generated] at failed
      cases failed

namespace PipelineState

variable {state : PipelineState} {error : SourceError}

/-- Sources are missing for lack of a geometry or of a vertex program. -/
theorem sources_eq_error (untranslated : state.sources = .error error) :
    (state.stages = .error error ∧ ¬ ∃ fault, error = .vertex fault) ∨
      ∃ stages fault,
        state.stages = .ok stages ∧
          stages.vertex.source = .error error ∧
          error = .vertex fault := by
  unfold PipelineState.sources at untranslated
  cases planned : Geometry.plan state.geometry state.shading with
  | error cause =>
      have staged : state.stages = .error (.geometry cause) := by
        simp [stages, planned]
      rw [staged] at untranslated
      cases untranslated
      exact Or.inl ⟨staged, by simp⟩
  | ok plan =>
      let key :=
        StageKey.vertex state.vertex state.shading plan.layout.isSome
      have staged :
          state.stages =
            .ok
              { vertex := key
                geometry :=
                  plan.layout.map fun _ =>
                    .geometry state.geometry state.shading
                fragment := .fragment state.pixel state.shading
                assembly := plan.assembly } := by
        simp [stages, planned, key]
      rw [staged] at untranslated
      cases generated : key.source with
      | error cause =>
          have same : cause = error := by
            simpa [bind, Except.bind, generated] using untranslated
          obtain ⟨fault, vertex⟩ := StageKey.source_vertex_error generated
          exact Or.inr ⟨_, fault, staged, same ▸ generated, same ▸ vertex⟩
      | ok text =>
          -- The other stages have sources whatever they are made from.
          cases needed : plan.layout with
          | none =>
              simp [bind, Except.bind, generated, needed, pure, Except.pure,
                StageKey.source_fragment] at untranslated
          | some layout =>
              simp [bind, Except.bind, generated, needed, pure, Except.pure,
                StageKey.source_fragment, Functor.map, Except.map,
                StageKey.source_geometry planned needed] at untranslated

end PipelineState

namespace Linker

variable {device : Type} [Device device] {linker : Linker}

/-! ## Stages that a linker knows -/

/-- Every stage that a linker knows has a source. -/
def Sourced (linker : Linker) : Prop :=
  ∀ entry ∈ linker.objects.entries, ∃ text, entry.1.source = .ok text

theorem sourced_new (capacity : Capacity) (fallback : Bool) :
    (Linker.new capacity fallback).Sourced := by
  intro entry member
  simp [Linker.new, Lru.empty] at member

/-- What every step of building leaves of a linker. -/
structure Stays (before after : Linker) : Prop where
  sourced : before.Sourced → after.Sourced
  fallback : after.fallback = before.fallback

theorem Stays.refl (linker : Linker) : linker.Stays linker :=
  ⟨id, rfl⟩

theorem Stays.trans
    {first second third : Linker}
    (left : first.Stays second) (right : second.Stays third) :
    first.Stays third :=
  ⟨fun sourced => right.sourced (left.sourced sourced),
    right.fallback.trans left.fallback⟩

theorem keep_stays
    (linker : Linker) (host : device) {key : StageKey} (shader : ShaderId)
    {text : String} (generated : key.source = .ok text) :
    linker.Stays (linker.keep host key shader).1 := by
  refine ⟨fun sourced entry member => ?_, rfl⟩
  rcases Lru.mem_of_mem_insert member with rfl | old
  · exact ⟨text, generated⟩
  · exact sourced entry old

theorem object_stays (linker : Linker) (host : device) (key : StageKey) :
    linker.Stays (linker.object host key).linker := by
  unfold object
  split
  · exact
      ⟨fun sourced entry member => sourced entry (Lru.mem_of_mem_touch member),
        rfl⟩
  · dsimp only
    split
    · exact .refl linker
    · rename_i text generated
      split
      · exact .refl linker
      · rename_i shader after _
        exact keep_stays linker after shader generated

theorem objectsOf_stays
    (linker : Linker) (host : device) (keys : List StageKey) :
    linker.Stays (linker.objectsOf host keys).linker := by
  induction keys generalizing linker host with
  | nil => exact .refl linker
  | cons key rest ih =>
      have first := object_stays linker host key
      unfold objectsOf
      dsimp only
      split
      · exact first
      · exact first.trans (ih _ _)

theorem build_stays (linker : Linker) (host : device) (stages : Stages) :
    linker.Stays (linker.build host stages).linker := by
  have collected := objectsOf_stays linker host stages.toList
  unfold build
  dsimp only
  split
  · exact collected
  · split
    · exact collected
    · exact collected

theorem assemble_stays
    (linker : Linker) (host : device) (state : PipelineState) :
    linker.Stays (linker.assemble host state).linker := by
  unfold assemble
  split
  · exact .refl linker
  · rename_i stages staged
    have built := build_stays linker host stages
    dsimp only
    split
    · exact built
    · split
      · exact built
      · exact built

theorem clear_stays (linker : Linker) (host : device) :
    linker.Stays (linker.clear host).1 := by
  refine ⟨fun _ entry member => ?_, rfl⟩
  simp [clear, Lru.clear, Lru.empty] at member

/-! ## Stages without a source -/

/-- A stage without a source is not found among those that a linker knows. -/
theorem object_unsourced
    {key : StageKey} {error : SourceError} (host : device)
    (sourced : linker.Sourced) (failed : key.source = .error error) :
    linker.object host key =
      ⟨.error (.source error), linker, host,
        key.warnings.map .warning⟩ := by
  have unknown : linker.objects.get? key = none := by
    cases found : linker.objects.get? key with
    | none => rfl
    | some shader =>
        obtain ⟨text, generated⟩ :=
          sourced _ (Lru.mem_entries_of_get? found)
        rw [failed] at generated
        cases generated
  unfold object
  rw [unknown]
  dsimp only
  rw [failed]

/-- The vertex stage comes first, so nothing is compiled before it fails. -/
theorem build_unsourced
    {stages : Stages} {error : SourceError} (host : device)
    (sourced : linker.Sourced)
    (failed : stages.vertex.source = .error error) :
    linker.build host stages =
      ⟨.error (.source error), linker, host,
        stages.vertex.warnings.map .warning⟩ := by
  have first := object_unsourced host sourced failed
  unfold build Stages.toList
  simp only [List.cons_append, objectsOf, first]

/-- Unless a linker replaces it, a faulty configuration leaves no trace. -/
theorem assemble_unsourced
    {state : PipelineState} {error : SourceError} (host : device)
    (sourced : linker.Sourced)
    (untranslated : state.sources = .error error)
    (kept : ¬ (linker.fallback = true ∧ ∃ fault, error = .vertex fault)) :
    (linker.assemble host state).result = .error (.source error) ∧
      (linker.assemble host state).host = host := by
  unfold assemble
  rcases PipelineState.sources_eq_error untranslated with
    ⟨staged, -⟩ | ⟨stages, fault, staged, failed, vertex⟩
  · rw [staged]
    exact ⟨rfl, rfl⟩
  · have honest : ¬ linker.fallback = true :=
      fun asked => kept ⟨asked, fault, vertex⟩
    rw [staged]
    dsimp only
    rw [build_unsourced host sourced failed]
    dsimp only
    rw [if_neg honest]
    exact ⟨rfl, rfl⟩

/-- A linker that may replace programs replaces one that is faulty. -/
theorem assemble_replaced
    {state : PipelineState} {fault : Microcode.ProgramError} (host : device)
    (sourced : linker.Sourced)
    (untranslated : state.sources = .error (.vertex fault))
    (asked : linker.fallback = true) :
    ∃ assembly,
      (linker.assemble host state).result =
          (buildFallback host assembly).1.mapError
            (fun _ => .source (.vertex fault)) ∧
        (linker.assemble host state).host =
          (buildFallback host assembly).2 := by
  rcases PipelineState.sources_eq_error untranslated with
    ⟨-, other⟩ | ⟨stages, -, staged, failed, -⟩
  · exact absurd ⟨fault, rfl⟩ other
  · refine ⟨stages.assembly, ?_⟩
    unfold assemble
    rw [staged]
    dsimp only
    rw [build_unsourced host sourced failed]
    dsimp only
    rw [if_pos asked]
    exact ⟨rfl, rfl⟩

end Linker

/-! ## Caches -/

/-- All that a device was asked for is binaries, and to delete programs. -/
inductive Retires {device : Type} [Device device] (before : device) :
    device → Prop where
  | refl : Retires before before
  | binary {host : device} (program : ProgramId) :
      Retires before host →
        Retires before (Device.binary host program).2
  | deleteProgram {host : device} (program : ProgramId) :
      Retires before host →
        Retires before (Device.deleteProgram host program)

namespace Cache

variable {device : Type} [Device device] {settings : Settings} {cache : Cache}

/-- The caches that come about, on devices in whatever condition. -/
inductive Reached (device : Type) [Device device] (settings : Settings) :
    Cache → Prop where
  | new (vendor : String) (staging : Store.Staging) :
      Reached device settings (new settings vendor staging)
  | serve {cache : Cache} (host : device) (request : Request) :
      Reached device settings cache →
        Reached device settings (cache.serve host request).cache
  | stage {cache : Cache} (digest : UInt64) (loaded : Option Store.Entry) :
      Reached device settings cache →
        Reached device settings (cache.stage digest loaded).1
  | edit {cache : Cache} (host : device) (digest : UInt64)
      (change : LinkedProgram → device → LinkedProgram × device) :
      Reached device settings cache →
        Reached device settings (cache.edit host digest change).1

/-- A program of the configuration is in the cache, or waits for it. -/
def Offers (cache : Cache) (state : PipelineState) : Prop :=
  (∃ slot,
    cache.slots.get? state.digest = some slot ∧ slot.state = state) ∨
    ∃ entry,
      cache.staged.lookup state.digest = some entry ∧ entry.state = state

/-! ### The linker of a cache -/

theorem build_linker
    (cache : Cache) (host : device) (state : PipelineState) :
    (cache.build host state).cache.linker =
      (cache.linker.assemble host state).linker := by
  unfold build
  dsimp only
  split
  · rfl
  · rfl

theorem fetch_stays
    (cache : Cache) (host : device) (digest : UInt64)
    (state : PipelineState) :
    cache.linker.Stays (cache.fetch host digest state).cache.linker := by
  have built (current : Cache) (last : device)
      (same : current.linker = cache.linker) :
      cache.linker.Stays (current.build last state).cache.linker := by
    rw [build_linker, same]
    exact Linker.assemble_stays _ _ _
  unfold fetch
  dsimp only
  split
  · exact built _ _ rfl
  · split
    · unfold restore
      split
      · exact .refl _
      · exact built _ _ rfl
    · exact built _ _ rfl

theorem lookup_stays
    (cache : Cache) (host : device) (state : PipelineState) :
    cache.linker.Stays (cache.lookup host state).cache.linker := by
  rcases cache.lookup_cases host state with
    ⟨slot, statistics, -, -, hit⟩ | ⟨-, missed⟩
  · rw [hit]
    exact .refl _
  · obtain ⟨slots, statistics, -, vacated⟩ :=
      cache.vacate_cache host state.digest
    have fetched :=
      fetch_stays (cache.vacate host state.digest).cache
        (cache.vacate host state.digest).host state.digest state
    obtain ⟨_, got⟩ := cache.lookupMissing_cache host state.digest state
    rw [vacated] at fetched
    rw [missed, got, vacated]
    exact fetched

theorem flush_stays (cache : Cache) (host : device) :
    cache.linker.Stays (cache.flush host).cache.linker := by
  obtain ⟨slots, statistics, -, evicted⟩ :=
    evictOldest_cache cache.slots.size cache host
  have cleared :=
    Linker.clear_stays (cache.evictOldest cache.slots.size host).cache.linker
      (cache.evictOldest cache.slots.size host).host
  unfold flush
  dsimp only
  rw [evicted] at cleared ⊢
  exact cleared

theorem Reached.linker (reached : Reached device settings cache) :
    cache.linker.Sourced ∧ cache.linker.fallback = settings.fallback := by
  induction reached with
  | new vendor staging => exact ⟨Linker.sourced_new _ _, rfl⟩
  | @serve current host request _ ih =>
      have stays :
          current.linker.Stays (current.serve host request).cache.linker := by
        cases request with
        | lookup state => exact lookup_stays current host state
        | flush => exact flush_stays current host
      exact ⟨stays.sourced ih.1, stays.fallback.trans ih.2⟩
  | @stage current digest loaded _ ih =>
      obtain ⟨_, _, _, same, -⟩ := current.stage_cache digest loaded
      rw [same]
      exact ih
  | edit host digest change _ ih =>
      unfold Cache.edit
      split
      · exact ih
      · exact ih

/-! ### Making room -/

theorem persist_retires
    (cache : Cache) {before host : device} (digest : UInt64) (slot : Slot)
    (retires : Retires before host) :
    Retires before (cache.persist host digest slot).host := by
  have asked := retires.binary slot.linked.program
  unfold persist
  split
  · split
    · rename_i after given
      rw [given] at asked
      exact asked
    · rename_i binary after given
      rw [given] at asked
      exact asked
  · exact retires

theorem vacate_retires (cache : Cache) (host : device) (digest : UInt64) :
    Retires host (cache.vacate host digest).host := by
  unfold vacate makeRoom
  dsimp only
  refine
    evictOldest_invariant
      (fun (_ : Cache) current (_ : List Effect) => Retires host current)
      ?_ _ [] ?_
  · intro current last effects digest slot slots _ retires
    unfold evict
    exact (persist_retires _ digest slot retires).deleteProgram _
  · unfold removeStale
    split
    · exact .refl
    · exact Retires.refl.deleteProgram _

/-! ### Refusals -/

/-- What waits for another configuration is of no use. -/
theorem fetch_of_unstaged
    {digest : UInt64} {state : PipelineState} (host : device)
    (unstaged :
      ∀ entry, cache.staged.lookup digest = some entry →
        entry.state ≠ state) :
    ∃ staged,
      cache.fetch host digest state =
        { cache with staged }.build host state := by
  unfold fetch
  dsimp only
  split
  · exact ⟨cache.staged, rfl⟩
  · rename_i entry found
    rw [if_neg (unstaged entry found)]
    exact ⟨_, rfl⟩

/-- A configuration that is not offered is built by the linker. -/
theorem lookup_of_unoffered
    {state : PipelineState} (host : device)
    (unoffered : ¬ cache.Offers state) :
    ∃ ready : Cache,
      ready.linker = cache.linker ∧
        ready.slots.entries.Sublist cache.slots.entries ∧
        let last := (cache.vacate host state.digest).host
        let built := ready.build last state
        (cache.lookup host state).host = built.host ∧
          (∀ error, built.slot = .error error →
            (cache.lookup host state).answer = .error error ∧
              (cache.lookup host state).cache = built.cache) ∧
          ∀ slot origin, built.slot = .ok (slot, origin) →
            (cache.lookup host state).answer =
              .ok (Slot.answer slot origin state.digest) := by
  rcases cache.lookup_cases host state with
    ⟨slot, -, found, same, -⟩ | ⟨-, missed⟩
  · exact absurd (Or.inl ⟨slot, found, same⟩) unoffered
  · obtain ⟨slots, statistics, fewer, vacated⟩ :=
      cache.vacate_cache host state.digest
    have unstaged :
        ∀ entry,
          (cache.vacate host state.digest).cache.staged.lookup state.digest =
              some entry →
            entry.state ≠ state := by
      rw [vacated]
      intro entry found same
      exact unoffered (Or.inr ⟨entry, found, same⟩)
    obtain ⟨staged, fetched⟩ :=
      fetch_of_unstaged (cache.vacate host state.digest).host unstaged
    refine
      ⟨{ (cache.vacate host state.digest).cache with staged }, ?_, ?_, ?_⟩
    · rw [vacated]
    · rw [vacated]
      exact fewer
    · have answers := cache.lookupMissing_cases host state.digest state
      dsimp only at answers ⊢
      rw [fetched] at answers
      rw [missed]
      rcases answers with ⟨error, failed, refused⟩ | ⟨slot, origin, done, got⟩
      · rw [refused]
        refine ⟨rfl, ?_, ?_⟩
        · intro other again
          rw [failed] at again
          cases again
          exact ⟨rfl, rfl⟩
        · intro slot origin done
          rw [failed] at done
          cases done
      · rw [got]
        refine ⟨rfl, ?_, ?_⟩
        · intro error failed
          rw [done] at failed
          cases failed
        · intro other origin again
          rw [done] at again
          cases again
          rfl

/-- Unless the linker replaces it, a faulty configuration is refused. -/
theorem lookup_refused
    {state : PipelineState} {error : SourceError} (host : device)
    (reached : Reached device settings cache)
    (unoffered : ¬ cache.Offers state)
    (untranslated : state.sources = .error error)
    (kept :
      ¬ (settings.fallback = true ∧ ∃ fault, error = .vertex fault)) :
    (cache.lookup host state).answer = .error (.source error) ∧
      Retires host (cache.lookup host state).host ∧
      (cache.lookup host state).cache.slots.entries.Sublist
        cache.slots.entries := by
  obtain ⟨sourced, configured⟩ := reached.linker
  obtain ⟨ready, same, fewer, left, refused, -⟩ :=
    lookup_of_unoffered host unoffered
  rw [← configured, ← same] at kept
  rw [← same] at sourced
  obtain ⟨failed, untouched⟩ :=
    Linker.assemble_unsourced (cache.vacate host state.digest).host sourced
      untranslated kept
  have built :
      (ready.build (cache.vacate host state.digest).host state).slot =
          .error (.source error) ∧
        (ready.build (cache.vacate host state.digest).host state).host =
          (cache.vacate host state.digest).host := by
    unfold build
    dsimp only
    rw [failed]
    exact ⟨rfl, untouched⟩
  obtain ⟨answer, rest⟩ := refused _ built.1
  obtain ⟨linker, statistics, unchanged⟩ :=
    ready.build_cache (cache.vacate host state.digest).host state
  refine ⟨answer, ?_, ?_⟩
  · rw [left, built.2]
    exact cache.vacate_retires host state.digest
  · rw [rest, unchanged]
    exact fewer

/-- A linker that replaces programs has an answer for a faulty one. -/
theorem lookup_replaced
    {state : PipelineState} {fault : Microcode.ProgramError}
    (host : Dedicated Linker.fallbackSources)
    (reached :
      Reached (Dedicated Linker.fallbackSources) settings cache)
    (unoffered : ¬ cache.Offers state)
    (untranslated : state.sources = .error (.vertex fault))
    (asked : settings.fallback = true) :
    ∃ answer,
      (cache.lookup host state).answer = .ok answer ∧
        answer.origin = .built ∧
        (LawfulDevice.holdings (cache.lookup host state).host).programs
          answer.program = some Linker.fallbackSources := by
  obtain ⟨sourced, configured⟩ := reached.linker
  obtain ⟨ready, same, -, left, -, answered⟩ :=
    lookup_of_unoffered host unoffered
  rw [← same] at sourced configured
  obtain ⟨assembly, result, last⟩ :=
    Linker.assemble_replaced (cache.vacate host state.digest).host sourced
      untranslated (configured.trans asked)
  obtain ⟨linked, made⟩ :=
    Dedicated.buildFallback_ok (cache.vacate host state.digest).host assembly
  have live := (Linker.buildFallback_makes made).2
  rw [made, mapError_ok] at result
  obtain ⟨linker, statistics, reports, -, built⟩ :=
    build_of_assembled result
  rw [built] at left answered
  refine ⟨_, answered _ _ rfl, rfl, ?_⟩
  rw [left]
  dsimp only
  rw [last]
  exact live

theorem unoffered_new
    (settings : Settings) (vendor : String) (tree : FileTree)
    (state : PipelineState) :
    ¬ (new settings vendor ⟨[], 0, tree⟩).Offers state := by
  rintro (⟨slot, found, -⟩ | ⟨entry, found, -⟩)
  · simp [new, Lru.get?, Lru.empty] at found
  · simp [new] at found

/--
A configuration without sources is refused for the reason that it has none, and
without anything being built or kept, just if programs are not replaced or the
vertex program is not to blame.
-/
theorem untranslated_refused_iff
    (settings : Settings) {state : PipelineState} {error : SourceError}
    (untranslated : state.sources = .error error) :
    (∀ (device : Type) [Device device] (cache : Cache) (host : device),
      Reached device settings cache →
        ¬ cache.Offers state →
          (cache.lookup host state).answer = .error (.source error) ∧
            Retires host (cache.lookup host state).host ∧
            (cache.lookup host state).cache.slots.entries.Sublist
              cache.slots.entries) ↔
      ¬ (settings.fallback = true ∧ ∃ fault, error = .vertex fault) := by
  constructor
  · rintro always ⟨asked, fault, rfl⟩
    let cache := new settings "" ⟨[], 0, .empty⟩
    have reached : Reached (Dedicated Linker.fallbackSources) settings cache :=
      .new "" ⟨[], 0, .empty⟩
    have unoffered := unoffered_new settings "" .empty state
    obtain ⟨answer, answered, -, -⟩ :=
      lookup_replaced (Dedicated.new Linker.fallbackSources) reached unoffered
        untranslated asked
    have refused :=
      (always _ cache (Dedicated.new Linker.fallbackSources) reached
        unoffered).1
    rw [answered] at refused
    cases refused
  · intro kept device _ cache host reached unoffered
    exact lookup_refused host reached unoffered untranslated kept

/-- Triangles whose vertex program has no instructions, and so no last one. -/
def unfinished : PipelineState :=
  { (default : PipelineState) with
    vertex :=
      { (default : PipelineState).vertex with
        program := .microcode ⟨[], false⟩ }
    geometry := ⟨.triangles, .fill, .fill⟩ }

/-- A program without a last instruction is refused if none is replaced. -/
theorem untranslated_refused_unfinished :
    unfinished.sources = .error (.vertex (.missingFinal 0)) ∧
      ((new {} "" ⟨[], 0, .empty⟩).lookup
        (Dedicated.new Linker.fallbackSources) unfinished).answer =
          .error (.source (.vertex (.missingFinal 0))) := by
  have untranslated :
      unfinished.sources = .error (.vertex (.missingFinal 0)) := rfl
  refine ⟨untranslated, ?_⟩
  exact
    ((untranslated_refused_iff {} untranslated).mpr (by simp) _ _ _
      (.new "" ⟨[], 0, .empty⟩) (unoffered_new _ _ _ _)).1

/-- A program without a last instruction is answered with the fallback program. -/
theorem untranslated_replaced_unfinished :
    let cache := new { fallback := true } "" ⟨[], 0, .empty⟩
    let looked :=
      cache.lookup (Dedicated.new Linker.fallbackSources) unfinished
    unfinished.sources = .error (.vertex (.missingFinal 0)) ∧
      ¬ cache.Offers unfinished ∧
      ∃ answer,
        looked.answer = .ok answer ∧
          answer.origin = .built ∧
          (LawfulDevice.holdings looked.host).programs answer.program =
            some Linker.fallbackSources := by
  intro cache looked
  have untranslated :
      unfinished.sources = .error (.vertex (.missingFinal 0)) := rfl
  have unoffered := unoffered_new { fallback := true } "" .empty unfinished
  have replaced :=
    lookup_replaced (Dedicated.new Linker.fallbackSources)
      (.new "" ⟨[], 0, .empty⟩) unoffered untranslated rfl
  simp only [looked, cache]
  exact ⟨untranslated, unoffered, replaced⟩

end Cache

end ShaderSynth
