import ShaderSynth.Proofs.Cache.Persistence

/-!
# What is saved

A program that has to go is saved under its configuration, unless it came from
a file.  A program that came from a linker is the program of the configuration,
or the fallback program where that is asked for, and the cache does not tell
the two apart when it saves.  So what is saved can be relied on, on every
device and in every run, just if there is no fallback program or nothing is
saved.
-/

namespace ShaderSynth.Cache

open LawfulDevice (holdings contents)

/-! ## Effects that save -/

section Effects

variable {device : Type} [Device device]

/-- Only a program that is not stored yet is saved, with its own binary. -/
theorem mem_evict_effects
    {cache : Cache} {host : device} {digest : UInt64} {slot : Slot}
    {effect : Effect}
    (member : effect ∈ (cache.evict host digest slot).effects) :
    effect = .await digest ∨
      cache.settings.persists = true ∧
        slot.persisted = false ∧
        ∃ binary after,
          Device.binary host slot.linked.program = (some binary, after) ∧
            effect = .save digest ⟨slot.state, binary⟩ := by
  unfold evict persist at member
  dsimp only at member
  split at member
  · rename_i wanted
    obtain ⟨persists, unsaved⟩ :
        cache.settings.persists = true ∧ slot.persisted = false := by
      simpa using wanted
    split at member
    · cases member
    · rename_i binary after given
      rcases List.mem_pair.mp member with awaited | saved
      · exact Or.inl awaited
      · exact Or.inr ⟨persists, unsaved, binary, after, given, saved⟩
  · cases member

/-- Getting a program saves nothing. -/
theorem not_mem_fetch_effects
    {cache : Cache} {host : device} {digest saved : UInt64}
    {state : PipelineState} {entry : Store.Entry} :
    .save saved entry ∉ (cache.fetch host digest state).effects := by
  have unsaved (current : Cache) (last : device) :
      .save saved entry ∉ (current.build last state).effects := by
    intro member
    obtain ⟨line, report⟩ := build_effects current last state _ member
    cases report
  unfold fetch
  dsimp only
  split
  · exact unsaved _ _
  · split
    · unfold restore
      split
      · exact List.not_mem_nil
      · intro member
        simp only [List.mem_append, List.mem_cons] at member
        rcases member with (report | discarded) | built
        · cases report
        · split at discarded
          · simp at discarded
          · cases discarded
        · exact unsaved _ _ built
    · exact unsaved _ _

/-- A lookup saves what has to make room for it. -/
theorem saved_of_lookup
    {cache : Cache} {host : device} {state : PipelineState}
    {saved : UInt64} {entry : Store.Entry}
    (member : .save saved entry ∈ (cache.lookup host state).effects) :
    .save saved entry ∈ (cache.vacate host state.digest).effects := by
  rcases cache.lookup_cases host state with
    ⟨slot, statistics, -, -, hit⟩ | ⟨-, missed⟩
  · rw [hit] at member
    cases member
  · rw [missed, lookupMissing_effects] at member
    exact (List.mem_append.mp member).resolve_right not_mem_fetch_effects

theorem saved_of_vacate
    {cache : Cache} {host : device} {digest saved : UInt64}
    {entry : Store.Entry}
    (member : .save saved entry ∈ (cache.vacate host digest).effects) :
    let statistics :=
      { cache.statistics with misses := cache.statistics.misses + 1 }
    let cleared := { cache with statistics }.removeStale host digest
    .save saved entry ∈ (cleared.cache.makeRoom cleared.host).effects := by
  intro statistics cleared
  have quiet : .save saved entry ∉ cleared.effects := by
    simp only [cleared, removeStale]
    split <;> simp
  rcases List.mem_append.mp member with stale | rest
  · exact absurd stale quiet
  · rcases List.mem_cons.mp rest with awaited | roomy
    · cases awaited
    · exact roomy

theorem saved_of_flush
    {cache : Cache} {host : device} {saved : UInt64} {entry : Store.Entry}
    (member : .save saved entry ∈ (cache.flush host).effects) :
    .save saved entry ∈ (cache.evictOldest cache.slots.size host).effects := by
  rcases List.mem_append.mp member with evicted | rest
  · exact evicted
  · rcases List.mem_cons.mp rest with awaited | published
    · cases awaited
    · split at published
      · simp at published
      · cases published

end Effects

/-! ## Programs that are not stored yet -/

/-- A device gives away the binaries of its programs as they are. -/
def Candid (device : Type) [Device device] [LawfulDevice device] : Prop :=
  ∀ {host after : device} {program : ProgramId} {texts : List String}
    {binary : ProgramBinary},
    (holdings host).programs program = some texts →
      Device.binary host program = (some binary, after) →
        contents device binary = some texts

/-- A program that is not stored yet came from a linker. -/
def Slot.Linked (fallback : Bool) : Standard := fun slot texts =>
  slot.persisted = false →
    Linker.Makes fallback slot.state slot.linked texts

/-- What a cache saves: programs of their configurations, or of the fallback. -/
def Settings.Allows
    (settings : Settings) (device : Type) [Device device] [LawfulDevice device]
    (entry : Store.Entry) : Prop :=
  settings.persists = true ∧
    (entry.Genuine device ∨
      settings.fallback = true ∧
        contents device entry.binary = some Linker.fallbackSources)

variable {device : Type} [Device device] [LawfulDevice device]

theorem admits_linked
    (fallback : Bool) (staged : List (UInt64 × Store.Entry)) :
    Admits device (Slot.Linked fallback) fallback staged where
  built := fun makes _ => makes
  restored := by
    rintro entry linked texts - - - ⟨⟩

variable {cache : Cache} {host : device}

theorem allowed_of_evict
    {digest saved : UInt64} {slot : Slot} {entry : Store.Entry}
    (candid : Candid device)
    (member : .save saved entry ∈ (cache.evict host digest slot).effects)
    (meets :
      Slot.Meets slot (Slot.Linked cache.settings.fallback)
        (holdings host)) :
    cache.settings.Allows device entry := by
  rcases mem_evict_effects member with
    awaited | ⟨persists, unsaved, binary, after, given, same⟩
  · cases awaited
  · cases same
    obtain ⟨texts, live, suits⟩ := meets
    have known := candid live given
    refine ⟨persists, ?_⟩
    rcases suits unsaved with ⟨sources, translated, rfl, -⟩ | ⟨asked, rfl⟩
    · exact Or.inl ⟨sources, translated, known⟩
    · exact Or.inr ⟨asked, known⟩

theorem allowed_of_evictOldest
    {count : Nat} {saved : UInt64} {entry : Store.Entry}
    (candid : Candid device)
    (keeps : cache.Keeps (Slot.Linked cache.settings.fallback) host)
    (member : .save saved entry ∈ (cache.evictOldest count host).effects) :
    cache.settings.Allows device entry := by
  refine
    (evictOldest_invariant
      (fun current last effects =>
        current.settings = cache.settings ∧
          current.Keeps (Slot.Linked cache.settings.fallback) last ∧
          ∀ saved entry, .save saved entry ∈ effects →
            cache.settings.Allows device entry)
      ?_ count [] ⟨rfl, keeps, fun _ _ none => absurd none (by simp)⟩).2.2
      saved entry member
  rintro current last effects digest slot slots popped ⟨same, keeps, earlier⟩
  refine ⟨?_, keeps.evict popped, ?_⟩
  · obtain ⟨statistics, evicted⟩ :=
      evict_cache { current with slots } last digest slot
    rw [evicted]
    exact same
  · intro saved entry member
    rcases List.mem_append.mp member with old | new
    · exact earlier saved entry old
    · have oldest : (digest, slot) ∈ current.slots.entries := by
        simp [Lru.entries_of_popLast? popped]
      rw [← same] at keeps ⊢
      have allowed :=
        allowed_of_evict candid new (keeps.meets _ oldest)
      exact allowed

theorem allowed_of_vacate
    {digest saved : UInt64} {entry : Store.Entry}
    (candid : Candid device)
    (keeps : cache.Keeps (Slot.Linked cache.settings.fallback) host)
    (member : .save saved entry ∈ (cache.vacate host digest).effects) :
    cache.settings.Allows device entry := by
  let counted : Cache :=
    { cache with
      statistics :=
        { cache.statistics with misses := cache.statistics.misses + 1 } }
  have counting :
      counted.Keeps (Slot.Linked counted.settings.fallback) host :=
    ⟨keeps.objects, keeps.meets, keeps.distinct⟩
  obtain ⟨slots, -, cleared⟩ := removeStale_cache counted host digest
  have same :
      (counted.removeStale host digest).cache.settings = counted.settings := by
    rw [cleared]
  have left := counting.removeStale digest
  rw [← same] at left
  have allowed := allowed_of_evictOldest candid left (saved_of_vacate member)
  rwa [same] at allowed

/-! ## Whole runs -/

/-- What a cache has saved so far, and what it may save yet. -/
structure Saves
    (settings : Settings) (cache : Cache) (host : device)
    (effects : List Effect) : Prop where
  configured : cache.settings = settings
  fallback : cache.linker.fallback = settings.fallback
  keeps : cache.Keeps (Slot.Linked settings.fallback) host
  saved :
    ∀ {saved entry}, .save saved entry ∈ effects →
      settings.Allows device entry

namespace Saves

variable {settings : Settings} {effects : List Effect}

theorem lookup
    (candid : Candid device) (state : PipelineState)
    (saves : Saves settings cache host effects) :
    Saves settings (cache.lookup host state).cache
      (cache.lookup host state).host
      (effects ++ (cache.lookup host state).effects) := by
  obtain ⟨rfl, fallback, keeps, saved⟩ := saves
  have looked := keeps.lookup (fallback ▸ admits_linked _ _) state
  refine
    ⟨lookup_settings cache host state, looked.fallback.trans fallback,
      looked.keeps, ?_⟩
  intro digest entry member
  rcases List.mem_append.mp member with old | new
  · exact saved old
  · exact allowed_of_vacate candid keeps (saved_of_lookup new)

theorem flush
    (candid : Candid device) (saves : Saves settings cache host effects) :
    Saves settings (cache.flush host).cache (cache.flush host).host
      (effects ++ (cache.flush host).effects) := by
  obtain ⟨rfl, fallback, keeps, saved⟩ := saves
  obtain ⟨slots, statistics, -, evicted⟩ :=
    evictOldest_cache cache.slots.size cache host
  refine ⟨?_, ?_, keeps.flush, ?_⟩
  · show (cache.evictOldest cache.slots.size host).cache.settings = _
    rw [evicted]
  · show (cache.evictOldest cache.slots.size host).cache.linker.fallback = _
    rw [evicted]
    exact fallback
  · intro digest entry member
    rcases List.mem_append.mp member with old | new
    · exact saved old
    · exact allowed_of_evictOldest candid keeps (saved_of_flush new)

/-- What is made ready is not saved again. -/
theorem stage
    (digest : UInt64) (loaded : Option Store.Entry)
    (saves : Saves settings cache host effects) :
    Saves settings (cache.stage digest loaded).1 host
      (effects ++ (cache.stage digest loaded).2) := by
  have keeps := saves.keeps.stage digest loaded
  obtain ⟨staged, order, rejects, same, few⟩ := cache.stage_cache digest loaded
  rw [same] at keeps ⊢
  refine ⟨saves.configured, saves.fallback, keeps, ?_⟩
  intro other entry member
  rcases List.mem_append.mp member with old | new
  · exact saves.saved old
  · cases List.mem_singleton.mp (few new)

theorem takeAll
    (candid : Candid device) (turns : List Turn)
    (saves : Saves settings cache host []) :
    Saves settings (cache.takeAll host turns).cache
      (cache.takeAll host turns).host
      (cache.takeAll host turns).effects := by
  refine takeAll_invariant (Saves settings) ?_ [] saves
  rintro ((state | _) | ⟨digest, loaded⟩) - current last effects saves
  · exact saves.lookup candid state
  · exact saves.flush candid
  · exact saves.stage digest loaded

theorem new
    (settings : Settings) (vendor : String) (staging : Store.Staging)
    (host : device) :
    Saves settings (Cache.new settings vendor staging) host [] where
  configured := rfl
  fallback := rfl
  keeps := .new settings vendor staging host
  saved := fun none => absurd none (by simp)

end Saves

/-! ## The fallback program is saved -/

theorem candid_dedicated (known : List String) :
    Candid (Dedicated known) := by
  intro host after program texts binary live given
  obtain ⟨found, last, same, certain, -⟩ :=
    RestoringDevice.binary_of_live live
  rw [same] at given
  obtain ⟨rfl, -⟩ : found = binary ∧ last = after := by simpa using given
  exact certain

/-- A new program is saved when the cache is emptied, whichever it is. -/
theorem effects_first
    {device : Type} [Device device] [LawfulDevice device]
    [RestoringDevice device]
    {settings : Settings} (vendor : String) (tree : FileTree)
    {state : PipelineState} {host : device} {linked : LinkedProgram}
    {texts : List String}
    (persists : settings.persists = true)
    (assembled :
      ((Linker.new settings.objectCapacity settings.fallback).assemble host
        state).result = .ok linked)
    (live :
      (holdings
        ((Linker.new settings.objectCapacity settings.fallback).assemble host
          state).host).programs linked.program = some texts) :
    ∃ binary reports,
      contents device binary = some texts ∧
        binary.bytes.length ≤ Store.maxFieldLength ∧
        (∀ effect ∈ reports, ∃ line, effect = Effect.report line) ∧
        ((new settings vendor ⟨[], 0, tree⟩).serveAll host
          [.lookup state, .flush]).effects =
            Effect.await state.digest :: reports ++
              [Effect.await state.digest,
                Effect.save state.digest ⟨state, binary⟩, Effect.awaitAll,
                Effect.publish [state.digest]] := by
  let cache := new settings vendor ⟨[], 0, tree⟩
  have empty : cache.slots.entries = [] := rfl
  have unstaged : cache.staged = [] := rfl
  obtain ⟨linker, statistics, reports, quiet, looked⟩ :=
    lookup_first empty unstaged assembled
  obtain ⟨binary, after, given, known, short⟩ :=
    RestoringDevice.binary_of_live live
  refine ⟨binary, reports, known, short, quiet, ?_⟩
  have flushed :
      ((cache.lookup host state).cache.flush
        (cache.lookup host state).host).effects =
          [.await state.digest, .save state.digest ⟨state, binary⟩,
            .awaitAll, .publish [state.digest]] := by
    rw [looked]
    apply flush_single ⟨state, linked, false⟩
    · exact persists
    · rfl
    · rfl
    · exact unstaged
    · exact given
  show (cache.lookup host state).effects ++
    (((cache.lookup host state).cache.flush
      (cache.lookup host state).host).effects ++ []) = _
  rw [flushed, looked]
  simp

/-- Where programs are saved and may be replaced, a replacement is saved. -/
theorem effects_fallback
    {settings : Settings} (vendor : String) (tree : FileTree)
    (persists : settings.persists = true)
    (fallback : settings.fallback = true) :
    ∃ binary reports,
      contents (Dedicated Linker.fallbackSources) binary =
          some Linker.fallbackSources ∧
        binary.bytes.length ≤ Store.maxFieldLength ∧
        (∀ effect ∈ reports, ∃ line, effect = Effect.report line) ∧
        ((new settings vendor ⟨[], 0, tree⟩).serveAll
          (Dedicated.new Linker.fallbackSources)
          [.lookup quadrilaterals, .flush]).effects =
            Effect.await quadrilaterals.digest :: reports ++
              [Effect.await quadrilaterals.digest,
                Effect.save quadrilaterals.digest ⟨quadrilaterals, binary⟩,
                Effect.awaitAll, Effect.publish [quadrilaterals.digest]] := by
  obtain ⟨stages, staged, three⟩ := stages_quadrilaterals
  have different : stages.toList.length ≠ 2 := by omega
  have possible :
      (Linker.new settings.objectCapacity settings.fallback).fallback =
        true :=
    fallback
  obtain ⟨linked, assembled, live⟩ :=
    Dedicated.assemble_fallback (Dedicated.new Linker.fallbackSources)
      possible staged different
  exact effects_first vendor tree persists assembled live

theorem not_genuine_fallback
    {known : List String} {binary : ProgramBinary}
    (contained :
      contents (Dedicated known) binary = some Linker.fallbackSources) :
    ¬ Store.Entry.Genuine (Dedicated known) ⟨quadrilaterals, binary⟩ := by
  rintro ⟨sources, translated, same⟩
  obtain ⟨stages, staged, three⟩ := stages_quadrilaterals
  obtain ⟨found, again, generated, -⟩ :=
    PipelineState.stages_of_sources translated
  obtain rfl : stages = found := by
    rw [staged] at again
    exact Except.ok.inj again
  have length := congrArg List.length generated
  rw [contained] at same
  rw [List.length_map, List.length_map, ← Option.some.inj same, three]
    at length
  cases length

/--
What a cache saves can be relied on just if it does not both save programs and
replace programs that cannot be built: then, on any device that tells the truth
about its programs and in any run, every entry that is saved holds the program
of its configuration.  Otherwise there are devices on which the fallback
program is saved in its place.
-/
theorem saved_genuine_iff (settings : Settings) :
    (∀ (device : Type) [Device device] [LawfulDevice device],
      Candid device →
        ∀ (host : device) (vendor : String) (staging : Store.Staging)
          (turns : List Turn) (digest : UInt64) (entry : Store.Entry),
          .save digest entry ∈
              ((new settings vendor staging).takeAll host turns).effects →
            entry.Genuine device) ↔
      ¬ (settings.persists = true ∧ settings.fallback = true) := by
  constructor
  · rintro always ⟨persists, fallback⟩
    obtain ⟨binary, reports, known, -, -, effects⟩ :=
      effects_fallback "" .empty persists fallback
    refine not_genuine_fallback known ?_
    refine
      always (Dedicated Linker.fallbackSources)
        (candid_dedicated Linker.fallbackSources)
        (Dedicated.new Linker.fallbackSources) "" ⟨[], 0, .empty⟩
        ([.lookup quadrilaterals, .flush].map .request) quadrilaterals.digest
        ⟨quadrilaterals, binary⟩ ?_
    rw [takeAll_map_request, effects]
    simp
  · intro either device _ _ candid host vendor staging turns digest entry
      saved
    obtain ⟨persists, genuine | ⟨fallback, -⟩⟩ :=
      ((Saves.new settings vendor staging host).takeAll candid turns).saved
        saved
    · exact genuine
    · exact absurd ⟨persists, fallback⟩ either

/-! ## The fallback program is recreated -/

/-- The index and the entry of one program are read back together. -/
theorem preload_saved
    {stamp : Store.Stamp} {binary : ProgramBinary}
    {effects reports : List Effect}
    (fits : stamp.Fits)
    (short : binary.bytes.length ≤ Store.maxFieldLength)
    (quiet : ∀ effect ∈ reports, ∃ line, effect = Effect.report line)
    (listed :
      effects =
        Effect.await quadrilaterals.digest :: reports ++
          [Effect.await quadrilaterals.digest,
            Effect.save quadrilaterals.digest ⟨quadrilaterals, binary⟩,
            Effect.awaitAll, Effect.publish [quadrilaterals.digest]]) :
    let after := (performAll "c" stamp effects .empty).tree
    Store.preload "c" stamp after =
      ⟨[(quadrilaterals.digest, ⟨quadrilaterals, binary⟩)], 0, after⟩ := by
  intro after
  obtain ⟨saved, final, written, published, -⟩ :=
    writes_quadrilaterals stamp ⟨quadrilaterals, binary⟩
  have last : after = final := by
    unfold after
    rw [listed]
    exact (succeed_saved quiet written published).2
  have entry : Store.Entry.Fits stamp ⟨quadrilaterals, binary⟩ :=
    ⟨fits, trivial, short⟩
  obtain ⟨-, -, -, readable⟩ := Store.writeIndex_spec published
  rw [last]
  apply Store.preload_spec
  · exact readable
  · exact List.nodup_singleton _
  · intro item member
    obtain rfl := List.mem_singleton.mp member
    exact Store.load_of_writeIndex published
      (Store.load_of_write entry rfl written)

/--
The fallback program takes the place of a program that cannot be linked, is
saved under its configuration, and is what the next session answers with.
-/
theorem fallback_saved_quadrilaterals :
    let settings : Settings := { directory := some "c", fallback := true }
    let host := Dedicated.new Linker.fallbackSources
    let served :=
      (start settings "" .empty).1.serveAll host
        [.lookup quadrilaterals, .flush]
    let after :=
      (performAll "c" ⟨settings.version, ""⟩ served.effects .empty).tree
    let looked :=
      (start { directory := some "c" } "" after).1.lookup host quadrilaterals
    (∃ entry,
      .save quadrilaterals.digest entry ∈ served.effects ∧
        ¬ entry.Genuine (Dedicated Linker.fallbackSources)) ∧
      ∃ answer,
        looked.answer = .ok answer ∧
          answer.origin = .stored ∧
          (holdings looked.host).programs answer.program =
            some Linker.fallbackSources := by
  intro settings host served after looked
  have opened :
      (start settings "" .empty).1 = new settings "" ⟨[], 0, .empty⟩ := by
    have none :
        Store.preload "c" ⟨settings.version, ""⟩ .empty = ⟨[], 0, .empty⟩ :=
      Store.preload_spec readIndex_empty List.nodup_nil (by simp)
    show new settings "" (Store.preload "c" ⟨settings.version, ""⟩ .empty) = _
    rw [none]
  have persists : settings.persists = true := rfl
  have fallback : settings.fallback = true := rfl
  obtain ⟨binary, reports, known, short, quiet, effects⟩ :=
    effects_fallback "" .empty persists fallback
  rw [← opened] at effects
  have fits : Store.Stamp.Fits ⟨settings.version, ""⟩ :=
    ⟨by decide, by decide⟩
  have preloaded := preload_saved fits short quiet effects
  have restarted :
      (start { directory := some "c" } "" after).1 =
        new { directory := some "c" } ""
          ⟨[(quadrilaterals.digest, ⟨quadrilaterals, binary⟩)], 0, after⟩ := by
    show
      new { directory := some "c" } ""
        (Store.preload "c" ⟨settings.version, ""⟩ after) = _
    rw [preloaded]
  obtain ⟨stages, staged, -⟩ := stages_quadrilaterals
  refine ⟨⟨_, ?_, not_genuine_fallback known⟩, ?_⟩
  · simp only [served]
    rw [effects]
    simp
  · have same : (Store.Entry.mk quadrilaterals binary).state = quadrilaterals :=
      rfl
    have absent :
        (start { directory := some "c" } "" after).1.slots.get?
          quadrilaterals.digest = none :=
      rfl
    have found :
        (start { directory := some "c" } "" after).1.staged.lookup
          quadrilaterals.digest = some ⟨quadrilaterals, binary⟩ := by
      rw [restarted]
      exact List.lookup_cons_self
    obtain ⟨answer, done, origin, -, -, live⟩ :=
      lookup_stored host same absent found staged known
    simp only [looked]
    exact ⟨answer, done, origin, live⟩

end ShaderSynth.Cache
