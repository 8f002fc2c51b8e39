import ShaderSynth.Cache.Lookup
import ShaderSynth.Proofs.Linker

/-!
# Runs of a program cache

A cache serves requests: it is asked for programs and told to empty itself, in
any order.  Stored programs may still be made ready in between, so that a run
takes turns of both kinds.  Besides the runs, this module says what the steps
of a turn leave alone, and which objects of the device they delete.
-/

namespace ShaderSynth.Cache

open LawfulDevice (holdings)

/-- What a cache is asked to do. -/
inductive Request where
  | lookup (state : PipelineState)
  | flush

/-- What happens to a cache. -/
inductive Turn where
  | request (request : Request)
  /-- A stored program is made ready, if it could be loaded. -/
  | stage (digest : UInt64) (loaded : Option Store.Entry)

section Runs

variable {device : Type} [Device device]

/-! ## Runs -/

/-- Serves a request. -/
def serve (cache : Cache) (host : device) : Request → Outcome device
  | .lookup state => (cache.lookup host state).toOutcome
  | .flush => cache.flush host

/-- Serves requests in turn. -/
def serveAll (cache : Cache) (host : device) :
    List Request → Outcome device
  | [] => ⟨cache, host, []⟩
  | request :: rest =>
      let first := cache.serve host request
      let others := first.cache.serveAll first.host rest
      { others with effects := first.effects ++ others.effects }

/-- Takes a turn. -/
def take (cache : Cache) (host : device) : Turn → Outcome device
  | .request request => cache.serve host request
  | .stage digest loaded =>
      let (staged, effects) := cache.stage digest loaded
      ⟨staged, host, effects⟩

/-- Takes turns. -/
def takeAll (cache : Cache) (host : device) : List Turn → Outcome device
  | [] => ⟨cache, host, []⟩
  | turn :: rest =>
      let first := cache.take host turn
      let others := first.cache.takeAll first.host rest
      { others with effects := first.effects ++ others.effects }

/-- Requests alone are turns too. -/
theorem takeAll_map_request
    (cache : Cache) (host : device) (requests : List Request) :
    cache.takeAll host (requests.map .request) =
      cache.serveAll host requests := by
  induction requests generalizing cache host with
  | nil => rfl
  | cons request rest ih =>
      simp only [List.map_cons, takeAll, take, serveAll, ih]

/-- Asks for programs in turn. -/
def lookupAll (cache : Cache) (host : device) (states : List PipelineState) :
    Outcome device :=
  cache.serveAll host (states.map .lookup)

/--
What every turn keeps, a run keeps.  The property may speak of the effects of
the run so far.
-/
theorem takeAll_invariant
    (property : Cache → device → List Effect → Prop)
    {turns : List Turn}
    (kept :
      ∀ turn ∈ turns, ∀ {cache host effects},
        property cache host effects →
          property (cache.take host turn).cache (cache.take host turn).host
            (effects ++ (cache.take host turn).effects))
    {cache : Cache} {host : device} (effects : List Effect)
    (holds : property cache host effects) :
    property (cache.takeAll host turns).cache
      (cache.takeAll host turns).host
      (effects ++ (cache.takeAll host turns).effects) := by
  induction turns generalizing cache host effects with
  | nil => simpa [takeAll] using holds
  | cons turn rest ih =>
      have first := kept turn (by simp) holds
      have others :=
        ih (fun other member => kept other (by simp [member])) _ first
      simpa [takeAll, List.append_assoc] using others

/-- What every request keeps, a run of requests keeps. -/
theorem serveAll_invariant
    (property : Cache → device → List Effect → Prop)
    {requests : List Request}
    (kept :
      ∀ request ∈ requests, ∀ {cache host effects},
        property cache host effects →
          property (cache.serve host request).cache
            (cache.serve host request).host
            (effects ++ (cache.serve host request).effects))
    {cache : Cache} {host : device} (effects : List Effect)
    (holds : property cache host effects) :
    property (cache.serveAll host requests).cache
      (cache.serveAll host requests).host
      (effects ++ (cache.serveAll host requests).effects) := by
  rw [← takeAll_map_request]
  refine takeAll_invariant property ?_ effects holds
  intro turn member
  obtain ⟨request, listed, rfl⟩ := List.mem_map.mp member
  exact kept request listed

/--
Making a program ready counts at most a reject, and has no effect but to remove
what could not be loaded.
-/
theorem stage_cache
    (cache : Cache) (digest : UInt64) (loaded : Option Store.Entry) :
    ∃ staged order rejects,
      (cache.stage digest loaded).1 =
          { cache with
            staged, order
            statistics := { cache.statistics with rejects } } ∧
        (cache.stage digest loaded).2 ⊆ [.discard digest] := by
  unfold stage
  split
  · exact ⟨_, _, _, rfl, List.nil_subset _⟩
  · split
    · exact ⟨_, _, _, rfl, List.nil_subset _⟩
    · exact ⟨_, _, _, rfl, List.Subset.refl _⟩

/-- Loads the entry of a digest from its file and makes it ready. -/
def load (base : String) (opened : Cache × FileTree) (digest : UInt64) :
    Cache × FileTree :=
  let loaded := Store.load base digest opened.1.stamp opened.2
  let staged := opened.1.stage digest loaded.toOption
  (staged.1, (performAll base opened.1.stamp staged.2 opened.2).tree)

theorem load_new
    (base : String) (settings : Settings) (vendor : String)
    (staging : Store.Staging) (digest : UInt64) :
    let added := staging.add base ⟨settings.version, vendor⟩ digest
    load base (new settings vendor staging, staging.tree) digest =
      (new settings vendor added, added.tree) := by
  unfold load Store.Staging.add
  dsimp only [stage, new]
  split
  · rfl
  · cases Store.load base digest ⟨settings.version, vendor⟩ staging.tree with
    | ok entry => simp [Except.toOption, performAll]
    | error error =>
        simp only [Except.toOption, performAll, Effect.perform]
        split <;> simp [*]

theorem foldl_load_new
    (base : String) (settings : Settings) (vendor : String)
    (digests : List UInt64) (staging : Store.Staging) :
    let added :=
      digests.foldl (Store.Staging.add base ⟨settings.version, vendor⟩) staging
    digests.foldl (load base) (new settings vendor staging, staging.tree) =
      (new settings vendor added, added.tree) := by
  induction digests generalizing staging with
  | nil => rfl
  | cons digest rest ih =>
      rw [List.foldl_cons, List.foldl_cons, load_new]
      exact ih _

/--
A cache that is started with everything ready has loaded what the index lists,
entry by entry, before the first request.
-/
theorem start_eq_foldl_load
    {settings : Settings} {base : String} {tree : FileTree}
    {digests : List UInt64} (vendor : String)
    (located : settings.directory = some base)
    (listed : Store.readIndex base tree = .ok digests) :
    start settings vendor tree =
      digests.foldl (load base)
        (new settings vendor ⟨[], 0, tree⟩, tree) := by
  unfold start
  rw [located]
  dsimp only [Store.preload]
  rw [listed]
  exact (foldl_load_new base settings vendor digests ⟨[], 0, tree⟩).symm

/-- What every eviction keeps, evicting several programs keeps. -/
theorem evictOldest_invariant
    (property : Cache → device → List Effect → Prop)
    (kept :
      ∀ {cache : Cache} {host effects digest slot slots},
        cache.slots.popLast? = some ((digest, slot), slots) →
          property cache host effects →
            property ({ cache with slots }.evict host digest slot).cache
              ({ cache with slots }.evict host digest slot).host
              (effects ++
                ({ cache with slots }.evict host digest slot).effects))
    (count : Nat) {cache : Cache} {host : device} (effects : List Effect)
    (holds : property cache host effects) :
    property (evictOldest count cache host).cache
      (evictOldest count cache host).host
      (effects ++ (evictOldest count cache host).effects) := by
  induction count generalizing cache host effects with
  | zero => simpa [evictOldest] using holds
  | succ count ih =>
      unfold evictOldest
      split
      · simpa using holds
      · rename_i digest slot slots popped
        have others := ih _ (kept popped holds)
        simpa [List.append_assoc] using others

/-! ## Programs that have to go -/

/-- Saving a program touches nothing of the cache but its statistics. -/
theorem persist_cache
    (cache : Cache) (host : device) (digest : UInt64) (slot : Slot) :
    ∃ statistics,
      (cache.persist host digest slot).cache = { cache with statistics } := by
  unfold persist
  split
  · split
    · exact ⟨cache.statistics, rfl⟩
    · exact ⟨_, rfl⟩
  · exact ⟨cache.statistics, rfl⟩

theorem evict_cache
    (cache : Cache) (host : device) (digest : UInt64) (slot : Slot) :
    ∃ statistics,
      (cache.evict host digest slot).cache = { cache with statistics } := by
  unfold evict
  dsimp only
  obtain ⟨statistics, persisted⟩ :=
    persist_cache
      { cache with
        statistics :=
          { cache.statistics with
            evictions := cache.statistics.evictions + 1 } }
      host digest slot
  exact ⟨statistics, persisted⟩

/-- Evicting programs leaves fewer slots and changes the statistics. -/
theorem evictOldest_cache (count : Nat) (cache : Cache) (host : device) :
    ∃ slots statistics,
      slots.entries.Sublist cache.slots.entries ∧
        (evictOldest count cache host).cache =
          { cache with slots, statistics } := by
  refine
    evictOldest_invariant
      (fun current (_ : device) _ =>
        ∃ slots statistics,
          slots.entries.Sublist cache.slots.entries ∧
            current = { cache with slots, statistics })
      ?_ count [] ⟨cache.slots, cache.statistics, .refl _, rfl⟩
  rintro current host effects digest slot rest popped
    ⟨slots, statistics, kept, rfl⟩
  obtain ⟨counted, evicted⟩ :=
    evict_cache { cache with slots := rest, statistics } host digest slot
  refine ⟨rest, counted, ?_, evicted⟩
  rw [Lru.entries_of_popLast? popped] at kept
  exact (List.sublist_append_left _ _).trans kept

theorem removeStale_cache
    (cache : Cache) (host : device) (digest : UInt64) :
    ∃ slots,
      slots.entries.Sublist cache.slots.entries ∧
        (cache.removeStale host digest).cache = { cache with slots } := by
  unfold removeStale
  split
  · exact ⟨cache.slots, .refl _, rfl⟩
  · exact ⟨_, cache.slots.entries_erase_sublist digest, rfl⟩

/-! ## Programs that are asked for -/

theorem length_resident (cache : Cache) :
    cache.resident.length = cache.slots.size :=
  List.length_map _

theorem get?_of_not_resident
    {cache : Cache} {digest : UInt64} (absent : digest ∉ cache.resident) :
    cache.slots.get? digest = none := by
  rw [← Option.not_isSome_iff_eq_none, Lru.get?_isSome_iff]
  exact absent

theorem removeStale_absent (cache : Cache) (host : device) (digest : UInt64) :
    digest ∉ (cache.removeStale host digest).cache.slots.keys := by
  unfold removeStale
  split
  · rename_i missing
    rw [← Lru.get?_isSome_iff, missing]
    simp
  · exact cache.slots.not_mem_keys_erase digest

/-- Building a program touches the linker and the statistics only. -/
theorem build_cache
    (cache : Cache) (host : device) (state : PipelineState) :
    ∃ linker statistics,
      (cache.build host state).cache = { cache with linker, statistics } := by
  unfold build
  dsimp only
  split
  · exact ⟨_, cache.statistics, rfl⟩
  · exact ⟨_, _, rfl⟩

theorem build_slot
    {cache : Cache} {host : device} {state : PipelineState} {slot : Slot}
    {origin : Origin}
    (done : (cache.build host state).slot = .ok (slot, origin)) :
    slot.state = state ∧ slot.persisted = false ∧ origin = .built := by
  unfold build at done
  dsimp only at done
  split at done
  · cases done
  · cases done
    exact ⟨rfl, rfl, rfl⟩

theorem build_effects
    (cache : Cache) (host : device) (state : PipelineState) :
    ∀ effect ∈ (cache.build host state).effects,
      ∃ line, effect = .report line := by
  unfold build
  dsimp only
  split
  all_goals
    intro effect member
    obtain ⟨report, -, rfl⟩ := List.mem_map.mp member
    exact ⟨_, rfl⟩

theorem build_of_assembled
    {cache : Cache} {host : device} {state : PipelineState}
    {linked : LinkedProgram}
    (assembled : (cache.linker.assemble host state).result = .ok linked) :
    ∃ linker statistics reports,
      (∀ effect ∈ reports, ∃ line, effect = Effect.report line) ∧
        cache.build host state =
          ⟨⟨{ cache with linker, statistics },
            (cache.linker.assemble host state).host, reports⟩,
            .ok (⟨state, linked, false⟩, .built)⟩ := by
  have quiet := cache.build_effects host state
  unfold build at quiet ⊢
  dsimp only at quiet ⊢
  rw [assembled] at quiet ⊢
  exact ⟨_, _, _, quiet, rfl⟩

theorem build_of_refused
    {cache : Cache} {host : device} {state : PipelineState}
    {error : BuildError}
    (refused : (cache.linker.assemble host state).result = .error error) :
    ∃ linker after reports,
      (∀ effect ∈ reports, ∃ line, effect = Effect.report line) ∧
        cache.build host state =
          ⟨⟨{ cache with linker }, after, reports⟩, .error error⟩ := by
  have quiet := cache.build_effects host state
  unfold build at quiet ⊢
  dsimp only at quiet ⊢
  rw [refused] at quiet ⊢
  exact ⟨_, _, _, quiet, rfl⟩

/-- What waits under a digest is taken, whether or not it is of use. -/
theorem fetch_cache
    (cache : Cache) (host : device) (digest : UInt64)
    (state : PipelineState) :
    ∃ linker statistics,
      (cache.fetch host digest state).cache =
        { cache with
          linker, statistics
          staged := cache.staged.filter fun entry => entry.1 ≠ digest } := by
  unfold fetch
  dsimp only
  split
  · rename_i absent
    obtain ⟨linker, statistics, built⟩ := cache.build_cache host state
    refine ⟨linker, statistics, ?_⟩
    rw [built, List.filter_eq_self.mpr]
    intro entry member
    have different := List.lookup_eq_none_iff.mp absent entry member
    rw [bne_iff_ne] at different
    exact decide_eq_true different.symm
  · split
    · unfold restore
      split
      · exact ⟨_, _, rfl⟩
      · exact build_cache _ _ _
    · exact build_cache _ _ _

/-- A program is built, or recreated from what waited for it. -/
theorem fetch_slot
    {cache : Cache} {host : device} {digest : UInt64}
    {state : PipelineState} {slot : Slot} {origin : Origin}
    (done : (cache.fetch host digest state).slot = .ok (slot, origin)) :
    slot.state = state ∧
      (slot.persisted = false ∧ origin = .built ∨
        origin = .stored ∧
          ∃ entry,
            cache.staged.lookup digest = some entry ∧
              entry.state = state) := by
  unfold fetch at done
  dsimp only at done
  split at done
  · obtain ⟨same, built⟩ := build_slot done
    exact ⟨same, Or.inl built⟩
  · rename_i entry found
    split at done
    · rename_i equal
      unfold restore at done
      split at done
      · cases done
        exact ⟨rfl, Or.inr ⟨rfl, entry, found, equal⟩⟩
      · obtain ⟨same, built⟩ := build_slot done
        exact ⟨same, Or.inl built⟩
    · obtain ⟨same, built⟩ := build_slot done
      exact ⟨same, Or.inl built⟩

/-- Makes a place for a program that is not in the cache. -/
def vacate (cache : Cache) (host : device) (digest : UInt64) :
    Outcome device :=
  let statistics :=
    { cache.statistics with misses := cache.statistics.misses + 1 }
  let cleared := { cache with statistics }.removeStale host digest
  let roomy := cleared.cache.makeRoom cleared.host
  { roomy with effects := cleared.effects ++ .await digest :: roomy.effects }

theorem vacate_cache (cache : Cache) (host : device) (digest : UInt64) :
    ∃ slots statistics,
      slots.entries.Sublist cache.slots.entries ∧
        (cache.vacate host digest).cache =
          { cache with slots, statistics } := by
  obtain ⟨slots, fewer, cleared⟩ :=
    removeStale_cache
      { cache with
        statistics :=
          { cache.statistics with misses := cache.statistics.misses + 1 } }
      host digest
  unfold vacate makeRoom
  dsimp only
  generalize removeStale _ host digest = outcome at cleared ⊢
  obtain ⟨rest, statistics, kept, evicted⟩ :=
    evictOldest_cache
      (outcome.cache.slots.size + 1 - outcome.cache.slots.capacity.size)
      outcome.cache outcome.host
  rw [cleared] at kept
  refine ⟨rest, statistics, kept.trans fewer, ?_⟩
  rw [evicted, cleared]

/-- Where nothing is kept under the digest, only room has to be made. -/
theorem vacate_of_absent
    {cache : Cache} (host : device) {digest : UInt64}
    (absent : cache.slots.get? digest = none) :
    ∃ statistics,
      let roomy := { cache with statistics }.makeRoom host
      cache.vacate host digest =
        { roomy with effects := .await digest :: roomy.effects } := by
  unfold vacate removeStale
  simp only [absent]
  exact ⟨_, rfl⟩

/-- A program that is missing is got, and kept if there is one. -/
theorem lookupMissing_cases
    (cache : Cache) (host : device) (digest : UInt64)
    (state : PipelineState) :
    let ready := cache.vacate host digest
    let fetched := ready.cache.fetch ready.host digest state
    (∃ error,
      fetched.slot = .error error ∧
        cache.lookupMissing host digest state =
          ⟨⟨fetched.cache, fetched.host, ready.effects ++ fetched.effects⟩,
            .error error⟩) ∨
      ∃ slot origin,
        fetched.slot = .ok (slot, origin) ∧
          cache.lookupMissing host digest state =
            ⟨⟨fetched.cache.addSlot digest slot, fetched.host,
              ready.effects ++ fetched.effects⟩,
              .ok (Slot.answer slot origin digest)⟩ := by
  intro ready fetched
  cases done : fetched.slot with
  | error error =>
      refine Or.inl ⟨error, rfl, ?_⟩
      simp only [lookupMissing, fetched, ready, vacate] at done ⊢
      rw [done]
  | ok got =>
      refine Or.inr ⟨got.1, got.2, rfl, ?_⟩
      simp only [lookupMissing, fetched, ready, vacate] at done ⊢
      rw [done]

/-- Whether or not there is a program, getting it has the same effects. -/
theorem lookupMissing_effects
    (cache : Cache) (host : device) (digest : UInt64)
    (state : PipelineState) :
    let ready := cache.vacate host digest
    (cache.lookupMissing host digest state).effects =
      ready.effects ++
        (ready.cache.fetch ready.host digest state).effects := by
  rcases cache.lookupMissing_cases host digest state with
    ⟨error, -, failed⟩ | ⟨slot, origin, -, got⟩
  · rw [failed]
  · rw [got]

/-- A program that is got changes nothing more than the slots. -/
theorem lookupMissing_cache
    (cache : Cache) (host : device) (digest : UInt64)
    (state : PipelineState) :
    let ready := cache.vacate host digest
    ∃ slots,
      (cache.lookupMissing host digest state).cache =
        { (ready.cache.fetch ready.host digest state).cache with slots } := by
  rcases cache.lookupMissing_cases host digest state with
    ⟨error, -, failed⟩ | ⟨slot, origin, -, got⟩
  · exact ⟨_, by rw [failed]⟩
  · exact ⟨_, by rw [got, addSlot]⟩

/-- A program is in the cache, or it is got. -/
theorem lookup_cases
    (cache : Cache) (host : device) (state : PipelineState) :
    (∃ slot statistics,
      cache.slots.get? state.digest = some slot ∧
        slot.state = state ∧
        cache.lookup host state =
          ⟨⟨{ cache with
              slots := cache.slots.touch state.digest, statistics },
            host, []⟩, .ok (Slot.answer slot .memory state.digest)⟩) ∨
      ((∀ slot, cache.slots.get? state.digest = some slot →
          slot.state ≠ state) ∧
        cache.lookup host state =
          cache.lookupMissing host state.digest state) := by
  unfold lookup
  dsimp only
  cases found : cache.slots.get? state.digest with
  | none => exact Or.inr ⟨by rintro slot ⟨⟩, rfl⟩
  | some slot =>
      by_cases same : slot.state = state
      · exact Or.inl ⟨slot, _, rfl, same, if_pos same⟩
      · refine Or.inr ⟨?_, if_neg same⟩
        rintro other ⟨⟩
        exact same

theorem makeRoom_of_empty
    (cache : Cache) (host : device) (empty : cache.slots.entries = []) :
    cache.makeRoom host = ⟨cache, host, []⟩ := by
  unfold makeRoom
  generalize cache.slots.size + 1 - cache.slots.capacity.size = count
  cases count with
  | zero => rfl
  | succ count => simp [evictOldest, Lru.popLast?, empty]

/-- The first program of a cache is built, and is all it keeps. -/
theorem lookup_first
    {cache : Cache} {host : device} {state : PipelineState}
    {linked : LinkedProgram}
    (empty : cache.slots.entries = []) (unstaged : cache.staged = [])
    (assembled : (cache.linker.assemble host state).result = .ok linked) :
    let slot : Slot := ⟨state, linked, false⟩
    ∃ linker statistics reports,
      (∀ effect ∈ reports, ∃ line, effect = Effect.report line) ∧
        cache.lookup host state =
          ⟨⟨{ cache with
              slots := ⟨cache.slots.capacity, [(state.digest, slot)]⟩
              linker, statistics },
            (cache.linker.assemble host state).host,
            .await state.digest :: reports⟩,
            .ok (Slot.answer slot .built state.digest)⟩ := by
  intro slot
  have missing : cache.slots.get? state.digest = none := by
    simp [Lru.get?, empty]
  have missed : cache.lookup host state =
      cache.lookupMissing host state.digest state := by
    simp only [lookup, missing]
  obtain ⟨statistics, vacated⟩ := vacate_of_absent host missing
  let counted : Cache := { cache with statistics }
  have fetched : counted.fetch host state.digest state =
      counted.build host state := by
    simp [counted, fetch, unstaged]
  obtain ⟨linker, counts, reports, quiet, built⟩ :=
    build_of_assembled (show (counted.linker.assemble host state).result =
      .ok linked from assembled)
  dsimp only at vacated
  rw [makeRoom_of_empty counted host empty] at vacated
  rw [missed]
  rcases cache.lookupMissing_cases host state.digest state with
    ⟨error, failed, -⟩ | ⟨got, origin, found, kept⟩
  · rw [vacated, fetched, built] at failed
    cases failed
  · rw [vacated, fetched, built] at found kept
    cases found
    refine ⟨linker, counts, reports, quiet, ?_⟩
    rw [kept]
    unfold addSlot
    rw [Lru.insert_of_room slot (by simp [counted, Lru.keys, empty])
      (by simpa [counted, Lru.size, empty] using cache.slots.capacity.size_pos)]
    simp [counted, slot, empty]

/-- Room is made for a program that cannot be built, and stays empty. -/
theorem lookup_unbuilt
    {cache : Cache} (host : device) {state : PipelineState}
    (absent : cache.slots.get? state.digest = none)
    (unstaged : cache.staged.lookup state.digest = none)
    (refused :
      ∀ host : device,
        ∃ error, (cache.linker.assemble host state).result = .error error) :
    let ready := cache.vacate host state.digest
    ∃ linker after reports error,
      (∀ effect ∈ reports, ∃ line, effect = Effect.report line) ∧
        cache.lookup host state =
          ⟨⟨{ ready.cache with linker }, after, ready.effects ++ reports⟩,
            .error error⟩ := by
  intro ready
  have missed :
      cache.lookup host state =
        cache.lookupMissing host state.digest state := by
    simp only [lookup, absent]
  obtain ⟨slots, statistics, -, vacated⟩ :=
    cache.vacate_cache host state.digest
  have fetched :
      ready.cache.fetch ready.host state.digest state =
        ready.cache.build ready.host state := by
    simp only [ready, vacated, fetch, unstaged]
  obtain ⟨error, failed⟩ :
      ∃ error,
        (ready.cache.linker.assemble ready.host state).result =
          .error error := by
    simp only [ready, vacated]
    exact refused _
  obtain ⟨linker, after, reports, quiet, built⟩ := build_of_refused failed
  rw [missed]
  rcases cache.lookupMissing_cases host state.digest state with
    ⟨other, found, got⟩ | ⟨slot, origin, found, -⟩
  · rw [got, fetched, built]
    exact ⟨linker, after, reports, other, quiet, rfl⟩
  · rw [fetched, built] at found
    cases found

theorem lookupMissing_staged
    (cache : Cache) (host : device) (digest : UInt64)
    (state : PipelineState) :
    (cache.lookupMissing host digest state).cache.staged =
      cache.staged.filter fun entry => entry.1 ≠ digest := by
  obtain ⟨_, _, -, vacated⟩ := cache.vacate_cache host digest
  obtain ⟨_, _, fetched⟩ :=
    fetch_cache (cache.vacate host digest).cache
      (cache.vacate host digest).host digest state
  obtain ⟨_, missed⟩ := cache.lookupMissing_cache host digest state
  rw [missed, fetched, vacated]

/-- A lookup takes what waits, and changes neither settings nor the order. -/
theorem lookup_cache
    (cache : Cache) (host : device) (state : PipelineState) :
    ∃ slots linker staged statistics,
      staged.Sublist cache.staged ∧
        (cache.lookup host state).cache =
          { cache with slots, linker, staged, statistics } := by
  obtain ⟨_, _, -, vacated⟩ := cache.vacate_cache host state.digest
  obtain ⟨_, _, fetched⟩ :=
    fetch_cache (cache.vacate host state.digest).cache
      (cache.vacate host state.digest).host state.digest state
  obtain ⟨_, got⟩ := cache.lookupMissing_cache host state.digest state
  rcases cache.lookup_cases host state with
    ⟨slot, statistics, -, -, hit⟩ | ⟨-, missed⟩
  · exact ⟨_, _, _, _, .refl _, by rw [hit]⟩
  · exact ⟨_, _, _, _, List.filter_sublist,
      by rw [missed, got, fetched, vacated]⟩

/-- The digests under which something waits. -/
def waiting (cache : Cache) : List UInt64 :=
  cache.staged.map Prod.fst

theorem lookup_staged
    (cache : Cache) (host : device) (state : PipelineState) :
    (cache.lookup host state).cache.staged.Sublist cache.staged := by
  obtain ⟨_, _, _, _, fewer, looked⟩ := cache.lookup_cache host state
  rwa [looked]

theorem lookup_order
    (cache : Cache) (host : device) (state : PipelineState) :
    (cache.lookup host state).cache.order = cache.order := by
  obtain ⟨_, _, _, _, -, looked⟩ := cache.lookup_cache host state
  rw [looked]

theorem lookup_settings
    (cache : Cache) (host : device) (state : PipelineState) :
    (cache.lookup host state).cache.settings = cache.settings := by
  obtain ⟨_, _, _, _, -, looked⟩ := cache.lookup_cache host state
  rw [looked]

/-- Emptying a cache leaves what waits. -/
theorem flush_cache (cache : Cache) (host : device) :
    ∃ slots linker statistics,
      (cache.flush host).cache =
        { cache with slots, linker, statistics } := by
  obtain ⟨_, _, -, evicted⟩ := evictOldest_cache cache.slots.size cache host
  unfold flush
  dsimp only
  rw [evicted]
  exact ⟨_, _, _, rfl⟩

theorem flush_staged (cache : Cache) (host : device) :
    (cache.flush host).cache.staged = cache.staged := by
  obtain ⟨_, _, _, flushed⟩ := cache.flush_cache host
  rw [flushed]

/-- A cache of one program saves it and lists it when it is emptied. -/
theorem flush_single
    {cache : Cache} {host after : device} {digest : UInt64} (slot : Slot)
    {binary : ProgramBinary}
    (persists : cache.settings.persists = true)
    (only : cache.slots.entries = [(digest, slot)])
    (unsaved : slot.persisted = false)
    (unstaged : cache.staged = [])
    (given :
      Device.binary host slot.linked.program = (some binary, after)) :
    (cache.flush host).effects =
      [.await digest, .save digest ⟨slot.state, binary⟩, .awaitAll,
        .publish [digest]] := by
  have located : cache.settings.directory.isSome = true := by
    simp only [Settings.persists, Bool.and_eq_true] at persists
    exact persists.2
  have last :
      cache.slots.popLast? =
        some ((digest, slot), ⟨cache.slots.capacity, []⟩) := by
    simp [Lru.popLast?, only]
  have lone : cache.slots.size = 1 := by simp [Lru.size, only]
  have listed : cache.indexDigests = [digest] := by
    simp [indexDigests, resident, unclaimed, Lru.keys, only, unstaged]
  have evicted :
      (cache.evictOldest 1 host).effects =
        [.await digest, .save digest ⟨slot.state, binary⟩] := by
    simp [evictOldest, last, evict, persist, persists, unsaved, given]
  simp [flush, lone, located, listed, evicted]

/-- A cache without programs has nothing to save when it is emptied. -/
theorem flush_empty
    (cache : Cache) (host : device)
    (located : cache.settings.directory.isSome = true)
    (empty : cache.slots.entries = []) :
    (cache.flush host).effects =
      [.awaitAll, .publish cache.indexDigests] := by
  simp [flush, Lru.size, empty, evictOldest, located]

theorem serveAll_staged
    (cache : Cache) (host : device) (requests : List Request) :
    (cache.serveAll host requests).cache.staged.Sublist cache.staged := by
  refine
    serveAll_invariant
      (fun current (_ : device) _ => current.staged.Sublist cache.staged)
      ?_ [] (List.Sublist.refl _)
  rintro (state | _) - current host effects kept
  · exact (lookup_staged current host state).trans kept
  · exact (flush_staged current host).symm ▸ kept

theorem serveAll_append
    (cache : Cache) (host : device) (first second : List Request) :
    (cache.serveAll host (first ++ second)).effects =
      (cache.serveAll host first).effects ++
        ((cache.serveAll host first).cache.serveAll
          (cache.serveAll host first).host second).effects := by
  induction first generalizing cache host with
  | nil => rfl
  | cons request rest ih =>
      simp only [List.cons_append, serveAll, ih, List.append_assoc]

theorem take_settings (cache : Cache) (host : device) (turn : Turn) :
    (cache.take host turn).cache.settings = cache.settings := by
  rcases turn with (state | _) | ⟨digest, loaded⟩
  · exact lookup_settings cache host state
  · obtain ⟨_, _, _, flushed⟩ := cache.flush_cache host
    simp only [take, serve, flushed]
  · obtain ⟨_, _, _, staged, -⟩ := cache.stage_cache digest loaded
    simp only [take, staged]

theorem takeAll_settings
    (cache : Cache) (host : device) (turns : List Turn) :
    (cache.takeAll host turns).cache.settings = cache.settings := by
  refine
    takeAll_invariant
      (fun current (_ : device) _ => current.settings = cache.settings)
      ?_ [] rfl
  intro turn _ current host effects same
  exact (current.take_settings host turn).trans same

theorem serveAll_settings
    (cache : Cache) (host : device) (requests : List Request) :
    (cache.serveAll host requests).cache.settings = cache.settings := by
  rw [← takeAll_map_request]
  exact cache.takeAll_settings host _

theorem serveAll_singleton
    (cache : Cache) (host : device) (state : PipelineState) :
    cache.serveAll host [.lookup state] =
      (cache.lookup host state).toOutcome := by
  simp [serveAll, serve]

/--
An answer from memory is given without the device, and one from a stored
binary only if something waited.
-/
theorem lookup_origin
    {cache : Cache} {host : device} {state : PipelineState}
    {answer : Answer}
    (answered : (cache.lookup host state).answer = .ok answer) :
    answer.origin = .memory ∧ (cache.lookup host state).host = host ∨
      answer.origin = .built ∨
      answer.origin = .stored ∧ cache.staged ≠ [] := by
  rcases cache.lookup_cases host state with
    ⟨slot, statistics, -, -, hit⟩ | ⟨-, missed⟩
  · rw [hit] at answered ⊢
    cases answered
    exact Or.inl ⟨rfl, rfl⟩
  · rw [missed] at answered
    rcases cache.lookupMissing_cases host state.digest state with
      ⟨error, -, failed⟩ | ⟨slot, origin, fetched, got⟩
    · rw [failed] at answered
      cases answered
    · rw [got] at answered
      cases answered
      obtain ⟨slots, statistics, -, vacated⟩ :=
        cache.vacate_cache host state.digest
      rcases (fetch_slot fetched).2 with ⟨-, built⟩ | ⟨stored, _, found, -⟩
      · exact Or.inr (Or.inl built)
      · refine Or.inr (Or.inr ⟨stored, ?_⟩)
        intro nothing
        rw [vacated] at found
        simp [nothing] at found

end Runs

/-! ## Objects of the device -/

section Objects

variable {device : Type} [Device device] [LawfulDevice device]

theorem holdings_persist
    (cache : Cache) (host : device) (digest : UInt64) (slot : Slot) :
    holdings (cache.persist host digest slot).host = holdings host := by
  have asked := LawfulDevice.holdings_binary host slot.linked.program
  unfold persist
  split
  · split
    · rename_i after given
      rw [given] at asked
      exact asked
    · rename_i binary after given
      rw [given] at asked
      exact asked
  · rfl

theorem holdings_evict
    (cache : Cache) (host : device) (digest : UInt64) (slot : Slot) :
    holdings (cache.evict host digest slot).host =
      (holdings host).removeProgram slot.linked.program := by
  unfold evict
  dsimp only
  rw [LawfulDevice.holdings_deleteProgram, holdings_persist]

end Objects

end ShaderSynth.Cache
