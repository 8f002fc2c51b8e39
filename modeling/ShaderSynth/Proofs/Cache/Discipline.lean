import ShaderSynth.Proofs.Cache.Requests

/-!
# Waiting before saving

The effects of a cache follow a discipline, whatever it is asked for.  An
entry is saved only after waiting for an earlier save of it, so that no two
tasks work on the same files.  An entry is removed only if nobody can be
saving it and it was there from the start.  The index is written only after
waiting for everything.

The discipline is stated with the digests that may be being saved at a time.
-/

namespace ShaderSynth.Cache

/-- The digests that may be being saved after an effect. -/
def Effect.outstanding (busy : List UInt64) : Effect → List UInt64
  | .save digest _ => digest :: busy
  | .await digest => busy.filter (· ≠ digest)
  | .awaitAll => []
  | .report _ | .discard _ | .publish _ => busy

/-- Whether an effect may come while some digests may be being saved. -/
def Effect.Admissible (staged busy : List UInt64) : Effect → Prop
  | .save digest _ => digest ∉ busy
  | .discard digest => digest ∉ busy ∧ digest ∈ staged
  | .publish _ => busy = []
  | .report _ | .await _ | .awaitAll => True

/-- Whether all effects may come in their order. -/
def Disciplined (staged : List UInt64) : List UInt64 → List Effect → Prop
  | _, [] => True
  | busy, effect :: rest =>
      effect.Admissible staged busy ∧
        Disciplined staged (effect.outstanding busy) rest

variable {staged busy : List UInt64}

theorem disciplined_append
    {first second : List Effect} :
    Disciplined staged busy (first ++ second) ↔
      Disciplined staged busy first ∧
        Disciplined staged (first.foldl Effect.outstanding busy) second := by
  induction first generalizing busy with
  | nil => simp [Disciplined]
  | cons effect rest ih =>
      simp only [List.cons_append, Disciplined, List.foldl_cons, ih, and_assoc]

theorem Effect.outstanding_mono
    {fewer more : List UInt64} (subset : fewer ⊆ more) (effect : Effect) :
    effect.outstanding fewer ⊆ effect.outstanding more := by
  cases effect with
  | save digest entry => exact List.cons_subset_cons digest subset
  | await digest =>
      intro other member
      rw [outstanding, List.mem_filter] at member ⊢
      exact ⟨subset member.1, member.2⟩
  | awaitAll => exact List.Subset.refl _
  | report line => exact subset
  | discard digest => exact subset
  | publish digests => exact subset

theorem Effect.Admissible.mono
    {fewer more : List UInt64} {effect : Effect}
    (admissible : effect.Admissible staged more) (subset : fewer ⊆ more) :
    effect.Admissible staged fewer := by
  cases effect with
  | save digest entry => exact fun member => admissible (subset member)
  | discard digest =>
      exact ⟨fun member => admissible.1 (subset member), admissible.2⟩
  | publish digests =>
      rw [Admissible] at admissible
      rw [admissible] at subset
      exact List.subset_nil.mp subset
  | report line => trivial
  | await digest => trivial
  | awaitAll => trivial

/-- Whatever may come may come still when tasks have ended. -/
theorem Disciplined.mono
    {fewer more : List UInt64} {effects : List Effect}
    (disciplined : Disciplined staged more effects) (subset : fewer ⊆ more) :
    Disciplined staged fewer effects := by
  induction effects generalizing fewer more with
  | nil => trivial
  | cons effect rest ih =>
      exact ⟨disciplined.1.mono subset,
        ih disciplined.2 (effect.outstanding_mono subset)⟩

theorem disciplined_reports
    {effects : List Effect}
    (reports : ∀ effect ∈ effects, ∃ line, effect = .report line) :
    Disciplined staged busy effects ∧
      effects.foldl Effect.outstanding busy = busy := by
  induction effects with
  | nil => exact ⟨trivial, rfl⟩
  | cons effect rest ih =>
      obtain ⟨line, rfl⟩ := reports effect (by simp)
      obtain ⟨disciplined, same⟩ :=
        ih fun other member => reports other (by simp [member])
      exact ⟨⟨trivial, disciplined⟩, same⟩

section Requests

variable {device : Type} [Device device]

/-! ## Programs that have to go -/

theorem evict_effects_cases
    (cache : Cache) (host : device) (digest : UInt64) (slot : Slot) :
    (cache.evict host digest slot).effects = [] ∨
      ∃ entry,
        (cache.evict host digest slot).effects =
          [.await digest, .save digest entry] := by
  unfold evict persist
  dsimp only
  split
  · split
    · exact .inl rfl
    · exact .inr ⟨_, rfl⟩
  · exact .inl rfl

variable (staged busy) in
/-- Evicting a program waits for an earlier save of it. -/
theorem disciplined_evict
    (cache : Cache) (host : device) (digest : UInt64) (slot : Slot) :
    Disciplined staged busy (cache.evict host digest slot).effects ∧
      (cache.evict host digest slot).effects.foldl Effect.outstanding busy ⊆
        digest :: busy := by
  rcases evict_effects_cases cache host digest slot with
    nothing | ⟨entry, saved⟩
  · rw [nothing]
    exact ⟨trivial, List.subset_cons_self digest busy⟩
  · rw [saved]
    refine ⟨⟨trivial, ?_, trivial⟩, ?_⟩
    · simp [Effect.Admissible, Effect.outstanding]
    · exact List.cons_subset_cons digest (List.filter_subset_self _)

variable (staged busy) in
/-- Only programs that were in the cache are saved when some have to go. -/
theorem disciplined_evictOldest
    (count : Nat) (cache : Cache) (host : device) :
    (evictOldest count cache host).cache.slots.entries.Sublist
        cache.slots.entries ∧
      Disciplined staged busy (evictOldest count cache host).effects ∧
      ∀ digest ∈
          (evictOldest count cache host).effects.foldl Effect.outstanding
            busy,
        digest ∈ busy ∨ digest ∈ cache.slots.keys := by
  refine
    evictOldest_invariant
      (fun current (_ : device) effects =>
        current.slots.entries.Sublist cache.slots.entries ∧
          Disciplined staged busy effects ∧
          ∀ digest ∈ effects.foldl Effect.outstanding busy,
            digest ∈ busy ∨ digest ∈ cache.slots.keys)
      ?_ count [] ⟨List.Sublist.refl _, trivial, fun _ member => .inl member⟩
  rintro current host effects digest slot slots popped
    ⟨fewer, disciplined, known⟩
  have split := Lru.entries_of_popLast? popped
  rw [split] at fewer
  obtain ⟨statistics, evicted⟩ :=
    evict_cache { current with slots } host digest slot
  obtain ⟨waits, leaves⟩ :=
    disciplined_evict staged (effects.foldl Effect.outstanding busy)
      { current with slots } host digest slot
  refine ⟨?_, disciplined_append.mpr ⟨disciplined, waits⟩, ?_⟩
  · rw [evicted]
    exact (List.sublist_append_left _ _).trans fewer
  · intro other member
    rw [List.foldl_append] at member
    rcases List.mem_cons.mp (leaves member) with rfl | earlier
    · have present : (other, slot) ∈ cache.slots.entries :=
        fewer.subset (by simp)
      exact .inr (List.mem_map_of_mem present)
    · exact known other earlier

theorem removeStale_reports
    (cache : Cache) (host : device) (digest : UInt64) :
    ∀ effect ∈ (cache.removeStale host digest).effects,
      ∃ line, effect = .report line := by
  unfold removeStale
  split
  · simp
  · simp

variable (staged busy) in
/-- A digest that a place is made for is not being saved any more. -/
theorem disciplined_vacate
    (cache : Cache) (host : device) (digest : UInt64) :
    Disciplined staged busy (cache.vacate host digest).effects ∧
      digest ∉
        (cache.vacate host digest).effects.foldl Effect.outstanding busy := by
  unfold vacate makeRoom
  dsimp only
  generalize { cache.statistics with misses := cache.statistics.misses + 1 } =
    statistics
  have absent :=
    removeStale_absent { cache with statistics } host digest
  have reports := removeStale_reports { cache with statistics } host digest
  generalize removeStale { cache with statistics } host digest = cleared
    at absent reports ⊢
  obtain ⟨quiet, same⟩ :
      Disciplined staged busy cleared.effects ∧
        cleared.effects.foldl Effect.outstanding busy = busy :=
    disciplined_reports reports
  obtain ⟨-, disciplined, known⟩ :=
    disciplined_evictOldest staged (Effect.outstanding busy (.await digest))
      (cleared.cache.slots.size + 1 - cleared.cache.slots.capacity.size)
      cleared.cache cleared.host
  constructor
  · rw [disciplined_append, same]
    exact ⟨quiet, trivial, disciplined⟩
  · rw [List.foldl_append, same, List.foldl_cons]
    intro member
    rcases known digest member with waiting | present
    · simp [Effect.outstanding] at waiting
    · exact absent present

/-! ## Programs that are asked for -/

/-- Only an entry that was there from the start is removed. -/
theorem disciplined_fetch
    {cache : Cache} {digest : UInt64}
    (host : device) (state : PipelineState)
    (known : cache.waiting ⊆ staged) (free : digest ∉ busy) :
    Disciplined staged busy (cache.fetch host digest state).effects := by
  have built (current : Cache) (last : device) :
      Disciplined staged busy (current.build last state).effects :=
    (disciplined_reports (build_effects current last state)).1
  unfold fetch
  dsimp only
  split
  · exact built cache host
  · rename_i entry found
    split
    · unfold restore
      split
      · trivial
      · rename_i last rejected
        have listed : digest ∈ staged := by
          apply known
          obtain ⟨first, rest, split, -⟩ := List.lookup_eq_some_iff.mp found
          simp [waiting, split]
        dsimp only
        refine ⟨trivial, ?_⟩
        split
        · exact ⟨⟨free, listed⟩, built _ _⟩
        · exact built _ _
    · exact built _ _

theorem disciplined_lookup
    {cache : Cache} (host : device) (state : PipelineState)
    (known : cache.waiting ⊆ staged) :
    Disciplined staged busy (cache.lookup host state).effects := by
  rcases cache.lookup_cases host state with
    ⟨slot, statistics, -, -, hit⟩ | ⟨-, missed⟩
  · rw [hit]
    trivial
  · obtain ⟨waits, free⟩ :=
      disciplined_vacate staged busy cache host state.digest
    obtain ⟨slots, statistics, -, vacated⟩ :=
      cache.vacate_cache host state.digest
    have remains :
        (cache.vacate host state.digest).cache.waiting ⊆ staged := by
      rw [vacated]
      exact known
    have fetched :=
      disciplined_fetch (cache.vacate host state.digest).host state remains
        free
    rw [missed, lookupMissing_effects]
    exact disciplined_append.mpr ⟨waits, fetched⟩

/-! ## Runs -/

theorem disciplined_flush (cache : Cache) (host : device) :
    Disciplined staged busy (cache.flush host).effects := by
  obtain ⟨-, disciplined, -⟩ :=
    disciplined_evictOldest staged busy cache.slots.size cache host
  unfold flush
  dsimp only
  rw [disciplined_append]
  refine ⟨disciplined, trivial, ?_⟩
  split
  · exact ⟨rfl, trivial⟩
  · trivial

/-- The effects of every run are disciplined, whatever is being saved. -/
theorem disciplined_serveAll
    {cache : Cache} (host : device) (requests : List Request)
    (known : cache.waiting ⊆ staged) :
    Disciplined staged busy (cache.serveAll host requests).effects := by
  refine
    (serveAll_invariant
      (fun current (_ : device) effects =>
        current.waiting ⊆ staged ∧ Disciplined staged busy effects)
      ?_ [] ⟨known, trivial⟩).2
  rintro (state | _) - current host effects ⟨known, disciplined⟩
  · constructor
    · apply List.Subset.trans _ known
      exact ((lookup_staged current host state).map Prod.fst).subset
    · exact disciplined_append.mpr
        ⟨disciplined, disciplined_lookup host state known⟩
  · constructor
    · simp only [serve, waiting, flush_staged]
      exact known
    · exact disciplined_append.mpr
        ⟨disciplined, disciplined_flush current host⟩

end Requests

end ShaderSynth.Cache
