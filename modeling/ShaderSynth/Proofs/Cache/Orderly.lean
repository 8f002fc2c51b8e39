import Mathlib.Data.List.Nodup
import Mathlib.Data.Set.Function
import ShaderSynth.Proofs.Cache.Requests

/-!
# The digests of a cache

Programs and stored binaries are kept under the digests of their
configurations, and no digest is used twice.  Lookups keep this order.  They
take what waits under their digest, so that in the end there waits just what
nobody has asked for.
-/

namespace ShaderSynth.Cache

variable {device : Type} [Device device] {asked : Set PipelineState}

/-! ## What waits -/

theorem lookup_isSome_iff
    {staged : List (UInt64 × Store.Entry)} {digest : UInt64} :
    (staged.lookup digest).isSome ↔ digest ∈ staged.map Prod.fst := by
  simp only [List.lookup_isSome_iff, beq_iff_eq, List.mem_map,
    eq_comm (a := digest)]

theorem mem_unclaimed_iff {cache : Cache} {digest : UInt64} :
    digest ∈ cache.unclaimed ↔
      digest ∈ cache.order ∧ digest ∈ cache.waiting := by
  rw [unclaimed, List.mem_filter, lookup_isSome_iff, waiting]

/-- What was made ready at the start is listed in its order. -/
theorem unclaimed_new
    (settings : Settings) (vendor : String) (staging : Store.Staging) :
    (new settings vendor staging).unclaimed =
      staging.staged.map Prod.fst := by
  refine List.filter_eq_self.mpr fun digest member => ?_
  exact lookup_isSome_iff.mpr member

/-- When some of what waits is taken, the order of the rest is the same. -/
theorem unclaimed_sublist
    (cache : Cache) {later : Cache} (same : later.order = cache.order)
    (fewer : later.staged.Sublist cache.staged) :
    later.unclaimed.Sublist cache.unclaimed := by
  rw [unclaimed, unclaimed, same]
  apply List.monotone_filter_right
  intro digest
  rw [lookup_isSome_iff, lookup_isSome_iff]
  exact fun member => (fewer.map Prod.fst).subset member

theorem eraseDups_of_nodup
    {digests : List UInt64} (distinct : digests.Nodup) :
    digests.eraseDups = digests := by
  induction digests with
  | nil => rfl
  | cons digest rest ih =>
      obtain ⟨fresh, others⟩ := List.nodup_cons.mp distinct
      have kept : (rest.filter fun other => !other == digest) = rest := by
        rw [List.filter_eq_self]
        intro other member
        have different : other ≠ digest := by
          rintro rfl
          exact fresh member
        simp [different]
      rw [List.eraseDups_cons, kept, ih others]

/-! ## Digests in order -/

/-- Everything has a digest of its own, that of a configuration asked for. -/
structure Orderly (asked : Set PipelineState) (cache : Cache) : Prop where
  keyed :
    ∀ entry ∈ cache.slots.entries,
      entry.2.state ∈ asked ∧ entry.2.state.digest = entry.1
  filed :
    ∀ entry ∈ cache.staged,
      entry.2.state ∈ asked ∧ entry.2.state.digest = entry.1
  ordered : cache.waiting ⊆ cache.order
  distinct : (cache.resident ++ cache.unclaimed).Nodup

namespace Orderly

theorem not_mem_unclaimed
    {cache : Cache} {digest : UInt64}
    (orderly : cache.Orderly asked) (member : digest ∈ cache.resident) :
    digest ∉ cache.unclaimed :=
  List.disjoint_left.mp (List.disjoint_of_nodup_append orderly.distinct)
    member

theorem mem_unclaimed
    {cache : Cache} {entry : UInt64 × Store.Entry}
    (orderly : cache.Orderly asked) (waiting : entry ∈ cache.staged) :
    entry.1 ∈ cache.unclaimed :=
  mem_unclaimed_iff.mpr
    ⟨orderly.ordered (List.mem_map_of_mem waiting),
      List.mem_map_of_mem waiting⟩

theorem not_mem_waiting
    {cache : Cache} {digest : UInt64}
    (orderly : cache.Orderly asked) (member : digest ∈ cache.resident) :
    digest ∉ cache.waiting := by
  intro waiting
  exact orderly.not_mem_unclaimed member
    (mem_unclaimed_iff.mpr ⟨orderly.ordered waiting, waiting⟩)

/-- The index lists the programs and then all that waits. -/
theorem indexDigests_eq
    {cache : Cache} (orderly : cache.Orderly asked) :
    cache.indexDigests = cache.resident ++ cache.unclaimed := by
  have others :
      (cache.unclaimed.filter fun digest => digest ∉ cache.resident) =
        cache.unclaimed := by
    rw [List.filter_eq_self]
    intro digest waiting
    have absent : digest ∉ cache.resident :=
      fun member => orderly.not_mem_unclaimed member waiting
    simpa using absent
  have once : cache.unclaimed.Nodup := (List.nodup_append.mp orderly.distinct).2.1
  rw [indexDigests, others, eraseDups_of_nodup once]

theorem count
    {cache : Cache} (orderly : cache.Orderly asked)
    (statistics : Statistics) :
    { cache with statistics }.Orderly asked :=
  ⟨orderly.keyed, orderly.filed, orderly.ordered, orderly.distinct⟩

/-- Slots and entries may go. -/
theorem shrink
    {cache : Cache} {slots : Lru UInt64 Slot}
    {staged : List (UInt64 × Store.Entry)}
    (orderly : cache.Orderly asked)
    (fewerSlots : slots.entries.Sublist cache.slots.entries)
    (fewerStaged : staged.Sublist cache.staged) :
    { cache with slots, staged }.Orderly asked where
  keyed := fun entry member => orderly.keyed entry (fewerSlots.subset member)
  filed := fun entry member => orderly.filed entry (fewerStaged.subset member)
  ordered := fun _ member =>
    orderly.ordered ((fewerStaged.map Prod.fst).subset member)
  distinct :=
    orderly.distinct.sublist
      ((fewerSlots.map Prod.fst).append
        (unclaimed_sublist cache rfl fewerStaged))

/-- A slot of a configuration may come, once nothing waits under its digest. -/
theorem addSlot
    {cache : Cache} {slot : Slot}
    (orderly : cache.Orderly asked)
    (member : slot.state ∈ asked)
    (taken : slot.state.digest ∉ cache.unclaimed) :
    (cache.addSlot slot.state.digest slot).Orderly asked := by
  obtain ⟨others, inserted, kept⟩ :=
    cache.slots.entries_insert slot.state.digest slot
  refine ⟨?_, orderly.filed, orderly.ordered, ?_⟩
  · intro entry found
    rcases Lru.mem_of_mem_insert found with rfl | old
    · exact ⟨member, rfl⟩
    · exact orderly.keyed entry old
  · have fewer := kept.map Prod.fst
    have absent : slot.state.digest ∉ others.map Prod.fst :=
      fun again => Lru.not_mem_keys_erase _ _ (fewer.subset again)
    have shorter :=
      orderly.distinct.sublist
        (((kept.trans (cache.slots.entries_erase_sublist _)).map
          Prod.fst).append (List.Sublist.refl cache.unclaimed))
    show ((cache.slots.insert slot.state.digest slot).2.entries.map Prod.fst ++
      cache.unclaimed).Nodup
    rw [inserted, List.map_cons, List.cons_append, List.nodup_cons]
    exact ⟨by simp [absent, taken], shorter⟩

theorem touch
    {cache : Cache} {digest : UInt64} {slot : Slot}
    (orderly : cache.Orderly asked)
    (found : cache.slots.get? digest = some slot) :
    { cache with slots := cache.slots.touch digest }.Orderly asked := by
  have member : (digest, slot) ∈ cache.slots.entries :=
    Lru.mem_entries_of_get? found
  refine ⟨?_, orderly.filed, orderly.ordered, ?_⟩
  · intro entry kept
    exact orderly.keyed entry (Lru.mem_of_mem_touch kept)
  · have waiting :=
      orderly.not_mem_unclaimed
        (List.mem_map_of_mem member : digest ∈ cache.resident)
    have shorter :=
      orderly.distinct.sublist
        (((cache.slots.entries_erase_sublist digest).map Prod.fst).append
          (List.Sublist.refl cache.unclaimed))
    have absent := cache.slots.not_mem_keys_erase digest
    show ((cache.slots.touch digest).entries.map Prod.fst ++
      cache.unclaimed).Nodup
    rw [Lru.entries_touch found, List.map_cons, List.cons_append,
      List.nodup_cons, List.mem_append]
    exact ⟨not_or.mpr ⟨absent, waiting⟩, shorter⟩

end Orderly

/-! ## Programs that have to go -/

/-- The programs used least recently go. -/
theorem evictOldest_slots (count : Nat) (cache : Cache) (host : device) :
    (evictOldest count cache host).cache.slots =
      ⟨cache.slots.capacity,
        cache.slots.entries.take (cache.slots.size - count)⟩ := by
  induction count generalizing cache host with
  | zero => simp [evictOldest, Lru.size]
  | succ count ih =>
      unfold evictOldest
      split
      · rename_i none
        have empty : cache.slots.entries = [] := by
          simpa [Lru.popLast?] using none
        rw [empty, List.take_nil, ← empty]
      · rename_i digest slot slots popped
        have split := Lru.entries_of_popLast? popped
        obtain ⟨statistics, evicted⟩ :=
          evict_cache { cache with slots } host digest slot
        dsimp only
        rw [ih, evicted]
        simp only [Lru.size, split, List.length_append, List.length_singleton,
          Lru.capacity_of_popLast? popped]
        rw [List.take_append_of_le_length (by omega)]
        congr 2
        omega

/-- A digest that is in use is in use for its configuration. -/
theorem absent_of_missed
    {cache : Cache} {state : PipelineState}
    (separate : Set.InjOn PipelineState.digest asked)
    (keyed :
      ∀ entry ∈ cache.slots.entries,
        entry.2.state ∈ asked ∧ entry.2.state.digest = entry.1)
    (member : state ∈ asked)
    (missed :
      ∀ slot, cache.slots.get? state.digest = some slot →
        slot.state ≠ state) :
    cache.slots.get? state.digest = none := by
  cases found : cache.slots.get? state.digest with
  | none => rfl
  | some slot =>
      obtain ⟨known, same⟩ :=
        keyed (state.digest, slot) (Lru.mem_entries_of_get? found)
      exact absurd (separate known member same) (missed slot found)

namespace Orderly

theorem vacate
    {cache : Cache} (host : device) (digest : UInt64)
    (orderly : cache.Orderly asked) :
    (cache.vacate host digest).cache.Orderly asked := by
  obtain ⟨slots, statistics, fewer, vacated⟩ := cache.vacate_cache host digest
  rw [vacated]
  exact (orderly.shrink fewer (.refl _)).count statistics

/-! ## Programs that are asked for -/

theorem fetch
    {cache : Cache} (host : device) (digest : UInt64)
    (state : PipelineState) (orderly : cache.Orderly asked) :
    (cache.fetch host digest state).cache.Orderly asked ∧
      digest ∉ (cache.fetch host digest state).cache.unclaimed := by
  obtain ⟨linker, statistics, fetched⟩ := cache.fetch_cache host digest state
  rw [fetched]
  have fewer :=
    orderly.shrink (.refl _) (List.filter_sublist (p := (·.1 ≠ digest)))
  refine ⟨⟨fewer.keyed, fewer.filed, fewer.ordered, fewer.distinct⟩, ?_⟩
  simp [mem_unclaimed_iff, waiting]

theorem lookupMissing
    {cache : Cache} (host : device) {state : PipelineState}
    (orderly : cache.Orderly asked) (member : state ∈ asked) :
    (cache.lookupMissing host state.digest state).cache.Orderly asked := by
  obtain ⟨fetched, taken⟩ :=
    (orderly.vacate host state.digest).fetch
      (cache.vacate host state.digest).host state.digest state
  rcases cache.lookupMissing_cases host state.digest state with
    ⟨error, -, failed⟩ | ⟨slot, origin, done, got⟩
  · rw [failed]
    exact fetched
  · rw [got]
    obtain ⟨rfl, -⟩ := fetch_slot done
    exact fetched.addSlot member taken

theorem lookup
    {cache : Cache} (host : device) {state : PipelineState}
    (orderly : cache.Orderly asked) (member : state ∈ asked) :
    (cache.lookup host state).cache.Orderly asked := by
  rcases cache.lookup_cases host state with
    ⟨slot, statistics, found, -, hit⟩ | ⟨-, missed⟩
  · rw [hit]
    exact (orderly.touch found).count statistics
  · rw [missed]
    exact orderly.lookupMissing host member

/-- What waits under the digest of a configuration is its program. -/
theorem state_of_waiting
    {cache : Cache} {digest : UInt64} {state : PipelineState}
    {entry : Store.Entry}
    (separate : Set.InjOn PipelineState.digest asked)
    (orderly : cache.Orderly asked)
    (member : state ∈ asked) (keyed : state.digest = digest)
    (found : cache.staged.lookup digest = some entry) :
    entry.state = state ∧ (digest, entry) ∈ cache.staged := by
  obtain ⟨before, rest, split, -⟩ := List.lookup_eq_some_iff.mp found
  have waiting : (digest, entry) ∈ cache.staged := by simp [split]
  obtain ⟨known, same⟩ := orderly.filed (digest, entry) waiting
  exact ⟨separate known member (same.trans keyed.symm), waiting⟩

/-- A lookup takes what waits under its digest. -/
theorem unclaimed_lookup
    {cache : Cache} (host : device) (state : PipelineState)
    (orderly : cache.Orderly asked) :
    (cache.lookup host state).cache.unclaimed =
      cache.unclaimed.filter fun digest => digest ≠ state.digest := by
  rcases cache.lookup_cases host state with
    ⟨slot, statistics, found, -, hit⟩ | ⟨-, missed⟩
  · rw [hit, List.filter_eq_self.mpr]
    · rfl
    · intro digest waiting
      have resident : state.digest ∈ cache.resident :=
        List.mem_map_of_mem (Lru.mem_entries_of_get? found)
      have different : digest ≠ state.digest := by
        rintro rfl
        exact orderly.not_mem_unclaimed resident waiting
      exact decide_eq_true different
  · rw [unclaimed, lookup_order, missed, lookupMissing_staged, unclaimed,
      List.filter_filter]
    apply List.filter_congr
    intro digest _
    rw [Bool.eq_iff_iff, lookup_isSome_iff, Bool.and_eq_true,
      lookup_isSome_iff]
    simp only [List.mem_map, List.mem_filter, decide_eq_true_eq]
    grind

/-- After lookups, there waits just what none of them asked for. -/
theorem lookupAll
    {cache : Cache} (host : device) {states : List PipelineState}
    (orderly : cache.Orderly asked)
    (members : ∀ state ∈ states, state ∈ asked) :
    (cache.lookupAll host states).cache.Orderly asked ∧
      (cache.lookupAll host states).cache.unclaimed =
        cache.unclaimed.filter fun digest =>
          digest ∉ states.map PipelineState.digest := by
  induction states generalizing cache host with
  | nil => simpa [Cache.lookupAll, serveAll] using orderly
  | cons state rest ih =>
      have first := orderly.lookup host (members state (by simp))
      obtain ⟨others, left⟩ :=
        ih (cache.lookup host state).host first
          (fun other member => members other (by simp [member]))
      refine ⟨others, left.trans ?_⟩
      rw [orderly.unclaimed_lookup, List.filter_filter]
      congr 1
      funext digest
      simp [Bool.and_comm]

end Orderly

end ShaderSynth.Cache
