import ShaderSynth.Proofs.Cache.Saving

/-!
# What a cache counts

Each step of a request adds to the statistics.  What it adds is told by the
entries that go, by the effects and by the answer, so that statements about
runs need not look into the steps.
-/

namespace ShaderSynth.Cache

variable {device : Type} [Device device]

/-! ## What effects save -/

/-- The digest that an effect saves a program under. -/
def Effect.saved? : Effect → Option UInt64
  | .save digest _ => some digest
  | _ => none

/-- The digests that effects save programs under, in order. -/
def savedDigests (effects : List Effect) : List UInt64 :=
  effects.filterMap Effect.saved?

@[simp]
theorem savedDigests_append (first second : List Effect) :
    savedDigests (first ++ second) =
      savedDigests first ++ savedDigests second :=
  List.filterMap_append

theorem savedDigests_eq_nil {effects : List Effect}
    (unsaved : ∀ digest entry, .save digest entry ∉ effects) :
    savedDigests effects = [] := by
  apply List.filterMap_eq_nil_iff.mpr
  intro effect member
  cases effect with
  | save digest entry => exact absurd member (unsaved digest entry)
  | _ => rfl

/-! ## Programs that have to go -/

/-- Where the program of a slot came from. -/
def Slot.origin (slot : Slot) : Origin :=
  if slot.persisted then .stored else .built

/-- The entries that go if so many are evicted, the oldest first. -/
def oldest (count : Nat) (cache : Cache) : List (UInt64 × Slot) :=
  (cache.slots.entries.drop (cache.slots.size - count)).reverse

/-- The entries that stay then. -/
def remaining (count : Nat) (cache : Cache) : List (UInt64 × Slot) :=
  cache.slots.entries.take (cache.slots.size - count)

theorem length_remaining_add_oldest (count : Nat) (cache : Cache) :
    (cache.remaining count).length + (cache.oldest count).length =
      cache.slots.size := by
  rw [remaining, oldest, List.length_reverse, ← List.length_append,
    List.take_append_drop]
  rfl

/-- However many programs are evicted, the device has a binary of the next. -/
def Supplied (cache : Cache) (host : device) : Prop :=
  ∀ count digest slot slots,
    (cache.evictOldest count host).cache.slots.popLast? =
        some ((digest, slot), slots) →
      slot.persisted = false →
        (Device.binary (cache.evictOldest count host).host
          slot.linked.program).1.isSome

theorem oldest_succ
    {count : Nat} {cache : Cache} {entry : UInt64 × Slot}
    {slots : Lru UInt64 Slot}
    (popped : cache.slots.popLast? = some (entry, slots)) :
    cache.oldest (count + 1) =
      entry :: { cache with slots }.oldest count := by
  have split := Lru.entries_of_popLast? popped
  simp only [oldest, Lru.size, split, List.length_append,
    List.length_singleton]
  rw [List.drop_append_of_le_length (by omega), List.reverse_append,
    Nat.add_sub_add_right]
  rfl

/-- An eviction is counted, and so is a save that it makes. -/
theorem evict_statistics
    (cache : Cache) (host : device) (digest : UInt64) (slot : Slot) :
    (cache.evict host digest slot).cache.statistics =
      { cache.statistics with
        evictions := cache.statistics.evictions + 1
        saves := cache.statistics.saves +
          (savedDigests (cache.evict host digest slot).effects).length } := by
  unfold evict persist
  dsimp only
  split
  · split
    · rfl
    · rfl
  · rfl

theorem evictOldest_statistics
    (count : Nat) (cache : Cache) (host : device) :
    (cache.evictOldest count host).cache.statistics =
      { cache.statistics with
        evictions :=
          cache.statistics.evictions + (cache.oldest count).length
        saves := cache.statistics.saves +
          (savedDigests (cache.evictOldest count host).effects).length } := by
  induction count generalizing cache host with
  | zero => simp [evictOldest, oldest, savedDigests, Lru.size]
  | succ count ih =>
      rw [evictOldest]
      cases popped : cache.slots.popLast? with
      | none =>
          have empty : cache.slots.entries = [] := by
            simpa [Lru.popLast?] using popped
          simp [oldest, savedDigests, empty]
      | some last =>
          rcases last with ⟨⟨digest, slot⟩, slots⟩
          rcases evict_cache { cache with slots } host digest slot with
            ⟨statistics, evicted⟩
          have counted := evict_statistics { cache with slots } host digest slot
          have same :
              ({ cache with slots }.evict host digest slot).cache.oldest
                  count =
                { cache with slots }.oldest count := by
            rw [evicted]
            rfl
          simp only [ih, counted, same, oldest_succ popped,
            savedDigests_append, List.length_cons, List.length_append]
          congr 1 <;> omega

theorem evict_congr
    (first second : Cache) (settings : first.settings = second.settings)
    (host : device) (digest : UInt64) (slot : Slot) :
    (first.evict host digest slot).host =
        (second.evict host digest slot).host ∧
      (first.evict host digest slot).effects =
        (second.evict host digest slot).effects := by
  unfold evict persist
  dsimp only
  rw [settings]
  split
  · split
    · exact ⟨rfl, rfl⟩
    · exact ⟨rfl, rfl⟩
  · exact ⟨rfl, rfl⟩

/-- What evicting programs does outside of a cache, the statistics leave alone. -/
theorem evictOldest_congr
    (count : Nat) (first second : Cache)
    (settings : first.settings = second.settings)
    (slots : first.slots = second.slots) (host : device) :
    (first.evictOldest count host).host =
        (second.evictOldest count host).host ∧
      (first.evictOldest count host).effects =
        (second.evictOldest count host).effects := by
  induction count generalizing first second host with
  | zero => exact ⟨rfl, rfl⟩
  | succ count ih =>
      rw [evictOldest, evictOldest, slots]
      cases second.slots.popLast? with
      | none => exact ⟨rfl, rfl⟩
      | some last =>
          rcases last with ⟨⟨digest, slot⟩, rest⟩
          let before : Cache := { first with slots := rest }
          let after : Cache := { second with slots := rest }
          rcases evict_congr before after settings host digest slot with
            ⟨sameHost, sameEffects⟩
          rcases evict_cache before host digest slot with ⟨_, left⟩
          rcases evict_cache after host digest slot with ⟨_, right⟩
          have others :=
            ih (before.evict host digest slot).cache
              (after.evict host digest slot).cache
              (by rw [left, right]; exact settings)
              (by rw [left, right]) (before.evict host digest slot).host
          rw [sameHost] at others
          constructor
          · show (evictOldest count _ (before.evict host digest slot).host).host
              = _
            rw [sameHost]
            exact others.1
          · show (before.evict host digest slot).effects ++
              (evictOldest count _ (before.evict host digest slot).host).effects
                = _
            rw [sameHost, sameEffects, others.2]

/-- What is saved of a program that goes, if the device has its binary. -/
theorem savedDigests_evict
    {cache : Cache} {host : device} {slot : Slot}
    (persists : cache.settings.persists = true) (digest : UInt64)
    (given :
      slot.persisted = false →
        (Device.binary host slot.linked.program).1.isSome) :
    savedDigests (cache.evict host digest slot).effects =
      if slot.persisted then [] else [digest] := by
  unfold evict persist
  dsimp only
  cases stored : slot.persisted with
  | true => simp [savedDigests]
  | false =>
      rcases Option.isSome_iff_exists.mp (given stored) with ⟨binary, found⟩
      simp only [persists, Bool.not_false, Bool.and_self, if_true]
      generalize Device.binary host slot.linked.program = answer at found ⊢
      rcases answer with ⟨_, after⟩
      simp only at found
      subst found
      rfl

/-- The programs that were built are saved when they go. -/
theorem Supplied.savedDigests_evictOldest
    {cache : Cache} {host : device} (supplied : cache.Supplied host)
    (persists : cache.settings.persists = true) (count : Nat) :
    savedDigests (cache.evictOldest count host).effects =
      ((cache.oldest count).filter fun entry =>
        !entry.2.persisted).map Prod.fst := by
  induction count generalizing cache host with
  | zero => simp [evictOldest, oldest, savedDigests, Lru.size]
  | succ count ih =>
      cases popped : cache.slots.popLast? with
      | none =>
          have empty : cache.slots.entries = [] := by
            simpa [Lru.popLast?] using popped
          simp [evictOldest, popped, oldest, savedDigests, empty]
      | some last =>
          rcases last with ⟨⟨digest, slot⟩, slots⟩
          let reduced : Cache := { cache with slots }
          let first := reduced.evict host digest slot
          rcases evict_cache reduced host digest slot with
            ⟨statistics, evicted⟩
          have step :
              savedDigests first.effects =
                if slot.persisted then [] else [digest] := by
            apply savedDigests_evict
            · exact persists
            · exact supplied 0 digest slot slots popped
          have later : first.cache.Supplied first.host := by
            intro more
            have next := supplied (more + 1)
            rw [evictOldest, popped] at next
            exact next
          have others := ih later (by rw [evicted]; exact persists)
          have same : first.cache.oldest count = reduced.oldest count := by
            simp only [first, evicted]
            rfl
          rw [same] at others
          rw [evictOldest, popped, oldest_succ popped]
          show savedDigests (first.effects ++ _) = _
          rw [savedDigests_append, step, others]
          cases stored : slot.persisted with
          | true => simp [stored, reduced]
          | false => simp [stored, reduced]

/-- Programs are only saved where the settings say so. -/
theorem persists_of_evictOldest
    {cache : Cache} {host : device} {count : Nat} {digest : UInt64}
    {entry : Store.Entry}
    (member : .save digest entry ∈ (cache.evictOldest count host).effects) :
    cache.settings.persists = true := by
  refine
    (evictOldest_invariant
      (fun current (_ : device) effects =>
        current.settings = cache.settings ∧
          ∀ digest entry, .save digest entry ∈ effects →
            cache.settings.persists = true)
      ?_ count [] ⟨rfl, fun _ _ none => absurd none List.not_mem_nil⟩).2
      digest entry member
  rintro current host effects digest slot slots popped ⟨same, earlier⟩
  rcases evict_cache { current with slots } host digest slot with
    ⟨statistics, evicted⟩
  constructor
  · rw [evicted]
    exact same
  · intro other entry member
    rcases List.mem_append.mp member with old | new
    · exact earlier other entry old
    · rcases mem_evict_effects new with awaited | ⟨persists, -⟩
      · cases awaited
      · rw [← same]
        exact persists

/-! ## Programs that are asked for -/

theorem build_statistics
    (cache : Cache) (host : device) (state : PipelineState) :
    (cache.build host state).cache.statistics =
      { cache.statistics with
        builds := cache.statistics.builds +
          (cache.build host state).slot.isOk.toNat } := by
  unfold build
  dsimp only
  split
  · rfl
  · rfl

/-- A program that is got was built or recreated, and is counted as such. -/
theorem fetch_statistics
    (cache : Cache) (host : device) (digest : UInt64)
    (state : PipelineState) :
    ∃ builds restores rejects,
      (cache.fetch host digest state).cache.statistics =
          { cache.statistics with builds, restores, rejects } ∧
        builds + restores =
          cache.statistics.builds + cache.statistics.restores +
            (cache.fetch host digest state).slot.isOk.toNat := by
  unfold fetch
  dsimp only
  split
  · refine ⟨_, _, _, build_statistics cache host state, ?_⟩
    omega
  · split
    · unfold restore
      split
      · refine ⟨_, _, _, rfl, ?_⟩
        show cache.statistics.builds + (cache.statistics.restores + 1) =
          cache.statistics.builds + cache.statistics.restores + 1
        rfl
      · refine ⟨_, _, _, build_statistics _ _ state, ?_⟩
        dsimp only
        omega
    · refine ⟨_, _, _, build_statistics _ host state, ?_⟩
      dsimp only
      omega

/-- A slot remembers where its program came from. -/
theorem fetch_origin
    {cache : Cache} {host : device} {digest : UInt64}
    {state : PipelineState} {slot : Slot} {origin : Origin}
    (done : (cache.fetch host digest state).slot = .ok (slot, origin)) :
    origin = Slot.origin slot := by
  have built {current : Cache} {last : device}
      (done : (current.build last state).slot = .ok (slot, origin)) :
      origin = Slot.origin slot := by
    rcases build_slot done with ⟨-, unsaved, rfl⟩
    simp [Slot.origin, unsaved]
  unfold fetch at done
  dsimp only at done
  split at done
  · exact built done
  · split at done
    · unfold restore at done
      split at done
      · cases done
        rfl
      · exact built done
    · exact built done

/-- How many programs are in the way of another one. -/
def excess (cache : Cache) : Nat :=
  cache.slots.size + 1 - cache.slots.capacity.size

/-- Room is made by evicting programs, and a miss is counted. -/
theorem vacate_spec
    {cache : Cache} (host : device) {digest : UInt64}
    (absent : digest ∉ cache.resident) :
    let ready := cache.vacate host digest
    let saved := savedDigests (cache.evictOldest cache.excess host).effects
    ready.cache.slots = ⟨cache.slots.capacity, cache.remaining cache.excess⟩ ∧
      ready.cache.statistics =
        { cache.statistics with
          misses := cache.statistics.misses + 1
          evictions :=
            cache.statistics.evictions + (cache.oldest cache.excess).length
          saves := cache.statistics.saves + saved.length } ∧
      savedDigests ready.effects = saved := by
  intro ready saved
  let counted : Cache :=
    { cache with
      statistics :=
        { cache.statistics with misses := cache.statistics.misses + 1 } }
  have missing := get?_of_not_resident absent
  have evicted :
      ready =
        { counted.evictOldest cache.excess host with
          effects :=
            .await digest :: (counted.evictOldest cache.excess host).effects } := by
    simp only [ready, vacate, removeStale, missing]
    rfl
  have same :=
    (evictOldest_congr cache.excess counted cache rfl rfl host).2
  rw [evicted]
  refine ⟨evictOldest_slots cache.excess counted host, ?_, ?_⟩
  · dsimp only
    rw [evictOldest_statistics, same]
    rfl
  · show savedDigests (counted.evictOldest cache.excess host).effects = saved
    rw [same]

theorem length_remaining_excess (cache : Cache) :
    (cache.remaining cache.excess).length < cache.slots.capacity.size := by
  have positive := cache.slots.capacity.size_pos
  simp only [remaining, excess, Lru.size, List.length_take]
  omega

/-- There is an answer just if a program was got. -/
theorem lookupMissing_isOk
    (cache : Cache) (host : device) (digest : UInt64)
    (state : PipelineState) :
    let ready := cache.vacate host digest
    (cache.lookupMissing host digest state).answer.isOk =
      (ready.cache.fetch ready.host digest state).slot.isOk := by
  intro ready
  rcases cache.lookupMissing_cases host digest state with
    ⟨error, failed, same⟩ | ⟨slot, origin, done, same⟩
  · rw [same, failed]
    rfl
  · rw [same, done]
    rfl

/--
A program that is missing is counted as built, as recreated or not at all, and
what is saved is what has to make room for it.
-/
theorem lookupMissing_statistics
    {cache : Cache} (host : device) {digest : UInt64} (state : PipelineState)
    (absent : digest ∉ cache.resident) :
    let missed := cache.lookupMissing host digest state
    let saved := savedDigests (cache.evictOldest cache.excess host).effects
    savedDigests missed.effects = saved ∧
      ∃ builds restores rejects,
        missed.cache.statistics =
            { cache.statistics with
              misses := cache.statistics.misses + 1
              builds, restores, rejects
              evictions :=
                cache.statistics.evictions +
                  (cache.oldest cache.excess).length
              saves := cache.statistics.saves + saved.length } ∧
          builds + restores =
            cache.statistics.builds + cache.statistics.restores +
              missed.answer.isOk.toNat := by
  intro missed saved
  let ready := cache.vacate host digest
  let fetched := ready.cache.fetch ready.host digest state
  rcases vacate_spec host absent with ⟨-, statistics, effects⟩
  rcases fetch_statistics ready.cache ready.host digest state with
    ⟨builds, restores, rejects, counted, sum⟩
  rcases cache.lookupMissing_cache host digest state with ⟨_, left⟩
  have quiet : savedDigests fetched.effects = [] :=
    savedDigests_eq_nil fun _ _ => not_mem_fetch_effects
  rw [statistics] at counted sum
  refine ⟨?_, builds, restores, rejects, ?_, ?_⟩
  · show savedDigests (cache.lookupMissing host digest state).effects = saved
    rw [lookupMissing_effects, savedDigests_append, effects, quiet,
      List.append_nil]
  · simp only [missed, left]
    exact counted
  · simp only [missed, lookupMissing_isOk]
    exact sum

/--
Entries after a program was missing, told by the answer: those that stay, and
before them the new one, if there is one.
-/
inductive Settles (digest : UInt64) (stay : List (UInt64 × Slot)) :
    Except BuildError Answer → List (UInt64 × Slot) → Prop
  | refused (error : BuildError) : Settles digest stay (.error error) stay
  | placed (slot : Slot) :
      Settles digest stay
        (.ok (Slot.answer slot (Slot.origin slot) digest))
        ((digest, slot) :: stay)

namespace Settles

variable {digest : UInt64} {stay entries : List (UInt64 × Slot)}
  {answer : Except BuildError Answer}

theorem length_eq (settles : Settles digest stay answer entries) :
    entries.length = stay.length + answer.isOk.toNat := by
  cases settles with
  | refused error => rfl
  | placed slot => rfl

/-- Of the other programs, just those that stay are there. -/
theorem mem_keys_iff
    (settles : Settles digest stay answer entries) {other : UInt64}
    (different : other ≠ digest) :
    other ∈ entries.map Prod.fst ↔ other ∈ stay.map Prod.fst := by
  cases settles with
  | refused error => rfl
  | placed slot =>
      rw [List.map_cons, List.mem_cons]
      exact or_iff_right different

end Settles

/-- If there is a program, it takes the first place. -/
theorem settles_lookupMissing
    {cache : Cache} (host : device) {digest : UInt64} (state : PipelineState)
    (absent : digest ∉ cache.resident) :
    let missed := cache.lookupMissing host digest state
    Settles digest (cache.remaining cache.excess) missed.answer
      missed.cache.slots.entries := by
  intro missed
  let ready := cache.vacate host digest
  let fetched := ready.cache.fetch ready.host digest state
  let stay : Lru UInt64 Slot :=
    ⟨cache.slots.capacity, cache.remaining cache.excess⟩
  rcases vacate_spec host absent with ⟨slots, -, -⟩
  rcases fetch_cache ready.cache ready.host digest state with ⟨_, _, left⟩
  have places : fetched.cache.slots = stay := by
    simp only [fetched, left]
    exact slots
  rcases cache.lookupMissing_cases host digest state with
    ⟨error, -, same⟩ | ⟨slot, origin, done, same⟩
  · have outcome : missed = _ := same
    have entries := congrArg Lru.entries places
    rw [outcome]
    exact entries.symm ▸ .refused error
  · have outcome : missed = _ := same
    have fresh : digest ∉ stay.keys := fun member =>
      absent (((List.take_sublist _ _).map Prod.fst).subset member)
    have room : stay.size < stay.capacity.size :=
      cache.length_remaining_excess
    have entries :
        (fetched.cache.slots.insert digest slot).2.entries =
          (digest, slot) :: stay.entries := by
      rw [places, Lru.insert_of_room slot fresh room]
    rw [outcome, fetch_origin done]
    exact entries.symm ▸ .placed slot

theorem lookup_of_resident
    {cache : Cache} (host : device) {state : PipelineState} {slot : Slot}
    (found : cache.slots.get? state.digest = some slot)
    (same : slot.state = state) :
    cache.lookup host state =
      ⟨⟨{ cache with
          slots := cache.slots.touch state.digest
          statistics :=
            { cache.statistics with hits := cache.statistics.hits + 1 } },
        host, []⟩, .ok (Slot.answer slot .memory state.digest)⟩ := by
  simp [lookup, found, same]

/-- Emptying a cache counts as evicting all its programs. -/
theorem flush_spec (cache : Cache) (host : device) :
    let evicted := cache.evictOldest cache.slots.size host
    (cache.flush host).cache.slots = ⟨cache.slots.capacity, []⟩ ∧
      (cache.flush host).cache.statistics = evicted.cache.statistics ∧
      savedDigests (cache.flush host).effects =
        savedDigests evicted.effects := by
  intro evicted
  have slots := evictOldest_slots cache.slots.size cache host
  rw [Nat.sub_self, List.take_zero] at slots
  refine ⟨slots, rfl, ?_⟩
  show savedDigests (evicted.effects ++ Effect.awaitAll :: _) = _
  rw [savedDigests_append]
  split
  · exact List.append_nil _
  · exact List.append_nil _

theorem persists_of_serve
    {cache : Cache} {host : device} {request : Request} {digest : UInt64}
    {entry : Store.Entry}
    (member : .save digest entry ∈ (cache.serve host request).effects) :
    cache.settings.persists = true := by
  cases request with
  | flush => exact persists_of_evictOldest (saved_of_flush member)
  | lookup state =>
      have persists :=
        persists_of_evictOldest (saved_of_vacate (saved_of_lookup member))
      rcases removeStale_cache
          { cache with
            statistics :=
              { cache.statistics with
                misses := cache.statistics.misses + 1 } }
          host state.digest with
        ⟨slots, -, cleared⟩
      rw [cleared] at persists
      exact persists

/-- Where programs are not saved, no run saves any. -/
theorem savedDigests_of_transient
    {cache : Cache} (host : device) (turns : List Turn)
    (transient : cache.settings.persists = false) :
    savedDigests (cache.takeAll host turns).effects = [] := by
  apply savedDigests_eq_nil
  refine
    (takeAll_invariant
      (fun current (_ : device) effects =>
        current.settings = cache.settings ∧
          ∀ digest entry, .save digest entry ∉ effects)
      ?_ [] ⟨rfl, fun _ _ => List.not_mem_nil⟩).2
  rintro turn - current host effects ⟨same, earlier⟩
  refine ⟨(current.take_settings host turn).trans same, ?_⟩
  intro digest entry member
  rcases List.mem_append.mp member with old | new
  · exact earlier digest entry old
  · cases turn with
    | request request =>
        have persists := persists_of_serve new
        rw [same, transient] at persists
        cases persists
    | stage other loaded =>
        obtain ⟨_, _, _, -, few⟩ := current.stage_cache other loaded
        cases List.mem_singleton.mp (few new)

/-! ## Devices that supply binaries -/

/-- A device that has binaries of its programs supplies them in every run. -/
theorem supplied_takeAll
    {device : Type} [Device device] [LawfulDevice device]
    (generous :
      ∀ {host : device} {program : ProgramId} {texts : List String},
        (LawfulDevice.holdings host).programs program = some texts →
          (Device.binary host program).1.isSome)
    (settings : Settings) (vendor : String) (staging : Store.Staging)
    (host : device) (turns : List Turn) :
    let served := (new settings vendor staging).takeAll host turns
    served.cache.Supplied served.host := by
  intro served
  let anything : Standard := fun _ _ => True
  have keeps : served.cache.Keeps anything served.host := by
    refine
      takeAll_invariant (fun current last _ => current.Keeps anything last)
        ?_ [] (Keeps.new settings vendor staging host)
    rintro ((state | _) | ⟨digest, loaded⟩) - current last effects keeps
    · have admits :
          Admits device anything current.linker.fallback current.staged :=
        ⟨fun _ => trivial, fun _ _ _ => trivial⟩
      exact (keeps.lookup admits state).keeps
    · exact keeps.flush
    · exact keeps.stage digest loaded
  intro count digest slot slots popped _
  have oldest :
      (digest, slot) ∈
        (served.cache.evictOldest count served.host).cache.slots.entries := by
    rw [Lru.entries_of_popLast? popped]
    exact List.mem_append_right _ List.mem_cons_self
  rcases (keeps.evictOldest count).meets (digest, slot) oldest with
    ⟨texts, live, -⟩
  exact generous live

end ShaderSynth.Cache
