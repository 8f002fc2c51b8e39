import ShaderSynth.Proofs.Cache.Discipline
import ShaderSynth.Proofs.Cache.Saving
import ShaderSynth.Proofs.Store.Ladder

/-!
# What the index lists

Entries are saved when programs have to go, and the index is written anew each
time a cache is emptied.  Every entry that was saved stays in its file.  The
last index lists it, and the next session has it ready, just if its program
was in the cache when the cache was emptied for the last time.  An entry whose
program had gone before is left behind in its file.
-/

namespace ShaderSynth.Cache

open Store (entryPath)

/-! ## Entries that were saved last -/

/-- The entry that effects save last under a digest. -/
def lastSaved (digest : UInt64) : List Effect → Option Store.Entry
  | [] => none
  | .save other entry :: rest =>
      (lastSaved digest rest).or (if other = digest then some entry else none)
  | _ :: rest => lastSaved digest rest

theorem lastSaved_append (digest : UInt64) (first second : List Effect) :
    lastSaved digest (first ++ second) =
      (lastSaved digest second).or (lastSaved digest first) := by
  induction first with
  | nil => simp [lastSaved]
  | cons effect rest ih =>
      cases effect <;> simp only [List.cons_append, lastSaved, ih, Option.or_assoc]

theorem mem_of_lastSaved
    {digest : UInt64} {effects : List Effect} {entry : Store.Entry}
    (last : lastSaved digest effects = some entry) :
    .save digest entry ∈ effects := by
  induction effects with
  | nil => cases last
  | cons effect rest ih =>
      cases effect with
      | save other saved =>
          rcases Option.or_eq_some_iff.mp last with later | ⟨-, first⟩
          · exact List.mem_cons_of_mem _ (ih later)
          · split at first
            · rename_i same
              cases first
              rw [same]
              exact List.mem_cons_self
            · cases first
      | _ => exact List.mem_cons_of_mem _ (ih last)

theorem exists_lastSaved
    {digest : UInt64} {effects : List Effect} {entry : Store.Entry}
    (saved : .save digest entry ∈ effects) :
    ∃ last, lastSaved digest effects = some last := by
  obtain ⟨before, after, rfl⟩ := List.append_of_mem saved
  rw [lastSaved_append]
  simp only [lastSaved, if_pos]
  cases lastSaved digest after with
  | none => exact ⟨entry, rfl⟩
  | some last => exact ⟨last, rfl⟩

variable {base : String} {stamp : Store.Stamp}

/-- The file of an entry changes only if it is saved or removed. -/
theorem read_perform
    {digest : UInt64} {effect : Effect} {tree : FileTree} {bytes : List UInt8}
    (succeeds : effect.Succeeds base stamp tree)
    (unsaved : ∀ entry, effect ≠ .save digest entry)
    (kept : effect ≠ .discard digest)
    (content : tree.read (entryPath base digest) = .ok bytes) :
    (effect.perform base stamp tree).tree.read (entryPath base digest) =
      .ok bytes := by
  cases effect with
  | report line => exact content
  | await other => exact content
  | awaitAll => exact content
  | save other entry =>
      have different : digest ≠ other := by
        rintro rfl
        exact unsaved entry rfl
      obtain ⟨after, written, performed⟩ := save_of_succeeds succeeds
      simp only [Effect.perform]
      rw [performed]
      exact Store.read_of_write_of_ne different written content
  | discard other =>
      have different : digest ≠ other := by
        rintro rfl
        exact kept rfl
      obtain ⟨after, removed⟩ := succeeds
      simp only [Effect.perform, removed]
      exact Store.read_of_remove_of_ne different removed content
  | publish digests =>
      obtain ⟨after, written, performed⟩ := publish_of_succeeds succeeds
      rw [performed]
      exact Store.read_of_writeIndex written content

theorem read_perform_save
    {digest : UInt64} {entry : Store.Entry} {tree : FileTree}
    (succeeds : (Effect.save digest entry).Succeeds base stamp tree) :
    ((Effect.save digest entry).perform base stamp tree).tree.read
      (entryPath base digest) = .ok (entry.toBytes stamp) := by
  obtain ⟨after, written, performed⟩ := save_of_succeeds succeeds
  obtain ⟨home, -, -, content⟩ := Store.write_spec written
  simp only [Effect.perform]
  rw [performed]
  exact content

/--
Effects that do not remove the entry of a digest leave in its file what they
save last, or else what was there.
-/
theorem read_performAll
    {digest : UInt64} {effects : List Effect} {tree : FileTree}
    (bytes : List UInt8)
    (succeed : Succeed base stamp effects tree)
    (kept : .discard digest ∉ effects)
    (known :
      (lastSaved digest effects).isSome = true ∨
        tree.read (entryPath base digest) = .ok bytes) :
    (performAll base stamp effects tree).tree.read (entryPath base digest) =
      .ok (((lastSaved digest effects).map
        (Store.Entry.toBytes stamp)).getD bytes) := by
  induction effects generalizing tree bytes with
  | nil => exact known.resolve_left Bool.false_ne_true
  | cons effect rest ih =>
      obtain ⟨first, others⟩ := succeed
      obtain ⟨different, later⟩ := not_or.mp (mt List.mem_cons.mpr kept)
      by_cases saves : ∃ entry, effect = .save digest entry
      · -- The entry is in the file now, and stays if nothing later is saved.
        obtain ⟨entry, rfl⟩ := saves
        have content := ih _ others later (.inr (read_perform_save first))
        refine content.trans ?_
        simp only [lastSaved, if_pos]
        cases lastSaved digest rest <;> rfl
      · have same :
            lastSaved digest (effect :: rest) = lastSaved digest rest := by
          cases effect with
          | save other entry =>
              have apart : other ≠ digest := by
                rintro rfl
                exact saves ⟨entry, rfl⟩
              simp [lastSaved, apart]
          | _ => rfl
        rw [same] at known ⊢
        refine ih bytes others later (known.imp_right fun content => ?_)
        exact read_perform first (fun entry same => saves ⟨entry, same⟩)
          (Ne.symm different) content

/-! ## What requests save and remove -/

theorem Disciplined.discarded
    {staged busy : List UInt64} {effects : List Effect} {digest : UInt64}
    (disciplined : Disciplined staged busy effects)
    (member : .discard digest ∈ effects) :
    digest ∈ staged := by
  induction effects generalizing busy with
  | nil => cases member
  | cons effect rest ih =>
      rcases List.mem_cons.mp member with rfl | later
      · exact disciplined.1.2
      · exact ih disciplined.2 later

section Requests

variable {device : Type} [Device device] {cache : Cache} {host : device}
  {digest : UInt64} {entry : Store.Entry}

/-- Only an entry that waits is removed. -/
theorem discarded_of_serve {request : Request}
    (member : .discard digest ∈ (cache.serve host request).effects) :
    digest ∈ cache.waiting := by
  have disciplined :
      Disciplined cache.waiting [] (cache.serve host request).effects := by
    cases request with
    | lookup state =>
        exact disciplined_lookup host state (List.Subset.refl _)
    | flush => exact disciplined_flush cache host
  exact disciplined.discarded member

theorem saved_of_evictOldest {count : Nat}
    (member : .save digest entry ∈ (cache.evictOldest count host).effects) :
    ∃ slot, (digest, slot) ∈ cache.slots.entries ∧ entry.state = slot.state := by
  refine
    (evictOldest_invariant
      (fun current (_ : device) effects =>
        current.slots.entries.Sublist cache.slots.entries ∧
          ∀ digest entry, .save digest entry ∈ effects →
            ∃ slot,
              (digest, slot) ∈ cache.slots.entries ∧
                entry.state = slot.state)
      ?_ count [] ⟨.refl _, fun _ _ none => absurd none (by simp)⟩).2
      digest entry member
  rintro current host effects digest slot slots popped ⟨fewer, earlier⟩
  have split := Lru.entries_of_popLast? popped
  rw [split] at fewer
  obtain ⟨statistics, evicted⟩ :=
    evict_cache { current with slots } host digest slot
  constructor
  · rw [evicted]
    exact (List.sublist_append_left _ _).trans fewer
  · intro other entry member
    rcases List.mem_append.mp member with old | new
    · exact earlier other entry old
    · rcases mem_evict_effects new with awaited | ⟨-, -, _, _, -, same⟩
      · cases awaited
      · cases same
        exact ⟨slot, fewer.subset (by simp), rfl⟩

/-- Only a program that is in the cache is saved. -/
theorem saved_of_serve {request : Request}
    (member : .save digest entry ∈ (cache.serve host request).effects) :
    ∃ slot, (digest, slot) ∈ cache.slots.entries ∧ entry.state = slot.state := by
  cases request with
  | lookup state =>
      obtain ⟨slot, listed, same⟩ :=
        saved_of_evictOldest (saved_of_vacate (saved_of_lookup member))
      obtain ⟨slots, fewer, cleared⟩ :=
        removeStale_cache
          { cache with
            statistics :=
              { cache.statistics with
                misses := cache.statistics.misses + 1 } }
          host state.digest
      rw [cleared] at listed
      exact ⟨slot, fewer.subset listed, same⟩
  | flush => exact saved_of_evictOldest (saved_of_flush member)

theorem waiting_serve (cache : Cache) (host : device) (request : Request) :
    (cache.serve host request).cache.waiting ⊆ cache.waiting := by
  cases request with
  | lookup state =>
      exact ((lookup_staged cache host state).map Prod.fst).subset
  | flush =>
      simp only [serve, waiting, flush_staged]
      exact List.Subset.refl _

theorem Orderly.flush {asked : Set PipelineState} (host : device)
    (orderly : cache.Orderly asked) :
    (cache.flush host).cache.Orderly asked := by
  obtain ⟨slots, statistics, fewer, evicted⟩ :=
    evictOldest_cache cache.slots.size cache host
  have left := orderly.shrink fewer (.refl _)
  unfold Cache.flush
  dsimp only
  rw [evicted]
  exact ⟨left.keyed, left.filed, left.ordered, left.distinct⟩

theorem Orderly.serve (host : device) (request : Request)
    (orderly : cache.Orderly Set.univ) :
    (cache.serve host request).cache.Orderly Set.univ := by
  cases request with
  | lookup state => exact orderly.lookup host (Set.mem_univ state)
  | flush => exact orderly.flush host

/-! ## Runs -/

/-- What was saved so far does not wait any more, and is in its files. -/
structure Filed
    (base : String) (stamp : Store.Stamp) (tree : FileTree)
    (cache : Cache) (effects : List Effect) :
    Prop where
  orderly : cache.Orderly Set.univ
  claimed :
    ∀ {digest entry}, lastSaved digest effects = some entry →
      digest ∉ cache.waiting
  keyed :
    ∀ {digest entry}, lastSaved digest effects = some entry →
      entry.state.digest = digest
  stored :
    ∀ {digest entry}, lastSaved digest effects = some entry →
      (performAll base stamp effects tree).tree.read
        (entryPath base digest) = .ok (entry.toBytes stamp)

namespace Filed

variable {tree : FileTree} {effects : List Effect}

theorem serve (request : Request)
    (filed : Filed base stamp tree cache effects)
    (succeed :
      Succeed base stamp (effects ++ (cache.serve host request).effects)
        tree) :
    Filed base stamp tree (cache.serve host request).cache
      (effects ++ (cache.serve host request).effects) := by
  -- What is saved was in the cache, so it does not wait, and requests remove
  -- only what waits.
  have saved {digest entry}
      (last :
        lastSaved digest (effects ++ (cache.serve host request).effects) =
          some entry) :
      digest ∉ cache.waiting ∧ entry.state.digest = digest := by
    rw [lastSaved_append] at last
    rcases Option.or_eq_some_iff.mp last with later | ⟨-, earlier⟩
    · obtain ⟨slot, listed, same⟩ := saved_of_serve (mem_of_lastSaved later)
      refine ⟨filed.orderly.not_mem_waiting (List.mem_map_of_mem listed), ?_⟩
      rw [same]
      exact (filed.orderly.keyed _ listed).2
    · exact ⟨filed.claimed earlier, filed.keyed earlier⟩
  refine ⟨filed.orderly.serve host request, ?_, fun last => (saved last).2, ?_⟩
  · exact fun last waiting =>
      (saved last).1 (waiting_serve cache host request waiting)
  · intro digest entry last
    have kept : .discard digest ∉ (cache.serve host request).effects :=
      mt discarded_of_serve (saved last).1
    rw [lastSaved_append] at last
    rw [performAll_append]
    obtain ⟨-, later⟩ := succeed_append.mp succeed
    rcases Option.or_eq_some_iff.mp last with new | ⟨none, old⟩
    · have content := read_performAll [] later kept (.inl (by simp [new]))
      rw [new] at content
      exact content
    · have content := read_performAll _ later kept (.inr (filed.stored old))
      rw [none] at content
      exact content

theorem serveAll (host : device) (requests : List Request)
    (filed : Filed base stamp tree cache [])
    (succeed :
      Succeed base stamp (cache.serveAll host requests).effects tree) :
    Filed base stamp tree (cache.serveAll host requests).cache
      (cache.serveAll host requests).effects := by
  refine
    serveAll_invariant
      (fun current (_ : device) effects =>
        Succeed base stamp effects tree →
          Filed base stamp tree current effects)
      ?_ [] (fun _ => filed) succeed
  intro request _ current host effects holds succeeds
  exact (holds (succeed_append.mp succeeds).1).serve request succeeds

theorem start (settings : Settings) (base vendor : String) (tree : FileTree) :
    let opened :=
      Cache.start { settings with directory := some base } vendor tree
    Filed base opened.1.stamp opened.2 opened.1 [] := by
  intro opened
  have keyed := Store.keyed_preload base ⟨settings.version, vendor⟩ tree
  refine ⟨⟨?_, ?_, List.Subset.refl _, ?_⟩, nofun, nofun, nofun⟩
  · intro item member
    cases member
  · exact fun item member => ⟨Set.mem_univ _, keyed.filed item member⟩
  · rw [show opened.1.unclaimed = _ from unclaimed_new _ _ _]
    exact keyed.distinct

end Filed

theorem readIndex_publish
    {effects : List Effect} {digests : List UInt64} {tree : FileTree}
    (succeed :
      Succeed base stamp
        (effects ++ [Effect.awaitAll, Effect.publish digests]) tree) :
    let after :=
      (performAll base stamp
        (effects ++ [Effect.awaitAll, Effect.publish digests]) tree).tree
    Store.readIndex base after = .ok digests := by
  obtain ⟨-, -, published, -⟩ := succeed_append.mp succeed
  obtain ⟨after, written, performed⟩ := publish_of_succeeds published
  obtain ⟨-, -, -, listed⟩ := Store.writeIndex_spec written
  rw [← performed] at listed
  simpa only [performAll_append, performAll, Effect.perform] using listed

/-- Emptying a cache ends with writing the index. -/
theorem flush_effects (host : device)
    (located : cache.settings.directory.isSome = true) :
    (cache.flush host).effects =
      (cache.evictOldest cache.slots.size host).effects
        ++ [Effect.awaitAll, Effect.publish cache.indexDigests] := by
  simp [flush, located]

theorem serveAll_concat (cache : Cache) (host : device)
    (requests : List Request) (request : Request) :
    let served := cache.serveAll host requests
    let last := served.cache.serve served.host request
    cache.serveAll host (requests ++ [request]) =
      ⟨last.cache, last.host, served.effects ++ last.effects⟩ := by
  induction requests generalizing cache host with
  | nil => simp [serveAll]
  | cons first rest ih => simp [serveAll, ih]

theorem entries_flush (cache : Cache) (host : device) :
    (cache.flush host).cache.slots.entries = [] := by
  show (cache.evictOldest cache.slots.size host).cache.slots.entries = []
  rw [evictOldest_slots, Nat.sub_self]
  rfl

/-- A cache that is emptied twice at the end has nothing to list. -/
theorem effects_emptied_again (host : device) (requests : List Request)
    (located : cache.settings.directory.isSome = true)
    (unstaged : cache.staged = []) :
    (cache.serveAll host
        ((requests ++ [Request.flush]) ++ [Request.flush])).effects =
      (cache.serveAll host (requests ++ [Request.flush])).effects
        ++ [Effect.awaitAll, Effect.publish []] := by
  have settings := cache.serveAll_settings host (requests ++ [Request.flush])
  have fewer := cache.serveAll_staged host (requests ++ [Request.flush])
  have empty :
      (cache.serveAll host (requests ++ [Request.flush])).cache.slots.entries =
        [] := by
    rw [serveAll_concat]
    exact entries_flush _ _
  rw [serveAll_concat]
  generalize cache.serveAll host (requests ++ [Request.flush]) = served
    at settings fewer empty ⊢
  rw [unstaged, List.sublist_nil] at fewer
  rw [← settings] at located
  have nothing : served.cache.indexDigests = [] := by
    simp [indexDigests, resident, unclaimed, Lru.keys, empty, fewer]
  simp only [serve]
  rw [flush_effects served.host located, nothing]
  simp [evictOldest, Lru.size, empty]

theorem mem_indexDigests_iff
    (claimed : digest ∉ cache.waiting) :
    digest ∈ cache.indexDigests ↔ digest ∈ cache.resident := by
  rw [indexDigests, List.mem_append, List.mem_eraseDups, List.mem_filter]
  exact or_iff_left fun listed => claimed (mem_unclaimed_iff.mp listed.1).2

/-- What was saved is listed just if its program is in the cache at the end. -/
theorem Filed.listed {tree : FileTree} {effects : List Effect}
    (filed : Filed base stamp tree cache effects)
    (located : cache.settings.directory.isSome = true)
    (succeed :
      Succeed base stamp (effects ++ (cache.flush host).effects) tree)
    (saved :
      lastSaved digest (effects ++ (cache.flush host).effects) =
        some entry) :
    let after :=
      (performAll base stamp (effects ++ (cache.flush host).effects)
        tree).tree
    entry.state.digest = digest ∧
      after.read (entryPath base digest) = .ok (entry.toBytes stamp) ∧
      Store.readIndex base after = .ok cache.indexDigests ∧
      (digest ∈ cache.indexDigests ↔ digest ∈ cache.resident) := by
  have flushed := filed.serve .flush succeed
  have claimed : digest ∉ cache.waiting := by
    have gone := flushed.claimed saved
    simp only [Cache.serve, waiting, flush_staged] at gone
    exact gone
  refine ⟨flushed.keyed saved, flushed.stored saved, ?_,
    mem_indexDigests_iff claimed⟩
  rw [flush_effects host located, ← List.append_assoc] at succeed ⊢
  exact readIndex_publish succeed

/-- What was saved before a cache is emptied once more is left in its file. -/
theorem Filed.left_behind {tree : FileTree} (requests : List Request)
    (filed : Filed base stamp tree cache [])
    (located : cache.settings.directory.isSome = true)
    (unstaged : cache.staged = [])
    (saved :
      .save digest entry ∈
        (cache.serveAll host (requests ++ [Request.flush])).effects)
    (succeed :
      Succeed base stamp
        ((cache.serveAll host (requests ++ [Request.flush])).effects
          ++ [Effect.awaitAll, Effect.publish []])
        tree) :
    let effects :=
      (cache.serveAll host
        ((requests ++ [Request.flush]) ++ [Request.flush])).effects
    let after := (performAll base stamp effects tree).tree
    Succeed base stamp effects tree ∧
      (∃ entry,
        .save digest entry ∈ effects ∧
          after.read (entryPath base digest) = .ok (entry.toBytes stamp)) ∧
      Store.readIndex base after = .ok [] := by
  intro effects after
  have again := effects_emptied_again host requests located unstaged
  have all : Succeed base stamp effects tree := by
    simp only [effects, again]
    exact succeed
  have member : .save digest entry ∈ effects := by
    simp only [effects, again]
    exact List.mem_append_left _ saved
  obtain ⟨last, kept⟩ := exists_lastSaved member
  refine ⟨all, ⟨last, mem_of_lastSaved kept, ?_⟩, ?_⟩
  · exact (filed.serveAll host _ all).stored kept
  · simp only [after, effects, again]
    exact readIndex_publish succeed

/--
In any run that begins when everything stored has been read in, that ends with
emptying the cache, and in which no effect on the files fails, every entry that
was saved under a digest last is in its file at the end.  The index lists it
just if its program was in the cache when the cache was emptied at the end, and
then the next session under the same stamp has it ready, unless it is too long.
Otherwise nothing is ready under its digest.
-/
theorem saved_listed_iff_resident
    (settings : Settings) (base vendor : String) (tree : FileTree)
    (host : device) (requests : List Request) (digest : UInt64) :
    let opened :=
      Cache.start { settings with directory := some base } vendor tree
    let stamp := opened.1.stamp
    let last := (opened.1.serveAll host requests).cache
    let effects :=
      (opened.1.serveAll host (requests ++ [Request.flush])).effects
    let after := (performAll base stamp effects opened.2).tree
    Succeed base stamp effects opened.2 →
      (∃ entry, .save digest entry ∈ effects) →
        ∃ entry digests,
          lastSaved digest effects = some entry ∧
            entry.state.digest = digest ∧
            after.read (entryPath base digest) =
              .ok (entry.toBytes stamp) ∧
            Store.readIndex base after = .ok digests ∧
            (digest ∈ digests ↔ digest ∈ last.resident) ∧
            ∀ next : Settings, next.version = settings.version →
              let reopened :=
                Cache.start { next with directory := some base } vendor after
              (digest ∈ last.resident → entry.Fits stamp →
                reopened.1.staged.lookup digest = some entry) ∧
              (digest ∉ last.resident →
                reopened.1.staged.lookup digest = none) := by
  intro opened stamp last effects after succeed ⟨first, saved⟩
  obtain ⟨entry, kept⟩ := exists_lastSaved saved
  let served := opened.1.serveAll host requests
  have split :
      effects =
        served.effects ++ (served.cache.flush served.host).effects := by
    simp only [effects, serveAll_concat, served, serve]
  have located : last.settings.directory.isSome = true := by
    simp only [last, serveAll_settings]
    rfl
  rw [split] at succeed kept
  have filed : Filed base stamp opened.2 last served.effects :=
    (Filed.start settings base vendor tree).serveAll host requests
      (succeed_append.mp succeed).1
  obtain ⟨keyed, content, listed, resident⟩ :=
    filed.listed located succeed kept
  rw [← split] at kept content listed
  refine ⟨entry, last.indexDigests, kept, keyed, content, listed, resident,
    ?_⟩
  intro next same reopened
  have staged :
      reopened.1.staged = (Store.preload base stamp after).staged := by
    show (Store.preload base ⟨next.version, vendor⟩ after).staged = _
    rw [same]
    rfl
  rw [staged]
  constructor
  · intro present fits
    exact Store.lookup_preload_of_mem listed (resident.mpr present)
      (Store.load_of_read content (Store.Entry.ofBytes_toBytes fits) keyed)
  · exact fun absent =>
      Store.lookup_preload_of_not_mem stamp listed (mt resident.mp absent)

end Requests

/-! ## One program -/

/-- A cache on an empty directory. -/
theorem start_located :
    start { directory := some "c" } "" .empty =
      (new { directory := some "c" } "" ⟨[], 0, .empty⟩, .empty) := by
  have none :
      Store.preload "c" ⟨defaultVersion, ""⟩ .empty = ⟨[], 0, .empty⟩ :=
    Store.preload_spec readIndex_empty List.nodup_nil (by simp)
  show
    (new { directory := some "c" } ""
        (Store.preload "c" ⟨defaultVersion, ""⟩ .empty),
      (Store.preload "c" ⟨defaultVersion, ""⟩ .empty).tree) = _
  rw [none]

/-- The first program is built and kept, and saved when the cache is emptied. -/
theorem serves_quadrilaterals {sources : Sources}
    (translated : quadrilaterals.sources = .ok sources) :
    let cache := (start { directory := some "c" } "" .empty).1
    let host := Dedicated.new sources.toList
    (cache.serveAll host [.lookup quadrilaterals]).cache.resident =
        [quadrilaterals.digest] ∧
      ∃ binary reports,
        binary.bytes.length ≤ Store.maxFieldLength ∧
          (∀ effect ∈ reports, ∃ line, effect = Effect.report line) ∧
          (cache.serveAll host
            ([Request.lookup quadrilaterals] ++ [Request.flush])).effects =
            Effect.await quadrilaterals.digest :: reports ++
              [Effect.await quadrilaterals.digest,
                Effect.save quadrilaterals.digest ⟨quadrilaterals, binary⟩,
                Effect.awaitAll, Effect.publish [quadrilaterals.digest]] := by
  intro cache host
  have room : 3 ≤ defaultCapacity.size := by decide
  have persists : Settings.persists { directory := some "c" } = true := rfl
  have fresh : cache = new { directory := some "c" } "" ⟨[], 0, .empty⟩ :=
    congrArg Prod.fst start_located
  obtain ⟨linked, assembled⟩ := Dedicated.assemble_new translated room
  obtain ⟨-, texts, live, -⟩ :=
    (Linker.assemble_builds quadrilaterals
      (Linker.sound_new defaultCapacity false
        (LawfulDevice.holdings host))).made assembled
  rw [fresh]
  constructor
  · have empty :
        (new { directory := some "c" } "" ⟨[], 0, .empty⟩).slots.entries =
          [] :=
      rfl
    obtain ⟨linker, statistics, reports, -, looked⟩ :=
      lookup_first empty rfl assembled
    rw [serveAll_singleton, looked]
    rfl
  · obtain ⟨binary, reports, -, short, quiet, effects⟩ :=
      effects_first "" .empty persists assembled live
    exact ⟨binary, reports, short, quiet, effects⟩

/-- A program that is in the cache when it is emptied is ready again. -/
theorem saved_listed_iff_resident_quadrilaterals :
    ∃ sources,
      quadrilaterals.sources = .ok sources ∧
        let opened := Cache.start { directory := some "c" } "" .empty
        let stamp := opened.1.stamp
        let effects :=
          (opened.1.serveAll (Dedicated.new sources.toList)
            ([Request.lookup quadrilaterals] ++ [Request.flush])).effects
        let after := (performAll "c" stamp effects opened.2).tree
        let reopened := Cache.start { directory := some "c" } "" after
        Succeed "c" stamp effects opened.2 ∧
          ∃ entry digests,
            .save quadrilaterals.digest entry ∈ effects ∧
              Store.readIndex "c" after = .ok digests ∧
              quadrilaterals.digest ∈ digests ∧
              reopened.1.staged.lookup quadrilaterals.digest =
                some entry := by
  obtain ⟨sources, translated⟩ :
      ∃ sources, quadrilaterals.sources = .ok sources :=
    ⟨_, rfl⟩
  refine ⟨sources, translated, ?_⟩
  have holds :=
    saved_listed_iff_resident {} "c" "" .empty
      (Dedicated.new sources.toList) [.lookup quadrilaterals]
      quadrilaterals.digest
  obtain ⟨resident, binary, reports, short, quiet, same⟩ :=
    serves_quadrilaterals translated
  have empty := congrArg Prod.snd start_located
  have stamped : (start { directory := some "c" } "" .empty).1.stamp.Fits :=
    ⟨by decide, by decide⟩
  -- From here on, nothing can be learned from opening the cache.
  dsimp only at holds resident same empty ⊢
  generalize start { directory := some "c" } "" .empty = opened
    at holds resident same empty stamped ⊢
  obtain ⟨succeeds, -⟩ :=
    succeed_append.mp (succeed_quadrilaterals opened.1.stamp empty quiet same)
  have saved :
      .save quadrilaterals.digest ⟨quadrilaterals, binary⟩ ∈
        (opened.1.serveAll (Dedicated.new sources.toList)
          ([Request.lookup quadrilaterals] ++ [Request.flush])).effects := by
    rw [same]
    simp
  obtain ⟨entry, digests, last, -, -, listed, kept, next⟩ :=
    holds succeeds ⟨_, saved⟩
  -- Only one entry is saved, so the last one has the binary of known length.
  have member := mem_of_lastSaved last
  have fits : entry.Fits opened.1.stamp := by
    rw [same] at member
    obtain rfl : entry = ⟨quadrilaterals, binary⟩ := by
      simp only [List.cons_append, List.mem_cons, List.mem_append,
        List.not_mem_nil, or_false, reduceCtorEq, false_or,
        Effect.save.injEq, true_and] at member
      rcases member with report | last
      · obtain ⟨line, other⟩ := quiet _ report
        cases other
      · exact last
    exact ⟨stamped, trivial, short⟩
  have present :
      quadrilaterals.digest ∈
        (opened.1.serveAll (Dedicated.new sources.toList)
          [.lookup quadrilaterals]).cache.resident :=
    resident ▸ List.mem_singleton_self _
  exact ⟨succeeds, entry, digests, member, listed, kept.mpr present,
    (next {} rfl).1 present fits⟩

/--
A cache that is emptied twice leaves the entry of its only program in its file
and lists nothing.
-/
theorem saved_unlisted_quadrilaterals :
    ∃ sources,
      quadrilaterals.sources = .ok sources ∧
        let opened := Cache.start { directory := some "c" } "" .empty
        let stamp := opened.1.stamp
        let effects :=
          (opened.1.serveAll (Dedicated.new sources.toList)
            (([Request.lookup quadrilaterals] ++ [Request.flush])
              ++ [Request.flush])).effects
        let after := (performAll "c" stamp effects opened.2).tree
        Succeed "c" stamp effects opened.2 ∧
          (∃ entry,
            .save quadrilaterals.digest entry ∈ effects ∧
              after.read (entryPath "c" quadrilaterals.digest) =
                .ok (entry.toBytes stamp)) ∧
          Store.readIndex "c" after = .ok [] := by
  obtain ⟨sources, translated⟩ :
      ∃ sources, quadrilaterals.sources = .ok sources :=
    ⟨_, rfl⟩
  refine ⟨sources, translated, ?_⟩
  obtain ⟨-, binary, reports, -, quiet, same⟩ :=
    serves_quadrilaterals translated
  have filed := Filed.start {} "c" "" .empty
  have located :
      (start { directory := some "c" } "" .empty).1.settings.directory.isSome =
        true :=
    rfl
  have empty := congrArg Prod.snd start_located
  have unstaged := congrArg (fun opened => opened.1.staged) start_located
  dsimp only at filed same empty unstaged ⊢
  generalize start { directory := some "c" } "" .empty = opened
    at filed same empty located unstaged ⊢
  have saved :
      .save quadrilaterals.digest ⟨quadrilaterals, binary⟩ ∈
        (opened.1.serveAll (Dedicated.new sources.toList)
          ([Request.lookup quadrilaterals] ++ [Request.flush])).effects := by
    rw [same]
    simp
  exact filed.left_behind [.lookup quadrilaterals] located unstaged saved
    (succeed_quadrilaterals opened.1.stamp empty quiet same)

end ShaderSynth.Cache
