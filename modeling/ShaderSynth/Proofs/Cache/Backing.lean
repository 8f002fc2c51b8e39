import ShaderSynth.Proofs.Cache.Faithful
import ShaderSynth.Proofs.Cache.Orderly
import ShaderSynth.Proofs.Store.Files

/-!
# Caches with their files behind them

On a device that gives away the binaries of its programs and takes them back,
a cache keeps its promises about files.  What waits to be asked for can be
loaded, and so can every program that counts as stored.  `Backed` says this of
a cache, its device and its files, and every lookup keeps it as long as no
effect on the files fails.
-/

namespace ShaderSynth

open LawfulDevice (holdings)

/-- A device that gives binaries away and takes them back. -/
class RestoringDevice
    (device : Type) [Device device] [LawfulDevice device] : Prop where
  /-- A program that is there has a binary, which is not too long. -/
  binary_of_live :
    ∀ {host : device} {program : ProgramId} {sources : List String},
      (holdings host).programs program = some sources →
        ∃ binary after,
          Device.binary host program = (some binary, after) ∧
            LawfulDevice.contents device binary = some sources ∧
            binary.bytes.length ≤ Store.maxFieldLength
  /-- A binary that is known is never rejected. -/
  ofBinary_of_known :
    ∀ (host : device) {binary : ProgramBinary} {sources : List String},
      LawfulDevice.contents device binary = some sources →
        ∃ program after, Device.ofBinary host binary = (some program, after)

/-- A program that has sources is short enough to be stored. -/
theorem PipelineState.storable_of_sources
    {state : PipelineState} {sources : Sources}
    (translated : state.sources = .ok sources) :
    state.vertex.program.Storable := by
  obtain ⟨stages, staged, generated, -⟩ :=
    PipelineState.stages_of_sources translated
  have vertex : ∃ text, stages.vertex.source = .ok text := by
    simp only [Stages.toList, Sources.toList, List.cons_append,
      List.map_cons, List.cons.injEq] at generated
    exact ⟨_, generated.1⟩
  obtain ⟨text, source⟩ := vertex
  unfold PipelineState.stages at staged
  split at staged
  · cases staged
  · cases staged
    obtain ⟨items, generatedItems, -⟩ := map_eq_ok_iff.mp source
    have stage := mapError_eq_ok_iff.mp generatedItems
    obtain ⟨code, programmed, -⟩ := map_eq_ok_iff.mp stage
    unfold Vertex.programCode at programmed
    cases program : state.vertex.program with
    | fixedFunction settings => exact trivial
    | microcode microcode =>
        rw [program] at programmed
        obtain ⟨lines, translated, -⟩ := map_eq_ok_iff.mp programmed
        by_contra long
        have long : ¬ microcode.tokens.length ≤ Microcode.maxProgramLength :=
          long
        simp [Microcode.Program.lines, Microcode.Program.scan, long]
          at translated

namespace Cache

/-! ## Effects that do not fail -/

/-- An effect is carried out without failure. -/
def Effect.Succeeds
    (directory : String) (stamp : Store.Stamp) (tree : FileTree) :
    Effect → Prop
  | .report _ | .await _ | .awaitAll => True
  | .save digest entry =>
      (Store.write directory digest stamp entry tree).1 = .ok ()
  | .discard digest => ∃ after, Store.remove directory digest tree = .ok after
  | .publish digests => (Store.writeIndex directory digests tree).1 = .ok ()

/-- Effects are carried out in turn without failure. -/
def Succeed (directory : String) (stamp : Store.Stamp) :
    List Effect → FileTree → Prop
  | [], _ => True
  | effect :: rest, tree =>
      effect.Succeeds directory stamp tree ∧
        Succeed directory stamp rest
          (effect.perform directory stamp tree).tree

variable {directory : String} {stamp : Store.Stamp}

theorem performAll_append
    (first second : List Effect) (tree : FileTree) :
    (performAll directory stamp (first ++ second) tree).tree =
      (performAll directory stamp second
        (performAll directory stamp first tree).tree).tree := by
  induction first generalizing tree with
  | nil => rfl
  | cons effect rest ih => exact ih _

theorem succeed_append
    {first second : List Effect} {tree : FileTree} :
    Succeed directory stamp (first ++ second) tree ↔
      Succeed directory stamp first tree ∧
        Succeed directory stamp second
          (performAll directory stamp first tree).tree := by
  induction first generalizing tree with
  | nil => simp [Succeed, performAll]
  | cons effect rest ih => simp [Succeed, performAll, ih, and_assoc]

theorem save_of_succeeds
    {digest : UInt64} {entry : Store.Entry} {tree : FileTree}
    (succeeds : (Effect.save digest entry).Succeeds directory stamp tree) :
    ∃ after,
      Store.write directory digest stamp entry tree = (.ok (), after) ∧
        Store.save directory digest stamp entry tree = after := by
  have succeeds :
      (Store.write directory digest stamp entry tree).1 = .ok () :=
    succeeds
  unfold Store.save
  cases written : Store.write directory digest stamp entry tree with
  | mk result after =>
      rw [written] at succeeds
      obtain rfl : result = .ok () := succeeds
      exact ⟨after, rfl, rfl⟩

theorem publish_of_succeeds
    {digests : List UInt64} {tree : FileTree}
    (succeeds : (Effect.publish digests).Succeeds directory stamp tree) :
    ∃ after,
      Store.writeIndex directory digests tree = (.ok (), after) ∧
        ((Effect.publish digests).perform directory stamp tree).tree =
          after := by
  have succeeds : (Store.writeIndex directory digests tree).1 = .ok () :=
    succeeds
  cases written : Store.writeIndex directory digests tree with
  | mk result after =>
      rw [written] at succeeds
      obtain rfl : result = .ok () := succeeds
      exact ⟨after, rfl, by simp [Effect.perform, written]⟩

/-! ## Programs that have to go -/

variable {device : Type} [Device device] [LawfulDevice device]
  [RestoringDevice device]

/-- The right program of a configuration can be loaded under a digest. -/
def Stored
    (device : Type) [Device device] [LawfulDevice device]
    (directory : String) (stamp : Store.Stamp) (tree : FileTree)
    (digest : UInt64) (state : PipelineState) :
    Prop :=
  ∃ entry,
    Store.load directory digest stamp tree = .ok entry ∧
      entry.state = state ∧ entry.Genuine device

/-- A program that has to go is saved, unless it is stored already. -/
theorem evict_effects
    {cache : Cache} {host : device} (digest : UInt64) {slot : Slot}
    (persists : cache.settings.persists = true)
    (serves :
      (holdings host).Serves slot.state slot.linked.program
        slot.linked.assembly) :
    slot.persisted = true ∧ (cache.evict host digest slot).effects = [] ∨
      ∃ binary,
        Store.Entry.Genuine device ⟨slot.state, binary⟩ ∧
          binary.bytes.length ≤ Store.maxFieldLength ∧
          (cache.evict host digest slot).effects =
            [.await digest, .save digest ⟨slot.state, binary⟩] := by
  obtain ⟨sources, translated, live, -⟩ := serves
  obtain ⟨binary, after, given, known, short⟩ :=
    RestoringDevice.binary_of_live live
  unfold evict persist
  cases stored : slot.persisted with
  | true =>
      refine Or.inl ⟨rfl, ?_⟩
      simp
  | false =>
      refine Or.inr ⟨binary, ⟨sources, translated, known⟩, short, ?_⟩
      simp [persists, given]

/-- Once a program is gone it is stored, and what else was stored still is. -/
theorem stored_of_evict
    {cache : Cache} {host : device} {digest : UInt64} {slot : Slot}
    {tree : FileTree}
    (fits : stamp.Fits)
    (persists : cache.settings.persists = true)
    (serves :
      (holdings host).Serves slot.state slot.linked.program
        slot.linked.assembly)
    (keyed : slot.state.digest = digest)
    (stored :
      slot.persisted = true →
        Stored device directory stamp tree digest slot.state)
    (succeed :
      Succeed directory stamp (cache.evict host digest slot).effects tree) :
    let after :=
      (performAll directory stamp (cache.evict host digest slot).effects
        tree).tree
    Stored device directory stamp after digest slot.state ∧
      ∀ {other entry}, other ≠ digest →
        Store.load directory other stamp tree = .ok entry →
          Store.load directory other stamp after = .ok entry := by
  rcases evict_effects digest persists serves with
    ⟨persisted, nothing⟩ | ⟨binary, genuine, short, saved⟩
  · rw [nothing]
    exact ⟨stored persisted, fun _ loaded => loaded⟩
  · rw [saved] at succeed ⊢
    obtain ⟨after, written, performed⟩ := save_of_succeeds succeed.2.1
    have storable : slot.state.vertex.program.Storable := by
      obtain ⟨sources, translated, -⟩ := genuine
      exact PipelineState.storable_of_sources translated
    have fitting : Store.Entry.Fits stamp ⟨slot.state, binary⟩ :=
      ⟨fits, storable, short⟩
    have loaded := Store.load_of_write fitting keyed written
    have last :
        (performAll directory stamp
          [.await digest, .save digest ⟨slot.state, binary⟩] tree).tree =
            after := by
      simpa only [performAll, Effect.perform] using performed
    rw [last]
    exact ⟨⟨_, loaded, rfl, genuine⟩,
      fun different => Store.load_of_write_of_ne different written⟩

/-- What a cache counts as stored can be loaded. -/
structure Backed
    (asked : Set PipelineState) (directory : String) (stamp : Store.Stamp)
    (cache : Cache) (host : device) (tree : FileTree) :
    Prop where
  faithful : cache.Faithful host
  orderly : cache.Orderly asked
  persists : cache.settings.persists = true
  waiting :
    ∀ entry ∈ cache.staged,
      Store.load directory entry.1 stamp tree = .ok entry.2
  kept :
    ∀ entry ∈ cache.slots.entries, entry.2.persisted = true →
      Stored device directory stamp tree entry.1 entry.2.state

omit [RestoringDevice device] in
theorem Stored.mono
    {before after : FileTree} {digest : UInt64} {state : PipelineState}
    (stored : Stored device directory stamp before digest state)
    (remains :
      ∀ {entry}, Store.load directory digest stamp before = .ok entry →
        Store.load directory digest stamp after = .ok entry) :
    Stored device directory stamp after digest state := by
  obtain ⟨entry, loaded, same, genuine⟩ := stored
  exact ⟨entry, remains loaded, same, genuine⟩

namespace Backed

variable {asked : Set PipelineState}

omit [RestoringDevice device] in
theorem count
    {cache : Cache} {host : device} {tree : FileTree}
    (backed : Backed asked directory stamp cache host tree)
    (statistics : Statistics) :
    Backed asked directory stamp { cache with statistics } host tree :=
  ⟨backed.faithful.count statistics, backed.orderly.count statistics,
    backed.persists, backed.waiting, backed.kept⟩

theorem evict
    {cache : Cache} {host : device} {tree : FileTree} {digest : UInt64}
    {slot : Slot} {slots : Lru UInt64 Slot}
    (fits : stamp.Fits)
    (popped : cache.slots.popLast? = some ((digest, slot), slots))
    (backed : Backed asked directory stamp cache host tree)
    (succeed :
      Succeed directory stamp
        ({ cache with slots }.evict host digest slot).effects tree) :
    let evicted := { cache with slots }.evict host digest slot
    let after := (performAll directory stamp evicted.effects tree).tree
    Backed asked directory stamp evicted.cache evicted.host after ∧
      Stored device directory stamp after digest slot.state ∧
      ∀ {other entry}, other ≠ digest →
        Store.load directory other stamp tree = .ok entry →
          Store.load directory other stamp after = .ok entry := by
  intro evicted after
  have split := Lru.entries_of_popLast? popped
  have member : (digest, slot) ∈ cache.slots.entries := by simp [split]
  have resident : digest ∈ cache.resident := List.mem_map_of_mem member
  have unlike : ∀ entry ∈ slots.entries, entry.1 ≠ digest := by
    have distinct : (cache.slots.entries.map Prod.fst).Nodup :=
      (List.nodup_append.mp backed.orderly.distinct).1
    rw [split, List.map_append] at distinct
    intro entry kept same
    exact List.disjoint_of_nodup_append distinct (List.mem_map_of_mem kept)
      (by simp [same])
  have persists : ({ cache with slots } : Cache).settings.persists = true :=
    backed.persists
  obtain ⟨stored, remains⟩ :=
    stored_of_evict fits persists
      (backed.faithful.serves (digest, slot) member)
      (backed.orderly.keyed (digest, slot) member).2
      (backed.kept (digest, slot) member) succeed
  refine ⟨?_, stored, remains⟩
  have faithful : evicted.cache.Faithful evicted.host :=
    backed.faithful.evict popped
  obtain ⟨statistics, same⟩ : ∃ statistics, evicted.cache = _ :=
    evict_cache { cache with slots } host digest slot
  have fewer : slots.entries.Sublist cache.slots.entries := by
    rw [split]
    exact List.sublist_append_left _ _
  rw [same] at faithful ⊢
  refine ⟨faithful, (backed.orderly.shrink fewer (.refl _)).count statistics,
    backed.persists, ?_, ?_⟩
  · intro entry waiting
    refine remains ?_ (backed.waiting entry waiting)
    rintro rfl
    exact backed.orderly.not_mem_unclaimed resident
      (backed.orderly.mem_unclaimed waiting)
  · intro entry left persisted
    exact (backed.kept entry (fewer.subset left) persisted).mono
      (remains (unlike entry left))

/-- The programs that have gone are stored. -/
theorem evictOldest
    {cache : Cache} {host : device} {tree : FileTree} (count : Nat)
    (fits : stamp.Fits)
    (backed : Backed asked directory stamp cache host tree)
    (succeed :
      Succeed directory stamp (cache.evictOldest count host).effects tree) :
    let evicted := cache.evictOldest count host
    let after := (performAll directory stamp evicted.effects tree).tree
    Backed asked directory stamp evicted.cache evicted.host after ∧
      ∃ gone,
        cache.slots.entries = evicted.cache.slots.entries ++ gone ∧
          ∀ entry ∈ gone,
            Stored device directory stamp after entry.1 entry.2.state := by
  have distinct : (cache.slots.entries.map Prod.fst).Nodup :=
    (List.nodup_append.mp backed.orderly.distinct).1
  refine
    evictOldest_invariant
      (fun current host effects =>
        Succeed directory stamp effects tree →
          let after := (performAll directory stamp effects tree).tree
          Backed asked directory stamp current host after ∧
            ∃ gone,
              cache.slots.entries = current.slots.entries ++ gone ∧
                ∀ entry ∈ gone,
                  Stored device directory stamp after entry.1 entry.2.state)
      ?_ count [] (fun _ => ⟨backed, [], by simp, by simp⟩) succeed
  intro current host effects digest slot slots popped holds succeeds
  obtain ⟨earlier, later⟩ := succeed_append.mp succeeds
  obtain ⟨before, gone, entries, stored⟩ := holds earlier
  obtain ⟨evicted, last, remains⟩ := before.evict fits popped later
  rw [performAll_append]
  have split := Lru.entries_of_popLast? popped
  refine ⟨evicted, (digest, slot) :: gone, ?_, ?_⟩
  · obtain ⟨statistics, same⟩ :=
      evict_cache { current with slots } host digest slot
    rw [same, entries, split, List.append_assoc, List.singleton_append]
  · intro entry member
    rcases List.mem_cons.mp member with rfl | old
    · exact last
    · refine (stored entry old).mono (remains ?_)
      rw [entries, split, List.append_assoc, List.map_append,
        List.singleton_append, List.map_cons] at distinct
      have unlike := (List.nodup_cons.mp (List.nodup_append.mp distinct).2.1).1
      have listed : entry.1 ∈ gone.map Prod.fst := List.mem_map_of_mem old
      intro same
      rw [same] at listed
      exact unlike listed

end Backed

/-! ## Programs that are asked for -/

/-- Effects that only report leave the files alone. -/
theorem performAll_reports
    {effects : List Effect} (tree : FileTree)
    (reports : ∀ effect ∈ effects, ∃ line, effect = .report line) :
    (performAll directory stamp effects tree).tree = tree := by
  induction effects with
  | nil => rfl
  | cons effect rest ih =>
      obtain ⟨line, rfl⟩ := reports effect (by simp)
      exact ih fun other member => reports other (by simp [member])

/-- What waits for a configuration is taken as it is, and nothing is built. -/
theorem fetch_of_waiting
    {cache : Cache} (host : device) {digest : UInt64} {entry : Store.Entry}
    {stages : Stages} {texts : List String}
    (found : cache.staged.lookup digest = some entry)
    (staged : entry.state.stages = .ok stages)
    (known : LawfulDevice.contents device entry.binary = some texts) :
    ∃ linked after statistics,
      cache.fetch host digest entry.state =
          ⟨⟨{ cache with
              statistics
              staged := cache.staged.filter (·.1 ≠ digest) }, after, []⟩,
            .ok (⟨entry.state, linked, true⟩, .stored)⟩ ∧
        holdings after = (holdings host).addProgram linked.program texts := by
  obtain ⟨program, recreated, called⟩ :=
    RestoringDevice.ofBinary_of_known host known
  cases restored : Linker.restore host entry.state entry.binary with
  | mk linked after =>
      cases linked with
      | none =>
          unfold Linker.restore at restored
          rw [staged] at restored
          dsimp only at restored
          rw [called] at restored
          cases (Prod.mk.inj restored).1
      | some linked =>
          obtain ⟨-, -, sources, certain, added⟩ := Linker.restore_some restored
          refine ⟨linked, after,
            { cache.statistics with
              restores := cache.statistics.restores + 1 }, ?_, ?_⟩
          · simp [fetch, found, restore, restored]
          · rw [added, certain _ known]

namespace Backed

variable {asked : Set PipelineState}

theorem fetch
    {cache : Cache} {host : device} {tree : FileTree} {digest : UInt64}
    {state : PipelineState}
    (separate : Set.InjOn PipelineState.digest asked)
    (backed : Backed asked directory stamp cache host tree)
    (member : state ∈ asked) (keyed : state.digest = digest) :
    let fetched := cache.fetch host digest state
    Backed asked directory stamp fetched.cache fetched.host tree ∧
      (∀ effect ∈ fetched.effects, ∃ line, effect = .report line) ∧
      ∀ {slot origin}, fetched.slot = .ok (slot, origin) →
        slot.persisted = true →
          Stored device directory stamp tree digest state := by
  intro fetched
  obtain ⟨linker, statistics, same⟩ := cache.fetch_cache host digest state
  have faithful := (backed.faithful.fetch digest state).faithful
  have orderly := (backed.orderly.fetch host digest state).1
  refine ⟨?_, ?_, ?_⟩
  · rw [same] at faithful orderly
    rw [show fetched.cache = _ from same]
    refine ⟨faithful, orderly, backed.persists, ?_, backed.kept⟩
    intro entry waiting
    exact backed.waiting entry (List.mem_filter.mp waiting).1
  · cases found : cache.staged.lookup digest with
    | none =>
        have built : fetched = cache.build host state := by
          simp [fetched, Cache.fetch, found]
        rw [built]
        exact build_effects cache host state
    | some entry =>
        obtain ⟨rfl, waiting⟩ :=
          backed.orderly.state_of_waiting separate member keyed found
        obtain ⟨sources, translated, known⟩ :=
          backed.faithful.genuine (digest, entry) waiting
        obtain ⟨stages, staged, -⟩ :=
          PipelineState.stages_of_sources translated
        obtain ⟨linked, after, counted, restored, -⟩ :=
          fetch_of_waiting host found staged known
        rw [show fetched = _ from restored]
        simp
  · intro slot origin done persisted
    rcases (fetch_slot done).2 with ⟨fresh, -⟩ | ⟨-, entry, found, -⟩
    · rw [fresh] at persisted
      cases persisted
    · obtain ⟨same, waiting⟩ :=
        backed.orderly.state_of_waiting separate member keyed found
      exact ⟨entry, backed.waiting (digest, entry) waiting, same,
        backed.faithful.genuine (digest, entry) waiting⟩

theorem vacate
    {cache : Cache} {host : device} {tree : FileTree} {digest : UInt64}
    (fits : stamp.Fits)
    (backed : Backed asked directory stamp cache host tree)
    (absent : cache.slots.get? digest = none)
    (succeed :
      Succeed directory stamp (cache.vacate host digest).effects tree) :
    Backed asked directory stamp (cache.vacate host digest).cache
      (cache.vacate host digest).host
      (performAll directory stamp (cache.vacate host digest).effects
        tree).tree := by
  obtain ⟨statistics, vacated⟩ := vacate_of_absent host absent
  rw [vacated] at succeed ⊢
  exact ((backed.count statistics).evictOldest _ fits succeed.2).1

theorem lookupMissing
    {cache : Cache} {host : device} {tree : FileTree}
    {state : PipelineState}
    (separate : Set.InjOn PipelineState.digest asked)
    (fits : stamp.Fits)
    (backed : Backed asked directory stamp cache host tree)
    (member : state ∈ asked)
    (absent : cache.slots.get? state.digest = none)
    (succeed :
      Succeed directory stamp
        (cache.lookupMissing host state.digest state).effects tree) :
    let looked := cache.lookupMissing host state.digest state
    Backed asked directory stamp looked.cache looked.host
      (performAll directory stamp looked.effects tree).tree := by
  have faithful :=
    (backed.faithful.lookupMissing state.digest state).faithful
  have orderly := backed.orderly.lookupMissing host member
  generalize keyed : state.digest = digest
    at absent succeed faithful orderly ⊢
  dsimp only
  rw [lookupMissing_effects] at succeed ⊢
  obtain ⟨earlier, -⟩ := succeed_append.mp succeed
  obtain ⟨fetched, reports, stored⟩ :=
    (backed.vacate fits absent earlier).fetch separate member keyed
  rw [performAll_append, performAll_reports _ reports]
  rcases cache.lookupMissing_cases host digest state with
    ⟨error, -, failed⟩ | ⟨slot, origin, done, got⟩
  · rw [failed]
    exact fetched
  · rw [got] at faithful orderly ⊢
    refine ⟨faithful, orderly, fetched.persists, fetched.waiting, ?_⟩
    intro entry kept persisted
    rcases Lru.mem_of_mem_insert kept with rfl | old
    · rw [(fetch_slot done).1]
      exact stored done persisted
    · exact fetched.kept entry old persisted

/-- A lookup keeps the files behind a cache. -/
theorem lookup
    {cache : Cache} {host : device} {tree : FileTree}
    {state : PipelineState}
    (separate : Set.InjOn PipelineState.digest asked)
    (fits : stamp.Fits)
    (backed : Backed asked directory stamp cache host tree)
    (member : state ∈ asked)
    (succeed :
      Succeed directory stamp (cache.lookup host state).effects tree) :
    Backed asked directory stamp (cache.lookup host state).cache
      (cache.lookup host state).host
      (performAll directory stamp (cache.lookup host state).effects
        tree).tree := by
  rcases cache.lookup_cases host state with
    ⟨slot, statistics, found, -, hit⟩ | ⟨other, missed⟩
  · rw [hit]
    have touched :
        Backed asked directory stamp
          { cache with slots := cache.slots.touch state.digest } host tree :=
      ⟨backed.faithful.touch found, backed.orderly.touch found,
        backed.persists, backed.waiting, fun entry kept =>
          backed.kept entry (Lru.mem_of_mem_touch kept)⟩
    exact touched.count statistics
  · rw [missed] at succeed ⊢
    exact backed.lookupMissing separate fits member
      (absent_of_missed separate backed.orderly.keyed member other) succeed

theorem lookupAll
    {cache : Cache} {host : device} {tree : FileTree}
    {states : List PipelineState}
    (separate : Set.InjOn PipelineState.digest asked)
    (fits : stamp.Fits)
    (backed : Backed asked directory stamp cache host tree)
    (members : ∀ state ∈ states, state ∈ asked)
    (succeed :
      Succeed directory stamp (cache.lookupAll host states).effects tree) :
    let served := cache.lookupAll host states
    Backed asked directory stamp served.cache served.host
      (performAll directory stamp served.effects tree).tree := by
  refine
    serveAll_invariant
      (fun current host effects =>
        Succeed directory stamp effects tree →
          Backed asked directory stamp current host
            (performAll directory stamp effects tree).tree)
      ?_ [] (fun _ => backed) succeed
  intro request listed current host effects holds succeeds
  obtain ⟨state, member, rfl⟩ := List.mem_map.mp listed
  obtain ⟨earlier, later⟩ := succeed_append.mp succeeds
  rw [performAll_append]
  exact (holds earlier).lookup separate fits (members state member) later

/-! ## Emptying a cache -/

/-- A cache that is emptied leaves an index of entries that can be loaded. -/
theorem flush
    {cache : Cache} {host : device} {tree : FileTree}
    (fits : stamp.Fits)
    (backed : Backed asked directory stamp cache host tree)
    (succeed : Succeed directory stamp (cache.flush host).effects tree) :
    let after :=
      (performAll directory stamp (cache.flush host).effects tree).tree
    Store.readIndex directory after =
        .ok (cache.resident ++ cache.unclaimed) ∧
      ∀ digest ∈ cache.resident ++ cache.unclaimed,
        ∃ state ∈ asked, Stored device directory stamp after digest state := by
  have persists := backed.persists
  have located : cache.settings.directory.isSome = true := by
    simp only [Settings.persists, Bool.and_eq_true] at persists
    exact persists.2
  have effects :
      (cache.flush host).effects =
        (cache.evictOldest cache.slots.size host).effects ++
          [.awaitAll, .publish (cache.resident ++ cache.unclaimed)] := by
    simp [Cache.flush, located, backed.orderly.indexDigests_eq]
  rw [effects] at succeed ⊢
  obtain ⟨earlier, later⟩ := succeed_append.mp succeed
  obtain ⟨evicted, gone, entries, stored⟩ :=
    backed.evictOldest cache.slots.size fits earlier
  rw [performAll_append]
  obtain ⟨after, written, published⟩ := publish_of_succeeds later.2.1
  have last :
      (performAll directory stamp
        [.awaitAll, .publish (cache.resident ++ cache.unclaimed)]
        (performAll directory stamp
          (cache.evictOldest cache.slots.size host).effects tree).tree).tree =
        after := by
    simpa only [performAll, Effect.perform] using published
  rw [last]
  obtain ⟨-, -, -, listed⟩ := Store.writeIndex_spec written
  refine ⟨listed, ?_⟩
  intro digest member
  rcases List.mem_append.mp member with resident | unclaimed
  · obtain ⟨entry, kept, rfl⟩ := List.mem_map.mp resident
    have all : cache.slots.entries = gone := by
      rw [entries, evictOldest_slots, Nat.sub_self, List.take_zero,
        List.nil_append]
    exact ⟨entry.2.state, (backed.orderly.keyed entry kept).1,
      (stored entry (all ▸ kept)).mono (Store.load_of_writeIndex written)⟩
  · obtain ⟨entry, waiting, rfl⟩ :=
      List.mem_map.mp (mem_unclaimed_iff.mp unclaimed).2
    obtain ⟨slots, statistics, -, same⟩ :=
      evictOldest_cache cache.slots.size cache host
    have loaded :=
      evicted.waiting entry (by rw [same]; exact waiting)
    exact ⟨entry.2.state, (backed.orderly.filed entry waiting).1, entry.2,
      Store.load_of_writeIndex written loaded, rfl,
      backed.faithful.genuine entry waiting⟩

end Backed

end Cache

end ShaderSynth
