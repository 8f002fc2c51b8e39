import ShaderSynth.Proofs.Cache.Orderly
import ShaderSynth.Proofs.Cache.Transparency
import ShaderSynth.Proofs.Device.Simulated

/-!
# Every object has an owner

A linker owns the shader objects that it keeps, and a cache the programs in its
slots.  Whatever fails on the way, they own just the objects of the device that
are there: none is left behind, none is deleted twice, and emptying a cache
leaves nothing.

While a request is served, there are objects that are not in their places yet
or any more.  The lemmas about the steps therefore say what a device holds, as
a list of objects, before and after; only a whole request relates the lists to
a linker and a cache.
-/

namespace ShaderSynth

open RecordedDevice (accounts Possible)

variable {device : Type} [Device device] [RecordedDevice device]

/-! ## Steps of building -/

namespace Holds

variable {host after : device} {shaders : List ShaderId}
  {programs : List ProgramId}

theorem compile_ok
    {stage : StageKind} {source : String} {shader : ShaderId}
    (holds : Holds host shaders programs)
    (done : Linker.compile host stage source = (.ok shader, after)) :
    Holds after (shader :: shaders) programs := by
  obtain ⟨compiled, last⟩ := Prod.mk.inj done
  exact holds.issueShader
    (RecordedDevice.compile_issues holds.possible
      (Prod.ext (mapError_eq_ok_iff.mp compiled) last))

theorem compile_error
    {stage : StageKind} {source : String} {error : BuildError}
    (holds : Holds host shaders programs)
    (failed : Linker.compile host stage source = (.error error, after)) :
    Holds after shaders programs := by
  cases called : Device.compile host stage source with
  | mk compiled last =>
      cases compiled with
      | ok shader => simp [Linker.compile, called, mapError_ok] at failed
      | error log =>
          obtain ⟨-, rfl⟩ := by simpa [Linker.compile, called] using failed
          exact holds.silent
            (RecordedDevice.compile_silent holds.possible called)

theorem link_ok
    {objects : List ShaderId} {program : ProgramId}
    (holds : Holds host shaders programs)
    (done : Linker.link host objects = (.ok program, after)) :
    Holds after shaders (program :: programs) := by
  obtain ⟨linked, last⟩ := Prod.mk.inj done
  exact holds.issueProgram
    (RecordedDevice.link_issues holds.possible
      (Prod.ext (mapError_eq_ok_iff.mp linked) last))

theorem link_error
    {objects : List ShaderId} {error : BuildError}
    (holds : Holds host shaders programs)
    (failed : Linker.link host objects = (.error error, after)) :
    Holds after shaders programs := by
  cases called : Device.link host objects with
  | mk linked last =>
      cases linked with
      | ok program => simp [Linker.link, called, mapError_ok] at failed
      | error log =>
          obtain ⟨-, rfl⟩ := by simpa [Linker.link, called] using failed
          exact holds.silent
            (RecordedDevice.link_silent holds.possible called)

/-- A program stays what it is when it is made ready. -/
theorem prepare
    {program : ProgramId} (assembly : Assembly)
    (holds : Holds host shaders (program :: programs)) :
    Holds (LinkedProgram.prepare host program assembly).2 shaders
      ((LinkedProgram.prepare host program assembly).1.program ::
        programs) := by
  rw [(LinkedProgram.prepare_program host program assembly).1]
  refine
    LinkedProgram.prepare_invariant
      (fun current => Holds current shaders (program :: programs))
      (fun current name kept => ?_) (fun current location unit kept => ?_)
      assembly holds
  · exact kept.silent
      (RecordedDevice.location_silent program name kept.possible)
  · exact kept.silent
      (RecordedDevice.setSampler_silent program location unit kept.possible)

end Holds

/-! ## Linkers -/

namespace Linker

/-- The program object of a program that there may be. -/
def objectOf (linked : Option LinkedProgram) : List ProgramId :=
  (linked.map LinkedProgram.program).toList

/-- A linker has just the shader objects that are there. -/
structure Owns
    (linker : Linker) (host : device) (programs : List ProgramId) : Prop where
  holds : Holds host linker.objects.values programs
  distinct : linker.objects.keys.Nodup

variable {linker : Linker} {host : device} {programs : List ProgramId}

theorem Owns.keep
    {key : StageKey} {shader : ShaderId}
    (distinct : linker.objects.keys.Nodup)
    (absent : key ∉ linker.objects.keys)
    (holds : Holds host (shader :: linker.objects.values) programs) :
    (linker.keep host key shader).1.Owns (linker.keep host key shader).2
      programs := by
  have moved :=
    holds.perm (Lru.values_insert_perm shader absent).symm (.refl _)
  have unique := Lru.nodup_keys_insert key shader distinct
  unfold Linker.keep
  generalize linker.objects.insert key shader = inserted at moved unique ⊢
  obtain ⟨displaced, objects⟩ := inserted
  cases displaced with
  | none => exact ⟨moved, unique⟩
  | some old => exact ⟨moved.deleteShader, unique⟩

theorem Owns.object
    (key : StageKey) (owns : linker.Owns host programs) :
    (linker.object host key).linker.Owns (linker.object host key).host
      programs := by
  unfold Linker.object
  split
  · have moved := Lru.entries_touch_perm key owns.distinct
    exact
      ⟨owns.holds.perm (moved.map Prod.snd).symm (.refl _),
        Lru.nodup_keys_touch key owns.distinct⟩
  · rename_i missing
    have absent : key ∉ linker.objects.keys := by
      rw [← Lru.get?_isSome_iff, missing]
      simp
    dsimp only
    split
    · exact owns
    · split
      · rename_i failed
        exact ⟨owns.holds.compile_error failed, owns.distinct⟩
      · rename_i done
        exact Owns.keep owns.distinct absent (owns.holds.compile_ok done)

theorem Owns.objectsOf
    (keys : List StageKey) (owns : linker.Owns host programs) :
    (linker.objectsOf host keys).linker.Owns (linker.objectsOf host keys).host
      programs := by
  induction keys generalizing linker host with
  | nil => exact owns
  | cons key rest ih =>
      have first := owns.object key
      unfold Linker.objectsOf
      dsimp only
      split
      · exact first
      · exact ih first

/-- A program that is built is one more program, and nothing else is left. -/
theorem Owns.build
    (stages : Stages) (owns : linker.Owns host programs) :
    (linker.build host stages).linker.Owns (linker.build host stages).host
      (objectOf (linker.build host stages).result.toOption ++ programs) := by
  have compiled := owns.objectsOf stages.toList
  unfold Linker.build
  dsimp only
  split
  · exact compiled
  · split
    · rename_i failed
      exact ⟨compiled.holds.link_error failed, compiled.distinct⟩
    · rename_i program after done
      have ready := (compiled.holds.link_ok done).prepare stages.assembly
      generalize LinkedProgram.prepare after program stages.assembly = prepared
        at ready ⊢
      exact ⟨ready, compiled.distinct⟩

theorem holds_buildFallback
    {shaders : List ShaderId} (assembly : Assembly)
    (holds : Holds host shaders programs) :
    Holds (buildFallback host assembly).2 shaders
      (objectOf (buildFallback host assembly).1.toOption ++ programs) := by
  unfold buildFallback
  split
  · rename_i failed
    exact holds.compile_error failed
  · rename_i vertex afterVertex compiledVertex
    have first := holds.compile_ok compiledVertex
    split
    · rename_i failed
      exact (first.compile_error failed).deleteShader
    · rename_i fragment afterFragment compiledFragment
      have both :=
        (first.compile_ok compiledFragment).perm
          (List.Perm.swap vertex fragment shaders) (.refl _)
      cases linking : link afterFragment [vertex, fragment] with
      | mk linked afterLink =>
          cases linked with
          | error error =>
              exact (both.link_error linking).deleteShader.deleteShader
          | ok program =>
              have ready :=
                (both.link_ok linking).deleteShader.deleteShader.prepare
                  assembly
              dsimp only
              generalize
                LinkedProgram.prepare
                  (Device.deleteShader (Device.deleteShader afterLink vertex)
                    fragment)
                  program assembly = prepared at ready ⊢
              exact ready

theorem Owns.assemble
    (state : PipelineState) (owns : linker.Owns host programs) :
    (linker.assemble host state).linker.Owns
      (linker.assemble host state).host
      (objectOf (linker.assemble host state).result.toOption ++
        programs) := by
  unfold Linker.assemble
  split
  · exact owns
  · rename_i stages _
    have built := owns.build stages
    dsimp only
    split
    · exact built
    · rename_i error failed
      rw [failed] at built
      split
      · have replaced := holds_buildFallback stages.assembly built.holds
        generalize
          buildFallback (linker.build host stages).host stages.assembly =
            answer at replaced ⊢
        obtain ⟨linked, last⟩ := answer
        refine ⟨?_, built.distinct⟩
        cases linked with
        | error cause => exact replaced
        | ok linked => exact replaced
      · rw [failed]
        exact built

theorem holds_restore
    {shaders : List ShaderId} (state : PipelineState)
    (binary : ProgramBinary) (holds : Holds host shaders programs) :
    Holds (restore host state binary).2 shaders
      (objectOf (restore host state binary).1 ++ programs) := by
  unfold restore
  split
  · exact holds
  · rename_i stages _
    split
    · rename_i rejected
      exact holds.silent
        (RecordedDevice.ofBinary_silent holds.possible rejected)
    · rename_i program after recreated
      have issued :=
        holds.issueProgram
          (RecordedDevice.ofBinary_issues holds.possible recreated)
      have ready := issued.prepare stages.assembly
      generalize LinkedProgram.prepare after program stages.assembly = prepared
        at ready ⊢
      exact ready

theorem Owns.clear (owns : linker.Owns host programs) :
    (linker.clear host).1.Owns (linker.clear host).2 programs where
  holds := owns.holds.deleteShaders
  distinct := List.nodup_nil

end Linker

/-! ## Caches -/

namespace Cache

/-- The linker and the slots of a cache have just the objects that are there. -/
structure Owns (cache : Cache) (host : device) : Prop where
  linker : cache.linker.Owns host (programsOf cache.slots.entries)
  distinct : cache.slots.keys.Nodup

variable {cache : Cache} {host : device} {shaders : List ShaderId}
  {programs : List ProgramId}

theorem Owns.new
    (settings : Settings) (vendor : String) (staging : Store.Staging)
    (possible : Possible host) (unused : accounts host = ⟨[], []⟩) :
    (Cache.new settings vendor staging).Owns host where
  linker := ⟨.unused possible unused, List.nodup_nil⟩
  distinct := List.nodup_nil

/-! ### Programs that have to go -/

theorem holds_persist
    (digest : UInt64) (slot : Slot) (holds : Holds host shaders programs) :
    Holds (cache.persist host digest slot).host shaders programs := by
  have asked := holds.binary slot.linked.program
  unfold persist
  split
  · split
    · rename_i given
      rw [given] at asked
      exact asked
    · rename_i given
      rw [given] at asked
      exact asked
  · exact holds

theorem holds_evict
    (digest : UInt64) {slot : Slot}
    (holds : Holds host shaders (slot.linked.program :: programs)) :
    Holds (cache.evict host digest slot).host shaders programs :=
  (holds_persist digest slot holds).deleteProgram

theorem Owns.evictOldest (count : Nat) (owns : cache.Owns host) :
    (evictOldest count cache host).cache.Owns
      (evictOldest count cache host).host := by
  refine
    evictOldest_invariant (fun current last _ => current.Owns last) ?_ count
      [] owns
  intro current last effects digest slot slots popped owns
  have split := Lru.entries_of_popLast? popped
  obtain ⟨statistics, evicted⟩ :=
    evict_cache { current with slots } last digest slot
  have moved :
      (programsOf current.slots.entries).Perm
        (slot.linked.program :: programsOf slots.entries) := by
    rw [split, programsOf, List.map_append]
    exact List.perm_append_comm
  rw [evicted]
  refine ⟨⟨?_, owns.linker.distinct⟩, ?_⟩
  · exact holds_evict digest (owns.linker.holds.perm (.refl _) moved)
  · have distinct := owns.distinct
    rw [Lru.keys, split, List.map_append] at distinct
    exact distinct.of_append_left

theorem Owns.removeStale (digest : UInt64) (owns : cache.Owns host) :
    (cache.removeStale host digest).cache.Owns
      (cache.removeStale host digest).host := by
  unfold Cache.removeStale
  split
  · exact owns
  · rename_i stale found
    have moved := Lru.perm_cons_erase owns.distinct found
    refine ⟨⟨?_, owns.linker.distinct⟩, ?_⟩
    · exact (owns.linker.holds.perm (.refl _) (moved.map _)).deleteProgram
    · exact owns.distinct.sublist
        ((cache.slots.entries_erase_sublist digest).map Prod.fst)

omit [RecordedDevice device] in
theorem makeRoom_room (cache : Cache) (host : device) :
    (cache.makeRoom host).cache.slots.size <
      (cache.makeRoom host).cache.slots.capacity.size := by
  have positive := cache.slots.capacity.size_pos
  unfold makeRoom
  rw [evictOldest_slots]
  simp only [Lru.size, List.length_take]
  omega

/-- There is a place for a program that is to come. -/
theorem Owns.vacate (digest : UInt64) (owns : cache.Owns host) :
    let ready := cache.vacate host digest
    ready.cache.Owns ready.host ∧
      digest ∉ ready.cache.slots.keys ∧
      ready.cache.slots.size < ready.cache.slots.capacity.size := by
  let counted : Cache :=
    { cache with
      statistics :=
        { cache.statistics with misses := cache.statistics.misses + 1 } }
  let cleared := counted.removeStale host digest
  have counting : counted.Owns host := ⟨owns.linker, owns.distinct⟩
  have emptied : cleared.cache.Owns cleared.host := counting.removeStale digest
  obtain ⟨slots, statistics, fewer, evicted⟩ :=
    evictOldest_cache
      (cleared.cache.slots.size + 1 - cleared.cache.slots.capacity.size)
      cleared.cache cleared.host
  refine ⟨emptied.evictOldest _, ?_, cleared.cache.makeRoom_room cleared.host⟩
  intro member
  have kept : digest ∈ slots.keys := by
    have same := congrArg (fun current => current.slots.keys) evicted
    exact same ▸ member
  exact counted.removeStale_absent host digest
    ((fewer.map Prod.fst).subset kept)

/-! ### Programs that are asked for -/

/-- The program object of a slot that there may be. -/
def objectOf (got : Except BuildError (Slot × Origin)) : List ProgramId :=
  Linker.objectOf (got.toOption.map fun slot => slot.1.linked)

theorem owns_build
    (state : PipelineState) (owns : cache.linker.Owns host programs) :
    (cache.build host state).cache.linker.Owns (cache.build host state).host
      (objectOf (cache.build host state).slot ++ programs) := by
  have assembled := owns.assemble state
  unfold build
  dsimp only
  split
  · rename_i failed
    rw [failed] at assembled
    exact assembled
  · rename_i done
    rw [done] at assembled
    exact assembled

theorem owns_fetch
    (digest : UInt64) (state : PipelineState)
    (owns : cache.linker.Owns host programs) :
    (cache.fetch host digest state).cache.linker.Owns
      (cache.fetch host digest state).host
      (objectOf (cache.fetch host digest state).slot ++ programs) := by
  unfold fetch
  dsimp only
  split
  · exact owns_build state owns
  · rename_i entry _
    split
    · have restored := Linker.holds_restore state entry.binary owns.holds
      unfold restore
      split
      · rename_i recreated
        rw [recreated] at restored
        exact ⟨restored, owns.distinct⟩
      · rename_i rejected
        rw [rejected] at restored
        exact owns_build state ⟨restored, owns.distinct⟩
    · exact owns_build state owns

theorem Owns.lookupMissing
    (digest : UInt64) (state : PipelineState) (owns : cache.Owns host) :
    (cache.lookupMissing host digest state).cache.Owns
      (cache.lookupMissing host digest state).host := by
  obtain ⟨ready, absent, room⟩ := owns.vacate digest
  have fetched := owns_fetch digest state ready.linker
  have slots :
      ((cache.vacate host digest).cache.fetch
        (cache.vacate host digest).host digest state).cache.slots =
          (cache.vacate host digest).cache.slots := by
    obtain ⟨linker, statistics, got⟩ :=
      fetch_cache (cache.vacate host digest).cache
        (cache.vacate host digest).host digest state
    rw [got]
  rcases cache.lookupMissing_cases host digest state with
    ⟨error, failed, missed⟩ | ⟨slot, origin, done, found⟩
  · rw [missed]
    rw [failed] at fetched
    refine ⟨?_, ?_⟩
    · rw [slots]
      exact fetched
    · rw [slots]
      exact ready.distinct
  · rw [found]
    rw [done] at fetched
    unfold addSlot
    rw [slots, Lru.insert_of_room slot absent room]
    exact ⟨fetched, List.nodup_cons.mpr ⟨absent, ready.distinct⟩⟩

theorem Owns.lookup (state : PipelineState) (owns : cache.Owns host) :
    (cache.lookup host state).cache.Owns (cache.lookup host state).host := by
  rcases cache.lookup_cases host state with
    ⟨slot, statistics, -, -, hit⟩ | ⟨-, missed⟩
  · have moved := Lru.entries_touch_perm state.digest owns.distinct
    rw [hit]
    exact
      ⟨⟨owns.linker.holds.perm (.refl _) (moved.map _).symm,
        owns.linker.distinct⟩, Lru.nodup_keys_touch _ owns.distinct⟩
  · rw [missed]
    exact owns.lookupMissing state.digest state

/-- A cache that has been emptied has nothing, and so has the device. -/
theorem Owns.flush (owns : cache.Owns host) :
    (cache.flush host).cache.Owns (cache.flush host).host ∧
      (cache.flush host).cache.slots.entries = [] ∧
      (cache.flush host).cache.linker.objects.entries = [] := by
  have evicted := owns.evictOldest cache.slots.size
  have slots := evictOldest_slots cache.slots.size cache host
  rw [Nat.sub_self, List.take_zero] at slots
  refine ⟨⟨evicted.linker.clear, evicted.distinct⟩, ?_, rfl⟩
  exact congrArg Lru.entries slots

theorem Owns.stage
    (digest : UInt64) (loaded : Option Store.Entry) (owns : cache.Owns host) :
    (cache.stage digest loaded).1.Owns host := by
  obtain ⟨staged, order, rejects, same, -⟩ := cache.stage_cache digest loaded
  rw [same]
  exact ⟨owns.linker, owns.distinct⟩

theorem Owns.takeAll (turns : List Turn) (owns : cache.Owns host) :
    (cache.takeAll host turns).cache.Owns
      (cache.takeAll host turns).host := by
  refine
    takeAll_invariant (fun current last _ => current.Owns last) ?_ [] owns
  rintro ((state | _) | ⟨digest, loaded⟩) - current last effects owns
  · exact owns.lookup state
  · exact owns.flush.1
  · exact owns.stage digest loaded

/--
Whatever is asked of a cache on a device that hands out fresh objects, and
whatever is made ready in between: the programs that are there afterwards are
those in the slots, each in one slot; the shader objects that are there are
those that the linker keeps; and nothing was deleted more than once.  If the
cache is then emptied, no object is left.  The files come after that, so that
an index that cannot be written leaves no object behind either.
-/
theorem objects_accounted
    (settings : Settings) (vendor : String) (staging : Store.Staging)
    {host : device}
    (possible : Possible host) (unused : accounts host = ⟨[], []⟩)
    (turns : List Turn) :
    let served := (new settings vendor staging).takeAll host turns
    let flushed := served.cache.flush served.host
    ((accounts served.host).programs.live.Perm
        (served.cache.slots.values.map fun slot => slot.linked.program) ∧
      (accounts served.host).programs.live.Nodup ∧
      (accounts served.host).programs.deleted.Nodup) ∧
    ((accounts served.host).shaders.live.Perm
        served.cache.linker.objects.values ∧
      (accounts served.host).shaders.live.Nodup ∧
      (accounts served.host).shaders.deleted.Nodup) ∧
    (accounts flushed.host).programs.live = [] ∧
    (accounts flushed.host).shaders.live = [] := by
  intro served flushed
  have owns : served.cache.Owns served.host :=
    (Owns.new settings vendor staging possible unused).takeAll turns
  obtain ⟨emptied, noSlots, noObjects⟩ := owns.flush
  obtain ⟨-, shaders, programs⟩ := owns.linker.holds
  obtain ⟨-, lastShaders, lastPrograms⟩ := emptied.linker.holds
  have slots :
      programsOf served.cache.slots.entries =
        served.cache.slots.values.map fun slot => slot.linked.program := by
    rw [programsOf, Lru.values, List.map_map]
    rfl
  rw [noSlots] at lastPrograms
  rw [Lru.values, noObjects] at lastShaders
  refine ⟨⟨?_, ?_, programs.nodup_deleted⟩, ⟨shaders.live, ?_,
    shaders.nodup_deleted⟩, lastPrograms.live_eq_nil,
    lastShaders.live_eq_nil⟩
  · exact slots ▸ programs.live
  · exact programs.live.nodup_iff.mpr programs.nodup_held
  · exact shaders.live.nodup_iff.mpr shaders.nodup_held

/--
A simulated device that fails to link once: a program is replaced by the
fallback program and saved, a stored one is made ready and another cannot be,
the first is asked for again, and the tables are empty in the end.
-/
theorem objects_accounted_quadrilaterals :
    let host : SimulatedDevice :=
      { vendor := "", switches := { failLinks := 1 } }
    let settings : Settings := { directory := some "c", fallback := true }
    let turns : List Turn :=
      [.request (.lookup quadrilaterals), .request .flush,
        .stage 7 (some ⟨default, ⟨1, []⟩⟩), .stage 8 none,
        .request (.lookup quadrilaterals)]
    let served := (new settings "" ⟨[], 0, .empty⟩).takeAll host turns
    let flushed := served.cache.flush served.host
    accounts host = ⟨[], []⟩ ∧
      (served.host.programs.map Prod.fst).Perm
        (served.cache.slots.values.map fun slot => slot.linked.program) ∧
      (served.host.shaders.map Prod.fst).Perm
        served.cache.linker.objects.values ∧
      flushed.host.programs = [] ∧
      flushed.host.shaders = [] := by
  intro host settings turns
  have possible : Possible host := SimulatedDevice.Coherent.new _ _
  have unused : accounts host = ⟨[], []⟩ := rfl
  have owns :=
    (Owns.new settings "" ⟨[], 0, .empty⟩ possible unused).takeAll turns
  have accounted :=
    objects_accounted settings "" ⟨[], 0, .empty⟩ possible unused turns
  -- What follows holds of the run without carrying it out.
  dsimp only at accounted ⊢
  generalize (new settings "" ⟨[], 0, .empty⟩).takeAll host turns = served
    at owns accounted ⊢
  obtain ⟨⟨programs, -⟩, ⟨shaders, -⟩, noPrograms, noShaders⟩ := accounted
  obtain ⟨before, beforeShaders⟩ :=
    SimulatedDevice.tables_perm owns.linker.holds.possible
  obtain ⟨after, afterShaders⟩ :=
    SimulatedDevice.tables_perm owns.flush.1.linker.holds.possible
  refine ⟨unused, before.trans programs, beforeShaders.trans shaders, ?_, ?_⟩
  · exact List.map_eq_nil_iff.mp (after.trans (.of_eq noPrograms)).eq_nil
  · exact List.map_eq_nil_iff.mp
      (afterShaders.trans (.of_eq noShaders)).eq_nil

end Cache

end ShaderSynth
