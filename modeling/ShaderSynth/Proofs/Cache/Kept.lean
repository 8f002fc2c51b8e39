import Mathlib.Data.List.Nodup
import ShaderSynth.Proofs.Cache.Requests

/-!
# Programs that a cache keeps

Every program in a cache is there, belongs to one slot, and was made from
sources that suit its slot.  What suits is left open: a standard is good enough
if it admits whatever a linker makes and whatever is recreated from what waits
to be asked for.  Every request keeps to such a standard.

Digests play no part in the argument.  A slot is only used for a configuration
that it was made for, and the program of a slot that is removed belongs to no
other slot.
-/

namespace ShaderSynth.Cache

open LawfulDevice (holdings)

/-! ## Programs of slots -/

/-- The program objects of slots. -/
def programsOf (entries : List (UInt64 × Slot)) : List ProgramId :=
  entries.map fun entry => entry.2.linked.program

theorem mem_programsOf
    {entries : List (UInt64 × Slot)} {entry : UInt64 × Slot}
    (member : entry ∈ entries) :
    entry.2.linked.program ∈ programsOf entries :=
  List.mem_map_of_mem member

theorem programsOf_sublist
    {fewer entries : List (UInt64 × Slot)}
    (kept : fewer.Sublist entries) :
    (programsOf fewer).Sublist (programsOf entries) :=
  kept.map _

/-- The program of an entry is not left over when the entry is erased. -/
theorem not_mem_programsOf_erase
    {slots : Lru UInt64 Slot} {digest : UInt64} {slot : Slot}
    (distinct : (programsOf slots.entries).Nodup)
    (found : slots.get? digest = some slot) :
    slot.linked.program ∉ programsOf (slots.erase digest).entries := by
  intro left
  obtain ⟨entry, member, same⟩ := List.mem_map.mp left
  obtain ⟨old, other⟩ := List.mem_filter.mp member
  have equal : entry = (digest, slot) :=
    List.inj_on_of_nodup_map distinct old (Lru.mem_entries_of_get? found) same
  simp [equal] at other

/-! ## Standards -/

/-- Says which sources suit a slot. -/
abbrev Standard := Slot → List String → Prop

/-- The program of a slot is there, and its sources suit. -/
def Slot.Meets (slot : Slot) (suits : Standard) (present : Holdings) : Prop :=
  ∃ texts,
    present.programs slot.linked.program = some texts ∧ suits slot texts

theorem Slot.Meets.mono
    {slot : Slot} {suits : Standard} {before after : Holdings}
    (meets : Slot.Meets slot suits before)
    (extension : before.Extends after) :
    Slot.Meets slot suits after := by
  obtain ⟨texts, live, suitable⟩ := meets
  exact ⟨texts, extension.programs live, suitable⟩

theorem Slot.Meets.removeProgram
    {slot : Slot} {suits : Standard} {before : Holdings}
    {other : ProgramId}
    (meets : Slot.Meets slot suits before)
    (different : slot.linked.program ≠ other) :
    Slot.Meets slot suits (before.removeProgram other) := by
  obtain ⟨texts, live, suitable⟩ := meets
  refine ⟨texts, ?_, suitable⟩
  simpa [Holdings.removeProgram, different] using live

variable {device : Type} [Device device] [LawfulDevice device]

/-- A standard admits all programs that there can be. -/
structure Admits
    (device : Type) [Device device] [LawfulDevice device]
    (suits : Standard) (fallback : Bool)
    (staged : List (UInt64 × Store.Entry)) : Prop where
  built :
    ∀ {state linked texts},
      Linker.Makes fallback state linked texts →
        suits ⟨state, linked, false⟩ texts
  restored :
    ∀ {entry linked texts},
      entry ∈ staged →
        (∀ sources, entry.2.state.sources = .ok sources →
          linked.assembly = sources.assembly) →
        (∀ known, LawfulDevice.contents device entry.2.binary = some known →
          texts = known) →
        suits ⟨entry.2.state, linked, true⟩ texts

theorem Admits.mono
    {suits : Standard} {fallback : Bool}
    {staged fewer : List (UInt64 × Store.Entry)}
    (admits : Admits device suits fallback staged)
    (kept : fewer.Sublist staged) :
    Admits device suits fallback fewer where
  built := admits.built
  restored := fun member => admits.restored (kept.subset member)

/-- The programs of a cache are there and meet a standard. -/
structure Keeps (suits : Standard) (cache : Cache) (host : device) :
    Prop where
  objects : cache.linker.Sound (holdings host)
  meets :
    ∀ entry ∈ cache.slots.entries,
      Slot.Meets entry.2 suits (holdings host)
  distinct : (programsOf cache.slots.entries).Nodup

variable {suits : Standard} {cache : Cache} {host after : device}

namespace Keeps

theorem new
    (settings : Settings) (vendor : String) (staging : Store.Staging)
    (host : device) :
    (Cache.new settings vendor staging).Keeps suits host where
  objects := Linker.sound_new _ _ _
  meets := by
    intro entry member
    cases member
  distinct := List.nodup_nil

theorem mono
    (keeps : cache.Keeps suits host)
    (grows : (holdings host).Extends (holdings after)) :
    cache.Keeps suits after where
  objects := keeps.objects.mono grows
  meets := fun entry member => (keeps.meets entry member).mono grows
  distinct := keeps.distinct

/-! ## Programs that have to go -/

/-- A program that no slot is left for may be deleted. -/
theorem drop
    {slots : Lru UInt64 Slot} {program : ProgramId}
    (keeps : cache.Keeps suits host)
    (kept : slots.entries.Sublist cache.slots.entries)
    (unused : program ∉ programsOf slots.entries)
    (removed : holdings after = (holdings host).removeProgram program) :
    { cache with slots }.Keeps suits after where
  objects := by
    intro entry member
    rw [removed]
    exact keeps.objects entry member
  meets := by
    intro entry member
    rw [removed]
    refine (keeps.meets entry (kept.subset member)).removeProgram ?_
    intro same
    exact unused (same ▸ mem_programsOf member)
  distinct := keeps.distinct.sublist (programsOf_sublist kept)

theorem evict
    {digest : UInt64} {slot : Slot} {slots : Lru UInt64 Slot}
    (popped : cache.slots.popLast? = some ((digest, slot), slots))
    (keeps : cache.Keeps suits host) :
    ({ cache with slots }.evict host digest slot).cache.Keeps suits
      ({ cache with slots }.evict host digest slot).host := by
  have split := Lru.entries_of_popLast? popped
  have unused : slot.linked.program ∉ programsOf slots.entries := by
    have distinct := keeps.distinct
    simp only [split, programsOf, List.map_append, List.map_cons,
      List.map_nil] at distinct
    exact List.disjoint_right.mp (List.disjoint_of_nodup_append distinct)
      (List.mem_singleton_self _)
  have fewer : slots.entries.Sublist cache.slots.entries := by
    rw [split]
    exact List.sublist_append_left _ _
  obtain ⟨statistics, evicted⟩ :=
    evict_cache { cache with slots } host digest slot
  have dropped :=
    keeps.drop fewer unused
      (holdings_evict { cache with slots } host digest slot)
  rw [evicted]
  exact ⟨dropped.objects, dropped.meets, dropped.distinct⟩

theorem evictOldest (count : Nat) (keeps : cache.Keeps suits host) :
    (cache.evictOldest count host).cache.Keeps suits
      (cache.evictOldest count host).host :=
  evictOldest_invariant (fun current host _ => current.Keeps suits host)
    (fun popped holds => holds.evict popped) count [] keeps

theorem removeStale (digest : UInt64) (keeps : cache.Keeps suits host) :
    (cache.removeStale host digest).cache.Keeps suits
      (cache.removeStale host digest).host := by
  unfold Cache.removeStale
  split
  · exact keeps
  · rename_i stale found
    exact keeps.drop (cache.slots.entries_erase_sublist digest)
      (not_mem_programsOf_erase keeps.distinct found)
      (LawfulDevice.holdings_deleteProgram _ _)

theorem vacate (digest : UInt64) (keeps : cache.Keeps suits host) :
    (cache.vacate host digest).cache.Keeps suits
      (cache.vacate host digest).host := by
  have missed :
      { cache with
        statistics :=
          { cache.statistics with
            misses := cache.statistics.misses + 1 } }.Keeps suits host :=
    ⟨keeps.objects, keeps.meets, keeps.distinct⟩
  exact (missed.removeStale digest).evictOldest _

/-! ## Programs that are asked for -/

/-- A program that is new belongs to no slot. -/
theorem not_mem_of_fresh
    {program : ProgramId}
    (keeps : cache.Keeps suits host)
    (fresh : (holdings host).programs program = none) :
    program ∉ programsOf cache.slots.entries := by
  intro member
  obtain ⟨entry, kept, rfl⟩ := List.mem_map.mp member
  obtain ⟨texts, live, -⟩ := keeps.meets entry kept
  rw [fresh] at live
  cases live

theorem touch
    {digest : UInt64} {slot : Slot}
    (keeps : cache.Keeps suits host)
    (found : cache.slots.get? digest = some slot) :
    { cache with slots := cache.slots.touch digest }.Keeps suits host := by
  refine ⟨keeps.objects, ?_, ?_⟩
  · intro entry member
    exact keeps.meets entry (Lru.mem_of_mem_touch member)
  · have fewer :=
      programsOf_sublist (cache.slots.entries_erase_sublist digest)
    dsimp only
    rw [Lru.entries_touch found]
    exact List.nodup_cons.mpr
      ⟨not_mem_programsOf_erase keeps.distinct found,
        keeps.distinct.sublist fewer⟩

theorem addSlot
    (digest : UInt64) {slot : Slot}
    (keeps : cache.Keeps suits host)
    (unused : slot.linked.program ∉ programsOf cache.slots.entries)
    (meets : Slot.Meets slot suits (holdings host)) :
    (cache.addSlot digest slot).Keeps suits host := by
  obtain ⟨others, inserted, erased⟩ := cache.slots.entries_insert digest slot
  have kept := erased.trans (cache.slots.entries_erase_sublist digest)
  refine ⟨keeps.objects, ?_, ?_⟩
  · intro entry member
    rcases Lru.mem_of_mem_insert member with rfl | old
    · exact meets
    · exact keeps.meets entry old
  · have fewer := programsOf_sublist kept
    show (programsOf (cache.slots.insert digest slot).2.entries).Nodup
    rw [inserted]
    exact List.nodup_cons.mpr
      ⟨fun member => unused (fewer.subset member),
        keeps.distinct.sublist fewer⟩

end Keeps

/-- A program that meets the standard was got for a configuration, or none. -/
structure Gets
    (suits : Standard) (cache : Cache) (state : PipelineState)
    (fetched : Fetched device) : Prop where
  keeps : fetched.cache.Keeps suits fetched.host
  slots : fetched.cache.slots = cache.slots
  fallback : fetched.cache.linker.fallback = cache.linker.fallback
  got :
    ∀ {slot origin}, fetched.slot = .ok (slot, origin) →
      slot.state = state ∧
        slot.linked.program ∉ programsOf cache.slots.entries ∧
        Slot.Meets slot suits (holdings fetched.host)

namespace Keeps

theorem build
    (keeps : cache.Keeps suits host)
    (admits : Admits device suits cache.linker.fallback cache.staged)
    (state : PipelineState) :
    cache.Gets suits state (cache.build host state) := by
  have built := Linker.assemble_builds state keeps.objects
  have grown := keeps.mono built.grows
  unfold Cache.build
  dsimp only
  split
  · exact ⟨⟨built.sound, grown.meets, grown.distinct⟩, rfl, built.fallback,
      by rintro _ _ ⟨⟩⟩
  · rename_i linked done
    refine ⟨⟨built.sound, grown.meets, grown.distinct⟩, rfl, built.fallback,
      ?_⟩
    rintro slot origin ⟨⟩
    obtain ⟨fresh, texts, live, makes⟩ := built.made done
    exact ⟨rfl, keeps.not_mem_of_fresh fresh, texts, live, admits.built makes⟩

theorem restore
    {entry : UInt64 × Store.Entry}
    (keeps : cache.Keeps suits host)
    (admits : Admits device suits cache.linker.fallback cache.staged)
    (restored :
      ∀ {linked texts},
        (∀ sources, entry.2.state.sources = .ok sources →
          linked.assembly = sources.assembly) →
        (∀ known, LawfulDevice.contents device entry.2.binary = some known →
          texts = known) →
        suits ⟨entry.2.state, linked, true⟩ texts)
    (digest : UInt64) :
    cache.Gets suits entry.2.state
      (cache.restore host digest entry.2.state entry.2.binary) := by
  unfold Cache.restore
  split
  · rename_i linked after done
    obtain ⟨fresh, drawn, texts, known, added⟩ := Linker.restore_some done
    have grown :=
      keeps.mono
        ((Holdings.Extends.addProgram texts fresh).trans (.of_eq added))
    refine ⟨⟨grown.objects, grown.meets, grown.distinct⟩, rfl, rfl, ?_⟩
    rintro slot origin ⟨⟩
    refine ⟨rfl, keeps.not_mem_of_fresh fresh, texts, ?_,
      restored drawn known⟩
    rw [added]
    simp [Holdings.addProgram]
  · rename_i after done
    have rejected := keeps.mono (.of_eq (Linker.restore_none done))
    have counted :
        { cache with
          statistics :=
            { cache.statistics with
              rejects := cache.statistics.rejects + 1 } }.Keeps suits
          after :=
      ⟨rejected.objects, rejected.meets, rejected.distinct⟩
    have built := counted.build admits entry.2.state
    exact ⟨built.keeps, built.slots, built.fallback, built.got⟩

theorem fetch
    (keeps : cache.Keeps suits host)
    (admits : Admits device suits cache.linker.fallback cache.staged)
    (digest : UInt64) (state : PipelineState) :
    cache.Gets suits state (cache.fetch host digest state) := by
  have claimed :
      { cache with
        staged := cache.staged.filter (·.1 ≠ digest) }.Keeps suits host :=
    ⟨keeps.objects, keeps.meets, keeps.distinct⟩
  have still :
      Admits device suits cache.linker.fallback
        (cache.staged.filter (·.1 ≠ digest)) :=
    admits.mono List.filter_sublist
  unfold Cache.fetch
  dsimp only
  split
  · exact keeps.build admits state
  · rename_i entry found
    split
    · rename_i same
      obtain ⟨before, rest, split, -⟩ := List.lookup_eq_some_iff.mp found
      have member : (digest, entry) ∈ cache.staged := by simp [split]
      subst same
      have restored := claimed.restore still (admits.restored member) digest
      exact ⟨restored.keeps, restored.slots, restored.fallback, restored.got⟩
    · have built := claimed.build still state
      exact ⟨built.keeps, built.slots, built.fallback, built.got⟩

end Keeps

/-- A request for a program was answered with one that meets the standard. -/
structure Looks
    (suits : Standard) (cache : Cache) (state : PipelineState)
    (looked : Lookup device) : Prop where
  keeps : looked.cache.Keeps suits looked.host
  fallback : looked.cache.linker.fallback = cache.linker.fallback
  answered :
    ∀ {answer}, looked.answer = .ok answer →
      ∃ slot origin,
        slot.state = state ∧
          answer = Slot.answer slot origin answer.digest ∧
          Slot.Meets slot suits (holdings looked.host)

namespace Keeps

theorem lookupMissing
    (keeps : cache.Keeps suits host)
    (admits : Admits device suits cache.linker.fallback cache.staged)
    (digest : UInt64) (state : PipelineState) :
    cache.Looks suits state (cache.lookupMissing host digest state) := by
  obtain ⟨slots, statistics, -, vacated⟩ := cache.vacate_cache host digest
  have relinked :
      (cache.vacate host digest).cache.linker = cache.linker := by
    rw [vacated]
  have restaged :
      (cache.vacate host digest).cache.staged = cache.staged := by
    rw [vacated]
  have fetched :=
    (keeps.vacate digest).fetch (relinked.symm ▸ restaged.symm ▸ admits)
      digest state
  have fallback := fetched.fallback.trans (congrArg Linker.fallback relinked)
  rcases cache.lookupMissing_cases host digest state with
    ⟨error, -, failed⟩ | ⟨slot, origin, done, got⟩
  · rw [failed]
    exact ⟨fetched.keeps, fallback, by rintro _ ⟨⟩⟩
  · rw [got]
    obtain ⟨same, unused, meets⟩ := fetched.got done
    refine ⟨fetched.keeps.addSlot digest ?_ meets, fallback, ?_⟩
    · rw [fetched.slots]
      exact unused
    · rintro answer ⟨⟩
      exact ⟨slot, origin, same, rfl, meets⟩

theorem lookup
    (keeps : cache.Keeps suits host)
    (admits : Admits device suits cache.linker.fallback cache.staged)
    (state : PipelineState) :
    cache.Looks suits state (cache.lookup host state) := by
  rcases cache.lookup_cases host state with
    ⟨slot, statistics, found, same, hit⟩ | ⟨-, missed⟩
  · have touched := keeps.touch found
    rw [hit]
    refine
      ⟨⟨touched.objects, touched.meets, touched.distinct⟩, rfl, ?_⟩
    rintro answer ⟨⟩
    exact ⟨slot, .memory, same, rfl,
      keeps.meets _ (Lru.mem_entries_of_get? found)⟩
  · rw [missed]
    exact keeps.lookupMissing admits state.digest state

theorem flush (keeps : cache.Keeps suits host) :
    (cache.flush host).cache.Keeps suits (cache.flush host).host := by
  have evicted := keeps.evictOldest cache.slots.size
  have cleared :=
    evicted.mono
      (Linker.clear_grows
        (cache.evictOldest cache.slots.size host).cache.linker _)
  exact ⟨Linker.sound_new _ _ _, cleared.meets, cleared.distinct⟩

theorem stage
    (digest : UInt64) (loaded : Option Store.Entry)
    (keeps : cache.Keeps suits host) :
    (cache.stage digest loaded).1.Keeps suits host := by
  obtain ⟨staged, order, rejects, same, -⟩ := cache.stage_cache digest loaded
  rw [same]
  exact ⟨keeps.objects, keeps.meets, keeps.distinct⟩

end Keeps

end ShaderSynth.Cache
