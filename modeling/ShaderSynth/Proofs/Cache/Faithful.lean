import ShaderSynth.Proofs.Cache.Kept

/-!
# Caches whose programs are the right ones

A cache is faithful to its device when every program it keeps is there and was
linked from the sources of its configuration, no two slots share a program,
and stored binaries that wait are of the programs they are filed as.  Every
request keeps this, and a faithful cache answers with the right program.
-/

namespace ShaderSynth

open LawfulDevice (holdings)

/-- The binary is known to be of the program of the configuration. -/
def Store.Entry.Genuine
    (device : Type) [Device device] [LawfulDevice device]
    (entry : Store.Entry) : Prop :=
  ∃ sources,
    entry.state.sources = .ok sources ∧
      LawfulDevice.contents device entry.binary = some sources.toList

variable {device : Type} [Device device] [LawfulDevice device]

namespace Cache

/-- Only the program of its configuration suits a slot. -/
def Slot.Right : Standard := fun slot texts =>
  Linker.Makes false slot.state slot.linked texts

theorem Slot.meets_right_iff {slot : Slot} {present : Holdings} :
    Slot.Meets slot Slot.Right present ↔
      present.Serves slot.state slot.linked.program slot.linked.assembly := by
  constructor
  · rintro ⟨texts, live, ⟨sources, translated, rfl, drawn⟩ | ⟨⟨⟩, -⟩⟩
    exact ⟨sources, translated, live, drawn⟩
  · rintro ⟨sources, translated, live, drawn⟩
    exact ⟨_, live, Or.inl ⟨sources, translated, rfl, drawn⟩⟩

/-- Without the fallback program, and with true binaries, all are right. -/
theorem admits_right
    {fallback : Bool} {staged : List (UInt64 × Store.Entry)}
    (honest : fallback = false)
    (genuine : ∀ entry ∈ staged, entry.2.Genuine device) :
    Admits device Slot.Right fallback staged where
  built := by
    intro state linked texts makes
    subst honest
    exact makes
  restored := by
    intro entry linked texts member drawn known
    obtain ⟨sources, translated, contents⟩ := genuine entry member
    exact Or.inl
      ⟨sources, translated, known _ contents, drawn sources translated⟩

/-- The programs of a cache are there and are the right ones. -/
structure Faithful (cache : Cache) (host : device) : Prop where
  objects : cache.linker.Sound (holdings host)
  honest : cache.linker.fallback = false
  serves :
    ∀ entry ∈ cache.slots.entries,
      (holdings host).Serves entry.2.state entry.2.linked.program
        entry.2.linked.assembly
  distinct : (programsOf cache.slots.entries).Nodup
  genuine : ∀ entry ∈ cache.staged, entry.2.Genuine device

variable {cache : Cache} {host : device}

theorem Keeps.faithful
    (keeps : cache.Keeps Slot.Right host)
    (honest : cache.linker.fallback = false)
    (genuine : ∀ entry ∈ cache.staged, entry.2.Genuine device) :
    cache.Faithful host where
  objects := keeps.objects
  honest := honest
  serves := fun entry member =>
    Slot.meets_right_iff.mp (keeps.meets entry member)
  distinct := keeps.distinct
  genuine := genuine

/-- The right program was got for a configuration, or none. -/
structure Delivers
    (state : PipelineState) (fetched : Fetched device) : Prop where
  faithful : fetched.cache.Faithful fetched.host
  delivered :
    ∀ {slot origin}, fetched.slot = .ok (slot, origin) →
      slot.state = state ∧
        (holdings fetched.host).Serves state slot.linked.program
          slot.linked.assembly

/-- A request for a program was answered as it should be. -/
structure Answers
    (state : PipelineState) (looked : Lookup device) : Prop where
  faithful : looked.cache.Faithful looked.host
  answered :
    ∀ {answer}, looked.answer = .ok answer →
      (holdings looked.host).Serves state answer.program answer.assembly

namespace Faithful

theorem keeps (faithful : cache.Faithful host) :
    cache.Keeps Slot.Right host where
  objects := faithful.objects
  meets := fun entry member =>
    Slot.meets_right_iff.mpr (faithful.serves entry member)
  distinct := faithful.distinct

theorem admits (faithful : cache.Faithful host) :
    Admits device Slot.Right cache.linker.fallback cache.staged :=
  admits_right faithful.honest faithful.genuine

theorem new
    {settings : Settings} (vendor : String) {staging : Store.Staging}
    (host : device)
    (honest : settings.fallback = false)
    (genuine : ∀ entry ∈ staging.staged, entry.2.Genuine device) :
    (Cache.new settings vendor staging).Faithful host :=
  (Keeps.new settings vendor staging host).faithful honest genuine

theorem start
    {settings : Settings} {vendor : String} {tree : FileTree}
    (host : device)
    (honest : settings.fallback = false)
    (genuine :
      ∀ entry ∈ (Cache.start settings vendor tree).1.staged,
        entry.2.Genuine device) :
    (Cache.start settings vendor tree).1.Faithful host :=
  new vendor host honest genuine

theorem count
    (faithful : cache.Faithful host) (statistics : Statistics) :
    { cache with statistics }.Faithful host :=
  ⟨faithful.objects, faithful.honest, faithful.serves, faithful.distinct,
    faithful.genuine⟩

/-! ## Programs that have to go -/

theorem evict
    {digest : UInt64} {slot : Slot} {slots : Lru UInt64 Slot}
    (popped : cache.slots.popLast? = some ((digest, slot), slots))
    (faithful : cache.Faithful host) :
    ({ cache with slots }.evict host digest slot).cache.Faithful
      ({ cache with slots }.evict host digest slot).host := by
  have evicted := faithful.keeps.evict popped
  obtain ⟨statistics, same⟩ :=
    evict_cache { cache with slots } host digest slot
  rw [same] at evicted ⊢
  exact evicted.faithful faithful.honest faithful.genuine

theorem vacate (digest : UInt64) (faithful : cache.Faithful host) :
    (cache.vacate host digest).cache.Faithful
      (cache.vacate host digest).host := by
  have vacated := faithful.keeps.vacate digest
  obtain ⟨slots, statistics, -, same⟩ := cache.vacate_cache host digest
  rw [same] at vacated ⊢
  exact vacated.faithful faithful.honest faithful.genuine

/-! ## Programs that are asked for -/

theorem touch
    {digest : UInt64} {slot : Slot}
    (faithful : cache.Faithful host)
    (found : cache.slots.get? digest = some slot) :
    { cache with slots := cache.slots.touch digest }.Faithful host :=
  (faithful.keeps.touch found).faithful faithful.honest faithful.genuine

theorem fetch
    (digest : UInt64) (state : PipelineState)
    (faithful : cache.Faithful host) :
    Delivers state (cache.fetch host digest state) := by
  have fetched := faithful.keeps.fetch faithful.admits digest state
  obtain ⟨linker, statistics, same⟩ := cache.fetch_cache host digest state
  refine ⟨fetched.keeps.faithful ?_ ?_, ?_⟩
  · exact fetched.fallback.trans faithful.honest
  · rw [same]
    intro entry member
    exact faithful.genuine entry (List.mem_filter.mp member).1
  · intro slot origin done
    obtain ⟨rfl, -, meets⟩ := fetched.got done
    exact ⟨rfl, Slot.meets_right_iff.mp meets⟩

theorem answers
    {state : PipelineState} {looked : Lookup device}
    (faithful : cache.Faithful host)
    (looks : cache.Looks Slot.Right state looked)
    (fewer : looked.cache.staged.Sublist cache.staged) :
    Answers state looked := by
  refine ⟨looks.keeps.faithful ?_ ?_, ?_⟩
  · exact looks.fallback.trans faithful.honest
  · exact fun entry member => faithful.genuine entry (fewer.subset member)
  · intro answer done
    obtain ⟨slot, origin, rfl, same, meets⟩ := looks.answered done
    rw [same]
    exact Slot.meets_right_iff.mp meets

theorem lookupMissing
    (digest : UInt64) (state : PipelineState)
    (faithful : cache.Faithful host) :
    Answers state (cache.lookupMissing host digest state) := by
  refine
    faithful.answers
      (faithful.keeps.lookupMissing faithful.admits digest state) ?_
  rw [lookupMissing_staged]
  exact List.filter_sublist

theorem lookup (state : PipelineState) (faithful : cache.Faithful host) :
    Answers state (cache.lookup host state) :=
  faithful.answers (faithful.keeps.lookup faithful.admits state)
    (lookup_staged cache host state)

/-! ## Requests -/

theorem flush (faithful : cache.Faithful host) :
    (cache.flush host).cache.Faithful (cache.flush host).host := by
  obtain ⟨slots, statistics, -, evicted⟩ :=
    evictOldest_cache cache.slots.size cache host
  refine faithful.keeps.flush.faithful ?_ ?_
  · show (cache.evictOldest cache.slots.size host).cache.linker.fallback = _
    rw [evicted]
    exact faithful.honest
  · rw [flush_staged]
    exact faithful.genuine

theorem serve (request : Request) (faithful : cache.Faithful host) :
    (cache.serve host request).cache.Faithful
      (cache.serve host request).host := by
  cases request with
  | lookup state => exact (faithful.lookup state).faithful
  | flush => exact faithful.flush

theorem serveAll
    (requests : List Request) (faithful : cache.Faithful host) :
    (cache.serveAll host requests).cache.Faithful
      (cache.serveAll host requests).host :=
  serveAll_invariant (fun current host _ => current.Faithful host)
    (fun request _ _ _ _ holds => holds.serve request) [] faithful

end Faithful

end Cache

end ShaderSynth
