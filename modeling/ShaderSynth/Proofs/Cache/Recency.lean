import ShaderSynth.Proofs.Cache.Persistence

/-!
# Recency

A cache keeps its programs by how recently they were asked for.  What this
amounts to is said with a list of digests and without a cache: `recency`.  As
long as no two configurations share a digest, the programs of a cache follow
that list, whatever device it works with and whatever fails on the way.
Working with the programs of a cache does not count as asking for them.
-/

namespace ShaderSynth.Cache

variable {device : Type} [Device device]

/-! ## Digests in order of use -/

/-- A program was asked for, with or without success. -/
structure Visit where
  digest : UInt64
  answered : Bool

/-- Lets go of the last item, if there is no room for another one. -/
def trim {item : Type} (capacity : Nat) (items : List item) : List item :=
  if items.length = capacity then items.dropLast else items

/--
The digests in a cache of a certain size after a visit.  A digest that is not
there takes the place of the last one if the cache is full; if there is no
program for it, the place stays empty.
-/
def recency (capacity : Nat) (digests : List UInt64) (visit : Visit) :
    List UInt64 :=
  if visit.digest ∈ digests then
    visit.digest :: digests.erase visit.digest
  else if visit.answered then visit.digest :: trim capacity digests
  else trim capacity digests

theorem trim_sublist {item : Type} (capacity : Nat) (items : List item) :
    (trim capacity items).Sublist items := by
  unfold trim
  split
  · exact List.dropLast_sublist items
  · exact List.Sublist.refl items

theorem length_trim_lt
    {item : Type} {capacity : Nat} {items : List item}
    (positive : 0 < capacity) (bounded : items.length ≤ capacity) :
    (trim capacity items).length < capacity := by
  unfold trim
  split
  · rw [List.length_dropLast]
    omega
  · omega

theorem map_trim
    {item image : Type} (change : item → image) (capacity : Nat)
    (items : List item) :
    (trim capacity items).map change = trim capacity (items.map change) := by
  unfold trim
  rw [List.length_map]
  split
  · exact List.map_dropLast
  · rfl

theorem nodup_recency
    {capacity : Nat} {digests : List UInt64} (visit : Visit)
    (distinct : digests.Nodup) :
    (recency capacity digests visit).Nodup := by
  have fewer := trim_sublist capacity digests
  unfold recency
  split
  · exact List.nodup_cons.mpr
      ⟨distinct.not_mem_erase, distinct.erase visit.digest⟩
  · rename_i absent
    split
    · exact List.nodup_cons.mpr
        ⟨fun member => absent (fewer.subset member), distinct.sublist fewer⟩
    · exact distinct.sublist fewer

theorem length_recency_le
    {capacity : Nat} {digests : List UInt64} (visit : Visit)
    (positive : 0 < capacity) (bounded : digests.length ≤ capacity) :
    (recency capacity digests visit).length ≤ capacity := by
  have room := length_trim_lt positive bounded
  unfold recency
  split
  · rename_i member
    have nonempty := List.length_pos_of_mem member
    rw [List.length_cons, List.length_erase_of_mem member]
    omega
  · split
    · exact room
    · exact room.le

/-! ## Uses of a cache -/

/-- Works with a program in the cache, which stays in its place. -/
def edit
    (cache : Cache) (host : device) (digest : UInt64)
    (change : LinkedProgram → device → LinkedProgram × device) :
    Cache × device :=
  match cache.linked? digest with
  | none => (cache, host)
  | some linked =>
      let (linked, host) := change linked host
      (cache.updateLinked digest fun _ => linked, host)

/-- What can be done with a cache while programs are drawn with. -/
inductive Use (device : Type) where
  | lookup (state : PipelineState)
  | stage (digest : UInt64) (loaded : Option Store.Entry)
  | upload (digest : UInt64) (constants : Constants) (force : Bool)
  | invalidate (digest : UInt64)
  /-- Whatever else is done with a program and the device. -/
  | edit
      (digest : UInt64)
      (change : LinkedProgram → device → LinkedProgram × device)

/-- Uses a cache. -/
def use (cache : Cache) (host : device) : Use device → Cache × device
  | .lookup state =>
      ((cache.lookup host state).cache, (cache.lookup host state).host)
  | .stage digest loaded => ((cache.stage digest loaded).1, host)
  | .upload digest constants force =>
      cache.edit host digest fun linked host =>
        (linked.upload host constants force).2
  | .invalidate digest =>
      cache.edit host digest fun linked host => (linked.invalidate, host)
  | .edit digest change => cache.edit host digest change

/-- Uses a cache again and again. -/
def useAll (cache : Cache) (host : device) :
    List (Use device) → Cache × device
  | [] => (cache, host)
  | first :: rest =>
      (cache.use host first).1.useAll (cache.use host first).2 rest

/-- The visit that a use is, if it is one. -/
def visit? (cache : Cache) (host : device) : Use device → Option Visit
  | .lookup state =>
      some ⟨state.digest, (cache.lookup host state).answer.isOk⟩
  | _ => none

/-- The visits among the uses of a cache, and how they turn out. -/
def visits (cache : Cache) (host : device) :
    List (Use device) → List Visit
  | [] => []
  | first :: rest =>
      (cache.visit? host first).toList ++
        (cache.use host first).1.visits (cache.use host first).2 rest

/-! ## What one use does -/

omit [Device device] in
theorem edit_slots
    (cache : Cache) (host : device) (digest : UInt64)
    (change : LinkedProgram → device → LinkedProgram × device) :
    (cache.edit host digest change).1.resident = cache.resident ∧
      (cache.edit host digest change).1.slots.capacity =
        cache.slots.capacity ∧
      ∀ entry ∈ (cache.edit host digest change).1.slots.entries,
        ∃ former ∈ cache.slots.entries,
          entry.1 = former.1 ∧ entry.2.state = former.2.state := by
  unfold edit
  split
  · exact ⟨rfl, rfl, fun entry member => ⟨entry, member, rfl, rfl⟩⟩
  · refine ⟨Lru.keys_update _ _ _, rfl, ?_⟩
    intro entry member
    obtain ⟨former, known, rfl⟩ := List.mem_map.mp member
    refine ⟨former, known, ?_⟩
    split <;> exact ⟨rfl, rfl⟩

/-- Room is made for a program by letting go of one at most. -/
theorem vacate_slots
    {cache : Cache} (host : device) {digest : UInt64}
    (absent : cache.slots.get? digest = none)
    (bounded : cache.slots.size ≤ cache.slots.capacity.size) :
    (cache.vacate host digest).cache.slots =
      ⟨cache.slots.capacity,
        trim cache.slots.capacity.size cache.slots.entries⟩ := by
  obtain ⟨statistics, vacated⟩ := vacate_of_absent host absent
  have positive := cache.slots.capacity.size_pos
  dsimp only at vacated
  rw [vacated]
  unfold makeRoom trim
  rw [evictOldest_slots]
  dsimp only [Lru.size] at bounded ⊢
  congr 1
  split
  · rw [List.dropLast_eq_take]
    congr 1
    omega
  · rw [List.take_of_length_le (by omega)]

/-- A program that is not in the cache gets the first place, if there is one. -/
theorem resident_lookupMissing
    {cache : Cache} (host : device) {digest : UInt64} (state : PipelineState)
    (absent : digest ∉ cache.resident)
    (bounded : cache.slots.size ≤ cache.slots.capacity.size) :
    let kept := trim cache.slots.capacity.size cache.resident
    let missed := cache.lookupMissing host digest state
    missed.cache.resident =
        (if missed.answer.isOk then digest :: kept else kept) ∧
      missed.cache.slots.capacity = cache.slots.capacity := by
  intro kept missed
  have vacated := vacate_slots host (get?_of_not_resident absent) bounded
  have keys : (cache.vacate host digest).cache.slots.keys = kept := by
    rw [vacated]
    exact map_trim _ _ _
  obtain ⟨linker, statistics, fetched⟩ :=
    fetch_cache (cache.vacate host digest).cache
      (cache.vacate host digest).host digest state
  rcases cache.lookupMissing_cases host digest state with
    ⟨error, -, failed⟩ | ⟨slot, origin, -, got⟩
  · simp only [missed, failed, fetched]
    exact ⟨keys, by rw [vacated]⟩
  · have fresh : digest ∉ (cache.vacate host digest).cache.slots.keys := by
      rw [keys]
      exact fun member => absent ((trim_sublist _ _).subset member)
    have room :
        (cache.vacate host digest).cache.slots.size <
          (cache.vacate host digest).cache.slots.capacity.size := by
      rw [vacated]
      exact length_trim_lt cache.slots.capacity.size_pos bounded
    simp only [missed, got, fetched, addSlot]
    rw [Lru.insert_of_room slot fresh room]
    exact ⟨congrArg (digest :: ·) keys, by rw [vacated]⟩

/-- What a lookup puts into a cache is of the configuration asked for. -/
theorem mem_entries_lookup
    {cache : Cache} {host : device} {state : PipelineState}
    {entry : UInt64 × Slot}
    (member : entry ∈ (cache.lookup host state).cache.slots.entries) :
    entry ∈ cache.slots.entries ∨
      entry.1 = state.digest ∧ entry.2.state = state := by
  rcases cache.lookup_cases host state with
    ⟨slot, statistics, -, -, hit⟩ | ⟨-, missed⟩
  · rw [hit] at member
    exact Or.inl (Lru.mem_of_mem_touch member)
  · obtain ⟨slots, statistics, fewer, vacated⟩ :=
      cache.vacate_cache host state.digest
    obtain ⟨linker, counts, fetched⟩ :=
      fetch_cache (cache.vacate host state.digest).cache
        (cache.vacate host state.digest).host state.digest state
    rw [missed] at member
    rcases cache.lookupMissing_cases host state.digest state with
      ⟨error, -, failed⟩ | ⟨slot, origin, done, got⟩
    · rw [failed, fetched, vacated] at member
      exact Or.inl (fewer.subset member)
    · rw [got, fetched, vacated] at member
      rcases Lru.mem_of_mem_insert member with rfl | old
      · exact Or.inr ⟨rfl, (fetch_slot done).1⟩
      · exact Or.inl (fewer.subset old)

/-- A lookup does to the programs what a visit does to their digests. -/
theorem resident_lookup
    {cache : Cache} (host : device) {state : PipelineState}
    (distinct : cache.resident.Nodup)
    (bounded : cache.slots.size ≤ cache.slots.capacity.size)
    (absent :
      (∀ slot, cache.slots.get? state.digest = some slot →
        slot.state ≠ state) →
        cache.slots.get? state.digest = none) :
    let looked := cache.lookup host state
    looked.cache.resident =
        recency cache.slots.capacity.size cache.resident
          ⟨state.digest, looked.answer.isOk⟩ ∧
      looked.cache.slots.capacity = cache.slots.capacity := by
  intro looked
  rcases cache.lookup_cases host state with
    ⟨slot, statistics, found, -, hit⟩ | ⟨other, missed⟩
  · have member : state.digest ∈ cache.resident :=
      List.mem_map_of_mem (Lru.mem_entries_of_get? found)
    simp only [looked, hit]
    refine ⟨?_, Lru.capacity_touch _ _⟩
    rw [recency, if_pos member, distinct.erase_eq_filter]
    refine (Lru.keys_touch _ member).trans (congrArg _ ?_)
    apply List.filter_congr
    intro digest _
    rw [Bool.eq_iff_iff]
    simp
  · have outside : state.digest ∉ cache.resident := by
      unfold resident
      rw [← Lru.get?_isSome_iff, absent other]
      simp
    simp only [looked, missed]
    rw [recency, if_neg outside]
    exact resident_lookupMissing host state outside bounded

/-! ## What all uses do -/

/-- The programs of a cache are those of the digests, in the same order. -/
structure Follows
    (asked : Set PipelineState) (limit : Capacity) (cache : Cache)
    (digests : List UInt64) : Prop where
  resident : cache.resident = digests
  capacity : cache.slots.capacity = limit
  distinct : digests.Nodup
  bounded : digests.length ≤ limit.size
  keyed :
    ∀ entry ∈ cache.slots.entries,
      entry.2.state ∈ asked ∧ entry.2.state.digest = entry.1

namespace Follows

variable {asked : Set PipelineState} {limit : Capacity}
  {digests : List UInt64} {cache : Cache}

theorem new (settings : Settings) (vendor : String) (staging : Store.Staging) :
    Follows asked settings.capacity (Cache.new settings vendor staging) [] where
  resident := rfl
  capacity := rfl
  distinct := List.nodup_nil
  bounded := Nat.zero_le _
  keyed := by simp [Cache.new, Lru.empty]

theorem lookup
    (host : device) {state : PipelineState}
    (separate : Set.InjOn PipelineState.digest asked)
    (follows : Follows asked limit cache digests)
    (member : state ∈ asked) :
    Follows asked limit (cache.lookup host state).cache
      (recency limit.size digests
        ⟨state.digest, (cache.lookup host state).answer.isOk⟩) := by
  obtain ⟨rfl, rfl, distinct, bounded, keyed⟩ := follows
  have size : cache.slots.size ≤ cache.slots.capacity.size := by
    rwa [Cache.resident, Lru.keys, List.length_map] at bounded
  obtain ⟨resident, capacity⟩ :=
    resident_lookup host distinct size
      (absent_of_missed separate keyed member)
  refine
    ⟨resident, capacity, nodup_recency _ distinct,
      length_recency_le _ cache.slots.capacity.size_pos bounded, ?_⟩
  intro entry kept
  rcases mem_entries_lookup kept with old | ⟨key, same⟩
  · exact keyed entry old
  · rw [same, key]
    exact ⟨member, rfl⟩

omit [Device device] in
theorem edit
    (host : device) (digest : UInt64)
    (change : LinkedProgram → device → LinkedProgram × device)
    (follows : Follows asked limit cache digests) :
    Follows asked limit (cache.edit host digest change).1 digests := by
  obtain ⟨resident, capacity, entries⟩ := cache.edit_slots host digest change
  refine
    ⟨resident.trans follows.resident, capacity.trans follows.capacity,
      follows.distinct, follows.bounded, ?_⟩
  intro entry member
  obtain ⟨former, known, key, same⟩ := entries entry member
  rw [key, same]
  exact follows.keyed former known

theorem stage
    (digest : UInt64) (loaded : Option Store.Entry)
    (follows : Follows asked limit cache digests) :
    Follows asked limit (cache.stage digest loaded).1 digests := by
  obtain ⟨staged, order, rejects, same, -⟩ := cache.stage_cache digest loaded
  rw [same]
  exact ⟨follows.resident, follows.capacity, follows.distinct,
    follows.bounded, follows.keyed⟩

/-- Any use of a cache is a visit, or leaves the digests alone. -/
theorem use
    (host : device) {use : Use device}
    (separate : Set.InjOn PipelineState.digest asked)
    (follows : Follows asked limit cache digests)
    (member : ∀ state, use = .lookup state → state ∈ asked) :
    Follows asked limit (cache.use host use).1
      ((cache.visit? host use).toList.foldl (recency limit.size) digests) := by
  cases use with
  | lookup state => exact follows.lookup host separate (member state rfl)
  | stage digest loaded => exact follows.stage digest loaded
  | upload digest constants force => exact follows.edit host digest _
  | invalidate digest => exact follows.edit host digest _
  | edit digest change => exact follows.edit host digest change

theorem useAll
    (host : device) {uses : List (Use device)}
    (separate : Set.InjOn PipelineState.digest asked)
    (follows : Follows asked limit cache digests)
    (members : ∀ state, .lookup state ∈ uses → state ∈ asked) :
    Follows asked limit (cache.useAll host uses).1
      ((cache.visits host uses).foldl (recency limit.size) digests) := by
  induction uses generalizing cache host digests with
  | nil => exact follows
  | cons first rest ih =>
      have step :
          Follows asked limit (cache.use host first).1
            ((cache.visit? host first).toList.foldl (recency limit.size)
              digests) :=
        follows.use host separate
          (fun state same => members state (by simp [same]))
      rw [visits, List.foldl_append]
      exact ih _ step
        (fun state member => members state (List.mem_cons_of_mem _ member))

end Follows

/--
If no two of the configurations that a cache is asked for share a digest, its
programs are at any time what the visits make of an empty list of digests: the
most recent ones, each of them once and no more than there is room for.  The
device may fail as it likes, anything may wait to be recreated or be made ready
meanwhile, and working with programs does not change their order.
-/
theorem resident_eq_recency
    (settings : Settings) (vendor : String) (staging : Store.Staging)
    (host : device) (uses : List (Use device))
    (separate :
      Set.InjOn PipelineState.digest
        {state | Use.lookup state ∈ uses}) :
    let cache := new settings vendor staging
    let resident := (cache.useAll host uses).1.resident
    resident =
        (cache.visits host uses).foldl (recency settings.capacity.size) [] ∧
      resident.Nodup ∧
      resident.length ≤ settings.capacity.size := by
  intro cache resident
  have follows :=
    (Follows.new settings vendor staging).useAll host separate
      (fun state member => member)
  have same : resident = _ := follows.resident
  exact ⟨same, same ▸ follows.distinct, same ▸ follows.bounded⟩

/-! ## One place for two programs -/

theorem recency_single {left right : UInt64} (different : left ≠ right) :
    [Visit.mk left true, ⟨right, false⟩, ⟨right, true⟩].foldl (recency 1) [] =
      [right] := by
  simp [recency, trim, different.symm]

/-- A device builds the program it is made for, and the cache keeps it. -/
theorem lookup_quadrilaterals
    (settings : Settings) {sources : Sources}
    (honest : settings.fallback = false)
    (room : 3 ≤ settings.objectCapacity.size)
    (translated : quadrilaterals.sources = .ok sources) :
    let looked :=
      (new settings "" ⟨[], 0, .empty⟩).lookup
        (Dedicated.new sources.toList) quadrilaterals
    looked.cache.linker.fallback = false ∧
      looked.cache.staged = [] ∧
      looked.cache.slots.capacity = settings.capacity ∧
      looked.cache.resident = [quadrilaterals.digest] ∧
      ∃ answer,
        looked.answer = .ok answer ∧
          answer.origin = .built ∧
          answer.digest = quadrilaterals.digest := by
  intro looked
  obtain ⟨linked, assembled⟩ := Dedicated.assemble_new translated room
  rw [← honest] at assembled
  have fresh :
      (new settings "" ⟨[], 0, .empty⟩).Faithful
        (Dedicated.new sources.toList) :=
    .new "" _ honest (by simp)
  refine ⟨(fresh.lookup quadrilaterals).faithful.honest, ?_⟩
  obtain ⟨linker, statistics, reports, -, built⟩ :=
    lookup_first
      (show (new settings "" ⟨[], 0, .empty⟩).slots.entries = [] from rfl)
      rfl assembled
  simp only [looked]
  rw [built]
  exact ⟨rfl, rfl, rfl, _, rfl, rfl, rfl⟩

/-- The only place is given up for a program that the device refuses. -/
theorem lookup_triangles
    {cache : Cache} {sources : Sources} (host : Dedicated sources.toList)
    (translated : quadrilaterals.sources = .ok sources)
    (honest : cache.linker.fallback = false)
    (unstaged : cache.staged = [])
    (single : cache.slots.capacity.size = 1)
    (kept : cache.resident = [quadrilaterals.digest]) :
    let looked := cache.lookup host triangles
    looked.cache.staged = [] ∧
      looked.cache.slots.capacity = cache.slots.capacity ∧
      looked.cache.resident = [] ∧
      ∃ error, looked.answer = .error error := by
  intro looked
  have absent := get?_of_not_resident (kept ▸ digest_triangles_not_mem)
  have full : cache.slots.size = 1 := by
    rw [← length_resident, kept]
    rfl
  obtain ⟨linker, after, reports, error, -, refused⟩ :=
    lookup_unbuilt host absent (by simp [unstaged])
      (refused_triangles translated honest)
  have failed : looked.answer = .error error := congrArg Lookup.answer refused
  obtain ⟨vacant, same⟩ :=
    resident_lookup host (by simp [kept]) (by omega) (fun _ => absent)
  refine ⟨?_, same, vacant.trans ?_, error, failed⟩
  · exact List.sublist_nil.mp (unstaged ▸ cache.lookup_staged host triangles)
  · rw [show (cache.lookup host triangles).answer = .error error from failed,
      single, kept]
    simp [recency, trim, Except.isOk, Except.toBool,
      digest_quadrilaterals_ne.symm]

/-- A program that has been made ready takes an empty place. -/
theorem lookup_triangles_ready
    {cache : Cache} {sources : Sources} (host : Dedicated sources.toList)
    (unstaged : cache.staged = []) (vacant : cache.resident = []) :
    let ready :=
      (cache.stage triangles.digest (some ⟨triangles, Dedicated.image⟩)).1
    let looked := ready.lookup host triangles
    ready.resident = [] ∧
      looked.cache.resident = [triangles.digest] ∧
      ∃ answer,
        looked.answer = .ok answer ∧
          answer.origin = .stored ∧ answer.digest = triangles.digest := by
  intro ready looked
  obtain ⟨stages, staged, -⟩ := stages_triangles
  have same : (Store.Entry.mk triangles Dedicated.image).state = triangles :=
    rfl
  have kept : ready.resident = [] := by
    obtain ⟨_, _, _, made, -⟩ :=
      cache.stage_cache triangles.digest (some ⟨triangles, Dedicated.image⟩)
    simp only [ready]
    rw [made]
    exact vacant
  have absent : ready.slots.get? triangles.digest = none :=
    get?_of_not_resident (kept ▸ List.not_mem_nil)
  have found :
      ready.staged.lookup triangles.digest =
        some ⟨triangles, Dedicated.image⟩ := by
    simp [ready, stage, unstaged]
  have known :
      LawfulDevice.contents (Dedicated sources.toList) Dedicated.image =
        some sources.toList :=
    if_pos rfl
  obtain ⟨answer, answered, stored, keyed, -⟩ :=
    lookup_stored host same absent found staged known
  have empty : ready.slots.size = 0 := by
    rw [← length_resident, kept]
    rfl
  have size := ready.slots.capacity.size_pos
  obtain ⟨placed, -⟩ :=
    resident_lookup host (by simp [kept]) (by omega) (fun _ => absent)
  refine ⟨kept, placed.trans ?_, answer, answered, stored, keyed⟩
  rw [answered, kept]
  simp [recency, trim, Except.isOk, Except.toBool]

/--
In a cache with one place, a program makes room for one that fails, and the
place stays empty until that one has been made ready.
-/
theorem resident_eq_recency_quadrilaterals :
    ∃ sources,
      quadrilaterals.sources = .ok sources ∧
        let uses : List (Use (Dedicated sources.toList)) :=
          [.lookup quadrilaterals, .lookup triangles,
            .stage triangles.digest (some ⟨triangles, Dedicated.image⟩),
            .lookup triangles, .invalidate triangles.digest]
        let settings : Settings := { capacity := ⟨1, by decide⟩ }
        let cache := new settings "" ⟨[], 0, .empty⟩
        let host := Dedicated.new sources.toList
        Set.InjOn PipelineState.digest {state | Use.lookup state ∈ uses} ∧
          (cache.visits host uses).map Visit.answered =
            [true, false, true] ∧
          (cache.useAll host uses).1.resident = [triangles.digest] := by
  obtain ⟨sources, translated⟩ :
      ∃ sources, quadrilaterals.sources = .ok sources :=
    ⟨_, rfl⟩
  refine ⟨sources, translated, ?_⟩
  intro uses settings cache host
  have separate :
      Set.InjOn PipelineState.digest {state | Use.lookup state ∈ uses} := by
    refine separate_quadrilaterals.mono ?_
    intro state member
    simpa [uses] using member
  have limit : settings.capacity.size = 1 := rfl
  have firstly :=
    lookup_quadrilaterals settings rfl (by decide) translated
  generalize looked :
    (new settings "" ⟨[], 0, .empty⟩).lookup (Dedicated.new sources.toList)
      quadrilaterals = first at firstly
  obtain ⟨honest, unstaged, same, kept, answer, built, -⟩ := firstly
  obtain ⟨nothing, -, vacant, error, refused⟩ :=
    lookup_triangles first.host translated honest unstaged
      (by rw [same, limit]) kept
  obtain ⟨-, -, other, restored, -⟩ :=
    lookup_triangles_ready (first.cache.lookup first.host triangles).host
      nothing vacant
  have visits :
      cache.visits host uses =
        [⟨quadrilaterals.digest, true⟩, ⟨triangles.digest, false⟩,
          ⟨triangles.digest, true⟩] := by
    simp only [uses, Cache.visits, visit?, use, cache, host]
    rw [looked, built, refused, restored]
    rfl
  refine ⟨separate, by rw [visits]; rfl, ?_⟩
  rw [(resident_eq_recency settings "" ⟨[], 0, .empty⟩ host uses separate).1,
    visits, limit]
  exact recency_single digest_quadrilaterals_ne

end ShaderSynth.Cache
