import ShaderSynth.Proofs.Cache.Counting
import ShaderSynth.Proofs.Cache.Recency

/-!
# Conservation of statistics

A cache counts what it does.  An observer can tell what the counts have to be
without them: how often there was no program, which programs came and from
where, and which of them are gone.  This is a `Chronicle`.  The statistics
agree with the chronicle after every request, whatever fails on the way, as
long as no two configurations share a digest.

Programs are saved when they go.  Where programs are saved at all and the
device gives away their binaries, the programs that are saved are those that
were built, each of them once whenever it goes.
-/

namespace ShaderSynth.Cache

variable {device : Type} [Device device]

/-! ## What is seen of a cache -/

/-- Whether a program is asked for. -/
def Turn.isLookup : Turn → Bool
  | .request (.lookup _) => true
  | .request .flush | .stage _ _ => false

/-- What an observer of a cache notes down. -/
structure Chronicle where
  /-- How often there was no program. -/
  refusals : Nat := 0
  /-- The programs that came and where they came from, the last one first. -/
  arrivals : List (UInt64 × Origin) := []
  /-- The programs that went, and where they had last come from. -/
  departures : List (UInt64 × Option Origin) := []

/-- The digests that a turn takes out of a cache, the oldest first. -/
def leaving (cache : Cache) (host : device) (turn : Turn) : List UInt64 :=
  cache.resident.reverse.filter fun digest =>
    digest ∉ (cache.take host turn).cache.resident

namespace Chronicle

/-- Notes down that programs are gone. -/
def part (seen : Chronicle) (digests : List UInt64) : Chronicle :=
  { seen with
    departures := seen.departures ++
      digests.map fun digest => (digest, seen.arrivals.lookup digest) }

/-- Notes down an answer.  A program from memory has been there before. -/
def hear (seen : Chronicle) : Except BuildError Answer → Chronicle
  | .error _ => { seen with refusals := seen.refusals + 1 }
  | .ok answer =>
      if answer.origin = .memory then seen
      else
        { seen with
          arrivals := (answer.digest, answer.origin) :: seen.arrivals }

/-- Notes down what a turn does. -/
def note (seen : Chronicle) (cache : Cache) (host : device) (turn : Turn) :
    Chronicle :=
  let parted := seen.part (cache.leaving host turn)
  match turn with
  | .request (.lookup state) => parted.hear (cache.lookup host state).answer
  | .request .flush | .stage _ _ => parted

end Chronicle

/-- What is noted down while turns are taken. -/
def chronicle (cache : Cache) (host : device) :
    List Turn → Chronicle → Chronicle
  | [], seen => seen
  | turn :: rest, seen =>
      (cache.take host turn).cache.chronicle (cache.take host turn).host rest
        (seen.note cache host turn)

/-! ## Statistics and chronicles -/

/-- What stays is all that is not seen to go. -/
theorem leaving_eq
    {cache : Cache} {host : device} {turn : Turn} {count : Nat}
    (distinct : cache.resident.Nodup)
    (kept :
      ∀ digest ∈ cache.resident,
        digest ∈ (cache.take host turn).cache.resident ↔
          digest ∈ (cache.remaining count).map Prod.fst) :
    cache.leaving host turn = (cache.oldest count).map Prod.fst := by
  let lost := cache.slots.entries.drop (cache.slots.size - count)
  have split :
      cache.resident =
        (cache.remaining count).map Prod.fst ++ lost.map Prod.fst := by
    rw [← List.map_append]
    exact congrArg _ (List.take_append_drop _ _).symm
  have apart := List.disjoint_of_nodup_append (split ▸ distinct)
  have gone :
      (lost.map Prod.fst).filter (fun digest =>
        digest ∉ (cache.take host turn).cache.resident) =
          lost.map Prod.fst := by
    apply List.filter_eq_self.mpr
    intro digest member
    have known : digest ∈ cache.resident := by
      rw [split]
      exact List.mem_append_right _ member
    have away : digest ∉ (cache.take host turn).cache.resident :=
      fun stays => apart ((kept digest known).mp stays) member
    exact decide_eq_true away
  have rest :
      ((cache.remaining count).map Prod.fst).filter (fun digest =>
        digest ∉ (cache.take host turn).cache.resident) = [] := by
    apply List.filter_eq_nil_iff.mpr
    intro digest member
    have known : digest ∈ cache.resident := by
      rw [split]
      exact List.mem_append_left _ member
    have stays := (kept digest known).mpr member
    simpa using stays
  rw [leaving, List.filter_reverse, split, List.filter_append, gone, rest,
    List.nil_append, oldest, List.map_reverse]

namespace Chronicle

theorem departures_hear
    (seen : Chronicle) (answer : Except BuildError Answer) :
    (seen.hear answer).departures = seen.departures := by
  cases answer with
  | error error => rfl
  | ok answer =>
      rw [hear]
      split
      · rfl
      · rfl

theorem refusals_hear
    (seen : Chronicle) (answer : Except BuildError Answer) :
    (seen.hear answer).refusals + answer.isOk.toNat = seen.refusals + 1 := by
  cases answer with
  | error error => rfl
  | ok answer =>
      rw [hear]
      split
      · rfl
      · rfl

theorem arrivals_hear (seen : Chronicle) (slot : Slot) (digest : UInt64) :
    (seen.hear (.ok (Slot.answer slot (Slot.origin slot) digest))).arrivals =
      (digest, Slot.origin slot) :: seen.arrivals := by
  have new : Slot.origin slot ≠ .memory := by
    unfold Slot.origin
    split
    · simp
    · simp
  simp [hear, Slot.answer, new]

/-- Where the programs came from is known still when an answer was heard. -/
theorem known_hear
    (seen : Chronicle) {digest : UInt64} {stay entries : List (UInt64 × Slot)}
    {answer : Except BuildError Answer}
    (settles : Settles digest stay answer entries)
    (known :
      ∀ entry ∈ stay,
        seen.arrivals.lookup entry.1 = some (Slot.origin entry.2))
    (fresh : digest ∉ stay.map Prod.fst) :
    ∀ entry ∈ entries,
      (seen.hear answer).arrivals.lookup entry.1 =
        some (Slot.origin entry.2) := by
  cases settles with
  | refused error => exact known
  | placed slot =>
      intro entry present
      rw [arrivals_hear]
      rcases List.mem_cons.mp present with rfl | stays
      · exact List.lookup_cons_self
      · have other : (entry.1 == digest) = false := by
          apply beq_false_of_ne
          rintro rfl
          exact fresh (List.mem_map_of_mem stays)
        rw [List.lookup_cons, other]
        exact known entry stays

end Chronicle

/--
The statistics of a cache agree with what has been noted down since it was
made.  Programs that were built are saved when they go, if the device was
ready to supply their binaries.
-/
structure Agrees
    (asked : Set PipelineState) (supply : Prop) (lookups : Nat)
    (seen : Chronicle) (cache : Cache) (effects : List Effect) : Prop where
  follows : Follows asked cache.slots.capacity cache cache.resident
  known :
    ∀ entry ∈ cache.slots.entries,
      seen.arrivals.lookup entry.1 = some (Slot.origin entry.2)
  answers : cache.statistics.hits + cache.statistics.misses = lookups
  misses :
    cache.statistics.misses =
      cache.statistics.builds + cache.statistics.restores + seen.refusals
  programs :
    cache.statistics.evictions + cache.slots.size =
      cache.statistics.builds + cache.statistics.restores
  evictions : cache.statistics.evictions = seen.departures.length
  origins :
    ∀ gone ∈ seen.departures,
      gone.2 = some .built ∨ gone.2 = some .stored
  saves : cache.statistics.saves = (savedDigests effects).length
  saved :
    supply →
      savedDigests effects =
        (seen.departures.filter fun gone =>
          gone.2 = some .built).map Prod.fst

/-- What is noted down when the program of an entry goes. -/
def departure (entry : UInt64 × Slot) : UInt64 × Option Origin :=
  (entry.1, some (Slot.origin entry.2))

theorem built_departures (entries : List (UInt64 × Slot)) :
    ((entries.map departure).filter fun gone =>
        gone.2 = some .built).map Prod.fst =
      (entries.filter fun entry => !entry.2.persisted).map Prod.fst := by
  induction entries with
  | nil => rfl
  | cons entry rest ih =>
      cases stored : entry.2.persisted with
      | true => simpa [departure, Slot.origin, stored] using ih
      | false => simpa [departure, Slot.origin, stored] using ih

theorem Follows.self
    {asked : Set PipelineState} {limit : Capacity} {cache : Cache}
    {digests : List UInt64} (follows : Follows asked limit cache digests) :
    Follows asked cache.slots.capacity cache cache.resident := by
  rcases follows with ⟨rfl, rfl, distinct, bounded, keyed⟩
  exact ⟨rfl, rfl, distinct, bounded, keyed⟩

namespace Agrees

variable {asked : Set PipelineState} {supply : Prop} {lookups : Nat}
  {seen : Chronicle} {cache : Cache} {host : device} {effects : List Effect}

theorem departures_part
    {turn : Turn} {count : Nat}
    (agrees : Agrees asked supply lookups seen cache effects)
    (left :
      cache.leaving host turn = (cache.oldest count).map Prod.fst) :
    (seen.part (cache.leaving host turn)).departures =
      seen.departures ++ (cache.oldest count).map departure := by
  rw [Chronicle.part, left, List.map_map]
  apply congrArg (seen.departures ++ ·)
  apply List.map_congr_left
  intro entry member
  have present : entry ∈ cache.slots.entries :=
    List.drop_subset _ _ (List.mem_reverse.mp member)
  exact congrArg (Prod.mk entry.1) (agrees.known entry present)

/-- Programs that go are noted down, and saved if they were built. -/
theorem depart
    (count : Nat) {others : List Effect}
    (agrees : Agrees asked supply lookups seen cache effects)
    (supplied :
      supply → cache.settings.persists = true ∧ cache.Supplied host)
    (same :
      savedDigests others =
        savedDigests (cache.evictOldest count host).effects) :
    let departures := seen.departures ++ (cache.oldest count).map departure
    cache.statistics.evictions + (cache.oldest count).length =
        departures.length ∧
      (∀ gone ∈ departures,
        gone.2 = some .built ∨ gone.2 = some .stored) ∧
      cache.statistics.saves +
          (savedDigests (cache.evictOldest count host).effects).length =
        (savedDigests (effects ++ others)).length ∧
      (supply →
        savedDigests (effects ++ others) =
          (departures.filter fun gone =>
            gone.2 = some .built).map Prod.fst) := by
  intro departures
  refine ⟨?_, ?_, ?_, ?_⟩
  · rw [List.length_append, List.length_map, agrees.evictions]
  · intro gone member
    rcases List.mem_append.mp member with earlier | now
    · exact agrees.origins gone earlier
    · rcases List.mem_map.mp now with ⟨⟨digest, slot⟩, -, rfl⟩
      cases stored : slot.persisted with
      | true => exact Or.inr (by simp [departure, Slot.origin, stored])
      | false => exact Or.inl (by simp [departure, Slot.origin, stored])
  · rw [savedDigests_append, List.length_append, agrees.saves, same]
  · intro given
    rcases supplied given with ⟨persists, ready⟩
    rw [savedDigests_append, agrees.saved given, same,
      ready.savedDigests_evictOldest persists count, List.filter_append,
      List.map_append, built_departures]

/-- A program from memory is counted, and nothing comes or goes. -/
theorem hit
    {state : PipelineState} {slot : Slot}
    (separate : Set.InjOn PipelineState.digest asked)
    (agrees : Agrees asked supply lookups seen cache effects)
    (member : state ∈ asked)
    (found : cache.slots.get? state.digest = some slot)
    (same : slot.state = state) :
    Agrees asked supply (lookups + 1)
      (seen.note cache host (.request (.lookup state)))
      (cache.lookup host state).cache
      (effects ++ (cache.lookup host state).effects) := by
  have moved :=
    Lru.entries_touch_perm state.digest
      (show cache.slots.keys.Nodup from agrees.follows.distinct)
  have looked := lookup_of_resident host found same
  have followed := (agrees.follows.lookup host separate member).self
  have left : cache.leaving host (.request (.lookup state)) = [] := by
    apply List.filter_eq_nil_iff.mpr
    intro digest present
    have stays :
        digest ∈
          (cache.take host (.request (.lookup state))).cache.resident := by
      rw [take, serve, looked]
      exact (moved.map Prod.fst).mem_iff.mpr (List.mem_reverse.mp present)
    simpa using stays
  have noted : seen.note cache host (.request (.lookup state)) = seen := by
    simp [Chronicle.note, Chronicle.part, Chronicle.hear, left, looked,
      Slot.answer]
  rw [looked] at followed
  rw [noted, looked, List.append_nil]
  refine ⟨followed, ?_, ?_, agrees.misses, ?_, agrees.evictions,
    agrees.origins, agrees.saves, agrees.saved⟩
  · intro entry present
    exact agrees.known entry (moved.mem_iff.mp present)
  · show cache.statistics.hits + 1 + cache.statistics.misses = lookups + 1
    have answers := agrees.answers
    omega
  · show cache.statistics.evictions +
        (cache.slots.touch state.digest).entries.length = _
    rw [moved.length_eq]
    exact agrees.programs

/-- A program that is missing comes from somewhere, or there is none. -/
theorem miss
    {state : PipelineState}
    (separate : Set.InjOn PipelineState.digest asked)
    (agrees : Agrees asked supply lookups seen cache effects)
    (supplied :
      supply → cache.settings.persists = true ∧ cache.Supplied host)
    (member : state ∈ asked) (absent : state.digest ∉ cache.resident)
    (missed :
      cache.lookup host state =
        cache.lookupMissing host state.digest state) :
    Agrees asked supply (lookups + 1)
      (seen.note cache host (.request (.lookup state)))
      (cache.lookup host state).cache
      (effects ++ (cache.lookup host state).effects) := by
  have followed := (agrees.follows.lookup host separate member).self
  have answers := agrees.answers
  have misses := agrees.misses
  have programs := agrees.programs
  have parts := cache.length_remaining_add_oldest cache.excess
  have stay : cache.remaining cache.excess ⊆ cache.slots.entries :=
    List.take_subset _ _
  have settles := settles_lookupMissing host state absent
  rcases lookupMissing_statistics host state absent with
    ⟨saved, builds, restores, rejects, counts, sum⟩
  rw [← missed] at settles saved counts sum
  have size := settles.length_eq
  rcases agrees.depart cache.excess supplied saved with
    ⟨evictions, origins, saves, saving⟩
  have left :
      cache.leaving host (.request (.lookup state)) =
        (cache.oldest cache.excess).map Prod.fst := by
    apply leaving_eq agrees.follows.distinct
    intro digest present
    apply settles.mem_keys_iff
    rintro rfl
    exact absent present
  have gone :
      (seen.note cache host (.request (.lookup state))).departures =
        seen.departures ++ (cache.oldest cache.excess).map departure :=
    (Chronicle.departures_hear _ _).trans (agrees.departures_part left)
  have refusals :
      (seen.note cache host (.request (.lookup state))).refusals +
          (cache.lookup host state).answer.isOk.toNat =
        seen.refusals + 1 :=
    Chronicle.refusals_hear _ _
  have known :=
    (seen.part (cache.leaving host (.request (.lookup state)))).known_hear
      settles (fun entry stays => agrees.known entry (stay stays))
      fun kept => absent (List.map_subset _ stay kept)
  rw [← gone] at evictions origins saving
  refine ⟨followed, known, ?_, ?_, ?_, ?_, origins, ?_, saving⟩
  · rw [counts]
    dsimp only
    omega
  · rw [counts]
    dsimp only
    omega
  · rw [counts, Lru.size, size]
    dsimp only
    omega
  · rw [counts]
    exact evictions
  · rw [counts]
    exact saves

/-- Emptying a cache makes all programs go. -/
theorem flush
    (agrees : Agrees asked supply lookups seen cache effects)
    (supplied :
      supply → cache.settings.persists = true ∧ cache.Supplied host) :
    Agrees asked supply lookups (seen.note cache host (.request .flush))
      (cache.flush host).cache
      (effects ++ (cache.flush host).effects) := by
  rcases cache.flush_spec host with ⟨slots, counts, saved⟩
  rw [evictOldest_statistics] at counts
  rcases agrees.depart cache.slots.size supplied saved with
    ⟨evictions, origins, saves, saving⟩
  have empty : (cache.flush host).cache.slots.entries = [] := by rw [slots]
  have left :
      cache.leaving host (.request .flush) =
        (cache.oldest cache.slots.size).map Prod.fst := by
    apply leaving_eq agrees.follows.distinct
    intro digest _
    rw [take, serve, resident, Lru.keys, empty, remaining, Nat.sub_self,
      List.take_zero]
  have gone :
      (seen.note cache host (.request .flush)).departures =
        seen.departures ++ (cache.oldest cache.slots.size).map departure :=
    agrees.departures_part left
  have all : (cache.oldest cache.slots.size).length = cache.slots.size := by
    rw [oldest, Nat.sub_self, List.drop_zero, List.length_reverse]
    rfl
  rw [← gone] at evictions origins saving
  refine ⟨?_, ?_, ?_, ?_, ?_, ?_, origins, ?_, saving⟩
  · refine ⟨rfl, rfl, ?_, ?_, ?_⟩
    · rw [resident, Lru.keys, empty]
      exact List.nodup_nil
    · rw [resident, Lru.keys, empty]
      exact Nat.zero_le _
    · intro entry present
      rw [empty] at present
      cases present
  · intro entry present
    rw [empty] at present
    cases present
  · rw [counts]
    exact agrees.answers
  · rw [counts]
    exact agrees.misses
  · have none : (cache.flush host).cache.slots.size = 0 :=
      congrArg List.length empty
    rw [counts, none, all]
    exact agrees.programs
  · rw [counts]
    exact evictions
  · rw [counts]
    exact saves

/-- Making something ready takes nothing out of the cache. -/
theorem stage
    (digest : UInt64) (loaded : Option Store.Entry)
    (agrees : Agrees asked supply lookups seen cache effects) :
    Agrees asked supply lookups
      (seen.note cache host (.stage digest loaded))
      (cache.stage digest loaded).1
      (effects ++ (cache.stage digest loaded).2) := by
  have followed := (agrees.follows.stage digest loaded).self
  obtain ⟨staged, order, rejects, same, few⟩ := cache.stage_cache digest loaded
  have left : cache.leaving host (.stage digest loaded) = [] := by
    apply List.filter_eq_nil_iff.mpr
    intro other present
    have stays :
        other ∈ (cache.take host (.stage digest loaded)).cache.resident := by
      show other ∈ (cache.stage digest loaded).1.resident
      rw [same]
      exact List.mem_reverse.mp present
    simpa using stays
  have noted : seen.note cache host (.stage digest loaded) = seen := by
    simp [Chronicle.note, Chronicle.part, left]
  have unsaved : savedDigests (cache.stage digest loaded).2 = [] := by
    apply savedDigests_eq_nil
    intro other entry member
    cases List.mem_singleton.mp (few member)
  rw [noted]
  rw [same] at followed ⊢
  refine ⟨followed, agrees.known, agrees.answers, agrees.misses,
    agrees.programs, agrees.evictions, agrees.origins, ?_, ?_⟩
  · rw [savedDigests_append, unsaved, List.append_nil]
    exact agrees.saves
  · intro given
    rw [savedDigests_append, unsaved, List.append_nil]
    exact agrees.saved given

theorem take
    {turn : Turn}
    (separate : Set.InjOn PipelineState.digest asked)
    (agrees : Agrees asked supply lookups seen cache effects)
    (supplied :
      supply → cache.settings.persists = true ∧ cache.Supplied host)
    (member : ∀ state, turn = .request (.lookup state) → state ∈ asked) :
    Agrees asked supply (lookups + turn.isLookup.toNat)
      (seen.note cache host turn) (cache.take host turn).cache
      (effects ++ (cache.take host turn).effects) := by
  rcases turn with (state | _) | ⟨digest, loaded⟩
  · rcases cache.lookup_cases host state with
      ⟨slot, -, found, same, -⟩ | ⟨other, missed⟩
    · exact agrees.hit separate (member state rfl) found same
    · have missing :=
        absent_of_missed separate agrees.follows.keyed (member state rfl)
          other
      have absent : state.digest ∉ cache.resident := by
        rw [resident, ← Lru.get?_isSome_iff, missing]
        simp
      exact agrees.miss separate supplied (member state rfl) absent missed
  · exact agrees.flush supplied
  · exact agrees.stage digest loaded

/-- Statistics and chronicle agree after every run. -/
theorem takeAll
    {turns : List Turn}
    (separate : Set.InjOn PipelineState.digest asked)
    (agrees : Agrees asked supply lookups seen cache effects)
    (supplied :
      supply →
        ∀ earlier, earlier <+: turns →
          let ready := cache.takeAll host earlier
          ready.cache.settings.persists = true ∧
            ready.cache.Supplied ready.host)
    (members : ∀ state, .request (.lookup state) ∈ turns → state ∈ asked) :
    Agrees asked supply (lookups + turns.countP Turn.isLookup)
      (cache.chronicle host turns seen)
      (cache.takeAll host turns).cache
      (effects ++ (cache.takeAll host turns).effects) := by
  induction turns generalizing cache host lookups seen effects with
  | nil => simpa [Cache.takeAll, chronicle] using agrees
  | cons turn rest ih =>
      have first :
          Agrees asked supply (lookups + turn.isLookup.toNat)
            (seen.note cache host turn) (cache.take host turn).cache
            (effects ++ (cache.take host turn).effects) := by
        apply agrees.take separate
        · exact fun given => supplied given [] List.nil_prefix
        · exact fun state same => members state (same ▸ List.mem_cons_self)
      have others :=
        ih first
          (fun given earlier early =>
            supplied given (turn :: earlier)
              (List.cons_prefix_cons.mpr ⟨rfl, early⟩))
          (fun state member => members state (List.mem_cons_of_mem _ member))
      have count :
          lookups + (turn :: rest).countP Turn.isLookup =
            lookups + turn.isLookup.toNat + rest.countP Turn.isLookup := by
        rw [List.countP_cons]
        cases turn.isLookup with
        | true => simp only [if_true, Bool.toNat_true]; omega
        | false => simp
      rw [count]
      rw [List.append_assoc] at others
      exact others

end Agrees

/-- A cache that is new agrees with an observer who has seen nothing. -/
theorem agrees_new
    (asked : Set PipelineState) (supply : Prop) (settings : Settings)
    (vendor : String) (staging : Store.Staging) :
    Agrees asked supply 0 {} (new settings vendor staging) [] where
  follows := Follows.new settings vendor staging
  known := by
    intro entry present
    cases present
  answers := rfl
  misses := rfl
  programs := rfl
  evictions := rfl
  origins := by
    intro gone member
    cases member
  saves := rfl
  saved := fun _ => rfl

/--
Statistics are conserved.  Every lookup is a hit or a miss; a miss is a program
that is built, one that is recreated, or a refusal; and every program that came
is in the cache or was evicted.  Where programs are saved and the device gives
away their binaries, the programs that are saved are those that were built,
each of them every time it goes, and one that was recreated is not saved.
Otherwise none is.
-/
theorem statistics_conserved
    (settings : Settings) (vendor : String) (staging : Store.Staging)
    (host : device) (turns : List Turn)
    (separate :
      Set.InjOn PipelineState.digest
        {state | Turn.request (.lookup state) ∈ turns}) :
    let cache := new settings vendor staging
    let served := cache.takeAll host turns
    let counts := served.cache.statistics
    let seen := cache.chronicle host turns {}
    let built := seen.departures.filter fun gone => gone.2 = some .built
    counts.hits + counts.misses = turns.countP Turn.isLookup ∧
      counts.misses = counts.builds + counts.restores + seen.refusals ∧
      counts.evictions + served.cache.slots.size =
        counts.builds + counts.restores ∧
      (counts.evictions = seen.departures.length ∧
        ∀ gone ∈ seen.departures,
          gone.2 = some .built ∨ gone.2 = some .stored) ∧
      (settings.persists = true →
        (∀ earlier, earlier <+: turns →
          let ready := cache.takeAll host earlier
          ready.cache.Supplied ready.host) →
          counts.saves = built.length ∧
            savedDigests served.effects = built.map Prod.fst) ∧
      (settings.persists = false →
        counts.saves = 0 ∧ savedDigests served.effects = []) := by
  intro cache served counts seen built
  have agrees (supply : Prop)
      (supplied :
        supply →
          ∀ earlier, earlier <+: turns →
            let ready := cache.takeAll host earlier
            ready.cache.settings.persists = true ∧
              ready.cache.Supplied ready.host) :
      Agrees {state | Turn.request (.lookup state) ∈ turns} supply
        (turns.countP Turn.isLookup) seen served.cache
        served.effects := by
    have run :=
      (agrees_new _ supply settings vendor staging).takeAll separate supplied
        (fun state member => member)
    rwa [Nat.zero_add] at run
  have plain := agrees False (fun impossible => impossible.elim)
  refine ⟨plain.answers, plain.misses, plain.programs,
    ⟨plain.evictions, plain.origins⟩, ?_, ?_⟩
  · intro persists supplied
    have full := agrees True (fun _ earlier early => by
      refine ⟨?_, supplied earlier early⟩
      rw [takeAll_settings]
      exact persists)
    have saved := full.saved trivial
    refine ⟨?_, saved⟩
    rw [full.saves, saved, List.length_map]
  · intro transient
    have saved : savedDigests served.effects = [] :=
      savedDigests_of_transient host turns transient
    refine ⟨?_, saved⟩
    rw [plain.saves, saved]
    rfl

/-! ## One place for two programs -/

/-- One program is built and goes, and another one is recreated and goes. -/
theorem chronicle_pair
    {cache ready : Cache} {host : device} {state other : PipelineState}
    {loaded : Option Store.Entry} {first second third : Lookup device}
    {built stored : Answer} {error : BuildError}
    (empty : cache.resident = [])
    (firstly : cache.lookup host state = first)
    (kept : first.cache.resident = [state.digest])
    (answered : first.answer = .ok built)
    (origin : built.origin = .built) (keyed : built.digest = state.digest)
    (secondly : first.cache.lookup first.host other = second)
    (vacant : second.cache.resident = [])
    (refused : second.answer = .error error)
    (staged : (second.cache.stage other.digest loaded).1 = ready)
    (waiting : ready.resident = [])
    (thirdly : ready.lookup second.host other = third)
    (placed : third.cache.resident = [other.digest])
    (restored : third.answer = .ok stored)
    (source : stored.origin = .stored)
    (labelled : stored.digest = other.digest) :
    let turns : List Turn :=
      [.request (.lookup state), .request (.lookup other),
        .stage other.digest loaded, .request (.lookup other),
        .request .flush]
    let seen := cache.chronicle host turns {}
    seen.refusals = 1 ∧
      seen.departures =
        [(state.digest, some .built), (other.digest, some .stored)] := by
  have flushed : (third.cache.flush third.host).cache.resident = [] := by
    rw [resident, (third.cache.flush_spec third.host).1]
    rfl
  simp [chronicle, Chronicle.note, Chronicle.part, Chronicle.hear, leaving,
    take, serve, empty, firstly, kept, answered, origin, keyed, secondly,
    vacant, refused, staged, waiting, thirdly, placed, restored, source,
    labelled, flushed]

/--
In a cache with one place, a program that was built goes for one that fails, is
saved, and is followed by one that was made ready, which is not saved again.
-/
theorem statistics_conserved_quadrilaterals :
    ∃ sources,
      quadrilaterals.sources = .ok sources ∧
        let settings : Settings :=
          { capacity := ⟨1, by decide⟩, directory := some "c" }
        let host := Dedicated.new sources.toList
        let turns : List Turn :=
          [.request (.lookup quadrilaterals), .request (.lookup triangles),
            .stage triangles.digest (some ⟨triangles, Dedicated.image⟩),
            .request (.lookup triangles), .request .flush]
        let cache := new settings "" ⟨[], 0, .empty⟩
        let served := cache.takeAll host turns
        let counts := served.cache.statistics
        let seen := cache.chronicle host turns {}
        Set.InjOn PipelineState.digest
            {state | Turn.request (.lookup state) ∈ turns} ∧
          settings.persists = true ∧
          (∀ earlier, earlier <+: turns →
            let ready := cache.takeAll host earlier
            ready.cache.Supplied ready.host) ∧
          seen.departures =
            [(quadrilaterals.digest, some .built),
              (triangles.digest, some .stored)] ∧
          counts.hits + counts.misses = 3 ∧
          counts.misses = counts.builds + counts.restores + 1 ∧
          counts.evictions = 2 ∧
          savedDigests served.effects = [quadrilaterals.digest] := by
  obtain ⟨sources, translated⟩ :
      ∃ sources, quadrilaterals.sources = .ok sources :=
    ⟨_, rfl⟩
  refine ⟨sources, translated, ?_⟩
  intro settings host turns cache served counts seen
  have separate :
      Set.InjOn PipelineState.digest
        {state | Turn.request (.lookup state) ∈ turns} := by
    refine separate_quadrilaterals.mono ?_
    intro state member
    simpa [turns] using member
  have persists : settings.persists = true := rfl
  have limit : settings.capacity.size = 1 := rfl
  have supplied (earlier : List Turn) (_ : earlier <+: turns) :
      let ready := cache.takeAll host earlier
      ready.cache.Supplied ready.host := by
    apply supplied_takeAll
    intro current program texts live
    rcases RestoringDevice.binary_of_live live with ⟨binary, after, given, -⟩
    rw [given]
    rfl
  have firstly :=
    lookup_quadrilaterals settings rfl (by decide) translated
  generalize looked :
    (new settings "" ⟨[], 0, .empty⟩).lookup (Dedicated.new sources.toList)
      quadrilaterals = first at firstly
  obtain ⟨honest, unstaged, same, kept, answer, built, origin, keyed⟩ := firstly
  obtain ⟨nothing, -, vacant, error, refused⟩ :=
    lookup_triangles first.host translated honest unstaged
      (by rw [same, limit]) kept
  obtain ⟨empty, placed, other, restored, stored, labelled⟩ :=
    lookup_triangles_ready (first.cache.lookup first.host triangles).host
      nothing vacant
  obtain ⟨refusals, departures⟩ :=
    chronicle_pair rfl looked kept built origin keyed rfl vacant refused rfl
      empty rfl placed restored stored labelled
  obtain ⟨answers, misses, -, ⟨evictions, -⟩, saving, -⟩ :=
    statistics_conserved settings "" ⟨[], 0, .empty⟩ host turns separate
  obtain ⟨-, saved⟩ := saving persists supplied
  have three : turns.countP Turn.isLookup = 3 := rfl
  rw [three] at answers
  rw [refusals] at misses
  rw [departures] at evictions saved
  -- The turns must not be taken to see that these are the same.
  simp only [counts, served, cache, seen]
  exact ⟨separate, persists, supplied, departures, answers, misses, evictions,
    saved⟩

end ShaderSynth.Cache
