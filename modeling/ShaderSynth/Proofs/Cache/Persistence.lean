import ShaderSynth.Proofs.Cache.Backing
import ShaderSynth.Proofs.Cache.Transparency

/-!
# Programs outlive their session

A session opens a cache on a directory, asks for programs and empties the
cache.  Where sessions follow each other and no effect on the files fails, the
index lists what was in use and what still waited when a session ended, and
the next session finds all of it: whatever the index lists is recreated from
its binary, without anything being compiled or linked.
-/

namespace ShaderSynth.Cache

open LawfulDevice (holdings)

/-- The use of a cache from its start until it is emptied. -/
structure Session (device : Type) where
  capacity : Capacity
  objectCapacity : Capacity
  host : device
  /-- The configurations that are asked for. -/
  states : List PipelineState

namespace Session

section

variable {device : Type} [Device device]
  (session : Session device) (directory : String) (stamp : Store.Stamp)
  (tree : FileTree)

/-- The settings of a session, which stores its programs. -/
def settings : Settings where
  capacity := session.capacity
  directory := some directory
  version := stamp.version
  persist := true
  fallback := false
  objectCapacity := session.objectCapacity

/-- The cache at the start, and the files when the index has been loaded. -/
def opened : Cache × FileTree :=
  start (session.settings directory stamp) stamp.vendor tree

/-- The cache when everything has been asked for. -/
def served : Outcome device :=
  (session.opened directory stamp tree).1.lookupAll session.host
    session.states

/-- What the session does besides. -/
def effects : List Effect :=
  let served := session.served directory stamp tree
  served.effects ++ (served.cache.flush served.host).effects

/-- The files at the end. -/
def closed : FileTree :=
  (performAll directory stamp (session.effects directory stamp tree)
    (session.opened directory stamp tree).2).tree

/-- No effect on the files fails. -/
def Succeeds : Prop :=
  Succeed directory stamp (session.effects directory stamp tree)
    (session.opened directory stamp tree).2

end

end Session

/-- The files that sessions leave which ask for certain configurations. -/
inductive Left
    (device : Type) [Device device] (asked : Set PipelineState)
    (directory : String) (stamp : Store.Stamp) (first : FileTree) :
    FileTree → Prop
  | unused : Left device asked directory stamp first first
  | session {tree : FileTree} (session : Session device) :
      Left device asked directory stamp first tree →
        (∀ state ∈ session.states, state ∈ asked) →
          session.Succeeds directory stamp tree →
            Left device asked directory stamp first
              (session.closed directory stamp tree)

variable {device : Type} [Device device] [LawfulDevice device]
  [RestoringDevice device]
  {asked : Set PipelineState} {directory : String} {stamp : Store.Stamp}

/-- The index lists digests of programs that can be loaded. -/
structure Shelved
    (device : Type) [Device device] [LawfulDevice device]
    (asked : Set PipelineState) (directory : String) (stamp : Store.Stamp)
    (tree : FileTree) (digests : List UInt64) : Prop where
  listed : Store.readIndex directory tree = .ok digests
  distinct : digests.Nodup
  stored :
    ∀ digest ∈ digests,
      ∃ state ∈ asked, Stored device directory stamp tree digest state

namespace Shelved

omit [RestoringDevice device] in
theorem entries
    {tree : FileTree} {digests : List UInt64}
    (stored :
      ∀ digest ∈ digests,
        ∃ state ∈ asked, Stored device directory stamp tree digest state) :
    ∃ entries : List (UInt64 × Store.Entry),
      entries.map Prod.fst = digests ∧
        ∀ entry ∈ entries,
          Store.load directory entry.1 stamp tree = .ok entry.2 ∧
            entry.2.state ∈ asked ∧ entry.2.Genuine device := by
  induction digests with
  | nil => exact ⟨[], rfl, by simp⟩
  | cons digest rest ih =>
      obtain ⟨state, member, entry, loaded, rfl, genuine⟩ :=
        stored digest (by simp)
      obtain ⟨others, same, loadedOthers⟩ :=
        ih fun other listed => stored other (by simp [listed])
      refine ⟨(digest, entry) :: others, by simp [same], ?_⟩
      intro item listed
      rcases List.mem_cons.mp listed with rfl | listed
      · exact ⟨loaded, member, genuine⟩
      · exact loadedOthers item listed

omit [RestoringDevice device] in
/-- A session finds all that the index lists. -/
theorem opened
    {tree : FileTree} {digests : List UInt64}
    (shelved : Shelved device asked directory stamp tree digests)
    (session : Session device) :
    let opened := session.opened directory stamp tree
    opened.1.unclaimed = digests ∧
      opened.1.statistics.rejects = 0 ∧
      opened.2 = tree ∧
      Backed asked directory stamp opened.1 session.host tree := by
  intro opened
  obtain ⟨entries, rfl, loaded⟩ := Shelved.entries shelved.stored
  have preloaded :
      Store.preload directory stamp tree = ⟨entries, 0, tree⟩ :=
    Store.preload_spec shelved.listed shelved.distinct
      fun entry listed => (loaded entry listed).1
  have same :
      opened =
        (new (session.settings directory stamp) stamp.vendor
          ⟨entries, 0, tree⟩, tree) := by
    simp only [opened, Session.opened, start, Session.settings]
    rw [preloaded]
  rw [same]
  refine ⟨unclaimed_new _ _ _, rfl, rfl, ?_⟩
  refine
    { faithful :=
        .new stamp.vendor session.host rfl
          fun entry listed => (loaded entry listed).2.2
      orderly := ⟨?_, ?_, List.Subset.refl _, ?_⟩
      persists := rfl
      waiting := fun entry listed => (loaded entry listed).1
      kept := ?_ }
  · intro entry member
    cases member
  · intro entry listed
    obtain ⟨found, member, -⟩ := loaded entry listed
    exact ⟨member, Store.digest_of_load found⟩
  · rw [unclaimed_new]
    exact shelved.distinct
  · intro entry member
    cases member

/-- A session leaves an index of what it used and of what still waited. -/
theorem closed
    {tree : FileTree} {digests : List UInt64} {session : Session device}
    (separate : Set.InjOn PipelineState.digest asked)
    (fits : stamp.Fits)
    (shelved : Shelved device asked directory stamp tree digests)
    (members : ∀ state ∈ session.states, state ∈ asked)
    (succeeds : session.Succeeds directory stamp tree) :
    Shelved device asked directory stamp
      (session.closed directory stamp tree)
      ((session.served directory stamp tree).cache.resident ++
        (session.opened directory stamp tree).1.unclaimed.filter fun digest =>
          digest ∉ session.states.map PipelineState.digest) := by
  obtain ⟨-, -, unchanged, backed⟩ := shelved.opened session
  unfold Session.Succeeds Session.effects at succeeds
  unfold Session.closed Session.effects
  rw [unchanged] at succeeds ⊢
  obtain ⟨earlier, later⟩ := succeed_append.mp succeeds
  have served := backed.lookupAll separate fits members earlier
  obtain ⟨listed, stored⟩ := served.flush fits later
  obtain ⟨orderly, left⟩ := backed.orderly.lookupAll session.host members
  dsimp only
  rw [performAll_append, ← left]
  exact ⟨listed, orderly.distinct, stored⟩

end Shelved

/-- Between sessions, everything that the index lists can be loaded. -/
theorem Left.shelved
    {first tree : FileTree}
    (separate : Set.InjOn PipelineState.digest asked)
    (fits : stamp.Fits)
    (unlisted : Store.readIndex directory first = .ok [])
    (left : Left device asked directory stamp first tree) :
    ∃ digests, Shelved device asked directory stamp tree digests := by
  induction left with
  | unused => exact ⟨[], unlisted, List.nodup_nil, by simp⟩
  | session session _ members succeeds ih =>
      obtain ⟨digests, shelved⟩ := ih
      exact ⟨_, shelved.closed separate fits members succeeds⟩

/-! ## Programs that wait -/

omit [RestoringDevice device] in
theorem builds_evictOldest (count : Nat) (cache : Cache) (host : device) :
    (holdings (cache.evictOldest count host).host).builds =
      (holdings host).builds := by
  refine
    evictOldest_invariant
      (fun _ current _ => (holdings current).builds = (holdings host).builds)
      ?_ count [] rfl
  intro cache current effects digest slot slots _ same
  rw [holdings_evict]
  exact same

/-- What waits for a configuration is the answer, and nothing is built. -/
theorem lookup_stored
    {cache : Cache} (host : device) {state : PipelineState}
    {entry : Store.Entry} {stages : Stages} {texts : List String}
    (same : entry.state = state)
    (absent : cache.slots.get? state.digest = none)
    (found : cache.staged.lookup state.digest = some entry)
    (staged : state.stages = .ok stages)
    (known : LawfulDevice.contents device entry.binary = some texts) :
    let looked := cache.lookup host state
    ∃ answer,
      looked.answer = .ok answer ∧
        answer.origin = .stored ∧
        answer.digest = state.digest ∧
        (holdings looked.host).builds = (holdings host).builds ∧
        (holdings looked.host).programs answer.program = some texts := by
  subst same
  intro looked
  have missed :
      looked = cache.lookupMissing host entry.state.digest entry.state := by
    simp only [looked, lookup, absent]
  rw [missed]
  generalize entry.state.digest = digest at absent found ⊢
  obtain ⟨slots, _, -, vacated⟩ := cache.vacate_cache host digest
  have remains :
      (cache.vacate host digest).cache.staged.lookup digest = some entry := by
    rw [vacated]
    exact found
  have unbuilt :
      (holdings (cache.vacate host digest).host).builds =
        (holdings host).builds := by
    obtain ⟨statistics, same⟩ := vacate_of_absent host absent
    rw [same]
    exact builds_evictOldest _ _ host
  obtain ⟨linked, after, _, fetched, added⟩ :=
    fetch_of_waiting (cache.vacate host digest).host remains staged known
  rcases cache.lookupMissing_cases host digest entry.state with
    ⟨error, failed, -⟩ | ⟨slot, origin, done, got⟩
  · rw [fetched] at failed
    cases failed
  · rw [fetched] at done
    cases done
    rw [got, fetched]
    refine ⟨_, rfl, rfl, rfl, ?_, ?_⟩
    · dsimp only
      rw [added]
      exact unbuilt
    · dsimp only [Slot.answer]
      rw [added]
      simp [Holdings.addProgram]

theorem Faithful.lookup_waiting
    {cache : Cache} {host : device} {state : PipelineState}
    (separate : Set.InjOn PipelineState.digest asked)
    (faithful : cache.Faithful host) (orderly : cache.Orderly asked)
    (member : state ∈ asked) (waiting : state.digest ∈ cache.unclaimed) :
    ∃ answer,
      (cache.lookup host state).answer = .ok answer ∧
        answer.origin = .stored ∧
        (holdings (cache.lookup host state).host).builds =
          (holdings host).builds := by
  have absent : cache.slots.get? state.digest = none :=
    get?_of_not_resident fun resident =>
      orderly.not_mem_unclaimed resident waiting
  obtain ⟨entry, found⟩ :
      ∃ entry, cache.staged.lookup state.digest = some entry :=
    Option.isSome_iff_exists.mp
      (lookup_isSome_iff.mpr (mem_unclaimed_iff.mp waiting).2)
  obtain ⟨rfl, listed⟩ := orderly.state_of_waiting separate member rfl found
  obtain ⟨sources, translated, known⟩ := faithful.genuine _ listed
  obtain ⟨stages, staged, -⟩ := PipelineState.stages_of_sources translated
  obtain ⟨answer, answered, stored, -, unbuilt, -⟩ :=
    lookup_stored host rfl absent found staged known
  exact ⟨answer, answered, stored, unbuilt⟩

omit [RestoringDevice device] in
/-- What is not asked for in a session still waits at its end. -/
theorem Backed.lookupAll_waiting
    {cache : Cache} {host : device} {tree : FileTree}
    {states : List PipelineState} {state : PipelineState}
    (separate : Set.InjOn PipelineState.digest asked)
    (backed : Backed asked directory stamp cache host tree)
    (members : ∀ other ∈ states, other ∈ asked)
    (member : state ∈ asked) (unasked : state ∉ states)
    (waiting : state.digest ∈ cache.unclaimed) :
    let served := cache.lookupAll host states
    served.cache.Faithful served.host ∧
      served.cache.Orderly asked ∧
      state.digest ∈ served.cache.unclaimed := by
  obtain ⟨orderly, left⟩ := backed.orderly.lookupAll host members
  refine ⟨backed.faithful.serveAll _, orderly, ?_⟩
  rw [left]
  refine List.mem_filter.mpr ⟨waiting, decide_eq_true ?_⟩
  intro claimed
  obtain ⟨other, listed, same⟩ := List.mem_map.mp claimed
  have equal : other = state := separate (members other listed) member same
  exact unasked (equal ▸ listed)

/-! ## A session with one program -/

instance {known : List String} : RestoringDevice (Dedicated known) where
  binary_of_live := by
    intro host program sources live
    obtain ⟨alive, rfl⟩ : host.isLive program = true ∧ known = sources := by
      simpa [holdings, Dedicated.holdings] using live
    exact ⟨Dedicated.image, host, by simp [Device.binary, alive],
      by simp [LawfulDevice.contents], by simp [Dedicated.image]⟩
  ofBinary_of_known := by
    intro host binary sources known
    by_cases same : binary = Dedicated.image
    · exact ⟨_, _, if_pos same⟩
    · simp [LawfulDevice.contents, same] at known

theorem Faithful.flush_first
    {cache : Cache} {host : device} {digest : UInt64} {slot : Slot}
    (faithful : cache.Faithful host)
    (persists : cache.settings.persists = true)
    (only : cache.slots.entries = [(digest, slot)])
    (unsaved : slot.persisted = false)
    (unstaged : cache.staged = []) :
    ∃ binary,
      (cache.flush host).effects =
        [.await digest, .save digest ⟨slot.state, binary⟩, .awaitAll,
          .publish [digest]] := by
  obtain ⟨sources, -, live, -⟩ :=
    faithful.serves (digest, slot) (by simp [only])
  obtain ⟨binary, after, given, -⟩ := RestoringDevice.binary_of_live live
  exact ⟨binary, flush_single slot persists only unsaved unstaged given⟩

omit [LawfulDevice device] [RestoringDevice device] in
theorem Session.served_single
    {session : Session device} {state : PipelineState} {tree : FileTree}
    (single : session.states = [state]) :
    session.served directory stamp tree =
      ((session.opened directory stamp tree).1.lookup session.host
        state).toOutcome := by
  unfold Session.served lookupAll
  rw [single]
  exact serveAll_singleton _ _ _

/-- A session that asks for one new program keeps it, saves it and lists it. -/
theorem Session.effects_first
    {session : Session device} {state : PipelineState} {tree : FileTree}
    {linked : LinkedProgram}
    (unlisted : Store.readIndex directory tree = .ok [])
    (single : session.states = [state])
    (assembled :
      ((Linker.new session.objectCapacity false).assemble session.host
        state).result = .ok linked) :
    (session.served directory stamp tree).cache.resident = [state.digest] ∧
      ∃ binary reports,
        (∀ effect ∈ reports, ∃ line, effect = Effect.report line) ∧
          session.effects directory stamp tree =
          Effect.await state.digest :: reports ++
            [Effect.await state.digest,
              Effect.save state.digest ⟨state, binary⟩, Effect.awaitAll,
              Effect.publish [state.digest]] := by
  have shelved : Shelved device ∅ directory stamp tree [] :=
    ⟨unlisted, List.nodup_nil, by simp⟩
  obtain ⟨ready, -, -, backed⟩ := shelved.opened session
  have unstaged : (session.opened directory stamp tree).1.staged = [] := by
    refine List.eq_nil_iff_forall_not_mem.mpr fun entry waiting => ?_
    have listed := backed.orderly.mem_unclaimed waiting
    rw [ready] at listed
    cases listed
  obtain ⟨linker, statistics, reports, quiet, looked⟩ :=
    lookup_first
      (show (session.opened directory stamp tree).1.slots.entries = [] from rfl)
      unstaged assembled
  have faithful := (backed.faithful.lookup state).faithful
  rw [looked] at faithful
  obtain ⟨binary, flushed⟩ := faithful.flush_first rfl rfl rfl unstaged
  unfold Session.effects
  rw [Session.served_single single, looked]
  refine ⟨rfl, binary, reports, quiet, ?_⟩
  dsimp only
  rw [flushed]

omit [RestoringDevice device] in
/-- A session that asks for a program it cannot have lists what waited. -/
theorem Session.effects_refused
    {session : Session device} {state : PipelineState} {tree : FileTree}
    {digests : List UInt64}
    (shelved : Shelved device asked directory stamp tree digests)
    (single : session.states = [state])
    (unlisted : state.digest ∉ digests)
    (refused :
      ∀ host : device,
        ∃ error,
          ((Linker.new session.objectCapacity false).assemble host
            state).result = .error error) :
    (session.served directory stamp tree).cache.resident = [] ∧
      ∃ reports,
        (∀ effect ∈ reports, ∃ line, effect = Effect.report line) ∧
          session.effects directory stamp tree =
            Effect.await state.digest :: reports ++
              [Effect.awaitAll, Effect.publish digests] := by
  obtain ⟨ready, -, -, backed⟩ := shelved.opened session
  unfold Session.effects
  rw [Session.served_single single]
  have empty : (session.opened directory stamp tree).1.slots.entries = [] :=
    rfl
  have located :
      (session.opened directory stamp tree).1.settings.directory.isSome =
        true :=
    rfl
  have honest :
      (session.opened directory stamp tree).1.linker =
        Linker.new session.objectCapacity false :=
    rfl
  generalize (session.opened directory stamp tree).1 = opened
    at ready backed empty located honest ⊢
  have absent : opened.slots.get? state.digest = none := by
    simp [Lru.get?, empty]
  have unstaged : opened.staged.lookup state.digest = none := by
    rw [← Option.not_isSome_iff_eq_none, lookup_isSome_iff]
    intro waiting
    have listed :=
      mem_unclaimed_iff.mpr ⟨backed.orderly.ordered waiting, waiting⟩
    exact unlisted (ready ▸ listed)
  obtain ⟨statistics, vacated⟩ := vacate_of_absent session.host absent
  dsimp only at vacated
  rw [makeRoom_of_empty { opened with statistics } session.host empty]
    at vacated
  obtain ⟨linker, after, reports, error, quiet, looked⟩ :=
    lookup_unbuilt session.host absent unstaged
      (fun host => honest ▸ refused host)
  rw [vacated] at looked
  have listed : opened.indexDigests = digests := by
    have none : opened.resident = [] := by simp [resident, Lru.keys, empty]
    rw [backed.orderly.indexDigests_eq, none, ready, List.nil_append]
  rw [looked]
  refine ⟨congrArg (List.map Prod.fst) empty, reports, quiet, ?_⟩
  dsimp only
  rw [flush_empty { opened with linker, statistics } after located empty,
    ← listed]
  rfl

/-- The files of one program can be written, and the index once more. -/
theorem writes_quadrilaterals (stamp : Store.Stamp) (entry : Store.Entry) :
    ∃ saved listed,
      Store.write "c" quadrilaterals.digest stamp entry .empty =
          (.ok (), saved) ∧
        Store.writeIndex "c" [quadrilaterals.digest] saved =
          (.ok (), listed) ∧
        ∀ digests, (Store.writeIndex "c" digests listed).1 = .ok () := by
  have keyed : quadrilaterals.digest = 17549888221471747016 := by
    decide +kernel
  have base : Path.ofText "c" = ["c"] := by decide
  have directory :
      Store.directoryNames 17549888221471747016 = ["shaders", "f38d"] := by
    decide +kernel
  have temporary :
      Store.temporaryNames 17549888221471747016 =
        ["shaders", "f38d", "ba5aa8a2abc8.tmp"] := by
    decide +kernel
  have final :
      Store.entryNames 17549888221471747016 =
        ["shaders", "f38d", "ba5aa8a2abc8"] := by
    decide +kernel
  rw [keyed]
  unfold Store.write Store.writeIndex Store.pathBelow
  rw [directory, temporary, final, base]
  generalize entry.toBytes stamp = bytes
  generalize List.flatMap Format.wordBytes [17549888221471747016] = index
  exact ⟨_, _, rfl, rfl, fun _ => rfl⟩

theorem readIndex_empty : Store.readIndex "c" .empty = .ok [] := by
  have base : Path.ofText "c" = ["c"] := by decide
  unfold Store.readIndex Store.pathBelow
  rw [base]
  rfl

/-- Waiting and reporting cannot fail. -/
theorem succeed_reports
    {effects : List Effect} (tree : FileTree) (digest : UInt64)
    (reports : ∀ effect ∈ effects, ∃ line, effect = .report line) :
    Succeed directory stamp (.await digest :: effects) tree ∧
      (performAll directory stamp (.await digest :: effects) tree).tree =
        tree := by
  refine ⟨⟨trivial, ?_⟩, ?_⟩
  · show Succeed directory stamp effects tree
    induction effects with
    | nil => exact trivial
    | cons effect rest ih =>
        obtain ⟨line, rfl⟩ := reports effect (by simp)
        exact ⟨trivial,
          ih fun other member => reports other (by simp [member])⟩
  · show (performAll directory stamp effects tree).tree = tree
    exact performAll_reports tree reports

/-- A program is saved and listed, after some reports. -/
theorem succeed_saved
    {tree saved listed : FileTree} {digest : UInt64} {entry : Store.Entry}
    {reports : List Effect}
    (quiet : ∀ effect ∈ reports, ∃ line, effect = Effect.report line)
    (written :
      Store.write directory digest stamp entry tree = (.ok (), saved))
    (indexed :
      Store.writeIndex directory [digest] saved = (.ok (), listed)) :
    let effects :=
      Effect.await digest :: reports ++
        [Effect.await digest, Effect.save digest entry, Effect.awaitAll,
          Effect.publish [digest]]
    Succeed directory stamp effects tree ∧
      (performAll directory stamp effects tree).tree = listed := by
  obtain ⟨succeeds, unchanged⟩ := succeed_reports tree digest quiet
  dsimp only
  rw [succeed_append, performAll_append, unchanged]
  refine ⟨⟨succeeds, ?_⟩, ?_⟩
  · simp [Succeed, Effect.Succeeds, Effect.perform, Store.save, written,
      indexed]
  · simp [performAll, Effect.perform, Store.save, written, indexed]

/-- One program can be saved and listed, and the index emptied after that. -/
theorem succeed_quadrilaterals
    {tree : FileTree} {binary : ProgramBinary} {effects reports : List Effect}
    (stamp : Store.Stamp)
    (empty : tree = .empty)
    (quiet : ∀ effect ∈ reports, ∃ line, effect = Effect.report line)
    (listed :
      effects =
        Effect.await quadrilaterals.digest :: reports ++
          [Effect.await quadrilaterals.digest,
            Effect.save quadrilaterals.digest ⟨quadrilaterals, binary⟩,
            Effect.awaitAll, Effect.publish [quadrilaterals.digest]]) :
    Succeed "c" stamp (effects ++ [Effect.awaitAll, Effect.publish []])
      tree := by
  subst empty listed
  obtain ⟨saved, listed, written, indexed, again⟩ :=
    writes_quadrilaterals stamp ⟨quadrilaterals, binary⟩
  obtain ⟨succeeds, after⟩ := succeed_saved quiet written indexed
  rw [succeed_append, after]
  exact ⟨succeeds, trivial, again [], trivial⟩

/--
A program is saved and listed in one session, and another session that has no
use for it can list it again.
-/
theorem Session.succeeds_quadrilaterals
    {first second : Session device} {linked : LinkedProgram}
    (stamp : Store.Stamp)
    (separate : Set.InjOn PipelineState.digest asked)
    (fits : stamp.Fits)
    (members : quadrilaterals ∈ asked)
    (built : first.states = [quadrilaterals])
    (assembled :
      ((Linker.new first.objectCapacity false).assemble first.host
        quadrilaterals).result = .ok linked)
    (asks : second.states = [triangles])
    (refused :
      ∀ host : device,
        ∃ error,
          ((Linker.new second.objectCapacity false).assemble host
            triangles).result = .error error) :
    let before := first.closed "c" stamp .empty
    first.Succeeds "c" stamp .empty ∧
      Shelved device asked "c" stamp before [quadrilaterals.digest] ∧
      second.Succeeds "c" stamp before := by
  intro before
  obtain ⟨resident, binary, reports, quiet, effects⟩ :=
    Session.effects_first readIndex_empty built assembled
  have shelved : Shelved device asked "c" stamp .empty [] :=
    ⟨readIndex_empty, List.nodup_nil, by simp⟩
  obtain ⟨none, -, unchanged, -⟩ := shelved.opened first
  obtain ⟨saved, listed, written, indexed, again⟩ :=
    writes_quadrilaterals stamp ⟨quadrilaterals, binary⟩
  obtain ⟨succeeds, after⟩ := succeed_saved quiet written indexed
  have done : first.Succeeds "c" stamp .empty := by
    unfold Session.Succeeds
    rw [effects, unchanged]
    exact succeeds
  have closed : before = listed := by
    unfold before Session.closed
    rw [effects, unchanged]
    exact after
  have kept :
      Shelved device asked "c" stamp before [quadrilaterals.digest] := by
    have left :=
      shelved.closed separate fits (by simpa [built] using members) done
    rwa [resident, none, List.filter_nil, List.append_nil] at left
  refine ⟨done, kept, ?_⟩
  obtain ⟨-, others, silent, listing⟩ :=
    Session.effects_refused kept asks digest_triangles_not_mem refused
  obtain ⟨-, -, same, -⟩ := kept.opened second
  obtain ⟨reported, untouched⟩ :=
    succeed_reports before triangles.digest silent
  unfold Session.Succeeds
  rw [listing, same, succeed_append, untouched, closed]
  exact ⟨closed ▸ reported, trivial, again _, trivial⟩

/-! ## Session after session -/

/--
After any number of sessions, the index that a session leaves lists what was
in the cache and then what nobody had asked for.  The next session has all of
it ready, and recreates every program the first time it is asked for.
-/
theorem restored_in_next_session
    {first before : FileTree}
    (fits : stamp.Fits)
    (separate : Set.InjOn PipelineState.digest asked)
    (unlisted : Store.readIndex directory first = .ok [])
    (left : Left device asked directory stamp first before)
    (session next : Session device)
    (members : ∀ state ∈ session.states, state ∈ asked)
    (succeeds : session.Succeeds directory stamp before)
    (nextMembers : ∀ state ∈ next.states, state ∈ asked) :
    let after := session.closed directory stamp before
    let digests :=
      (session.served directory stamp before).cache.resident ++
        (session.opened directory stamp before).1.unclaimed.filter
          fun digest => digest ∉ session.states.map PipelineState.digest
    let opened := (next.opened directory stamp after).1
    let served := next.served directory stamp after
    Store.readIndex directory after = .ok digests ∧
      digests.Nodup ∧
      opened.unclaimed = digests ∧
      opened.statistics.rejects = 0 ∧
      ∀ state ∈ asked,
        state.digest ∈ digests → state ∉ next.states →
          let looked := served.cache.lookup served.host state
          ∃ answer sources,
            looked.answer = .ok answer ∧
              answer.origin = .stored ∧
              (holdings looked.host).builds =
                (holdings served.host).builds ∧
              state.sources = .ok sources ∧
              (holdings looked.host).programs answer.program =
                some sources.toList ∧
              answer.assembly = sources.assembly := by
  intro after digests opened served
  obtain ⟨earlier, shelvedBefore⟩ := left.shelved separate fits unlisted
  have shelved : Shelved device asked directory stamp after digests :=
    shelvedBefore.closed separate fits members succeeds
  obtain ⟨ready, unrejected, -, backed⟩ := shelved.opened next
  refine ⟨shelved.listed, shelved.distinct, ready, unrejected, ?_⟩
  intro state member listed unasked looked
  obtain ⟨faithful, orderly, waiting⟩ :=
    backed.lookupAll_waiting separate nextMembers member unasked
      (ready.symm ▸ listed)
  obtain ⟨answer, answered, stored, unbuilt⟩ :=
    faithful.lookup_waiting separate orderly member waiting
  obtain ⟨sources, translated, live, drawn⟩ :=
    (faithful.lookup state).answered answered
  exact ⟨answer, sources, answered, stored, unbuilt, translated, live, drawn⟩

/--
A program that was built in the first session is listed again by the second
one, which asks for another program in vain, and recreated in the third one.
-/
theorem restored_in_next_session_quadrilaterals :
    ∃ sources,
      quadrilaterals.sources = .ok sources ∧
        let first : Session (Dedicated sources.toList) :=
          ⟨defaultCapacity, defaultCapacity, .new sources.toList,
            [quadrilaterals]⟩
        let second : Session (Dedicated sources.toList) :=
          { first with states := [triangles] }
        let after :=
          second.closed "c" ⟨"", ""⟩ (first.closed "c" ⟨"", ""⟩ .empty)
        let served := second.served "c" ⟨"", ""⟩ after
        let looked := served.cache.lookup served.host quadrilaterals
        quadrilaterals.digest ≠ triangles.digest ∧
          Store.readIndex "c" after = .ok [quadrilaterals.digest] ∧
          ∃ answer,
            looked.answer = .ok answer ∧
              answer.origin = .stored ∧
              (holdings looked.host).builds =
                (holdings served.host).builds ∧
              (holdings looked.host).programs answer.program =
                some sources.toList ∧
              answer.assembly = sources.assembly := by
  obtain ⟨sources, translated⟩ :
      ∃ sources, quadrilaterals.sources = .ok sources :=
    ⟨_, rfl⟩
  refine ⟨sources, translated, ?_⟩
  intro first second
  have room : 3 ≤ defaultCapacity.size := by decide
  have built : first.states = [quadrilaterals] := rfl
  have asks : second.states = [triangles] := rfl
  obtain ⟨linked, assembled⟩ :
      ∃ linked,
        ((Linker.new first.objectCapacity false).assemble first.host
          quadrilaterals).result = .ok linked :=
    Dedicated.assemble_new translated room
  have refused (host : Dedicated sources.toList) :
      ∃ error,
        ((Linker.new second.objectCapacity false).assemble host
          triangles).result = .error error :=
    refused_triangles translated rfl host
  -- From here on, nothing can be learned from running the sessions.
  clear_value first second
  have fits : Store.Stamp.Fits ⟨"", ""⟩ := ⟨by decide, by decide⟩
  obtain ⟨succeeds, shelved, succeedsAgain⟩ :=
    Session.succeeds_quadrilaterals ⟨"", ""⟩ separate_quadrilaterals fits
      (Or.inl rfl) built assembled asks refused
  obtain ⟨vacant, -⟩ :=
    Session.effects_refused shelved asks digest_triangles_not_mem refused
  have ready := (shelved.opened second).1
  intro after served looked
  have members :
      ∀ state ∈ second.states,
        state ∈ ({quadrilaterals, triangles} : Set PipelineState) := by
    simp [asks]
  have left : Left (Dedicated sources.toList) {quadrilaterals, triangles} "c"
      ⟨"", ""⟩ .empty (first.closed "c" ⟨"", ""⟩ .empty) :=
    .session first .unused (by simp [built]) succeeds
  obtain ⟨listed, -, -, -, recreated⟩ :=
    restored_in_next_session fits separate_quadrilaterals readIndex_empty left
      second second members succeedsAgain members
  have kept :
      ([quadrilaterals.digest].filter fun digest =>
        digest ∉ [triangles].map PipelineState.digest) =
          [quadrilaterals.digest] := by
    simp [digest_quadrilaterals_ne]
  rw [vacant, ready, asks, kept, List.nil_append] at listed recreated
  obtain ⟨answer, found, answered, stored, unbuilt, same, live, drawn⟩ :=
    recreated quadrilaterals (Or.inl rfl) (List.mem_singleton_self _)
      (by simp [quadrilaterals, triangles])
  obtain rfl : sources = found := by
    rw [translated] at same
    exact Except.ok.inj same
  exact ⟨digest_quadrilaterals_ne, listed, answer, answered, stored, unbuilt,
    live, drawn⟩

end ShaderSynth.Cache
