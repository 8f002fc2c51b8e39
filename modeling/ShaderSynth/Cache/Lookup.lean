import ShaderSynth.Cache.Effect
import ShaderSynth.Cache.Settings

/-!
# The program cache

A cache keeps the programs of recently used configurations by the digests of
the configurations.  A configuration without a program gets one: recreated
from its stored binary if there is one, and built otherwise.  A program that
has to go is stored, unless it came from there.
-/

namespace ShaderSynth

/-- A program in a cache. -/
structure Slot where
  state : PipelineState
  linked : LinkedProgram
  /-- Whether the program is stored already. -/
  persisted : Bool
deriving DecidableEq, Repr

/-- What a cache has done so far. -/
structure Statistics where
  hits : Nat := 0
  misses : Nat := 0
  builds : Nat := 0
  restores : Nat := 0
  evictions : Nat := 0
  saves : Nat := 0
  /-- Stored programs that were of no use. -/
  rejects : Nat := 0
deriving DecidableEq, Repr

/-- A cache of programs. -/
structure Cache where
  settings : Cache.Settings
  stamp : Store.Stamp
  slots : Lru UInt64 Slot
  linker : Linker
  /-- Stored programs that have been made ready and nobody has asked for. -/
  staged : List (UInt64 × Store.Entry)
  /-- The digests of all that has ever been made ready, one after the other. -/
  order : List UInt64
  statistics : Statistics
deriving Repr

namespace Cache

/-- Where a program came from. -/
inductive Origin where
  /-- It was in the cache. -/
  | memory
  /-- It was recreated from its stored binary. -/
  | stored
  /-- It was built. -/
  | built
deriving DecidableEq, Repr

/-- The program of a configuration. -/
structure Answer where
  origin : Origin
  digest : UInt64
  program : ProgramId
  assembly : Assembly
deriving DecidableEq, Repr

/-- The answer that a slot gives. -/
def Slot.answer (slot : Slot) (origin : Origin) (digest : UInt64) : Answer :=
  ⟨origin, digest, slot.linked.program, slot.linked.assembly⟩

/-- What an operation on a cache leaves. -/
structure Outcome (device : Type) where
  cache : Cache
  host : device
  effects : List Effect

variable {device : Type} [Device device]

/-- A cache with nothing in it but what has been made ready for it. -/
def new (settings : Settings) (vendor : String) (staging : Store.Staging) :
    Cache where
  settings
  stamp := ⟨settings.version, vendor⟩
  slots := .empty settings.capacity
  linker := .new settings.objectCapacity settings.fallback
  staged := staging.staged
  order := staging.staged.map Prod.fst
  statistics := { rejects := staging.rejects }

/-- Starts a cache on a file tree, and loads what the index lists. -/
def start
    (settings : Settings) (vendor : String) (tree : FileTree) :
    Cache × FileTree :=
  let staging :=
    match settings.directory with
    | some base => Store.preload base ⟨settings.version, vendor⟩ tree
    | none => ⟨[], 0, tree⟩
  (new settings vendor staging, staging.tree)

/-- The digests of the programs, the most recently used first. -/
def resident (cache : Cache) : List UInt64 :=
  cache.slots.keys

/--
The digests of the stored programs that nobody has asked for.  One that was
made ready again after it had been taken is listed twice.
-/
def unclaimed (cache : Cache) : List UInt64 :=
  cache.order.filter fun digest => (cache.staged.lookup digest).isSome

/--
Makes the stored program of a digest ready, if it could be loaded.  Otherwise
it is removed, so as not to be tried again.  What the index lists is made ready
one by one, and all of it before the first request or between requests.
-/
def stage
    (cache : Cache) (digest : UInt64) (loaded : Option Store.Entry) :
    Cache × List Effect :=
  if (cache.staged.lookup digest).isSome then (cache, [])
  else
    match loaded with
    | some entry =>
        ({ cache with
            staged := cache.staged ++ [(digest, entry)]
            order := cache.order ++ [digest] }, [])
    | none =>
        let statistics :=
          { cache.statistics with rejects := cache.statistics.rejects + 1 }
        ({ cache with statistics }, [.discard digest])

/-! ## Programs that have to go -/

/-- Saves the program of a slot, if that is called for and possible. -/
def persist (cache : Cache) (host : device) (digest : UInt64) (slot : Slot) :
    Outcome device :=
  if cache.settings.persists && !slot.persisted then
    match Device.binary host slot.linked.program with
    | (none, host) => ⟨cache, host, []⟩
    | (some binary, host) =>
        let statistics :=
          { cache.statistics with saves := cache.statistics.saves + 1 }
        ⟨{ cache with statistics }, host,
          [.await digest, .save digest ⟨slot.state, binary⟩]⟩
  else ⟨cache, host, []⟩

/-- Deletes the program of a slot that was taken out. -/
def evict (cache : Cache) (host : device) (digest : UInt64) (slot : Slot) :
    Outcome device :=
  let statistics :=
    { cache.statistics with evictions := cache.statistics.evictions + 1 }
  let saved := { cache with statistics }.persist host digest slot
  { saved with host := Device.deleteProgram saved.host slot.linked.program }

/-- Evicts the programs used least recently, so many of them. -/
def evictOldest : Nat → Cache → device → Outcome device
  | 0, cache, host => ⟨cache, host, []⟩
  | count + 1, cache, host =>
      match cache.slots.popLast? with
      | none => ⟨cache, host, []⟩
      | some ((digest, slot), slots) =>
          let first := { cache with slots }.evict host digest slot
          let others := evictOldest count first.cache first.host
          { others with effects := first.effects ++ others.effects }

/-- Makes room for one more program. -/
def makeRoom (cache : Cache) (host : device) : Outcome device :=
  cache.evictOldest (cache.slots.size + 1 - cache.slots.capacity.size) host

/-! ## Programs that are asked for -/

/-- What getting a slot leaves. -/
structure Fetched (device : Type) extends Outcome device where
  slot : Except BuildError (Slot × Origin)

/-- Builds the program of a configuration. -/
def build (cache : Cache) (host : device) (state : PipelineState) :
    Fetched device :=
  let built := cache.linker.assemble host state
  let effects := built.reports.map fun report => .report (.build report)
  let cache := { cache with linker := built.linker }
  match built.result with
  | .error error => ⟨⟨cache, built.host, effects⟩, .error error⟩
  | .ok linked =>
      let statistics :=
        { cache.statistics with builds := cache.statistics.builds + 1 }
      ⟨⟨{ cache with statistics }, built.host, effects⟩,
        .ok (⟨state, linked, false⟩, .built)⟩

/-- Recreates a stored program; one that the device rejects is built anew. -/
def restore
    (cache : Cache) (host : device) (digest : UInt64)
    (state : PipelineState) (binary : ProgramBinary) :
    Fetched device :=
  match Linker.restore host state binary with
  | (some linked, host) =>
      let statistics :=
        { cache.statistics with restores := cache.statistics.restores + 1 }
      ⟨⟨{ cache with statistics }, host, []⟩,
        .ok (⟨state, linked, true⟩, .stored)⟩
  | (none, host) =>
      let statistics :=
        { cache.statistics with rejects := cache.statistics.rejects + 1 }
      let discards :=
        if cache.settings.directory.isSome then [Effect.discard digest]
        else []
      let built := { cache with statistics }.build host state
      { built with
        effects :=
          .report (.rejectedBinary digest) :: discards ++ built.effects }

/-- Gets a slot for a configuration that has none. -/
def fetch
    (cache : Cache) (host : device) (digest : UInt64)
    (state : PipelineState) :
    Fetched device :=
  let staged := cache.staged.filter fun entry => entry.1 ≠ digest
  match cache.staged.lookup digest with
  | none => cache.build host state
  | some entry =>
      if entry.state = state then
        { cache with staged }.restore host digest state entry.binary
      else { cache with staged }.build host state

/-- Removes the program of another configuration with the same digest. -/
def removeStale (cache : Cache) (host : device) (digest : UInt64) :
    Outcome device :=
  match cache.slots.get? digest with
  | none => ⟨cache, host, []⟩
  | some stale =>
      ⟨{ cache with slots := cache.slots.erase digest },
        Device.deleteProgram host stale.linked.program,
        [.report (.collision digest)]⟩

/-- Adds a slot. -/
def addSlot (cache : Cache) (digest : UInt64) (slot : Slot) : Cache :=
  { cache with slots := (cache.slots.insert digest slot).2 }

/-- What asking for a program leaves. -/
structure Lookup (device : Type) extends Outcome device where
  answer : Except BuildError Answer

/-- Gets the program of a configuration that is not in the cache. -/
def lookupMissing
    (cache : Cache) (host : device) (digest : UInt64)
    (state : PipelineState) :
    Lookup device :=
  let statistics :=
    { cache.statistics with misses := cache.statistics.misses + 1 }
  let cleared := { cache with statistics }.removeStale host digest
  let roomy := cleared.cache.makeRoom cleared.host
  let fetched := roomy.cache.fetch roomy.host digest state
  let effects :=
    cleared.effects ++ .await digest :: roomy.effects ++ fetched.effects
  match fetched.slot with
  | .error error => ⟨⟨fetched.cache, fetched.host, effects⟩, .error error⟩
  | .ok (slot, origin) =>
      ⟨⟨fetched.cache.addSlot digest slot, fetched.host, effects⟩,
        .ok (Slot.answer slot origin digest)⟩

/-- Gets the program of a configuration. -/
def lookup (cache : Cache) (host : device) (state : PipelineState) :
    Lookup device :=
  let digest := state.digest
  match cache.slots.get? digest with
  | some slot =>
      if slot.state = state then
        let statistics :=
          { cache.statistics with hits := cache.statistics.hits + 1 }
        let slots := cache.slots.touch digest
        ⟨⟨{ cache with slots, statistics }, host, []⟩,
          .ok (Slot.answer slot .memory digest)⟩
      else cache.lookupMissing host digest state
  | none => cache.lookupMissing host digest state

/-! ## Emptying a cache -/

/-- The digests for the index: programs first, then unclaimed entries. -/
def indexDigests (cache : Cache) : List UInt64 :=
  cache.resident ++
    (cache.unclaimed.filter fun digest => digest ∉ cache.resident).eraseDups

/-- Evicts all programs and writes the index. -/
def flush (cache : Cache) (host : device) : Outcome device :=
  let digests := cache.indexDigests
  let evicted := cache.evictOldest cache.slots.size host
  let (linker, host) := evicted.cache.linker.clear evicted.host
  let publishes :=
    if cache.settings.directory.isSome then [Effect.publish digests] else []
  ⟨{ evicted.cache with linker }, host,
    evicted.effects ++ .awaitAll :: publishes⟩

/-! ## Programs in use -/

/-- The program of a digest, without counting as use. -/
def linked? (cache : Cache) (digest : UInt64) : Option LinkedProgram :=
  (cache.slots.get? digest).map Slot.linked

/-- Changes the program of a digest in its place. -/
def updateLinked
    (cache : Cache) (digest : UInt64)
    (change : LinkedProgram → LinkedProgram) :
    Cache :=
  { cache with
    slots := cache.slots.update digest fun slot =>
      { slot with linked := change slot.linked } }

end Cache

end ShaderSynth
