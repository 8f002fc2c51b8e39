/-!
# Collections that forget what is used least

An `Lru` keeps a limited number of entries, the most recently used one first.
When it is full, a new entry takes the place of the last one.
-/

namespace ShaderSynth

/-- A number of entries, at least one. -/
structure Capacity where
  size : Nat
  size_pos : 0 < size
deriving DecidableEq, Repr

/-- A number as a capacity. -/
def Capacity.ofNat? (size : Nat) : Option Capacity :=
  if size_pos : 0 < size then some ⟨size, size_pos⟩ else none

/-- Entries in order of use, the most recent one first. -/
structure Lru (key value : Type) where
  capacity : Capacity
  entries : List (key × value)
deriving Repr

namespace Lru

variable {key value : Type} [DecidableEq key]

/-- A collection without entries. -/
def empty (capacity : Capacity) : Lru key value :=
  ⟨capacity, []⟩

/-- How many entries there are. -/
def size (lru : Lru key value) : Nat :=
  lru.entries.length

/-- The keys, the most recently used one first. -/
def keys (lru : Lru key value) : List key :=
  lru.entries.map Prod.fst

/-- The values, the most recently used one first. -/
def values (lru : Lru key value) : List value :=
  lru.entries.map Prod.snd

/-- The value of a key. -/
def get? (lru : Lru key value) (wanted : key) : Option value :=
  lru.entries.lookup wanted

/-- Takes an entry out. -/
def erase (lru : Lru key value) (unwanted : key) : Lru key value :=
  { lru with entries := lru.entries.filter fun entry => entry.1 ≠ unwanted }

/-- Makes an entry the most recently used one. -/
def touch (lru : Lru key value) (used : key) : Lru key value :=
  match lru.get? used with
  | some item =>
      { lru with entries := (used, item) :: (lru.erase used).entries }
  | none => lru

/-- Takes out the least recently used entry. -/
def popLast? (lru : Lru key value) :
    Option ((key × value) × Lru key value) :=
  lru.entries.getLast?.map fun last =>
    (last, { lru with entries := lru.entries.dropLast })

/-- Adds an entry; gives the one whose place it took, if it was full. -/
def insert (lru : Lru key value) (new : key) (item : value) :
    Option value × Lru key value :=
  let others := (lru.erase new).entries
  if others.length < lru.capacity.size then
    (none, { lru with entries := (new, item) :: others })
  else
    (others.getLast?.map Prod.snd,
      { lru with entries := (new, item) :: others.dropLast })

/-- Changes a value in its place. -/
def update (lru : Lru key value) (changed : key) (change : value → value) :
    Lru key value :=
  { lru with
    entries := lru.entries.map fun entry =>
      if entry.1 = changed then (entry.1, change entry.2) else entry }

/-- Takes all entries out. -/
def clear (lru : Lru key value) : Lru key value :=
  empty lru.capacity

/-! ## The keys after each operation -/

@[simp]
theorem keys_erase (lru : Lru key value) (unwanted : key) :
    (lru.erase unwanted).keys = lru.keys.filter (· ≠ unwanted) := by
  simp [keys, erase, List.filter_map, Function.comp_def]

@[simp]
theorem keys_update
    (lru : Lru key value) (changed : key) (change : value → value) :
    (lru.update changed change).keys = lru.keys := by
  simp only [keys, update, List.map_map]
  congr 1
  funext entry
  simp only [Function.comp_apply]
  split <;> rfl

theorem get?_isSome_iff (lru : Lru key value) (wanted : key) :
    (lru.get? wanted).isSome ↔ wanted ∈ lru.keys := by
  simp only [get?, keys]
  induction lru.entries with
  | nil => simp
  | cons entry rest ih => grind

theorem keys_touch
    (lru : Lru key value) {used : key} (resident : used ∈ lru.keys) :
    (lru.touch used).keys = used :: lru.keys.filter (· ≠ used) := by
  obtain ⟨item, found⟩ :=
    Option.isSome_iff_exists.mp ((lru.get?_isSome_iff used).mpr resident)
  rw [← keys_erase]
  simp [touch, found, keys]

end Lru

end ShaderSynth
