import Mathlib.Data.List.Nodup
import ShaderSynth.Program.Linked
import ShaderSynth.Proofs.Device.Journal

/-!
# Constants that the device already holds

A linked program writes a constant again only where its bits have changed
since the array that was passed last.  This is as good as writing all of them
as long as others keep to their side: they may change the constants of the
program once it has been invalidated, until it uploads again.

`Course` gathers everything that may happen to a linked program and its
device under this agreement.  What carries through it is `Tracks`: the device
holds the array that was passed last.
-/

namespace ShaderSynth.LinkedProgram

open RetentiveDevice (value)

variable {device : Type} [RetentiveDevice device]

/-- Where a linked program keeps a constant, if it has it. -/
def place? (linked : LinkedProgram) (index : Fin Transform.constantCount) :
    Option Location :=
  linked.locations.get? (.constant index)

/-- No location belongs to two constants. -/
def Separate (linked : LinkedProgram) : Prop :=
  ∀ {first second : Fin Transform.constantCount} {location : Location},
    linked.place? first = some location →
    linked.place? second = some location →
    first = second

/--
What can have happened since a program was made ready.  The array is the one
that was passed last, unless the program was invalidated after it.
-/
inductive Course : Option Constants → LinkedProgram → Watched device → Prop
  | ready (linked : LinkedProgram) (watched : Watched device)
      (fresh : linked.held = none) :
      Course none linked watched
  | upload {known : Option Constants} {linked : LinkedProgram}
      {watched : Watched device}
      (constants : Constants) (force : Bool)
      (course : Course known linked watched) :
      Course (some constants)
        (linked.upload watched constants force).2.1
        (linked.upload watched constants force).2.2
  | invalidate {known : Option Constants} {linked : LinkedProgram}
      {watched : Watched device}
      (course : Course known linked watched) :
      Course none linked.invalidate watched
  | others {known : Option Constants} {linked : LinkedProgram}
      {watched : Watched device} (after : device)
      (considerate :
        known = none ∨
          ∀ index location, linked.place? index = some location →
            value after location = value watched.host location)
      (course : Course known linked watched) :
      Course known linked (watched.proceed after)

/-! ## Writes -/

/-- Gives a device new values for locations. -/
def write {host : Type} [Device host]
    (start : host) (writes : List (Location × Constant)) : host :=
  writes.foldl (fun host (location, new) => Device.upload host location new)
    start

theorem value_write_of_not_mem
    {writes : List (Location × Constant)} {location : Location}
    (host : device) (untouched : location ∉ writes.map Prod.fst) :
    value (write host writes) location = value host location := by
  induction writes generalizing host with
  | nil => rfl
  | cons first rest ih =>
      rw [List.map_cons, List.mem_cons, not_or] at untouched
      calc
        value (write (Device.upload host first.1 first.2) rest) location
          = value (Device.upload host first.1 first.2) location :=
            ih _ untouched.2
        _ = value host location := by
            rw [RetentiveDevice.value_upload,
              Function.update_of_ne untouched.1]

theorem value_write_of_mem
    {writes : List (Location × Constant)} {location : Location}
    {new : Constant}
    (host : device) (once : (writes.map Prod.fst).Nodup)
    (written : (location, new) ∈ writes) :
    value (write host writes) location = new := by
  induction writes generalizing host with
  | nil => cases written
  | cons first rest ih =>
      rw [List.map_cons, List.nodup_cons] at once
      rcases List.mem_cons.mp written with rfl | later
      · calc
          value (write (Device.upload host location new) rest) location
            = value (Device.upload host location new) location :=
              value_write_of_not_mem _ once.1
          _ = new := by
              rw [RetentiveDevice.value_upload, Function.update_self]
      · exact ih _ once.2 later

theorem journal_write
    (watched : Watched device) (writes : List (Location × Constant)) :
    (write watched writes).journal =
      (writes.map fun entry => Call.upload entry.1 entry.2).reverse
        ++ watched.journal := by
  induction writes generalizing watched with
  | nil => rfl
  | cons first rest ih =>
      have restJournal := ih (Device.upload watched first.1 first.2)
      calc
        (write (Device.upload watched first.1 first.2) rest).journal
          = (rest.map fun entry => Call.upload entry.1 entry.2).reverse
              ++ Call.upload first.1 first.2 :: watched.journal :=
            restJournal
        _ = _ := by simp

/-! ## What is written -/

theorem isStale_iff
    {linked : LinkedProgram} {constants : Constants} {force : Bool}
    {index : Fin Transform.constantCount} :
    linked.isStale constants force index = true ↔
      ∀ previous, force = false → linked.held = some previous →
        previous.get index ≠ constants.get index := by
  unfold isStale
  cases force with
  | true => simp
  | false =>
      cases linked.held with
      | none => simp
      | some held =>
          simp only [Bool.false_or, bne_iff_ne, Option.some.injEq,
            forall_const, forall_eq']
          rfl

theorem mem_pending_iff
    {linked : LinkedProgram} {constants : Constants} {force : Bool}
    {location : Location} {new : Constant} :
    (location, new) ∈ linked.pending constants force ↔
      ∃ index, linked.place? index = some location ∧
        constants.get index = new ∧
        ∀ previous, force = false → linked.held = some previous →
          previous.get index ≠ constants.get index := by
  simp only [pending, List.mem_filterMap, List.mem_filter,
    List.mem_finRange, true_and, isStale_iff, Option.map_eq_some_iff,
    Prod.mk.injEq]
  constructor
  · rintro ⟨index, stale, place, found, rfl, rfl⟩
    exact ⟨index, found, rfl, stale⟩
  · rintro ⟨index, found, rfl, stale⟩
    exact ⟨index, stale, location, found, rfl, rfl⟩

/-- Each location is written once at most. -/
theorem Separate.nodup_pending
    {linked : LinkedProgram} (separate : linked.Separate)
    (constants : Constants) (force : Bool) :
    ((linked.pending constants force).map Prod.fst).Nodup := by
  have places :
      (linked.pending constants force).map Prod.fst =
        ((List.finRange Transform.constantCount).filter
          (linked.isStale constants force)).filterMap linked.place? := by
    rw [pending, List.map_filterMap]
    congr 1
    funext index
    simp [place?, Function.comp_def]
  rw [places]
  refine List.Nodup.filterMap ?_ ((List.nodup_finRange _).filter _)
  intro first second location atFirst atSecond
  exact separate atFirst atSecond

/-! ## What the device holds -/

/-- The device holds the array that was passed last. -/
structure Tracks
    (known : Option Constants) (linked : LinkedProgram)
    (watched : Watched device) : Prop where
  held : linked.held = known
  value_eq : ∀ previous index location,
    known = some previous → linked.place? index = some location →
      value watched location = previous.get index

/-- An upload brings every constant up to date. -/
theorem Tracks.upload
    {known : Option Constants} {linked : LinkedProgram}
    {watched : Watched device}
    (tracks : Tracks known linked watched) (separate : linked.Separate)
    (constants : Constants) (force : Bool) :
    Tracks (some constants)
      (linked.upload watched constants force).2.1
      (linked.upload watched constants force).2.2 where
  held := rfl
  value_eq := by
    rintro _ index location ⟨⟩ (found : linked.place? index = some location)
    change value (write watched (linked.pending constants force)) location =
      constants.get index
    by_cases stale :
        ∀ previous, force = false → linked.held = some previous →
          previous.get index ≠ constants.get index
    · exact value_write_of_mem watched
        (separate.nodup_pending constants force)
        (mem_pending_iff.mpr ⟨index, found, rfl, stale⟩)
    · push Not at stale
      obtain ⟨previous, unforced, held, same⟩ := stale
      -- no other constant is written here, so the old value is still there
      have untouched :
          location ∉ (linked.pending constants force).map Prod.fst := by
        intro touched
        obtain ⟨⟨place, new⟩, written, rfl⟩ := List.mem_map.mp touched
        obtain ⟨other, foundOther, -, changed⟩ := mem_pending_iff.mp written
        obtain rfl := separate found foundOther
        exact changed previous unforced held same
      calc
        value (write watched (linked.pending constants force)) location
          = value watched location :=
            value_write_of_not_mem watched untouched
        _ = previous.get index :=
            tracks.value_eq previous index location
              (tracks.held.symm.trans held) found
        _ = constants.get index := same

theorem Course.tracks
    {known : Option Constants} {linked : LinkedProgram}
    {watched : Watched device}
    (course : Course known linked watched) (separate : linked.Separate) :
    Tracks known linked watched := by
  induction course with
  | ready linked watched fresh => exact ⟨fresh, by simp⟩
  | upload constants force course ih =>
      exact (ih separate).upload separate constants force
  | invalidate course ih => exact ⟨rfl, by simp⟩
  | others after considerate course ih =>
      have before := ih separate
      refine ⟨before.held, ?_⟩
      intro previous index location passed found
      rcases considerate with unknown | kept
      · simp [unknown] at passed
      · exact (kept index location found).trans
          (before.value_eq previous index location passed found)

/--
Whatever has happened before, after an upload the device holds the array that
was passed, in every bit.  The count is that of the writes.  Each location is
written at most once, and those are written whose constant is not known to be
there already: all of them if the upload is forced or no array is known, and
otherwise exactly those whose bits differ from the array passed before.
-/
theorem upload_exact
    {known : Option Constants} {linked : LinkedProgram}
    {watched : Watched device}
    (course : Course known linked watched) (separate : linked.Separate)
    (constants : Constants) (force : Bool) :
    let (count, _, after) := linked.upload watched constants force
    (∀ index location, linked.place? index = some location →
      value after location = constants.get index) ∧
    ∃ writes : List (Location × Constant),
      after.journal =
        (writes.map fun entry => Call.upload entry.1 entry.2).reverse
          ++ watched.journal ∧
      count = writes.length ∧
      (writes.map Prod.fst).Nodup ∧
      ∀ location new, (location, new) ∈ writes ↔
        ∃ index, linked.place? index = some location ∧
          constants.get index = new ∧
          (force = true ∨ known = none ∨
            ∃ previous, known = some previous ∧
              previous.get index ≠ constants.get index) := by
  have tracks := course.tracks separate
  have uploaded := tracks.upload separate constants force
  refine ⟨fun index location => uploaded.value_eq constants index location rfl,
    linked.pending constants force, journal_write watched _, rfl,
    separate.nodup_pending constants force, ?_⟩
  intro location new
  rw [mem_pending_iff, tracks.held]
  cases force <;> cases known <;> simp

/-! ## A change of sign alone -/

/-- A program that has the first constant and the last one. -/
def firstAndLast : LinkedProgram where
  program := ⟨1⟩
  assembly := .triangles
  locations :=
    ⟨[(.constant ⟨0, by decide⟩, ⟨4⟩), (.constant ⟨191, by decide⟩, ⟨7⟩)]⟩
  held := none

theorem place?_firstAndLast
    {index : Fin Transform.constantCount} {location : Location} :
    firstAndLast.place? index = some location ↔
      index = ⟨0, by decide⟩ ∧ location = ⟨4⟩ ∨
        index = ⟨191, by decide⟩ ∧ location = ⟨7⟩ := by
  simp only [place?, firstAndLast, Locations.get?, List.lookup_cons,
    List.lookup_nil]
  grind

theorem separate_firstAndLast : firstAndLast.Separate := by
  intro first second location atFirst atSecond
  rw [place?_firstAndLast] at atFirst atSecond
  grind

/-- An array of zeros. -/
def zeros : Constants :=
  .replicate _ (.replicate 4 ⟨0⟩)

/-- An array of zeros, the first of which are negative. -/
def signed : Constants :=
  zeros.set 0 (.replicate 4 ⟨0x80000000⟩)

/--
Zeros are uploaded, others leave no number in their place once the program is
invalidated, and zeros are uploaded again.
-/
def restored : LinkedProgram × Watched SimulatedDevice :=
  let (linked, watched) :=
    (firstAndLast.upload (Watched.new { vendor := "" }) zeros false).2
  let overwritten :=
    Device.upload watched.host ⟨4⟩ (.replicate 4 ⟨0x7FC00001⟩)
  (linked.invalidate.upload (watched.proceed overwritten) zeros false).2

theorem course_restored : Course (some zeros) restored.1 restored.2 :=
  .upload zeros false
    (.others _ (.inl rfl)
      (.invalidate (.upload zeros false (.ready firstAndLast _ rfl))))

/-- The constant whose sign has changed is written, and the other one not. -/
theorem upload_exact_signed :
    let after := (restored.1.upload restored.2 signed false).2.2
    value after ⟨4⟩ = .replicate 4 ⟨0x80000000⟩ ∧
    value after ⟨7⟩ = .replicate 4 ⟨0⟩ ∧
    ∃ writes : List (Location × Constant),
      after.journal =
        (writes.map fun entry => Call.upload entry.1 entry.2).reverse
          ++ restored.2.journal ∧
      (⟨4⟩, .replicate 4 ⟨0x80000000⟩) ∈ writes ∧
      ∀ new, (⟨7⟩, new) ∉ writes := by
  obtain ⟨values, writes, journal, -, -, written⟩ :=
    upload_exact course_restored separate_firstAndLast signed false
  have first : restored.1.place? ⟨0, by decide⟩ = some ⟨4⟩ :=
    place?_firstAndLast.mpr (.inl ⟨rfl, rfl⟩)
  have last : restored.1.place? ⟨191, by decide⟩ = some ⟨7⟩ :=
    place?_firstAndLast.mpr (.inr ⟨rfl, rfl⟩)
  refine ⟨(values _ _ first).trans (by decide),
    (values _ _ last).trans (by decide), writes, journal,
    (written _ _).mpr
      ⟨_, first, by decide, .inr (.inr ⟨zeros, rfl, by decide⟩)⟩, ?_⟩
  intro new member
  obtain ⟨index, found, -, unforced | unknown | ⟨previous, known, changed⟩⟩ :=
    (written _ _).mp member
  · cases unforced
  · cases unknown
  · obtain rfl := separate_firstAndLast found last
    cases known
    exact absurd changed (by decide)

end ShaderSynth.LinkedProgram
