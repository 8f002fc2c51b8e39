import ShaderSynth.Proofs.Store.Entry

/-!
# Entries cannot be mistaken for each other

The parts of an entry that vary in length carry their lengths.  Bytes are
therefore cut into parts in one way only, wherever they come from: no entry is
the beginning of another one, and the stamp of an entry can be read off its
bytes.  The argument does not depend on the limits that a reader sets, so it
covers entries that are too long to be read as well.
-/

namespace ShaderSynth

theorem Utf8.encode_injective : Function.Injective Utf8.encode := by
  intro left right equal
  apply String.toByteArray_inj.mp
  apply ByteArray.ext
  exact Array.toList_inj.mp equal

namespace Store

/-! ## Entries as parts -/

/-- What an entry consists of, before it is known what the parts stand for. -/
abbrev Parts :=
  List UInt8 × List UInt8 × UInt32 × List UInt8 × List UInt8

/-- How many bytes a length of eight bytes can count. -/
def maxCount : Nat := 0xFFFFFFFFFFFFFFFF

/-- A part with its length, however long it is. -/
def unlimited (part : Part) : Format EntryError (List UInt8) :=
  .sized (.truncated part) maxCount (.overlong part)

/-- The parts of an entry, one behind the other. -/
def partsFormat : Format EntryError Parts :=
  (unlimited .version).pair
    ((unlimited .vendor).pair
    ((Format.uint32 (.truncated .format)).pair
    ((unlimited .state).pair
    (unlimited .payload))))

/-- The parts of an entry under a stamp. -/
def Entry.parts (stamp : Stamp) (entry : Entry) : Parts :=
  (Utf8.encode stamp.version, Utf8.encode stamp.vendor, entry.binary.format,
    entry.state.toBytes, entry.binary.bytes)

/-- The lengths of all parts can be counted. -/
def Parts.Countable (parts : Parts) : Prop :=
  parts.1.length ≤ maxCount ∧ parts.2.1.length ≤ maxCount ∧ True ∧
    parts.2.2.2.1.length ≤ maxCount ∧ parts.2.2.2.2.length ≤ maxCount

theorem unlimited_exact (part : Part) :
    (unlimited part).Exact fun bytes => bytes.length ≤ maxCount :=
  Format.sized_exact _ _ (by decide)

theorem partsFormat_exact : partsFormat.Exact Parts.Countable :=
  (unlimited_exact _).pair
    ((unlimited_exact _).pair
    ((Format.uint32_exact _).pair
    ((unlimited_exact _).pair
    (unlimited_exact _))))

theorem Entry.toBytes_eq_parts (stamp : Stamp) (entry : Entry) :
    entry.toBytes stamp = partsFormat.write (entry.parts stamp) :=
  rfl

/-- A stamp and an entry are known from their parts. -/
theorem Entry.eq_of_parts_eq
    {stamp other : Stamp} {entry found : Entry}
    (equal : entry.parts stamp = found.parts other) :
    stamp = other ∧ entry = found := by
  obtain ⟨version, vendor⟩ := stamp
  obtain ⟨otherVersion, otherVendor⟩ := other
  obtain ⟨state, format, payload⟩ := entry
  obtain ⟨foundState, foundFormat, foundPayload⟩ := found
  simp only [Entry.parts, Prod.mk.injEq] at equal
  obtain ⟨versions, vendors, rfl, states, rfl⟩ := equal
  obtain rfl := Utf8.encode_injective versions
  obtain rfl := Utf8.encode_injective vendors
  obtain rfl := Image.toBytes_injective states
  exact ⟨rfl, rfl⟩

/-! ## Lengths -/

theorem Entry.toBytes_length (stamp : Stamp) (entry : Entry) :
    (entry.toBytes stamp).length =
      36 + (Utf8.encode stamp.version).length +
        (Utf8.encode stamp.vendor).length + entry.state.toBytes.length +
        entry.binary.bytes.length := by
  rw [Entry.toBytes_eq_parts]
  simp only [partsFormat, unlimited, Entry.parts, Format.pair,
    List.length_append, Format.sized_length, Format.uint32_width _ _]
  omega

/-- Bytes that can be counted have parts that can be counted. -/
theorem Entry.countable_of_length
    {stamp : Stamp} {entry : Entry}
    (short : (entry.toBytes stamp).length ≤ maxCount) :
    (entry.parts stamp).Countable := by
  rw [Entry.toBytes_length] at short
  refine ⟨?_, ?_, trivial, ?_, ?_⟩
  all_goals
    simp only [Entry.parts]
    omega

/-- An entry that can be read is far from being too long to be counted. -/
theorem Entry.Fits.length_le
    {stamp : Stamp} {entry : Entry} (fits : entry.Fits stamp) :
    (entry.toBytes stamp).length ≤ maxCount := by
  have version := fits.stamp.version
  have vendor := fits.stamp.vendor
  have state := Image.toBytes_length fits.state
  have payload := fits.binary
  simp only [maxFieldLength] at version vendor payload
  rw [Entry.toBytes_length, maxCount]
  omega

/-! ## Reading what was written -/

theorem Entry.ofBytes_eq_ok_iff
    {stamp : Stamp} {bytes : List UInt8} {entry : Entry} :
    Entry.ofBytes stamp bytes = .ok entry ↔
      bytes = entry.toBytes stamp ∧ entry.Fits stamp :=
  (format_exact stamp).readAll_eq_ok_iff

/-- Two entries at the front of the same bytes are the same. -/
theorem Entry.eq_of_append_eq
    {stamp other : Stamp} {entry found : Entry} {rest foundRest : List UInt8}
    (short : (entry.toBytes stamp).length ≤ maxCount)
    (foundShort : (found.toBytes other).length ≤ maxCount)
    (equal :
      entry.toBytes stamp ++ rest = found.toBytes other ++ foundRest) :
    (stamp = other ∧ entry = found) ∧ rest = foundRest := by
  obtain ⟨parts, behind⟩ :=
    partsFormat_exact.eq_of_append_eq (Entry.countable_of_length short)
      (Entry.countable_of_length foundShort) equal
  exact ⟨Entry.eq_of_parts_eq parts, behind⟩

/-- What begins with an entry is read under its stamp only, and ends there. -/
theorem Entry.eq_of_ofBytes_append
    {stamp other : Stamp} {entry found : Entry} {rest : List UInt8}
    (read : Entry.ofBytes other (entry.toBytes stamp ++ rest) = .ok found) :
    stamp = other ∧ rest = [] := by
  obtain ⟨written, fits⟩ := Entry.ofBytes_eq_ok_iff.mp read
  have foundShort := fits.length_le
  have short : (entry.toBytes stamp).length ≤ maxCount := by
    rw [← written, List.length_append] at foundShort
    omega
  rw [← List.append_nil (found.toBytes other)] at written
  obtain ⟨⟨same, -⟩, behind⟩ :=
    Entry.eq_of_append_eq short foundShort written
  exact ⟨same, behind⟩

/-- What is read from the front of an entry is the whole of it. -/
theorem Entry.le_of_ofBytes_take
    {stamp other : Stamp} {entry found : Entry} {count : Nat}
    (short : (entry.toBytes stamp).length ≤ maxCount)
    (read :
      Entry.ofBytes other ((entry.toBytes stamp).take count) = .ok found) :
    (entry.toBytes stamp).length ≤ count := by
  obtain ⟨written, fits⟩ := Entry.ofBytes_eq_ok_iff.mp read
  have split :
      entry.toBytes stamp ++ [] =
        found.toBytes other ++ (entry.toBytes stamp).drop count := by
    rw [← written, List.take_append_drop, List.append_nil]
  obtain ⟨-, nothing⟩ :=
    Entry.eq_of_append_eq short fits.length_le split
  exact List.drop_eq_nil_iff.mp nothing.symm

/-- What is not read as anything is refused. -/
theorem Entry.refused_of_unread
    {stamp : Stamp} {bytes : List UInt8}
    (unread : ∀ entry, Entry.ofBytes stamp bytes ≠ .ok entry) :
    ∃ cause, Entry.ofBytes stamp bytes = .error cause := by
  cases read : Entry.ofBytes stamp bytes with
  | ok entry => exact absurd read (unread entry)
  | error cause => exact ⟨cause, rfl⟩

/--
The format of entries is exact, and safe from foreign stamps and from damage.
Bytes are read as an entry if and only if they are what is written for it
under the stamp, and no part is too long.  What was written under one stamp is
refused under every other one, and nothing is read if bytes are missing at the
end of an entry or more bytes follow.  (Lengths have eight bytes.  What is
longer than they can count is not written with its length, so that a beginning
of it may be read; there is no memory for such an entry.)
-/
theorem Entry.ofBytes_exact (stamp : Stamp) :
    (∀ (bytes : List UInt8) (entry : Entry),
      Entry.ofBytes stamp bytes = .ok entry ↔
        bytes = entry.toBytes stamp ∧
          (Utf8.encode stamp.version).length ≤ maxFieldLength ∧
          (Utf8.encode stamp.vendor).length ≤ maxFieldLength ∧
          entry.binary.bytes.length ≤ maxFieldLength ∧
          entry.state.vertex.program.Storable) ∧
    (∀ (entry : Entry) (other : Stamp),
      other ≠ stamp →
        ∃ cause,
          Entry.ofBytes other (entry.toBytes stamp) = .error cause) ∧
    (∀ (entry : Entry) (other : Stamp) (more : List UInt8),
      more ≠ [] →
        ∃ cause,
          Entry.ofBytes other (entry.toBytes stamp ++ more) =
            .error cause) ∧
    (∀ (entry : Entry) (other : Stamp) (count : Nat),
      (entry.toBytes stamp).length ≤ maxCount →
        count < (entry.toBytes stamp).length →
          ∃ cause,
            Entry.ofBytes other ((entry.toBytes stamp).take count) =
              .error cause) := by
  refine ⟨?_, ?_, ?_, ?_⟩
  · intro bytes entry
    rw [Entry.ofBytes_eq_ok_iff]
    constructor
    · rintro ⟨written, ⟨⟨version, vendor⟩, state, payload⟩⟩
      exact ⟨written, version, vendor, payload, state⟩
    · rintro ⟨written, version, vendor, payload, state⟩
      exact ⟨written, ⟨version, vendor⟩, state, payload⟩
  · intro entry other different
    apply Entry.refused_of_unread
    intro found read
    rw [← List.append_nil (entry.toBytes stamp)] at read
    exact different (Entry.eq_of_ofBytes_append read).1.symm
  · intro entry other more something
    apply Entry.refused_of_unread
    intro found read
    exact something (Entry.eq_of_ofBytes_append read).2
  · intro entry other count short cut
    apply Entry.refused_of_unread
    intro found read
    exact absurd (Entry.le_of_ofBytes_take short read) (by omega)

/-- Texts that are the same when one is put behind the other are told apart. -/
theorem Entry.ofBytes_exact_shifted :
    let stamp : Stamp := ⟨"1", "2ACME"⟩
    let other : Stamp := ⟨"12", "ACME"⟩
    let entry : Entry := ⟨default, ⟨1, [7]⟩⟩
    let bytes := entry.toBytes stamp
    Entry.ofBytes stamp bytes = .ok entry ∧
      other ≠ stamp ∧
      (∃ cause, Entry.ofBytes other bytes = .error cause) ∧
      (∃ cause, Entry.ofBytes stamp (bytes ++ [0]) = .error cause) ∧
      bytes.length - 1 < bytes.length ∧
      ∃ cause,
        Entry.ofBytes stamp (bytes.take (bytes.length - 1)) =
          .error cause := by
  intro stamp other entry bytes
  have fits : entry.Fits stamp :=
    ⟨⟨by decide, by decide⟩, trivial, by decide⟩
  have different : other ≠ stamp := by decide
  have cut : bytes.length - 1 < bytes.length := by
    have length : bytes.length = _ := Entry.toBytes_length stamp entry
    omega
  obtain ⟨exact, foreign, longer, shorter⟩ := Entry.ofBytes_exact stamp
  refine ⟨?_, different, ?_, ?_, cut, ?_⟩
  · exact (exact bytes entry).mpr
      ⟨rfl, fits.stamp.version, fits.stamp.vendor, fits.binary, fits.state⟩
  · exact foreign entry other different
  · exact longer entry stamp [0] (by simp)
  · exact shorter entry stamp _ fits.length_le cut

end Store

end ShaderSynth
