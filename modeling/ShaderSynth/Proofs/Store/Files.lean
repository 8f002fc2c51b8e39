import ShaderSynth.Proofs.FileTree
import ShaderSynth.Proofs.Hex
import ShaderSynth.Proofs.Store.Entry
import ShaderSynth.Store.Files

/-!
# Stored programs stay stored

An entry that was written can be loaded, and what could be loaded before can
be loaded still.  The same holds of the index.  Entries have files of their
own, since a digest can be read off the names of its file.
-/

namespace ShaderSynth.Store

open FileTree

/-! ## Names of files -/

theorem not_isPlain_of_dots {name : String} (dotted : ¬ IsPlain name) :
    '.' ∈ name.toList := by
  unfold IsPlain at dotted
  by_cases here : name = "."
  · rw [here]
    decide
  · by_cases up : name = ".."
    · rw [up]
      decide
    · exact absurd ⟨here, up⟩ dotted

theorem lower_isPlain (width number : Nat) :
    IsPlain (Hex.lower width number) := by
  by_contra dotted
  exact Hex.dot_not_mem_lower width number (not_isPlain_of_dots dotted)

theorem temporaryName_isPlain (name : String) : IsPlain (name ++ ".tmp") := by
  have member : 't' ∈ (name ++ ".tmp").toList := by simp
  constructor
  · intro same
    rw [same] at member
    simp at member
  · intro same
    rw [same] at member
    simp at member

theorem shaders_isPlain : IsPlain "shaders" := by
  constructor <;> decide

theorem entryNames_isPlain (digest : UInt64) :
    ∀ name ∈ entryNames digest, IsPlain name := by
  simp [entryNames, directoryNames, fileName, shaders_isPlain, lower_isPlain]

theorem temporaryNames_isPlain (digest : UInt64) :
    ∀ name ∈ temporaryNames digest, IsPlain name := by
  simp [temporaryNames, directoryNames, shaders_isPlain, lower_isPlain,
    temporaryName_isPlain]

theorem indexNames_isPlain : ∀ name ∈ indexNames, IsPlain name := by
  simp only [indexNames, List.mem_singleton, forall_eq]
  constructor <;> decide

theorem entryNames_injective : Function.Injective entryNames := by
  intro left right same
  simp only [entryNames, directoryNames, fileName, List.cons_append,
    List.nil_append, List.cons.injEq, true_and, and_true] at same
  have high := Hex.lower_injective 4 same.1
  have low := Hex.lower_injective 12 same.2
  refine UInt64.toNat_inj.mp ?_
  rw [← Nat.div_add_mod left.toNat lowRange, high, low,
    Nat.div_add_mod]

theorem entryNames_ne_temporaryNames (left right : UInt64) :
    entryNames left ≠ temporaryNames right := by
  intro same
  simp only [entryNames, temporaryNames, directoryNames, List.cons_append,
    List.nil_append, List.cons.injEq, true_and, and_true] at same
  have absent : '.' ∉ (fileName left).toList := Hex.dot_not_mem_lower _ _
  rw [same.2] at absent
  simp at absent

/-! ## Entries -/

/--
Writing an entry leaves it in its file.  Besides, it touches the temporary
file of the entry, and both are found below where the base path leads.
-/
theorem write_spec
    {base : String} {digest : UInt64} {stamp : Stamp} {entry : Entry}
    {tree after : FileTree}
    (done : write base digest stamp entry tree = (.ok (), after)) :
    ∃ home,
      after.follow (Path.ofText base) = .ok home ∧
        Changes [home ++ temporaryNames digest, home ++ entryNames digest]
          tree after ∧
        after.read (pathBelow base (entryNames digest)) =
          .ok (entry.toBytes stamp) := by
  unfold write at done
  dsimp only at done
  split at done
  · cases done
  · rename_i made directories
    have grown :=
      tree.makeDirectories_changes (pathBelow base (directoryNames digest))
    rw [directories] at grown
    split at done
    · cases done
    · rename_i written saved
      obtain ⟨temporary, reached, first, content⟩ := FileTree.write_spec saved
      split at done
      · rename_i moved renamed
        obtain ⟨-, rfl⟩ := Prod.mk.inj done
        obtain ⟨old, new, source, target, second, kept⟩ :=
          rename_spec content renamed
        obtain rfl : temporary = old := by
          rw [first.locate reached] at source
          exact Except.ok.inj source
        obtain ⟨home, base, rfl⟩ :=
          locate_append (temporaryNames_isPlain digest) reached
        obtain ⟨same, later, rfl⟩ :=
          locate_append (entryNames_isPlain digest) target
        have changes := first.trans second
        have led := changes.follow base
        obtain rfl : home = same := by
          rw [led] at later
          exact Except.ok.inj later
        exact ⟨home, led, (grown.trans changes).mono (by simp), kept⟩
      · cases done

theorem load_of_read
    {base : String} {digest : UInt64} {stamp : Stamp} {entry : Entry}
    {tree : FileTree} {bytes : List UInt8}
    (content : tree.read (pathBelow base (entryNames digest)) = .ok bytes)
    (parsed : Entry.ofBytes stamp bytes = .ok entry)
    (same : entry.state.digest = digest) :
    load base digest stamp tree = .ok entry := by
  unfold load
  rw [content]
  dsimp only
  rw [parsed]
  exact if_pos same

theorem digest_of_load
    {base : String} {digest : UInt64} {stamp : Stamp} {entry : Entry}
    {tree : FileTree}
    (loaded : load base digest stamp tree = .ok entry) :
    entry.state.digest = digest := by
  unfold load at loaded
  split at loaded
  · cases loaded
  · split at loaded
    · cases loaded
    · split at loaded
      · rename_i same
        rw [← Except.ok.inj loaded]
        exact same
      · cases loaded

/-- An entry that was written can be loaded. -/
theorem load_of_write
    {base : String} {digest : UInt64} {stamp : Stamp} {entry : Entry}
    {tree after : FileTree}
    (fits : entry.Fits stamp) (same : entry.state.digest = digest)
    (done : write base digest stamp entry tree = (.ok (), after)) :
    load base digest stamp after = .ok entry := by
  obtain ⟨home, -, -, content⟩ := write_spec done
  exact load_of_read content (Entry.ofBytes_toBytes fits) same

/-- Where a file below the base is, once it is known where the base leads. -/
theorem locate_pathBelow
    {base : String} {names : List String} {touched : List Place}
    {before after : FileTree} {home place : Place}
    (plain : ∀ name ∈ names, IsPlain name)
    (changes : Changes touched before after)
    (led : after.follow (Path.ofText base) = .ok home)
    (found : before.locate (pathBelow base names) = .ok place) :
    place = home ++ names := by
  obtain ⟨earlier, base, rfl⟩ := locate_append plain found
  have later := changes.follow base
  rw [led] at later
  rw [Except.ok.inj later]

/-- What the file of an entry holds does not depend on other files. -/
theorem read_of_changes
    {base : String} {digest : UInt64} {bytes : List UInt8}
    {touched : List Place} {tree after : FileTree} {home : Place}
    (led : after.follow (Path.ofText base) = .ok home)
    (changes : Changes touched tree after)
    (untouched : home ++ entryNames digest ∉ touched)
    (content : tree.read (pathBelow base (entryNames digest)) = .ok bytes) :
    after.read (pathBelow base (entryNames digest)) = .ok bytes := by
  refine changes.read ?_ content
  intro place found
  rw [locate_pathBelow (entryNames_isPlain digest) changes led found]
  exact untouched

/-- What can be loaded depends on the file of the entry only. -/
theorem load_mono
    {base : String} {digest : UInt64} {stamp : Stamp} {entry : Entry}
    {tree after : FileTree}
    (kept :
      ∀ {bytes}, tree.read (pathBelow base (entryNames digest)) = .ok bytes →
        after.read (pathBelow base (entryNames digest)) = .ok bytes)
    (loaded : load base digest stamp tree = .ok entry) :
    load base digest stamp after = .ok entry := by
  unfold load at loaded ⊢
  split at loaded
  · cases loaded
  · rename_i bytes content
    rw [kept content]
    exact loaded

/-- The files of other entries stay when one is written. -/
theorem read_of_write_of_ne
    {base : String} {digest other : UInt64} {stamp : Stamp}
    {entry : Entry} {bytes : List UInt8} {tree after : FileTree}
    (different : other ≠ digest)
    (done : write base digest stamp entry tree = (.ok (), after))
    (content : tree.read (pathBelow base (entryNames other)) = .ok bytes) :
    after.read (pathBelow base (entryNames other)) = .ok bytes := by
  obtain ⟨home, led, changes, -⟩ := write_spec done
  refine read_of_changes led changes ?_ content
  intro member
  rcases List.mem_cons.mp member with temporary | member
  · exact entryNames_ne_temporaryNames other digest
      (List.append_cancel_left temporary)
  · have same := List.append_cancel_left (List.mem_singleton.mp member)
    exact different (entryNames_injective same)

/-- Entries of other configurations stay when one is written. -/
theorem load_of_write_of_ne
    {base : String} {digest other : UInt64} {stamp : Stamp}
    {entry found : Entry} {tree after : FileTree}
    (different : other ≠ digest)
    (done : write base digest stamp entry tree = (.ok (), after))
    (loaded : load base other stamp tree = .ok found) :
    load base other stamp after = .ok found :=
  load_mono (read_of_write_of_ne different done) loaded

/-- The files of other entries stay when one is removed. -/
theorem read_of_remove_of_ne
    {base : String} {digest other : UInt64} {bytes : List UInt8}
    {tree after : FileTree}
    (different : other ≠ digest)
    (done : remove base digest tree = .ok after)
    (content : tree.read (pathBelow base (entryNames other)) = .ok bytes) :
    after.read (pathBelow base (entryNames other)) = .ok bytes := by
  unfold remove at done
  split at done
  · cases done
    exact content
  · obtain ⟨place, found, changes⟩ := remove_spec done
    obtain ⟨home, led, rfl⟩ := locate_append (entryNames_isPlain digest) found
    refine read_of_changes (changes.follow led) changes ?_ content
    intro member
    have same := List.append_cancel_left (List.mem_singleton.mp member)
    exact different (entryNames_injective same)

/-! ## The index -/

theorem digestsOfBytes_append (digests : List UInt64) (rest : List UInt8) :
    digestsOfBytes (digests.flatMap Format.wordBytes ++ rest) =
      digests ++ digestsOfBytes rest := by
  induction digests with
  | nil => rfl
  | cons digest others ih =>
      simp only [List.flatMap_cons, Format.wordBytes, List.cons_append,
        List.nil_append, digestsOfBytes, Format.wordOfBytes_wordBytes]
      exact congrArg _ ih

theorem digestsOfBytes_flatMap (digests : List UInt64) :
    digestsOfBytes (digests.flatMap Format.wordBytes) = digests := by
  simpa [digestsOfBytes] using digestsOfBytes_append digests []

/-- Writing the index touches its file only. -/
theorem writeIndex_spec
    {base : String} {digests : List UInt64} {tree after : FileTree}
    (done : writeIndex base digests tree = (.ok (), after)) :
    ∃ home,
      after.follow (Path.ofText base) = .ok home ∧
        Changes [home ++ indexNames] tree after ∧
        readIndex base after = .ok digests := by
  unfold writeIndex at done
  split at done
  · cases done
  · rename_i made directories
    have grown := tree.makeDirectories_changes (Path.ofText base)
    rw [directories] at grown
    dsimp only at done
    split at done
    · cases done
    · rename_i written saved
      obtain ⟨-, rfl⟩ := Prod.mk.inj done
      obtain ⟨place, reached, changes, content⟩ := FileTree.write_spec saved
      obtain ⟨home, base, rfl⟩ := locate_append indexNames_isPlain reached
      refine ⟨home, changes.follow base, grown.trans changes, ?_⟩
      unfold readIndex
      rw [content]
      exact congrArg _ (digestsOfBytes_flatMap digests)

/-- The files of entries stay when the index is written. -/
theorem read_of_writeIndex
    {base : String} {digest : UInt64} {digests : List UInt64}
    {bytes : List UInt8} {tree after : FileTree}
    (done : writeIndex base digests tree = (.ok (), after))
    (content : tree.read (pathBelow base (entryNames digest)) = .ok bytes) :
    after.read (pathBelow base (entryNames digest)) = .ok bytes := by
  obtain ⟨home, led, changes, -⟩ := writeIndex_spec done
  refine read_of_changes led changes ?_ content
  intro member
  have same := List.append_cancel_left (List.mem_singleton.mp member)
  have length := congrArg List.length same
  simp [entryNames, directoryNames, indexNames] at length

/-- Entries stay when the index is written. -/
theorem load_of_writeIndex
    {base : String} {digest : UInt64} {digests : List UInt64}
    {stamp : Stamp} {entry : Entry} {tree after : FileTree}
    (done : writeIndex base digests tree = (.ok (), after))
    (loaded : load base digest stamp tree = .ok entry) :
    load base digest stamp after = .ok entry :=
  load_mono (read_of_writeIndex done) loaded

/-! ## Loading what the index lists -/

/-- Entries that can all be loaded are all made ready, in their order. -/
theorem foldl_add
    {base : String} {stamp : Stamp} {tree : FileTree} {rejects : Nat}
    {entries : List (UInt64 × Entry)} (staged : List (UInt64 × Entry))
    (distinct : ((staged ++ entries).map Prod.fst).Nodup)
    (loaded :
      ∀ item ∈ entries, load base item.1 stamp tree = .ok item.2) :
    (entries.map Prod.fst).foldl (Staging.add base stamp)
        ⟨staged, rejects, tree⟩ =
      ⟨staged ++ entries, rejects, tree⟩ := by
  induction entries generalizing staged with
  | nil => simp
  | cons item rest ih =>
      have missing : staged.lookup item.1 = none := by
        rw [List.lookup_eq_none_iff]
        intro earlier member
        rw [List.map_append, List.nodup_append] at distinct
        have different :=
          distinct.2.2 earlier.1 (List.mem_map_of_mem member) item.1 (by simp)
        rw [bne_iff_ne]
        exact different.symm
      have added :
          Staging.add base stamp ⟨staged, rejects, tree⟩ item.1 =
            ⟨staged ++ [item], rejects, tree⟩ := by
        have found := loaded item (by simp)
        simp [Staging.add, missing, found]
      rw [List.map_cons, List.foldl_cons, added, ih (staged ++ [item])]
      · simp
      · simpa using distinct
      · exact fun other member => loaded other (by simp [member])

/-- An index of distinct entries that can all be loaded is loaded whole. -/
theorem preload_spec
    {base : String} {stamp : Stamp} {tree : FileTree}
    {entries : List (UInt64 × Entry)}
    (listed : readIndex base tree = .ok (entries.map Prod.fst))
    (distinct : (entries.map Prod.fst).Nodup)
    (loaded :
      ∀ item ∈ entries, load base item.1 stamp tree = .ok item.2) :
    preload base stamp tree = ⟨entries, 0, tree⟩ := by
  unfold preload
  rw [listed]
  exact foldl_add [] distinct loaded

/-- Entries made ready have digests of their own, those of configurations. -/
structure Staging.Keyed (staging : Staging) : Prop where
  filed : ∀ item ∈ staging.staged, item.2.state.digest = item.1
  distinct : (staging.staged.map Prod.fst).Nodup

namespace Staging

variable {base : String} {stamp : Stamp} {staging : Staging}
  {digest : UInt64} {entry : Entry}

theorem Keyed.add (keyed : staging.Keyed) (digest : UInt64) :
    (staging.add base stamp digest).Keyed := by
  unfold Staging.add
  split
  · exact keyed
  · rename_i missing
    split
    · rename_i entry loaded
      constructor
      · intro item member
        rcases List.mem_append.mp member with earlier | last
        · exact keyed.filed item earlier
        · rw [List.mem_singleton.mp last]
          exact digest_of_load loaded
      · rw [List.map_append, List.nodup_append]
        refine ⟨keyed.distinct, by simp, ?_⟩
        intro first member second last same
        obtain rfl : second = digest := List.mem_singleton.mp last
        obtain ⟨item, earlier, rfl⟩ := List.mem_map.mp member
        have absent :=
          List.lookup_eq_none_iff.mp (Option.not_isSome_iff_eq_none.mp missing)
            item earlier
        simp [same] at absent
    · exact ⟨keyed.filed, keyed.distinct⟩

theorem load_add
    (loaded : load base digest stamp staging.tree = .ok entry)
    (other : UInt64) :
    load base digest stamp (staging.add base stamp other).tree =
      .ok entry := by
  unfold Staging.add
  split
  · exact loaded
  · split
    · exact loaded
    · rename_i failed
      have different : digest ≠ other := by
        rintro rfl
        rw [loaded] at failed
        cases failed
      dsimp only
      split
      · rename_i after removed
        exact load_mono (read_of_remove_of_ne different removed) loaded
      · exact loaded

/-- An entry that is ready stays ready. -/
theorem lookup_add
    (ready : staging.staged.lookup digest = some entry) (other : UInt64) :
    (staging.add base stamp other).staged.lookup digest = some entry := by
  unfold Staging.add
  split
  · exact ready
  · split
    · rw [List.lookup_append, ready]
      rfl
    · exact ready

theorem lookup_add_self
    (loaded : load base digest stamp staging.tree = .ok entry)
    (missing : staging.staged.lookup digest = none) :
    (staging.add base stamp digest).staged.lookup digest = some entry := by
  simp [Staging.add, missing, loaded, List.lookup_append]

theorem lookup_add_of_ne {other : UInt64} (different : digest ≠ other)
    (missing : staging.staged.lookup digest = none) :
    (staging.add base stamp other).staged.lookup digest = none := by
  unfold Staging.add
  split
  · exact missing
  · split
    · rw [List.lookup_append, missing, List.lookup_cons,
        beq_false_of_ne different]
      rfl
    · exact missing

theorem Keyed.foldl (keyed : staging.Keyed) (digests : List UInt64) :
    (digests.foldl (Staging.add base stamp) staging).Keyed := by
  induction digests generalizing staging with
  | nil => exact keyed
  | cons digest rest ih => exact ih (keyed.add digest)

theorem lookup_foldl_of_some
    (ready : staging.staged.lookup digest = some entry)
    (digests : List UInt64) :
    (digests.foldl (Staging.add base stamp) staging).staged.lookup digest =
      some entry := by
  induction digests generalizing staging with
  | nil => exact ready
  | cons other rest ih => exact ih (lookup_add ready other)

theorem lookup_foldl_of_not_mem {digests : List UInt64}
    (missing : staging.staged.lookup digest = none)
    (unlisted : digest ∉ digests) :
    (digests.foldl (Staging.add base stamp) staging).staged.lookup digest =
      none := by
  induction digests generalizing staging with
  | nil => exact missing
  | cons other rest ih =>
      obtain ⟨different, unlisted⟩ := not_or.mp (mt List.mem_cons.mpr unlisted)
      exact ih (lookup_add_of_ne different missing) unlisted

theorem lookup_foldl_of_mem {digests : List UInt64}
    (loaded : load base digest stamp staging.tree = .ok entry)
    (missing : staging.staged.lookup digest = none)
    (listed : digest ∈ digests) :
    (digests.foldl (Staging.add base stamp) staging).staged.lookup digest =
      some entry := by
  induction digests generalizing staging with
  | nil => cases listed
  | cons other rest ih =>
      by_cases same : digest = other
      · subst same
        exact lookup_foldl_of_some (lookup_add_self loaded missing) rest
      · exact ih (load_add loaded other) (lookup_add_of_ne same missing)
          ((List.mem_cons.mp listed).resolve_left same)

end Staging

theorem keyed_preload (base : String) (stamp : Stamp) (tree : FileTree) :
    (preload base stamp tree).Keyed := by
  have empty : Staging.Keyed ⟨[], 0, tree⟩ := ⟨by simp, List.nodup_nil⟩
  unfold preload
  split
  · exact empty
  · exact empty.foldl _

/-- An entry that can be loaded is ready if the index lists it. -/
theorem lookup_preload_of_mem
    {base : String} {stamp : Stamp} {tree : FileTree} {digest : UInt64}
    {entry : Entry} {digests : List UInt64}
    (read : readIndex base tree = .ok digests)
    (listed : digest ∈ digests)
    (loaded : load base digest stamp tree = .ok entry) :
    (preload base stamp tree).staged.lookup digest = some entry := by
  unfold preload
  rw [read]
  exact Staging.lookup_foldl_of_mem loaded rfl listed

/-- Nothing is ready that the index does not list. -/
theorem lookup_preload_of_not_mem
    {base : String} {tree : FileTree} {digest : UInt64}
    {digests : List UInt64} (stamp : Stamp)
    (read : readIndex base tree = .ok digests)
    (unlisted : digest ∉ digests) :
    (preload base stamp tree).staged.lookup digest = none := by
  unfold preload
  rw [read]
  exact Staging.lookup_foldl_of_not_mem rfl unlisted

end ShaderSynth.Store
